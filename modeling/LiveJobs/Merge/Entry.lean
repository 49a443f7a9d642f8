import LiveJobs.Job.Patch
import LiveJobs.Merge.Stamps

/-!
# Entries and reports

An entry is a stored job with the stamps of its fields. A report is a patch together with its
source and the sequence under which it counts. Merging a report into an entry has one of four
outcomes.
-/

namespace LiveJobs

/-- A patch as it is handed to the merge. -/
structure Report where
  patch : Patch
  origin : Origin
  sequence : Sequence
  deriving BEq, Repr

/-- A stored job with what the merge has to know about its past. -/
structure Entry where
  job : Job
  stamps : Stamps
  /-- The source of the last report that wrote anything. -/
  lastOrigin : Origin
  /-- The highest sequence that wrote anything. -/
  lastSequence : Sequence
  deriving Repr

/-- What became of a report. -/
inductive Outcome where
  /-- The job was not known before. -/
  | created
  /-- These fields have another value now. -/
  | updated (fields : List Field)
  /-- The report said nothing new. -/
  | unchanged
  /-- The stored job had ended with this status. -/
  | rejected (status : Status)
  deriving DecidableEq, Repr

/-- Whether the outcome shows in the stored job. -/
def Outcome.changed : Outcome → Bool
  | .created => true
  | .updated _ => true
  | .unchanged => false
  | .rejected _ => false

end LiveJobs
