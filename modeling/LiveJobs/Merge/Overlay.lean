import LiveJobs.Merge.Entry

/-!
# The overlay

How a report is laid over a job that has not ended. A status is taken whenever it is a step
forward, whatever the sequence: a later stage of the lifecycle is never stale. Every other field is
taken if nothing fresher has written it, and a field that the report does not mention stays. The
time of completion is kept only for jobs that have ended, and a failure only for failed ones.
-/

namespace LiveJobs

open LiveJobs.Time

/-- A job while a report is laid over it. -/
structure Overlay where
  job : Job
  stamps : Stamps
  /-- The fields that got another value, in the order of writing. -/
  changed : List Field

namespace Overlay

/-- The start of an overlay: nothing is written yet. -/
def start (entry : Entry) : Overlay := ⟨entry.job, entry.stamps, []⟩

/-- Writes a field whatever its stamp, and counts it as changed. -/
def force (overlay : Overlay) (sequence : Sequence) (field : Field) (value : field.Value) :
    Overlay where
  job := overlay.job.withValue field value
  stamps := overlay.stamps.raise field sequence
  changed := overlay.changed ++ [field]

/-- Writes a field unless something fresher has written it. Its stamp rises even when the value
stays the same. -/
def write (overlay : Overlay) (sequence : Sequence) (field : Field) (value : field.Value) :
    Overlay :=
  if overlay.stamps.accepts field sequence then
    if field.sameValue (overlay.job.value field) value then
      { overlay with stamps := overlay.stamps.raise field sequence }
    else overlay.force sequence field value
  else overlay

/-- Writes a field that may not have been reported. -/
def writeReported (overlay : Overlay) (sequence : Sequence) (field : Field) :
    Option field.Value → Overlay
  | none => overlay
  | some value => overlay.write sequence field value

/-- Takes a status that is a step forward. -/
def advance (overlay : Overlay) (sequence : Sequence) : Option Status → Overlay
  | none => overlay
  | some status =>
      if overlay.job.status.advancesTo status then overlay.force sequence .status status
      else overlay

/-- Gives a job that has ended a time of completion if it has none. -/
def complete (overlay : Overlay) (sequence : Sequence) (observedAt : Instant) : Overlay :=
  if overlay.job.timestamps.completed.isNone then
    overlay.force sequence .completed (some observedAt)
  else overlay

end Overlay

/-- The resource that a patch reports for a job. One that is named without its category gets the
category of the job's resource, and is dropped if that has none. -/
def Patch.resourceFor? (patch : Patch) (job : Job) : Option Resource :=
  match patch.resource, patch.resourceName with
  | some resource, _ => some resource
  | none, some name =>
      if job.resource.kind = .none then none else some (.ofKind job.resource.kind name)
  | none, none => none

/-- The value that a patch reports for a field of a job. -/
def Patch.valueFor? (patch : Patch) (job : Job) : (field : Field) → Option field.Value
  | .jobType => patch.jobType
  | .status => patch.status
  | .resource => patch.resourceFor? job
  | .current => patch.progress.current.map some
  | .total => patch.progress.total.map some
  | .percentage => patch.progress.percentage.map some
  | .message => patch.progress.message.map some
  | .currentStep => patch.progress.currentStep.map some
  | .created => patch.created
  | .started => patch.started.map some
  | .completed => patch.completed.map some
  | .error => patch.error.map some
  | .result => patch.result.map some

/-- The fields that are written before the end of the job is looked at, in the order of writing. -/
def Field.progressive : List Field :=
  [.jobType, .resource, .current, .total, .percentage, .message, .currentStep, .created, .started]

namespace Overlay

/-- Writes what a patch reports for one field. -/
def take (patch : Patch) (job : Job) (sequence : Sequence) (overlay : Overlay) (field : Field) :
    Overlay :=
  overlay.writeReported sequence field (patch.valueFor? job field)

/-- Writes what belongs to the end of a job: its completion, and for a failed job its failure. -/
def takeEnd (patch : Patch) (job : Job) (sequence : Sequence) (overlay : Overlay) : Overlay :=
  if overlay.job.isTerminal then
    let completed := (overlay.take patch job sequence .completed).complete sequence patch.observedAt
    if overlay.job.status = .failed then completed.take patch job sequence .error else completed
  else overlay

/-- Lays a patch over an entry. -/
def ofPatch (patch : Patch) (sequence : Sequence) (entry : Entry) : Overlay :=
  let advanced := (start entry).advance sequence patch.status
  let progressed := Field.progressive.foldl (take patch entry.job sequence) advanced
  (progressed.takeEnd patch entry.job sequence).take patch entry.job sequence .result

end Overlay

namespace Report

/-- The entry of a job that is first heard of through a report, before the report is laid over
it. -/
def seed (report : Report) : Entry where
  job := .fresh report.patch.id .unknown .none (report.patch.created.getD report.patch.observedAt)
  stamps := .zero
  lastOrigin := report.origin
  lastSequence := report.sequence

/-- Merges a report into the entry of its job. The replacement is missing if nothing at all is
written, neither a value nor a stamp. -/
def mergeInto (report : Report) : Option Entry → Option Entry × Outcome
  | none =>
      let overlay := Overlay.ofPatch report.patch report.sequence report.seed
      (some { report.seed with job := overlay.job, stamps := overlay.stamps }, .created)
  | some entry =>
      if entry.job.isTerminal then (none, .rejected entry.job.status)
      else
        let overlay := Overlay.ofPatch report.patch report.sequence entry
        let outcome := if overlay.changed.isEmpty then .unchanged else .updated overlay.changed
        if overlay.changed.isEmpty ∧ overlay.stamps = entry.stamps then (none, outcome)
        else
          (some
            { job := overlay.job
              stamps := overlay.stamps
              lastOrigin := report.origin
              lastSequence := max entry.lastSequence report.sequence }, outcome)

/-- The entry after a report. -/
def entryAfter (report : Report) (existing : Option Entry) : Option Entry :=
  (report.mergeInto existing).1.or existing

end Report

end LiveJobs
