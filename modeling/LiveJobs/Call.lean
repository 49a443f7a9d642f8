import LiveJobs.Fault
import LiveJobs.Job.Page

/-!
# Calls

What a client asks of the job service.
-/

namespace LiveJobs

/-- A request to the job service. -/
inductive Call where
  /-- One page of the job list. -/
  | list (query : Query)
  /-- One job. -/
  | get (job : JobId)
  /-- The cancellation of a job, with the reason for it. -/
  | cancel (job : JobId) (reason : Option String)
  deriving DecidableEq, Repr

end LiveJobs
