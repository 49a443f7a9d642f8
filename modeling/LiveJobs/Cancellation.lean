import LiveJobs.Fault
import LiveJobs.Store.Basic

/-!
# Cancellation

A request to cancel a job only asks the worker to stop. The store is never touched: the end of the
job is heard of later, like any other change. For each job there is at most one request under way.
-/

namespace LiveJobs

open LiveJobs.Time

/-- Why a cancellation was not asked for, or not accepted. -/
inductive CancelError where
  | unknownJob (job : JobId)
  /-- The job has ended. -/
  | notCancellable (job : JobId) (status : Status)
  /-- Another request for the job is under way. -/
  | alreadyRequested (job : JobId)
  | request (fault : Fault)
  deriving DecidableEq, Repr

def CancelError.message : CancelError → String
  | .unknownJob job => "job " ++ job.text ++ " is not known"
  | .notCancellable job status =>
      "job " ++ job.text ++ " is " ++ status.name ++ " and can no longer be cancelled"
  | .alreadyRequested job =>
      "a cancellation request for job " ++ job.text ++ " is already in flight"
  | .request fault => "cancellation request failed: " ++ fault.message

/-- A cancellation that the service has accepted. -/
structure CancelAccepted where
  job : JobId
  /-- The stored status when the request was sent. -/
  status : Status
  requestedAt : Instant
  deriving DecidableEq, Repr

/-- A request that is under way. -/
structure CancelRequest where
  job : JobId
  /-- The stored status when the request was sent. -/
  status : Status
  deriving DecidableEq, Repr

/-- The jobs for which a request is under way. -/
structure Cancellations where
  inFlight : List JobId
  deriving DecidableEq, Repr

namespace Cancellations

/-- No request is under way. -/
def none : Cancellations := ⟨[]⟩

/-- Whether a request for a job is under way. -/
def isInFlight (cancellations : Cancellations) (job : JobId) : Bool :=
  cancellations.inFlight.contains job

/-- Whether a cancellation may be offered for a job. -/
def isCancellable (cancellations : Cancellations) (store : Store) (job : JobId) : Bool :=
  (store.job? job).any Job.isActive && !cancellations.isInFlight job

/-- Starts a request for a job that is stored, has not ended, and has no request under way. -/
def begin (cancellations : Cancellations) (store : Store) (job : JobId) :
    Except CancelError (Cancellations × CancelRequest) :=
  match store.job? job with
  | Option.none => .error (.unknownJob job)
  | some stored =>
      if stored.isTerminal then .error (.notCancellable job stored.status)
      else if cancellations.isInFlight job then .error (.alreadyRequested job)
      else .ok (⟨job :: cancellations.inFlight⟩, ⟨job, stored.status⟩)

/-- Ends a request, whether it was answered or given up. -/
def release (cancellations : Cancellations) (job : JobId) : Cancellations :=
  ⟨cancellations.inFlight.erase job⟩

end Cancellations

/-- What an answer to a request comes to. -/
def CancelRequest.conclude (request : CancelRequest) (wall : Instant) (answer : Except Fault Unit) :
    Except CancelError CancelAccepted :=
  match answer with
  | .ok _ => .ok ⟨request.job, request.status, wall⟩
  | .error fault => .error (.request fault)

end LiveJobs
