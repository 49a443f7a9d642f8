/-!
# Faults

What goes wrong when the job service is talked to.
-/

namespace LiveJobs

/-- Why talking to the job service failed. -/
inductive Fault where
  /-- The service could not be reached, or the connection broke. -/
  | network (detail : String)
  /-- The service answered with a status that is no success. -/
  | api (status : Nat) (message : String)
  /-- The answer is not of the wanted form. -/
  | parse (detail : String)
  /-- The client is not set up properly. -/
  | config (detail : String)
  deriving DecidableEq, Repr

namespace Fault

def message : Fault → String
  | .network detail => "network error: " ++ detail
  | .api status message => "API error (" ++ toString status ++ "): " ++ message
  | .parse detail => "parse error: " ++ detail
  | .config detail => "configuration error: " ++ detail

/-- The status of an answer that is no success. -/
def status? : Fault → Option Nat
  | .api status _ => some status
  | _ => none

/-- Whether a status stands for a failure that may pass: a server error, but not the one by which
the service says that it is unavailable. -/
def isPassingStatus (status : Nat) : Bool :=
  500 ≤ status && status ≤ 599 && status != 503

/-- Whether asking again may help. -/
def isRetryable : Fault → Bool
  | .network _ => true
  | .api status _ => isPassingStatus status
  | .parse _ => false
  | .config _ => false

end Fault

end LiveJobs
