import LiveJobs.Ident

/-!
# The states of a push connection

A connection is closed, being opened, open, or waiting to be opened again after a failure. Only
some transitions lead from each state; closing is always possible.
-/

namespace LiveJobs

/-- The state of a push connection. -/
inductive ConnectionState where
  | closed
  | connecting
  | opened
  /-- It failed, and is opened again after a while. -/
  | backoff
  deriving DecidableEq, Repr, Inhabited

def ConnectionState.name : ConnectionState → String
  | .closed => "Closed"
  | .connecting => "Connecting"
  | .opened => "Open"
  | .backoff => "Backoff"

/-- What happens to a connection. -/
inductive Transition where
  | connect
  | opened
  | failed
  | retry
  | close
  deriving DecidableEq, Repr, Inhabited

def Transition.name : Transition → String
  | .connect => "Connect"
  | .opened => "Opened"
  | .failed => "Failed"
  | .retry => "Retry"
  | .close => "Close"

/-- A transition that does not lead from a state. -/
structure InvalidTransition where
  start : ConnectionState
  transition : Transition
  deriving DecidableEq, Repr

def InvalidTransition.message (error : InvalidTransition) : String :=
  "invalid stream transition " ++ error.transition.name ++ " from " ++ error.start.name

/-- The state that a transition leads to. -/
def ConnectionState.apply (state : ConnectionState) (transition : Transition) :
    Except InvalidTransition ConnectionState :=
  match state, transition with
  | .closed, .connect => .ok .connecting
  | .connecting, .opened => .ok .opened
  | .connecting, .failed => .ok .backoff
  | .opened, .failed => .ok .backoff
  | .backoff, .retry => .ok .connecting
  | _, .close => .ok .closed
  | _, _ => .error ⟨state, transition⟩

/-- What is known of a connection from outside. -/
structure ConnectionStatus where
  state : ConnectionState
  /-- The failures since the connection was last open. -/
  attempts : Nat
  /-- The last event that was processed. -/
  token : Option EventId
  deriving DecidableEq, Repr

end LiveJobs
