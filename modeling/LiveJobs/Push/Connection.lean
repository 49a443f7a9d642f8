import LiveJobs.Event.Wire
import LiveJobs.Push.State
import LiveJobs.Retry

/-!
# Push connections

A connection to a push channel that is opened again whenever it fails, and resumes after the last
event that was processed. An event counts as processed once it has been handed on; a frame whose
payload cannot be decoded does not. The server may ask for another delay before a reconnect.
-/

namespace LiveJobs

/-- What a connection is doing. Times are in milliseconds. -/
inductive ConnectionPhase where
  /-- It has not had its first turn. -/
  | starting
  /-- It waits to be let in. -/
  | knocking
  /-- It takes frames. -/
  | taking
  /-- It is opened again at a given time. -/
  | resting (dueAt : Nat)
  | finished
  deriving DecidableEq, Repr

/-- A push connection. -/
structure Connection where
  channel : Channel
  policy : RetryPolicy
  phase : ConnectionPhase
  state : ConnectionState
  attempts : Nat
  token : Option EventId
  /-- What was last made known of the connection. -/
  published : ConnectionStatus
  /-- The transitions that were refused, the last one first. -/
  refused : List InvalidTransition

/-- What a connection hears of the channel. -/
inductive Signal where
  /-- It was let in. -/
  | opened
  /-- It was not let in. -/
  | turnedAway
  | frame (frame : Frame)
  /-- It broke, or the server ended it. -/
  | broken
  deriving DecidableEq, Repr

namespace Connection

/-- A connection that is about to be opened, to resume after an event. -/
def start (channel : Channel) (policy : RetryPolicy) (token : Option EventId) : Connection where
  channel := channel
  policy := policy
  phase := .starting
  state := .closed
  attempts := 0
  token := token
  published := ⟨.closed, 0, token⟩
  refused := []

/-- Makes the present state known. -/
def publish (connection : Connection) : Connection :=
  { connection with published := ⟨connection.state, connection.attempts, connection.token⟩ }

/-- Makes a transition and publishes the new state. One that does not lead from the present state
is refused and changes nothing. -/
def move (connection : Connection) (transition : Transition) : Connection :=
  match connection.state.apply transition with
  | .ok state => { connection with state := state }.publish
  | .error error => { connection with refused := error :: connection.refused }

/-- The transition by which the connection is opened. -/
def opening (connection : Connection) : Transition :=
  if connection.state = .backoff then .retry else .connect

/-- Asks to be let in. -/
def knock (connection : Connection) : Connection :=
  { connection.move connection.opening with phase := .knocking }

/-- Ends for good. -/
def finish (connection : Connection) : Connection :=
  { connection.move .close with phase := .finished }

/-- Counts a failure, and either waits for the next attempt or gives up. -/
def fail (connection : Connection) (now : Nat) : Connection :=
  let attempts := min (connection.attempts + 1) RetryPolicy.unbounded
  let failed := { connection with attempts := attempts }.move .failed
  if failed.policy.allows (attempts - 1) then
    { failed with phase := .resting (now + failed.policy.delayFor attempts) }
  else failed.finish

/-- Takes up the delay that the server asks for. -/
def heed (connection : Connection) (frame : Frame) : Connection :=
  match frame.retry with
  | none => connection
  | some delay =>
      if delay = connection.policy.baseDelay then connection
      else { connection with policy := connection.policy.withBaseDelay delay }

/-- Moves the token to a frame that was processed. A frame without an identifier keeps it. -/
def resumeAfter (connection : Connection) (frame : Frame) : Connection :=
  match frame.token? with
  | none => connection
  | some id => { connection with token := some ⟨id⟩ }.publish

/-- Takes a frame, and gives the event in it. -/
def takeFrame (connection : Connection) (frame : Frame) : Connection × Option Event :=
  let heeding := connection.heed frame
  match frame.decode with
  | .ok event => (heeding.resumeAfter frame, event)
  | .error _ => (heeding, none)

/-- Takes up what is heard of the channel, and gives the event in it. What does not fit what the
connection is doing is dropped. -/
def hear (connection : Connection) (now : Nat) (signal : Signal) : Connection × Option Event :=
  match connection.phase, signal with
  | .knocking, .opened =>
      ({ ({ connection with attempts := 0 }.move .opened) with phase := .taking }, none)
  | .knocking, .turnedAway => (connection.fail now, none)
  | .taking, .frame frame => connection.takeFrame frame
  | .taking, .broken => (connection.fail now, none)
  | _, _ => (connection, none)

/-- When the connection acts without hearing anything. -/
def dueAt? (connection : Connection) (now : Nat) : Option Nat :=
  match connection.phase with
  | .starting => some now
  | .resting dueAt => some dueAt
  | .knocking => none
  | .taking => none
  | .finished => none

/-- Asks to be let in if it is time to, and says whether it did. -/
def turn (connection : Connection) (now : Nat) : Connection × Bool :=
  match connection.dueAt? now with
  | some dueAt => if dueAt ≤ now then (connection.knock, true) else (connection, false)
  | none => (connection, false)

/-- Closes the connection. One that has finished stays as it is. -/
def close (connection : Connection) : Connection :=
  match connection.phase with
  | .finished => connection
  | _ => connection.finish

/-- Gives the connection up without a word. -/
def abandon (connection : Connection) : Connection := { connection with phase := .finished }

end Connection

end LiveJobs
