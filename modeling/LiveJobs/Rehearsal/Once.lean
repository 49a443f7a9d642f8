import LiveJobs.Rehearsal.Stage

/-!
# Single round trips

One round trip of a poll by itself: it asks, waits for the answer, takes it up, and says what would
come next. All else goes on meanwhile, a poll that runs on its own included.
-/

namespace LiveJobs

namespace Stage

/-- What a poll does after a round trip. -/
inductive Decision where
  /-- It asks again after some milliseconds. -/
  | again (wait : Nat)
  | stop
  deriving DecidableEq, Repr

/-- Draws a sequence, as a request does when it is issued. -/
def drawSequence (stage : Stage) : Sequence × Stage :=
  let drawn := stage.session.store.draw
  (drawn.2, { stage with session.store := drawn.1 })

/-- Replaces the store. -/
def putStore (stage : Stage) (store : Store) : Stage := { stage with session.store := store }

/-- What a poll of a job does next. -/
def decisionOf (now : Nat) : SinglePoll → Decision
  | .resting dueAt => .again (dueAt - now)
  | .asking _ => .stop
  | .stopped => .stop

/-- One round trip for a job, unless it has ended. -/
def pollJobOnce (stage : Stage) (now : Nat) (job : JobId) : Nat × Stage × Decision :=
  if SinglePoll.hasEnded stage.session.store job then (now, stage, .stop)
  else
    let (sequence, drawn) := stage.drawSequence
    let (reply, script) := drawn.script.nextJob job
    let asked := { drawn with script := script }.recordCall now (.get job)
    let arrival := now + reply.latency
    let waited := asked.advance now arrival
    let merged := SinglePoll.merge sequence stage.wall reply.answer waited.session.store
    (arrival, waited.putStore merged,
      decisionOf arrival (SinglePoll.rest job arrival stage.wall merged))

/-- Asks for a list and waits for the answer. -/
def askList (stage : Stage) (now : Nat) (query : Query) :
    Sequence × Except Fault Page × Nat × Stage :=
  let (sequence, drawn) := stage.drawSequence
  let (reply, script) := drawn.script.nextList query
  let asked := { drawn with script := script }.recordCall now (.list query)
  let arrival := now + reply.latency
  (sequence, reply.answer, arrival, asked.advance now arrival)

/-- One round trip for the running jobs, of a poll that was to ask at once. The poll itself is given
back as well. -/
def pollActiveOnce (stage : Stage) (now : Nat) (poll : ActivePoll) :
    Nat × Stage × ActivePoll × Decision :=
  let (sequence, answer, arrival, waited) := stage.askList now (.running poll.pageSize)
  let asking := { poll with phase := .asking sequence, wakePending := false }
  let (accepted, store) := asking.accept arrival stage.wall answer waited.session.store
  let decision : Decision :=
    match accepted.phase with
    | .resting dueAt => .again (dueAt - arrival)
    | _ => .stop
  (arrival, waited.putStore store, accepted, decision)

/-- One round trip for the displayed page. -/
def pollBulkOnce (stage : Stage) (now : Nat) : Nat × Stage × Except Fault Unit :=
  let query := stage.session.bulk.query
  let (sequence, answer, arrival, waited) := stage.askList now query
  let merged := BulkPoll.merge query sequence stage.wall answer waited.session.store
  (arrival, waited.putStore merged, answer.map fun _ => ())

/-- When the answer to a request to cancel arrives. -/
def cancelDueAt? (stage : Stage) (ticket : Nat) : Option Nat :=
  stage.underWay.findSome? fun
    | (due, .cancel other _) => if other = ticket then some due else none
    | _ => none

/-- Asks for a cancellation and waits for what becomes of it. -/
def awaitCancel (stage : Stage) (now : Nat) (job : JobId) (reason : Option String) :
    Nat × Stage × Option (Except CancelError CancelAccepted) :=
  let asked := stage.requestCancel now "" job reason
  let arrival := (asked.cancelDueAt? (asked.cancelTasks.length - 1)).getD now
  let ended := asked.advance now arrival
  (arrival, ended, ended.cancelsDone.getLast?.map CancelDone.result)

end Stage

end LiveJobs
