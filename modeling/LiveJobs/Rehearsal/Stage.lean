import LiveJobs.Rehearsal.Script
import LiveJobs.Session

/-!
# Rehearsals

A rehearsal acts a session out against a scripted service, on a clock of its own that jumps to the
next moment at which anything happens. The wall clock stands still meanwhile. What happens at one
moment happens in the order in which the sources were started, and the poll of the page takes up
another query before the tick.
-/

namespace LiveJobs

open LiveJobs.Time

/-- Something that is on its way to a source. -/
inductive Arrival where
  | signal (stream : Nat) (signal : Signal)
  | bulkPage (answer : Except Fault Page)
  | activePage (answer : Except Fault Page)
  | job (watcher : Nat) (answer : Except Fault Job)
  | cancel (ticket : Nat) (answer : Except Fault Unit)

/-- A request to cancel that was made in the course of a rehearsal. -/
structure CancelTask where
  name : String
  /-- What was sent, unless the request was refused at once. -/
  sent : Option CancelRequest

/-- An attempt to connect to a push channel. -/
structure Knock where
  time : Nat
  channel : Channel
  token : Option EventId

/-- A request to cancel that is over. -/
structure CancelDone where
  time : Nat
  name : String
  result : Except CancelError CancelAccepted

/-- A session among scripted surroundings. Times are in milliseconds. -/
structure Stage where
  session : Session
  script : Script
  /-- What the wall clock shows. -/
  wall : Instant
  /-- What is on its way, each with the time at which it arrives. -/
  underWay : List (Nat × Arrival)
  /-- The requests to cancel so far; the place of each is its ticket. -/
  cancelTasks : List CancelTask
  /-- The calls so far, with their times. -/
  calls : List (Nat × Call)
  knocks : List Knock
  /-- The events so far, with the times at which they were handed on. -/
  events : List (Nat × Event)
  cancelsDone : List CancelDone

namespace Stage

/-- A stage before anything has happened. -/
def set (session : Session) (script : Script) (wall : Instant) : Stage :=
  ⟨session, script, wall, [], [], [], [], [], []⟩

/-- The stage with nothing on record. -/
def clearRecord (stage : Stage) : Stage :=
  { stage with calls := [], knocks := [], events := [], cancelsDone := [] }

/-- Records a call. -/
def recordCall (stage : Stage) (now : Nat) (call : Call) : Stage :=
  { stage with calls := stage.calls ++ [(now, call)] }

/-- Puts something on its way. -/
def send (stage : Stage) (dueAt : Nat) (arrival : Arrival) : Stage :=
  { stage with underWay := stage.underWay ++ [(dueAt, arrival)] }

/-- Takes what has arrived of a kind off the way. -/
def collect {α : Type} (stage : Stage) (now : Nat) (kind : Arrival → Option α) :
    List α × Stage :=
  let arrived := stage.underWay.filterMap fun entry =>
    if entry.1 ≤ now then kind entry.2 else none
  let rest := stage.underWay.filter fun entry => !(entry.1 ≤ now && (kind entry.2).isSome)
  (arrived, { stage with underWay := rest })

/-! ### Streams -/

/-- Replaces a stream. -/
def putStream (stage : Stage) (index : Nat) (stream : Connection) : Stage :=
  { stage with session.streams := stage.session.streams.set index stream }

/-- A stream hears a signal, and the event in it is handed on. -/
def hear (now index : Nat) (stage : Stage) (signal : Signal) : Stage :=
  match stage.session.streams[index]? with
  | none => stage
  | some stream =>
      let heard := stream.hear now signal
      let stage := stage.putStream index heard.1
      match heard.2 with
      | none => stage
      | some event =>
          { stage with
            session := stage.session.receive stream.channel stage.wall event
            events := stage.events ++ [(now, event)] }

/-- An attempt to connect takes the next visit of its channel. -/
def visit (now index : Nat) (stream : Connection) (stage : Stage) : Stage :=
  let next := stage.script.nextVisit stream.channel
  let sent := next.1.signals.map fun entry => (now + entry.1, Arrival.signal index entry.2)
  { stage with
    script := next.2
    underWay := stage.underWay ++ sent
    knocks := stage.knocks ++ [⟨now, stream.channel, stream.token⟩] }

/-- A stream hears what has arrived for it, and asks to be let in if it is time to. -/
def streamTurn (now : Nat) (stage : Stage) (index : Nat) : Stage :=
  let collected := stage.collect now fun
    | .signal stream signal => if stream = index then some signal else none
    | _ => none
  let stage := collected.1.foldl (hear now index) collected.2
  match stage.session.streams[index]? with
  | none => stage
  | some stream =>
      let turned := stream.turn now
      let stage := stage.putStream index turned.1
      if turned.2 then stage.visit now index turned.1 else stage

/-! ### Polls -/

/-- A poll of the page calls. -/
def bulkCall (now : Nat) (stage : Stage) : Option Call → Stage
  | some (.list query) =>
      let next := stage.script.nextList query
      let called := { stage with script := next.2 }.recordCall now (.list query)
      called.send (now + next.1.latency) (.bulkPage next.1.answer)
  | _ => stage

/-- Replaces the poll of the page and the store, and calls. -/
def afterBulk (now : Nat) (stage : Stage) (step : BulkPoll × Store × Option Call) : Stage :=
  { stage with session.bulk := step.1, session.store := step.2.1 }.bulkCall now step.2.2

/-- The poll of the page takes up an answer. -/
def bulkAccept (now : Nat) (stage : Stage) (answer : Except Fault Page) : Stage :=
  stage.afterBulk now (stage.session.bulk.accept .query now stage.wall answer stage.session.store)

/-- The poll of the page takes up what has arrived for it, and acts if there is anything to do. -/
def bulkTurn (now : Nat) (stage : Stage) : Stage :=
  let collected := stage.collect now fun
    | .bulkPage answer => some answer
    | _ => none
  let stage := collected.1.foldl (bulkAccept now) collected.2
  stage.afterBulk now (stage.session.bulk.turn .query now stage.session.store)

/-- The poll of the running jobs takes up an answer. -/
def activeAccept (now : Nat) (stage : Stage) (answer : Except Fault Page) : Stage :=
  let accepted := stage.session.active.accept now stage.wall answer stage.session.store
  { stage with session.active := accepted.1, session.store := accepted.2 }

/-- The poll of the running jobs calls. -/
def activeCall (now : Nat) (stage : Stage) : Option Call → Stage
  | some (.list query) =>
      let next := stage.script.nextList query
      let called := { stage with script := next.2 }.recordCall now (.list query)
      called.send (now + next.1.latency) (.activePage next.1.answer)
  | _ => stage

/-- The poll of the running jobs takes up what has arrived for it, and asks if it is time to. -/
def activeTurn (now : Nat) (stage : Stage) : Stage :=
  let collected := stage.collect now fun
    | .activePage answer => some answer
    | _ => none
  let stage := collected.1.foldl (activeAccept now) collected.2
  let turned := stage.session.active.turn now stage.session.store
  { stage with session.active := turned.1, session.store := turned.2.1 }.activeCall now turned.2.2

/-- Replaces the poll of a followed job. -/
def putPoll (stage : Stage) (index : Nat) (watcher : Watcher) (poll : SinglePoll) : Stage :=
  { stage with
    session.watchers := stage.session.watchers.set index { watcher with poll := poll } }

/-- The poll of a followed job takes up an answer. -/
def jobAccept (now index : Nat) (stage : Stage) (answer : Except Fault Job) : Stage :=
  match stage.session.watchers[index]? with
  | none => stage
  | some watcher =>
      let accepted :=
        watcher.poll.accept watcher.job now stage.wall answer stage.session.store
      { stage with session.store := accepted.2 }.putPoll index watcher accepted.1

/-- The poll of a followed job calls. -/
def jobCall (now index : Nat) (stage : Stage) : Option Call → Stage
  | some (.get job) =>
      let next := stage.script.nextJob job
      let called := { stage with script := next.2 }.recordCall now (.get job)
      called.send (now + next.1.latency) (.job index next.1.answer)
  | _ => stage

/-- The poll of a followed job takes up what has arrived for it, and makes its check if it is
due. -/
def watcherTurn (now : Nat) (stage : Stage) (index : Nat) : Stage :=
  let collected := stage.collect now fun
    | .job watcher answer => if watcher = index then some answer else none
    | _ => none
  let stage := collected.1.foldl (jobAccept now index) collected.2
  match stage.session.watchers[index]? with
  | none => stage
  | some watcher =>
      let turned := watcher.poll.turn watcher.job now stage.session.store
      let stage := { stage with session.store := turned.2.1 }.putPoll index watcher turned.1
      stage.jobCall now index turned.2.2

/-! ### Cancellation -/

/-- Records the end of a request to cancel. -/
def recordCancel (stage : Stage) (now : Nat) (name : String)
    (result : Except CancelError CancelAccepted) : Stage :=
  { stage with cancelsDone := stage.cancelsDone ++ [⟨now, name, result⟩] }

/-- Adds a request to cancel to those made so far. -/
def addCancelTask (stage : Stage) (task : CancelTask) : Stage :=
  { stage with cancelTasks := stage.cancelTasks ++ [task] }

/-- Makes a request to cancel under a name. -/
def requestCancel (stage : Stage) (now : Nat) (name : String) (job : JobId)
    (reason : Option String) : Stage :=
  match stage.session.beginCancel job with
  | .error error => (stage.addCancelTask ⟨name, none⟩).recordCancel now name (.error error)
  | .ok (session, request) =>
      let next := stage.script.nextCancel
      let ticket := stage.cancelTasks.length
      let begun := { stage with session := session, script := next.2 }.addCancelTask
        ⟨name, some request⟩
      (begun.recordCall now (.cancel job reason)).send (now + next.1.latency)
        (.cancel ticket next.1.answer)

/-- A request to cancel takes up its answer. -/
def cancelAccept (now : Nat) (stage : Stage) (arrived : Nat × Except Fault Unit) : Stage :=
  match stage.cancelTasks[arrived.1]? with
  | some ⟨name, some request⟩ =>
      { stage with session := stage.session.releaseCancel request.job }.recordCancel now name
        (request.conclude stage.wall arrived.2)
  | _ => stage

/-- The requests to cancel take up what has arrived for them. -/
def cancelTurn (now : Nat) (stage : Stage) : Stage :=
  let collected := stage.collect now fun
    | .cancel ticket answer => some (ticket, answer)
    | _ => none
  collected.1.foldl (cancelAccept now) collected.2

/-- Whether the answer to a request to cancel is on its way. -/
def isCancelUnderWay (stage : Stage) (ticket : Nat) : Bool :=
  stage.underWay.any fun
    | (_, .cancel other _) => other = ticket
    | _ => false

/-- Gives up what was sent for a request to cancel, if it is under way. -/
def abandonTicket (stage : Stage) (ticket : Nat) (request : CancelRequest) : Stage :=
  if stage.isCancelUnderWay ticket then
    let rest := stage.underWay.filter fun
      | (_, .cancel other _) => other ≠ ticket
      | _ => true
    { stage with
      underWay := rest
      session := stage.session.releaseCancel request.job }
  else stage

/-- Gives up the latest request to cancel of a name, if it is under way. -/
def abandonCancel (stage : Stage) (name : String) : Stage :=
  let latest := stage.cancelTasks.zipIdx.findRev? fun entry => entry.1.name = name
  match latest with
  | some (⟨_, some request⟩, ticket) => stage.abandonTicket ticket request
  | _ => stage

/-! ### Time -/

/-- The times at which anything happens by itself. -/
def dueTimes (stage : Stage) (now : Nat) : List Nat :=
  stage.underWay.map Prod.fst ++
    stage.session.streams.filterMap (fun stream => stream.dueAt? now) ++
    (stage.session.bulk.dueAt? now).toList ++ (stage.session.active.dueAt? now).toList ++
    stage.session.watchers.filterMap fun watcher => watcher.poll.dueAt?

/-- The next time at which anything happens. -/
def nextDue? (stage : Stage) (now : Nat) : Option Nat := (stage.dueTimes now).min?

/-- Whether anything happens now. -/
def isBusy (stage : Stage) (now : Nat) : Bool := (stage.nextDue? now).any fun due => due ≤ now

/-- Every source has one turn. -/
def round (stage : Stage) (now : Nat) : Stage :=
  let streamed := (List.range stage.session.streams.length).foldl (streamTurn now) stage
  let polled := (streamed.bulkTurn now).activeTurn now
  let watched := (List.range polled.session.watchers.length).foldl (watcherTurn now) polled
  watched.cancelTurn now

/-- Gives rounds of turns until nothing happens any more at this moment. -/
def settleWithin (now : Nat) : (rounds : Nat) → Stage → Stage
  | 0, stage => stage
  | rounds + 1, stage =>
      if stage.isBusy now then settleWithin now rounds (stage.round now) else stage

/-- Lets everything happen that happens at this moment. Only an attempt to connect can make for
another round, so the rounds are bounded by the scripted attempts. -/
def settle (stage : Stage) (now : Nat) : Stage :=
  settleWithin now (stage.script.visitCount + stage.underWay.length + 4) stage

/-- Lets everything happen until a given time, and at that time. -/
def advance (stage : Stage) (now target : Nat) : Stage :=
  let settled := stage.settle now
  match settled.nextDue? now with
  | none => settled
  | some due =>
      if _later : now < due ∧ due ≤ target then settled.advance due target else settled
termination_by target - now
decreasing_by omega

end Stage

end LiveJobs
