import LiveJobs.Rehearsal.Stage
import LiveJobs.Settings.Wire

/-!
# Wire forms of rehearsals

How scripts are read from JSON values, and how the record of a rehearsal is written.
-/

namespace LiveJobs

open LiveJobs.Json LiveJobs.Time

/-- A result: a value under `ok`, or a fault under `err`. A value that is not of the wanted form
is a fault of its own. -/
def answerOf? {α : Type} (read : Json → Option α) (value : Json) : Option (Except Fault α) :=
  match given? value "err" with
  | some error => (Fault.ofJson? error).map .error
  | none =>
      match (value.get? "ok").bind read with
      | some found => some (.ok found)
      | none => some (.error (.parse "the answer is not of the wanted form"))

/-- A reply, which takes at least one millisecond. -/
def Reply.ofJson? {α : Type} (read : Json → Option α) (latency : Nat) (value : Json) :
    Option (Reply α) :=
  (answerOf? read value).map fun answer => ⟨answer, max 1 (numberOr value "latencyMs" latency)⟩

/-- The replies under a name. -/
def repliesOf? {α : Type} (read : Json → Option α) (latency : Nat) (value : Json)
    (name : String) : Option (List (Reply α)) :=
  readAll (Reply.ofJson? read latency) (itemsOf value name)

/-- The replies to requests for a job. -/
def jobRepliesOf? : List (String × Json) → Option (List (JobId × List (Reply Job)))
  | [] => some []
  | (name, value) :: rest => do
      let replies ← readAll (Reply.ofJson? Job.ofJson? 11) (value.items?.getD [])
      let others ← jobRepliesOf? rest
      some ((⟨name⟩, replies) :: others)

/-- The members of an object; none for any other value. -/
def membersOf : Json → List (String × Json)
  | .obj members => members
  | _ => []

/-- A delivery of a push channel, which takes at least one millisecond. -/
def Parcel.ofJson (value : Json) : Nat × Parcel :=
  let wait := max 1 (numberOr value "afterMs" 1)
  match given? value "frame", (given? value "sse").bind text? with
  | some content, _ => (wait, .frame (Frame.ofJson content))
  | none, some chunk => (wait, .text chunk)
  | none, none => (wait, .broken)

/-- A visit. The stream stays open only if it says so. -/
def Visit.ofJson (value : Json) : Visit where
  latency := numberOr value "latencyMs" 3
  letIn := (given? value "err").isNone
  parcels := (itemsOf value "items").map Parcel.ofJson
  endsAfter :=
    match value.get? "hold" with
    | some (.bool true) => none
    | _ => some (numberOr value "endAfterMs" 1)

/-- A script without visits. -/
def Script.ofJson? (value : Json) : Option Script := do
  let bulk ← repliesOf? Page.ofJson? 7 value "bulk"
  let active ← repliesOf? Page.ofJson? 9 value "active"
  let jobs ← jobRepliesOf? (membersOf ((value.get? "jobs").getD .null))
  let cancels ← repliesOf? (fun _ => some ()) 13 value "cancels"
  some ⟨bulk, active, jobs, cancels, []⟩

def Call.toJson : Call → Json
  | .list query => .obj [("list", query.toJson)]
  | .get job => .obj [("get", job.toJson)]
  | .cancel job reason => .obj [("cancel", job.toJson), ("reason", orNull Json.str reason)]

def EventId.toJson (id : EventId) : Json := .str id.text

def Knock.toJson (knock : Knock) : Json :=
  .obj [("at", ofNat knock.time), ("key", .str knock.channel.path),
    ("lastEventId", orNull EventId.toJson knock.token)]

def ConnectionStatus.toJson (status : ConnectionStatus) : Json :=
  .obj [("state", .str status.state.name), ("open", .bool (status.state == .opened)),
    ("attempts", ofNat status.attempts), ("lastEventId", orNull EventId.toJson status.token)]

def ActiveMap.toJson (map : ActiveMap) : Json :=
  .obj (map.map fun entry => (entry.1.text, entry.2.toJson))

def CancelAccepted.toJson (accepted : CancelAccepted) : Json :=
  .obj [("jobId", accepted.job.toJson), ("status", accepted.status.toJson),
    ("requestedAt", ofInstant accepted.requestedAt)]

end LiveJobs
