import LiveJobs.Event.LineDecoder
import LiveJobs.Job.Page
import LiveJobs.Push.Connection

/-!
# Scripts

A script says how the job service answers: a list of replies for each kind of request, each of
which is used up by one request, and a list of visits for each push channel.
-/

namespace LiveJobs

open LiveJobs.Text

/-- An answer that comes some milliseconds after the request. -/
structure Reply (α : Type) where
  answer : Except Fault α
  latency : Nat

/-- What a push channel delivers. -/
inductive Parcel where
  | frame (frame : Frame)
  /-- Text of the event stream; the frames that it completes arrive together. -/
  | text (text : String)
  /-- The connection breaks. -/
  | broken

/-- How one attempt to connect to a push channel goes. -/
structure Visit where
  /-- The milliseconds before the attempt is let in or turned away. -/
  latency : Nat
  letIn : Bool
  /-- What is delivered, each some milliseconds after the one before. -/
  parcels : List (Nat × Parcel)
  /-- The milliseconds after the last delivery at which the stream ends; it may stay open. -/
  endsAfter : Option Nat

namespace Visit

/-- The visit for which no script is left. -/
def unscripted : Visit := ⟨3, false, [], none⟩

/-- The signals of a stream that has been open for some time and delivers the rest of its parcels.
A frame that is unfinished at the end of the stream still arrives. -/
def signalsFrom (endsAfter : Option Nat) (decoder : LineDecoder) (time : Nat) :
    List (Nat × Parcel) → List (Nat × Signal)
  | [] =>
      match endsAfter with
      | none => []
      | some wait =>
          (decoder.finish.2.toList.map fun frame => (time + wait, .frame frame)) ++
            [(time + wait, .broken)]
  | (wait, .frame frame) :: rest =>
      (time + wait, .frame frame) :: signalsFrom endsAfter decoder (time + wait) rest
  | (wait, .text text) :: rest =>
      let fed := decoder.feed (encodeUtf8 text)
      (fed.2.map fun frame => (time + wait, .frame frame)) ++
        signalsFrom endsAfter fed.1 (time + wait) rest
  | (wait, .broken) :: _ => [(time + wait, .broken)]

/-- What is heard of a visit, each signal with the milliseconds since the attempt. Nothing is heard
after the connection has broken. -/
def signals (visit : Visit) : List (Nat × Signal) :=
  if visit.letIn then
    (visit.latency, .opened) ::
      signalsFrom visit.endsAfter .initial visit.latency visit.parcels
  else [(visit.latency, .turnedAway)]

end Visit

/-- What a service answers. -/
structure Script where
  /-- Replies to requests for pages. -/
  bulk : List (Reply Page)
  /-- Replies to requests for the running jobs. -/
  active : List (Reply Page)
  /-- Replies to requests for single jobs. -/
  jobs : List (JobId × List (Reply Job))
  cancels : List (Reply Unit)
  /-- Attempts to connect. -/
  visits : List (Channel × List Visit)

namespace Script

def empty : Script := ⟨[], [], [], [], []⟩

/-- An empty page, after 7 milliseconds. -/
def unscriptedBulk : Reply Page := ⟨.ok .empty, 7⟩

/-- An empty page, after 9 milliseconds. -/
def unscriptedActive : Reply Page := ⟨.ok .empty, 9⟩

/-- The job is not found, after 11 milliseconds. -/
def unscriptedJob (job : JobId) : Reply Job :=
  ⟨.error (.api 404 ("job " ++ job.text ++ " not found")), 11⟩

/-- The cancellation is accepted, after 13 milliseconds. -/
def unscriptedCancel : Reply Unit := ⟨.ok (), 13⟩

/-- Takes the first of a list, or else a default. -/
def takeFirst {α : Type} (default : α) : List α → α × List α
  | [] => (default, [])
  | first :: rest => (first, rest)

/-- Takes the first of the list under a name, or else a default. -/
def takeUnder {κ α : Type} [DecidableEq κ] (name : κ) (default : α) :
    List (κ × List α) → α × List (κ × List α)
  | [] => (default, [])
  | (other, values) :: rest =>
      if other = name then
        let taken := takeFirst default values
        (taken.1, (other, taken.2) :: rest)
      else
        let taken := takeUnder name default rest
        (taken.1, (other, values) :: taken.2)

/-- The next reply to a request for a page. -/
def nextBulk (script : Script) : Reply Page × Script :=
  let taken := takeFirst unscriptedBulk script.bulk
  (taken.1, { script with bulk := taken.2 })

/-- The next reply to a request for the running jobs. -/
def nextActive (script : Script) : Reply Page × Script :=
  let taken := takeFirst unscriptedActive script.active
  (taken.1, { script with active := taken.2 })

/-- The next reply to a request for a list. It is one for the running jobs if those are asked
for. -/
def nextList (script : Script) (query : Query) : Reply Page × Script :=
  if query.status = some .running then script.nextActive else script.nextBulk

/-- The next reply to a request for a job. -/
def nextJob (script : Script) (job : JobId) : Reply Job × Script :=
  let taken := takeUnder job (unscriptedJob job) script.jobs
  (taken.1, { script with jobs := taken.2 })

/-- The next reply to a request to cancel. -/
def nextCancel (script : Script) : Reply Unit × Script :=
  let taken := takeFirst unscriptedCancel script.cancels
  (taken.1, { script with cancels := taken.2 })

/-- The next visit to a channel. -/
def nextVisit (script : Script) (channel : Channel) : Visit × Script :=
  let taken := takeUnder channel .unscripted script.visits
  (taken.1, { script with visits := taken.2 })

/-- The number of scripted attempts to connect. -/
def visitCount (script : Script) : Nat :=
  script.visits.foldl (fun count visits => count + visits.2.length) 0

end Script

end LiveJobs
