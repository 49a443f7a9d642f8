import LiveJobs.Call
import LiveJobs.Store.Basic

/-!
# The poll of the running jobs

The running jobs are asked for as long as there are any. Once an answer is empty the poll goes
idle, and only a wake makes it ask again. Each answer gives a map from resources to the jobs that
work on them, by which others see whether an update tells of work that the poll does not know of.
-/

namespace LiveJobs

open LiveJobs.Time

/-- The active job of each resource. A resource is known by its name alone, as updates may name it
without its category. -/
abbrev ActiveMap := List (ResourceId × JobId)

namespace ActiveMap

/-- The resource of a job that is active. -/
def resource? (job : Job) : Option ResourceId := if job.isActive then job.resource.id? else none

/-- Adds a job under its resource, if it is active and the resource is new. -/
def insertNew (map : ActiveMap) (job : Job) : ActiveMap :=
  match resource? job with
  | none => map
  | some resource =>
      if (map.lookup resource).isSome then map else map ++ [(resource, job.id)]

/-- The map of a list of jobs; of the active jobs of a resource, the first one listed counts. -/
def ofJobs (jobs : List Job) : ActiveMap := jobs.foldl insertNew []

/-- Whether a job is active on a resource that the map does not have. The resource that an update
reported stands in for a job without one. -/
def lacks (map : ActiveMap) (job : Job) (reported : Option ResourceId) : Bool :=
  job.isActive &&
    (job.resource.id?.or reported).any fun resource => (map.lookup resource).isNone

end ActiveMap

/-- What the poll of the running jobs is doing. Times are in milliseconds. -/
inductive ActivePhase where
  /-- It asks as soon as it gets its turn. -/
  | roused
  /-- It asks again at a given time, or when it is woken. -/
  | resting (dueAt : Nat)
  /-- It asks again only when it is woken. -/
  | idle
  /-- A request is under way, issued under a sequence. -/
  | asking (sequence : Sequence)
  | stopped
  deriving DecidableEq, Repr

/-- The poll of the running jobs. -/
structure ActivePoll where
  interval : Nat
  pageSize : Nat
  phase : ActivePhase
  /-- A wake that came while the poll was not waiting for one. -/
  wakePending : Bool
  /-- The active jobs of the last answer. -/
  known : ActiveMap
  deriving DecidableEq, Repr

namespace ActivePoll

/-- A poll asks at once. -/
def start (interval pageSize : Nat) : ActivePoll := ⟨interval, pageSize, .roused, false, []⟩

/-- When the poll acts without being answered. -/
def dueAt? (poll : ActivePoll) (now : Nat) : Option Nat :=
  match poll.phase with
  | .roused => some now
  | .resting dueAt => some dueAt
  | .idle => none
  | .asking _ => none
  | .stopped => none

/-- Wakes the poll. If it is not waiting, one wake is kept for its next wait. -/
def wake (poll : ActivePoll) : ActivePoll :=
  match poll.phase with
  | .resting _ => { poll with phase := .roused }
  | .idle => { poll with phase := .roused }
  | .roused => { poll with wakePending := true }
  | .asking _ => { poll with wakePending := true }
  | .stopped => poll

/-- Asks for the running jobs. -/
def ask (poll : ActivePoll) (store : Store) : ActivePoll × Store × Option Call :=
  let drawn := store.draw
  ({ poll with phase := .asking drawn.2 }, drawn.1, some (.list (.running poll.pageSize)))

/-- Asks if it is time to. -/
def turn (poll : ActivePoll) (now : Nat) (store : Store) : ActivePoll × Store × Option Call :=
  match poll.phase with
  | .roused => poll.ask store
  | .resting dueAt => if dueAt ≤ now then poll.ask store else (poll, store, none)
  | .idle => (poll, store, none)
  | .asking _ => (poll, store, none)
  | .stopped => (poll, store, none)

/-- Waits in a given way, unless a wake is pending. -/
def wait (poll : ActivePoll) (phase : ActivePhase) : ActivePoll :=
  if poll.wakePending then { poll with phase := .roused, wakePending := false }
  else { poll with phase := phase }

/-- Takes up the answer to the request under way. An empty page sends the poll to sleep; a failed
request changes nothing but the time of the next one. -/
def accept (poll : ActivePoll) (now : Nat) (wall : Instant) (answer : Except Fault Page)
    (store : Store) : ActivePoll × Store :=
  match poll.phase with
  | .asking sequence =>
      match answer with
      | .error _ => (poll.wait (.resting (now + poll.interval)), store)
      | .ok page =>
          let patches := page.items.map fun job => Patch.ofJob job wall
          let merged := (store.applyAll patches .bulkPoll sequence).1
          let informed := { poll with known := .ofJobs page.items }
          let phase := if page.items.isEmpty then .idle else .resting (now + poll.interval)
          (informed.wait phase, merged)
  | .roused => (poll, store)
  | .resting _ => (poll, store)
  | .idle => (poll, store)
  | .stopped => (poll, store)

/-- Stops the poll for good. -/
def stop (poll : ActivePoll) : ActivePoll := { poll with phase := .stopped }

end ActivePoll

end LiveJobs
