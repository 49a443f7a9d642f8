import LiveJobs.Call
import LiveJobs.Store.Basic

/-!
# The poll of a single job

A job that somebody follows is asked for until its stored record has ended, less and less often as
the job grows older. Whether it has ended is looked up in the store, so the poll also stops when
another source has heard of the end.
-/

namespace LiveJobs

open LiveJobs.Time

/-- The poll of one job. Times are in milliseconds. -/
inductive SinglePoll where
  /-- The next check is made at a given time. -/
  | resting (dueAt : Nat)
  /-- A request is under way, issued under a sequence. -/
  | asking (sequence : Sequence)
  | stopped
  deriving DecidableEq, Repr

namespace SinglePoll

/-- The wait for a new job. -/
def shortest : Nat := 2000

/-- What the wait grows by. -/
def growth : Nat := 2000

/-- The age after which the wait grows, every time it is reached again. -/
def growsEvery : Nat := 30000

/-- The greatest wait. -/
def longest : Nat := 10000

/-- A number of milliseconds in 128 bits. What they cannot hold counts as the most that they can. -/
def saturate (millis : Nat) : Nat := min millis 340282366920938463463374607431768211455

/-- A number of milliseconds cut down to the 64 bits of a wait. -/
def narrow (millis : Nat) : Nat := millis % 18446744073709551616

/-- The wait before the next check of a job, by its age. -/
def interval (age : Nat) : Nat :=
  let grown := saturate (age / growsEvery * growth)
  narrow (min (saturate (shortest + grown)) longest)

/-- Whether the record of a job is stored and has ended. -/
def hasEnded (store : Store) (job : JobId) : Bool := (store.job? job).any Job.isTerminal

/-- A poll makes its first check at once. -/
def start (now : Nat) : SinglePoll := .resting now

/-- When the poll acts without being answered. -/
def dueAt? : SinglePoll → Option Nat
  | .resting dueAt => some dueAt
  | .asking _ => none
  | .stopped => none

/-- Asks for the job, unless it has ended. -/
def check (job : JobId) (store : Store) : SinglePoll × Store × Option Call :=
  if hasEnded store job then (.stopped, store, none)
  else
    let drawn := store.draw
    (.asking drawn.2, drawn.1, some (.get job))

/-- Makes the check if it is due. -/
def turn (poll : SinglePoll) (job : JobId) (now : Nat) (store : Store) :
    SinglePoll × Store × Option Call :=
  match poll with
  | .resting dueAt => if dueAt ≤ now then check job store else (poll, store, none)
  | .asking _ => (poll, store, none)
  | .stopped => (poll, store, none)

/-- What follows an answer, by what is stored then. -/
def rest (job : JobId) (now : Nat) (wall : Instant) (store : Store) : SinglePoll :=
  match store.job? job with
  | none => .resting (now + interval 0)
  | some stored =>
      if stored.isTerminal then .stopped else .resting (now + interval (stored.ageMillis wall))

/-- Merges the answer to a request. A failed request changes nothing. -/
def merge (sequence : Sequence) (wall : Instant) (answer : Except Fault Job) (store : Store) :
    Store :=
  match answer with
  | .ok job => (store.apply ⟨.ofJob job wall, .singlePoll, sequence⟩).1
  | .error _ => store

/-- Takes up the answer to the request under way. A poll that has none under way drops it. -/
def accept (poll : SinglePoll) (job : JobId) (now : Nat) (wall : Instant)
    (answer : Except Fault Job) (store : Store) : SinglePoll × Store :=
  match poll with
  | .asking sequence =>
      let merged := merge sequence wall answer store
      (rest job now wall merged, merged)
  | .resting _ => (poll, store)
  | .stopped => (poll, store)

end SinglePoll

end LiveJobs
