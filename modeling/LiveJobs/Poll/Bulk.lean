import LiveJobs.Call
import LiveJobs.Poll.Ticker
import LiveJobs.Store.Basic

/-!
# The poll of the displayed page

The displayed page of the job list is asked for at a fixed rhythm for as long as somebody has the
list mounted, and at once when another page is chosen. The rhythm is that of the requests, whatever
time the answers take.

A poll that finds another query and a tick that is due takes up one of them, and nothing settles
which. A query that is not taken up then is still asked for, as each request is for the latest
query; but it remains to be looked at, and makes for one more request as soon as that one is
answered.
-/

namespace LiveJobs

open LiveJobs.Time

/-- What the poll of the page is doing. -/
inductive BulkPhase where
  /-- It has not had its first turn. -/
  | starting
  /-- Nobody has the list mounted. -/
  | unmounted
  /-- It waits for the next tick or another query. -/
  | watching
  /-- A request for a page is under way, issued under a sequence. -/
  | asking (query : Query) (sequence : Sequence)
  | stopped
  deriving DecidableEq, Repr

/-- The poll of the displayed page. -/
structure BulkPoll where
  phase : BulkPhase
  ticker : Ticker
  /-- How many have the list mounted. -/
  mounts : Nat
  /-- Whether the number of mounts was set since the poll last looked. -/
  mountsNews : Bool
  /-- Whether the number of mounts can no longer change. -/
  mountsFinal : Bool
  query : Query
  /-- Whether the query was set since the poll last looked. -/
  queryNews : Bool
  /-- Whether the query can no longer change. -/
  queryFinal : Bool
  deriving DecidableEq, Repr

/-- Which of the two a poll of the page takes up if there is another query and the tick is due. -/
inductive Precedence where
  | query
  | tick
  deriving DecidableEq, Repr

namespace BulkPoll

/-- A poll at a rhythm of `interval` milliseconds. -/
def start (interval mounts : Nat) (query : Query) (now : Nat) : BulkPoll where
  phase := .starting
  ticker := .start interval now
  mounts := mounts
  mountsNews := false
  mountsFinal := false
  query := query
  queryNews := false
  queryFinal := false

/-- Sets the number of mounts, unless it can no longer change. -/
def setMounts (poll : BulkPoll) (mounts : Nat) : BulkPoll :=
  if poll.mountsFinal then poll else { poll with mounts := mounts, mountsNews := true }

/-- Sets the query, unless it can no longer change. -/
def setQuery (poll : BulkPoll) (query : Query) : BulkPoll :=
  if poll.queryFinal then poll else { poll with query := query, queryNews := true }

/-- Says that the number of mounts will not change any more. -/
def endMounts (poll : BulkPoll) : BulkPoll := { poll with mountsFinal := true }

/-- Says that the query will not change any more. -/
def endQueries (poll : BulkPoll) : BulkPoll := { poll with queryFinal := true }

/-- Stops the poll for good. -/
def stop (poll : BulkPoll) : BulkPoll := { poll with phase := .stopped }

/-- Whether anybody has the list mounted. -/
def isMounted (poll : BulkPoll) : Bool := 0 < poll.mounts

/-- When the poll acts without being answered. -/
def dueAt? (poll : BulkPoll) (now : Nat) : Option Nat :=
  match poll.phase with
  | .starting => some now
  | .unmounted => if poll.mountsNews || poll.mountsFinal then some now else none
  | .watching => if poll.queryNews || poll.queryFinal then some now else some poll.ticker.dueAt
  | .asking _ _ => none
  | .stopped => none

/-- Asks for the page of the latest query. -/
def ask (poll : BulkPoll) (store : Store) : BulkPoll × Store × Option Call :=
  let drawn := store.draw
  ({ poll with phase := .asking poll.query drawn.2 }, drawn.1, some (.list poll.query))

/-- Waits for a mount, unless there can be none. -/
def park (poll : BulkPoll) : BulkPoll :=
  if poll.mountsFinal then poll.stop else { poll with phase := .unmounted, mountsNews := false }

/-- Asks if the list is still mounted. -/
def askOrPark (poll : BulkPoll) (store : Store) : BulkPoll × Store × Option Call :=
  if poll.isMounted then poll.ask store else (poll.park, store, none)

/-- Whether the tick is taken: it is due, and no news of the query comes first. -/
def takesTick (poll : BulkPoll) (first : Precedence) (now : Nat) : Bool :=
  poll.ticker.isDue now && (first = .tick || !(poll.queryNews || poll.queryFinal))

/-- Asks if there is another query or the tick is due, and waits otherwise. Another query restarts
the rhythm. -/
def watch (poll : BulkPoll) (first : Precedence) (now : Nat) (store : Store) :
    BulkPoll × Store × Option Call :=
  if poll.takesTick first now then { poll with ticker := poll.ticker.take now }.askOrPark store
  else if poll.queryNews then
    { poll with queryNews := false, ticker := poll.ticker.reset now }.askOrPark store
  else if poll.queryFinal then (poll.stop, store, none)
  else ({ poll with phase := .watching }, store, none)

/-- Watches if the list is mounted, and waits for a mount otherwise. -/
def resume (poll : BulkPoll) (first : Precedence) (now : Nat) (store : Store) :
    BulkPoll × Store × Option Call :=
  if poll.isMounted then { poll with mountsNews := false }.watch first now store
  else (poll.park, store, none)

/-- Leaves the wait for a mount if there is one, which asks at once. -/
def awaitMount (poll : BulkPoll) (first : Precedence) (now : Nat) (store : Store) :
    BulkPoll × Store × Option Call :=
  if poll.mountsNews && poll.isMounted then
    { poll with mountsNews := false, ticker := poll.ticker.resetNow now }.watch first now store
  else if poll.mountsNews || poll.mountsFinal then (poll.park, store, none)
  else (poll, store, none)

/-- Acts if there is anything to do. No rhythm can be kept without a period: such a poll stops at
once. -/
def turn (poll : BulkPoll) (first : Precedence) (now : Nat) (store : Store) :
    BulkPoll × Store × Option Call :=
  match poll.phase with
  | .starting =>
      if poll.ticker.period = 0 then (poll.stop, store, none)
      else { poll with ticker := poll.ticker.resetNow now }.resume first now store
  | .unmounted => poll.awaitMount first now store
  | .watching => poll.watch first now store
  | .asking _ _ => (poll, store, none)
  | .stopped => (poll, store, none)

/-- Merges the answer to a request and displays its page. A failed request changes nothing. -/
def merge (query : Query) (sequence : Sequence) (wall : Instant) (answer : Except Fault Page)
    (store : Store) : Store :=
  match answer with
  | .ok page => (store.applyPage query page sequence wall).1
  | .error _ => store

/-- Takes up the answer to the request under way, and goes on. -/
def accept (poll : BulkPoll) (first : Precedence) (now : Nat) (wall : Instant)
    (answer : Except Fault Page) (store : Store) : BulkPoll × Store × Option Call :=
  match poll.phase with
  | .asking query sequence => poll.resume first now (merge query sequence wall answer store)
  | .starting => (poll, store, none)
  | .unmounted => (poll, store, none)
  | .watching => (poll, store, none)
  | .stopped => (poll, store, none)

end BulkPoll

end LiveJobs
