import LiveJobs.Cancellation
import LiveJobs.Event.Routing
import LiveJobs.Poll.Active
import LiveJobs.Poll.Bulk
import LiveJobs.Poll.Single
import LiveJobs.Push.Connection
import LiveJobs.Settings.Basic

/-!
# Sessions

A session keeps one store up to date from all sources: push connections, the poll of the displayed
page, the poll of the running jobs, and a poll for each job that is followed. The sources know
nothing of one another, with one exception: an event that tells of work on a resource that the poll
of the running jobs does not know wakes that poll.
-/

namespace LiveJobs

open LiveJobs.Time

/-- The poll of a job that is or was followed. -/
structure Watcher where
  job : JobId
  poll : SinglePoll
  /-- Whether the job is no longer followed. -/
  dismissed : Bool
  deriving DecidableEq, Repr

/-- All sources and the store they write to. -/
structure Session where
  store : Store
  streams : List Connection
  bulk : BulkPoll
  active : ActivePoll
  /-- The polls of single jobs, in the order in which they were started. -/
  watchers : List Watcher
  cancellations : Cancellations

namespace Session

/-- A session at its start, with a connection to each of some channels. -/
def start (settings : Settings) (channels : List Channel) (now : Nat) : Session where
  store := .initial settings.retention
  streams := channels.map fun channel => .start channel settings.reconnect none
  bulk := .start settings.bulkInterval 0 (.ofPage 1 settings.pageSize) now
  active := .start settings.activeInterval settings.pageSize
  watchers := []
  cancellations := .none

/-- A session in which only the store is of use: it has no connections, and its polls have
stopped. -/
def quiet (retention : Nat) : Session where
  store := .initial retention
  streams := []
  bulk := (BulkPoll.start 1 0 .standard 0).stop
  active := (ActivePoll.start 0 0).stop
  watchers := []
  cancellations := .none

/-- Whether a job is followed. -/
def isWatched (session : Session) (job : JobId) : Bool :=
  session.watchers.any fun watcher => watcher.job = job && !watcher.dismissed

/-- Follows a job: pins it, and polls it unless that is done already. -/
def watch (session : Session) (job : JobId) (now : Nat) : Session :=
  let pinned := { session with store := (session.store.pin job).1 }
  if session.isWatched job then pinned
  else { pinned with watchers := session.watchers ++ [⟨job, .start now, false⟩] }

/-- Stops the polls of a job for good. -/
def Watcher.dismiss (job : JobId) (watcher : Watcher) : Watcher :=
  if watcher.job = job then { watcher with poll := .stopped, dismissed := true } else watcher

/-- No longer follows a job. -/
def unwatch (session : Session) (job : JobId) : Session :=
  { session with
    store := (session.store.unpin job).1
    watchers := session.watchers.map (Watcher.dismiss job) }

/-- Registers somebody who has the list mounted. -/
def mount (session : Session) : Session :=
  { session with bulk := session.bulk.setMounts (session.bulk.mounts + 1) }

/-- Takes one mount back. -/
def unmount (session : Session) : Session :=
  { session with bulk := session.bulk.setMounts (session.bulk.mounts - 1) }

/-- Chooses the displayed page. -/
def setQuery (session : Session) (query : Query) : Session :=
  { session with bulk := session.bulk.setQuery query }

/-- Whether a cancellation may be offered for a job. -/
def isCancellable (session : Session) (job : JobId) : Bool :=
  session.cancellations.isCancellable session.store job

/-- Starts a request to cancel a job. -/
def beginCancel (session : Session) (job : JobId) : Except CancelError (Session × CancelRequest) :=
  (session.cancellations.begin session.store job).map fun begun =>
    ({ session with cancellations := begun.1 }, begun.2)

/-- Ends a request to cancel a job. -/
def releaseCancel (session : Session) (job : JobId) : Session :=
  { session with cancellations := session.cancellations.release job }

/-- Whether patches, once they are stored, tell of work that a map does not have. -/
def tellsOfNewWork (store : Store) (known : ActiveMap) (patches : List Patch) : Bool :=
  patches.any fun patch =>
    (store.job? patch.id).any fun job => known.lacks job patch.reportedResource?

/-- Takes up an event of a channel. The sequence is drawn first; an event that cannot be routed
changes nothing else. -/
def receive (session : Session) (channel : Channel) (wall : Instant) (event : Event) : Session :=
  let drawn := session.store.draw
  match event.patches channel wall with
  | .error _ => { session with store := drawn.1 }
  | .ok [] => { session with store := drawn.1 }
  | .ok patches =>
      let store := (drawn.1.applyAll patches .stream drawn.2).1
      let active :=
        if tellsOfNewWork store session.active.known patches then session.active.wake
        else session.active
      { session with store := store, active := active }

/-- Stops all sources. -/
def shutdown (session : Session) : Session :=
  { session with
    streams := session.streams.map Connection.close
    bulk := session.bulk.stop
    active := session.active.stop
    watchers := session.watchers.map fun watcher => { watcher with poll := .stopped } }

end Session

end LiveJobs
