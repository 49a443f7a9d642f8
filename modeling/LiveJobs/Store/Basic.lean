import LiveJobs.Store.Clock
import LiveJobs.Store.Snapshot

/-!
# The store

The shared state of all jobs, which every source writes to. Each write builds a new snapshot;
subscribers hear of it only if something that can be seen has changed, and the version then grows by
one. Stamps may move without that.
-/

namespace LiveJobs

open LiveJobs.Time

/-- What a write makes of a snapshot. -/
structure Write (α : Type) where
  snapshot : Snapshot
  /-- Whether the write can be seen. -/
  changed : Bool
  answer : α

namespace Snapshot

/-- Merges reports. -/
def mergeAll (snapshot : Snapshot) (reports : List Report) : Write (List Outcome) :=
  let merged := snapshot.jobs.mergeAll reports
  ⟨{ snapshot with jobs := merged.1 }, merged.2.any Outcome.changed, merged.2⟩

/-- Merges one report. -/
def merge (snapshot : Snapshot) (report : Report) : Write Outcome :=
  let merged := snapshot.jobs.merge report
  ⟨{ snapshot with jobs := merged.1 }, merged.2.changed, merged.2⟩

/-- The reports that an answer to a query makes: one for each record. -/
def pageReports (page : Page) (sequence : Sequence) (observedAt : Instant) : List Report :=
  page.items.map fun job => ⟨.ofJob job observedAt, .bulkPoll, sequence⟩

/-- Merges the records of an answer, and displays its page unless a newer answer is displayed. -/
def adoptPage (snapshot : Snapshot) (query : Query) (page : Page) (sequence : Sequence)
    (observedAt : Instant) : Write (List Outcome) :=
  let merged := snapshot.mergeAll (pageReports page sequence observedAt)
  if snapshot.page.sequence ≤ sequence then
    let next := PageState.ofPage query page sequence
    { snapshot := { merged.snapshot with page := next }
      changed := merged.changed || !next.looksLike snapshot.page
      answer := merged.answer }
  else merged

/-- Pins a job that is not pinned yet. -/
def pin (snapshot : Snapshot) (id : JobId) : Write Bool :=
  if snapshot.pinned.contains id then ⟨snapshot, false, false⟩
  else ⟨{ snapshot with pinned := id :: snapshot.pinned }, true, true⟩

/-- Takes the pin off a job. -/
def unpin (snapshot : Snapshot) (id : JobId) : Write Bool :=
  let kept := snapshot.pinned.filter fun pinned => pinned ≠ id
  let removed := kept.length != snapshot.pinned.length
  ⟨{ snapshot with pinned := kept }, removed, removed⟩

end Snapshot

/-- The shared state of all jobs. -/
structure Store where
  clock : Clock
  snapshot : Snapshot
  /-- How long jobs that have ended stay in the active set, in milliseconds. -/
  retention : Nat
  /-- How often subscribers have been told of a change. -/
  announced : Nat

namespace Store

/-- The retention of a store that is told nothing else: ten seconds. -/
def standardRetention : Nat := 10000

def initial (retention : Nat) : Store := ⟨.initial, .initial, retention, 0⟩

/-- Draws a sequence for an event received now or a request issued now. -/
def draw (store : Store) : Store × Sequence :=
  let ticked := store.clock.tick
  ({ store with clock := ticked.1 }, ticked.2)

/-- Replaces the snapshot by what a write made of it. -/
def commit {α : Type} (store : Store) (write : Write α) : Store :=
  if write.changed then
    { store with
      snapshot := { write.snapshot with version := write.snapshot.version + 1 }
      announced := store.announced + 1 }
  else { store with snapshot := write.snapshot }

/-- Merges one report. -/
def apply (store : Store) (report : Report) : Store × Outcome :=
  let write := store.snapshot.merge report
  (store.commit write, write.answer)

/-- Merges patches that were observed together. Subscribers see all of them or none. -/
def applyAll (store : Store) (patches : List Patch) (origin : Origin) (sequence : Sequence) :
    Store × List Outcome :=
  let write := store.snapshot.mergeAll (patches.map fun patch => ⟨patch, origin, sequence⟩)
  (store.commit write, write.answer)

/-- Merges the answer to a query of the job list. -/
def applyPage (store : Store) (query : Query) (page : Page) (sequence : Sequence)
    (observedAt : Instant) : Store × List Outcome :=
  let write := store.snapshot.adoptPage query page sequence observedAt
  (store.commit write, write.answer)

/-- Keeps a job at the top of the list until it is unpinned, and says whether that is new. -/
def pin (store : Store) (id : JobId) : Store × Bool :=
  let write := store.snapshot.pin id
  (store.commit write, write.answer)

/-- Takes the pin off a job, and says whether it had one. -/
def unpin (store : Store) (id : JobId) : Store × Bool :=
  let write := store.snapshot.unpin id
  (store.commit write, write.answer)

/-- The entry of a job. -/
def entry? (store : Store) (id : JobId) : Option Entry := store.snapshot.jobs.get? id

/-- The record of a job. -/
def job? (store : Store) (id : JobId) : Option Job := store.snapshot.job? id

/-- The active jobs at a moment. -/
def activeJobs (store : Store) (now : Instant) : List Job :=
  store.snapshot.activeJobs now store.retention

end Store

end LiveJobs
