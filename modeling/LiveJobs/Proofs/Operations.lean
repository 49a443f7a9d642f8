import LiveJobs.Proofs.Merging
import LiveJobs.Proofs.Sources

/-!
# Runs of a store

A store is written to in several ways, one report or many at a time, and the page and the pins are
kept beside the jobs. None of this shows in the jobs: they are what the pure merge makes of all
reports in their order, and each job is what it makes of the reports about that job.
-/

namespace LiveJobs

/-- What can be done to a store. -/
inductive Operation where
  /-- Draws a sequence. -/
  | draw
  /-- Merges an answer under a sequence, one report or many, or those of a page. -/
  | merge (sequence : Sequence) (answer : Answer)
  | pin (id : JobId)
  | unpin (id : JobId)

/-- The reports that an operation merges. -/
def Operation.reports : Operation → List Report
  | .draw => []
  | .merge sequence answer => answer.reports sequence
  | .pin _ => []
  | .unpin _ => []

namespace Answer

/-- What a store says to the reports of an answer. -/
def outcomes (sequence : Sequence) (store : Store) : Answer → List Outcome
  | .one patch origin => [(store.apply ⟨patch, origin, sequence⟩).2]
  | .many patches origin => (store.applyAll patches origin sequence).2
  | .page query listed observedAt => (store.applyPage query listed sequence observedAt).2

/-- Whatever write merges them, the outcomes are those of the reports. -/
theorem outcomes_eq (answer : Answer) (sequence : Sequence) (store : Store) :
    answer.outcomes sequence store =
      (store.snapshot.jobs.mergeAll (answer.reports sequence)).2 := by
  cases answer with
  | one patch origin => rfl
  | many patches origin => rfl
  | page query listed observedAt =>
      simp only [outcomes, Store.applyPage, Snapshot.adoptPage]
      split
      · rfl
      · rfl

end Answer

namespace Store

/-- What an operation makes of a store, with the outcomes of the reports that it merges. -/
def perform (store : Store) : Operation → Store × List Outcome
  | .draw => (store.draw.1, [])
  | .merge sequence answer => (answer.merge sequence store, answer.outcomes sequence store)
  | .pin id => ((store.pin id).1, [])
  | .unpin id => ((store.unpin id).1, [])

/-- Performs operations, one after the other, and gives the outcomes of all reports. -/
def run (store : Store) : List Operation → Store × List Outcome
  | [] => (store, [])
  | operation :: rest =>
      let performed := store.perform operation
      let behind := run performed.1 rest
      (behind.1, performed.2 ++ behind.2)

variable (store : Store) (operation : Operation) (operations : List Operation)

/-- The jobs change by the reports of an operation alone. -/
theorem perform_jobs :
    (store.perform operation).1.snapshot.jobs =
      (store.snapshot.jobs.mergeAll operation.reports).1 := by
  cases operation with
  | draw => rfl
  | merge sequence answer => exact answer.jobs_merge sequence store
  | pin id => exact store.pin_jobs id
  | unpin id => exact store.unpin_jobs id

theorem perform_outcomes :
    (store.perform operation).2 = (store.snapshot.jobs.mergeAll operation.reports).2 := by
  cases operation with
  | draw => rfl
  | merge sequence answer => exact answer.outcomes_eq sequence store
  | pin id => rfl
  | unpin id => rfl

/-- A run merges the reports of its operations in their order. -/
theorem run_jobs :
    (store.run operations).1.snapshot.jobs =
      (store.snapshot.jobs.mergeAll (operations.flatMap Operation.reports)).1 := by
  induction operations generalizing store with
  | nil => rfl
  | cons operation rest ih =>
      rw [run, ih, perform_jobs, List.flatMap_cons, JobMap.mergeAll_append]

theorem run_outcomes :
    (store.run operations).2 =
      (store.snapshot.jobs.mergeAll (operations.flatMap Operation.reports)).2 := by
  induction operations generalizing store with
  | nil => rfl
  | cons operation rest ih =>
      rw [run, ih, perform_jobs, perform_outcomes, List.flatMap_cons, JobMap.mergeAll_append]

/-- After a run the entry of a job is what the reports about it make of the one before. -/
theorem get?_run (id : JobId) :
    (store.run operations).1.snapshot.jobs.get? id =
      Report.entryAfterAll
        ((operations.flatMap Operation.reports).filter fun report => report.patch.id = id)
        (store.snapshot.jobs.get? id) := by
  rw [run_jobs, JobMap.get?_mergeAll]

theorem get?_perform_ne_none {id : JobId} (stored : store.snapshot.jobs.get? id ≠ none) :
    (store.perform operation).1.snapshot.jobs.get? id ≠ none := by
  obtain ⟨entry, found⟩ := Option.ne_none_iff_exists'.1 stored
  obtain ⟨last, kept, -⟩ := JobMap.run_of_get? found operation.reports
  rw [perform_jobs, kept]
  exact Option.some_ne_none last

theorem job?_perform_of_terminal {id : JobId} {stored : Job} (found : store.job? id = some stored)
    (ended : stored.isTerminal = true) : (store.perform operation).1.job? id = some stored := by
  rw [job?, Snapshot.job?, JobMap.job?, Option.map_eq_some_iff] at found
  obtain ⟨entry, present, rfl⟩ := found
  obtain ⟨last, kept, merged⟩ := JobMap.run_of_get? present operation.reports
  rw [job?, Snapshot.job?, JobMap.job?, perform_jobs, kept, merged.eq_of_terminal ended]
  rfl

theorem job?_run_of_terminal {id : JobId} {stored : Job} (found : store.job? id = some stored)
    (ended : stored.isTerminal = true) : (store.run operations).1.job? id = some stored := by
  induction operations generalizing store with
  | nil => exact found
  | cons operation rest ih => exact ih _ (store.job?_perform_of_terminal operation found ended)

/-- A run of a store is a merge of reports. Whatever is done to a new store, its jobs and the
outcomes that it gives are those of merging all reports into an empty map, in their order: those of
a batch and of a page count one by one. Each job is what the reports about it make of nothing, so
two runs with the same reports about a job agree on it, whatever else they do. No operation removes
a job. -/
theorem run_refines_merge (retention : Nat) (operations : List Operation) :
    ((initial retention).run operations).1.snapshot.jobs =
      (JobMap.empty.mergeAll (operations.flatMap Operation.reports)).1 ∧
    ((initial retention).run operations).2 =
      (JobMap.empty.mergeAll (operations.flatMap Operation.reports)).2 ∧
    (∀ id, ((initial retention).run operations).1.snapshot.jobs.get? id =
      Report.entryAfterAll
        ((operations.flatMap Operation.reports).filter fun report => report.patch.id = id)
        none) ∧
    (∀ id others,
      ((others.flatMap Operation.reports).filter fun report => report.patch.id = id) =
        ((operations.flatMap Operation.reports).filter fun report => report.patch.id = id) →
      ((initial retention).run others).1.snapshot.jobs.get? id =
        ((initial retention).run operations).1.snapshot.jobs.get? id) ∧
    (∀ id next, ((initial retention).run operations).1.snapshot.jobs.get? id ≠ none →
      (((initial retention).run operations).1.perform next).1.snapshot.jobs.get? id ≠ none) := by
  refine ⟨run_jobs _ _, run_outcomes _ _, get?_run _ _, ?_, ?_⟩
  · intro id others same
    rw [get?_run, get?_run, same]
  · intro id next
    exact get?_perform_ne_none _ next

/-- A count for one job comes in a batch with news of another one, which is pinned, and then a page
that was asked for earlier shows the first job. -/
def mixedRun : List Operation :=
  [.draw, .draw, .pin ⟨"job-2"⟩,
    .merge 2 (.many [.empty ⟨"job-2"⟩ ⟨10, 0⟩, (Patch.empty ⟨"job-1"⟩ ⟨10, 0⟩).withCounters 3 4]
      .stream),
    .merge 1 (.page .standard ⟨[.fresh ⟨"job-1"⟩ .remoteBackup .none ⟨5, 0⟩], 1, 1⟩ ⟨12, 0⟩)]

/-- What the run says about the first job, one report at a time. -/
def plainRun : List Operation :=
  [.merge 2 (.one ((Patch.empty ⟨"job-1"⟩ ⟨10, 0⟩).withCounters 3 4) .stream),
    .merge 1 (.one (.ofJob (.fresh ⟨"job-1"⟩ .remoteBackup .none ⟨5, 0⟩) ⟨12, 0⟩) .bulkPoll)]

theorem mixedRun_agrees :
    ((initial 10000).run plainRun).1.snapshot.jobs.get? ⟨"job-1"⟩ =
        ((initial 10000).run mixedRun).1.snapshot.jobs.get? ⟨"job-1"⟩ ∧
      (((initial 10000).run mixedRun).1.perform (.unpin ⟨"job-2"⟩)).1.snapshot.jobs.get?
        ⟨"job-2"⟩ ≠ none := by
  obtain ⟨-, -, entries, alike, kept⟩ := run_refines_merge 10000 mixedRun
  refine ⟨alike _ plainRun rfl, kept _ _ ?_⟩
  rw [entries]
  exact Option.some_ne_none _

end Store

end LiveJobs
