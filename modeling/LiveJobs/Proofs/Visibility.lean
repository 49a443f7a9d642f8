import LiveJobs.Proofs.Changes
import LiveJobs.Proofs.Operations

/-!
# What subscribers are told

A store replaces its snapshot with every operation, but tells subscribers of some only. Whether they
are told is decided in three ways: by what the merge answers to each report, by a look at two pages
that leaves out their sequences, and by a count of the pins. All three are right about the snapshot
as a whole. Subscribers are told of every operation that shows, and of no single report, pin or
unpin that does not. What does not show is stored all the same, so that later reports meet it.

A batch may be announced although nothing shows in the end: a later report of it may take back what
an earlier one has changed.
-/

namespace LiveJobs

open LiveJobs.Time

/-! ## What can be seen -/

/-- What can be seen of a snapshot: the records without their stamps, and the page without its
sequence. -/
@[ext] structure Sight where
  record : JobId → Option Job
  ids : List JobId
  total : Nat
  totalPages : Nat
  page : Nat
  pageSize : Nat
  pinned : List JobId

namespace Sight

/-- Whether there is a difference to be seen. Records are compared as the merge compares them; a
record with a percentage that is not a number differs from itself then. -/
def Differs (left right : Sight) : Prop :=
  (∃ id, (left.record id == right.record id) = false) ∨ left.ids ≠ right.ids ∨
    left.total ≠ right.total ∨ left.totalPages ≠ right.totalPages ∨ left.page ≠ right.page ∨
    left.pageSize ≠ right.pageSize ∨ left.pinned ≠ right.pinned

theorem Differs.ne {left right : Sight} (differs : left.Differs right)
    (comparable : ∀ id, (left.record id == left.record id) = true) : left ≠ right := by
  rintro rfl
  rcases differs with ⟨id, record⟩ | ids | total | totalPages | page | pageSize | pinned
  · rw [comparable id] at record
    cases record
  · exact ids rfl
  · exact total rfl
  · exact totalPages rfl
  · exact page rfl
  · exact pageSize rfl
  · exact pinned rfl

end Sight

theorem PageState.looksLike_iff (left right : PageState) :
    left.looksLike right = true ↔
      left.ids = right.ids ∧ left.total = right.total ∧ left.totalPages = right.totalPages ∧
        left.page = right.page ∧ left.pageSize = right.pageSize := by
  rw [looksLike, beq_iff_eq]
  constructor
  · intro same
    rw [← same]
    exact ⟨rfl, rfl, rfl, rfl, rfl⟩
  · rintro ⟨ids, total, totalPages, page, pageSize⟩
    rw [ids, total, totalPages, page, pageSize]

/-- What can be seen of a snapshot. -/
def Snapshot.sight (snapshot : Snapshot) : Sight where
  record := snapshot.job?
  ids := snapshot.page.ids
  total := snapshot.page.total
  totalPages := snapshot.page.totalPages
  page := snapshot.page.page
  pageSize := snapshot.page.pageSize
  pinned := snapshot.pinned

/-- The list is made of what can be seen. -/
theorem Snapshot.view_congr {left right : Snapshot} (same : left.sight = right.sight) :
    left.view = right.view := by
  have record : left.job? = right.job? := congrArg Sight.record same
  have ids : left.page.ids = right.page.ids := congrArg Sight.ids same
  have total : left.page.total = right.page.total := congrArg Sight.total same
  have totalPages : left.page.totalPages = right.page.totalPages := congrArg Sight.totalPages same
  have pinned : left.pinned = right.pinned := congrArg Sight.pinned same
  simp only [view, prepended, record, ids, total, totalPages, pinned]

/-! ## Writes -/

/-- A write leaves the counting to the store, and nothing of it shows unless it says so. -/
structure Write.Honest {α : Type} (write : Write α) (before : Snapshot) : Prop where
  version : write.snapshot.version = before.version
  sight : write.changed = false → write.snapshot.sight = before.sight

namespace Snapshot

variable (snapshot : Snapshot)

/-- Records that stay as they are cannot be told from each other, whatever stamps they bear. -/
theorem sight_withJobs {jobs : JobMap} (same : ∀ id, jobs.job? id = snapshot.jobs.job? id) :
    { snapshot with jobs := jobs }.sight = snapshot.sight := by
  have record : jobs.job? = snapshot.jobs.job? := funext same
  exact Sight.ext record rfl rfl rfl rfl rfl rfl

theorem honest_merge (report : Report) : (snapshot.merge report).Honest snapshot where
  version := rfl
  sight := by
    intro quiet
    apply snapshot.sight_withJobs
    exact JobMap.job?_merge_of_quiet quiet

theorem honest_mergeAll (reports : List Report) : (snapshot.mergeAll reports).Honest snapshot where
  version := rfl
  sight := by
    intro quiet
    apply snapshot.sight_withJobs
    exact JobMap.job?_mergeAll_of_quiet quiet

theorem honest_adoptPage (query : Query) (listed : Page) (sequence : Sequence)
    (observedAt : Instant) :
    (snapshot.adoptPage query listed sequence observedAt).Honest snapshot := by
  have merged := snapshot.honest_mergeAll (pageReports listed sequence observedAt)
  simp only [adoptPage]
  split
  next current =>
    -- The new page is stored even if it looks the same: its sequence may be another one.
    refine ⟨merged.version, ?_⟩
    intro quiet
    rw [Bool.or_eq_false_iff, Bool.not_eq_false'] at quiet
    obtain ⟨ids, total, totalPages, page, pageSize⟩ := (PageState.looksLike_iff _ _).1 quiet.2
    have record := congrArg Sight.record (merged.sight quiet.1)
    exact Sight.ext record ids total totalPages page pageSize rfl
  next => exact merged

theorem honest_pin (id : JobId) : (snapshot.pin id).Honest snapshot := by
  simp only [pin]
  split
  next => exact ⟨rfl, fun _ => rfl⟩
  next => exact ⟨rfl, fun quiet => nomatch quiet⟩

theorem honest_unpin (id : JobId) : (snapshot.unpin id).Honest snapshot where
  version := rfl
  sight := by
    intro quiet
    -- Only lengths are compared, but what is left of a list in its full length is the list.
    have kept : snapshot.pinned.filter (fun pinned => pinned ≠ id) = snapshot.pinned :=
      List.filter_sublist.eq_of_length (bne_eq_false_iff_eq.1 quiet)
    exact Sight.ext rfl rfl rfl rfl rfl rfl kept

end Snapshot

/-! ## Stores -/

namespace Store

/-- How subscribers learn what has become of a store: the version grows as often as they are told,
and unless it has grown nothing shows. -/
structure Announces (before after : Store) : Prop where
  grows : before.snapshot.version ≤ after.snapshot.version
  told : after.announced + before.snapshot.version =
    before.announced + after.snapshot.version
  sight : after.snapshot.version = before.snapshot.version →
    after.snapshot.sight = before.snapshot.sight

namespace Announces

theorem refl (store : Store) : Announces store store where
  grows := Nat.le_refl _
  told := rfl
  sight := fun _ => rfl

theorem trans {first second third : Store} (earlier : Announces first second)
    (later : Announces second third) : Announces first third where
  grows := Nat.le_trans earlier.grows later.grows
  told := by
    have before := earlier.told
    have after := later.told
    omega
  sight := by
    intro same
    have between : second.snapshot.version = first.snapshot.version :=
      Nat.le_antisymm (same ▸ later.grows) earlier.grows
    exact (later.sight (same.trans between.symm)).trans (earlier.sight between)

end Announces

section Commit

variable {α : Type} {store : Store} {write : Write α}

theorem commit_page (store : Store) (write : Write α) :
    (store.commit write).snapshot.page = write.snapshot.page := by
  simp only [commit]
  split
  · rfl
  · rfl

theorem commit_sight (store : Store) (write : Write α) :
    (store.commit write).snapshot.sight = write.snapshot.sight := by
  simp only [commit]
  split
  · rfl
  · rfl

theorem version_commit (honest : write.Honest store.snapshot) :
    (store.commit write).snapshot.version =
      store.snapshot.version + if write.changed then 1 else 0 := by
  rw [← honest.version]
  simp only [commit]
  split
  · rfl
  · rfl

theorem announced_commit (store : Store) (write : Write α) :
    (store.commit write).announced = store.announced + if write.changed then 1 else 0 := by
  simp only [commit]
  split
  · rfl
  · rfl

/-- An honest write is announced if it shows. -/
theorem announces_commit (honest : write.Honest store.snapshot) :
    Announces store (store.commit write) where
  grows := by
    rw [version_commit honest]
    exact Nat.le_add_right _ _
  told := by
    rw [version_commit honest, announced_commit]
    omega
  sight := by
    rw [version_commit honest, commit_sight]
    cases changed : write.changed with
    | true => exact fun same => absurd same (Nat.succ_ne_self _)
    | false => exact fun _ => honest.sight changed

/-- No write is announced twice. -/
theorem version_commit_le (honest : write.Honest store.snapshot) :
    (store.commit write).snapshot.version ≤ store.snapshot.version + 1 := by
  rw [version_commit honest]
  apply Nat.add_le_add_left
  split
  · exact Nat.le_refl 1
  · exact Nat.zero_le 1

/-- The version grows by no write that is not said to show. -/
theorem changed_of_version_commit_ne (honest : write.Honest store.snapshot)
    (grown : (store.commit write).snapshot.version ≠ store.snapshot.version) :
    write.changed = true := by
  rw [version_commit honest] at grown
  cases changed : write.changed with
  | true => rfl
  | false =>
      rw [changed] at grown
      exact absurd rfl grown

end Commit

variable (store : Store)

/-- Every operation but a draw is an honest write. -/
theorem perform_cases (operation : Operation) :
    (store.perform operation).1 = store.draw.1 ∨
      ∃ (α : Type) (write : Write α), write.Honest store.snapshot ∧
        (store.perform operation).1 = store.commit write := by
  cases operation with
  | draw => exact .inl rfl
  | merge sequence answer =>
      right
      cases answer with
      | one patch origin => exact ⟨_, _, store.snapshot.honest_merge _, rfl⟩
      | many patches origin => exact ⟨_, _, store.snapshot.honest_mergeAll _, rfl⟩
      | page query listed observedAt =>
          exact ⟨_, _, store.snapshot.honest_adoptPage query listed sequence observedAt, rfl⟩
  | pin id => exact .inr ⟨_, _, store.snapshot.honest_pin id, rfl⟩
  | unpin id => exact .inr ⟨_, _, store.snapshot.honest_unpin id, rfl⟩

theorem announces_perform (operation : Operation) :
    Announces store (store.perform operation).1 := by
  rcases store.perform_cases operation with drawn | ⟨α, write, honest, written⟩
  · rw [drawn]
    exact ⟨Nat.le_refl _, rfl, fun _ => rfl⟩
  · rw [written]
    exact announces_commit honest

theorem version_perform_le (operation : Operation) :
    (store.perform operation).1.snapshot.version ≤ store.snapshot.version + 1 := by
  rcases store.perform_cases operation with drawn | ⟨α, write, honest, written⟩
  · rw [drawn]
    exact Nat.le_succ store.snapshot.version
  · rw [written]
    exact version_commit_le honest

/-- What is announced of each operation is announced of a run: a subscriber who finds the version
unchanged has missed nothing, however long it was away. -/
theorem announces_run (operations : List Operation) :
    Announces store (store.run operations).1 := by
  induction operations generalizing store with
  | nil => exact Announces.refl store
  | cons operation rest ih => exact (store.announces_perform operation).trans (ih _)

/-- The version of a store counts what subscribers have been told. -/
theorem announced_run_initial (retention : Nat) (operations : List Operation) :
    ((initial retention).run operations).1.announced =
      ((initial retention).run operations).1.snapshot.version := by
  have told := ((initial retention).announces_run operations).told
  simpa [initial, Snapshot.initial] using told

end Store

/-! ## Single reports and pins -/

/-- Whether an operation writes at most one thing, so that nothing of it can be taken back by the
rest of it. -/
def Operation.isSingle : Operation → Bool
  | .merge _ (.one _ _) => true
  | .merge _ (.many _ _) => false
  | .merge _ (.page _ _ _) => false
  | .draw => true
  | .pin _ => true
  | .unpin _ => true

namespace Snapshot

variable {snapshot : Snapshot}

theorem differs_merge {report : Report} (changed : (snapshot.merge report).changed = true) :
    snapshot.sight.Differs (snapshot.merge report).snapshot.sight :=
  .inl ⟨report.patch.id, JobMap.job?_merge_of_changed changed⟩

theorem pinned_pin_ne {id : JobId} (changed : (snapshot.pin id).changed = true) :
    snapshot.pinned ≠ (snapshot.pin id).snapshot.pinned := by
  revert changed
  simp only [pin]
  split
  next => exact fun changed => nomatch changed
  next => exact fun _ same => List.cons_ne_self id snapshot.pinned same.symm

theorem pinned_unpin_ne {id : JobId} (changed : (snapshot.unpin id).changed = true) :
    snapshot.pinned ≠ (snapshot.unpin id).snapshot.pinned := by
  intro same
  have shorter := bne_iff_ne.1 changed
  exact shorter (congrArg List.length same).symm

end Snapshot

namespace Store

variable {store : Store}

/-- A single report, pin or unpin is announced only if it shows. -/
theorem differs_of_single {operation : Operation} (single : operation.isSingle = true)
    (grown : (store.perform operation).1.snapshot.version ≠ store.snapshot.version) :
    store.snapshot.sight.Differs (store.perform operation).1.snapshot.sight := by
  cases operation with
  | draw => exact absurd rfl grown
  | merge sequence answer =>
      cases answer with
      | one patch origin =>
          have changed := changed_of_version_commit_ne (store.snapshot.honest_merge _) grown
          have differs := Snapshot.differs_merge changed
          rwa [← store.commit_sight] at differs
      | many patches origin => cases single
      | page query listed observedAt => cases single
  | pin id =>
      have changed := changed_of_version_commit_ne (store.snapshot.honest_pin id) grown
      have differs := Snapshot.pinned_pin_ne changed
      have seen := congrArg Sight.pinned (store.commit_sight (store.snapshot.pin id))
      exact .inr (.inr (.inr (.inr (.inr (.inr (seen.symm ▸ differs))))))
  | unpin id =>
      have changed := changed_of_version_commit_ne (store.snapshot.honest_unpin id) grown
      have differs := Snapshot.pinned_unpin_ne changed
      have seen := congrArg Sight.pinned (store.commit_sight (store.snapshot.unpin id))
      exact .inr (.inr (.inr (.inr (.inr (.inr (seen.symm ▸ differs))))))

end Store

/-! ## What does not show -/

/-- A patch that repeats the type of a job and says nothing else. -/
def Patch.repeatingType (job : Job) (observedAt : Instant) : Patch :=
  { Patch.empty job.id observedAt with jobType := some job.jobType }

/-- All that a repeated type does is to raise its stamp. -/
theorem Overlay.ofPatch_repeatingType {entry : Entry} {sequence : Sequence}
    (active : entry.job.isTerminal = false) (fresher : entry.stamps.get .jobType ≤ sequence)
    (observedAt : Instant) :
    ofPatch (.repeatingType entry.job observedAt) sequence entry =
      ⟨entry.job, entry.stamps.raise .jobType sequence, []⟩ := by
  have written : (start entry).write sequence .jobType entry.job.jobType =
      ⟨entry.job, entry.stamps.raise .jobType sequence, []⟩ := by
    have accepted : entry.stamps.accepts .jobType sequence = true := decide_eq_true fresher
    have same : Field.jobType.sameValue entry.job.jobType entry.job.jobType = true :=
      beq_self_eq_true entry.job.jobType
    simp only [write, start, accepted, if_true]
    exact if_pos same
  have progressed : Field.progressive.foldl
      (take (.repeatingType entry.job observedAt) entry.job sequence) (start entry) =
        (start entry).write sequence .jobType entry.job.jobType := rfl
  have unended : takeEnd (.repeatingType entry.job observedAt) entry.job sequence
      ⟨entry.job, entry.stamps.raise .jobType sequence, []⟩ =
        ⟨entry.job, entry.stamps.raise .jobType sequence, []⟩ := by
    simp [takeEnd, active]
  calc
    ofPatch (.repeatingType entry.job observedAt) sequence entry
    _ = takeEnd (.repeatingType entry.job observedAt) entry.job sequence
          (Field.progressive.foldl
            (take (.repeatingType entry.job observedAt) entry.job sequence) (start entry)) := rfl
    _ = ⟨entry.job, entry.stamps.raise .jobType sequence, []⟩ := by
      rw [progressed, written, unended]

/-- A repeated type is answered with no change, and yet replaces the entry. -/
theorem Report.mergeInto_repeatingType {entry : Entry} {sequence : Sequence}
    (active : entry.job.isTerminal = false) (fresher : entry.stamps.get .jobType < sequence)
    (observedAt : Instant) (origin : Origin) :
    Report.mergeInto ⟨.repeatingType entry.job observedAt, origin, sequence⟩ (some entry) =
      (some
        { job := entry.job
          stamps := entry.stamps.raise .jobType sequence
          lastOrigin := origin
          lastSequence := max entry.lastSequence sequence }, .unchanged) := by
  have laid := Overlay.ofPatch_repeatingType active (Nat.le_of_lt fresher) observedAt
  have risen : entry.stamps.raise .jobType sequence ≠ entry.stamps := by
    intro same
    have stamp := congrArg (Stamps.get · .jobType) same
    rw [Stamps.get_raise_self, Nat.max_eq_right (Nat.le_of_lt fresher)] at stamp
    exact Nat.ne_of_gt fresher stamp
  rw [mergeInto_of_touched _ active (by rw [laid]; exact fun same => risen same.2), laid]
  rfl

namespace Store

section Silent

variable (store : Store)

/-- The page that a store displays after an answer that is not older than the displayed one. -/
theorem page_of_current {query : Query} {listed : Page} {sequence : Sequence}
    {observedAt : Instant} (current : store.snapshot.page.sequence ≤ sequence) :
    (store.perform (.merge sequence (.page query listed observedAt))).1.snapshot.page =
      .ofPage query listed sequence := by
  apply (store.commit_page _).trans
  simp only [Snapshot.adoptPage]
  rw [if_pos current]

/-- A repeated type under a fresher sequence is stored and not announced. -/
theorem perform_repeatingType {id : JobId} {entry : Entry} {sequence : Sequence}
    (stored : store.snapshot.jobs.get? id = some entry) (active : entry.job.isTerminal = false)
    (fresher : entry.stamps.get .jobType < sequence) (observedAt : Instant) (origin : Origin) :
    let after :=
      (store.perform (.merge sequence (.one (.repeatingType entry.job observedAt) origin))).1
    after.snapshot.version = store.snapshot.version ∧
      after.snapshot.jobs.get? id = some
        { job := entry.job
          stamps := entry.stamps.raise .jobType sequence
          lastOrigin := origin
          lastSequence := max entry.lastSequence sequence } := by
  let report : Report := ⟨.repeatingType entry.job observedAt, origin, sequence⟩
  have about : report.patch.id = id := JobMap.id_of_get? stored
  have merged := Report.mergeInto_repeatingType active fresher observedAt origin
  have found : store.snapshot.jobs.get? report.patch.id = some entry := about ▸ stored
  have quiet : (store.snapshot.merge report).changed = false := by
    change (store.snapshot.jobs.merge report).2.changed = false
    rw [JobMap.merge_snd, found, merged]
    rfl
  constructor
  · apply (version_commit (store.snapshot.honest_merge report)).trans
    rw [quiet]
    rfl
  · rw [perform_jobs]
    apply (JobMap.get?_merge _ report id).trans
    rw [if_pos about, stored, Report.entryAfter, merged]
    rfl

end Silent

/-- Subscribers are told of what shows. An operation counts up the version and tells them, once, or
does neither. If a record, the displayed page or the pins are others than before, they are told; if
they are told nothing, the list and each record read as before. Of a single report, a pin or an
unpin they are told only if there is a difference to be seen; it is one in the strictest sense
unless some record is not the same as itself. Whether or not they are told, the entry of each job,
with its stamps, is what the reports about it make of the entry before, and an answer that is not
older than the displayed page takes its place with its sequence. That something is stored without a
word does happen: every active job takes the stamp of a report that repeats its type. -/
theorem announces_what_shows (store : Store) :
    (∀ operation,
      let after := (store.perform operation).1
      (after.snapshot.version = store.snapshot.version + 1 ∧
            after.announced = store.announced + 1 ∨
          after.snapshot.version = store.snapshot.version ∧
            after.announced = store.announced) ∧
        (after.snapshot.sight ≠ store.snapshot.sight →
          after.snapshot.version = store.snapshot.version + 1) ∧
        (after.snapshot.version = store.snapshot.version →
          after.snapshot.view = store.snapshot.view ∧ ∀ id, after.job? id = store.job? id) ∧
        (operation.isSingle = true → after.snapshot.version ≠ store.snapshot.version →
          store.snapshot.sight.Differs after.snapshot.sight ∧
            ((∀ id, (store.job? id == store.job? id) = true) →
              after.snapshot.sight ≠ store.snapshot.sight)) ∧
        ∀ id, after.snapshot.jobs.get? id =
          Report.entryAfterAll (operation.reports.filter fun report => report.patch.id = id)
            (store.snapshot.jobs.get? id)) ∧
    (∀ query listed sequence observedAt, store.snapshot.page.sequence ≤ sequence →
      (store.perform (.merge sequence (.page query listed observedAt))).1.snapshot.page =
        .ofPage query listed sequence) ∧
    ∀ id entry sequence observedAt origin,
      store.snapshot.jobs.get? id = some entry → entry.job.isTerminal = false →
      entry.stamps.get .jobType < sequence →
        let repeated := Patch.repeatingType entry.job observedAt
        let after := (store.perform (.merge sequence (.one repeated origin))).1
        after.snapshot.version = store.snapshot.version ∧
          after.snapshot.jobs.get? id = some
            { job := entry.job
              stamps := entry.stamps.raise .jobType sequence
              lastOrigin := origin
              lastSequence := max entry.lastSequence sequence } := by
  refine ⟨?_, ?_, ?_⟩
  · intro operation
    have announces := store.announces_perform operation
    have once := store.version_perform_le operation
    have grows := announces.grows
    have told := announces.told
    refine ⟨?_, ?_, ?_, ?_, ?_⟩
    · omega
    · intro shows
      have counted : (store.perform operation).1.snapshot.version ≠ store.snapshot.version :=
        fun same => shows (announces.sight same)
      omega
    · intro same
      have sight := announces.sight same
      exact ⟨Snapshot.view_congr sight, congrFun (congrArg Sight.record sight)⟩
    · intro single counted
      have differs := differs_of_single single counted
      exact ⟨differs, fun comparable => (differs.ne comparable).symm⟩
    · intro id
      rw [perform_jobs, JobMap.get?_mergeAll]
  · intro query listed sequence observedAt current
    exact store.page_of_current current
  · intro id entry sequence observedAt origin stored active fresher
    exact store.perform_repeatingType stored active fresher observedAt origin

/-- The first that is heard of a job. -/
def firstNews : Report := ⟨.empty ⟨"job-1"⟩ ⟨10, 0⟩, .stream, 1⟩

/-- A store that has heard of one job. -/
def acquainted : Store := ((initial 10000).apply firstNews).1

/-- A pin shows and is announced; a repeated type is stored without a word. -/
theorem acquainted_announces :
    (acquainted.perform (.pin ⟨"job-1"⟩)).1.snapshot.version = 2 ∧
      (acquainted.perform (.pin ⟨"job-1"⟩)).1.snapshot.sight ≠ acquainted.snapshot.sight ∧
      (acquainted.perform (.unpin ⟨"job-1"⟩)).1.snapshot.view = acquainted.snapshot.view ∧
      (acquainted.perform
        (.merge 3 (.page .standard .empty ⟨12, 0⟩))).1.snapshot.page.sequence = 3 ∧
      (acquainted.perform (.merge 4 (.one (.repeatingType firstNews.seed.job ⟨12, 0⟩)
        .singlePoll))).1.snapshot.version = 1 := by
  obtain ⟨operations, pages, silent⟩ := announces_what_shows acquainted
  obtain ⟨-, shows, -, single, -⟩ := operations (.pin ⟨"job-1"⟩)
  obtain ⟨-, -, reads, -⟩ := operations (.unpin ⟨"job-1"⟩)
  refine ⟨shows ?_, (single rfl (by decide)).2 ?_, (reads rfl).1, ?_, ?_⟩
  · intro same
    exact List.cons_ne_nil _ _ (congrArg Sight.pinned same)
  · intro id
    have record : acquainted.job? id =
        if firstNews.patch.id = id then some firstNews.seed.job else none :=
      JobMap.job?_merge .empty firstNews id
    rw [record]
    split
    · decide
    · rfl
  · exact congrArg PageState.sequence (pages .standard .empty 3 ⟨12, 0⟩ (by decide))
  · exact (silent ⟨"job-1"⟩ firstNews.seed 4 ⟨12, 0⟩ .singlePoll rfl rfl (by decide)).1

end Store

end LiveJobs
