import LiveJobs.Proofs.Visibility

/-!
# The displayed page

Which jobs the list shows is settled by a rule of its own, beside that of the fields: the answer to
the latest request for a page decides, whatever order the answers arrive in, and nothing but such an
answer touches the page. The records of an answer are merged even where its page is too old to be
displayed, and a merge never forgets a job, so every name on the displayed page has a record.
-/

namespace LiveJobs

open LiveJobs.Time

/-! ## One operation -/

/-- The page that an operation offers for display: that of the answer it merges. -/
def Operation.offeredPage? : Operation → Option PageState
  | .merge sequence (.page query listed _) =>
      some
        { ids := listed.items.map Job.id
          total := listed.total
          totalPages := listed.totalPages
          page := query.page
          pageSize := query.pageSize
          sequence := sequence }
  | .merge _ (.one _ _) => none
  | .merge _ (.many _ _) => none
  | .draw => none
  | .pin _ => none
  | .unpin _ => none

namespace Store

variable (store : Store) (operation : Operation)

theorem page_of_offers_none (silent : operation.offeredPage? = none) :
    (store.perform operation).1.snapshot.page = store.snapshot.page := by
  cases operation with
  | draw => rfl
  | merge sequence answer =>
      cases answer with
      | one patch origin => exact store.commit_page _
      | many patches origin => exact store.commit_page _
      | page query listed observedAt => cases silent
  | pin id =>
      apply (store.commit_page _).trans
      simp only [Snapshot.pin]
      split
      · rfl
      · rfl
  | unpin id => exact store.commit_page _

theorem page_of_offers_some {offered : PageState} (offers : operation.offeredPage? = some offered) :
    (store.perform operation).1.snapshot.page =
      if store.snapshot.page.sequence ≤ offered.sequence then offered else store.snapshot.page := by
  cases operation with
  | merge sequence answer =>
      cases answer with
      | page query listed observedAt =>
          cases offers
          apply (store.commit_page _).trans
          simp only [Snapshot.adoptPage]
          split
          · rfl
          · rfl
      | one patch origin => cases offers
      | many patches origin => cases offers
  | draw => cases offers
  | pin id => cases offers
  | unpin id => cases offers

theorem page_sequence_le_perform :
    store.snapshot.page.sequence ≤ (store.perform operation).1.snapshot.page.sequence := by
  cases offers : operation.offeredPage? with
  | none =>
      have same := store.page_of_offers_none operation offers
      exact Nat.le_of_eq (congrArg PageState.sequence same.symm)
  | some offered =>
      rw [store.page_of_offers_some operation offers]
      split
      next current => exact current
      next => exact Nat.le_refl _

end Store

/-! ## Runs -/

/-- The page of a list of operations that counts: of the pages that they offer it has the highest
sequence, and of those with that sequence it is the last. -/
def NewestPage (operations : List Operation) (page : PageState) : Prop :=
  ∃ before operation after, operations = before ++ operation :: after ∧
    operation.offeredPage? = some page ∧
    (∀ other ∈ before, ∀ earlier, other.offeredPage? = some earlier →
      earlier.sequence ≤ page.sequence) ∧
    ∀ other ∈ after, ∀ later, other.offeredPage? = some later → later.sequence < page.sequence

namespace NewestPage

variable {first : Operation} {operations : List Operation} {page : PageState}

theorem head (offers : first.offeredPage? = some page)
    (older : ∀ other ∈ operations, ∀ later, other.offeredPage? = some later →
      later.sequence < page.sequence) : NewestPage (first :: operations) page :=
  ⟨[], first, operations, rfl, offers, by simp, older⟩

theorem cons (newest : NewestPage operations page)
    (older : ∀ earlier, first.offeredPage? = some earlier → earlier.sequence ≤ page.sequence) :
    NewestPage (first :: operations) page := by
  obtain ⟨before, operation, after, rfl, offers, below, above⟩ := newest
  exact ⟨first :: before, operation, after, rfl, offers, List.forall_mem_cons.2 ⟨older, below⟩,
    above⟩

end NewestPage

namespace Store

variable (store : Store)

theorem run_cons (operation : Operation) (operations : List Operation) :
    (store.run (operation :: operations)).1 = ((store.perform operation).1.run operations).1 := rfl

/-- A run over two lists is one over the first and then one over the second. -/
theorem run_append (first second : List Operation) :
    (store.run (first ++ second)).1 = ((store.run first).1.run second).1 := by
  induction first generalizing store with
  | nil => rfl
  | cons operation rest ih => exact ih (store.perform operation).1

theorem page_sequence_le_run (operations : List Operation) :
    store.snapshot.page.sequence ≤ (store.run operations).1.snapshot.page.sequence := by
  induction operations generalizing store with
  | nil => exact Nat.le_refl _
  | cons operation rest ih =>
      exact Nat.le_trans (store.page_sequence_le_perform operation) (ih _)

/-- A run ends up with the newest page that it offers, unless that is older than the displayed one
was: then nothing has happened to it. -/
theorem page_run_cases (operations : List Operation) :
    (NewestPage operations (store.run operations).1.snapshot.page ∧
      store.snapshot.page.sequence ≤ (store.run operations).1.snapshot.page.sequence) ∨
    ((∀ operation ∈ operations, ∀ offered, operation.offeredPage? = some offered →
      offered.sequence < store.snapshot.page.sequence) ∧
      (store.run operations).1.snapshot.page = store.snapshot.page) := by
  induction operations generalizing store with
  | nil => exact .inr ⟨by simp, rfl⟩
  | cons first rest ih =>
      rw [run_cons]
      have earlier := store.page_sequence_le_perform first
      rcases ih (store.perform first).1 with ⟨newest, reaches⟩ | ⟨older, same⟩
      · refine .inl ⟨newest.cons ?_, Nat.le_trans earlier reaches⟩
        intro offered offers
        apply Nat.le_trans ?_ reaches
        rw [store.page_of_offers_some first offers]
        split
        next => exact Nat.le_refl _
        next newer => exact Nat.le_of_lt (Nat.lt_of_not_le newer)
      · rw [same]
        cases offers : first.offeredPage? with
        | none =>
            have stays := store.page_of_offers_none first offers
            rw [stays] at older ⊢
            refine .inr ⟨List.forall_mem_cons.2 ⟨?_, older⟩, rfl⟩
            intro offered also
            cases offers.symm.trans also
        | some offered =>
            have becomes := store.page_of_offers_some first offers
            by_cases current : store.snapshot.page.sequence ≤ offered.sequence
            · rw [if_pos current] at becomes
              rw [becomes] at older ⊢
              exact .inl ⟨.head offers older, current⟩
            · rw [if_neg current] at becomes
              rw [becomes] at older ⊢
              refine .inr ⟨List.forall_mem_cons.2 ⟨?_, older⟩, rfl⟩
              intro other also
              cases offers.symm.trans also
              exact Nat.lt_of_not_le current

/-- A new store displays nothing, and every page is at least as new as that. -/
theorem page_run_initial (retention : Nat) (operations : List Operation) :
    NewestPage operations ((initial retention).run operations).1.snapshot.page ∨
      (∀ operation ∈ operations, operation.offeredPage? = none) ∧
        ((initial retention).run operations).1.snapshot.page = .initial := by
  rcases (initial retention).page_run_cases operations with ⟨newest, -⟩ | ⟨older, same⟩
  · exact .inl newest
  · refine .inr ⟨?_, same⟩
    intro operation member
    cases offers : operation.offeredPage? with
    | none => rfl
    | some offered => exact absurd (older operation member offered offers) (Nat.not_lt_zero _)

/-! ## The records of a page -/

theorem get?_run_of_mem_reports {operations : List Operation} {operation : Operation}
    (report : Report) (performed : operation ∈ operations)
    (merged : report ∈ operation.reports) :
    (store.run operations).1.snapshot.jobs.get? report.patch.id ≠ none := by
  have member : report ∈ operations.flatMap Operation.reports :=
    List.mem_flatMap.2 ⟨operation, performed, merged⟩
  obtain ⟨entry, stored⟩ := store.snapshot.jobs.exists_get?_mergeAll member
  rw [run_jobs, stored]
  exact Option.some_ne_none entry

/-- The jobs that an offered page names are among those that its records report on. -/
theorem get?_run_of_mem_offered {operations : List Operation} {operation : Operation}
    {offered : PageState} {id : JobId} (performed : operation ∈ operations)
    (offers : operation.offeredPage? = some offered) (listed : id ∈ offered.ids) :
    (store.run operations).1.snapshot.jobs.get? id ≠ none := by
  cases operation with
  | merge sequence answer =>
      cases answer with
      | page query page observedAt =>
          cases offers
          rcases List.mem_map.1 listed with ⟨job, onPage, rfl⟩
          exact store.get?_run_of_mem_reports ⟨.ofJob job observedAt, .bulkPoll, sequence⟩ performed
            (List.mem_map_of_mem onPage)
      | one patch origin => cases offers
      | many patches origin => cases offers
  | draw => cases offers
  | pin id => cases offers
  | unpin id => cases offers

/-- Every name on the page that a run ends up with has a record under that name. -/
theorem exists_job?_of_displayed (retention : Nat) (operations : List Operation) {id : JobId}
    (displayed : id ∈ ((initial retention).run operations).1.snapshot.page.ids) :
    ∃ job, ((initial retention).run operations).1.job? id = some job ∧ job.id = id := by
  have stored : ((initial retention).run operations).1.snapshot.jobs.get? id ≠ none := by
    rcases page_run_initial retention operations with newest | ⟨-, nothing⟩
    · obtain ⟨before, operation, after, split, offers, -, -⟩ := newest
      have performed : operation ∈ operations := by
        rw [split]
        exact List.mem_append_right before List.mem_cons_self
      exact get?_run_of_mem_offered _ performed offers displayed
    · rw [nothing] at displayed
      cases displayed
  obtain ⟨entry, found⟩ := Option.ne_none_iff_exists'.1 stored
  refine ⟨entry.job, ?_, JobMap.id_of_get? found⟩
  rw [job?, Snapshot.job?, JobMap.job?, found]
  rfl

/-- The displayed page is that of the newest answer. After any run it is the page of the answer with
the highest sequence of all that have come so far, the latest of those with that sequence, or the
empty page if none has come; so its sequence never falls. No other operation touches it. The records
of every answer are merged, whether or not its page is displayed, so each of its jobs is stored
from then on, and every name on the displayed page has a record. -/
theorem displays_newest_page (retention : Nat) (operations : List Operation) :
    (NewestPage operations ((initial retention).run operations).1.snapshot.page ∨
      (∀ operation ∈ operations, operation.offeredPage? = none) ∧
        ((initial retention).run operations).1.snapshot.page = .initial) ∧
    (∀ earlier, earlier <+: operations →
      ((initial retention).run earlier).1.snapshot.page.sequence ≤
        ((initial retention).run operations).1.snapshot.page.sequence) ∧
    (∀ next : Operation, next.offeredPage? = none →
      (((initial retention).run operations).1.perform next).1.snapshot.page =
        ((initial retention).run operations).1.snapshot.page) ∧
    (∀ query listed sequence observedAt,
      let store := ((initial retention).run operations).1
      let answered := store.perform (.merge sequence (.page query listed observedAt))
      let merged := store.snapshot.jobs.mergeAll
        (listed.items.map fun job => ⟨.ofJob job observedAt, .bulkPoll, sequence⟩)
      answered.1.snapshot.jobs = merged.1 ∧ answered.2 = merged.2) ∧
    (∀ query listed sequence observedAt,
      .merge sequence (.page query listed observedAt) ∈ operations →
      ∀ job ∈ listed.items, ((initial retention).run operations).1.job? job.id ≠ none) ∧
    (∀ id ∈ ((initial retention).run operations).1.snapshot.page.ids,
      ∃ job, ((initial retention).run operations).1.job? id = some job ∧ job.id = id) := by
  refine ⟨page_run_initial retention operations, ?_, ?_, ?_, ?_, ?_⟩
  · rintro earlier ⟨later, rfl⟩
    rw [run_append]
    exact page_sequence_le_run _ later
  · intro next silent
    exact page_of_offers_none _ next silent
  · intro query listed sequence observedAt
    exact ⟨perform_jobs _ _, perform_outcomes _ _⟩
  · intro query listed sequence observedAt performed job member
    have stored := (initial retention).get?_run_of_mem_reports
      ⟨.ofJob job observedAt, .bulkPoll, sequence⟩ performed (List.mem_map_of_mem member)
    rw [job?, Snapshot.job?, JobMap.job?]
    exact fun missing => stored (Option.map_eq_none_iff.1 missing)
  · intro id displayed
    exact exists_job?_of_displayed retention operations displayed

/-- Two pages are asked for, and the answers change places on their way. -/
def overtakenPages : List Operation :=
  [.draw, .draw,
    .merge 2 (.page .standard ⟨[.fresh ⟨"job-2"⟩ .remoteBackup .none ⟨6, 0⟩], 9, 1⟩ ⟨11, 0⟩),
    .merge 1 (.page .standard ⟨[.fresh ⟨"job-1"⟩ .remoteBackup .none ⟨5, 0⟩], 8, 1⟩ ⟨12, 0⟩)]

/-- The page that was asked for last stays, and the record of the other one is merged. -/
theorem overtakenPages_displays :
    NewestPage overtakenPages ((initial 10000).run overtakenPages).1.snapshot.page ∧
      2 ≤ ((initial 10000).run overtakenPages).1.snapshot.page.sequence ∧
      (((initial 10000).run overtakenPages).1.perform (.pin ⟨"job-1"⟩)).1.snapshot.page =
        ((initial 10000).run overtakenPages).1.snapshot.page ∧
      ((initial 10000).run overtakenPages).1.job? ⟨"job-1"⟩ ≠ none ∧
      ∃ job, ((initial 10000).run overtakenPages).1.job? ⟨"job-2"⟩ = some job ∧
        job.id = ⟨"job-2"⟩ := by
  obtain ⟨newest, rises, untouched, -, merged, stored⟩ :=
    displays_newest_page 10000 overtakenPages
  refine ⟨?_, rises (overtakenPages.take 3) (List.take_prefix _ _), untouched _ rfl, ?_, ?_⟩
  · rcases newest with page | ⟨nothing, -⟩
    · exact page
    · cases nothing _ (List.getLast_mem (List.cons_ne_nil _ _))
  · exact merged _ _ _ _ (List.getLast_mem (List.cons_ne_nil _ _)) _ List.mem_cons_self
  · exact stored _ List.mem_cons_self

end Store

end LiveJobs
