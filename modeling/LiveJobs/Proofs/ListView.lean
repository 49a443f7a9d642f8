import LiveJobs.Proofs.DisplayedPage
import Mathlib.Data.List.Induction

/-!
# The list as it is shown

The list shows the displayed page, with the pinned jobs in front that the page lacks. That a job is
shown once for each time the server listed it, and that nothing is left out, rests on what the
operations keep: a job is pinned at most once, and every name on the displayed page has a record.
The pins are in the order in which the jobs were last pinned; to pin a job that is pinned already
does not move it.
-/

namespace LiveJobs

/-! ## Pins -/

namespace Store

section Perform

variable (store : Store) (id : JobId)

theorem commit_pinned {α : Type} (write : Write α) :
    (store.commit write).snapshot.pinned = write.snapshot.pinned :=
  congrArg Sight.pinned (store.commit_sight write)

theorem pinned_perform_pin :
    (store.perform (.pin id)).1.snapshot.pinned =
      if id ∈ store.snapshot.pinned then store.snapshot.pinned
      else id :: store.snapshot.pinned := by
  apply (store.commit_pinned _).trans
  simp only [Snapshot.pin, List.contains_iff_mem]
  split
  · rfl
  · rfl

theorem pinned_perform_unpin :
    (store.perform (.unpin id)).1.snapshot.pinned =
      store.snapshot.pinned.filter fun pinned => pinned ≠ id :=
  store.commit_pinned _

theorem pinned_perform_draw :
    (store.perform .draw).1.snapshot.pinned = store.snapshot.pinned := rfl

theorem pinned_perform_merge (sequence : Sequence) (answer : Answer) :
    (store.perform (.merge sequence answer)).1.snapshot.pinned = store.snapshot.pinned := by
  cases answer with
  | one patch origin => exact store.commit_pinned _
  | many patches origin => exact store.commit_pinned _
  | page query listed observedAt =>
      apply (store.commit_pinned _).trans
      simp only [Snapshot.adoptPage]
      split
      · rfl
      · rfl

end Perform

/-- The pinned jobs after operations on a new store. -/
def pinnedAfter (retention : Nat) (operations : List Operation) : List JobId :=
  ((initial retention).run operations).1.snapshot.pinned

/-- Whether the operation at a place pins a job that is not pinned at that point. -/
def PinsAt (retention : Nat) (operations : List Operation) (place : Nat) (id : JobId) : Prop :=
  operations[place]? = some (.pin id) ∧ id ∉ pinnedAfter retention (operations.take place)

/-- Whether a place is the last one at which a job is pinned in this way. -/
def LatestPin (retention : Nat) (operations : List Operation) (place : Nat) (id : JobId) : Prop :=
  PinsAt retention operations place id ∧
    ∀ other, PinsAt retention operations other id → other ≤ place

/-- Whether one job was pinned after another. -/
def PinnedLater (retention : Nat) (operations : List Operation) (left right : JobId) : Prop :=
  ∃ newer older, LatestPin retention operations newer left ∧
    LatestPin retention operations older right ∧ older < newer

/-- Whether a job was pinned at some place and not unpinned behind it. -/
def StaysPinned (operations : List Operation) (id : JobId) : Prop :=
  ∃ place, operations[place]? = some (Operation.pin id) ∧
    ∀ later : Nat, place < later → operations[later]? ≠ some (Operation.unpin id)

variable {retention : Nat} {operations : List Operation} {last : Operation} {place : Nat}
variable {id left right : JobId}

theorem pinnedAfter_concat :
    pinnedAfter retention (operations ++ [last]) =
      (((initial retention).run operations).1.perform last).1.snapshot.pinned := by
  rw [pinnedAfter, run_append]
  rfl

theorem getElem?_concat_eq_some {operation : Operation} :
    (operations ++ [last])[place]? = some operation ↔
      operations[place]? = some operation ∨ place = operations.length ∧ last = operation := by
  grind

theorem PinsAt.lt (pins : PinsAt retention operations place id) : place < operations.length :=
  (List.getElem?_eq_some_iff.1 pins.1).1

/-- What is pinned at a place does not depend on what comes behind it. -/
theorem pinsAt_concat :
    PinsAt retention (operations ++ [last]) place id ↔
      PinsAt retention operations place id ∨
        place = operations.length ∧ last = .pin id ∧ id ∉ pinnedAfter retention operations := by
  simp only [PinsAt, getElem?_concat_eq_some]
  grind

/-- A job that is pinned cannot be pinned again, so its latest pin stays the latest. -/
theorem LatestPin.concat (latest : LatestPin retention operations place id)
    (pinned : id ∈ pinnedAfter retention operations) (last : Operation) :
    LatestPin retention (operations ++ [last]) place id := by
  refine ⟨pinsAt_concat.2 (.inl latest.1), ?_⟩
  intro other pins
  rcases pinsAt_concat.1 pins with earlier | ⟨-, -, unpinned⟩
  · exact latest.2 other earlier
  · exact absurd pinned unpinned

theorem latestPin_concat_pin (unpinned : id ∉ pinnedAfter retention operations) :
    LatestPin retention (operations ++ [.pin id]) operations.length id := by
  refine ⟨pinsAt_concat.2 (.inr ⟨rfl, rfl, unpinned⟩), ?_⟩
  intro other pins
  have bound := pins.lt
  rw [List.length_append] at bound
  exact Nat.le_of_lt_succ bound

theorem LatestPin.eq {other : Nat} (latest : LatestPin retention operations place id)
    (also : LatestPin retention operations other id) : place = other :=
  Nat.le_antisymm (also.2 place latest.1) (latest.2 other also.1)

theorem PinnedLater.ne (later : PinnedLater retention operations left right) : left ≠ right := by
  rintro rfl
  obtain ⟨newer, older, latest, also, before⟩ := later
  exact Nat.ne_of_gt before (latest.eq also)

/-- Whether pins are in the order of their latest pins, the latest first. -/
structure InPinOrder (retention : Nat) (operations : List Operation) (ids : List JobId) :
    Prop where
  latest : ∀ id ∈ ids, ∃ place, LatestPin retention operations place id
  ordered : ids.Pairwise (PinnedLater retention operations)

namespace InPinOrder

/-- What is pinned keeps its order, whatever comes next. -/
theorem concat
    (order : InPinOrder retention operations (pinnedAfter retention operations))
    (last : Operation) :
    InPinOrder retention (operations ++ [last]) (pinnedAfter retention operations) where
  latest := by
    intro id pinned
    obtain ⟨place, latest⟩ := order.latest id pinned
    exact ⟨place, latest.concat pinned last⟩
  ordered := by
    apply order.ordered.imp_of_mem
    intro left right leftPinned rightPinned later
    obtain ⟨newer, older, latest, also, before⟩ := later
    exact ⟨newer, older, latest.concat leftPinned last, also.concat rightPinned last, before⟩

theorem cons (order : InPinOrder retention operations (pinnedAfter retention operations))
    (unpinned : id ∉ pinnedAfter retention operations) :
    InPinOrder retention (operations ++ [.pin id]) (id :: pinnedAfter retention operations) where
  latest := by
    refine List.forall_mem_cons.2 ⟨?_, (order.concat _).latest⟩
    exact ⟨_, latestPin_concat_pin unpinned⟩
  ordered := by
    apply List.pairwise_cons.2
    refine ⟨?_, (order.concat _).ordered⟩
    intro other pinned
    obtain ⟨place, latest⟩ := order.latest other pinned
    exact ⟨_, place, latestPin_concat_pin unpinned, latest.concat pinned _, latest.1.lt⟩

theorem sublist {ids fewer : List JobId} (order : InPinOrder retention operations ids)
    (left : fewer.Sublist ids) : InPinOrder retention operations fewer where
  latest := fun id member => order.latest id (left.subset member)
  ordered := order.ordered.sublist left

end InPinOrder

theorem inPinOrder_pinnedAfter (retention : Nat) (operations : List Operation) :
    InPinOrder retention operations (pinnedAfter retention operations) := by
  induction operations using List.reverseRecOn with
  | nil => exact ⟨by simp [pinnedAfter, run, initial, Snapshot.initial], .nil⟩
  | append_singleton operations last order =>
      rw [pinnedAfter_concat]
      cases last with
      | draw => exact order.concat _
      | merge sequence answer =>
          rw [pinned_perform_merge]
          exact order.concat _
      | pin id =>
          rw [pinned_perform_pin]
          split
          next => exact order.concat _
          next unpinned => exact order.cons unpinned
      | unpin id =>
          rw [pinned_perform_unpin]
          exact (order.concat _).sublist List.filter_sublist

theorem pinnedAfter_nodup (retention : Nat) (operations : List Operation) :
    (pinnedAfter retention operations).Nodup :=
  (inPinOrder_pinnedAfter retention operations).ordered.imp PinnedLater.ne

theorem staysPinned_concat :
    StaysPinned (operations ++ [last]) id ↔
      last = .pin id ∨ StaysPinned operations id ∧ last ≠ .unpin id := by
  constructor
  · rintro ⟨place, pins, stays⟩
    rcases getElem?_concat_eq_some.1 pins with earlier | ⟨-, now⟩
    · have bound : place < operations.length := (List.getElem?_eq_some_iff.1 earlier).1
      refine .inr ⟨⟨place, earlier, ?_⟩, ?_⟩
      · intro later behind unpins
        exact stays later behind (getElem?_concat_eq_some.2 (.inl unpins))
      · intro unpins
        exact stays _ bound (getElem?_concat_eq_some.2 (.inr ⟨rfl, unpins⟩))
    · exact .inl now
  · rintro (now | ⟨⟨place, pins, stays⟩, kept⟩)
    · refine ⟨operations.length, getElem?_concat_eq_some.2 (.inr ⟨rfl, now⟩), ?_⟩
      intro later behind unpins
      rcases getElem?_concat_eq_some.1 unpins with earlier | ⟨here, -⟩
      · exact Nat.lt_asymm behind (List.getElem?_eq_some_iff.1 earlier).1
      · exact Nat.ne_of_gt behind here
    · refine ⟨place, getElem?_concat_eq_some.2 (.inl pins), ?_⟩
      intro later behind unpins
      rcases getElem?_concat_eq_some.1 unpins with earlier | ⟨-, now⟩
      · exact stays later behind earlier
      · exact kept now

/-- A job is pinned if it was pinned and has not been unpinned since. -/
theorem mem_pinnedAfter_iff (retention : Nat) (operations : List Operation) (id : JobId) :
    id ∈ pinnedAfter retention operations ↔ StaysPinned operations id := by
  induction operations using List.reverseRecOn with
  | nil => simp [pinnedAfter, run, initial, Snapshot.initial, StaysPinned]
  | append_singleton operations last ih =>
      rw [pinnedAfter_concat, staysPinned_concat, ← ih]
      cases last with
      | draw => simp [pinned_perform_draw, pinnedAfter]
      | merge sequence answer => simp [pinned_perform_merge, pinnedAfter]
      | pin other =>
          rw [pinned_perform_pin]
          simp only [Operation.pin.injEq, ne_eq, reduceCtorEq, not_false_eq_true, and_true]
          split
          next pinned =>
            constructor
            · exact .inr
            · rintro (rfl | also)
              · exact pinned
              · exact also
          next =>
            rw [List.mem_cons, eq_comm]
            rfl
      | unpin other =>
          rw [pinned_perform_unpin, List.mem_filter]
          simp only [reduceCtorEq, false_or, ne_eq, Operation.unpin.injEq, decide_not,
            Bool.not_eq_eq_eq_not, Bool.not_true, decide_eq_false_iff_not]
          rw [eq_comm]
          rfl

end Store

/-! ## The view -/

namespace Snapshot

variable {snapshot : Snapshot} {id : JobId} {job : Job}

theorem id_of_job? (found : snapshot.job? id = some job) : job.id = id := by
  obtain ⟨entry, stored, rfl⟩ := Option.map_eq_some_iff.1 found
  exact JobMap.id_of_get? stored

theorem map_id_filterMap_job? (snapshot : Snapshot) (ids : List JobId) :
    (ids.filterMap snapshot.job?).map Job.id = ids.filter fun id => (snapshot.job? id).isSome := by
  induction ids with
  | nil => rfl
  | cons id rest ih =>
      cases found : snapshot.job? id with
      | none => simpa [found] using ih
      | some job => simpa [found, id_of_job? found] using ih

theorem job?_of_mem_filterMap {ids : List JobId} (member : job ∈ ids.filterMap snapshot.job?) :
    snapshot.job? job.id = some job := by
  obtain ⟨id, -, found⟩ := List.mem_filterMap.1 member
  rw [id_of_job? found]
  exact found

/-- The pinned jobs in front are those that have a record and are not on the page. -/
theorem map_id_prepended (snapshot : Snapshot) :
    snapshot.prepended.map Job.id =
      snapshot.pinned.filter fun id =>
        !snapshot.page.ids.contains id && (snapshot.job? id).isSome := by
  rw [prepended, map_id_filterMap_job?, List.filter_filter]
  congr 1
  funext id
  exact Bool.and_comm _ _

theorem job?_of_mem_view (shown : job ∈ snapshot.view.items) :
    snapshot.job? job.id = some job := by
  rcases List.mem_append.1 shown with inFront | onPage
  · exact job?_of_mem_filterMap inFront
  · exact job?_of_mem_filterMap onPage

/-- A pinned job that has a record is shown, on the page or in front of it. -/
theorem mem_view_of_pinned (pinned : id ∈ snapshot.pinned) (found : snapshot.job? id = some job) :
    job ∈ snapshot.view.items := by
  by_cases listed : id ∈ snapshot.page.ids
  · apply List.mem_append_right
    exact List.mem_filterMap.2 ⟨id, listed, found⟩
  · apply List.mem_append_left
    apply List.mem_filterMap.2
    exact ⟨id, List.mem_filter.2 ⟨pinned, by simpa using listed⟩, found⟩

/-- The total counts the jobs in front, as long as it has room for them. -/
theorem total_view {count : Nat} (counted : snapshot.prepended.length = count)
    (fits : snapshot.page.total + count ≤ Text.maxWord64) :
    snapshot.view.total = snapshot.page.total + count := by
  rw [← counted] at fits ⊢
  exact Nat.mod_eq_of_lt (Nat.lt_succ_of_le fits)

end Snapshot

/-! ## Runs -/

namespace Store

/-- Of the names on the displayed page none is skipped. -/
theorem map_id_page (retention : Nat) (operations : List Operation) :
    let snapshot := ((initial retention).run operations).1.snapshot
    (snapshot.page.ids.filterMap snapshot.job?).map Job.id = snapshot.page.ids := by
  intro snapshot
  rw [Snapshot.map_id_filterMap_job?]
  apply List.filter_eq_self.2
  intro id displayed
  obtain ⟨job, found, -⟩ := exists_job?_of_displayed retention operations displayed
  exact Option.isSome_iff_exists.2 ⟨job, found⟩

/-- What the list shows. A job is pinned if it was pinned and has not been unpinned since; none is
pinned twice, and the pins are in the order of the latest pins that took effect, the latest first.
The list shows the pinned jobs that have a record and are not on the displayed page, in their order,
and behind them one record for each name on the page, in the server's order and without a gap. Each
record is the stored one, every pinned job with a record is shown, a job is shown more than once
only as often as the server listed it, and the total counts the jobs in front if it has room. -/
theorem list_shows_pins_then_page (retention : Nat) (operations : List Operation) :
    let snapshot := ((initial retention).run operations).1.snapshot
    let inFront := snapshot.pinned.filter fun id =>
      !snapshot.page.ids.contains id && (snapshot.job? id).isSome
    snapshot.pinned.Nodup ∧
    (∀ id, id ∈ snapshot.pinned ↔ StaysPinned operations id) ∧
    (∀ id ∈ snapshot.pinned, ∃ place, LatestPin retention operations place id) ∧
    snapshot.pinned.Pairwise (PinnedLater retention operations) ∧
    snapshot.view.items.map Job.id = inFront ++ snapshot.page.ids ∧
    (∀ job ∈ snapshot.view.items, snapshot.job? job.id = some job) ∧
    (∀ id ∈ snapshot.pinned, ∀ job, snapshot.job? id = some job →
      job ∈ snapshot.view.items) ∧
    (∀ id, 1 < (snapshot.view.items.map Job.id).count id →
      (snapshot.view.items.map Job.id).count id = snapshot.page.ids.count id) ∧
    (snapshot.page.total + inFront.length ≤ Text.maxWord64 →
      snapshot.view.total = snapshot.page.total + inFront.length) ∧
    snapshot.view.totalPages = snapshot.page.totalPages := by
  intro snapshot inFront
  have order : InPinOrder retention operations snapshot.pinned :=
    inPinOrder_pinnedAfter retention operations
  have distinct : snapshot.pinned.Nodup := pinnedAfter_nodup retention operations
  have prepended : snapshot.prepended.map Job.id = inFront := snapshot.map_id_prepended
  have names : snapshot.view.items.map Job.id = inFront ++ snapshot.page.ids := by
    apply (List.map_append).trans
    rw [prepended, map_id_page retention operations]
  refine ⟨distinct, mem_pinnedAfter_iff retention operations, order.latest, order.ordered, names,
    ?_, ?_, ?_, ?_, rfl⟩
  · intro job shown
    exact Snapshot.job?_of_mem_view shown
  · intro id pinned job found
    exact Snapshot.mem_view_of_pinned pinned found
  · intro id repeated
    rw [names, List.count_append] at repeated ⊢
    by_cases listed : id ∈ snapshot.page.ids
    · have absent : id ∉ inFront := by
        intro member
        have outside := (List.mem_filter.1 member).2
        simp [listed] at outside
      rw [List.count_eq_zero_of_not_mem absent, Nat.zero_add]
    · have once : inFront.count id ≤ 1 :=
        List.nodup_iff_count.1 (distinct.filter _) id
      rw [List.count_eq_zero_of_not_mem listed] at repeated
      exact absurd once (Nat.not_le_of_lt repeated)
  · intro fits
    apply Snapshot.total_view ?_ fits
    rw [← prepended, List.length_map]

/-- Two jobs are pinned, one of them again; the server lists one of them twice. -/
def pinnedRun : List Operation :=
  [.pin ⟨"job-1"⟩, .pin ⟨"job-2"⟩, .pin ⟨"job-1"⟩,
    .merge 1 (.one (.empty ⟨"job-1"⟩ ⟨10, 0⟩) .stream),
    .merge 2 (.page .standard
      ⟨[.fresh ⟨"job-2"⟩ .remoteBackup .none ⟨5, 0⟩,
        .fresh ⟨"job-2"⟩ .remoteBackup .none ⟨5, 0⟩], 2, 1⟩ ⟨12, 0⟩)]

theorem pinnedRun_shows :
    let snapshot := ((initial 10000).run pinnedRun).1.snapshot
    snapshot.view.items.map Job.id = [⟨"job-1"⟩, ⟨"job-2"⟩, ⟨"job-2"⟩] ∧
      (∃ place, LatestPin 10000 pinnedRun place ⟨"job-1"⟩) ∧
      snapshot.view.total = 3 ∧
      (snapshot.view.items.map Job.id).count ⟨"job-2"⟩ = 2 := by
  intro snapshot
  obtain ⟨-, -, latest, -, names, -, -, repeated, total, -⟩ :=
    list_shows_pins_then_page 10000 pinnedRun
  have shown : snapshot.view.items.map Job.id = [⟨"job-1"⟩, ⟨"job-2"⟩, ⟨"job-2"⟩] := names
  refine ⟨shown, latest _ (by decide), total (by decide), repeated _ ?_⟩
  rw [shown]
  decide

end Store

end LiveJobs
