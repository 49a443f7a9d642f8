import LiveJobs.Proofs.Freshness
import LiveJobs.Proofs.Sources

/-!
# Requests under way

Between a request and its answer other sources write to the store. An answer counts under the
sequence that was drawn when it was asked for, so it is stale wherever something that was drawn
later has written. The runs considered here are those of the store itself: any number of requests
are under way at a time, their answers arrive in any order or not at all, and events are merged as
they are received.

What carries the argument is `Traffic.Sound`: sequences are drawn in ascending order, and a field
that a report was offered while its job had not ended is stamped with the report's sequence or a
higher one for good.
-/

namespace LiveJobs

open LiveJobs.Time

/-! ## Deliveries -/

/-- A report that was merged, with the entry that it found. -/
structure Delivery where
  report : Report
  found : Option Entry

/-- Whether a report was offered to a field of a job that had not ended. -/
def Delivery.Offered (delivery : Delivery) (field : Field) : Prop :=
  Unended delivery.found ∧ delivery.report.patch.reported? field ≠ none

/-- Whether the fields that a report was offered are stamped with its sequence or a higher one. -/
def Delivery.IsStamped (delivery : Delivery) (map : JobMap) : Prop :=
  ∀ field : Field, field.isOverlaid = true → delivery.Offered field →
    ∃ entry, map.get? delivery.report.patch.id = some entry ∧
      delivery.report.sequence ≤ entry.stamps.get field

/-- An accepted offer leaves its sequence, and a register that turns one down is fresher. -/
theorem Register.sequence_le_stamp_offer {field : Field} (register : Register field)
    (sequence : Sequence) (value : field.Value) :
    sequence ≤ (register.offer sequence (some value)).stamp := by
  by_cases accepted : register.stamp ≤ sequence
  · exact Nat.le_of_eq (offer_stamp accepted value).symm
  · have fresher := Nat.lt_of_not_le accepted
    rw [offer_of_lt fresher]
    exact Nat.le_of_lt fresher

/-- Reports that are all staler than a field leave it alone. -/
theorem EntryRun.register_of_fresher {entry last : Entry} {reports : List Report} {field : Field}
    (run : EntryRun entry reports last) (overlaid : field.isOverlaid = true)
    (stale : ∀ report ∈ reports, report.sequence < (entry.register field).stamp) :
    last.register field = entry.register field := by
  apply run.invariant fun state => state.register field = entry.register field
  · rfl
  · intro before after report member _ lays same
    have fresher : report.sequence < (before.register field).stamp := by
      rw [same]
      exact stale report member
    rw [lays.overlaid field overlaid, Register.offer_of_lt fresher]
    exact same

namespace JobMap

/-- The reports of a list, each with the entry that it finds. -/
def deliveries (map : JobMap) : List Report → List Delivery
  | [] => []
  | report :: rest =>
      ⟨report, map.get? report.patch.id⟩ :: (map.merge report).1.deliveries rest

theorem isStamped_mergeAll {map : JobMap} {delivery : Delivery} (stamped : delivery.IsStamped map)
    (reports : List Report) : delivery.IsStamped (map.mergeAll reports).1 := by
  intro field overlaid offered
  obtain ⟨entry, found, reaches⟩ := stamped field overlaid offered
  obtain ⟨last, stored, run⟩ := run_of_get? found reports
  exact ⟨last, stored, Nat.le_trans reaches (run.stamps_le field)⟩

theorem isStamped_merge (map : JobMap) (report : Report) :
    Delivery.IsStamped ⟨report, map.get? report.patch.id⟩ (map.merge report).1 := by
  intro field overlaid offered
  obtain ⟨unended, mentions⟩ := offered
  obtain ⟨value, reported⟩ := Option.ne_none_iff_exists'.1 mentions
  obtain ⟨next, becomes, lays⟩ := report.entryAfter_of_unended unended
  refine ⟨next, ?_, ?_⟩
  · rw [get?_merge, if_pos rfl]
    exact becomes
  · have offer := congrArg Register.stamp (lays.overlaid field overlaid)
    rw [Patch.valueFor?_of_reported? reported] at offer
    refine Nat.le_trans ?_ (Nat.le_of_eq offer.symm)
    exact Register.sequence_le_stamp_offer _ _ _

/-- After a list of reports, what each of them was offered to is stamped. -/
theorem isStamped_of_mem_deliveries {map : JobMap} {reports : List Report} {delivery : Delivery}
    (member : delivery ∈ map.deliveries reports) :
    delivery.IsStamped (map.mergeAll reports).1 := by
  induction reports generalizing map with
  | nil => cases member
  | cons report rest ih =>
      rw [mergeAll_cons]
      rw [deliveries, List.mem_cons] at member
      rcases member with rfl | later
      · exact isStamped_mergeAll (map.isStamped_merge report) rest
      · exact ih later

end JobMap

/-! ## Runs -/

/-- What can happen to a store that polls and streams write to. -/
inductive Happening where
  /-- A poll issues a request. -/
  | asked
  /-- The answer to a request arrives. -/
  | answered (request : Sequence) (answer : Answer)
  /-- A request fails, or its answer is no longer waited for. -/
  | lost (request : Sequence)
  /-- An event is received. -/
  | pushed (patches : List Patch)

/-- A store with its past. A request goes by the sequence that was drawn for it. -/
structure Traffic where
  store : Store
  /-- The requests that wait for an answer. -/
  underWay : List Sequence
  /-- All sequences that were drawn, the latest first. -/
  drawn : List Sequence
  /-- All reports that were merged. -/
  delivered : List Delivery

namespace Traffic

/-- A new store without a past. -/
def start (retention : Nat) : Traffic := ⟨.initial retention, [], [], []⟩

/-- Draws a sequence. -/
def draw (traffic : Traffic) : Traffic × Sequence :=
  let drawn := traffic.store.draw
  ({ traffic with store := drawn.1, drawn := drawn.2 :: traffic.drawn }, drawn.2)

/-- Merges an answer under a sequence. -/
def deliver (traffic : Traffic) (sequence : Sequence) (answer : Answer) : Traffic :=
  { traffic with
    store := answer.merge sequence traffic.store
    delivered := traffic.delivered ++
      traffic.store.snapshot.jobs.deliveries (answer.reports sequence) }

/-- What a happening makes of a store. Only a request that is under way can be answered or lost. -/
def step (traffic : Traffic) : Happening → Option Traffic
  | .asked =>
      let drawn := traffic.draw
      some { drawn.1 with underWay := drawn.2 :: traffic.underWay }
  | .answered request answer =>
      if request ∈ traffic.underWay then
        some { traffic.deliver request answer with underWay := traffic.underWay.erase request }
      else none
  | .lost request =>
      if request ∈ traffic.underWay then
        some { traffic with underWay := traffic.underWay.erase request }
      else none
  | .pushed patches =>
      let drawn := traffic.draw
      some (drawn.1.deliver drawn.2 (.many patches .stream))

/-- The states that happenings lead to, in any number and order. -/
inductive Reached (retention : Nat) : Traffic → Prop where
  | start : Reached retention (start retention)
  | step {traffic next : Traffic} {happening : Happening} :
      Reached retention traffic → traffic.step happening = some next → Reached retention next

/-- Whether a sequence was drawn after that of a request. -/
def DrawnAfter (traffic : Traffic) (request sequence : Sequence) : Prop :=
  ∃ newer older, traffic.drawn = newer ++ request :: older ∧ sequence ∈ newer

/-- What holds in every state that is reached. -/
structure Sound (traffic : Traffic) : Prop where
  clock : ∀ sequence ∈ traffic.drawn, sequence ≤ traffic.store.clock.last
  ascending : traffic.drawn.Pairwise fun later earlier => earlier < later
  stamped : ∀ delivery ∈ traffic.delivered, delivery.IsStamped traffic.store.snapshot.jobs

namespace Sound

variable {traffic next : Traffic}

theorem start (retention : Nat) : (Traffic.start retention).Sound := by
  constructor
  · simp [Traffic.start]
  · exact .nil
  · simp [Traffic.start]

theorem draw (sound : traffic.Sound) : traffic.draw.1.Sound := by
  have below : ∀ sequence ∈ traffic.drawn, sequence < traffic.store.clock.last + 1 := by
    intro sequence member
    exact Nat.lt_succ_of_le (sound.clock sequence member)
  constructor
  case clock =>
    intro sequence member
    rcases List.mem_cons.1 member with rfl | earlier
    · exact Nat.le_refl _
    · exact Nat.le_of_lt (below sequence earlier)
  case ascending => exact .cons below sound.ascending
  case stamped => exact sound.stamped

theorem deliver (sound : traffic.Sound) (sequence : Sequence) (answer : Answer) :
    (traffic.deliver sequence answer).Sound := by
  constructor
  case clock =>
    intro earlier member
    rw [Traffic.deliver, Answer.clock_merge]
    exact sound.clock earlier member
  case ascending => exact sound.ascending
  case stamped =>
    intro delivery member
    rw [Traffic.deliver, Answer.jobs_merge]
    rcases List.mem_append.1 member with old | new
    · exact JobMap.isStamped_mergeAll (sound.stamped delivery old) _
    · exact JobMap.isStamped_of_mem_deliveries new

theorem withUnderWay (sound : traffic.Sound) (requests : List Sequence) :
    Sound { traffic with underWay := requests } :=
  ⟨sound.clock, sound.ascending, sound.stamped⟩

theorem step {happening : Happening} (sound : traffic.Sound)
    (happened : traffic.step happening = some next) : next.Sound := by
  cases happening with
  | asked =>
      cases happened
      exact sound.draw.withUnderWay _
  | answered request answer =>
      rw [Traffic.step, Option.ite_none_right_eq_some] at happened
      obtain ⟨-, becomes⟩ := happened
      cases becomes
      exact (sound.deliver request answer).withUnderWay _
  | lost request =>
      rw [Traffic.step, Option.ite_none_right_eq_some] at happened
      obtain ⟨-, becomes⟩ := happened
      cases becomes
      exact sound.withUnderWay _
  | pushed patches =>
      cases happened
      exact sound.draw.deliver _ _

theorem lt_of_drawnAfter (sound : traffic.Sound) {request sequence : Sequence}
    (after : traffic.DrawnAfter request sequence) : request < sequence := by
  obtain ⟨newer, older, drawn, member⟩ := after
  have ascending := sound.ascending
  rw [drawn, List.pairwise_append] at ascending
  exact ascending.2.2 sequence member request List.mem_cons_self

end Sound

theorem Reached.sound {retention : Nat} {traffic : Traffic} (reached : Reached retention traffic) :
    traffic.Sound := by
  induction reached with
  | start => exact .start retention
  | step _ happened sound => exact sound.step happened

variable {retention : Nat} {traffic next : Traffic} {request : Sequence} {answer : Answer}

namespace Reached

variable {asking : Sequence → Prop} {after : Store}

/-- A poll that gets its turn leads to another state that is reached. -/
theorem asks (reached : Reached retention traffic) (asks : Asks asking traffic.store after) :
    ∃ next, Reached retention next ∧ next.store = after ∧
      traffic.underWay ⊆ next.underWay ∧
      (after = traffic.store ∨ ∃ request ∈ next.underWay, asking request) := by
  rcases asks with same | ⟨drawn, asked⟩
  · exact ⟨traffic, reached, same.symm, List.Subset.refl _, .inl same⟩
  · have happened : traffic.step .asked = some _ := rfl
    exact ⟨_, .step reached happened, drawn.symm, List.subset_cons_self _ _,
      .inr ⟨_, List.mem_cons_self, asked⟩⟩

/-- So does a poll that takes up an answer to a request which is under way. -/
theorem takesUp (reached : Reached retention traffic)
    (waiting : ∀ request, asking request → request ∈ traffic.underWay)
    (takesUp : TakesUp asking traffic.store after) :
    ∃ next, Reached retention next ∧ next.store = after := by
  rcases takesUp with same | ⟨request, answer, asked, merged⟩
  · exact ⟨traffic, reached, same.symm⟩
  · have happened : traffic.step (.answered request answer) = some _ :=
      if_pos (waiting request asked)
    exact ⟨_, .step reached happened, merged.symm⟩

/-- And so does a session that receives an event. -/
theorem receive (reached : Reached retention traffic) {session : Session}
    (same : traffic.store = session.store) (channel : Channel) (wall : Instant) (event : Event) :
    ∃ next, Reached retention next ∧
      next.store = (session.receive channel wall event).store := by
  have happened : traffic.step
      (.pushed ((event.patches channel wall).toOption.getD [])) = some _ := rfl
  refine ⟨_, .step reached happened, ?_⟩
  rw [session.store_receive, ← same]
  rfl

end Reached

/-- What the answer to a request does to the jobs. -/
theorem jobs_of_answered (happened : traffic.step (.answered request answer) = some next) :
    next.store.snapshot.jobs =
      (traffic.store.snapshot.jobs.mergeAll (answer.reports request)).1 := by
  rw [step, Option.ite_none_right_eq_some] at happened
  obtain ⟨-, becomes⟩ := happened
  cases becomes
  exact answer.jobs_merge request traffic.store

/-- A late answer overwrites nothing that is fresher. Whatever was asked, answered and pushed before
in whatever order: where a report under a sequence that was drawn after the request has been offered
to a field of a job that had not ended, the answer leaves the value and the stamp of the field as
they are. It leaves every status as it is or takes it a step forward, and leaves the entries of jobs
that have ended as they are. -/
theorem late_answer_overwrites_nothing_fresher (reached : Reached retention traffic)
    (happened : traffic.step (.answered request answer) = some next) :
    (∀ delivery ∈ traffic.delivered, traffic.DrawnAfter request delivery.report.sequence →
      ∀ field : Field, field.isOverlaid = true → Unended delivery.found →
        delivery.report.patch.reported? field ≠ none →
        ∃ before after, traffic.store.entry? delivery.report.patch.id = some before ∧
          next.store.entry? delivery.report.patch.id = some after ∧
          after.job.value field = before.job.value field ∧
          after.stamps.get field = before.stamps.get field) ∧
    (∀ id before, traffic.store.entry? id = some before →
      ∃ after, next.store.entry? id = some after ∧
        (after.job.status = before.job.status ∨
          before.job.status.rank < after.job.status.rank) ∧
        (before.job.isTerminal = true → after = before)) := by
  have jobs := jobs_of_answered happened
  constructor
  · intro delivery member drawnAfter field overlaid unended mentions
    obtain ⟨before, found, reaches⟩ :=
      reached.sound.stamped delivery member field overlaid ⟨unended, mentions⟩
    obtain ⟨after, stored, run⟩ := JobMap.run_of_get? found (answer.reports request)
    have stale : ∀ report ∈ (answer.reports request).filter fun report =>
        report.patch.id = delivery.report.patch.id,
        report.sequence < (before.register field).stamp := by
      intro report reported
      rw [Answer.sequence_of_mem_reports (List.mem_filter.1 reported).1]
      exact Nat.lt_of_lt_of_le (reached.sound.lt_of_drawnAfter drawnAfter) reaches
    have same := run.register_of_fresher overlaid stale
    rw [← jobs] at stored
    exact ⟨before, after, found, stored, congrArg Register.value same,
      congrArg Register.stamp same⟩
  · intro id before found
    obtain ⟨after, stored, run⟩ := JobMap.run_of_get? found (answer.reports request)
    rw [← jobs] at stored
    exact ⟨after, stored, run.status_eq_or_rank_lt, run.eq_of_terminal⟩

/-- An update that comes while a page is asked for. -/
def overtakingCount : Happening :=
  .pushed [((Patch.empty ⟨"job-1"⟩ ⟨10, 0⟩).withStatus .running).withCounters 3 4]

/-- The page, which shows the job as it was when the page was made. -/
def overtakenPage : Answer :=
  .page .standard
    ⟨[{ Job.fresh ⟨"job-1"⟩ .remoteBackup .none ⟨5, 0⟩ with
        progress := ⟨some 1, some 4, none, none, none⟩ }], 1, 1⟩ ⟨12, 0⟩

theorem overtakenPage_overwrites_nothing :
    ∃ traffic next after, Reached 10000 traffic ∧
      traffic.step (.answered 1 overtakenPage) = some next ∧
      next.store.entry? ⟨"job-1"⟩ = some after ∧
      after.job.progress.current = some 3 ∧ after.stamps.get .current = 2 := by
  have asked : Reached 10000 _ := .step .start (rfl : (start 10000).step .asked = some _)
  have pushed : Reached 10000 _ := .step asked (rfl : Traffic.step _ overtakingCount = some _)
  obtain ⟨kept, -⟩ := late_answer_overwrites_nothing_fresher pushed
    (rfl : Traffic.step _ (.answered 1 overtakenPage) = some _)
  obtain ⟨before, after, found, stored, value, stamp⟩ :=
    kept _ (.head _) ⟨[2], [], rfl, .head _⟩ .current rfl unended_none (by decide)
  cases found
  exact ⟨_, _, after, pushed, rfl, stored, value, stamp⟩

end Traffic

end LiveJobs
