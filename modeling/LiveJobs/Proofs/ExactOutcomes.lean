import LiveJobs.Proofs.Changes
import LiveJobs.Proofs.Lifecycle

/-!
# Outcomes as differences

The outcome of a merge is the difference between two records: the fields on the list have another
value than before, by the comparison of the merge, and every other field has the very same.

What a report leaves behind is settled. The same patch under the same sequence finds each field
either fresher or as it would write it, under the stamp that it would leave, and so it writes
nothing. A double that is not a number differs even from itself, so this is said of the patches
that do not differ from themselves.
-/

namespace LiveJobs

/-! ## Records that differ -/

/-- The fields in which a record differs from the one before, once each and in the order of writing.
Those have different values, by the comparison of the merge, and all others have the same. -/
structure Job.DiffersIn (before : Job) (fields : List Field) (after : Job) : Prop where
  records : (before == after) = false
  once : fields.Nodup
  order : fields.Sublist Field.writingOrder
  listed : ∀ field ∈ fields, field.sameValue (before.value field) (after.value field) = false
  unlisted : ∀ field, field ∉ fields → after.value field = before.value field

theorem Field.writingOrder_nodup : writingOrder.Nodup := by decide

/-! ## Values that do not differ from themselves -/

theorem Field.sameValue_self {field : Field} (exact : field.isExact = true)
    (value : field.Value) : field.sameValue value value = true := by
  cases field <;> first | exact beq_self_eq_true _ | cases exact

/-- A patch that does not differ from itself reports no value that does. -/
theorem Patch.sameValue_of_valueFor? {patch : Patch} (comparable : (patch == patch) = true)
    {job : Job} {field : Field} {value : field.Value}
    (reported : patch.valueFor? job field = some value) : field.sameValue value value = true := by
  change (_ && (_ && (_ && (_ && (_ && (_ && (_ && (_ && (_ && (_ && (_ && _))))))))))) = true
    at comparable
  simp only [Bool.and_eq_true] at comparable
  obtain ⟨-, -, -, -, -, progress, -, -, -, error, result, -⟩ := comparable
  cases field
  case percentage =>
    obtain ⟨percentage, isReported, rfl⟩ := Option.map_eq_some_iff.1 reported
    have same := ((Job.progress_beq_iff _ _).1 progress).2.2.1
    rwa [isReported] at same
  case error =>
    obtain ⟨failure, isReported, rfl⟩ := Option.map_eq_some_iff.1 reported
    rwa [isReported] at error
  case result =>
    obtain ⟨payload, isReported, rfl⟩ := Option.map_eq_some_iff.1 reported
    rwa [isReported] at result
  all_goals exact Field.sameValue_self rfl value

/-! ## Settled fields -/

/-- Whether an offer would write nothing, neither a value nor a stamp. -/
def Register.IsSettled {field : Field} (register : Register field) (sequence : Sequence)
    (offered : Option field.Value) : Prop :=
  ∀ value, offered = some value → register.stamp ≤ sequence →
    register.stamp = sequence ∧ field.sameValue register.value value = true

/-- What has been offered is settled. -/
theorem Register.isSettled_offer {field : Field} (register : Register field) (sequence : Sequence)
    {offered : Option field.Value}
    (comparable : ∀ value, offered = some value → field.sameValue value value = true) :
    (register.offer sequence offered).IsSettled sequence offered := by
  rintro value rfl reached
  have accepted : register.stamp ≤ sequence := by
    refine Nat.le_of_not_lt fun fresher => Nat.not_le_of_lt fresher ?_
    rwa [offer_of_lt fresher] at reached
  have agree := (register.offer_agree accepted value).symm
  exact ⟨offer_stamp accepted value,
    Field.sameValue_symm ((Field.agree_iff_sameValue (comparable value rfl)).1 agree)⟩

namespace Overlay

variable {overlay : Overlay} {sequence : Sequence} {field : Field}

theorem writeReported_of_isSettled {offered : Option field.Value}
    (settled : (overlay.register field).IsSettled sequence offered) :
    overlay.writeReported sequence field offered = overlay := by
  cases offered with
  | none => rfl
  | some value =>
      rw [writeReported, write]
      split
      next accepted =>
        rw [Stamps.accepts, decide_eq_true_eq] at accepted
        obtain ⟨stamp, same⟩ := settled value rfl accepted
        have level : overlay.stamps.raise field sequence = overlay.stamps :=
          if_neg (Nat.not_lt_of_le (Nat.le_of_eq stamp.symm))
        exact (if_pos same).trans (congrArg (fun stamps => { overlay with stamps := stamps }) level)
      next => rfl

theorem foldl_take_of_isSettled {patch : Patch} {job : Job} {fields : List Field}
    (settled : ∀ field ∈ fields,
      (overlay.register field).IsSettled sequence (patch.valueFor? job field)) :
    fields.foldl (take patch job sequence) overlay = overlay := by
  induction fields with
  | nil => rfl
  | cons first rest ih =>
      obtain ⟨here, behind⟩ := List.forall_mem_cons.1 settled
      rw [List.foldl_cons, take, writeReported_of_isSettled here]
      exact ih behind

/-- A patch writes nothing over a job that goes on, has no status to take, and is settled. -/
theorem ofPatch_of_isSettled {patch : Patch} {entry : Entry}
    (active : entry.job.isTerminal = false)
    (still : ∀ status, patch.status = some status → entry.job.status.advancesTo status = false)
    (settled : ∀ field : Field, field.isOverlaid = true →
      (entry.register field).IsSettled sequence (patch.valueFor? entry.job field)) :
    ofPatch patch sequence entry = start entry := by
  -- Each turn finds the overlay as it was at the start.
  have advanced : (start entry).advance sequence patch.status = start entry := by
    rcases reported : patch.status with - | status
    · rfl
    · exact if_neg (Bool.eq_false_iff.1 (still status reported))
  have progressed : Field.progressive.foldl (take patch entry.job sequence) (start entry) =
      start entry :=
    foldl_take_of_isSettled fun field member =>
      settled field ((Field.mem_progressive_iff field).1 member).1
  have unended : (start entry).takeEnd patch entry.job sequence = start entry :=
    if_neg (Bool.eq_false_iff.1 active)
  rw [ofPatch, advanced, progressed, unended]
  exact writeReported_of_isSettled (settled .result rfl)

end Overlay

namespace Report

variable {report : Report} {existing : Option Entry} {entry next : Entry}

/-! ## The same patch once more -/

namespace Lays

theorem kind_eq (lays : report.Lays entry next) (silent : report.patch.resource = none) :
    next.job.resource.kind = entry.job.resource.kind := by
  have written : next.job.resource = ((entry.register .resource).offer report.sequence
      (report.patch.resourceFor? entry.job)).value :=
    congrArg Register.value (lays.overlaid .resource rfl)
  rcases (entry.register .resource).value_offer_cases report.sequence
    (report.patch.resourceFor? entry.job) with same | renamed
  · exact congrArg Resource.kind (written.trans same)
  · rw [← written, Patch.resourceFor?, silent] at renamed
    rcases named : report.patch.resourceName with - | name
    · rw [named] at renamed
      cases renamed
    · rw [named, Option.ite_none_left_eq_some] at renamed
      rw [← Option.some.inj renamed.2, Resource.kind_ofKind]

/-- A patch reports the same for the record that it has been laid over. -/
theorem valueFor?_eq (lays : report.Lays entry next) (field : Field) :
    report.patch.valueFor? next.job field = report.patch.valueFor? entry.job field := by
  cases field
  case resource =>
    rw [Patch.valueFor?, Patch.valueFor?, Patch.resourceFor?, Patch.resourceFor?]
    cases reported : report.patch.resource with
    | some resource => rfl
    | none => rw [lays.kind_eq reported]
  all_goals rfl

/-- A patch writes nothing over a job that it has been laid over, if that goes on. -/
theorem ofPatch_eq_start (lays : report.Lays entry next)
    (active : next.job.isTerminal = false) (comparable : (report.patch == report.patch) = true) :
    Overlay.ofPatch report.patch report.sequence next = .start next := by
  apply Overlay.ofPatch_of_isSettled active
  · intro status reported
    rw [lays.status_of_some reported]
    split
    · simp [Status.advancesTo]
    next still => exact Bool.eq_false_iff.2 still
  · intro field overlaid
    rw [lays.valueFor?_eq, lays.overlaid field overlaid]
    exact Register.isSettled_offer _ _ fun value =>
      report.patch.sameValue_of_valueFor? comparable

end Lays

/-- What a report has left behind is not changed by its patch under the same sequence, from any
source, or turns it down. -/
theorem mergeInto_entryAfter (comparable : (report.patch == report.patch) = true)
    (existing : Option Entry) (origin : Origin) :
    { report with origin := origin }.mergeInto (report.entryAfter existing) = (none, .unchanged) ∨
      ∃ status, { report with origin := origin }.mergeInto (report.entryAfter existing) =
        (none, .rejected status) := by
  rcases report.entryAfter_cases existing with ⟨entry, -, ended, stays⟩ | ⟨-, next, becomes, lays⟩
  · rw [stays]
    exact .inr ⟨_, mergeInto_of_terminal _ ended⟩
  · rw [becomes]
    cases active : next.job.isTerminal with
    | true => exact .inr ⟨_, mergeInto_of_terminal _ active⟩
    | false =>
        have settled := lays.ofPatch_eq_start active comparable
        exact .inl (mergeInto_of_untouched _ active (congrArg Overlay.changed settled)
          (congrArg Overlay.stamps settled))

/-! ## What has changed -/

theorem outcome_eq_created_iff :
    (report.mergeInto existing).2 = .created ↔ existing = none := by
  cases existing with
  | none => exact iff_of_true rfl rfl
  | some entry =>
      refine iff_of_false ?_ nofun
      cases ended : entry.job.isTerminal with
      | true =>
          rw [report.mergeInto_of_terminal ended]
          exact nofun
      | false =>
          rw [report.outcome_of_active ended]
          split
          · exact nofun
          · exact nofun

theorem outcome_eq_rejected_iff (status : Status) :
    (report.mergeInto existing).2 = .rejected status ↔
      ∃ entry, existing = some entry ∧ entry.job.isTerminal = true ∧ entry.job.status = status := by
  cases existing with
  | none => simp [mergeInto]
  | some entry =>
      cases ended : entry.job.isTerminal with
      | true =>
          rw [report.mergeInto_of_terminal ended]
          simp [ended]
      | false =>
          rw [report.outcome_of_active ended]
          refine iff_of_false ?_ (by simp [ended])
          intro rejected
          split at rejected
          · cases rejected
          · cases rejected

theorem outcome_cases_of_active (active : entry.job.isTerminal = false)
    (becomes : report.entryAfter (some entry) = some next) :
    ((report.mergeInto (some entry)).2 = .unchanged ∧ next.job = entry.job) ∨
      ∃ fields, (report.mergeInto (some entry)).2 = .updated fields ∧
        entry.job.DiffersIn fields next.job := by
  have tracks := Overlay.tracks_ofPatch report.patch report.sequence entry
  have grows := Overlay.grows_ofPatch report.patch report.sequence entry
  have laid : next.job = (Overlay.ofPatch report.patch report.sequence entry).job := by
    have same := report.job_entryAfter_of_active active
    rw [becomes] at same
    exact Option.some.inj same
  rw [report.outcome_of_active active, laid]
  split
  next silent => exact .inl ⟨rfl, grows.quiet (List.isEmpty_iff.1 silent)⟩
  next loud =>
    have records := tracks.beq_eq_false fun silent => loud (List.isEmpty_iff.2 silent)
    exact .inr ⟨_, rfl, records, tracks.order.nodup Field.writingOrder_nodup, tracks.order,
      tracks.changed, tracks.unchanged⟩

/-- Nothing is replaced if neither a value nor a stamp would be another one. -/
theorem mergeInto_fst_eq_none_iff (active : entry.job.isTerminal = false)
    (becomes : report.entryAfter (some entry) = some next) :
    (report.mergeInto (some entry)).1 = none ↔
      (report.mergeInto (some entry)).2 = .unchanged ∧ next.stamps = entry.stamps := by
  by_cases untouched :
      (Overlay.ofPatch report.patch report.sequence entry).changed = [] ∧
        (Overlay.ofPatch report.patch report.sequence entry).stamps = entry.stamps
  · have dropped := report.mergeInto_of_untouched active untouched.1 untouched.2
    rw [entryAfter, dropped] at becomes
    cases becomes
    rw [dropped]
    exact iff_of_true rfl ⟨rfl, rfl⟩
  · have replaced := report.mergeInto_of_touched active untouched
    rw [entryAfter, replaced] at becomes
    cases becomes
    rw [replaced]
    apply iff_of_false
    · intro dropped
      cases dropped
    · intro same
      obtain ⟨quiet, unstamped⟩ := same
      refine untouched ⟨?_, unstamped⟩
      split at quiet
      next silent => exact List.isEmpty_iff.1 silent
      next => cases quiet

/-- A replacement is what the report makes of a job that has not ended, or of the one that it
starts. It bears the report's source and the later of the two sequences. -/
theorem lays_of_replaced (replaced : (report.mergeInto existing).1 = some next) :
    Unended existing ∧ report.Lays (report.base existing) next ∧
      next.lastOrigin = report.origin ∧
      next.lastSequence = max (report.base existing).lastSequence report.sequence := by
  cases existing with
  | none =>
      cases replaced
      exact ⟨unended_none, lays_of_ofPatch rfl rfl, rfl, (Nat.max_self _).symm⟩
  | some entry =>
      cases active : entry.job.isTerminal with
      | true =>
          rw [mergeInto_of_terminal report active] at replaced
          cases replaced
      | false =>
          by_cases untouched :
              (Overlay.ofPatch report.patch report.sequence entry).changed = [] ∧
                (Overlay.ofPatch report.patch report.sequence entry).stamps = entry.stamps
          · rw [report.mergeInto_of_untouched active untouched.1 untouched.2] at replaced
            cases replaced
          · rw [report.mergeInto_of_touched active untouched] at replaced
            cases replaced
            exact ⟨(unended_some entry).2 active, lays_of_ofPatch rfl rfl, rfl, rfl⟩

/-- A field that is not reported stays as it is, but for the time of completion of a job that
ends. -/
theorem Lays.register_of_silent (lays : report.Lays entry next) {field : Field}
    (silent : report.patch.valueFor? entry.job field = none)
    (ongoing : field = .completed → next.job.isTerminal = false) :
    next.register field = entry.register field := by
  cases overlaid : field.isOverlaid with
  | true => rw [lays.overlaid field overlaid, silent, Register.offer_none]
  | false =>
      cases field
      case status =>
        rw [lays.status, show report.patch.status = none from silent]
        rfl
      case completed => rw [lays.completed, if_neg (Bool.eq_false_iff.1 (ongoing rfl))]
      case error =>
        rw [lays.error, show report.patch.error.map some = none from silent, Register.offer_none,
          ite_self]
      all_goals cases overlaid

/-- The outcome of a merge tells how the record differs from the one before, for every report and
every entry or none. It is created exactly if there was no entry, and rejected exactly if the stored
job had ended. Any other job is updated in the fields whose values differ, or unchanged with the
same record. Nothing is replaced exactly if nothing was taken from the report: the job had ended, or
neither a value nor a stamp is another one. A replacement is about the same job and bears the source
of the report, no stamp of it is lower, and what is not reported stays, but for the time of
completion of a job that ends. The same patch under the same sequence, from any source, is then
rejected or leaves the job unchanged, and replaces nothing, unless it holds a double that is not a
number and so differs even from itself. -/
theorem outcome_tells_difference (report : Report) (existing : Option Entry) :
    let merged := report.mergeInto existing
    (merged.2 = .created ↔ existing = none) ∧
    (∀ status, merged.2 = .rejected status ↔
      ∃ entry, existing = some entry ∧ entry.job.isTerminal = true ∧ entry.job.status = status) ∧
    (∀ entry, existing = some entry → entry.job.isTerminal = false →
      ∃ next, report.entryAfter existing = some next ∧ report.Lays entry next ∧
        ((merged.2 = .unchanged ∧ next.job = entry.job) ∨
          ∃ fields, merged.2 = .updated fields ∧ entry.job.DiffersIn fields next.job) ∧
        (merged.1 = none ↔ merged.2 = .unchanged ∧ next.stamps = entry.stamps)) ∧
    (existing = none → merged.1 ≠ none) ∧
    (∀ entry, existing = some entry → entry.job.isTerminal = true → merged.1 = none) ∧
    (∀ entry next, existing = some entry → merged.1 = some next →
      next.job.id = entry.job.id ∧ next.lastOrigin = report.origin ∧
      (∀ field, entry.stamps.get field ≤ next.stamps.get field) ∧
      ∀ field, report.patch.valueFor? entry.job field = none →
        (field = .completed → next.job.isTerminal = false) →
        next.job.value field = entry.job.value field ∧
          next.stamps.get field = entry.stamps.get field) ∧
    ((report.patch == report.patch) = true → ∀ origin,
      let again := { report with origin := origin }.mergeInto (report.entryAfter existing)
      again.1 = none ∧ (again.2 = .unchanged ∨ ∃ status, again.2 = .rejected status)) := by
  intro merged
  refine ⟨outcome_eq_created_iff, outcome_eq_rejected_iff, ?active, ?first, ?ended, ?replaced,
    ?again⟩
  case active =>
    rintro entry rfl active
    obtain ⟨next, becomes, lays⟩ :=
      report.entryAfter_of_unended ((unended_some entry).2 active)
    exact ⟨next, becomes, lays, outcome_cases_of_active active becomes,
      mergeInto_fst_eq_none_iff active becomes⟩
  case first =>
    rintro rfl
    exact nofun
  case ended =>
    rintro entry rfl ended
    exact congrArg Prod.fst (report.mergeInto_of_terminal ended)
  case replaced =>
    rintro entry next rfl replaced
    obtain ⟨-, lays, origin, -⟩ := lays_of_replaced replaced
    rw [base_some] at lays
    refine ⟨lays.id, origin, lays.stamps, fun field silent ongoing => ?_⟩
    have same := lays.register_of_silent silent ongoing
    exact ⟨congrArg Register.value same, congrArg Register.stamp same⟩
  case again =>
    intro comparable origin again
    rcases mergeInto_entryAfter comparable existing origin with unchanged | ⟨status, rejected⟩
    · exact ⟨congrArg Prod.fst unchanged, .inl (congrArg Prod.snd unchanged)⟩
    · exact ⟨congrArg Prod.fst rejected, .inr ⟨status, congrArg Prod.snd rejected⟩⟩

/-- The entry of a job with a message that comes under a later sequence than what follows. -/
def messageAhead : Option Entry :=
  entryFrom
    [⟨(Patch.empty ⟨"job-1"⟩ ⟨10, 0⟩).withCounters 1 4, .stream, 1⟩,
      ⟨(Patch.empty ⟨"job-1"⟩ ⟨11, 0⟩).withMessage "copying", .stream, 5⟩] ⟨"job-1"⟩

/-- One counter is new, the other is known, the message is stale, and the percentage is reported for
the first time. -/
def overtakenProgress : Report :=
  ⟨{ Patch.empty ⟨"job-1"⟩ ⟨20, 0⟩ with
      progress := ⟨some 2, some 4, some 50, some "starting", none⟩ }, .bulkPoll, 3⟩

theorem overtakenProgress_tells_difference :
    (overtakenProgress.patch == overtakenProgress.patch) = true ∧
      (overtakenProgress.mergeInto messageAhead).2 = .updated [.current, .percentage] ∧
      ({ overtakenProgress with origin := .stream }.mergeInto
        (overtakenProgress.entryAfter messageAhead)).1 = none := by
  have comparable : (overtakenProgress.patch == overtakenProgress.patch) = true := by
    decide +kernel
  obtain ⟨-, -, -, -, -, -, again⟩ := outcome_tells_difference overtakenProgress messageAhead
  exact ⟨comparable, by decide +kernel, (again comparable .stream).1⟩

end Report

end LiveJobs
