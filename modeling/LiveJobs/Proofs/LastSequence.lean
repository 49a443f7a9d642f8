import LiveJobs.Proofs.FullRecords
import Mathlib.Data.List.Induction
import Mathlib.Order.Bounds.Basic

/-!
# The last sequence of an entry

How fresh an entry is can be read off one number. The last sequence is the highest of those under
which something has been written, and no stamp is above it; a report that comes under it or a later
one is too late for no field. A status is taken under any sequence, so the last report that wrote
something need not be the one with that number.

What a report does depends on the entry that it finds, so the reports of a run are looked at
together with what they found. The set of the sequences that have written grows by at most one with
each report, and its greatest element is carried along the run.
-/

namespace LiveJobs

/-! ## Writing reports -/

namespace Report

/-- Whether a report writes anything: it starts the entry, changes a value, or moves a stamp. -/
def Writes (report : Report) (existing : Option Entry) : Prop :=
  (report.mergeInto existing).2.changed = true ∨
    (report.entryAfter existing).map Entry.stamps ≠ existing.map Entry.stamps

/-- Whether a report accounts for the stamp of a field. The job has not ended, and the report takes
it a step forward, ends it, or reports the field. -/
def Accounts (report : Report) (existing : Option Entry) (field : Field) : Prop :=
  Unended existing ∧
    match field with
    | .status => ∃ status, report.patch.status = some status ∧
        (report.base existing).job.status.advancesTo status = true
    | .completed => report.ends = true
    | field => report.patch.valueFor? (report.base existing).job field ≠ none

variable {report : Report} {existing : Option Entry} {entry next : Entry}

theorem mergeInto_fst_ne_none_iff :
    (report.mergeInto existing).1 ≠ none ↔ report.Writes existing := by
  cases existing with
  | none => exact iff_of_true nofun (.inl rfl)
  | some entry =>
      cases ended : entry.job.isTerminal with
      | true =>
          rw [Writes, report.entryAfter_of_terminal ended, report.mergeInto_of_terminal ended]
          simp [Outcome.changed]
      | false =>
          obtain ⟨next, becomes, -⟩ := report.entryAfter_of_unended ((unended_some entry).2 ended)
          have quiet : (report.mergeInto (some entry)).2 = .unchanged ↔
              (report.mergeInto (some entry)).2.changed ≠ true := by
            rcases outcome_cases_of_active ended becomes with ⟨same, -⟩ | ⟨fields, updated, -⟩
            · simp [same, Outcome.changed]
            · simp [updated, Outcome.changed]
          rw [Writes, becomes, ne_eq, mergeInto_fst_eq_none_iff ended becomes, quiet]
          simp only [Option.map_some, ne_eq, Option.some.injEq]
          tauto

/-- A report that writes something raises the last sequence to its own; any other leaves the entry
as it is. -/
theorem lastSequence_entryAfter (becomes : report.entryAfter existing = some next) :
    (report.Writes existing ∧
      next.lastSequence = max (report.base existing).lastSequence report.sequence) ∨
    (¬report.Writes existing ∧ existing = some next) := by
  rw [← mergeInto_fst_ne_none_iff]
  cases merged : (report.mergeInto existing).1 with
  | some replacement =>
      rw [entryAfter, merged] at becomes
      cases becomes
      obtain ⟨-, -, -, lastSequence⟩ := lays_of_replaced merged
      exact .inl ⟨Option.some_ne_none next, lastSequence⟩
  | none =>
      rw [entryAfter, merged] at becomes
      exact .inr ⟨not_not_intro rfl, becomes⟩

end Report

/-! ## Stamping reports -/

namespace Register

theorem stamp_offer_cases {field : Field} (register : Register field) (sequence : Sequence)
    (offered : Option field.Value) :
    (register.offer sequence offered).stamp = register.stamp ∨
      offered ≠ none ∧ (register.offer sequence offered).stamp = sequence := by
  cases offered with
  | none => exact .inl rfl
  | some value =>
      by_cases accepted : register.stamp ≤ sequence
      · exact .inr ⟨nofun, offer_stamp accepted value⟩
      · exact .inl (congrArg stamp (offer_of_lt (Nat.lt_of_not_le accepted) _))

theorem stamp_advance_cases (register : Register .status) (sequence : Sequence)
    (reported : Option Status) :
    (register.advance sequence reported).stamp = register.stamp ∨
      (∃ status, reported = some status ∧ Status.advancesTo register.value status = true) ∧
        (register.advance sequence reported).stamp = sequence := by
  cases reported with
  | none => exact .inl rfl
  | some status =>
      rw [advance]
      split
      next forward =>
        rcases Nat.le_total sequence register.stamp with older | newer
        · exact .inl (Nat.max_eq_left older)
        · exact .inr ⟨⟨status, rfl, forward⟩, Nat.max_eq_right newer⟩
      next => exact .inl rfl

theorem stamp_complete_cases (register : Register .completed) (sequence : Sequence)
    (observedAt : Time.Instant) :
    (register.complete sequence observedAt).stamp = register.stamp ∨
      (register.complete sequence observedAt).stamp = sequence := by
  rw [complete]
  split
  · exact (Nat.le_total sequence register.stamp).imp Nat.max_eq_left Nat.max_eq_right
  · exact .inl rfl

end Register

/-- A report leaves the stamp of a field as it is, or accounts for it with its own sequence. -/
theorem Report.Lays.stamp_cases {report : Report} {existing : Option Entry} {next : Entry}
    (unended : Unended existing) (lays : report.Lays (report.base existing) next) (field : Field) :
    next.stamps.get field = (report.base existing).stamps.get field ∨
      report.Accounts existing field ∧ next.stamps.get field = report.sequence := by
  have offered (overlaid : field.isOverlaid = true) :
      next.stamps.get field = (report.base existing).stamps.get field ∨
        report.patch.valueFor? (report.base existing).job field ≠ none ∧
          next.stamps.get field = report.sequence := by
    have written : next.stamps.get field = _ :=
      congrArg Register.stamp (lays.overlaid field overlaid)
    rw [written]
    exact Register.stamp_offer_cases _ _ _
  cases field
  case status =>
    have written : next.stamps.get .status = _ := congrArg Register.stamp lays.status
    rw [written]
    exact (Register.stamp_advance_cases _ _ _).imp_right fun moved =>
      ⟨⟨unended, moved.1⟩, moved.2⟩
  case completed =>
    have written : next.stamps.get .completed = _ := congrArg Register.stamp lays.completed
    rw [written]
    split
    next ended =>
      rw [lays.isTerminal_eq (report.base_unended unended)] at ended
      rcases Register.stamp_complete_cases
        (((report.base existing).register .completed).offer report.sequence
          (report.patch.completed.map some)) report.sequence report.patch.observedAt with
        same | stamped
      · rw [same]
        exact (Register.stamp_offer_cases _ _ _).imp_right fun taken =>
          ⟨⟨unended, ended⟩, taken.2⟩
      · exact .inr ⟨⟨unended, ended⟩, stamped⟩
    next => exact .inl rfl
  case error =>
    have written : next.stamps.get .error = _ := congrArg Register.stamp lays.error
    rw [written]
    split
    next =>
      exact (Register.stamp_offer_cases _ _ _).imp_right fun taken =>
        ⟨⟨unended, taken.1⟩, taken.2⟩
    next => exact .inl rfl
  all_goals exact (offered rfl).imp_right fun taken => ⟨⟨unended, taken.1⟩, taken.2⟩

/-! ## Runs -/

section Runs

variable {reports : List Report} {report last : Report} {id : JobId} {entry : Entry}

/-- A report about a job in the course of a run, with the entry of the job that it found. -/
structure Met (reports : List Report) (id : JobId) (report : Report) (existing : Option Entry) :
    Prop where
  about : report.patch.id = id
  turn : ∃ before, before ++ [report] <+: reports ∧ entryFrom before id = existing

theorem Met.mono {existing : Option Entry} {point : List Report}
    (met : Met point id report existing) (early : point <+: reports) :
    Met reports id report existing := by
  obtain ⟨about, before, upTo, found⟩ := met
  exact ⟨about, before, upTo.trans early, found⟩

theorem met_concat_iff {existing : Option Entry} :
    Met (reports ++ [last]) id report existing ↔
      (report = last ∧ last.patch.id = id ∧ entryFrom reports id = existing) ∨
        Met reports id report existing := by
  constructor
  · rintro ⟨about, before, upTo, found⟩
    rcases List.prefix_concat_iff.1 upTo with whole | early
    · obtain ⟨rfl, same⟩ := List.append_inj' whole rfl
      cases same
      exact .inl ⟨rfl, about, found⟩
    · exact .inr ⟨about, before, early, found⟩
  · rintro (⟨rfl, about, found⟩ | earlier)
    · exact ⟨about, reports, List.prefix_rfl, found⟩
    · exact earlier.mono (List.prefix_append _ _)

theorem entryFrom_concat :
    entryFrom (reports ++ [last]) id =
      if last.patch.id = id then last.entryAfter (entryFrom reports id)
      else entryFrom reports id := by
  rw [entryFrom_append]
  exact JobMap.get?_merge _ last id

/-- The sequences under which something has been written of a job. -/
def writtenSequences (reports : List Report) (id : JobId) : Set Sequence :=
  { sequence | ∃ report existing, Met reports id report existing ∧ report.Writes existing ∧
    report.sequence = sequence }

theorem writtenSequences_mono {point : List Report} (early : point <+: reports) :
    writtenSequences point id ⊆ writtenSequences reports id := by
  rintro sequence ⟨report, existing, met, writes, rfl⟩
  exact ⟨report, existing, met.mono early, writes, rfl⟩

theorem writtenSequences_concat_of_writes (about : last.patch.id = id)
    (writes : last.Writes (entryFrom reports id)) :
    writtenSequences (reports ++ [last]) id =
      insert last.sequence (writtenSequences reports id) := by
  ext sequence
  simp only [writtenSequences, met_concat_iff, Set.mem_ofPred_eq, Set.mem_insert_iff]
  constructor
  · rintro ⟨report, existing, ⟨rfl, -, -⟩ | earlier, wrote, rfl⟩
    · exact .inl rfl
    · exact .inr ⟨report, existing, earlier, wrote, rfl⟩
  · rintro (rfl | ⟨report, existing, earlier, wrote, rfl⟩)
    · exact ⟨last, _, .inl ⟨rfl, about, rfl⟩, writes, rfl⟩
    · exact ⟨report, existing, .inr earlier, wrote, rfl⟩

theorem writtenSequences_concat_of_silent
    (silent : last.patch.id = id → ¬last.Writes (entryFrom reports id)) :
    writtenSequences (reports ++ [last]) id = writtenSequences reports id := by
  apply Set.Subset.antisymm
  · rintro sequence ⟨report, existing, met, wrote, rfl⟩
    rcases met_concat_iff.1 met with ⟨rfl, about, rfl⟩ | earlier
    · exact absurd wrote (silent about)
    · exact ⟨report, existing, earlier, wrote, rfl⟩
  · exact writtenSequences_mono (List.prefix_append _ _)

theorem writtenSequences_of_none (absent : entryFrom reports id = none) :
    writtenSequences reports id = ∅ := by
  refine Set.eq_empty_of_forall_notMem ?_
  rintro sequence ⟨report, existing, ⟨rfl, before, upTo, -⟩, -, -⟩
  have member : report ∈ reports := upTo.subset (List.mem_append_right _ List.mem_cons_self)
  obtain ⟨entry, stored⟩ := JobMap.empty.exists_get?_mergeAll member
  exact Option.some_ne_none entry (stored.symm.trans absent)

/-- The last sequence is the highest one under which something has been written. -/
theorem isGreatest_lastSequence (stored : entryFrom reports id = some entry) :
    IsGreatest (writtenSequences reports id) entry.lastSequence := by
  induction reports using List.reverseRecOn generalizing entry with
  | nil => cases stored
  | append_singleton reports last ih =>
      rw [entryFrom_concat] at stored
      split at stored
      next about =>
        rcases Report.lastSequence_entryAfter stored with ⟨writes, raised⟩ | ⟨silent, same⟩
        · rw [raised, writtenSequences_concat_of_writes about writes]
          cases found : entryFrom reports id with
          | none =>
              rw [writtenSequences_of_none found, insert_empty_eq, Report.base_none,
                show last.seed.lastSequence = last.sequence from rfl, max_self]
              exact isGreatest_singleton
          | some before =>
              rw [Report.base_some, max_comm]
              exact (ih found).insert last.sequence
        · rw [writtenSequences_concat_of_silent fun _ => silent]
          exact ih same
      next other =>
        rw [writtenSequences_concat_of_silent fun about => absurd about other]
        exact ih stored

/-- A stamp is zero or the sequence of a report that accounts for it. -/
theorem exists_met_of_stamp (stored : entryFrom reports id = some entry) (field : Field) :
    entry.stamps.get field = 0 ∨
      ∃ report existing, Met reports id report existing ∧ report.Accounts existing field ∧
        entry.stamps.get field = report.sequence := by
  have earlier {reports : List Report} {last : Report} {stamp : Sequence}
      (known : stamp = 0 ∨ ∃ report existing, Met reports id report existing ∧
        report.Accounts existing field ∧ stamp = report.sequence) :
      stamp = 0 ∨ ∃ report existing, Met (reports ++ [last]) id report existing ∧
        report.Accounts existing field ∧ stamp = report.sequence := by
    refine known.imp_right ?_
    rintro ⟨report, existing, met, accounts⟩
    exact ⟨report, existing, met.mono (List.prefix_append _ _), accounts⟩
  induction reports using List.reverseRecOn generalizing entry with
  | nil => cases stored
  | append_singleton reports last ih =>
      rw [entryFrom_concat] at stored
      split at stored
      next about =>
        rcases last.entryAfter_cases (entryFrom reports id) with
          ⟨before, found, -, stays⟩ | ⟨unended, next, becomes, lays⟩
        · cases stored.symm.trans stays
          exact earlier (ih found)
        · cases stored.symm.trans becomes
          rcases lays.stamp_cases unended field with same | ⟨accounts, stamped⟩
          · rw [same]
            cases found : entryFrom reports id with
            | none => exact .inl (last.stamp_seed field)
            | some before => exact earlier (ih found)
          · exact .inr ⟨last, _, met_concat_iff.2 (.inl ⟨rfl, about, rfl⟩), accounts, stamped⟩
      next => exact earlier (ih stored)

end Runs

/-! ## The law -/

/-- How fresh an entry is can be read off one number. After any run of reports, whatever their
sequences, no stamp of a job's entry is above its last sequence, and that is the highest sequence of
those reports that started the entry, changed a value of it, or moved a stamp. Neither that number
nor any stamp has fallen since any earlier point of the run. Each stamp is zero or the sequence of a
report that reported the field, where for the status it took the job a step forward, and for the
completion it ended the job; until then nothing stamps the completion and the failure. So a report
under the last sequence or a later one is too late for no field: if the job has not ended, all that
it says about the overlaid fields is taken under its sequence, and an end that it brings is
decided by it. -/
theorem last_sequence_tells_freshness (reports : List Report) (id : JobId) (entry : Entry)
    (stored : entryFrom reports id = some entry) :
    (∀ field, entry.stamps.get field ≤ entry.lastSequence) ∧
    IsGreatest (writtenSequences reports id) entry.lastSequence ∧
    (∀ point, point <+: reports → ∀ past, entryFrom point id = some past →
      past.lastSequence ≤ entry.lastSequence ∧
        ∀ field, past.stamps.get field ≤ entry.stamps.get field) ∧
    (∀ field, entry.stamps.get field = 0 ∨
      ∃ report existing, Met reports id report existing ∧ report.Accounts existing field ∧
        entry.stamps.get field = report.sequence) ∧
    (entry.job.isTerminal = false →
      entry.stamps.get .completed = 0 ∧ entry.stamps.get .error = 0) ∧
    ∀ report : Report, entry.lastSequence ≤ report.sequence →
      (∀ field, entry.stamps.accepts field report.sequence = true) ∧
      (entry.job.isTerminal = false →
        ∃ next, report.entryAfter (some entry) = some next ∧
          (∀ field value, field.isOverlaid = true →
            report.patch.valueFor? entry.job field = some value →
            field.Agree (next.job.value field) value ∧
              next.stamps.get field = report.sequence) ∧
          ∀ final, report.patch.status = some final → final.isTerminal = true →
            report.Ended final next.job) := by
  have sound := sound_of_entryFrom stored
  refine ⟨sound.stamps, isGreatest_lastSequence stored, ?monotone, exists_met_of_stamp stored,
    ?ongoing, ?accepted⟩
  case monotone =>
    intro point early past found
    refine ⟨(isGreatest_lastSequence found).mono (isGreatest_lastSequence stored)
      (writtenSequences_mono early), ?_⟩
    obtain ⟨later, rfl⟩ := early
    rw [entryFrom_append] at stored
    obtain ⟨reached, ends, run⟩ := JobMap.run_of_get? found later
    cases stored.symm.trans ends
    exact run.stamps_le
  case ongoing =>
    intro active
    have ongoing := sound.ongoing active
    exact ⟨congrArg Register.stamp ongoing.completed, congrArg Register.stamp ongoing.error⟩
  case accepted =>
    intro report late
    have reached (field : Field) : entry.stamps.get field ≤ report.sequence :=
      Nat.le_trans (sound.stamps field) late
    refine ⟨fun field => decide_eq_true (reached field), fun active => ?_⟩
    obtain ⟨next, becomes, lays⟩ := report.entryAfter_of_unended ((unended_some entry).2 active)
    refine ⟨next, becomes, ?_, fun final => lays.ended (sound.ongoing active)⟩
    intro field value overlaid reported
    have taken := lays.overlaid field overlaid
    rw [Report.base_some, reported] at taken
    have written : next.job.value field = _ := congrArg Register.value taken
    have stamped : next.stamps.get field = _ := congrArg Register.stamp taken
    rw [written, stamped]
    exact ⟨Register.offer_agree (reached field) value, Register.offer_stamp (reached field) value⟩

/-- A job that is first heard of with a message, and then said to run by an older report. -/
def overtakenStart : List Report :=
  [⟨(Patch.empty ⟨"job-1"⟩ ⟨10, 0⟩).withMessage "copying", .stream, 4⟩,
    ⟨(Patch.empty ⟨"job-1"⟩ ⟨5, 0⟩).withStatus .running, .bulkPoll, 1⟩]

/-- The status is stamped with the older sequence, and the last sequence stays. A message under that
one is taken. -/
theorem overtakenStart_tells_freshness :
    ∃ entry, entryFrom overtakenStart ⟨"job-1"⟩ = some entry ∧
      entry.lastSequence = 4 ∧ entry.stamps.get .status = 1 ∧ entry.job.isTerminal = false ∧
      ∃ next : Entry,
        Report.entryAfter ⟨(Patch.empty ⟨"job-1"⟩ ⟨20, 0⟩).withMessage "done", .singlePoll, 4⟩
          (some entry) = some next ∧
        next.job.progress.message = some "done" ∧ next.stamps.get .message = 4 := by
  refine ⟨_, rfl, rfl, by decide, rfl, ?_⟩
  obtain ⟨-, -, -, -, -, accepted⟩ := last_sequence_tells_freshness overtakenStart ⟨"job-1"⟩ _ rfl
  obtain ⟨next, becomes, fields, -⟩ :=
    (accepted ⟨(Patch.empty ⟨"job-1"⟩ ⟨20, 0⟩).withMessage "done", .singlePoll, 4⟩
      (Nat.le_refl 4)).2 rfl
  obtain ⟨agree, stamp⟩ := fields .message (some "done") rfl rfl
  exact ⟨next, becomes, (Field.agree_iff_eq rfl).1 agree, stamp⟩

end LiveJobs
