import LiveJobs.Merge.JobMap
import LiveJobs.Proofs.Comparison

/-!
# What a report does to each field

An overlay writes the fields of a job one after the other. Seen from one field, almost all of that
is invisible: the field is a register that is offered at most one value. The overlay is read here
field by field; later proofs use the registers and do not open it again.
-/

namespace LiveJobs

open LiveJobs.Time

/-- A field of a job together with its stamp. -/
structure Register (field : Field) where
  value : field.Value
  stamp : Sequence

namespace Register

variable {field : Field}

/-- Offers a value under a sequence. It is stored unless the register is fresher; a value that is
taken for the same as the stored one leaves only its sequence. -/
def offer (register : Register field) (sequence : Sequence) :
    Option field.Value → Register field
  | none => register
  | some value =>
      if register.stamp ≤ sequence then
        ⟨if field.sameValue register.value value then register.value else value, sequence⟩
      else register

/-- Takes a status that is a step forward, whatever the stamp. -/
def advance (register : Register .status) (sequence : Sequence) :
    Option Status → Register .status
  | none => register
  | some next =>
      if Status.advancesTo register.value next then ⟨next, max register.stamp sequence⟩
      else register

/-- Puts a time of completion where there is none. -/
def complete (register : Register .completed) (sequence : Sequence) (observedAt : Instant) :
    Register .completed :=
  if Option.isNone register.value then ⟨some observedAt, max register.stamp sequence⟩
  else register

@[simp] theorem offer_none (register : Register field) (sequence : Sequence) :
    register.offer sequence none = register := rfl

theorem offer_of_lt {register : Register field} {sequence : Sequence}
    (fresher : sequence < register.stamp) (value : Option field.Value) :
    register.offer sequence value = register := by
  cases value with
  | none => rfl
  | some value => exact if_neg (Nat.not_le_of_lt fresher)

theorem value_offer_cases (register : Register field) (sequence : Sequence)
    (offered : Option field.Value) :
    (register.offer sequence offered).value = register.value ∨
      offered = some (register.offer sequence offered).value := by
  cases offered with
  | none => exact .inl rfl
  | some value =>
      rw [offer]
      split
      · split
        · exact .inl rfl
        · exact .inr rfl
      · exact .inl rfl

theorem offer_stamp {register : Register field} {sequence : Sequence}
    (accepted : register.stamp ≤ sequence) (value : field.Value) :
    (register.offer sequence (some value)).stamp = sequence := by
  simp [offer, accepted]

theorem offer_agree {register : Register field} {sequence : Sequence}
    (accepted : register.stamp ≤ sequence) (value : field.Value) :
    field.Agree (register.offer sequence (some value)).value value := by
  simp only [offer, accepted, if_true]
  split
  next same => exact .inl same
  next => exact field.agree_refl value

end Register

/-- A field of an entry. -/
def Entry.register (entry : Entry) (field : Field) : Register field :=
  ⟨entry.job.value field, entry.stamps.get field⟩

namespace Field

/-- The fields that are written whenever a report mentions them and nothing fresher has. The other
three belong to the lifecycle. -/
def isOverlaid : Field → Bool
  | .status => false
  | .completed => false
  | .error => false
  | _ => true

/-- The overlaid fields are those written before the end of the job is looked at, and its result. -/
theorem mem_progressive_iff (field : Field) :
    field ∈ progressive ↔ field.isOverlaid = true ∧ field ≠ .result := by
  cases field <;> decide

theorem progressive_nodup : progressive.Nodup := by decide

end Field

namespace Overlay

variable {overlay : Overlay} {sequence : Sequence} {field other : Field}

/-- A field of an overlay. -/
def register (overlay : Overlay) (field : Field) : Register field :=
  ⟨overlay.job.value field, overlay.stamps.get field⟩

/-! ## Single writes -/

theorem register_force_self (overlay : Overlay) (sequence : Sequence) (value : field.Value) :
    (overlay.force sequence field value).register field =
      ⟨value, max (overlay.register field).stamp sequence⟩ := by
  simp [register, force]

theorem register_force_of_ne (differ : other ≠ field) (value : field.Value) :
    (overlay.force sequence field value).register other = overlay.register other := by
  simp only [register, force]
  rw [Job.value_withValue_of_ne _ differ, Stamps.get_raise_of_ne _ differ]

theorem register_writeReported_self (overlay : Overlay) (sequence : Sequence)
    (value : Option field.Value) :
    (overlay.writeReported sequence field value).register field =
      (overlay.register field).offer sequence value := by
  cases value with
  | none => rfl
  | some value =>
      simp only [writeReported, write, Register.offer, Stamps.accepts, decide_eq_true_eq]
      by_cases accepted : overlay.stamps.get field ≤ sequence
      · by_cases same : field.sameValue (overlay.job.value field) value = true
        · simp [register, accepted, same]
        · simp [register, force, accepted, same]
      · simp [register, accepted]

theorem register_writeReported_of_ne (differ : other ≠ field) (value : Option field.Value) :
    (overlay.writeReported sequence field value).register other = overlay.register other := by
  cases value with
  | none => rfl
  | some value =>
      simp only [writeReported, write]
      split
      · split
        · simp only [register]
          rw [Stamps.get_raise_of_ne _ differ]
        · exact register_force_of_ne differ value
      · rfl

theorem register_advance_self (overlay : Overlay) (sequence : Sequence)
    (status : Option Status) :
    (overlay.advance sequence status).register .status =
      (overlay.register .status).advance sequence status := by
  cases status with
  | none => rfl
  | some next =>
      simp only [advance, Register.advance]
      split
      next forward =>
        rw [register_force_self]
        exact (if_pos forward).symm
      next still => exact (if_neg still).symm

theorem register_advance_of_ne (differ : other ≠ .status) (status : Option Status) :
    (overlay.advance sequence status).register other = overlay.register other := by
  cases status with
  | none => rfl
  | some next =>
      simp only [advance]
      split
      · exact register_force_of_ne differ next
      · rfl

theorem register_complete_self (overlay : Overlay) (sequence : Sequence) (observedAt : Instant) :
    (overlay.complete sequence observedAt).register .completed =
      (overlay.register .completed).complete sequence observedAt := by
  simp only [complete, Register.complete]
  split
  next missing =>
    rw [register_force_self]
    exact (if_pos missing).symm
  next present => exact (if_neg present).symm

theorem register_complete_of_ne (differ : other ≠ .completed) (observedAt : Instant) :
    (overlay.complete sequence observedAt).register other = overlay.register other := by
  simp only [complete]
  split
  · exact register_force_of_ne differ _
  · rfl

/-! ## The whole overlay -/

variable {patch : Patch} {job : Job}

theorem register_take_of_ne (differ : other ≠ field) :
    (overlay.take patch job sequence field).register other = overlay.register other :=
  register_writeReported_of_ne differ _

/-- Writing some fields leaves every other field alone. -/
theorem register_foldl_take_of_not_mem {fields : List Field} (absent : field ∉ fields) :
    (fields.foldl (take patch job sequence) overlay).register field = overlay.register field := by
  induction fields generalizing overlay with
  | nil => rfl
  | cons first rest ih =>
      rw [List.mem_cons, not_or] at absent
      rw [List.foldl_cons, ih absent.2, register_take_of_ne absent.1]

/-- Of several fields that are written, each is offered its own value. -/
theorem register_foldl_take_of_mem {fields : List Field} (distinct : fields.Nodup)
    (present : field ∈ fields) :
    (fields.foldl (take patch job sequence) overlay).register field =
      (overlay.register field).offer sequence (patch.valueFor? job field) := by
  induction fields generalizing overlay with
  | nil => cases present
  | cons first rest ih =>
      rw [List.nodup_cons] at distinct
      rw [List.foldl_cons]
      by_cases same : field = first
      · subst same
        rw [register_foldl_take_of_not_mem distinct.1]
        exact register_writeReported_self overlay sequence _
      · have later : field ∈ rest := (List.mem_cons.1 present).resolve_left same
        rw [ih distinct.2 later, register_take_of_ne same]

/-- The end of a job touches its completion and its failure only. -/
theorem register_takeEnd_of_ne (notCompleted : other ≠ .completed) (notError : other ≠ .error) :
    (overlay.takeEnd patch job sequence).register other = overlay.register other := by
  have throughCompletion : ((overlay.take patch job sequence .completed).complete sequence
      patch.observedAt).register other = overlay.register other := by
    rw [register_complete_of_ne notCompleted, register_take_of_ne notCompleted]
  simp only [takeEnd]
  split
  · split
    · rw [register_take_of_ne notError, throughCompletion]
    · exact throughCompletion
  · rfl

/-- Only a job that has ended gets a time of completion. -/
theorem register_takeEnd_completed (overlay : Overlay) :
    (overlay.takeEnd patch job sequence).register .completed =
      if overlay.job.isTerminal then
        ((overlay.register .completed).offer sequence (patch.completed.map some)).complete
          sequence patch.observedAt
      else overlay.register .completed := by
  have written : ((overlay.take patch job sequence .completed).complete sequence
      patch.observedAt).register .completed =
        ((overlay.register .completed).offer sequence (patch.completed.map some)).complete
          sequence patch.observedAt := by
    rw [register_complete_self, take, register_writeReported_self]
    rfl
  simp only [takeEnd]
  split
  · split
    · rw [register_take_of_ne (by decide), written]
    · exact written
  · rfl

theorem register_takeEnd_error (overlay : Overlay) :
    (overlay.takeEnd patch job sequence).register .error =
      if overlay.job.status = .failed then
        (overlay.register .error).offer sequence (patch.error.map some)
      else overlay.register .error := by
  have throughCompletion : ((overlay.take patch job sequence .completed).complete sequence
      patch.observedAt).register .error = overlay.register .error := by
    rw [register_complete_of_ne (by decide), register_take_of_ne (by decide)]
  by_cases ended : overlay.job.isTerminal = true
  · simp only [takeEnd, ended, if_true]
    by_cases failed : overlay.job.status = .failed
    · simp only [failed, if_true]
      rw [take, register_writeReported_self, throughCompletion]
      rfl
    · simp only [failed, if_false]
      exact throughCompletion
  · have notFailed : overlay.job.status ≠ .failed := by
      intro failed
      exact ended (by rw [Job.isTerminal, failed]; rfl)
    rw [takeEnd, if_neg ended, if_neg notFailed]

section OfPatch

variable (patch : Patch) (sequence : Sequence) (entry : Entry)

/-- An overlaid field is offered what the patch reports for it. -/
theorem register_ofPatch_of_isOverlaid (overlaid : field.isOverlaid = true) :
    (ofPatch patch sequence entry).register field =
      (entry.register field).offer sequence (patch.valueFor? entry.job field) := by
  have notStatus : field ≠ .status := by rintro rfl; cases overlaid
  have notCompleted : field ≠ .completed := by rintro rfl; cases overlaid
  have notError : field ≠ .error := by rintro rfl; cases overlaid
  by_cases isResult : field = .result
  · subst isResult
    rw [ofPatch, take, register_writeReported_self,
      register_takeEnd_of_ne notCompleted notError,
      register_foldl_take_of_not_mem (by decide), register_advance_of_ne notStatus]
    rfl
  · have present : field ∈ Field.progressive :=
      (Field.mem_progressive_iff field).2 ⟨overlaid, isResult⟩
    rw [ofPatch, register_take_of_ne isResult, register_takeEnd_of_ne notCompleted notError,
      register_foldl_take_of_mem Field.progressive_nodup present,
      register_advance_of_ne notStatus]
    rfl

theorem register_ofPatch_status :
    (ofPatch patch sequence entry).register .status =
      (entry.register .status).advance sequence patch.status := by
  rw [ofPatch, register_take_of_ne (by decide), register_takeEnd_of_ne (by decide) (by decide),
    register_foldl_take_of_not_mem (by decide), register_advance_self]
  rfl

/-- The end of the job is looked at under the new status. -/
theorem status_progressed :
    (Field.progressive.foldl (take patch entry.job sequence)
      ((start entry).advance sequence patch.status)).job.status =
        (ofPatch patch sequence entry).job.status := by
  have final := congrArg Register.value (register_ofPatch_status patch sequence entry)
  have early : (Field.progressive.foldl (take patch entry.job sequence)
      ((start entry).advance sequence patch.status)).register .status =
        ((start entry).advance sequence patch.status).register .status :=
    register_foldl_take_of_not_mem (by decide)
  rw [register_advance_self] at early
  exact (congrArg Register.value early).trans final.symm

theorem register_ofPatch_completed :
    (ofPatch patch sequence entry).register .completed =
      if (ofPatch patch sequence entry).job.isTerminal then
        ((entry.register .completed).offer sequence (patch.completed.map some)).complete
          sequence patch.observedAt
      else entry.register .completed := by
  have untouched : (Field.progressive.foldl (take patch entry.job sequence)
      ((start entry).advance sequence patch.status)).register .completed =
        entry.register .completed := by
    rw [register_foldl_take_of_not_mem (by decide), register_advance_of_ne (by decide)]
    rfl
  rw [Job.isTerminal, ← status_progressed, ← untouched, ofPatch, register_take_of_ne (by decide),
    register_takeEnd_completed]
  rfl

theorem register_ofPatch_error :
    (ofPatch patch sequence entry).register .error =
      if (ofPatch patch sequence entry).job.status = .failed then
        (entry.register .error).offer sequence (patch.error.map some)
      else entry.register .error := by
  have untouched : (Field.progressive.foldl (take patch entry.job sequence)
      ((start entry).advance sequence patch.status)).register .error = entry.register .error := by
    rw [register_foldl_take_of_not_mem (by decide), register_advance_of_ne (by decide)]
    rfl
  rw [← status_progressed, ← untouched, ofPatch, register_take_of_ne (by decide),
    register_takeEnd_error]

end OfPatch

/-! ## What every write keeps -/

/-- An overlay that came from another by writing. The job keeps its name, earlier changes stay on
record, no stamp falls, and without a further change on record the job is the same. -/
structure Grows (before after : Overlay) : Prop where
  id : after.job.id = before.job.id
  changes : before.changed <+: after.changed
  quiet : after.changed = before.changed → after.job = before.job
  stamps : ∀ field, before.stamps.get field ≤ after.stamps.get field

namespace Grows

theorem refl (overlay : Overlay) : overlay.Grows overlay where
  id := rfl
  changes := List.prefix_rfl
  quiet := fun _ => rfl
  stamps := fun _ => Nat.le_refl _

theorem trans {before middle after : Overlay} (first : before.Grows middle)
    (second : middle.Grows after) : before.Grows after where
  id := second.id.trans first.id
  changes := first.changes.trans second.changes
  quiet := by
    intro unchanged
    have noLonger : middle.changed.length ≤ before.changed.length :=
      unchanged ▸ second.changes.length_le
    have early : middle.changed = before.changed :=
      (first.changes.eq_of_length_le noLonger).symm
    rw [second.quiet (unchanged.trans early.symm), first.quiet early]
  stamps := fun field => Nat.le_trans (first.stamps field) (second.stamps field)

end Grows

theorem grows_force (overlay : Overlay) (sequence : Sequence) (field : Field)
    (value : field.Value) : overlay.Grows (overlay.force sequence field value) where
  id := Job.id_withValue _ _ _
  changes := List.prefix_append _ _
  quiet := by
    intro unchanged
    simp [force] at unchanged
  stamps := fun other => Stamps.get_le_get_raise _ _ other _

theorem grows_writeReported (overlay : Overlay) (sequence : Sequence) (field : Field)
    (value : Option field.Value) : overlay.Grows (overlay.writeReported sequence field value) := by
  cases value with
  | none => exact .refl overlay
  | some value =>
      simp only [writeReported, write]
      split
      · split
        · exact ⟨rfl, List.prefix_rfl, fun _ => rfl,
            fun other => Stamps.get_le_get_raise _ _ other _⟩
        · exact grows_force overlay sequence field value
      · exact .refl overlay

theorem grows_advance (overlay : Overlay) (sequence : Sequence) (status : Option Status) :
    overlay.Grows (overlay.advance sequence status) := by
  cases status with
  | none => exact .refl overlay
  | some next =>
      simp only [advance]
      split
      · exact grows_force overlay sequence .status next
      · exact .refl overlay

theorem grows_complete (overlay : Overlay) (sequence : Sequence) (observedAt : Instant) :
    overlay.Grows (overlay.complete sequence observedAt) := by
  simp only [complete]
  split
  · exact grows_force overlay sequence .completed _
  · exact .refl overlay

theorem grows_foldl_take (fields : List Field) (overlay : Overlay) :
    overlay.Grows (fields.foldl (take patch job sequence) overlay) := by
  induction fields generalizing overlay with
  | nil => exact .refl overlay
  | cons first rest ih => exact (grows_writeReported overlay sequence first _).trans (ih _)

theorem grows_takeEnd (overlay : Overlay) :
    overlay.Grows (overlay.takeEnd patch job sequence) := by
  have completion : overlay.Grows ((overlay.take patch job sequence .completed).complete sequence
      patch.observedAt) :=
    (grows_writeReported overlay sequence .completed _).trans (grows_complete _ _ _)
  simp only [takeEnd]
  split
  · split
    · exact completion.trans (grows_writeReported _ sequence .error _)
    · exact completion
  · exact .refl overlay

theorem grows_ofPatch (patch : Patch) (sequence : Sequence) (entry : Entry) :
    (start entry).Grows (ofPatch patch sequence entry) :=
  (grows_advance (start entry) sequence patch.status).trans <|
    (grows_foldl_take Field.progressive _).trans <|
      (grows_takeEnd _).trans (grows_writeReported _ sequence .result _)

end Overlay

end LiveJobs
