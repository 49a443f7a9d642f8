import LiveJobs.Merge.Field

/-!
# Comparing values of fields

The comparison that tells a new value from the stored one is symmetric and transitive, but not
reflexive: a double that is not a number differs from itself, and so does a payload that holds one.
No JSON text yields such a double. `Field.Agree` closes the gap: it is an equivalence on all values,
and the comparison itself on every value that does not differ from itself.
-/

namespace LiveJobs

open LiveJobs.Time
open Float.Model (UnpackedFloat)

/-! ## Doubles and payloads -/

/-- The numbers that doubles stand for. The two zeros are one number. -/
inductive DoubleNumber where
  | zero
  | finite (sign : UnpackedFloat.Sign) (exponent : Int) (mantissa : Nat)
  | infinite (sign : UnpackedFloat.Sign)

/-- The number of a double. -/
def DoubleNumber.of? : UnpackedFloat → Option DoubleNumber
  | .notANumber => none
  | .zero _ => some .zero
  | .finite sign mantissa exponent _ => some (.finite sign exponent mantissa)
  | .infinity sign => some (.infinite sign)

/-- Doubles compare as equal if they are the same number. -/
theorem unpacked_compare_eq_iff (left right : UnpackedFloat) :
    left.compare right = some .eq ↔
      DoubleNumber.of? left ≠ none ∧ DoubleNumber.of? left = DoubleNumber.of? right := by
  -- Two numbers of different kinds compare as less or greater, and differ.
  cases left with
  | notANumber => exact iff_of_false nofun fun number => number.1 rfl
  | infinity sign =>
      cases right with
      | infinity other =>
          cases sign <;> cases other
          · exact iff_of_true rfl ⟨nofun, rfl⟩
          · exact iff_of_false nofun nofun
          · exact iff_of_false nofun nofun
          · exact iff_of_true rfl ⟨nofun, rfl⟩
      | _ => cases sign <;> exact iff_of_false nofun nofun
  | zero sign =>
      cases right with
      | zero other => exact iff_of_true rfl ⟨nofun, rfl⟩
      | notANumber => exact iff_of_false nofun nofun
      | infinity other => cases other <;> exact iff_of_false nofun nofun
      | finite other => cases other <;> exact iff_of_false nofun nofun
  | finite sign mantissa exponent positive =>
      cases right with
      | finite other otherMantissa otherExponent =>
          cases sign <;> cases other
          · change some ((compare exponent otherExponent).then
                (compare mantissa otherMantissa)).swap = some .eq ↔
              some (DoubleNumber.finite .negative exponent mantissa) ≠ none ∧
                some (DoubleNumber.finite .negative exponent mantissa) =
                  some (.finite .negative otherExponent otherMantissa)
            simp
          · exact iff_of_false nofun nofun
          · exact iff_of_false nofun nofun
          · change some ((compare exponent otherExponent).then
                (compare mantissa otherMantissa)) = some .eq ↔
              some (DoubleNumber.finite .positive exponent mantissa) ≠ none ∧
                some (DoubleNumber.finite .positive exponent mantissa) =
                  some (.finite .positive otherExponent otherMantissa)
            simp
      | notANumber => cases sign <;> exact iff_of_false nofun nofun
      | zero other => cases sign <;> exact iff_of_false nofun nofun
      | infinity other => cases sign <;> cases other <;> exact iff_of_false nofun nofun

/-- The comparison of doubles, in the terms of their model. -/
theorem float_beq_iff (left right : Float) :
    (left == right) = true ↔
      DoubleNumber.of? left.toModel.unpack ≠ none ∧
        DoubleNumber.of? left.toModel.unpack = DoubleNumber.of? right.toModel.unpack := by
  rw [← unpacked_compare_eq_iff]
  change (left.toModel.unpack.compare right.toModel.unpack == some .eq) = true ↔ _
  exact beq_iff_eq

instance floatPartialEquiv : PartialEquivBEq Float where
  symm := by
    intro left right same
    rw [float_beq_iff] at *
    obtain ⟨number, same⟩ := same
    exact ⟨same ▸ number, same.symm⟩
  trans := by
    intro left middle right leftMiddle middleRight
    rw [float_beq_iff] at *
    exact ⟨leftMiddle.1, leftMiddle.2.trans middleRight.2⟩

namespace Json

mutual

theorem same_symm (left right : Json) (same : left.same right = true) :
    right.same left = true := by
  cases left with
  | null =>
      cases right with
      | null => rfl
      | _ => simp [Json.same] at same
  | bool value =>
      cases right with
      | bool other => exact BEq.symm (α := Bool) same
      | _ => simp [Json.same] at same
  | int value =>
      cases right with
      | int other => exact BEq.symm (α := Int) same
      | _ => simp [Json.same] at same
  | float value =>
      cases right with
      | float other => exact BEq.symm (α := Float) same
      | _ => simp [Json.same] at same
  | str text =>
      cases right with
      | str other => exact BEq.symm (α := String) same
      | _ => simp [Json.same] at same
  | arr items =>
      cases right with
      | arr others => exact sameItems_symm items others same
      | _ => simp [Json.same] at same
  | obj members =>
      cases right with
      | obj others => exact sameMembers_symm members others same
      | _ => simp [Json.same] at same

theorem sameItems_symm (left right : List Json) (same : sameItems left right = true) :
    sameItems right left = true := by
  cases left with
  | nil =>
      cases right with
      | nil => rfl
      | cons => simp [sameItems] at same
  | cons item items =>
      cases right with
      | nil => simp [sameItems] at same
      | cons other others =>
          simp only [sameItems, Bool.and_eq_true] at same ⊢
          exact ⟨same_symm item other same.1, sameItems_symm items others same.2⟩

theorem sameMembers_symm (left right : List (String × Json))
    (same : sameMembers left right = true) : sameMembers right left = true := by
  cases left with
  | nil =>
      cases right with
      | nil => rfl
      | cons => simp [sameMembers] at same
  | cons member members =>
      cases right with
      | nil => simp [sameMembers] at same
      | cons other others =>
          obtain ⟨name, value⟩ := member
          simp only [sameMembers, Bool.and_eq_true] at same ⊢
          exact ⟨⟨BEq.symm same.1.1, same_symm value other.2 same.1.2⟩,
            sameMembers_symm members others same.2⟩

end

mutual

theorem same_trans (left middle right : Json) (leftMiddle : left.same middle = true)
    (middleRight : middle.same right = true) : left.same right = true := by
  cases left with
  | null =>
      cases middle with
      | null => exact middleRight
      | _ => simp [Json.same] at leftMiddle
  | bool value =>
      cases middle with
      | bool =>
          cases right with
          | bool => exact BEq.trans (α := Bool) leftMiddle middleRight
          | _ => simp [Json.same] at middleRight
      | _ => simp [Json.same] at leftMiddle
  | int value =>
      cases middle with
      | int =>
          cases right with
          | int => exact BEq.trans (α := Int) leftMiddle middleRight
          | _ => simp [Json.same] at middleRight
      | _ => simp [Json.same] at leftMiddle
  | float value =>
      cases middle with
      | float =>
          cases right with
          | float => exact BEq.trans (α := Float) leftMiddle middleRight
          | _ => simp [Json.same] at middleRight
      | _ => simp [Json.same] at leftMiddle
  | str text =>
      cases middle with
      | str =>
          cases right with
          | str => exact BEq.trans (α := String) leftMiddle middleRight
          | _ => simp [Json.same] at middleRight
      | _ => simp [Json.same] at leftMiddle
  | arr items =>
      cases middle with
      | arr inner =>
          cases right with
          | arr others => exact sameItems_trans items inner others leftMiddle middleRight
          | _ => simp [Json.same] at middleRight
      | _ => simp [Json.same] at leftMiddle
  | obj members =>
      cases middle with
      | obj inner =>
          cases right with
          | obj others => exact sameMembers_trans members inner others leftMiddle middleRight
          | _ => simp [Json.same] at middleRight
      | _ => simp [Json.same] at leftMiddle
termination_by structural left

theorem sameItems_trans (left middle right : List Json)
    (leftMiddle : sameItems left middle = true) (middleRight : sameItems middle right = true) :
    sameItems left right = true := by
  cases left with
  | nil =>
      cases middle with
      | nil => exact middleRight
      | cons => simp [sameItems] at leftMiddle
  | cons item items =>
      cases middle with
      | nil => simp [sameItems] at leftMiddle
      | cons inner inners =>
          cases right with
          | nil => simp [sameItems] at middleRight
          | cons other others =>
              simp only [sameItems, Bool.and_eq_true] at leftMiddle middleRight ⊢
              exact ⟨same_trans item inner other leftMiddle.1 middleRight.1,
                sameItems_trans items inners others leftMiddle.2 middleRight.2⟩
termination_by structural left

theorem sameMembers_trans (left middle right : List (String × Json))
    (leftMiddle : sameMembers left middle = true)
    (middleRight : sameMembers middle right = true) : sameMembers left right = true := by
  cases left with
  | nil =>
      cases middle with
      | nil => exact middleRight
      | cons => simp [sameMembers] at leftMiddle
  | cons member members =>
      cases middle with
      | nil => simp [sameMembers] at leftMiddle
      | cons inner inners =>
          cases right with
          | nil => simp [sameMembers] at middleRight
          | cons other others =>
              obtain ⟨name, value⟩ := member
              simp only [sameMembers, Bool.and_eq_true] at leftMiddle middleRight ⊢
              exact ⟨⟨BEq.trans leftMiddle.1.1 middleRight.1.1,
                same_trans value inner.2 other.2 leftMiddle.1.2 middleRight.1.2⟩,
                sameMembers_trans members inners others leftMiddle.2 middleRight.2⟩
termination_by structural left

end

instance partialEquiv : PartialEquivBEq Json where
  symm := same_symm _ _
  trans := same_trans _ _ _

end Json

/-- A comparison that is symmetric and transitive stays so where a value may be missing. -/
instance optionPartialEquiv {α : Type} [BEq α] [PartialEquivBEq α] :
    PartialEquivBEq (Option α) where
  symm := by
    intro left right same
    cases left <;> cases right
    · rfl
    · cases same
    · cases same
    · exact BEq.symm (α := α) same
  trans := by
    intro left middle right leftMiddle middleRight
    cases left with
    | none =>
        cases middle with
        | none => exact middleRight
        | some => cases leftMiddle
    | some value =>
        cases middle with
        | none => cases leftMiddle
        | some inner =>
            cases right with
            | none => cases middleRight
            | some other => exact BEq.trans (α := α) leftMiddle middleRight

theorem failure_beq_iff (left right : Failure) :
    (left == right) = true ↔
      (left.message == right.message) = true ∧ (left.details == right.details) = true :=
  Bool.and_eq_true_iff

instance Failure.partialEquiv : PartialEquivBEq Failure where
  symm := by
    intro left right same
    rw [failure_beq_iff] at *
    exact ⟨BEq.symm same.1, BEq.symm same.2⟩
  trans := by
    intro left middle right leftMiddle middleRight
    rw [failure_beq_iff] at *
    exact ⟨BEq.trans leftMiddle.1 middleRight.1, BEq.trans leftMiddle.2 middleRight.2⟩

/-! ## Fields -/

namespace Field

variable {field : Field} {left middle right : field.Value}

theorem sameValue_symm (same : field.sameValue left right = true) :
    field.sameValue right left = true := by
  cases field <;> exact BEq.symm same

theorem sameValue_trans (leftMiddle : field.sameValue left middle = true)
    (middleRight : field.sameValue middle right = true) : field.sameValue left right = true := by
  cases field <;> exact BEq.trans leftMiddle middleRight

/-- Two values of a field agree if the merge takes them for the same, or if they are equal. -/
def Agree (field : Field) (left right : field.Value) : Prop :=
  field.sameValue left right = true ∨ left = right

/-- Whether the merge takes only equal values of a field for the same. The other three hold
doubles, or payloads that may. -/
def isExact : Field → Bool
  | .percentage => false
  | .error => false
  | .result => false
  | _ => true

theorem agree_refl (field : Field) (value : field.Value) : field.Agree value value := .inr rfl

theorem Agree.symm (agree : field.Agree left right) : field.Agree right left := by
  rcases agree with same | equal
  · exact .inl (sameValue_symm same)
  · exact .inr equal.symm

theorem Agree.trans (leftMiddle : field.Agree left middle)
    (middleRight : field.Agree middle right) : field.Agree left right := by
  rcases leftMiddle with same | equal
  · rcases middleRight with next | equal
    · exact .inl (sameValue_trans same next)
    · exact .inl (equal ▸ same)
  · exact equal ▸ middleRight

/-- Agreement is the comparison of the merge on values that do not differ from themselves. -/
theorem agree_iff_sameValue (self : field.sameValue left left = true) :
    field.Agree left right ↔ field.sameValue left right = true := by
  constructor
  · rintro (same | equal)
    · exact same
    · exact equal ▸ self
  · exact .inl

theorem agree_iff_eq (exact : field.isExact = true) : field.Agree left right ↔ left = right := by
  constructor
  · rintro (same | equal)
    · cases field <;> first | exact eq_of_beq same | cases exact
    · exact equal
  · exact .inr

end Field

namespace Job

/-- Two records agree if they name the same job and agree on every field. -/
def Agree (left right : Job) : Prop :=
  left.id = right.id ∧ ∀ field : Field, field.Agree (left.value field) (right.value field)

theorem agree_refl (job : Job) : job.Agree job := ⟨rfl, fun field => field.agree_refl _⟩

theorem progress_beq_iff (left right : Progress) :
    (left == right) = true ↔
      (left.current == right.current) = true ∧ (left.total == right.total) = true ∧
        (left.percentage == right.percentage) = true ∧
        (left.message == right.message) = true ∧
        (left.currentStep == right.currentStep) = true := by
  change (left.current == right.current && (left.total == right.total &&
    (left.percentage == right.percentage && (left.message == right.message &&
      left.currentStep == right.currentStep)))) = true ↔ _
  simp only [Bool.and_eq_true]

theorem timestamps_beq_iff (left right : Timestamps) :
    (left == right) = true ↔
      (left.created == right.created) = true ∧ (left.started == right.started) = true ∧
        (left.completed == right.completed) = true := by
  cases left
  cases right
  simp only [beq_iff_eq, Timestamps.mk.injEq]

/-- Records compare as equal if they name the same job and every field does. -/
theorem beq_iff (left right : Job) :
    (left == right) = true ↔
      left.id = right.id ∧
        ∀ field : Field, field.sameValue (left.value field) (right.value field) = true := by
  change (left.id == right.id && (left.jobType == right.jobType &&
    (left.status == right.status && (left.resource == right.resource &&
      (left.progress == right.progress && (left.timestamps == right.timestamps &&
        (left.error == right.error && left.result == right.result))))))) = true ↔ _
  simp only [Bool.and_eq_true, progress_beq_iff, timestamps_beq_iff, beq_iff_eq (α := JobId)]
  constructor
  · rintro ⟨names, jobType, status, resource,
      ⟨current, total, percentage, message, currentStep⟩, ⟨created, started, completed⟩, error,
      result⟩
    refine ⟨names, fun field => ?_⟩
    cases field <;> assumption
  · rintro ⟨names, fields⟩
    exact ⟨names, fields .jobType, fields .status, fields .resource,
      ⟨fields .current, fields .total, fields .percentage, fields .message, fields .currentStep⟩,
      ⟨fields .created, fields .started, fields .completed⟩, fields .error, fields .result⟩

end Job

end LiveJobs
