import LiveJobs.Merge.Field

/-!
# Stamps

For every field of a stored job, the sequence that last wrote it. Sequences are handed out in the
order in which reports are asked for or received, so a stamp says how fresh a field is. Stamps only
rise.
-/

namespace LiveJobs

/-- A position in the order in which reports are asked for or received. Zero stands for "never". -/
abbrev Sequence := Nat

/-- The sequence that last wrote each field. -/
structure Stamps where
  values : Vector Sequence 13
  deriving DecidableEq, Repr

namespace Stamps

/-- No field has been written. -/
def zero : Stamps := ⟨Vector.replicate 13 0⟩

/-- The stamp of a field. -/
def get (stamps : Stamps) (field : Field) : Sequence := stamps.values[field.index]

/-- Whether a field may be written under a sequence: nothing fresher has written it. -/
def accepts (stamps : Stamps) (field : Field) (sequence : Sequence) : Bool :=
  stamps.get field ≤ sequence

/-- The stamps with that of one field raised to a sequence; a higher stamp stays. -/
def raise (stamps : Stamps) (field : Field) (sequence : Sequence) : Stamps :=
  if stamps.get field < sequence then ⟨stamps.values.set field.index sequence⟩ else stamps

@[simp] theorem get_zero (field : Field) : zero.get field = 0 := by
  simp [zero, get]

@[simp] theorem get_raise_self (stamps : Stamps) (field : Field) (sequence : Sequence) :
    (stamps.raise field sequence).get field = max (stamps.get field) sequence := by
  unfold raise
  split
  · rename_i higher
    rw [Nat.max_eq_right (Nat.le_of_lt higher)]
    simp [get]
  · rename_i lower
    exact (Nat.max_eq_left (Nat.le_of_not_lt lower)).symm

theorem get_raise_of_ne (stamps : Stamps) {field other : Field} (differ : other ≠ field)
    (sequence : Sequence) : (stamps.raise field sequence).get other = stamps.get other := by
  unfold raise
  split
  · have positions : (field.index : Nat) ≠ other.index := fun same =>
      differ (Field.index_injective (Fin.ext same.symm))
    simp only [get, Fin.getElem_fin]
    exact Vector.getElem_set_ne _ _ positions
  · rfl

theorem get_le_get_raise (stamps : Stamps) (field other : Field) (sequence : Sequence) :
    stamps.get other ≤ (stamps.raise field sequence).get other := by
  by_cases same : other = field
  · subst same
    rw [get_raise_self]
    exact Nat.le_max_left _ _
  · exact Nat.le_of_eq (get_raise_of_ne _ same _).symm

end Stamps

end LiveJobs
