import Mathlib.Data.String.Basic
import Mathlib.Tactic.SplitIfs

/-!
# The order of texts by their bytes

Texts are ordered by their characters. In UTF-8 that is the order of their bytes as well: of two
characters the one that comes first has the encoding that comes first, and neither encoding is a
beginning of the other.
-/

namespace LiveJobs.Text

/-- The bytes of a text in UTF-8. -/
def bytes (text : String) : List UInt8 := text.toByteArray.data.toList

theorem bytes_eq (text : String) : bytes text = text.toList.flatMap String.utf8EncodeChar := by
  rw [bytes, ← String.utf8Encode_toList, List.utf8Encode, List.data_toByteArray]

/-- The encodings of different characters differ before either of them ends, and are in the order
of the characters. -/
theorem utf8EncodeChar_append_lt {left right : Char} (less : left < right)
    (leftRest rightRest : List UInt8) :
    String.utf8EncodeChar left ++ leftRest < String.utf8EncodeChar right ++ rightRest := by
  have points : left.val.toNat < right.val.toNat := less
  have bound : right.val.toNat < 1114112 := by
    rcases right.valid with low | ⟨-, high⟩
    · exact Nat.lt_trans low (by decide)
    · exact high
  unfold String.utf8EncodeChar
  generalize left.val.toNat = low at points
  generalize right.val.toNat = high at points bound
  -- Every byte holds one digit to the base 64, so the digits are taken off one at a time.
  have digits (point : Nat) :
      point / 4096 = point / 64 / 64 ∧ point / 262144 = point / 64 / 64 / 64 := by omega
  simp only [(digits low).1, (digits high).1, (digits low).2, (digits high).2]
  split_ifs
  all_goals
    simp only [List.cons_append, List.nil_append, List.cons_lt_cons_iff, UInt8.lt_iff_toNat_lt,
      ← UInt8.toNat_inj, UInt8.toNat_ofNat']
    omega

theorem flatMap_utf8EncodeChar_lt {left right : List Char} (less : left < right) :
    left.flatMap String.utf8EncodeChar < right.flatMap String.utf8EncodeChar := by
  induction left generalizing right with
  | nil =>
      cases right with
      | nil => exact absurd less (List.lt_irrefl [])
      | cons first rest =>
          obtain ⟨byte, behind, encoded⟩ :=
            List.exists_cons_of_ne_nil (String.utf8EncodeChar_ne_nil (c := first))
          rw [List.flatMap_nil, List.flatMap_cons, encoded]
          exact List.nil_lt_cons _ _
  | cons first rest ih =>
      cases right with
      | nil => exact absurd less (List.not_lt_nil _)
      | cons other others =>
          rw [List.flatMap_cons, List.flatMap_cons]
          rcases List.cons_lt_cons_iff.1 less with earlier | ⟨rfl, behind⟩
          · exact utf8EncodeChar_append_lt earlier _ _
          · exact List.append_left_lt (ih behind)

theorem bytes_lt_iff {left right : String} : bytes left < bytes right ↔ left < right := by
  have forward {left right : String} (less : left < right) : bytes left < bytes right := by
    rw [bytes_eq, bytes_eq]
    exact flatMap_utf8EncodeChar_lt (String.lt_iff_toList_lt.1 less)
  constructor
  · intro less
    rcases lt_trichotomy left right with earlier | rfl | later
    · exact earlier
    · exact absurd less (List.lt_irrefl _)
    · exact absurd (forward later) (List.lt_asymm less)
  · exact forward

end LiveJobs.Text
