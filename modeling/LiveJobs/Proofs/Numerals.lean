import LiveJobs.Text.Digits

/-!
# Numerals

What the reader of whole numbers accepts. A text denotes a number if it consists of decimal digits,
one at least, behind a plus sign or by themselves, and their value is the number. The reader gives
that number if it is within its bound, and a fault in all other cases.
-/

namespace LiveJobs.Text

/-- A text denotes a number: an optional plus sign, and the decimal digits of the number. -/
def Denotes (text : List Char) (value : Nat) : Prop :=
  ∃ digits, (text = digits ∨ text = '+' :: digits) ∧ digits ≠ [] ∧
    (∀ c ∈ digits, c.isDigit = true) ∧ Nat.ofDigitChars 10 digits 0 = value

/-! ## Digits -/

theorem digit?_of_isDigit {c : Char} (decimal : c.isDigit = true) :
    digit? c = some (c.toNat - '0'.toNat) := by
  have bounds : '0' ≤ c ∧ c ≤ '9' := by
    simpa [Char.isDigit, Char.le_def] using decimal
  rw [digit?, if_pos bounds]

theorem digit?_of_not_isDigit {c : Char} (other : c.isDigit = false) : digit? c = none := by
  have bounds : ¬('0' ≤ c ∧ c ≤ '9') := by
    simpa [Char.isDigit, Char.le_def] using other
  rw [digit?, if_neg bounds]

theorem digit?_lt {c : Char} {digit : Nat} (read : digit? c = some digit) : digit < 10 := by
  rw [digit?, Option.ite_none_right_eq_some] at read
  have upper : c.toNat ≤ '9'.toNat := read.1.2
  cases read.2
  simp only [Char.reduceToNat] at upper ⊢
  omega

theorem le_ofDigitChars (digits : List Char) (value : Nat) :
    value ≤ Nat.ofDigitChars 10 digits value := by
  induction digits generalizing value with
  | nil => exact Nat.le_refl value
  | cons c rest ih =>
      rw [Nat.ofDigitChars_cons]
      have further := ih (10 * value + (c.toNat - '0'.toNat))
      omega

/-! ## Readers -/

variable {bound value result : Nat} {text digits : List Char}

/-- Digits are read behind a number up to their end if there is nothing else, and if the number that
they add up to is within the bound. -/
theorem readDigits_eq_ok_iff (start : value ≤ bound) :
    readDigits bound value digits = .ok result ↔
      (∀ c ∈ digits, c.isDigit = true) ∧ Nat.ofDigitChars 10 digits value = result ∧
        result ≤ bound := by
  induction digits generalizing value with
  | nil =>
      simp only [readDigits, Except.ok.injEq, Nat.ofDigitChars_nil]
      constructor
      · rintro rfl
        exact ⟨by simp, rfl, start⟩
      · exact fun read => read.2.1
  | cons c rest ih =>
      rw [readDigits, List.forall_mem_cons, Nat.ofDigitChars_cons]
      cases decimal : c.isDigit with
      | false =>
          rw [digit?_of_not_isDigit decimal]
          simp
      | true =>
          rw [digit?_of_isDigit decimal, Nat.mul_comm 10 value]
          dsimp only
          split
          next within =>
            rw [ih within]
            simp
          next above =>
            refine iff_of_false (by simp) ?_
            rintro ⟨-, rfl, within⟩
            exact above (Nat.le_trans (le_ofDigitChars rest _) within)

/-- A number is read exactly if the text denotes it and it is within the bound. -/
theorem readUnsigned_eq_ok_iff :
    readUnsigned bound text = .ok value ↔ Denotes text value ∧ value ≤ bound := by
  constructor
  · intro read
    unfold readUnsigned at read
    split at read
    next => cases read
    next => cases read
    next digits more =>
      obtain ⟨decimal, denoted, within⟩ := (readDigits_eq_ok_iff (Nat.zero_le bound)).1 read
      exact ⟨⟨digits, .inr rfl, more, decimal, denoted⟩, within⟩
    next filled _ _ =>
      obtain ⟨decimal, denoted, within⟩ := (readDigits_eq_ok_iff (Nat.zero_le bound)).1 read
      exact ⟨⟨_, .inl rfl, filled, decimal, denoted⟩, within⟩
  · rintro ⟨⟨digits, form, filled, decimal, denoted⟩, within⟩
    have read : readDigits bound 0 digits = .ok value :=
      (readDigits_eq_ok_iff (Nat.zero_le bound)).2 ⟨decimal, denoted, within⟩
    rcases form with rfl | rfl
    · -- No sign is taken off, as a sign is no digit.
      unfold readUnsigned
      split
      next => exact absurd rfl filled
      next => exact absurd (decimal '+' List.mem_cons_self) (by decide)
      next => exact absurd (decimal '+' List.mem_cons_self) (by decide)
      next => exact read
    · cases digits with
      | nil => exact absurd rfl filled
      | cons c rest => exact read

theorem Denotes.unique {other : Nat} (denoted : Denotes text value)
    (denotedToo : Denotes text other) : value = other := by
  have read := readUnsigned_eq_ok_iff.2 ⟨denoted, Nat.le_max_left value other⟩
  have readToo := readUnsigned_eq_ok_iff.2 ⟨denotedToo, Nat.le_max_right value other⟩
  exact Except.ok.inj (read.symm.trans readToo)

/-- A fault is found exactly if the text denotes no number within the bound. -/
theorem exists_readUnsigned_eq_error_iff :
    (∃ fault, readUnsigned bound text = .error fault) ↔
      ∀ value ≤ bound, ¬Denotes text value := by
  cases read : readUnsigned bound text with
  | error fault =>
      refine iff_of_true ⟨fault, rfl⟩ fun value within denoted => ?_
      cases read.symm.trans (readUnsigned_eq_ok_iff.2 ⟨denoted, within⟩)
  | ok value =>
      refine iff_of_false nofun fun none => ?_
      obtain ⟨denoted, within⟩ := readUnsigned_eq_ok_iff.1 read
      exact none value within denoted

end LiveJobs.Text
