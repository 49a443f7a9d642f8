import LiveJobs.Proofs.Calendar
import LiveJobs.Proofs.Numerals
import LiveJobs.Time.Rfc3339
import Mathlib

/-!
# Written instants

The reader of instants is lenient about layout, so it reads far more texts than are ever written.
What is written is read back as the moment that it was written for, and what is read is a moment
that can be written.
-/

namespace LiveJobs.Time

open LiveJobs.Text

/-! ## Digits -/

theorem isBlank_of_isDigit {c : Char} (decimal : c.isDigit = true) : isBlank c = false := by
  have bounds : 48 ≤ c.toNat ∧ c.toNat ≤ 57 := by
    simpa [Char.isDigit, UInt32.le_iff_toNat_le] using decimal
  simp [isBlank, inRanges, blankRanges]
  omega

theorem trimLeft_digits {digits : List Char} (filled : digits ≠ [])
    (decimal : ∀ c ∈ digits, c.isDigit = true) (rest : List Char) :
    trimLeft (digits ++ rest) = digits ++ rest := by
  cases digits with
  | nil => exact absurd rfl filled
  | cons c digits =>
      have visible := isBlank_of_isDigit (decimal c List.mem_cons_self)
      rw [trimLeft, List.cons_append, List.dropWhile_cons, visible]
      rfl

/-- Digits are all taken, as far as the width goes. -/
theorem takeDigits_append {digits : List Char} (decimal : ∀ c ∈ digits, c.isDigit = true)
    (rest : List Char) (width value count : Nat) :
    takeDigits (digits.length + width) value count (digits ++ rest) =
      takeDigits width (Nat.ofDigitChars 10 digits value) (count + digits.length) rest := by
  induction digits generalizing value count with
  | nil =>
      rw [List.length_nil, Nat.zero_add]
      rfl
  | cons c digits ih =>
      rw [List.length_cons, Nat.add_right_comm, List.cons_append, takeDigits,
        digit?_of_isDigit (decimal c List.mem_cons_self)]
      dsimp only
      rw [ih fun other member => decimal other (List.mem_cons_of_mem c member),
        Nat.ofDigitChars_cons, Nat.mul_comm, Nat.add_right_comm, Nat.add_assoc]

theorem takeDigits_of_digit?_none {c : Char} (other : digit? c = none) (rest : List Char)
    (width value count : Nat) :
    takeDigits width value count (c :: rest) = (value, count, c :: rest) := by
  cases width with
  | zero => rfl
  | succ width => rw [takeDigits, other]

theorem decimal_padded (width value : Nat) : ∀ c ∈ padded width value, c.isDigit = true := by
  intro c member
  rcases List.mem_append.1 member with zero | digit
  · rw [(List.mem_replicate.1 zero).2]
    rfl
  · exact Nat.isDigit_of_mem_toDigits (by decide) (by decide) digit

theorem ofDigitChars_padded (width value : Nat) :
    Nat.ofDigitChars 10 (padded width value) 0 = value := by
  rw [padded, Nat.ofDigitChars_append, Nat.ofDigitChars_replicate_zero, Nat.mul_zero,
    Nat.ofDigitChars_ten_toDigits]

theorem padded_ne_nil (width value : Nat) : padded width value ≠ [] :=
  List.append_ne_nil_of_right_ne_nil _ Nat.toDigits_ne_nil

theorem length_padded {width value : Nat} (wide : 0 < width) (small : value < 10 ^ width) :
    (padded width value).length = width := by
  have short := (Nat.length_toDigits_le_iff (by decide) wide).2 small
  rw [padded, List.length_append, List.length_replicate]
  omega

/-! ## Reading what was written -/

variable {width value : Nat} (rest : List Char)

theorem takeDigits_padded (wide : 0 < width) (small : value < 10 ^ width) (more : Nat) :
    takeDigits (width + more) 0 0 (padded width value ++ rest) =
      takeDigits more value width rest := by
  have taken := takeDigits_append (decimal_padded width value) rest more 0 0
  rw [length_padded wide small, ofDigitChars_padded, Nat.zero_add] at taken
  exact taken

theorem number?_padded (wide : 0 < width) (small : value < 10 ^ width) :
    number? width (padded width value ++ rest) = some (value, rest) := by
  have taken : takeDigits width 0 0 (padded width value ++ rest) = (value, width, rest) :=
    takeDigits_padded rest wide small 0
  rw [number?, trimLeft_digits (padded_ne_nil width value) (decimal_padded width value), taken]
  cases width with
  | zero => exact absurd wide (Nat.lt_irrefl 0)
  | succ width => rfl

/-- The digits behind the sign of a year are read to their end, however many they are. -/
theorem takeSigned_padded {c : Char} (other : digit? c = none) :
    year?.takeSigned (padded 4 value ++ c :: rest) = some ((value : Int), c :: rest) := by
  have filled : (padded 4 value).length ≠ 0 :=
    fun empty => padded_ne_nil 4 value (List.length_eq_zero_iff.1 empty)
  rw [year?.takeSigned, List.length_append, takeDigits_append (decimal_padded 4 value),
    takeDigits_of_digit?_none other, ofDigitChars_padded, Nat.zero_add]
  cases length : (padded 4 value).length with
  | zero => exact absurd length filled
  | succ length => rfl

/-- A text that begins with a digit is not taken for one with a sign. -/
theorem year?_padded (small : value < 10 ^ 4) :
    year? (padded 4 value ++ rest) = some ((value : Int), rest) := by
  have read := number?_padded rest (by decide) small
  have untrimmed := trimLeft_digits (padded_ne_nil 4 value) (decimal_padded 4 value) rest
  have unsigned : ∀ {sign : Char} {behind : List Char}, sign.isDigit = false →
      padded 4 value ++ rest ≠ sign :: behind := by
    intro sign behind other same
    cases digits : padded 4 value with
    | nil => exact padded_ne_nil 4 value digits
    | cons c others =>
        rw [digits, List.cons_append, List.cons.injEq] at same
        have decimal : c.isDigit = true := decimal_padded 4 value c (digits ▸ List.mem_cons_self)
        rw [same.1, other] at decimal
        cases decimal
  rw [year?, untrimmed]
  split
  · rename_i signed
    exact absurd signed (unsigned rfl)
  · rename_i signed
    exact absurd signed (unsigned rfl)
  · rw [read]
    rfl

theorem year?_yearText (year : Int) :
    year? (Instant.yearText year ++ '-' :: rest) = some (year, '-' :: rest) := by
  rw [Instant.yearText]
  by_cases ordinary : 0 ≤ year ∧ year ≤ 9999
  · rw [if_pos ordinary, year?_padded _ (by omega), Int.toNat_of_nonneg ordinary.1]
  · rw [if_neg ordinary]
    by_cases negative : year < 0
    · rw [if_pos negative]
      show (year?.takeSigned (padded 4 year.natAbs ++ '-' :: rest)).map _ = _
      rw [takeSigned_padded rest rfl, Option.map_some,
        Int.ofNat_natAbs_of_nonpos (Int.le_of_lt negative), Int.neg_neg]
    · rw [if_neg negative]
      show year?.takeSigned (padded 4 year.natAbs ++ '-' :: rest) = _
      rw [takeSigned_padded rest rfl, Int.natAbs_of_nonneg (Int.not_lt.1 negative)]

theorem fraction?_padded (wide : 0 < width) (most : width ≤ 9) (small : value < 10 ^ width)
    {c : Char} (other : digit? c = none) :
    fraction? ('.' :: (padded width value ++ c :: rest)) =
      some (value * 10 ^ (9 - width), c :: rest) := by
  have taken := takeDigits_padded (c :: rest) wide small (9 - width)
  rw [Nat.add_sub_of_le most, takeDigits_of_digit?_none other] at taken
  rw [fraction?, taken]
  cases width with
  | zero => exact absurd wide (Nat.lt_irrefl 0)
  | succ width =>
      show some (_, List.dropWhile (fun c => (digit? c).isSome) (c :: rest)) = _
      rw [List.dropWhile_cons, other]
      rfl

theorem fraction?_fractionText {nano : Nat} (small : nano < nanosPerSecond) :
    fraction? (Instant.fractionText nano ++ ['Z']) = some (nano, ['Z']) := by
  have written : ∀ width value, 0 < width → width ≤ 9 → value < 10 ^ width →
      value * 10 ^ (9 - width) = nano →
      fraction? ('.' :: padded width value ++ ['Z']) = some (nano, ['Z']) := by
    intro width value wide most small whole
    rw [List.cons_append, fraction?_padded [] wide most small rfl, whole]
  rw [nanosPerSecond] at small
  rw [Instant.fractionText]
  split
  · rename_i none
    rw [none]
    rfl
  · split
    · exact written 3 _ (by decide) (by decide) (by omega) (by omega)
    · split
      · exact written 6 _ (by decide) (by decide) (by omega) (by omega)
      · exact written 9 _ (by decide) (by decide) (by omega) (by omega)

theorem mark?_self {mark : Char} (filled : isBlank mark = false) :
    mark? mark (mark :: rest) = some rest := by
  rw [mark?, trimLeft, List.dropWhile_cons, filled]
  exact if_pos rfl

/-! ## Instants -/

theorem date?_written {date : Date} (real : date.exists? = true) :
    date? (Instant.yearText date.year ++ '-' :: padded 2 date.month ++ '-' :: padded 2 date.day ++
      rest) = some (date, rest) := by
  have bounds := real
  simp only [Date.exists?, Bool.and_eq_true, decide_eq_true_eq] at bounds
  have longest : daysInMonth date.year date.month ≤ 31 := by
    rw [daysInMonth]
    split
    · split <;> decide
    · split <;> decide
  have hyphen : ∀ behind, mark? '-' ('-' :: behind) = some behind :=
    fun behind => mark?_self behind (by decide)
  have month : ∀ behind, number? 2 (padded 2 date.month ++ behind) = some (date.month, behind) :=
    fun behind => number?_padded behind (by decide) (by omega)
  have day : ∀ behind, number? 2 (padded 2 date.day ++ behind) = some (date.day, behind) :=
    fun behind => number?_padded behind (by decide) (by omega)
  simp only [date?, List.append_assoc, List.cons_append, year?_yearText, hyphen, month, day,
    Option.bind_eq_bind, Option.bind_some]
  rw [if_pos real]

/-- A time of day. Its sixtieth second is kept in the second before it. -/
theorem timeOfDay?_written {hour minute second nano : Nat} (ofDay : hour ≤ 23)
    (ofHour : minute ≤ 59) (ofMinute : second ≤ 60) (ofSecond : nano < nanosPerSecond) :
    timeOfDay? (padded 2 hour ++ ':' :: padded 2 minute ++ ':' :: padded 2 second ++
        Instant.fractionText nano ++ ['Z']) =
      some (if second = 60 then (hour * 3600 + minute * 60 + 59, nanosPerSecond + nano)
        else (hour * 3600 + minute * 60 + second, nano), ['Z']) := by
  have colon : ∀ behind, mark? ':' (':' :: behind) = some behind :=
    fun behind => mark?_self behind (by decide)
  have two : ∀ value behind, value ≤ 99 →
      number? 2 (padded 2 value ++ behind) = some (value, behind) :=
    fun value behind low => number?_padded behind (by decide) (Nat.lt_succ_of_le low)
  have hours : ∀ behind, number? 2 (padded 2 hour ++ behind) = some (hour, behind) :=
    fun behind => two hour behind (by omega)
  have minutes : ∀ behind, number? 2 (padded 2 minute ++ behind) = some (minute, behind) :=
    fun behind => two minute behind (by omega)
  have seconds : ∀ behind, number? 2 (padded 2 second ++ behind) = some (second, behind) :=
    fun behind => two second behind (by omega)
  have fraction := fraction?_fractionText ofSecond
  simp only [timeOfDay?, List.append_assoc, List.cons_append, hours, minutes, seconds, colon,
    fraction, Option.bind_eq_bind, Option.bind_some]
  rw [if_pos ⟨ofDay, ofHour, ofMinute⟩]
  split
  · rfl
  · rfl

namespace Instant

/-- Whether a moment can be written: its date exists, and it lies in a second of its minute, or in
the leap second behind the last one. -/
structure IsCivil (moment : Instant) : Prop where
  dated : (Date.ofDays (Int.fdiv moment.second secondsPerDay)).exists? = true
  nano : moment.nano < 2 * nanosPerSecond
  leap : nanosPerSecond ≤ moment.nano → moment.second % 60 = 59

/-- The parts of the time of day that is written for a moment are put together again. -/
theorem timeOfDay?_chars {moment : Instant} (civil : moment.IsCivil) :
    timeOfDay? (padded 2 (moment.secondOfDay.toNat / 3600) ++ ':' ::
        padded 2 (moment.secondOfDay.toNat / 60 % 60) ++ ':' ::
        padded 2 (moment.secondOfDay.toNat % 60 + if moment.inLeapSecond then 1 else 0) ++
        fractionText (moment.nano % nanosPerSecond) ++ ['Z']) =
      some ((moment.secondOfDay.toNat, moment.nano), ['Z']) := by
  have day : moment.secondOfDay = moment.second % 86400 := Int.fmod_eq_emod_of_nonneg _ (by decide)
  have nano := civil.nano
  have leap := civil.leap
  rw [nanosPerSecond] at nano leap
  by_cases late : 1000000000 ≤ moment.nano
  · have leaps : moment.inLeapSecond = true := decide_eq_true late
    have last := leap late
    rw [leaps, if_pos rfl, timeOfDay?_written (by omega) (by omega) (by omega)
      (Nat.mod_lt _ (by decide)), if_pos (by omega), nanosPerSecond]
    congr 3
    · omega
    · omega
  · have stays : moment.inLeapSecond = false := decide_eq_false late
    rw [stays, if_neg Bool.false_ne_true, timeOfDay?_written (by omega) (by omega) (by omega)
      (Nat.mod_lt _ (by decide)), if_neg (by omega), nanosPerSecond]
    congr 3
    · omega
    · omega

/-- What is written for a moment is read as that moment. -/
theorem read?_chars {moment : Instant} (civil : moment.IsCivil) :
    read? moment.chars = some moment := by
  have date := fun rest => date?_written rest civil.dated
  have time := timeOfDay?_chars civil
  have day : moment.secondOfDay = moment.second % 86400 := Int.fmod_eq_emod_of_nonneg _ (by decide)
  have days : Int.fdiv moment.second secondsPerDay = moment.second / 86400 :=
    Int.fdiv_eq_ediv_of_nonneg _ (by decide)
  have whole : Int.fdiv moment.second secondsPerDay * secondsPerDay +
      moment.secondOfDay.toNat - 0 = moment.second := by
    rw [days, day, secondsPerDay]
    omega
  have universal : offset? (trimLeft ['Z']) = some (0, []) := rfl
  simp only [List.append_assoc, List.cons_append] at date time
  simp only [read?, chars, List.append_assoc, List.cons_append, date, separator?, time,
    universal, Option.bind_eq_bind, Option.bind_some, toDays_ofDays, whole]
  exact if_pos ⟨rfl, by decide, civil.dated⟩

theorem ofText?_text {moment : Instant} (civil : moment.IsCivil) :
    ofText? moment.text = some moment := by
  rw [ofText?, text, String.toList_ofList, read?_chars civil]

end Instant

/-! ## What is read -/

theorem takeDigits_lt {width value count taken length : Nat} {input behind : List Char}
    (read : takeDigits width value count input = (taken, length, behind))
    (small : value < 10 ^ count) : taken < 10 ^ length ∧ length ≤ count + width := by
  induction width generalizing value count input with
  | zero =>
      cases read
      exact ⟨small, Nat.le_refl _⟩
  | succ width ih =>
      cases input with
      | nil =>
          cases read
          exact ⟨small, Nat.le_add_right _ _⟩
      | cons c rest =>
          rw [takeDigits] at read
          cases digit : digit? c with
          | none =>
              rw [digit] at read
              cases read
              exact ⟨small, Nat.le_add_right _ _⟩
          | some next =>
              rw [digit] at read
              have low := digit?_lt digit
              have grown : value * 10 + next < 10 ^ (count + 1) := by
                rw [Nat.pow_succ]
                omega
              have taken := ih read grown
              rw [Nat.add_right_comm] at taken
              exact taken

theorem fraction?_lt {input behind : List Char} {nano : Nat}
    (read : fraction? input = some (nano, behind)) : nano < nanosPerSecond := by
  rw [fraction?.eq_def] at read
  split at read
  · rename_i rest
    split at read
    · cases read
    · rename_i value count behind filled taken
      have bounds := takeDigits_lt taken (by decide)
      cases read
      calc
        value * 10 ^ (9 - count) < 10 ^ count * 10 ^ (9 - count) :=
          Nat.mul_lt_mul_of_pos_right bounds.1 (Nat.pow_pos (by decide))
        _ = 10 ^ 9 := by rw [← Nat.pow_add, Nat.add_sub_of_le (by omega)]
  · cases read
    decide

theorem timeOfDay?_spec {input behind : List Char} {seconds nano : Nat}
    (read : timeOfDay? input = some ((seconds, nano), behind)) :
    nano < 2 * nanosPerSecond ∧ (nanosPerSecond ≤ nano → seconds % 60 = 59) := by
  simp only [timeOfDay?, Option.bind_eq_bind, Option.bind_eq_some_iff] at read
  rcases read with
    ⟨hour, -, rest, -, minute, -, rest, -, second, -, fraction, found, read⟩
  have small := fraction?_lt found
  rw [Option.ite_none_right_eq_some] at read
  rcases read with ⟨bounds, read⟩
  rw [nanosPerSecond] at *
  split at read
  · cases read
    omega
  · cases read
    omega

theorem offsetAmount?_spec {input behind : List Char} {amount : Nat}
    (read : offsetAmount? input = some (amount, behind)) : amount % 60 = 0 := by
  simp only [offsetAmount?, Option.bind_eq_bind, Option.bind_eq_some_iff] at read
  rcases read with ⟨hours, -, minutes, -, read⟩
  rw [Option.ite_none_right_eq_some] at read
  cases read.2
  omega

theorem whole_minutes {input behind : List Char} {offset : Int}
    {sign : Nat × List Char → Int × List Char}
    (signed : ∀ read, (sign read).1 = (read.1 : Int) ∨ (sign read).1 = -(read.1 : Int))
    (read : (offsetAmount? input).map sign = some (offset, behind)) : offset % 60 = 0 := by
  rcases Option.map_eq_some_iff.1 read with ⟨amount, found, same⟩
  have minutes := offsetAmount?_spec found
  have either := signed amount
  rw [same] at either
  dsimp only at either
  omega

theorem offset?_spec {input behind : List Char} {offset : Int}
    (read : offset? input = some (offset, behind)) : offset % 60 = 0 := by
  have behindSign : ∀ {input : List Char}, offset?.signed input = some (offset, behind) →
      offset % 60 = 0 := by
    intro input read
    rw [offset?.signed.eq_def] at read
    split at read
    · exact whole_minutes (fun _ => .inl rfl) read
    · exact whole_minutes (fun _ => .inr rfl) read
    · exact whole_minutes (fun _ => .inr rfl) read
    · cases read
  rw [offset?.eq_def] at read
  split at read
  · cases read
    rfl
  · cases read
    rfl
  · split at read
    · cases read
      rfl
    · exact behindSign read
  · exact behindSign read

namespace Instant

theorem isCivil_of_read? {text : List Char} {moment : Instant} (read : read? text = some moment) :
    moment.IsCivil := by
  simp only [read?, Option.bind_eq_bind, Option.bind_eq_some_iff] at read
  rcases read with ⟨date, -, rest, -, time, timed, offset, shifted, read⟩
  rw [Option.ite_none_right_eq_some] at read
  rcases read with ⟨⟨-, -, dated⟩, same⟩
  have ofDay := timeOfDay?_spec timed
  have minutes := offset?_spec shifted
  cases same
  refine ⟨dated, ofDay.1, ?_⟩
  intro leap
  have last := ofDay.2 leap
  rw [secondsPerDay]
  dsimp only
  omega

end Instant

end LiveJobs.Time
