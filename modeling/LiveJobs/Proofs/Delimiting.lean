import LiveJobs.Json.Reader
import Mathlib.Data.List.TakeWhile

/-!
# Where a JSON text ends

A reader stops where the text tells it to, and not because the text is over. So what it has read
from the beginning of a text it reads from the whole text as well. Only a number may go on where the
beginning ends; inside an array or an object something always stands behind it.

What follows is a law on objects that were cut off: a beginning of the text of an object is either
no object, or the object itself with less blank behind it.
-/

namespace LiveJobs.Json

open LiveJobs.Text

variable {α β : Type}

/-! ## Readers that know where to stop -/

/-- A reader leaves the end of its input, and reads the same if the input goes on. -/
def Stops (read : List Char → Option (α × List Char)) : Prop :=
  ∀ input value rest, read input = some (value, rest) →
    rest <:+ input ∧ ∀ more, read (input ++ more) = some (value, rest ++ more)

/-- A reader leaves the end of its input, and if there is something left, it reads the same if the
input goes on. -/
def StopsBefore (read : List Char → Option (α × List Char)) : Prop :=
  ∀ input value rest, read input = some (value, rest) →
    rest <:+ input ∧ (rest ≠ [] → ∀ more, read (input ++ more) = some (value, rest ++ more))

theorem Stops.map {read : List Char → Option (α × List Char)} (stops : Stops read) (f : α → β) :
    Stops fun input => (read input).map fun found => (f found.1, found.2) := by
  intro input value rest found
  obtain ⟨⟨first, behind⟩, reads, same⟩ := Option.map_eq_some_iff.1 found
  cases same
  obtain ⟨suffix, further⟩ := stops _ _ _ reads
  constructor
  · exact suffix
  · intro more
    simp only [further more]
    rfl

theorem StopsBefore.bind {read : List Char → Option (α × List Char)}
    {next : α → List Char → Option (β × List Char)} (first : StopsBefore read)
    (second : ∀ value, StopsBefore (next value)) :
    StopsBefore fun input => (read input).bind fun found => next found.1 found.2 := by
  intro input value rest found
  obtain ⟨⟨between, behind⟩, reads, goesOn⟩ := Option.bind_eq_some_iff.1 found
  obtain ⟨suffix, further⟩ := first _ _ _ reads
  obtain ⟨suffixBehind, furtherBehind⟩ := second between _ _ _ goesOn
  constructor
  · exact suffixBehind.trans suffix
  · intro left more
    have filled : behind ≠ [] := by
      rintro rfl
      exact left (List.suffix_nil.1 suffixBehind)
    simp only [further filled more]
    exact furtherBehind left more

/-- How a text goes on does not change what it begins with. -/
theorem head_differs {c other : Char} {tail : List Char}
    (differs : ∀ rest, c :: tail = other :: rest → False) (longer : List Char) :
    ∀ rest, c :: longer = other :: rest → False := by
  intro rest same
  cases (List.cons.inj same).1
  exact differs tail rfl

/-! ## Gaps -/

theorem skipGap_suffix (input : List Char) : skipGap input <:+ input :=
  List.dropWhile_suffix isGap

theorem skipGap_append {input rest : List Char} {c : Char} (kept : skipGap input = c :: rest)
    (more : List Char) : skipGap (input ++ more) = c :: (rest ++ more) := by
  unfold skipGap at kept ⊢
  rw [List.dropWhile_append, kept]
  rfl

/-- What a gap ends at is there, is behind it, and still ends it if the input goes on. -/
theorem skipGap_spec {input rest : List Char} {c : Char} (kept : skipGap input = c :: rest) :
    input ≠ [] ∧ c :: rest <:+ input ∧ ∀ more, skipGap (input ++ more) = c :: (rest ++ more) := by
  refine ⟨?_, kept ▸ skipGap_suffix input, skipGap_append kept⟩
  rintro rfl
  cases kept

/-! ## Strings -/

theorem stops_hexQuad? : Stops hexQuad? := by
  intro input value rest read
  match input with
  | a :: b :: c :: d :: tail =>
      simp only [hexQuad?, Option.bind_eq_bind, Option.bind_eq_some_iff, Option.some.injEq,
        Prod.mk.injEq] at read
      obtain ⟨first, isFirst, second, isSecond, third, isThird, fourth, isFourth, rfl, rfl⟩ := read
      constructor
      · exact ⟨[a, b, c, d], rfl⟩
      · intro more
        simp [hexQuad?, isFirst, isSecond, isThird, isFourth]
  | [] | [_] | [_, _] | [_, _, _] => simp [hexQuad?] at read

theorem stops_readLowSurrogate (high : Nat) : Stops (readLowSurrogate high) := by
  intro input value rest read
  unfold readLowSurrogate at read
  split at read
  · rename_i tail
    split at read
    · rename_i low behind found
      obtain ⟨suffix, further⟩ := stops_hexQuad? _ _ _ found
      split at read
      · rename_i inRange
        simp only [Option.some.injEq, Prod.mk.injEq] at read
        obtain ⟨rfl, rfl⟩ := read
        constructor
        · exact suffix.trans ⟨['\\', 'u'], rfl⟩
        · intro more
          simp [readLowSurrogate, further, inRange]
      · cases read
    · cases read
  · cases read

theorem stops_readEscape : Stops readEscape := by
  intro input value rest read
  unfold readEscape at read
  split at read
  case h_9 tail =>
    split at read
    · cases read
    · rename_i code behind found
      obtain ⟨suffix, further⟩ := stops_hexQuad? _ _ _ found
      have suffix : behind <:+ 'u' :: tail := suffix.trans (List.suffix_cons 'u' tail)
      split at read
      · rename_i isHigh
        obtain ⟨suffixBehind, furtherBehind⟩ := stops_readLowSurrogate code _ _ _ read
        constructor
        · exact suffixBehind.trans suffix
        · intro more
          simp [readEscape, further, isHigh, furtherBehind]
      · rename_i notHigh
        split at read
        · cases read
        · rename_i notLow
          simp only [Option.some.injEq, Prod.mk.injEq] at read
          obtain ⟨rfl, rfl⟩ := read
          constructor
          · exact suffix
          · intro more
            simp [readEscape, further, notHigh, notLow]
  case h_10 => cases read
  all_goals
    cases read
    exact ⟨List.suffix_cons _ _, fun more => rfl⟩

theorem readChars_quote (rest : List Char) : readChars ('"' :: rest) = some ([], rest) := by
  rw [readChars]

theorem readChars_escape {rest behind : List Char} {c : Char}
    (read : readEscape rest = some (c, behind)) :
    readChars ('\\' :: rest) = (readChars behind).map fun read => (c :: read.1, read.2) := by
  rw [readChars]
  split
  · rename_i none
    rw [read] at none
    cases none
  · rename_i found
    rw [read] at found
    cases found
    rfl

theorem readChars_plain {c : Char} (unquoted : c ≠ '"') (unescaped : c ≠ '\\')
    (rest : List Char) :
    readChars (c :: rest) =
      if c.toNat < 0x20 then none
      else (readChars rest).map fun read => (c :: read.1, read.2) := by
  rw [readChars]
  · exact unquoted
  · exact unescaped

theorem stops_readChars : Stops readChars := by
  intro input
  induction input using readChars.induct with
  | case1 =>
      intro value rest read
      simp [readChars] at read
  | case2 tail =>
      intro value rest read
      rw [readChars_quote] at read
      cases read
      exact ⟨List.suffix_cons _ _, fun more => readChars_quote _⟩
  | case3 tail missing =>
      intro value rest read
      rw [readChars] at read
      split at read
      · cases read
      · rename_i found
        rw [missing] at found
        cases found
  | case4 tail c behind found shorter ih =>
      intro value rest read
      obtain ⟨suffixBehind, furtherBehind⟩ := stops_readEscape _ _ _ found
      rw [readChars_escape found] at read
      obtain ⟨⟨chars, left⟩, reads, same⟩ := Option.map_eq_some_iff.1 read
      cases same
      obtain ⟨suffix, further⟩ := ih _ _ reads
      constructor
      · exact (suffix.trans suffixBehind).trans (List.suffix_cons _ _)
      · intro more
        rw [List.cons_append, readChars_escape (furtherBehind more), further more]
        rfl
  | case5 c tail unquoted unescaped control =>
      intro value rest read
      rw [readChars_plain unquoted unescaped, if_pos control] at read
      cases read
  | case6 c tail unquoted unescaped printable ih =>
      intro value rest read
      rw [readChars_plain unquoted unescaped, if_neg printable] at read
      obtain ⟨⟨chars, left⟩, reads, same⟩ := Option.map_eq_some_iff.1 read
      cases same
      obtain ⟨suffix, further⟩ := ih _ _ reads
      constructor
      · exact suffix.trans (List.suffix_cons _ _)
      · intro more
        rw [List.cons_append, readChars_plain unquoted unescaped, if_neg printable, further more]
        rfl

theorem stops_readString : Stops readString :=
  stops_readChars.map String.ofList

/-! ## Numbers -/

theorem spanDigits_spec {input rest : List Char} {digits : List Nat}
    (spans : spanDigits input = (digits, rest)) :
    rest <:+ input ∧ (rest ≠ [] → ∀ more, spanDigits (input ++ more) = (digits, rest ++ more)) := by
  induction input generalizing digits with
  | nil =>
      cases spans
      exact ⟨List.suffix_rfl, fun left => absurd rfl left⟩
  | cons c tail ih =>
      simp only [spanDigits] at spans
      cases digit : digit? c with
      | none =>
          simp only [digit] at spans
          cases spans
          exact ⟨List.suffix_rfl, fun _ more => by simp [spanDigits, digit]⟩
      | some found =>
          simp only [digit, Prod.mk.injEq] at spans
          obtain ⟨rfl, rfl⟩ := spans
          obtain ⟨suffix, further⟩ := ih rfl
          constructor
          · exact suffix.trans (List.suffix_cons _ _)
          · intro left more
            simp [spanDigits, digit, further left more]

theorem stopsBefore_readWhole : StopsBefore readWhole := by
  intro input value rest read
  unfold readWhole at read
  split at read
  · cases read
  · rename_i digit behind spans
    cases read
    obtain ⟨suffix, further⟩ := spanDigits_spec spans
    exact ⟨suffix, fun left more => by simp [readWhole, further left more]⟩
  · cases read
  · rename_i digits behind several unpadded spans
    cases read
    obtain ⟨suffix, further⟩ := spanDigits_spec spans
    exact ⟨suffix, fun left more => by simp [readWhole, further left more]⟩

theorem stopsBefore_readFraction : StopsBefore readFraction := by
  intro input value rest read
  unfold readFraction at read
  split at read
  · rename_i tail
    split at read
    · cases read
    · rename_i digits behind filled spans
      cases read
      obtain ⟨suffix, further⟩ := spanDigits_spec spans
      constructor
      · exact suffix.trans (List.suffix_cons _ _)
      · intro left more
        simp [readFraction, further left more]
  · rename_i pointless
    cases read
    constructor
    · exact List.suffix_rfl
    · intro left more
      cases input with
      | nil => exact absurd rfl left
      | cons c tail =>
          rw [List.cons_append, readFraction]
          exact head_differs pointless _

theorem stopsBefore_readExponentDigits (negative : Bool) :
    StopsBefore (readExponentDigits negative) := by
  intro input value rest read
  unfold readExponentDigits at read
  split at read
  · cases read
  · rename_i digits behind filled spans
    cases read
    obtain ⟨suffix, further⟩ := spanDigits_spec spans
    exact ⟨suffix, fun left more => by simp [readExponentDigits, further left more]⟩

/-- The letter of an exponent may have a sign behind it, and always has a digit. -/
theorem stopsBefore_readExponent : StopsBefore readExponent := by
  intro input value rest read
  unfold readExponent at read
  split at read
  case h_7 plain capital =>
    cases read
    constructor
    · exact List.suffix_rfl
    · intro left more
      cases input with
      | nil => exact absurd rfl left
      | cons c tail =>
          rw [List.cons_append, readExponent]
          all_goals
            intro behind same
            cases (List.cons.inj same).1
            first | exact plain _ rfl | exact capital _ rfl
  case h_5 tail plus minus | h_6 tail plus minus =>
    obtain ⟨suffix, further⟩ := stopsBefore_readExponentDigits _ _ _ _ read
    constructor
    · exact suffix.trans (List.suffix_cons _ _)
    · intro left more
      cases tail with
      | nil => cases read
      | cons c behind =>
          rw [List.cons_append, List.cons_append, readExponent]
          · exact further left more
          · exact head_differs plus _
          · exact head_differs minus _
  all_goals
    obtain ⟨suffix, further⟩ := stopsBefore_readExponentDigits _ _ _ _ read
    refine ⟨suffix.trans ((List.suffix_cons _ _).trans (List.suffix_cons _ _)), ?_⟩
    exact further

theorem readMagnitude_eq (negative : Bool) (input : List Char) :
    readMagnitude negative input =
      (readWhole input).bind fun whole =>
        (readFraction whole.2).bind fun fraction =>
          (readExponent fraction.2).bind fun exponent =>
            (numberValue negative whole.1 fraction.1 exponent.1).map fun value =>
              (value, exponent.2) := by
  simp only [readMagnitude, Option.bind_eq_bind, Option.map_eq_bind]
  rfl

theorem stopsBefore_readMagnitude (negative : Bool) : StopsBefore (readMagnitude negative) := by
  have valued (whole : List Nat) (fraction : Option (List Nat)) (exponent : Option Int) :
      StopsBefore fun input =>
        (numberValue negative whole fraction exponent).map fun value => (value, input) := by
    intro input value rest read
    obtain ⟨number, valued, same⟩ := Option.map_eq_some_iff.1 read
    cases same
    constructor
    · exact List.suffix_rfl
    · intro _ more
      rw [valued]
      rfl
  rw [funext (readMagnitude_eq negative)]
  exact stopsBefore_readWhole.bind fun whole => stopsBefore_readFraction.bind fun fraction =>
    stopsBefore_readExponent.bind fun exponent => valued whole fraction exponent

theorem stopsBefore_readNumber : StopsBefore readNumber := by
  intro input value rest read
  unfold readNumber at read
  split at read
  · rename_i tail
    obtain ⟨suffix, further⟩ := stopsBefore_readMagnitude true _ _ _ read
    exact ⟨suffix.trans (List.suffix_cons _ _), further⟩
  · rename_i unsigned
    obtain ⟨suffix, further⟩ := stopsBefore_readMagnitude false _ _ _ read
    constructor
    · exact suffix
    · intro left more
      cases input with
      | nil => cases read
      | cons c tail =>
          rw [List.cons_append, readNumber]
          · exact further left more
          · exact head_differs unsigned _

theorem head_of_readNumber {c : Char} {tail : List Char} {found : Json × List Char}
    (read : readNumber (c :: tail) = some found) : c = '-' ∨ (digit? c).isSome = true := by
  unfold readNumber at read
  split at read
  · rename_i same
    exact .inl (List.cons.inj same).1
  · rw [readMagnitude_eq] at read
    obtain ⟨whole, wholly, -⟩ := Option.bind_eq_some_iff.1 read
    cases digit : digit? c with
    | some found => exact .inr rfl
    | none => simp [readWhole, spanDigits, digit] at wholly

/-! ## Arrays and objects -/

section Nested

variable {inner : Outline → Reader} (nested : StopsBefore (inner .whole))
variable {fuel : Nat} {input rest : List Char}

include nested

theorem readItems_spec {items : List Json}
    (read : readItems inner .whole fuel [] input = some (items, rest)) :
    rest <:+ input ∧ ∀ enough, fuel ≤ enough → ∀ more,
      readItems inner .whole enough [] (input ++ more) = some (items, rest ++ more) := by
  induction fuel generalizing input items with
  | zero => cases read
  | succ fuel ih =>
      simp only [readItems, List.headD_nil, List.tail_nil] at read
      cases found : inner .whole input with
      | none => simp [found] at read
      | some reads =>
          obtain ⟨item, behind⟩ := reads
          obtain ⟨suffix, further⟩ := nested _ _ _ found
          simp only [found] at read
          split at read
          · rename_i left kept
            obtain ⟨filled, ends, goesOn⟩ := skipGap_spec kept
            cases read
            constructor
            · exact ((List.suffix_cons _ _).trans ends).trans suffix
            · intro enough within more
              cases enough with
              | zero => cases within
              | succ enough => simp [readItems, further filled more, goesOn]
          · rename_i left kept
            obtain ⟨filled, ends, goesOn⟩ := skipGap_spec kept
            obtain ⟨⟨others, last⟩, reads, same⟩ := Option.map_eq_some_iff.1 read
            cases same
            obtain ⟨suffixBehind, furtherBehind⟩ := ih reads
            constructor
            · exact (suffixBehind.trans ((List.suffix_cons _ _).trans ends)).trans suffix
            · intro enough within more
              cases enough with
              | zero => cases within
              | succ enough =>
                  simp [readItems, further filled more, goesOn,
                    furtherBehind enough (Nat.le_of_succ_le_succ within) more]
          · cases read

theorem stops_readArray : Stops (readArray inner .whole) := by
  intro input value rest read
  unfold readArray at read
  split at read
  · rename_i left kept
    obtain ⟨-, ends, goesOn⟩ := skipGap_spec kept
    cases read
    exact ⟨(List.suffix_cons _ _).trans ends, fun more => by simp [readArray, goesOn]⟩
  · rename_i filled
    obtain ⟨⟨items, last⟩, reads, same⟩ := Option.map_eq_some_iff.1 read
    cases same
    obtain ⟨suffix, further⟩ := readItems_spec nested reads
    constructor
    · exact suffix.trans (skipGap_suffix _)
    · intro more
      cases kept : skipGap input with
      | nil => simp [kept, readItems] at reads
      | cons c left =>
          rw [kept] at further filled
          have longer := further (c :: (left ++ more)).length (by simp) more
          rw [readArray, skipGap_append kept]
          split
          · rename_i same
            exact absurd same (head_differs filled _ _)
          · exact congrArg (Option.map _) longer

theorem stopsBefore_readMember : StopsBefore (readMember inner .whole) := by
  intro input value rest read
  unfold readMember at read
  split at read
  · rename_i behindQuote quoted
    obtain ⟨-, ends, goesOn⟩ := skipGap_spec quoted
    split at read
    · cases read
    · rename_i name behindName named
      obtain ⟨suffixName, furtherName⟩ := stops_readString _ _ _ named
      split at read
      · rename_i behindColon parted
        obtain ⟨-, endsName, goesOnName⟩ := skipGap_spec parted
        obtain ⟨⟨found, behind⟩, reads, same⟩ := Option.map_eq_some_iff.1 read
        cases same
        obtain ⟨suffix, further⟩ := nested _ _ _ reads
        have suffixInput : behindQuote <:+ input := (List.suffix_cons _ _).trans ends
        have suffixColon : behindColon <:+ behindName := (List.suffix_cons _ _).trans endsName
        constructor
        · exact ((suffix.trans suffixColon).trans suffixName).trans suffixInput
        · intro left more
          simp only [readMember, goesOn, furtherName, goesOnName]
          exact congrArg (Option.map _) (further left more)
      · cases read
  · cases read

/-- The members of an object end with its closing brace. -/
theorem readMembers_spec {members : List (String × Json)}
    (read : readMembers inner .whole fuel input = some (members, rest)) :
    '\x7d' :: rest <:+ input ∧ ∀ enough, fuel ≤ enough → ∀ more,
      readMembers inner .whole enough (input ++ more) = some (members, rest ++ more) := by
  induction fuel generalizing input members with
  | zero => cases read
  | succ fuel ih =>
      simp only [readMembers] at read
      cases found : readMember inner .whole input with
      | none => simp [found] at read
      | some reads =>
          obtain ⟨member, behind⟩ := reads
          obtain ⟨suffix, further⟩ := stopsBefore_readMember nested _ _ _ found
          simp only [found] at read
          split at read
          · rename_i left kept
            obtain ⟨filled, ends, goesOn⟩ := skipGap_spec kept
            cases read
            constructor
            · exact ends.trans suffix
            · intro enough within more
              cases enough with
              | zero => cases within
              | succ enough => simp [readMembers, further filled more, goesOn]
          · rename_i left kept
            obtain ⟨filled, ends, goesOn⟩ := skipGap_spec kept
            obtain ⟨⟨others, last⟩, reads, same⟩ := Option.map_eq_some_iff.1 read
            cases same
            obtain ⟨suffixBehind, furtherBehind⟩ := ih reads
            constructor
            · exact (suffixBehind.trans ((List.suffix_cons _ _).trans ends)).trans suffix
            · intro enough within more
              cases enough with
              | zero => cases within
              | succ enough =>
                  simp [readMembers, further filled more, goesOn,
                    furtherBehind enough (Nat.le_of_succ_le_succ within) more]
          · cases read

/-- An object ends with its closing brace. -/
theorem readObject_spec {value : Json}
    (read : readObject inner .whole input = some (value, rest)) :
    '\x7d' :: rest <:+ input ∧
      ∀ more, readObject inner .whole (input ++ more) = some (value, rest ++ more) := by
  unfold readObject at read
  split at read
  · rename_i left kept
    obtain ⟨-, ends, goesOn⟩ := skipGap_spec kept
    cases read
    exact ⟨ends, fun more => by simp [readObject, goesOn]⟩
  · rename_i filled
    obtain ⟨⟨members, last⟩, reads, same⟩ := Option.map_eq_some_iff.1 read
    cases same
    obtain ⟨suffix, further⟩ := readMembers_spec nested reads
    constructor
    · exact suffix.trans (skipGap_suffix _)
    · intro more
      cases kept : skipGap input with
      | nil => simp [kept, readMembers] at reads
      | cons c left =>
          rw [kept] at further filled
          have longer := further (c :: (left ++ more)).length (by simp) more
          rw [readObject, skipGap_append kept]
          split
          · rename_i same
            exact absurd same (head_differs filled _ _)
          · exact congrArg (Option.map _) longer

end Nested

/-! ## Values -/

theorem stopsBefore_readLevel {inner : Option (Outline → Reader)}
    (nested : ∀ each, inner = some each → StopsBefore (each .whole)) :
    StopsBefore (readLevel inner .whole) := by
  intro input value rest read
  unfold readLevel at read
  split at read
  case h_4 left kept =>
    obtain ⟨-, ends, goesOn⟩ := skipGap_spec kept
    obtain ⟨⟨text, last⟩, reads, same⟩ := Option.map_eq_some_iff.1 read
    cases same
    obtain ⟨suffix, further⟩ := stops_readString _ _ _ reads
    constructor
    · exact (suffix.trans (List.suffix_cons _ _)).trans ends
    · intro _ more
      simp [readLevel, goesOn, further]
  case h_5 left kept =>
    obtain ⟨-, ends, goesOn⟩ := skipGap_spec kept
    obtain ⟨each, given, reads⟩ := Option.bind_eq_some_iff.1 read
    obtain ⟨suffix, further⟩ := stops_readArray (nested each given) _ _ _ reads
    constructor
    · exact (suffix.trans (List.suffix_cons _ _)).trans ends
    · intro _ more
      simp [readLevel, goesOn, given, further]
  case h_6 left kept =>
    obtain ⟨-, ends, goesOn⟩ := skipGap_spec kept
    obtain ⟨each, given, reads⟩ := Option.bind_eq_some_iff.1 read
    obtain ⟨suffix, further⟩ := readObject_spec (nested each given) reads
    constructor
    · exact ((List.suffix_cons _ _).trans suffix).trans ((List.suffix_cons _ _).trans ends)
    · intro _ more
      simp [readLevel, goesOn, given, further]
  case h_7 =>
    obtain ⟨suffix, further⟩ := stopsBefore_readNumber _ _ _ read
    constructor
    · exact suffix.trans (skipGap_suffix _)
    · intro left more
      cases kept : skipGap input with
      | nil =>
          rw [kept] at read
          cases read
      | cons c tail =>
          rw [kept] at read further
          rw [readLevel, skipGap_append kept]
          -- What begins with a sign or a digit begins nothing else.
          have head := head_of_readNumber read
          split
          case h_7 => exact further left more
          all_goals
            rename_i same
            cases (List.cons.inj same).1
            exact absurd head (by decide)
  all_goals
    rename_i left kept
    obtain ⟨-, ends, goesOn⟩ := skipGap_spec kept
    cases read
    constructor
    · refine List.IsSuffix.trans ?_ ends
      repeat' first | exact List.suffix_rfl | refine .trans ?_ (List.suffix_cons _ _)
    · intro _ more
      rw [readLevel, goesOn]
      rfl

theorem stopsBefore_readValue (depth : Nat) : StopsBefore (readValue depth .whole) := by
  induction depth with
  | zero =>
      apply stopsBefore_readLevel
      intro each given
      cases given
  | succ depth ih =>
      apply stopsBefore_readLevel
      intro each given
      cases given
      exact ih

/-! ## Objects -/

section Objects

variable {inner : Outline → Reader} {depth : Nat} {input text whole rest : List Char}
variable {members : List (String × Json)}

theorem readArray_ne_obj (outline : Outline) :
    readArray inner outline input ≠ some (.obj members, rest) := by
  unfold readArray
  intro read
  split at read
  · cases read
  · obtain ⟨items, -, same⟩ := Option.map_eq_some_iff.1 read
    cases same

theorem numberValue_ne_obj (negative : Bool) (digits : List Nat) (fraction : Option (List Nat))
    (exponent : Option Int) :
    numberValue negative digits fraction exponent ≠ some (.obj members) := by
  have double (scaled : Option Float) (f : Float → Float) :
      (scaled.map fun x => Json.float (f x)) ≠ some (.obj members) := by
    intro same
    obtain ⟨x, -, cast⟩ := Option.map_eq_some_iff.1 same
    cases cast
  intro same
  dsimp only [numberValue] at same
  split at same
  · cases negative with
    | false =>
        simp only [Bool.false_eq_true, if_false] at same
        split at same
        · cases same
        · exact double _ _ same
    | true =>
        simp only [if_true] at same
        split at same
        · exact double _ _ same
        · cases same
  · exact double _ (fun x => if negative = true then -x else x) same

theorem readMagnitude_ne_obj (negative : Bool) :
    readMagnitude negative input ≠ some (.obj members, rest) := by
  intro read
  rw [readMagnitude_eq] at read
  obtain ⟨whole, -, read⟩ := Option.bind_eq_some_iff.1 read
  obtain ⟨fraction, -, read⟩ := Option.bind_eq_some_iff.1 read
  obtain ⟨exponent, -, read⟩ := Option.bind_eq_some_iff.1 read
  obtain ⟨value, valued, same⟩ := Option.map_eq_some_iff.1 read
  cases same
  exact numberValue_ne_obj _ _ _ _ valued

/-- A value is an object only if it is written as one. -/
theorem readObject_of_readLevel {given : Option (Outline → Reader)}
    (read : readLevel given .whole input = some (.obj members, rest)) :
    ∃ inner left, given = some inner ∧ '\x7b' :: left <:+ input ∧
      (∀ more, skipGap (input ++ more) = '\x7b' :: (left ++ more)) ∧
      readObject inner .whole left = some (.obj members, rest) := by
  unfold readLevel at read
  split at read
  case h_4 =>
    obtain ⟨found, -, same⟩ := Option.map_eq_some_iff.1 read
    cases same
  case h_5 =>
    obtain ⟨inner, -, reads⟩ := Option.bind_eq_some_iff.1 read
    exact absurd reads (readArray_ne_obj _)
  case h_6 left kept =>
    obtain ⟨-, ends, goesOn⟩ := skipGap_spec kept
    obtain ⟨inner, given, reads⟩ := Option.bind_eq_some_iff.1 read
    exact ⟨inner, left, given, ends, goesOn, reads⟩
  case h_7 =>
    unfold readNumber at read
    split at read
    · exact absurd read (readMagnitude_ne_obj true)
    · exact absurd read (readMagnitude_ne_obj false)
  all_goals cases read

theorem readValue_object (read : readValue depth .whole input = some (.obj members, rest)) :
    '\x7d' :: rest <:+ input ∧
      ∀ more, readValue depth .whole (input ++ more) = some (.obj members, rest ++ more) := by
  cases depth with
  | zero =>
      obtain ⟨inner, left, given, -⟩ := readObject_of_readLevel read
      cases given
  | succ depth =>
      obtain ⟨inner, left, given, opens, goesOn, reads⟩ := readObject_of_readLevel read
      cases given
      obtain ⟨suffix, further⟩ := readObject_spec (stopsBefore_readValue depth) reads
      constructor
      · exact suffix.trans ((List.suffix_cons _ _).trans opens)
      · intro more
        simp [readValue, readLevel, goesOn, further]

theorem exists_of_canonical_eq_obj {value : Json} (same : value.canonical = .obj members) :
    ∃ written, value = .obj written := by
  cases value with
  | obj written => exact ⟨written, rfl⟩
  | _ => simp [canonical] at same

/-- What it takes to read a whole text as an object. -/
theorem parse_eq_obj (parsed : parse text = some (.obj members)) :
    ∃ written rest, readValue deepest .whole text = some (.obj written, rest) ∧
      skipGap rest = [] ∧ canonical (.obj written) = .obj members := by
  obtain ⟨value, outlined, same⟩ := Option.map_eq_some_iff.1 parsed
  obtain ⟨written, rfl⟩ := exists_of_canonical_eq_obj same
  unfold parseOutlined at outlined
  split at outlined
  · rename_i found rest read
    rw [Option.ite_none_right_eq_some] at outlined
    obtain ⟨ended, isObject⟩ := outlined
    cases isObject
    exact ⟨written, rest, read, List.isEmpty_iff.1 ended, same⟩
  · cases outlined

/-- The text of an object ends with its closing brace or with a gap behind it. -/
theorem last_of_parse_eq_obj (parsed : parse text = some (.obj members)) {c : Char}
    (last : text.getLast? = some c) : c = '\x7d' ∨ isGap c = true := by
  obtain ⟨written, rest, read, ended, -⟩ := parse_eq_obj parsed
  obtain ⟨⟨before, rfl⟩, -⟩ := readValue_object read
  rw [List.getLast?_append, List.getLast?_cons, Option.some_or, Option.some.injEq] at last
  cases tail : rest.getLast? with
  | none => exact .inl (by simpa [tail] using last.symm)
  | some found =>
      have blank := List.dropWhile_eq_nil_iff.1 ended found (List.mem_of_getLast? tail)
      have same : found = c := by simpa [tail] using last
      exact .inr (same ▸ blank)

/-- A beginning of a text that is an object by itself is the object that the text is. -/
theorem parse_eq_of_prefix (beginning : text <+: whole) (parsed : parse text = some (.obj members))
    (wholly : (parse whole).isSome = true) : parse whole = some (.obj members) := by
  obtain ⟨more, rfl⟩ := beginning
  obtain ⟨written, rest, read, -, same⟩ := parse_eq_obj parsed
  obtain ⟨-, further⟩ := readValue_object read
  rw [parse, parseOutlined, further more] at wholly ⊢
  by_cases ended : (skipGap (rest ++ more)).isEmpty = true
  · simp [ended, same]
  · simp [ended] at wholly

end Objects

end LiveJobs.Json
