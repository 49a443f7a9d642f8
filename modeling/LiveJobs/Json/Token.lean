import LiveJobs.Decimal.Scaled
import LiveJobs.Json.Basic

/-!
# The parts of a JSON text

Gaps, strings and numbers: the parts of a JSON text without parts of their own. Every reading
function takes one part off the front of a text and returns it with the text behind it. Strings hold
no raw control characters and no unpaired surrogates, and numbers lie within the range of doubles.
-/

namespace LiveJobs.Json

open LiveJobs.Text LiveJobs.Decimal

/-- Whether a character may stand between the parts of a JSON text. -/
def isGap (c : Char) : Bool :=
  c = ' ' || c = '\n' || c = '\t' || c = '\r'

/-- The text behind a gap. -/
def skipGap (input : List Char) : List Char :=
  input.dropWhile isGap

/-- The value of four hexadecimal digits. -/
def hexQuad? : List Char → Option (Nat × List Char)
  | a :: b :: c :: d :: rest => do
      let a ← hexValue? a
      let b ← hexValue? b
      let c ← hexValue? c
      let d ← hexValue? d
      some (((a * 16 + b) * 16 + c) * 16 + d, rest)
  | _ => none

theorem hexQuad?_length {input rest : List Char} {value : Nat}
    (read : hexQuad? input = some (value, rest)) : rest.length < input.length := by
  match input with
  | a :: b :: c :: d :: tail =>
      simp only [hexQuad?, Option.bind_eq_bind, Option.bind_eq_some_iff, Option.some.injEq,
        Prod.mk.injEq] at read
      obtain ⟨_, _, _, _, _, _, _, _, _, rfl⟩ := read
      simp only [List.length_cons]
      omega
  | [] | [_] | [_, _] | [_, _, _] => simp [hexQuad?] at read

/-- The character of a surrogate pair written as two numeric escapes, of which the first has been
read already. -/
def readLowSurrogate (high : Nat) : List Char → Option (Char × List Char)
  | '\\' :: 'u' :: rest =>
      match hexQuad? rest with
      | some (low, behind) =>
          if 0xDC00 ≤ low ∧ low ≤ 0xDFFF then
            some (Char.ofNat (0x10000 + (high - 0xD800) * 0x400 + (low - 0xDC00)), behind)
          else none
      | none => none
  | _ => none

theorem readLowSurrogate_length {high : Nat} {input rest : List Char} {c : Char}
    (read : readLowSurrogate high input = some (c, rest)) : rest.length < input.length := by
  unfold readLowSurrogate at read
  split at read
  · rename_i tail
    split at read
    · rename_i found
      split at read
      · simp only [Option.some.injEq, Prod.mk.injEq] at read
        have shorter := hexQuad?_length found
        rw [← read.2]
        simp only [List.length_cons]
        omega
      · cases read
    · cases read
  · cases read

/-- The character that an escape stands for, read behind its backslash. -/
def readEscape : List Char → Option (Char × List Char)
  | '"' :: rest => some ('"', rest)
  | '\\' :: rest => some ('\\', rest)
  | '/' :: rest => some ('/', rest)
  | 'b' :: rest => some ('\x08', rest)
  | 'f' :: rest => some ('\x0c', rest)
  | 'n' :: rest => some ('\n', rest)
  | 'r' :: rest => some ('\r', rest)
  | 't' :: rest => some ('\t', rest)
  | 'u' :: rest =>
      match hexQuad? rest with
      | none => none
      | some (code, behind) =>
          if 0xD800 ≤ code ∧ code ≤ 0xDBFF then readLowSurrogate code behind
          else if 0xDC00 ≤ code ∧ code ≤ 0xDFFF then none
          else some (Char.ofNat code, behind)
  | _ => none

theorem readEscape_length {input rest : List Char} {c : Char}
    (read : readEscape input = some (c, rest)) : rest.length < input.length := by
  unfold readEscape at read
  split at read
  case h_9 tail =>
    split at read
    · cases read
    · rename_i found
      have shorter := hexQuad?_length found
      split at read
      · have further := readLowSurrogate_length read
        simp only [List.length_cons]
        omega
      · split at read
        · cases read
        · simp only [Option.some.injEq, Prod.mk.injEq] at read
          rw [← read.2]
          simp only [List.length_cons]
          omega
  case h_10 => cases read
  all_goals
    simp only [Option.some.injEq, Prod.mk.injEq] at read
    rw [← read.2]
    simp

/-- The characters of a string, read behind its opening quote up to and over its closing one. -/
def readChars (input : List Char) : Option (List Char × List Char) :=
  match input with
  | [] => none
  | '"' :: rest => some ([], rest)
  | '\\' :: rest =>
      match found : readEscape rest with
      | none => none
      | some (c, behind) =>
          have : behind.length < rest.length + 1 := by
            have := readEscape_length found
            omega
          (readChars behind).map fun read => (c :: read.1, read.2)
  | c :: rest =>
      if c.toNat < 0x20 then none
      else (readChars rest).map fun read => (c :: read.1, read.2)
termination_by input.length

/-- A string with its closing quote, read behind its opening one. -/
def readString (input : List Char) : Option (String × List Char) :=
  (readChars input).map fun read => (String.ofList read.1, read.2)

/-- Splits off the decimal digits at the front of a text. -/
def spanDigits : List Char → List Nat × List Char
  | [] => ([], [])
  | c :: rest =>
      match digit? c with
      | some digit =>
          let behind := spanDigits rest
          (digit :: behind.1, behind.2)
      | none => ([], c :: rest)

/-- The digits behind a point, if there is a point; a point without digits is refused. -/
def readFraction : List Char → Option (Option (List Nat) × List Char)
  | '.' :: rest =>
      match spanDigits rest with
      | ([], _) => none
      | (digits, behind) => some (some digits, behind)
  | input => some (none, input)

/-- The number that decimal digits denote. -/
def digitsValue (digits : List Nat) : Nat :=
  digits.foldl (fun value digit => value * 10 + digit) 0

/-- The exponent behind its letter. -/
def readExponentDigits (negative : Bool) (input : List Char) : Option (Option Int × List Char) :=
  match spanDigits input with
  | ([], _) => none
  | (digits, behind) =>
      let value : Int := digitsValue digits
      some (some (if negative then -value else value), behind)

/-- The written exponent, if there is one; an exponent letter without digits is refused. -/
def readExponent : List Char → Option (Option Int × List Char)
  | 'e' :: '+' :: rest => readExponentDigits false rest
  | 'E' :: '+' :: rest => readExponentDigits false rest
  | 'e' :: '-' :: rest => readExponentDigits true rest
  | 'E' :: '-' :: rest => readExponentDigits true rest
  | 'e' :: rest => readExponentDigits false rest
  | 'E' :: rest => readExponentDigits false rest
  | input => some (none, input)

/-- The value of a written number. Without point and exponent it is a whole number if it fits into
64 bits; minus zero is a double. -/
def numberValue (negative : Bool) (whole : List Nat) (fraction : Option (List Nat))
    (exponent : Option Int) : Option Json :=
  let magnitude := digitsValue whole
  let asDouble :=
    (Scaled.ofDigits whole (fraction.getD []) (exponent.getD 0)).toFloat?.map fun x =>
      Json.float (if negative then -x else x)
  match fraction, exponent with
  | none, none =>
      if negative then
        if magnitude = 0 ∨ 9223372036854775808 < magnitude then asDouble
        else some (.int (-magnitude))
      else if magnitude ≤ maxWord64 then some (.int magnitude)
      else asDouble
  | _, _ => asDouble

/-- The whole digits of a number: zero alone, or digits that do not begin with zero. -/
def readWhole (input : List Char) : Option (List Nat × List Char) :=
  match spanDigits input with
  | ([], _) => none
  | ([digit], rest) => some ([digit], rest)
  | (0 :: _, _) => none
  | (digits, rest) => some (digits, rest)

/-- A number behind its sign. -/
def readMagnitude (negative : Bool) (input : List Char) : Option (Json × List Char) := do
  let (whole, behindWhole) ← readWhole input
  let (fraction, behindFraction) ← readFraction behindWhole
  let (exponent, behind) ← readExponent behindFraction
  let value ← numberValue negative whole fraction exponent
  some (value, behind)

/-- A number. -/
def readNumber : List Char → Option (Json × List Char)
  | '-' :: rest => readMagnitude true rest
  | input => readMagnitude false input

end LiveJobs.Json
