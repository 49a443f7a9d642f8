/-!
# UTF-8

Reading bytes as text. Invalid input never fails: each maximal piece of a sequence that could have
begun a character, but does not complete one, is replaced by U+FFFD, and reading goes on right
behind it. Writing goes through the library's own encoder.
-/

namespace LiveJobs.Text

/-- What stands for a piece of input that is no character. -/
def replacement : Char := '\uFFFD'

/-- The octets that may stand second behind a leading octet, with the number of continuation
octets the leading octet asks for. The narrow ranges shut out overlong forms, surrogates and
values above U+10FFFF. -/
def leading (octet : UInt8) : Option (Nat × UInt8 × UInt8) :=
  if octet < 0xC2 then none
  else if octet ≤ 0xDF then some (1, 0x80, 0xBF)
  else if octet = 0xE0 then some (2, 0xA0, 0xBF)
  else if octet = 0xED then some (2, 0x80, 0x9F)
  else if octet ≤ 0xEF then some (2, 0x80, 0xBF)
  else if octet = 0xF0 then some (3, 0x90, 0xBF)
  else if octet ≤ 0xF3 then some (3, 0x80, 0xBF)
  else if octet = 0xF4 then some (3, 0x80, 0x8F)
  else none

/-- The payload bits of a continuation octet. -/
def continuationBits (octet : UInt8) : Nat :=
  octet.toNat % 64

/-- The payload bits of a leading octet that asks for `count` continuation octets. -/
def leadingBits (octet : UInt8) (count : Nat) : Nat :=
  octet.toNat % Nat.pow 2 (6 - count)

/-- The continuation octets of one character: `value` holds the bits read so far, the next octet
has to lie between `low` and `high`, and `count` octets are still owed. The answer is the
character, or the replacement if an octet does not fit, with the input that is left. -/
def continueChar : (count value : Nat) → (low high : UInt8) → List UInt8 → Char × List UInt8
  | 0, value, _, _, rest => (Char.ofNat value, rest)
  | _ + 1, _, _, _, [] => (replacement, [])
  | count + 1, value, low, high, octet :: rest =>
      if low ≤ octet && octet ≤ high then
        continueChar count (value * 64 + continuationBits octet) 0x80 0xBF rest
      else
        (replacement, octet :: rest)

/-- Reading the rest of a character never gives input back. -/
theorem continueChar_length (count value : Nat) (low high : UInt8) (input : List UInt8) :
    (continueChar count value low high input).2.length ≤ input.length := by
  induction count generalizing value low high input with
  | zero => simp [continueChar]
  | succ count ih =>
      cases input with
      | nil => simp [continueChar]
      | cons octet rest =>
          unfold continueChar
          split
          · exact Nat.le_succ_of_le (ih _ _ _ rest)
          · exact Nat.le_refl _

/-- The text that a sequence of bytes stands for, with a replacement for each invalid piece. -/
def decodeLossy : List UInt8 → List Char
  | [] => []
  | octet :: rest =>
      if octet < 0x80 then
        Char.ofNat octet.toNat :: decodeLossy rest
      else
        match leading octet with
        | none => replacement :: decodeLossy rest
        | some (count, low, high) =>
            let step := continueChar count (leadingBits octet count) low high rest
            step.1 :: decodeLossy step.2
termination_by input => input.length
decreasing_by
  · simp
  · simp
  · exact Nat.lt_succ_of_le (continueChar_length count _ low high rest)

/-- The UTF-8 bytes of a text. -/
def encodeUtf8 (text : String) : List UInt8 :=
  text.toUTF8.toList

end LiveJobs.Text
