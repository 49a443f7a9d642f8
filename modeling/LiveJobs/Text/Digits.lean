/-!
# Whole numbers in text

Reading an unsigned number from decimal digits within a bound, with the cause when it cannot be
read, and fixed-width writing. A single plus sign may precede the digits; nothing else may.
-/

namespace LiveJobs.Text

/-- Why a text is not an unsigned number within its bound. -/
inductive NumberFault where
  /-- The text is empty. -/
  | empty
  /-- A character is not a decimal digit. -/
  | invalidDigit
  /-- The digits denote a number above the bound. -/
  | tooLarge
  deriving DecidableEq, Repr

def NumberFault.message : NumberFault → String
  | .empty => "cannot parse integer from empty string"
  | .invalidDigit => "invalid digit found in string"
  | .tooLarge => "number too large to fit in target type"

/-- The value of a decimal digit. -/
def digit? (c : Char) : Option Nat :=
  if '0' ≤ c ∧ c ≤ '9' then some (c.toNat - '0'.toNat) else none

/-- Reads digits behind `value`, from left to right. The first character that is no digit, or the
first digit that passes the bound, decides the answer. -/
def readDigits (bound : Nat) : (value : Nat) → List Char → Except NumberFault Nat
  | value, [] => .ok value
  | value, c :: rest =>
      match digit? c with
      | none => .error .invalidDigit
      | some digit =>
          if value * 10 + digit ≤ bound then readDigits bound (value * 10 + digit) rest
          else .error .tooLarge

/-- Reads an unsigned number of at most `bound`. -/
def readUnsigned (bound : Nat) : List Char → Except NumberFault Nat
  | [] => .error .empty
  | ['+'] => .error .invalidDigit
  | '+' :: digits => readDigits bound 0 digits
  | digits => readDigits bound 0 digits

/-- The greatest number of 64 bits. -/
def maxWord64 : Nat := 18446744073709551615

/-- The greatest number of 32 bits. -/
def maxWord32 : Nat := 4294967295

/-- Decimal digits, padded on the left with zeros to at least `width`. -/
def padded (width value : Nat) : List Char :=
  let digits := Nat.toDigits 10 value
  List.replicate (width - digits.length) '0' ++ digits

/-- The hexadecimal digit of a value below sixteen, in lower case. -/
def hexDigit (value : Nat) : Char :=
  if value < 10 then Char.ofNat ('0'.toNat + value) else Char.ofNat ('a'.toNat + (value - 10))

/-- The hexadecimal digit of a value below sixteen, in upper case. -/
def hexDigitUpper (value : Nat) : Char :=
  if value < 10 then Char.ofNat ('0'.toNat + value) else Char.ofNat ('A'.toNat + (value - 10))

/-- The value of a hexadecimal digit of either case. -/
def hexValue? (c : Char) : Option Nat :=
  if '0' ≤ c ∧ c ≤ '9' then some (c.toNat - '0'.toNat)
  else if 'a' ≤ c ∧ c ≤ 'f' then some (c.toNat - 'a'.toNat + 10)
  else if 'A' ≤ c ∧ c ≤ 'F' then some (c.toNat - 'A'.toNat + 10)
  else none

end LiveJobs.Text
