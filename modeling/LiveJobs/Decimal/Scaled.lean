import LiveJobs.Text.Digits

/-!
# Decimal numbers to doubles

A written decimal number is read as a whole number of at most 64 bits times a power of ten. Digits
that no longer fit are dropped (whole digits raise the exponent instead), and the whole number is
scaled by one rounded multiplication or division. Numbers too large for a double have no value;
numbers too small for one are zero.
-/

namespace LiveJobs.Decimal

open LiveJobs.Text

/-- A whole number together with a power of ten. -/
structure Scaled where
  significand : Nat
  exponent : Int
  deriving DecidableEq, Repr

/-- Appends whole digits as long as they fit into 64 bits; the answer also counts the digits that
were dropped. -/
def appendWhole : (significand : Nat) → List Nat → Nat × Nat
  | significand, [] => (significand, 0)
  | significand, digit :: rest =>
      if significand * 10 + digit ≤ maxWord64 then appendWhole (significand * 10 + digit) rest
      else (significand, rest.length + 1)

/-- Appends digits behind the point as long as they fit into 64 bits; the answer also counts the
digits that were appended. -/
def appendFraction : (significand : Nat) → List Nat → Nat × Nat
  | significand, [] => (significand, 0)
  | significand, digit :: rest =>
      if significand * 10 + digit ≤ maxWord64 then
        let appended := appendFraction (significand * 10 + digit) rest
        (appended.1, appended.2 + 1)
      else (significand, 0)

/-- The scaled number of the digits before and behind the point and a written exponent. -/
def Scaled.ofDigits (whole fraction : List Nat) (exponent : Int) : Scaled :=
  let before := appendWhole 0 whole
  let behind := appendFraction before.1 fraction
  ⟨behind.1, exponent + before.2 - behind.2⟩

/-- The double nearest to a power of ten. -/
def powerOfTen (exponent : Nat) : Float :=
  Float.ofScientific 1 false exponent

/-- The greatest power of ten below the range's end. -/
def greatestPower : Nat := 308

/-- Scales a double by a power of ten; nothing if the result is out of range. A division beyond the
range of powers is done in two steps, and what is still out of range then is zero. -/
def scale (x : Float) (exponent : Int) : Option Float :=
  if x == 0 then some x
  else if 0 ≤ exponent then
    if exponent.toNat ≤ greatestPower then
      let scaled := x * powerOfTen exponent.toNat
      if scaled.isInf then none else some scaled
    else none
  else if (-exponent).toNat ≤ greatestPower then
    some (x / powerOfTen (-exponent).toNat)
  else
    let reduced := x / powerOfTen greatestPower
    if (-exponent).toNat ≤ 2 * greatestPower then
      some (reduced / powerOfTen ((-exponent).toNat - greatestPower))
    else some (reduced / powerOfTen greatestPower)

/-- The double that a scaled number stands for, if it is in range. -/
def Scaled.toFloat? (number : Scaled) : Option Float :=
  scale (UInt64.ofNat number.significand).toFloat number.exponent

end LiveJobs.Decimal
