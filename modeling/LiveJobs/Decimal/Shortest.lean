import LiveJobs.Text.Digits

/-!
# Doubles to decimal numbers

The written form of a double is the shortest decimal number that reads back as the same double, and
of the shortest ones the nearest. All tests are made in exact arithmetic on the integers `m` and
`q` with value `m * 2 ^ q`.
-/

namespace LiveJobs.Decimal

open LiveJobs.Text

/-- A positive double as `mantissa * 2 ^ (exponent - 1074)`, with the note whether the double
below it is nearer than the one above it. -/
structure Binary where
  mantissa : Nat
  exponent : Nat
  nearerBelow : Bool
  deriving DecidableEq, Repr

/-- Takes the bits of a double apart, without its sign. -/
def Binary.ofBits (bits : UInt64) : Binary :=
  let fraction := bits.toNat % Nat.pow 2 52
  let field := bits.toNat / Nat.pow 2 52 % Nat.pow 2 11
  if field = 0 then ⟨fraction, 0, false⟩
  else ⟨Nat.pow 2 52 + fraction, field - 1, fraction = 0 && 1 < field⟩

/-- The scale at which every bound below is a whole number: quarters of the least double. -/
def unitsPerOne : Nat := 4 * Nat.pow 2 1074

/-- The double in quarters of the least double. -/
def Binary.units (x : Binary) : Nat := 4 * x.mantissa * Nat.pow 2 x.exponent

/-- The least number, in units, that may still read back as the double. -/
def Binary.lower (x : Binary) : Nat :=
  (4 * x.mantissa - if x.nearerBelow then 1 else 2) * Nat.pow 2 x.exponent

/-- The greatest number, in units, that may still read back as the double. -/
def Binary.upper (x : Binary) : Nat := (4 * x.mantissa + 2) * Nat.pow 2 x.exponent

/-- Decimal digits with the number of digits that stand before the point. -/
structure Digits where
  digits : List Char
  pointAfter : Int
  deriving DecidableEq, Repr

/-- The number of places before the point of a positive double; zero or less if it is below one
tenth. -/
def Binary.places (x : Binary) : Int :=
  (Nat.toDigits 10 (x.units * Nat.pow 10 400 / unitsPerOne)).length - 400

/-- A rational number `numerator / denominator` that tests the candidate `digits * 10 ^ power`. -/
structure Grid where
  /-- Units of the grid step. -/
  step : Nat
  /-- What every unit count is multiplied by to stay whole. -/
  multiplier : Nat

/-- The decimal grid with steps of `10 ^ power`. -/
def Grid.ofPower (power : Int) : Grid :=
  if 0 ≤ power then ⟨unitsPerOne * Nat.pow 10 power.toNat, 1⟩
  else ⟨unitsPerOne, Nat.pow 10 (-power).toNat⟩

/-- Whether a point of the grid reads back as the double: the ends of the interval count exactly
when the mantissa is even. -/
def Binary.covers (x : Binary) (grid : Grid) (point : Nat) : Bool :=
  let units := point * grid.step
  let lower := x.lower * grid.multiplier
  let upper := x.upper * grid.multiplier
  if x.mantissa % 2 = 0 then lower ≤ units && units ≤ upper
  else lower < units && units < upper

/-- The point of the grid that is next to the double and reads back as it, if there is one; of two
the nearer, and on a tie the even one. -/
def Binary.pointOn? (x : Binary) (grid : Grid) : Option Nat :=
  let value := x.units * grid.multiplier
  let below := value / grid.step
  let above := below + 1
  match x.covers grid below, x.covers grid above with
  | true, true =>
      let fromBelow := value - below * grid.step
      let fromAbove := above * grid.step - value
      if fromBelow < fromAbove ∨ (fromBelow = fromAbove ∧ below % 2 = 0) then some below
      else some above
  | true, false => some below
  | false, true => some above
  | false, false => none

/-- The shortest digits, tried from `count` digits on for `fuel` further lengths. Seventeen digits
always suffice for a double. -/
def Binary.shortestFrom (x : Binary) (count : Nat) : (fuel : Nat) → Digits
  | 0 => ⟨Nat.toDigits 10 (x.units / unitsPerOne), x.places⟩
  | fuel + 1 =>
      match x.pointOn? (Grid.ofPower (x.places - count)) with
      | some point =>
          let digits := Nat.toDigits 10 point
          ⟨digits, digits.length + (x.places - count)⟩
      | none => shortestFrom x (count + 1) fuel

/-- The shortest digits of a positive double. -/
def Binary.shortest (x : Binary) : Digits :=
  x.shortestFrom 1 17

/-- Takes trailing zeros off the digits; they stand for nothing, since the place of the point is
kept apart. -/
def Digits.trimmed (number : Digits) : Digits :=
  { number with digits := (number.digits.reverse.dropWhile (· = '0')).reverse }

/-- Up to this many places before the point a number is written without an exponent. -/
def positionalPlaces : Int := 16

/-- Writes digits: positionally from `0.00001` up to sixteen places, with an exponent beyond. A
whole number keeps the digit zero behind its point. -/
def Digits.text (number : Digits) : List Char :=
  let length : Int := number.digits.length
  let before := number.pointAfter
  if 0 < before ∧ before ≤ positionalPlaces then
    if length ≤ before then
      number.digits ++ List.replicate (before - length).toNat '0' ++ ['.', '0']
    else number.digits.take before.toNat ++ ['.'] ++ number.digits.drop before.toNat
  else if -5 < before ∧ before ≤ 0 then
    ['0', '.'] ++ List.replicate (-before).toNat '0' ++ number.digits
  else
    let exponent := (toString (before - 1)).toList
    match number.digits with
    | [] => ['0', '.', '0']
    | [digit] => [digit, 'e'] ++ exponent
    | digit :: rest => [digit, '.'] ++ rest ++ ['e'] ++ exponent

/-- The written form of a finite double. -/
def floatText (x : Float) : List Char :=
  let bits := x.toBits
  let sign := if Nat.pow 2 63 ≤ bits.toNat then ['-'] else []
  let binary := Binary.ofBits bits
  if binary.mantissa = 0 then sign ++ ['0', '.', '0']
  else sign ++ binary.shortest.trimmed.text

end LiveJobs.Decimal
