import LiveJobs.Text.Blank
import LiveJobs.Text.Digits
import LiveJobs.Time.Instant

/-!
# Instants as text

The written form is that of RFC 3339 in universal time, with as many of zero, three, six or nine
digits behind the point as the moment needs. The reader takes that form with any offset, and is
lenient about layout: blanks may stand between the parts, numbers may lack leading zeros, a blank
may stand for the `T`, and the offset may lack its colon. What the parts denote is checked strictly.
-/

namespace LiveJobs.Time

open LiveJobs.Text

/-- Takes up to `width` decimal digits off the front; the answer is their value and their number. -/
def takeDigits : (width : Nat) → (value count : Nat) → List Char → Nat × Nat × List Char
  | 0, value, count, input => (value, count, input)
  | _ + 1, value, count, [] => (value, count, [])
  | width + 1, value, count, c :: rest =>
      match digit? c with
      | some digit => takeDigits width (value * 10 + digit) (count + 1) rest
      | none => (value, count, c :: rest)

/-- A number of one to `width` digits behind optional blanks. -/
def number? (width : Nat) (input : List Char) : Option (Nat × List Char) :=
  match takeDigits width 0 0 (trimLeft input) with
  | (_, 0, _) => none
  | (value, _, rest) => some (value, rest)

/-- A year: four digits at most, or any number of digits behind a sign. -/
def year? (input : List Char) : Option (Int × List Char) :=
  match trimLeft input with
  | '-' :: rest => (takeSigned rest).map fun read => (-read.1, read.2)
  | '+' :: rest => takeSigned rest
  | rest => (number? 4 rest).map fun read => (read.1, read.2)
where
  /-- The digits behind the sign of a year. -/
  takeSigned (input : List Char) : Option (Int × List Char) :=
    match takeDigits input.length 0 0 input with
    | (_, 0, _) => none
    | (value, _, rest) => some (value, rest)

/-- A fixed character behind optional blanks. -/
def mark? (mark : Char) (input : List Char) : Option (List Char) :=
  match trimLeft input with
  | c :: rest => if c = mark then some rest else none
  | [] => none

/-- A date in the order year, month, day. -/
def date? (input : List Char) : Option (Date × List Char) := do
  let (year, rest) ← year? input
  let rest ← mark? '-' rest
  let (month, rest) ← number? 2 rest
  let rest ← mark? '-' rest
  let (day, rest) ← number? 2 rest
  let date : Date := ⟨year, month, day⟩
  if date.exists? then some (date, rest) else none

/-- The nanoseconds behind a point, if there is one; digits behind the ninth are cut off. -/
def fraction? : List Char → Option (Nat × List Char)
  | '.' :: rest =>
      match takeDigits 9 0 0 rest with
      | (_, 0, _) => none
      | (value, count, behind) =>
          some (value * Nat.pow 10 (9 - count), behind.dropWhile fun c => (digit? c).isSome)
  | input => some (0, input)

/-- A time of day in seconds and nanoseconds. A sixtieth second lies in the second before it. -/
def timeOfDay? (input : List Char) : Option ((Nat × Nat) × List Char) := do
  let (hour, rest) ← number? 2 input
  let rest ← mark? ':' rest
  let (minute, rest) ← number? 2 rest
  let rest ← mark? ':' rest
  let (second, rest) ← number? 2 rest
  let (nano, rest) ← fraction? rest
  if hour ≤ 23 ∧ minute ≤ 59 ∧ second ≤ 60 then
    let seconds := hour * 3600 + minute * 60
    if second = 60 then some ((seconds + 59, nanosPerSecond + nano), rest)
    else some ((seconds + second, nano), rest)
  else none

/-- Exactly two digits. -/
def twoDigits? : List Char → Option (Nat × List Char)
  | a :: b :: rest => do
      let a ← digit? a
      let b ← digit? b
      some (a * 10 + b, rest)
  | _ => none

/-- The hours and minutes of an offset, in seconds. -/
def offsetAmount? (input : List Char) : Option (Nat × List Char) := do
  let (hours, rest) ← twoDigits? input
  let (minutes, rest) ← twoDigits? (rest.dropWhile fun c => c = ':' || isBlank c)
  if minutes ≤ 59 then some (hours * 3600 + minutes * 60, rest) else none

/-- An offset from universal time, in seconds. -/
def offset? (input : List Char) : Option (Int × List Char) :=
  match input with
  | 'Z' :: rest => some (0, rest)
  | 'z' :: rest => some (0, rest)
  | u :: t :: c :: rest =>
      if u.toUpper = 'U' ∧ t.toUpper = 'T' ∧ c.toUpper = 'C' then some (0, rest)
      else signed input
  | _ => signed input
where
  /-- An offset behind its sign, which may be a hyphen or a minus sign. -/
  signed : List Char → Option (Int × List Char)
    | '+' :: rest => (offsetAmount? rest).map fun read => (read.1, read.2)
    | '-' :: rest => (offsetAmount? rest).map fun read => (-read.1, read.2)
    | '\u2212' :: rest => (offsetAmount? rest).map fun read => (-read.1, read.2)
    | _ => none

/-- The character between date and time. -/
def separator? : List Char → Option (List Char)
  | 'T' :: rest => some rest
  | 't' :: rest => some rest
  | ' ' :: rest => some rest
  | _ => none

namespace Instant

/-- Reads a moment. The offset has to be less than a day, and the moment has to lie within the
calendar in universal time as well. -/
def read? (text : List Char) : Option Instant := do
  let (date, rest) ← date? text
  let rest ← separator? rest
  let ((seconds, nano), rest) ← timeOfDay? rest
  let (offset, rest) ← offset? (trimLeft rest)
  let second := date.toDays * secondsPerDay + seconds - offset
  if (trimLeft rest).isEmpty ∧ offset.natAbs < 86400 ∧
      (Date.ofDays (Int.fdiv second secondsPerDay)).exists? then
    some ⟨second, nano⟩
  else none

/-- Reads a moment from a string. -/
def ofText? (text : String) : Option Instant := read? text.toList

/-- The digits behind the point, with the point: none, three, six or nine. -/
def fractionText (nano : Nat) : List Char :=
  if nano = 0 then []
  else if nano % 1000000 = 0 then '.' :: padded 3 (nano / 1000000)
  else if nano % 1000 = 0 then '.' :: padded 6 (nano / 1000)
  else '.' :: padded 9 nano

/-- A year, with a sign and at least four digits if it lies outside 0 to 9999. -/
def yearText (year : Int) : List Char :=
  if 0 ≤ year ∧ year ≤ 9999 then padded 4 year.toNat
  else (if year < 0 then '-' else '+') :: padded 4 year.natAbs

/-- The written form of a moment. -/
def chars (moment : Instant) : List Char :=
  let date := Date.ofDays (Int.fdiv moment.second secondsPerDay)
  let seconds := moment.secondOfDay.toNat
  let second := seconds % 60 + if moment.inLeapSecond then 1 else 0
  yearText date.year ++ '-' :: padded 2 date.month ++ '-' :: padded 2 date.day ++ 'T' ::
    padded 2 (seconds / 3600) ++ ':' :: padded 2 (seconds / 60 % 60) ++ ':' :: padded 2 second ++
    fractionText (moment.nano % nanosPerSecond) ++ ['Z']

/-- The written form of a moment as a string. -/
def text (moment : Instant) : String := String.ofList moment.chars

end Instant

end LiveJobs.Time
