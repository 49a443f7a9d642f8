import LiveJobs.Time.Rfc3339

/-!
# Marks for times

In the text of a script, `<now>` stands for the present to the millisecond, and `<now-N>` and
`<now+N>` for the moments some milliseconds before and after it. The wall clock itself shows more
than milliseconds, so a moment that was read off it is none of the script's. What a rehearsal
reports has the marks again in the places of those moments, and `<now>` in the place of a moment
read off the wall clock.
-/

namespace LiveJobs

open LiveJobs.Time

/-- A mark and the moment it stands for. -/
structure Mark where
  chars : List Char
  moment : List Char

namespace Mark

/-- What every mark begins with. -/
def opening : List Char := ['<', 'n', 'o', 'w']

/-- The present, as scripts know it: what the wall clock shows without the part below a
millisecond. -/
def present (wall : Instant) : Instant :=
  { wall with nano := wall.nano / nanosPerMilli * nanosPerMilli }

/-- The mark for a moment some milliseconds from the present. -/
def ofShift (wall : Instant) (shift : List Char) (millis : Int) : Mark :=
  ⟨opening ++ shift ++ ['>'], ((present wall).addMillis millis).chars⟩

/-- The mark for what the wall clock shows. -/
def ofWall (wall : Instant) : Mark := ⟨opening ++ ['>'], wall.chars⟩

/-- The value of decimal digits. -/
def amount (digits : List Char) : Nat :=
  digits.foldl (fun value digit => 10 * value + (digit.toNat - '0'.toNat)) 0

/-- Reads the mark that a text begins with. -/
def read? (wall : Instant) (text : List Char) : Option Mark :=
  if opening.isPrefixOf text then
    match text.drop opening.length with
    | '>' :: _ => some (ofShift wall [] 0)
    | sign :: rest =>
        let digits := rest.takeWhile Char.isDigit
        if digits.isEmpty ∨ (rest.drop digits.length).head? ≠ some '>' then none
        else if sign = '-' then some (ofShift wall (sign :: digits) (-(amount digits : Int)))
        else if sign = '+' then some (ofShift wall (sign :: digits) (amount digits : Int))
        else none
    | [] => none
  else none

/-- Replaces every mark by the moment it stands for, and gives the marks that were found. The
number counts the characters that are still to be skipped. -/
def fill (wall : Instant) : (skip : Nat) → List Char → List Char × List Mark
  | _, [] => ([], [])
  | skip + 1, _ :: rest => fill wall skip rest
  | 0, c :: rest =>
      match read? wall (c :: rest) with
      | some mark =>
          let filled := fill wall (mark.chars.length - 1) rest
          (mark.moment ++ filled.1, mark :: filled.2)
      | none =>
          let filled := fill wall 0 rest
          (c :: filled.1, filled.2)

/-- The marks for what a rehearsal reports. Of two marks that a script has for one moment, the later
one counts. -/
def forReport (wall : Instant) (found : List Mark) : List Mark := found.reverse ++ [ofWall wall]

/-- Replaces every moment for which there is a mark by the first such mark. -/
def restore (marks : List Mark) : (skip : Nat) → List Char → List Char
  | _, [] => []
  | skip + 1, _ :: rest => restore marks skip rest
  | 0, c :: rest =>
      match marks.find? fun mark => mark.moment.isPrefixOf (c :: rest) with
      | some mark => mark.chars ++ restore marks (mark.moment.length - 1) rest
      | none => c :: restore marks 0 rest

end Mark

end LiveJobs
