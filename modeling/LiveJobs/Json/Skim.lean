import LiveJobs.Json.Token

/-!
# Passing over JSON text

A value that nobody asks for is passed over: its grammar is checked, and nothing else. Its numbers
may be of any size, its escapes may name surrogates without a partner, and its arrays and objects
may be nested to any depth.
-/

namespace LiveJobs.Json

open LiveJobs.Text

/-- What encloses a place in a text. -/
inductive Enclosure where
  | array
  | object
  deriving DecidableEq, Repr

/-- A place in a text that is passed over. -/
structure Place where
  /-- The arrays and objects that are open, the innermost first. -/
  enclosures : List Enclosure
  /-- Whether a value comes next; otherwise a value has just ended. -/
  beforeValue : Bool
  rest : List Char

/-- The letters that stand behind a backslash alone. -/
def shortEscapes : List Char := ['"', '\\', '/', 'b', 'f', 'n', 'r', 't']

/-- The text behind the closing quote of a string. -/
def skimChars : List Char → Option (List Char)
  | [] => none
  | '"' :: rest => some rest
  | '\\' :: 'u' :: a :: b :: c :: d :: rest =>
      if [a, b, c, d].all fun digit => (hexValue? digit).isSome then skimChars rest else none
  | '\\' :: letter :: rest => if shortEscapes.contains letter then skimChars rest else none
  | c :: rest => if c.toNat < 0x20 || c = '\\' then none else skimChars rest

/-- The text behind a number. -/
def skimNumber (input : List Char) : Option (List Char) := do
  let unsigned := match input with
    | '-' :: rest => rest
    | rest => rest
  let (_, behindWhole) ← readWhole unsigned
  let (_, behindFraction) ← readFraction behindWhole
  let (_, behind) ← readExponent behindFraction
  some behind

/-- The text behind a value that is no array and no object. -/
def skimScalar : List Char → Option (List Char)
  | 'n' :: 'u' :: 'l' :: 'l' :: rest => some rest
  | 't' :: 'r' :: 'u' :: 'e' :: rest => some rest
  | 'f' :: 'a' :: 'l' :: 's' :: 'e' :: rest => some rest
  | '"' :: rest => skimChars rest
  | input => skimNumber input

/-- The text behind the name of a member and its colon. -/
def skimName (input : List Char) : Option (List Char) :=
  match skipGap input with
  | '"' :: rest =>
      (skimChars rest).bind fun behind =>
        match skipGap behind with
        | ':' :: behindColon => some behindColon
        | _ => none
  | _ => none

namespace Place

/-- Opens an array or an object, or passes over a scalar. -/
def enter? (place : Place) : Option Place :=
  match skipGap place.rest with
  | '[' :: rest =>
      match skipGap rest with
      | ']' :: behind => some ⟨place.enclosures, false, behind⟩
      | _ => some ⟨.array :: place.enclosures, true, rest⟩
  | '\x7b' :: rest =>
      match skipGap rest with
      | '\x7d' :: behind => some ⟨place.enclosures, false, behind⟩
      | _ => (skimName rest).map fun behind => ⟨.object :: place.enclosures, true, behind⟩
  | rest => (skimScalar rest).map fun behind => ⟨place.enclosures, false, behind⟩

/-- Goes on to the next item or member of the innermost enclosure, or leaves it. -/
def proceed? (place : Place) : Option Place :=
  match place.enclosures, skipGap place.rest with
  | .array :: _, ',' :: behind => some ⟨place.enclosures, true, behind⟩
  | .array :: outer, ']' :: behind => some ⟨outer, false, behind⟩
  | .object :: _, ',' :: behind =>
      (skimName behind).map fun behindName => ⟨place.enclosures, true, behindName⟩
  | .object :: outer, '\x7d' :: behind => some ⟨outer, false, behind⟩
  | _, _ => none

/-- The next place. -/
def step? (place : Place) : Option Place :=
  if place.beforeValue then place.enter? else place.proceed?

/-- Whether the outermost value has ended. -/
def isBehind (place : Place) : Bool := !place.beforeValue && place.enclosures.isEmpty

/-- The text behind the outermost value. Each step takes at least one character, so the length of
the text bounds their number. -/
def finish (steps : Nat) (place : Place) : Option (List Char) :=
  if place.isBehind then some place.rest
  else
    match steps with
    | 0 => none
    | steps + 1 =>
        match place.step? with
        | none => none
        | some next => finish steps next

end Place

/-- The text behind a value of which only the grammar is checked. -/
def skim (input : List Char) : Option (List Char) :=
  Place.finish (input.length + 1) ⟨[], true, input⟩

end LiveJobs.Json
