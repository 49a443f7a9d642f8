/-!
# JSON values

The value type that job payloads, wire records and configuration texts share. Whole numbers within
64 bits stay whole numbers; every other number is a double. Objects keep their members as a list,
and the canonical form has them sorted by name with the last of two equal names kept.
-/

namespace LiveJobs

/-- A JSON value. -/
inductive Json where
  | null
  | bool (value : Bool)
  | int (value : Int)
  | float (value : Float)
  | str (text : String)
  | arr (items : List Json)
  | obj (members : List (String × Json))
  deriving Inhabited, Repr

namespace Json

mutual

/-- Whether two values are the same: whole numbers differ from doubles even where they are equal
as numbers, and doubles are compared as numbers. -/
def same : Json → Json → Bool
  | .null, .null => true
  | .bool left, .bool right => left == right
  | .int left, .int right => left == right
  | .float left, .float right => left == right
  | .str left, .str right => left == right
  | .arr left, .arr right => sameItems left right
  | .obj left, .obj right => sameMembers left right
  | _, _ => false

/-- Whether two lists hold the same values in the same order. -/
def sameItems : List Json → List Json → Bool
  | [], [] => true
  | left :: lefts, right :: rights => same left right && sameItems lefts rights
  | _, _ => false

/-- Whether two member lists hold the same names and values in the same order. -/
def sameMembers : List (String × Json) → List (String × Json) → Bool
  | [], [] => true
  | left :: lefts, right :: rights =>
      left.1 == right.1 && same left.2 right.2 && sameMembers lefts rights
  | _, _ => false

end

instance : BEq Json := ⟨same⟩

/-- Puts a member into a list sorted by name, in the place of an equal name. -/
def insertMember (name : String) (value : Json) : List (String × Json) → List (String × Json)
  | [] => [(name, value)]
  | member :: rest =>
      if name < member.1 then (name, value) :: member :: rest
      else if name = member.1 then (name, value) :: rest
      else member :: insertMember name value rest

mutual

/-- The value with the members of every object sorted by name, the last of equal names kept. -/
def canonical : Json → Json
  | .arr items => .arr (canonicalItems items)
  | .obj members => .obj (canonicalMembers members [])
  | value => value

/-- The canonical forms of a list of values. -/
def canonicalItems : List Json → List Json
  | [] => []
  | item :: rest => canonical item :: canonicalItems rest

/-- Inserts the canonical forms of members, first to last, into members sorted so far. -/
def canonicalMembers : List (String × Json) → List (String × Json) → List (String × Json)
  | [], sorted => sorted
  | (name, value) :: rest, sorted =>
      canonicalMembers rest (insertMember name (canonical value) sorted)

end

/-- The member of a given name, if the value is an object that has it. -/
def get? (name : String) : Json → Option Json
  | .obj members => members.lookup name
  | _ => none

/-- The text of a string value. -/
def text? : Json → Option String
  | .str text => some text
  | _ => none

/-- The items of an array value. -/
def items? : Json → Option (List Json)
  | .arr items => some items
  | _ => none

/-- A whole number between zero and a bound; doubles and negative numbers are refused. -/
def unsigned? (bound : Nat) : Json → Option Nat
  | .int value => if 0 ≤ value ∧ value ≤ bound then some value.toNat else none
  | _ => none

/-- Any number, as a double. Infinities, and what is not a number, have no place in a value. -/
def float? : Json → Option Float
  | .int value =>
      if 0 ≤ value then some (UInt64.ofNat value.toNat).toFloat
      else some (-(UInt64.ofNat (-value).toNat).toFloat)
  | .float value => if value.isFinite then some value else none
  | _ => none

/-- The value of a double: null for one that is not finite. -/
def ofFloat (value : Float) : Json := if value.isFinite then .float value else .null

end Json

end LiveJobs
