/-!
# Outlines of records

An outline says which parts of a JSON text count when a record is read from it. The members of an
object that an outline does not name do not count, however they are written.
-/

namespace LiveJobs.Json

/-- The parts of a value that count. -/
inductive Outline where
  /-- All of it. -/
  | whole
  /-- The same parts of every item of a list. -/
  | list (items : Outline)
  /-- The fields of a record, in their fixed order, with the parts of each that count. -/
  | record (fields : List (String × Outline))

namespace Outline

/-- A record with fields of the given names. Fields that are not listed with an outline of their own
count as a whole. -/
def ofFields (names : List String) (outlines : List (String × Outline)) : Outline :=
  .record (names.map fun name => (name, (outlines.lookup name).getD .whole))

/-- The parts that count of the member with a given name; none if the member itself does not. -/
def member? (outline : Outline) (name : String) : Option Outline :=
  match outline with
  | .record fields => fields.lookup name
  | _ => some .whole

/-- The outlines of the first items of an array, as far as they have one of their own. -/
def leading : Outline → List Outline
  | .record fields => fields.map Prod.snd
  | _ => []

/-- The outline of all further items of an array. -/
def others : Outline → Outline
  | .list items => items
  | _ => .whole

end Outline

end LiveJobs.Json
