import LiveJobs.Json.Basic

/-!
# Records inside JSON

A record is written as an object whose members are its fields, or as the array of its fields in
their fixed order. In an object no known field may occur twice, and unknown members count for
nothing; in an array nothing may follow the last field. Fields are then asked for by name, and each
says what becomes of it when it is missing or null. One of several names is written as a text, or as
an object with that name for its only member.
-/

namespace LiveJobs.Json

/-- The fields found for a record. -/
structure Record where
  /-- Whether the record was written as an array. -/
  positional : Bool
  /-- The value found for a field. -/
  field? : String → Option Json

/-- The number of members of a given name. -/
def countMembers (name : String) (members : List (String × Json)) : Nat :=
  members.countP fun member => member.1 = name

/-- Finds the fields of a record with the given names. -/
def record? (names : List String) : Json → Option Record
  | .obj members =>
      if names.all fun name => countMembers name members ≤ 1 then
        some ⟨false, fun name => members.lookup name⟩
      else none
  | .arr items =>
      if items.length ≤ names.length then some ⟨true, fun name => (names.zip items).lookup name⟩
      else none
  | _ => none

namespace Record

/-- A field that has to be there. -/
def required {α : Type} (record : Record) (name : String) (read : Json → Option α) : Option α :=
  (record.field? name).bind read

/-- A field that may be missing or null. -/
def optional {α : Type} (record : Record) (name : String) (read : Json → Option α) :
    Option (Option α) :=
  match record.field? name with
  | none => some none
  | some .null => some none
  | some value => (read value).map some

/-- A field that may be null, and in an object may be missing as well. -/
def nullable {α : Type} (record : Record) (name : String) (read : Json → Option α) :
    Option (Option α) :=
  match record.field? name with
  | none => if record.positional then none else some none
  | some .null => some none
  | some value => (read value).map some

/-- A field that has a default when it is missing; null is a value like any other. -/
def defaulted {α : Type} (record : Record) (name : String) (default : α)
    (read : Json → Option α) : Option α :=
  match record.field? name with
  | none => some default
  | some value => read value

end Record

/-- The name that was chosen: a text, or the name of the only member of an object, with null for its
value. -/
def choice? : Json → Option String
  | .str name => some name
  | .obj [(name, .null)] => some name
  | _ => none

/-- The values that all items of a list are read as. -/
def readAll {α : Type} (read : Json → Option α) : List Json → Option (List α)
  | [] => some []
  | item :: rest => do
      let value ← read item
      let values ← readAll read rest
      some (value :: values)

/-- An array, every item of which can be read. -/
def list? {α : Type} (read : Json → Option α) : Json → Option (List α)
  | .arr items => readAll read items
  | _ => none

/-- A member for a field that is left out when it is absent. -/
def member {α : Type} (name : String) (write : α → Json) : Option α → List (String × Json)
  | none => []
  | some value => [(name, write value)]

/-- The value of a field that is written as null when it is absent. -/
def orNull {α : Type} (write : α → Json) : Option α → Json
  | none => .null
  | some value => write value

/-- What was written for every value of a list is read back, if that holds for each of them. -/
theorem readAll_map {α : Type} {read : Json → Option α} {write : α → Json} (values : List α)
    (each : ∀ value ∈ values, read (write value) = some value) :
    readAll read (values.map write) = some values := by
  induction values with
  | nil => rfl
  | cons value rest ih =>
      have here := each value (by simp)
      have there := ih fun other member => each other (by simp [member])
      simp [readAll, here, there]

end LiveJobs.Json
