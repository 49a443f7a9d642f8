import LiveJobs.Json.Record

/-!
# Fields of written records

A written record is an object of some members in the order of its fields. A field is left out of it,
or null, where the value has none; that works because no value that is there is written as null.
Conversely what a field is read as comes from a value that is not null, unless null is a value of
that field.
-/

namespace LiveJobs.Json

/-- Whether a value is read back from what is written for it, and is not written as null. -/
structure Carries {α : Type} (read : Json → Option α) (write : α → Json) (value : α) : Prop where
  readBack : read (write value) = some value
  filled : write value ≠ .null

/-- The fields of a value that was written as an object. -/
def Record.written (value : Json) : Record := ⟨false, fun name => value.get? name⟩

/-! ## Steps of a reader -/

theorem bind_of_found {α β : Type} {found : Option α} {value : α} {next : α → Option β}
    (here : found = some value) : (found >>= next) = next value := by
  rw [here]
  rfl

theorem exists_of_bind {α β : Type} {found : Option α} {result : β} {next : α → Option β}
    (read : (found >>= next) = some result) :
    ∃ value, found = some value ∧ next value = some result :=
  Option.bind_eq_some_iff.1 read

variable {α : Type} {read : Json → Option α} {write : α → Json} {value default : α}
variable {name : String} {names : List String} {members : List (String × Json)} {record : Record}
variable {stated : Option α}

/-! ## Members -/

theorem countMembers_eq : countMembers name members = (members.map Prod.fst).count name := by
  rw [countMembers, List.count, List.countP_map]
  congr 1

/-- The members of a written record are found as its fields: no name occurs twice. -/
theorem record?_obj (distinct : names.Nodup) (written : (members.map Prod.fst).Sublist names) :
    record? names (.obj members) = some (.written (.obj members)) := by
  rw [record?, if_pos]
  · rfl
  · apply List.all_eq_true.2
    intro name _
    rw [countMembers_eq]
    have once : names.count name ≤ 1 := List.nodup_iff_count.1 distinct name
    exact decide_eq_true (Nat.le_trans (written.count_le name) once)

theorem names_member (name : String) (write : α → Json) (stated : Option α) :
    ((member name write stated).map Prod.fst).Sublist [name] := by
  cases stated with
  | none => exact List.nil_sublist _
  | some value => exact List.Sublist.refl _

@[simp] theorem lookup_member (name other : String) (write : α → Json) (stated : Option α) :
    (member other write stated).lookup name = if name = other then stated.map write else none := by
  cases stated with
  | none =>
      rw [member, Option.map_none, ite_self]
      rfl
  | some value =>
      by_cases same : name = other
      · rw [member, if_pos same, same, List.lookup_cons_self]
        rfl
      · rw [member, if_neg same, List.lookup_cons, beq_false_of_ne same]
        rfl

@[simp] theorem field?_written (json : Json) (name : String) :
    (Record.written json).field? name = json.get? name :=
  rfl

@[simp] theorem get?_obj (name : String) (members : List (String × Json)) :
    (Json.obj members).get? name = members.lookup name :=
  rfl

/-! ## Reading what was written -/

theorem required_of_field (carried : Carries read write value)
    (field : record.field? name = some (write value)) :
    record.required name read = some value := by
  rw [Record.required, field]
  exact carried.readBack

theorem defaulted_of_field (carried : Carries read write value)
    (field : record.field? name = some (write value)) :
    record.defaulted name default read = some value := by
  rw [Record.defaulted, field]
  exact carried.readBack

theorem optional_of_filled {json : Json} (field : record.field? name = some json)
    (filled : json ≠ .null) : record.optional name read = (read json).map some := by
  rw [Record.optional, field]
  split
  · rename_i missing
    cases missing
  · rename_i null
    cases null
    exact absurd rfl filled
  · rename_i found
    cases found
    rfl

theorem optional_of_member (field : record.field? name = stated.map write)
    (carried : ∀ value ∈ stated, Carries read write value) :
    record.optional name read = some stated := by
  cases stated with
  | none => rw [Record.optional, field, Option.map_none]
  | some value =>
      have carries := carried value rfl
      rw [optional_of_filled field carries.filled, carries.readBack, Option.map_some]

theorem optional_of_orNull (field : record.field? name = some (orNull write stated))
    (carried : ∀ value ∈ stated, Carries read write value) :
    record.optional name read = some stated := by
  cases stated with
  | none => rw [Record.optional, field, orNull]
  | some value =>
      have carries := carried value rfl
      rw [optional_of_filled field carries.filled, orNull, carries.readBack, Option.map_some]

/-- Where a field is there, it does not matter whether it may be missing. -/
theorem nullable_eq_optional {json : Json} (field : record.field? name = some json) :
    record.nullable name read = record.optional name read := by
  rw [Record.nullable, Record.optional, field]
  cases json <;> rfl

theorem nullable_of_orNull (field : record.field? name = some (orNull write stated))
    (carried : ∀ value ∈ stated, Carries read write value) :
    record.nullable name read = some stated := by
  rw [nullable_eq_optional field, optional_of_orNull field carried]

/-! ## What is read -/

/-- What a property of everything that is read from a value other than null says of a field. -/
theorem forall_of_optional {Holds : α → Prop}
    (holds : ∀ {json : Json} {value : α}, json ≠ .null → read json = some value → Holds value)
    (found : record.optional name read = some stated) : ∀ value ∈ stated, Holds value := by
  intro value present
  cases present
  rw [Record.optional] at found
  split at found
  · cases found
  · cases found
  · rename_i json filled _
    rw [Option.map_eq_some_iff] at found
    rcases found with ⟨_, found, same⟩
    cases same
    exact holds filled found

theorem forall_of_nullable {Holds : α → Prop}
    (holds : ∀ {json : Json} {value : α}, json ≠ .null → read json = some value → Holds value)
    (found : record.nullable name read = some stated) : ∀ value ∈ stated, Holds value := by
  intro value present
  rw [Record.nullable] at found
  split at found
  · split at found
    · cases found
    · cases found
      cases present
  · cases found
    cases present
  · rename_i json filled _
    rw [Option.map_eq_some_iff] at found
    rcases found with ⟨_, found, same⟩
    cases same
    cases present
    exact holds filled found

theorem of_required (Holds : α → Prop)
    (holds : ∀ {json : Json} {value : α}, read json = some value → Holds value)
    (found : record.required name read = some value) : Holds value := by
  rw [Record.required, Option.bind_eq_some_iff] at found
  rcases found with ⟨json, -, found⟩
  exact holds found

theorem of_defaulted (Holds : α → Prop) (usual : Holds default)
    (holds : ∀ {json : Json} {value : α}, read json = some value → Holds value)
    (found : record.defaulted name default read = some value) : Holds value := by
  rw [Record.defaulted] at found
  split at found
  · cases found
    exact usual
  · exact holds found

theorem forall_of_readAll {Holds : α → Prop}
    (holds : ∀ {json : Json} {value : α}, read json = some value → Holds value)
    {items : List Json} {values : List α} (found : readAll read items = some values) :
    ∀ value ∈ values, Holds value := by
  induction items generalizing values with
  | nil =>
      cases found
      exact fun _ nothing => nomatch nothing
  | cons item rest ih =>
      simp only [readAll, Option.bind_eq_bind, Option.bind_eq_some_iff] at found
      rcases found with ⟨first, here, others, there, same⟩
      cases same
      intro value member
      rcases List.mem_cons.1 member with rfl | later
      · exact holds here
      · exact ih there value later

end LiveJobs.Json
