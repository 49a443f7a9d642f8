import LiveJobs.Json.Basic
import Mathlib.Data.String.Basic

/-!
# Canonical values

A payload is taken up in canonical form. That form is its own canonical form, so a payload that is
written and read again stays what it is: members that are in order are inserted one behind the
other.
-/

namespace LiveJobs.Json

/-- Whether members stand in the order of their names, each name once. -/
def Ascending (members : List (String × Json)) : Prop :=
  members.Pairwise fun left right => left.1 < right.1

variable {name : String} {value : Json} {members sorted : List (String × Json)}
variable {member : String × Json}

/-! ## Inserting members -/

theorem insertMember_last (below : ∀ member ∈ sorted, member.1 < name) :
    insertMember name value sorted = sorted ++ [(name, value)] := by
  induction sorted with
  | nil => rfl
  | cons first rest ih =>
      have after := below first List.mem_cons_self
      rw [insertMember, if_neg (lt_asymm after), if_neg (ne_of_gt after),
        ih fun member later => below member (List.mem_cons_of_mem first later)]
      rfl

theorem mem_insertMember (inserted : member ∈ insertMember name value members) :
    member = (name, value) ∨ member ∈ members := by
  induction members with
  | nil => exact .inl (List.mem_singleton.1 inserted)
  | cons first rest ih =>
      rw [insertMember] at inserted
      split at inserted
      · exact List.mem_cons.1 inserted
      · split at inserted
        · rcases List.mem_cons.1 inserted with new | later
          · exact .inl new
          · exact .inr (List.mem_cons_of_mem first later)
        · rcases List.mem_cons.1 inserted with rfl | later
          · exact .inr List.mem_cons_self
          · rcases ih later with new | old
            · exact .inl new
            · exact .inr (List.mem_cons_of_mem first old)

theorem ascending_insertMember (ascending : Ascending members) (name : String) (value : Json) :
    Ascending (insertMember name value members) := by
  induction members with
  | nil => exact List.pairwise_singleton _ _
  | cons first rest ih =>
      have split := List.pairwise_cons.1 ascending
      rw [insertMember]
      by_cases before : name < first.1
      · rw [if_pos before]
        refine List.pairwise_cons.2 ⟨?_, ascending⟩
        intro member later
        rcases List.mem_cons.1 later with rfl | behind
        · exact before
        · exact lt_trans before (split.1 member behind)
      · rw [if_neg before]
        by_cases same : name = first.1
        · rw [if_pos same]
          refine List.pairwise_cons.2 ⟨?_, split.2⟩
          rw [same]
          exact split.1
        · rw [if_neg same]
          refine List.pairwise_cons.2 ⟨?_, ih split.2⟩
          intro member later
          rcases mem_insertMember later with rfl | old
          · exact lt_of_le_of_ne (not_lt.1 before) (Ne.symm same)
          · exact split.1 member old

/-! ## The canonical form -/

/-- Members that are in order and canonical are their own canonical form. -/
theorem canonicalMembers_of_ascending (ascending : Ascending (sorted ++ members))
    (fixed : ∀ member ∈ members, member.2.canonical = member.2) :
    canonicalMembers members sorted = sorted ++ members := by
  induction members generalizing sorted with
  | nil => rw [canonicalMembers, List.append_nil]
  | cons first rest ih =>
      have below : ∀ member ∈ sorted, member.1 < first.1 := fun member earlier =>
        (List.pairwise_append.1 ascending).2.2 member earlier first List.mem_cons_self
      rw [canonicalMembers, fixed first List.mem_cons_self, insertMember_last below, ih]
      · rw [List.append_assoc]
        rfl
      · rw [List.append_assoc]
        exact ascending
      · exact fun member later => fixed member (List.mem_cons_of_mem first later)

mutual

theorem canonical_canonical (value : Json) : value.canonical.canonical = value.canonical :=
  match value with
  | .null => rfl
  | .bool _ => rfl
  | .int _ => rfl
  | .float _ => rfl
  | .str _ => rfl
  | .arr items => by
      rw [canonical, canonical, canonicalItems_canonicalItems items]
  | .obj members => by
      have ordered := ordered_canonicalMembers members [] .nil (fun _ nothing => nomatch nothing)
      rw [canonical, canonical, canonicalMembers_of_ascending ordered.1 ordered.2]
      rfl

theorem canonicalItems_canonicalItems (items : List Json) :
    canonicalItems (canonicalItems items) = canonicalItems items :=
  match items with
  | [] => rfl
  | item :: rest => by
      rw [canonicalItems, canonicalItems, canonical_canonical item,
        canonicalItems_canonicalItems rest]

/-- Inserting canonical forms keeps members in order and canonical. -/
theorem ordered_canonicalMembers (members sorted : List (String × Json))
    (ascending : Ascending sorted) (fixed : ∀ member ∈ sorted, member.2.canonical = member.2) :
    Ascending (canonicalMembers members sorted) ∧
      ∀ member ∈ canonicalMembers members sorted, member.2.canonical = member.2 :=
  match members with
  | [] => ⟨ascending, fixed⟩
  | (name, value) :: rest => by
      rw [canonicalMembers]
      apply ordered_canonicalMembers rest
      · exact ascending_insertMember ascending name value.canonical
      · intro member inserted
        rcases mem_insertMember inserted with rfl | old
        · exact canonical_canonical value
        · exact fixed member old

end

/-- Whether a value is a payload that says something: in canonical form, and not null. -/
def IsPayload (value : Json) : Prop := value.canonical = value ∧ value ≠ .null

theorem isPayload_canonical (filled : value ≠ .null) : value.canonical.IsPayload := by
  refine ⟨canonical_canonical value, ?_⟩
  cases value with
  | null => exact absurd rfl filled
  | bool truth => exact fun same => nomatch same
  | int whole => exact fun same => nomatch same
  | float double => exact fun same => nomatch same
  | str text => exact fun same => nomatch same
  | arr items => exact fun same => nomatch same
  | obj members => exact fun same => nomatch same

end LiveJobs.Json
