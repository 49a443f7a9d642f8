import LiveJobs.Http.Request
import LiveJobs.Proofs.PathSegments
import LiveJobs.Proofs.PercentDecoding

/-!
# Names along a target

What a service sees of the target of a request: the path is cut at its slashes, and each segment is
decoded to a name. The path of an address comes out as the segments that were put together, whatever
bytes they are made of, since nothing that is sent for a segment has a meaning in an address. So
below the root of a service a target shows the names of the levels of the root, and then those of
the place that is asked for.
-/

namespace LiveJobs.Http

open LiveJobs.Text Address

/-! ## Names -/

/-- What a segment of a path says. -/
def nameOf (segment : List Char) : List UInt8 :=
  percentDecodeBytes (encodeUtf8 (String.ofList segment))

/-- The names along a path. -/
def names (path : List Char) : List (List UInt8) := (path.splitOn '/').map nameOf

/-- The names along the path of a target. -/
def namesAlong (target : String) : List (List UInt8) := names (pathPart target.toList)

/-- Whether a target is a path along some names, with neither query nor fragment. -/
def LeadsTo (target : String) (along : List (List UInt8)) : Prop :=
  IsPath target.toList ∧ namesAlong target = along

theorem nameOf_toList (text : String) :
    nameOf text.toList = percentDecodeBytes (encodeUtf8 text) := by
  rw [nameOf, String.ofList_toList]

theorem nameOf_of_unescaped {text : String} (unescaped : ¬HasEscape (encodeUtf8 text)) :
    nameOf text.toList = encodeUtf8 text := by
  rw [nameOf_toList, percentDecodeBytes_eq_self unescaped]

theorem nameOf_word (word : String) (plain : '%' ∉ word.toList) :
    nameOf word.toList = encodeUtf8 word :=
  nameOf_of_unescaped (not_hasEscape_of_not_mem plain)

theorem nameOf_nil : nameOf [] = [] := by
  rw [nameOf, encodeUtf8_eq_flatMap, String.toList_ofList, List.flatMap_nil, percentDecodeBytes]

theorem names_append (front rest : List Char) :
    names (front ++ '/' :: rest) = names front ++ names rest := by
  rw [names, List.splitOn_append_cons_self, List.map_append]
  rfl

theorem names_of_slashless {segment : List Char} (slashless : '/' ∉ segment) :
    names segment = [nameOf segment] := by
  rw [names, List.splitOn_eq_singleton slashless, List.map_singleton]

theorem names_nil : names [] = [[]] := by
  rw [names_of_slashless List.not_mem_nil, nameOf_nil]

theorem length_names_pos (path : List Char) : 0 < (names path).length := by
  rw [names, List.length_map]
  exact List.length_pos_of_ne_nil (List.splitOn_ne_nil '/' path)

/-- Every character is at least a byte. -/
theorem length_le_of_sublist {part text : List Char} (sub : part.Sublist text) :
    (part.flatMap String.utf8EncodeChar).length + (text.length - part.length) ≤
      (text.flatMap String.utf8EncodeChar).length := by
  induction sub with
  | slnil => simp
  | @cons part text c sub ih =>
      have filled : 0 < (String.utf8EncodeChar c).length :=
        List.length_pos_of_ne_nil String.utf8EncodeChar_ne_nil
      rw [List.flatMap_cons, List.length_append, List.length_cons]
      omega
  | cons_cons c sub ih =>
      simp only [List.flatMap_cons, List.length_append, List.length_cons]
      omega

/-- A part of a text says the same as the text only if it is the whole text, without escapes. -/
theorem whole_of_nameOf_eq {part : List Char} {text : String} (sub : part.Sublist text.toList)
    (same : nameOf part = encodeUtf8 text) :
    part = text.toList ∧ ¬HasEscape (encodeUtf8 text) := by
  have shorter := length_percentDecodeBytes_le (encodeUtf8 (String.ofList part))
  have lengths : (percentDecodeBytes (encodeUtf8 (String.ofList part))).length =
      (encodeUtf8 text).length := congrArg List.length same
  have missing := length_le_of_sublist sub
  have whole : part = text.toList := by
    refine sub.eq_of_length_le ?_
    rw [encodeUtf8_eq_flatMap (String.ofList part), String.toList_ofList] at shorter lengths
    rw [encodeUtf8_eq_flatMap text] at lengths
    omega
  rw [whole, nameOf_toList] at same
  exact ⟨whole, not_hasEscape_of_length_le (Nat.le_of_eq (congrArg List.length same.symm))⟩

/-- A text is the one name along itself exactly if it has no slash and no escape. -/
theorem names_eq_singleton_iff (text : String) :
    names text.toList = [encodeUtf8 text] ↔
      '/' ∉ text.toList ∧ ¬HasEscape (encodeUtf8 text) := by
  constructor
  · intro alone
    have slashless : '/' ∉ text.toList := by
      intro slash
      obtain ⟨front, rest, split⟩ := List.append_of_mem slash
      have lengths := congrArg List.length alone
      have first := length_names_pos front
      have second := length_names_pos rest
      rw [split, names_append, List.length_append, List.length_singleton] at lengths
      omega
    rw [names_of_slashless slashless] at alone
    have named := List.singleton_injective alone
    exact ⟨slashless, (whole_of_nameOf_eq (List.Sublist.refl _) named).2⟩
  · rintro ⟨slashless, unescaped⟩
    rw [names_of_slashless slashless, nameOf_of_unescaped unescaped]

theorem leadsTo_iff {target : String} {along : List (List UInt8)} :
    LeadsTo target along ↔ IsPath target.toList ∧ names target.toList = along := by
  refine and_congr_right fun path => ?_
  rw [namesAlong, pathPart_of_isPath path]

/-! ## Names of segments -/

section Segments

variable {levels segments : List (List Char)}

/-- The last name is what the last segment says. -/
theorem exists_last_of_names {front : List (List UInt8)} {name : List UInt8}
    (filled : segments ≠ [])
    (named : (normalize levels segments).map nameOf = front ++ [name]) :
    ∃ last, nameOf last = name ∧
      (last = [] ∨ segments.getLast? = some last ∧ isDotted last = false) := by
  obtain ⟨kept, middle, last, settled⟩ := exists_settles levels filled
  rw [settled.normalized, List.map_append, List.map_singleton] at named
  exact ⟨last, List.singleton_injective (List.append_inj_right' named rfl), settled.ends⟩

/-- Where three names follow those of all levels, the second of them is what a segment says that is
neither the first nor the last: levels may be gone, and then segments say their names. -/
theorem exists_middle_of_names {first second third : List UInt8} (filled : segments ≠ [])
    (named : (normalize levels segments).map nameOf =
      levels.reverse.map nameOf ++ [first, second, third]) :
    ∃ segment ∈ segments.dropLast.tail, nameOf segment = second ∧ isDotted segment = false := by
  obtain ⟨kept, middle, last, settled⟩ := exists_settles levels filled
  obtain ⟨gone, split⟩ := settled.stays
  have middleNamed : middle.map nameOf = (gone.map nameOf ++ [first]) ++ [second] := by
    have grouped : [first, second, third] = [first, second] ++ [third] := rfl
    rw [settled.normalized, ← split, List.map_append, List.map_append, List.map_append,
      List.append_assoc, List.append_assoc, List.append_right_inj, grouped, ← List.append_assoc,
      List.map_singleton] at named
    rw [List.append_inj_left' named rfl, List.append_assoc]
    rfl
  obtain ⟨front, behind, rfl, frontNamed, behindNamed⟩ := List.map_eq_append_iff.1 middleNamed
  obtain ⟨segment, rfl, same⟩ := List.map_eq_singleton_iff.1 behindNamed
  -- The first name is said in front of the segment.
  have preceded : front ≠ [] := by
    rintro rfl
    simp at frontNamed
  obtain ⟨start, others, rfl⟩ := List.exists_cons_of_ne_nil preceded
  have behindStart : segment ∈ (start :: others ++ [segment]).tail :=
    List.mem_append_right others List.mem_cons_self
  exact ⟨segment, settled.among.tail.subset behindStart, same,
    settled.undotted segment (List.mem_append_right _ List.mem_cons_self)⟩

end Segments

/-! ## Addresses as they are sent -/

theorem keepsEscapes_inPath : KeepsEscapes (isPlain escapedInPath) where
  ascii byte kept := by
    simp only [isPlain, Bool.and_eq_true, decide_eq_true_eq] at kept
    exact UInt8.lt_trans kept.1.2 (by decide)
  percent := by decide
  hex byte digit := by
    have every : ∀ number < 256, (hexValue? (Char.ofNat number)).isSome →
        isPlain escapedInPath (UInt8.ofNat number) := by decide +kernel
    have plain := every byte.toNat byte.toNat_lt digit
    rwa [UInt8.ofNat_toNat] at plain

theorem nameOf_written (segment : List Char) :
    nameOf (written segment).toList = nameOf segment := by
  rw [nameOf, String.ofList_toList, written, percentDecodeBytes_percentEncode keepsEscapes_inPath]
  rfl

/-- Nothing in a segment as it is sent has a meaning in an address. -/
theorem written_spec {segment : List Char} (slashless : ∀ c ∈ segment, isSlash c = false) :
    '/' ∉ (written segment).toList ∧ IsPath (written segment).toList := by
  have stays {c : Char} (member : c ∈ (written segment).toList) (notPercent : c ≠ '%')
      (notHex : hexValue? c = none) :
      c ∈ segment ∧ isPlain escapedInPath (UInt8.ofNat c.toNat) := by
    have found := mem_of_mem_percentEncode keepsEscapes_inPath member notPercent notHex
    rwa [String.toList_ofList] at found
  refine ⟨fun slash => ?_, fun mark => ?_, fun hash => ?_⟩
  · exact absurd (slashless _ (stays slash (by decide) (by decide)).1) (by decide)
  · exact absurd (stays mark (by decide) (by decide)).2 (by decide)
  · exact absurd (stays hash (by decide) (by decide)).2 (by decide)

/-- Segments that are sent with slashes between them are found again. -/
theorem intercalate_written_spec {segments : List (List Char)} (filled : segments ≠ [])
    (slashless : ∀ segment ∈ segments, ∀ c ∈ segment, isSlash c = false) :
    IsPath (['/'].intercalate (segments.map fun segment => (written segment).toList)) ∧
      names (['/'].intercalate (segments.map fun segment => (written segment).toList)) =
        segments.map nameOf := by
  induction segments with
  | nil => exact absurd rfl filled
  | cons segment rest ih =>
      obtain ⟨first, others⟩ := List.forall_mem_cons.1 slashless
      obtain ⟨whole, path⟩ := written_spec first
      have named := names_of_slashless whole
      rw [nameOf_written] at named
      cases rest with
      | nil =>
          rw [List.map_singleton, List.intercalate_singleton, named]
          exact ⟨path, rfl⟩
      | cons second more =>
          obtain ⟨pathToo, namedToo⟩ := ih (List.cons_ne_nil _ _) others
          rw [List.map_cons, List.intercalate_cons_of_ne_nil (by simp), List.append_assoc,
            List.singleton_append, isPath_append, names_append, named, namedToo]
          exact ⟨⟨path, pathToo⟩, rfl⟩

theorem toList_path (address : Address) :
    address.path.toList = [] ++ '/' :: ['/'].intercalate (address.segments.map String.toList) := by
  rw [Address.path, String.toList_append, String.toList_intercalate]
  rfl

/-- The path of an address as it is sent, read again. -/
theorem path_spec {address : Address} {segments : List (List Char)}
    (sent : address.segments = segments.map written) (filled : segments ≠ [])
    (slashless : ∀ segment ∈ segments, ∀ c ∈ segment, isSlash c = false) :
    IsPath address.path.toList ∧ names address.path.toList = [] :: segments.map nameOf := by
  obtain ⟨path, named⟩ := intercalate_written_spec filled slashless
  have start : IsPath [] := by decide
  rw [toList_path, sent, List.map_map, isPath_append, names_append, names_nil]
  exact ⟨⟨start, path⟩, congrArg ([[]] ++ ·) named⟩

/-- The target of an address shows the names along its path. It is a path and nothing else if there
is no query in the address and none is added. -/
theorem target_spec (address : Address) (parameters : List (String × String))
    {segments : List (List Char)} (sent : address.segments = segments.map written)
    (filled : segments ≠ [])
    (slashless : ∀ segment ∈ segments, ∀ c ∈ segment, isSlash c = false) :
    namesAlong (address.withParameters parameters).target = [] :: segments.map nameOf ∧
      (parameters = [] → address.query = none →
        IsPath (address.withParameters parameters).target.toList) := by
  obtain ⟨path, named⟩ := path_spec sent filled slashless
  have same : (address.withParameters parameters).path = address.path := rfl
  rw [Address.target, same]
  refine ⟨?_, fun bare none => ?_⟩
  · split
    next => rw [namesAlong, pathPart_of_isPath path, named]
    next query asked =>
      have mark : (address.path ++ "?" ++ query).toList =
          address.path.toList ++ '?' :: query.toList := by
        simp
      rw [namesAlong, mark, pathPart, takeWhile_append_cons rfl]
      change names (pathPart address.path.toList) = _
      rw [pathPart_of_isPath path, named]
  · rw [bare, Address.withParameters, none]
    exact path

/-- A request that is made has an address that is read, and headers that may be sent. -/
theorem exists_of_requestTo? {settings : Settings} {method place body : String}
    {parameters headers : List (String × String)} {request : Request}
    (made : requestTo? settings method place parameters headers body = some request) :
    ∃ address, read? (settings.baseUrl ++ place) = some address ∧
      ((commonHeaders settings ++ headers).all fun header => isHeaderText header.2) ∧
      request.target = (address.withParameters parameters).target := by
  rw [requestTo?, Option.bind_eq_bind, Option.bind_eq_some_iff] at made
  obtain ⟨address, read, made⟩ := made
  obtain ⟨allowed, same⟩ := Option.ite_none_right_eq_some.1 made
  exact ⟨address, read, allowed, congrArg Request.target (Option.some.inj same).symm⟩

/-- Where requests lead whose place is written behind the address of a service: the levels of the
address are in front of the segments of the place. -/
structure IsBasedOn (settings : Settings) (levels : List (List Char)) : Prop where
  answers : ∀ {method place rest parameters headers body}, String.toList place = '/' :: rest →
    (headers.all fun header => isHeaderText header.2) →
    ∃ request, requestTo? settings method place parameters headers body = some request
  names : ∀ {method place rest parameters headers body request},
    String.toList place = '/' :: rest →
    requestTo? settings method place parameters headers body = some request →
    namesAlong request.target = [] :: (normalize levels (segmentsBelow rest)).map nameOf
  path : ∀ {method place rest headers body request}, String.toList place = '/' :: rest →
    requestTo? settings method place [] headers body = some request → IsPath (closing rest) →
    IsPath request.target.toList

/-- A service that can be asked for its root can be asked for every place below the root. -/
theorem exists_isBasedOn {settings : Settings} {root : Request}
    (path : IsPath settings.baseUrl.toList)
    (made : requestTo? settings "GET" "/" [] [] "" = some root) :
    ∃ levels, IsBasedOn settings levels := by
  obtain ⟨base, readBase, allowed, -⟩ := exists_of_requestTo? made
  rw [List.append_nil] at allowed
  obtain ⟨levels, slashless, below⟩ := exists_levels path readBase
  have located {place : String} {rest : List Char} (placed : place.toList = '/' :: rest) :=
    below (settings.baseUrl ++ place) rest (by rw [String.toList_append, placed])
  have segmentsFree (rest : List Char) : ∀ segment ∈ normalize levels (segmentsBelow rest),
      ∀ c ∈ segment, isSlash c = false := by
    intro segment member
    rcases mem_normalize (segmentsBelow_ne_nil rest) member with level | among | rfl
    · exact slashless segment level
    · exact (segment_spec among).2
    · exact fun c member => absurd member List.not_mem_nil
  have spec {place : String} {rest : List Char} (placed : place.toList = '/' :: rest)
      {address : Address} (read : read? (settings.baseUrl ++ place) = some address)
      (parameters : List (String × String)) :
      namesAlong (address.withParameters parameters).target =
          [] :: (normalize levels (segmentsBelow rest)).map nameOf ∧
        (parameters = [] → IsPath (closing rest) →
          IsPath (address.withParameters parameters).target.toList) := by
    have same := Option.some.inj ((located placed).symm.trans read)
    obtain ⟨named, bare⟩ := target_spec address parameters
      (congrArg Address.segments same.symm)
      (normalize_ne_nil levels (segmentsBelow_ne_nil rest)) (segmentsFree rest)
    refine ⟨named, fun none path => bare none ?_⟩
    rw [← same, queryPart_of_isPath path]
    rfl
  refine ⟨levels, ?answers, ?names, ?path⟩
  case answers =>
    intro method place rest parameters headers body placed allowedToo
    rw [requestTo?, located placed]
    refine ⟨_, if_pos ?_⟩
    rw [List.all_append, allowed, allowedToo]
    rfl
  case names =>
    intro method place rest parameters headers body request placed made
    obtain ⟨address, read, -, target⟩ := exists_of_requestTo? made
    rw [target]
    exact (spec placed read parameters).1
  case path =>
    intro method place rest headers body request placed made
    obtain ⟨address, read, -, target⟩ := exists_of_requestTo? made
    rw [target]
    exact (spec placed read []).2 rfl

/-- The root itself shows the names of the levels. -/
theorem IsBasedOn.names_root {settings : Settings} {levels : List (List Char)} {root : Request}
    (based : IsBasedOn settings levels)
    (made : requestTo? settings "GET" "/" [] [] "" = some root) :
    namesAlong root.target = ([] :: levels.reverse.map nameOf) ++ [[]] := by
  have undotted : ∀ segment ∈ [([] : List Char)], isDotted segment = false := by decide
  have empty : segmentsBelow [] = [[]] := by decide
  rw [based.names (rfl : "/".toList = '/' :: []) made, empty, normalize_of_undotted undotted,
    List.map_append, List.map_singleton, nameOf_nil]
  rfl

end LiveJobs.Http
