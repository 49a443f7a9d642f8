import LiveJobs.Http.Address
import Mathlib.Data.List.DropRight

/-!
# Places below an address

An address is read from its front, and a slash ends whatever part of it is being read. What is
written in front of a slash is therefore read without regard to what follows. The path that follows
is split into segments, and these are put on top of the segments in front of it. Only the two dotted
segments do not stay where they are written, and one of them takes the last level away, be it a
level of the address itself.
-/

namespace LiveJobs.Http.Address

open LiveJobs.Text

/-! ## Segments -/

theorem splitPath_eq_splitOnP (path : List Char) : splitPath path = path.splitOnP isSlash := by
  induction path with
  | nil => rfl
  | cons c rest ih =>
      rw [splitPath, ih, List.splitOnP_cons_eq_if_modifyHead]
      cases split : rest.splitOnP isSlash with
      | nil => exact absurd split (List.splitOnP_ne_nil _ _)
      | cons first others => rfl

theorem splitPath_ne_nil (path : List Char) : splitPath path ≠ [] := by
  rw [splitPath_eq_splitOnP]
  exact List.splitOnP_ne_nil _ _

theorem splitPath_append (front path : List Char) :
    splitPath (front ++ '/' :: path) = splitPath front ++ splitPath path := by
  simp only [splitPath_eq_splitOnP]
  exact List.splitOnP_append_cons _ _ rfl

theorem splitPath_of_free {path : List Char} (free : ∀ c ∈ path, isSlash c = false) :
    splitPath path = [path] := by
  rw [splitPath_eq_splitOnP]
  exact List.splitOnP_eq_singleton free

theorem segment_spec {path segment : List Char} (member : segment ∈ splitPath path) :
    segment.Sublist path ∧ ∀ c ∈ segment, isSlash c = false := by
  induction path generalizing segment with
  | nil =>
      cases List.mem_singleton.1 member
      simp
  | cons c rest ih =>
      rw [splitPath] at member
      cases split : splitPath rest with
      | nil => exact absurd split (splitPath_ne_nil rest)
      | cons first others =>
          rw [split] at member ih
          dsimp only at member
          split at member
          case isTrue =>
            rcases List.mem_cons.1 member with rfl | behind
            · simp
            · exact ⟨(ih behind).1.cons c, (ih behind).2⟩
          case isFalse other =>
            rcases List.mem_cons.1 member with rfl | behind
            · have inside := ih List.mem_cons_self
              refine ⟨inside.1.cons_cons c, ?_⟩
              rw [List.forall_mem_cons]
              exact ⟨eq_false_of_ne_true other, inside.2⟩
            · have inside := ih (List.mem_cons_of_mem _ behind)
              exact ⟨inside.1.cons c, inside.2⟩

/-- Whether a segment stands for its own or for the outer level. -/
def isDotted (segment : List Char) : Bool := isOuter segment || isSelf segment

/-- The levels on which a path goes on behind a segment. -/
def levelsAfter (levels : List (List Char)) (segment : List Char) : List (List Char) :=
  if isOuter segment then levels.drop 1
  else if isSelf segment then levels
  else segment :: levels

section Levels

variable {levels segments rest : List (List Char)} {segment : List Char}

theorem normalize_cons (more : rest ≠ []) :
    normalize levels (segment :: rest) = normalize (levelsAfter levels segment) rest := by
  rw [normalize, levelsAfter]
  · split
    · rfl
    · split <;> rfl
  · exact more

/-- Behind a segment no level is new, unless the segment itself is the last one. -/
theorem levelsAfter_cases (levels : List (List Char)) (segment : List Char) :
    (levelsAfter levels segment).reverse <+: levels.reverse ∨
      isDotted segment = false ∧ levelsAfter levels segment = segment :: levels := by
  rw [levelsAfter]
  by_cases outer : isOuter segment
  · rw [if_pos outer]
    exact .inl (List.reverse_prefix.2 (List.drop_suffix 1 levels))
  by_cases self : isSelf segment
  · rw [if_neg outer, if_pos self]
    exact .inl List.prefix_rfl
  · rw [if_neg outer, if_neg self]
    exact .inr ⟨by simp [isDotted, outer, self], rfl⟩

/-- The last segment closes the path. If it is a dotted one the path ends in an empty segment. -/
theorem normalize_singleton_cases (levels : List (List Char)) (segment : List Char) :
    ∃ kept last, normalize levels [segment] = kept ++ [last] ∧ kept <+: levels.reverse ∧
      (last = [] ∨ last = segment ∧ isDotted segment = false) := by
  rw [normalize]
  by_cases outer : isOuter segment
  · rw [if_pos outer, List.reverse_cons]
    exact ⟨_, _, rfl, List.reverse_prefix.2 (List.drop_suffix 1 levels), .inl rfl⟩
  by_cases self : isSelf segment
  · rw [if_neg outer, if_pos self, List.reverse_cons]
    exact ⟨_, _, rfl, List.prefix_rfl, .inl rfl⟩
  · rw [if_neg outer, if_neg self, List.reverse_cons]
    exact ⟨_, _, rfl, List.prefix_rfl, .inr ⟨rfl, by simp [isDotted, outer, self]⟩⟩

theorem normalize_of_undotted (undotted : ∀ segment ∈ segments, isDotted segment = false) :
    normalize levels segments = levels.reverse ++ segments := by
  induction segments generalizing levels with
  | nil => rw [normalize, List.append_nil]
  | cons segment rest ih =>
      obtain ⟨first, others⟩ := List.forall_mem_cons.1 undotted
      rw [isDotted, Bool.or_eq_false_iff] at first
      cases rest with
      | nil =>
          rw [normalize, first.1, first.2]
          exact List.reverse_cons
      | cons second more =>
          rw [normalize_cons (List.cons_ne_nil _ _), levelsAfter, first.1, first.2]
          simp only [Bool.false_eq_true, if_false]
          rw [ih others, List.reverse_cons, List.append_assoc]
          rfl

/-- The segments in front of others make levels on which the others are put. -/
theorem normalize_append (front : List (List Char)) (more : rest ≠ []) :
    normalize levels (front ++ rest) = normalize (front.foldl levelsAfter levels) rest := by
  induction front generalizing levels with
  | nil => rfl
  | cons segment front ih =>
      rw [List.cons_append, normalize_cons (List.append_ne_nil_of_right_ne_nil front more), ih]
      rfl

theorem mem_foldl_levelsAfter {level : List Char} {front : List (List Char)}
    (member : level ∈ front.foldl levelsAfter levels) : level ∈ levels ∨ level ∈ front := by
  induction front generalizing levels with
  | nil => exact .inl member
  | cons segment front ih =>
      rcases ih member with before | behind
      · rcases levelsAfter_cases levels segment with fewer | ⟨-, onTop⟩
        · have stays := fewer.subset (List.mem_reverse.2 before)
          exact .inl (List.mem_reverse.1 stays)
        · rw [onTop, List.mem_cons] at before
          rcases before with rfl | before
          · exact .inr List.mem_cons_self
          · exact .inl before
      · exact .inr (List.mem_cons_of_mem _ behind)

end Levels

/-- What becomes of segments on top of levels. Some of the levels stay, then come some of the
segments that are not the last one, none of them dotted, and then the last one, which is empty if it
is written as a dotted one. -/
structure Settles (levels segments kept middle : List (List Char)) (last : List Char) : Prop where
  normalized : normalize levels segments = kept ++ middle ++ [last]
  stays : kept <+: levels.reverse
  among : middle.Sublist segments.dropLast
  undotted : ∀ segment ∈ middle, isDotted segment = false
  ends : last = [] ∨ segments.getLast? = some last ∧ isDotted last = false

theorem exists_settles (levels : List (List Char)) {segments : List (List Char)}
    (filled : segments ≠ []) : ∃ kept middle last, Settles levels segments kept middle last := by
  induction segments generalizing levels with
  | nil => exact absurd rfl filled
  | cons segment rest ih =>
      by_cases alone : rest = []
      · subst alone
        obtain ⟨kept, last, normalized, stays, ends⟩ := normalize_singleton_cases levels segment
        refine ⟨kept, [], last, ?_, stays, .slnil, by simp, ends.imp_right ?_⟩
        · rw [normalized, List.append_nil]
        · rintro ⟨rfl, undotted⟩
          exact ⟨rfl, undotted⟩
      obtain ⟨kept, middle, last, settled⟩ := ih (levelsAfter levels segment) alone
      have normalized : normalize levels (segment :: rest) = kept ++ middle ++ [last] :=
        (normalize_cons alone).trans settled.normalized
      have ends : last = [] ∨ (segment :: rest).getLast? = some last ∧ isDotted last = false := by
        rw [List.getLast?_cons_of_ne_nil alone]
        exact settled.ends
      have early : (segment :: rest).dropLast = segment :: rest.dropLast :=
        List.dropLast_cons_of_ne_nil alone
      rcases levelsAfter_cases levels segment with fewer | ⟨undotted, onTop⟩
      · exact ⟨kept, middle, last, normalized, settled.stays.trans fewer,
          early ▸ settled.among.cons segment, settled.undotted, ends⟩
      have stays := settled.stays
      rw [onTop, List.reverse_cons, List.prefix_concat_iff] at stays
      rcases stays with rfl | stays
      · -- The segment itself has stayed.
        refine ⟨levels.reverse, segment :: middle, last, ?_, List.prefix_rfl,
          early ▸ settled.among.cons_cons segment, ?_, ends⟩
        · rw [normalized]
          simp
        · rw [List.forall_mem_cons]
          exact ⟨undotted, settled.undotted⟩
      · exact ⟨kept, middle, last, normalized, stays, early ▸ settled.among.cons segment,
          settled.undotted, ends⟩

theorem normalize_ne_nil (levels : List (List Char)) {segments : List (List Char)}
    (filled : segments ≠ []) : normalize levels segments ≠ [] := by
  obtain ⟨kept, middle, last, settled⟩ := exists_settles levels filled
  rw [settled.normalized]
  exact List.append_ne_nil_of_right_ne_nil _ (List.cons_ne_nil _ _)

/-- What is left is found among the levels and the segments, or is empty. -/
theorem mem_normalize {levels segments : List (List Char)} (filled : segments ≠ [])
    {segment : List Char} (member : segment ∈ normalize levels segments) :
    segment ∈ levels ∨ segment ∈ segments ∨ segment = [] := by
  obtain ⟨kept, middle, last, settled⟩ := exists_settles levels filled
  rw [settled.normalized, List.mem_append, List.mem_append, List.mem_singleton] at member
  rcases member with (stays | among) | rfl
  · exact .inl (List.mem_reverse.1 (settled.stays.subset stays))
  · exact .inr (.inl (List.dropLast_subset _ (settled.among.subset among)))
  · rcases settled.ends with empty | ⟨final, -⟩
    · exact .inr (.inr empty)
    · exact .inr (.inl (List.mem_of_getLast? final))

/-! ## What a slash ends -/

section Cuts

variable {p : Char → Bool} {c : Char} {front rest : List Char}

theorem dropWhile_append_cons (ends : p c = false) :
    (front ++ c :: rest).dropWhile p = front.dropWhile p ++ c :: rest := by
  rw [List.dropWhile_append]
  split
  next all =>
    rw [List.isEmpty_iff.1 all, List.dropWhile_cons_of_neg (by simp [ends]), List.nil_append]
  next => rfl

theorem takeWhile_append_cons (ends : p c = false) :
    (front ++ c :: rest).takeWhile p = front.takeWhile p := by
  rw [List.takeWhile_append]
  split
  next all =>
    rw [List.takeWhile_cons_of_neg (by simp [ends]), List.append_nil]
    exact ((List.takeWhile_prefix p).eq_of_length all).symm
  next => rfl

theorem rdropWhile_append_cons (ends : p c = false) :
    (front ++ c :: rest).rdropWhile p = front ++ c :: rest.rdropWhile p := by
  have reversed : (front ++ c :: rest).reverse = rest.reverse ++ c :: front.reverse := by simp
  rw [List.rdropWhile, List.rdropWhile, reversed, dropWhile_append_cons ends]
  simp

end Cuts

/-- The characters of a text that count inside an address. -/
def visible (text : List Char) : List Char := text.filter fun c => !invisible.contains c

/-- What an address keeps of the text in front of a slash. -/
def opening (front : List Char) : List Char := visible (front.dropWhile isMargin)

/-- What an address keeps of the text behind a slash. -/
def closing (rest : List Char) : List Char := visible (rest.rdropWhile isMargin)

theorem visible_append (front rest : List Char) :
    visible (front ++ '/' :: rest) = visible front ++ '/' :: visible rest := by
  rw [visible, List.filter_append, List.filter_cons_of_pos rfl]
  rfl

theorem visible_eq_self_iff {text : List Char} :
    visible text = text ↔ ∀ c ∈ text, c ∉ invisible := by
  simp [visible]

theorem closing_append (front rest : List Char) :
    closing (front ++ '/' :: rest) = visible front ++ '/' :: closing rest := by
  rw [closing, rdropWhile_append_cons rfl, visible_append]
  rfl

theorem clean_eq {text : String} {front rest : List Char}
    (written : text.toList = front ++ '/' :: rest) :
    clean text = opening front ++ '/' :: closing rest := by
  change visible ((text.toList.dropWhile isMargin).rdropWhile isMargin) = _
  rw [written, dropWhile_append_cons rfl, rdropWhile_append_cons rfl, visible_append]
  rfl

theorem takeWord?_append {word front rest : List Char} (free : '/' ∉ word) :
    takeWord? word (front ++ '/' :: rest) = (takeWord? word front).map (· ++ '/' :: rest) := by
  rw [takeWord?, takeWord?]
  rcases Nat.lt_or_ge front.length word.length with short | long
  · have without : (front.take word.length).map Char.toLower ≠ word := by
      intro same
      have shorter := congrArg List.length same
      rw [List.length_map, List.length_take] at shorter
      omega
    have differs : ((front ++ '/' :: rest).take word.length).map Char.toLower ≠ word := by
      intro same
      obtain ⟨more, length⟩ := Nat.exists_eq_add_of_lt short
      refine free (same ▸ ?_)
      rw [length, Nat.add_assoc, List.take_length_add_append, List.take_succ_cons, List.map_append]
      exact List.mem_append_right _ List.mem_cons_self
    rw [if_neg without, if_neg differs]
    rfl
  · rw [List.take_append_of_le_length long, List.drop_append_of_le_length long]
    split <;> rfl

theorem scheme?_append (front rest : List Char) :
    scheme? (front ++ '/' :: rest) =
      (scheme? front).map fun found => (found.1, found.2 ++ '/' :: rest) := by
  rw [scheme?, scheme?, takeWord?_append (by decide), takeWord?_append (by decide)]
  cases takeWord? "https:".toList front with
  | some behind => rfl
  | none =>
      cases takeWord? "http:".toList front with
      | some behind => rfl
      | none => rfl

/-- The part of a text that is a path. -/
def pathPart (text : List Char) : List Char := text.takeWhile fun c => c ≠ '?' && c ≠ '#'

/-- The part of a text that is a query, with its question mark. -/
def queryPart (text : List Char) : List Char := (text.takeWhile (· ≠ '#')).dropWhile (· ≠ '?')

/-- The segments of the path behind a slash. -/
def segmentsBelow (rest : List Char) : List (List Char) := splitPath (pathPart (closing rest))

theorem segmentsBelow_ne_nil (rest : List Char) : segmentsBelow rest ≠ [] := splitPath_ne_nil _

theorem pathPart_eq (text : List Char) :
    (text.takeWhile (· ≠ '#')).takeWhile (· ≠ '?') = pathPart text := by
  rw [List.takeWhile_takeWhile, pathPart]
  congr 1
  funext c
  simp

/-- A segment as it is sent. -/
def written (segment : List Char) : String :=
  percentEncode (isPlain escapedInPath) (String.ofList segment)

/-- Whether a text has neither query nor fragment. -/
def IsPath (text : List Char) : Prop := '?' ∉ text ∧ '#' ∉ text

instance : DecidablePred IsPath := fun text =>
  inferInstanceAs (Decidable ('?' ∉ text ∧ '#' ∉ text))

theorem isPath_append {front rest : List Char} :
    IsPath (front ++ '/' :: rest) ↔ IsPath front ∧ IsPath rest := by
  simp [IsPath]
  tauto

theorem IsPath.of_sublist {text part : List Char} (path : IsPath text) (sub : part.Sublist text) :
    IsPath part :=
  ⟨fun member => path.1 (sub.subset member), fun member => path.2 (sub.subset member)⟩

theorem IsPath.keeps {text : List Char} (path : IsPath text) :
    ∀ c ∈ text, (c ≠ '?' && c ≠ '#') = true := by
  intro c member
  simp only [Bool.and_eq_true, decide_eq_true_eq]
  exact ⟨fun same => path.1 (same ▸ member), fun same => path.2 (same ▸ member)⟩

theorem isPath_pathPart (text : List Char) : IsPath (pathPart text) := by
  constructor
  · intro mark
    exact absurd (List.mem_takeWhile_imp mark) (by decide)
  · intro hash
    exact absurd (List.mem_takeWhile_imp hash) (by decide)

theorem pathPart_of_isPath {text : List Char} (path : IsPath text) : pathPart text = text :=
  List.takeWhile_eq_self_iff.2 path.keeps

theorem pathPart_append {front : List Char} (path : IsPath front) (rest : List Char) :
    pathPart (front ++ '/' :: rest) = front ++ '/' :: pathPart rest := by
  rw [pathPart, List.takeWhile_append_of_pos path.keeps, List.takeWhile_cons_of_pos rfl]
  rfl

theorem pathPart_append_of_not {front : List Char} (query : ¬IsPath front) (rest : List Char) :
    pathPart (front ++ rest) = pathPart front := by
  rw [pathPart, List.takeWhile_append]
  split
  next all =>
    refine absurd ?_ query
    rw [← (List.takeWhile_prefix _).eq_of_length all]
    exact isPath_pathPart front
  next => rfl

theorem queryPart_append {front : List Char} (path : IsPath front) (rest : List Char) :
    queryPart (front ++ '/' :: rest) = queryPart rest := by
  have hashless : ∀ c ∈ front, decide (c ≠ '#') = true := fun c member =>
    decide_eq_true fun same => path.2 (same ▸ member)
  have markless : ∀ c ∈ front, decide (c ≠ '?') = true := fun c member =>
    decide_eq_true fun same => path.1 (same ▸ member)
  rw [queryPart, List.takeWhile_append_of_pos hashless, List.takeWhile_cons_of_pos rfl,
    List.dropWhile_append_of_pos markless, List.dropWhile_cons_of_pos rfl]
  rfl

theorem queryPart_of_isPath {text : List Char} (path : IsPath text) : queryPart text = [] := by
  rw [queryPart, List.dropWhile_eq_nil_iff]
  intro c member
  exact decide_eq_true fun same => path.1 (same ▸ (List.takeWhile_sublist _).subset member)

theorem IsPath.cleaned {front : List Char} (path : IsPath front) :
    IsPath (opening front) :=
  path.of_sublist (List.filter_sublist.trans (List.dropWhile_sublist _))

/-- The path of an address makes the levels on which a path behind it is put. -/
theorem exists_segmentsOf (front : List Char) (begins : front.head?.all isSlash) :
    ∃ levels : List (List Char), (∀ level ∈ levels, ∀ c ∈ level, isSlash c = false) ∧
      ∀ path, segmentsOf (front ++ '/' :: path) =
        (normalize levels (splitPath path)).map written := by
  cases front with
  | nil => exact ⟨[], by simp, fun path => rfl⟩
  | cons c behind =>
      have slash : isSlash c = true := begins
      refine ⟨(splitPath behind).foldl levelsAfter [], fun level member => ?_, fun path => ?_⟩
      · exact (segment_spec ((mem_foldl_levelsAfter member).resolve_left List.not_mem_nil)).2
      · rw [← normalize_append _ (splitPath_ne_nil path), ← splitPath_append, List.cons_append,
          segmentsOf]
        simp only [List.head?_cons, Option.any_some, slash, if_true, List.drop_one, List.tail_cons]
        rfl

section Reading

variable {text : String} {front behind rest : List Char} {secure : Bool}

theorem dropWhile_isSlash (behind rest : List Char) :
    (behind ++ '/' :: rest).dropWhile isSlash =
      if behind.dropWhile isSlash = [] then rest.dropWhile isSlash
      else behind.dropWhile isSlash ++ '/' :: rest := by
  rw [List.dropWhile_append, List.dropWhile_cons_of_pos rfl]
  simp only [List.isEmpty_iff]

theorem scheme?_sublist (found : scheme? front = some (secure, behind)) : behind.Sublist front := by
  have taken {word rest : List Char} (found : takeWord? word front = some rest) :
      rest.Sublist front := by
    rw [takeWord?] at found
    split at found
    · cases found
      exact List.drop_sublist _ _
    · cases found
  rw [scheme?] at found
  split at found
  next same =>
    cases found
    exact taken same
  next =>
    obtain ⟨rest, same, found⟩ := Option.map_eq_some_iff.1 found
    cases found
    exact taken same

theorem IsPath.afterHost (path : IsPath front)
    (schemed : scheme? (opening front) = some (secure, behind)) :
    IsPath ((behind.dropWhile isSlash).dropWhile fun c => !endsAuthority c) :=
  path.cleaned.of_sublist ((List.dropWhile_sublist _).trans
    ((List.dropWhile_sublist _).trans (scheme?_sublist schemed)))

/-- What is left of an authority with a path begins with a slash. -/
theorem head?_behind_authority {text : List Char}
    (path : IsPath (text.dropWhile fun c => !endsAuthority c)) :
    (text.dropWhile fun c => !endsAuthority c).head?.all isSlash := by
  have ends := List.head?_dropWhile_not (fun c => !endsAuthority c) text
  cases remains : text.dropWhile fun c => !endsAuthority c with
  | nil => rfl
  | cons c rest =>
      rw [remains] at ends path
      have kept := path.keeps c List.mem_cons_self
      simp only [List.head?_cons, Bool.not_eq_false', endsAuthority, Bool.or_eq_true] at ends
      simp only [Bool.and_eq_true, decide_eq_true_eq] at kept ends
      simp [ends.resolve_right kept.2 |>.resolve_right kept.1]

/-- Without a host in front of the slash nothing is found behind it. -/
theorem read?_of_hostless (written : text.toList = front ++ ['/'])
    (schemed : scheme? (opening front) = some (secure, behind))
    (hostless : behind.dropWhile isSlash = []) : read? text = none := by
  rw [read?, clean_eq written, scheme?_append, schemed]
  change (authority? (((behind ++ '/' :: closing []).dropWhile isSlash).takeWhile _)).bind _ = none
  rw [dropWhile_isSlash, if_pos hostless]
  rfl

/-- With a host in front of the slash, what is behind the slash counts for the path and the query
only. -/
theorem read?_of_host (path : IsPath front) (written : text.toList = front ++ '/' :: rest)
    (schemed : scheme? (opening front) = some (secure, behind))
    (host : behind.dropWhile isSlash ≠ []) :
    read? text = (authority? ((behind.dropWhile isSlash).takeWhile fun c => !endsAuthority c)).map
      fun authority => ⟨secure, authority,
        segmentsOf (((behind.dropWhile isSlash).dropWhile fun c => !endsAuthority c) ++
          '/' :: pathPart (closing rest)), queryOf (queryPart (closing rest))⟩ := by
  rw [read?, clean_eq written, scheme?_append, schemed]
  change (authority? (((behind ++ '/' :: closing rest).dropWhile isSlash).takeWhile _)).bind _ = _
  have ends : (!endsAuthority '/') = false := rfl
  have plain := path.afterHost schemed
  rw [dropWhile_isSlash, if_neg host,
    takeWhile_append_cons (p := fun c => !endsAuthority c) ends,
    dropWhile_append_cons (p := fun c => !endsAuthority c) ends, Option.map_eq_bind]
  congr 1
  funext authority
  dsimp only
  rw [pathPart_eq, pathPart_append plain, ← queryPart_append plain (closing rest)]
  rfl

/-- If an address can be asked for its root, it can be asked for every place below the root. Its
own path makes the levels on which the path of the place is put. -/
theorem exists_levels {base : String} {root : Address} (path : IsPath base.toList)
    (read : read? (base ++ "/") = some root) :
    ∃ levels : List (List Char), (∀ level ∈ levels, ∀ c ∈ level, isSlash c = false) ∧
      ∀ text rest, String.toList text = base.toList ++ '/' :: rest → read? text = some { root with
        segments := (normalize levels (segmentsBelow rest)).map Address.written
        query := queryOf (queryPart (closing rest)) } := by
  have slashed : (base ++ "/").toList = base.toList ++ ['/'] := String.toList_append
  cases schemed : scheme? (opening base.toList) with
  | none =>
      rw [read?, clean_eq slashed, scheme?_append, schemed] at read
      cases read
  | some found =>
      obtain ⟨secure, behind⟩ := found
      by_cases hostless : behind.dropWhile isSlash = []
      · rw [read?_of_hostless slashed schemed hostless] at read
        cases read
      have begins := head?_behind_authority (path.afterHost schemed)
      obtain ⟨levels, slashFree, segments⟩ := exists_segmentsOf _ begins
      refine ⟨levels, slashFree, fun text rest written => ?_⟩
      rw [read?_of_host path slashed schemed hostless] at read
      obtain ⟨authority, named, rfl⟩ := Option.map_eq_some_iff.1 read
      rw [read?_of_host path written schemed hostless, named, segments, Option.map_some]
      rfl

end Reading

end LiveJobs.Http.Address
