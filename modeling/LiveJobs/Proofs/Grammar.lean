import LiveJobs.Proofs.Chunks

/-!
# The grammar of a stream

What a stream says can be read off its whole text. The text is cut at newlines, and its lines are
grouped at the empty ones. Each group makes one frame, which looks at its own lines only: the last
line about an identifier, an event or a delay counts, and all lines about data count together. The
decoder, which has seen a part of the text at any time and keeps one draft, brings just these
frames.
-/

namespace LiveJobs

open LiveJobs.Text

/-! ## Reading a whole text -/

namespace Reading

/-- The parts of a list that are closed by a separator. What is behind the last one is not. -/
def closedParts {α : Type} [BEq α] (separator : α) (list : List α) : List (List α) :=
  (list.splitOn separator).dropLast

/-- The complete lines of a text, without carriage returns at their ends. -/
def lines (bytes : List UInt8) : List (List Char) :=
  (closedParts LineDecoder.newline bytes).map fun line =>
    (decodeLossy line).rdropWhile (· = '\r')

/-- The field that a line is about: what is before its first colon. -/
def name (line : List Char) : String := String.ofList (line.takeWhile (· ≠ ':'))

/-- A text less one space at its head. -/
def unspaced : List Char → List Char
  | ' ' :: rest => rest
  | text => text

/-- The value of a line: what is behind its first colon, less one space. -/
def value (line : List Char) : String :=
  String.ofList (unspaced (line.dropWhile (· ≠ ':')).tail)

/-- The values of the lines about a field. -/
def values (field : String) (group : List (List Char)) : List String :=
  (group.filter fun line => name line = field).map value

/-- The number of 64 bits that a text stands for, blanks at its ends aside. -/
def number? (text : String) : Option Nat :=
  (readUnsigned maxWord64 (trim text).toList).toOption

/-- The frame of a group of lines. Comments and unknown fields count for nothing, as their names
are none of these. -/
def frame (group : List (List Char)) : Frame where
  id := (values "id" group).getLast?
  event := (values "event" group).getLast?
  data := "\n".intercalate (values "data" group)
  retry := (values "retry" group).getLast?.bind number?

/-- The frames of a text: one for each group of lines that an empty line closes, less those that say
nothing. -/
def frames (bytes : List UInt8) : List Frame :=
  ((closedParts [] (lines bytes)).map frame).filter fun frame => frame ≠ ⟨none, none, "", none⟩

/-! ## Parts of a list -/

section Parts

variable {α : Type} [BEq α] [LawfulBEq α] {separator : α} {part : List α}

theorem closedParts_of_not_mem (free : separator ∉ part) : closedParts separator part = [] := by
  rw [closedParts, List.splitOn_eq_singleton free]
  rfl

theorem closedParts_append_cons (free : separator ∉ part) (rest : List α) :
    closedParts separator (part ++ separator :: rest) = part :: closedParts separator rest := by
  rw [closedParts, List.splitOn_append_cons_self_of_not_mem free,
    List.dropLast_cons_of_ne_nil (List.splitOn_ne_nil _ _)]
  rfl

end Parts

theorem lines_of_not_mem {bytes : List UInt8} (free : LineDecoder.newline ∉ bytes) :
    lines bytes = [] := by
  rw [lines, closedParts_of_not_mem free]
  rfl

theorem lines_append_cons {bytes : List UInt8} (free : LineDecoder.newline ∉ bytes)
    (rest : List UInt8) :
    lines (bytes ++ LineDecoder.newline :: rest) = lineText bytes :: lines rest := by
  rw [lines, closedParts_append_cons free]
  rfl

end Reading

/-! ## What lines make of a draft -/

theorem Frame.isBlank_iff (frame : Frame) :
    frame.isBlank = true ↔ frame = ⟨none, none, "", none⟩ := by
  obtain ⟨id, event, data, retry⟩ := frame
  simp [isBlank, and_assoc]

namespace Draft

variable (draft : Draft) (line : List Char) (group : List (List Char))

theorem name_eq_iff (field : String) :
    Reading.name line = field ↔ fieldName line = field.toList := by
  rw [fieldName_eq, Reading.name, ← String.toList_inj, String.toList_ofList]

theorem value_eq : Reading.value line = String.ofList (splitLine line).2 := by
  rw [Reading.value, splitLine]
  cases line.dropWhile (· ≠ ':') with
  | nil => rfl
  | cons colon rest =>
      cases rest with
      | nil => rfl
      | cons first rest =>
          by_cases space : first = ' '
          · subst space
            rfl
          · simp [Reading.unspaced, space]

/-- What a line makes of a draft, in the terms of the reading. -/
theorem takeLine_eq_of_name :
    draft.takeLine line =
      if Reading.name line = "id" then { draft with id := some (Reading.value line) }
      else if Reading.name line = "event" then { draft with event := some (Reading.value line) }
      else if Reading.name line = "data" then
        { draft with data := some (appendData (Reading.value line) draft.data) }
      else if Reading.name line = "retry" then
        { draft with retry := Reading.number? (Reading.value line) }
      else draft := by
  simp only [name_eq_iff, value_eq, Reading.number?, trim, String.toList_ofList]
  exact takeLine_eq draft line

/-- A part of a draft that only the lines about one field change is settled by their values. -/
theorem part_foldl_takeLine {α : Type} (part : Draft → α) (field : String)
    (update : α → String → α)
    (step : ∀ draft line, part (takeLine draft line) =
      if Reading.name line = field then update (part draft) (Reading.value line)
      else part draft) :
    part (group.foldl takeLine draft) = (Reading.values field group).foldl update (part draft) := by
  induction group generalizing draft with
  | nil => rfl
  | cons line rest ih =>
      rw [List.foldl_cons, ih, step, Reading.values]
      by_cases named : Reading.name line = field
      · simp [Reading.values, named]
      · simp [Reading.values, named]

/-- If each value replaces the one before, the last one counts. -/
theorem foldl_replace {α : Type} (read : String → Option α) (values : List String) :
    values.foldl (fun _ value => read value) none = values.getLast?.bind read := by
  induction values using List.reverseRecOn with
  | nil => rfl
  | append_singleton before last _ => simp

/-- A part of a draft that each line about a field writes anew is what the last of them says. -/
theorem last_foldl_takeLine {α : Type} (part : Draft → Option α) (field : String)
    (read : String → Option α) (fresh : part empty = none)
    (step : ∀ draft line, part (takeLine draft line) =
      if Reading.name line = field then read (Reading.value line) else part draft) :
    part (group.foldl takeLine empty) = (Reading.values field group).getLast?.bind read := by
  rw [part_foldl_takeLine empty group part field (fun _ value => read value) step, fresh,
    foldl_replace]

/-- Values that are appended one after the other are joined by newlines. -/
theorem foldl_appendData (values : List String) :
    values.foldl (fun data value => some (appendData value data)) none =
      if values = [] then none else some ("\n".intercalate values) := by
  induction values using List.reverseRecOn with
  | nil => rfl
  | append_singleton before last ih =>
      rw [List.foldl_append, ih]
      by_cases first : before = []
      · simp [first, appendData]
      · rw [if_neg first, if_neg (by simp), String.intercalate_append_of_ne_nil first (by simp)]
        simp [appendData]

theorem id_foldl_takeLine :
    (group.foldl takeLine empty).id = (Reading.values "id" group).getLast? := by
  apply (last_foldl_takeLine group Draft.id "id" some rfl ?_).trans (Option.bind_fun_some _)
  intro draft line
  rw [takeLine_eq_of_name]
  grind

theorem event_foldl_takeLine :
    (group.foldl takeLine empty).event = (Reading.values "event" group).getLast? := by
  apply (last_foldl_takeLine group Draft.event "event" some rfl ?_).trans (Option.bind_fun_some _)
  intro draft line
  rw [takeLine_eq_of_name]
  grind

theorem retry_foldl_takeLine :
    (group.foldl takeLine empty).retry =
      (Reading.values "retry" group).getLast?.bind Reading.number? := by
  apply last_foldl_takeLine group Draft.retry "retry" Reading.number? rfl
  intro draft line
  rw [takeLine_eq_of_name]
  grind

theorem data_foldl_takeLine :
    (group.foldl takeLine empty).data.getD "" =
      "\n".intercalate (Reading.values "data" group) := by
  rw [part_foldl_takeLine empty group Draft.data "data" fun data value =>
    some (appendData value data)]
  · rw [empty, foldl_appendData]
    split
    next none => rw [none, String.intercalate_nil, Option.getD_none]
    next => rfl
  · intro draft line
    rw [takeLine_eq_of_name]
    grind

/-- The lines of a group make its frame, unless that says nothing. -/
theorem close?_foldl_takeLine :
    (group.foldl takeLine empty).close?.toList =
      [Reading.frame group].filter fun frame => frame ≠ ⟨none, none, "", none⟩ := by
  simp only [close?, id_foldl_takeLine, event_foldl_takeLine, data_foldl_takeLine,
    retry_foldl_takeLine]
  change (if (Reading.frame group).isBlank then none else some (Reading.frame group)).toList = _
  by_cases blank : Reading.frame group = ⟨none, none, "", none⟩
  · rw [if_pos ((Frame.isBlank_iff _).2 blank), blank]
    rfl
  · rw [if_neg (mt (Frame.isBlank_iff _).1 blank)]
    simp [blank]

/-! ## What a draft makes of lines -/

/-- The frames of complete lines: an empty one closes the draft, and the next one starts afresh. -/
def frames (draft : Draft) : List (List Char) → List Frame
  | [] => []
  | [] :: rest => draft.close?.toList ++ frames empty rest
  | line :: rest => frames (draft.takeLine line) rest

theorem frames_of_not_mem (free : [] ∉ group) : draft.frames group = [] := by
  induction group generalizing draft with
  | nil => rfl
  | cons line rest ih =>
      rw [List.mem_cons, not_or] at free
      cases line with
      | nil => exact absurd rfl free.1
      | cons first others => exact ih _ free.2

theorem frames_append_cons (free : [] ∉ group) (rest : List (List Char)) :
    draft.frames (group ++ [] :: rest) =
      (group.foldl takeLine draft).close?.toList ++ empty.frames rest := by
  induction group generalizing draft with
  | nil => rfl
  | cons line others ih =>
      rw [List.mem_cons, not_or] at free
      cases line with
      | nil => exact absurd rfl free.1
      | cons first more => exact ih _ free.2

/-- Groups are read by themselves. -/
theorem frames_eq_filter (lines : List (List Char)) :
    empty.frames lines =
      ((Reading.closedParts [] lines).map Reading.frame).filter fun frame =>
        frame ≠ ⟨none, none, "", none⟩ := by
  induction lines using separated_induction [] with
  | unclosed group free =>
      rw [frames_of_not_mem _ _ free, Reading.closedParts_of_not_mem free]
      rfl
  | closed group rest free ih =>
      rw [frames_append_cons _ _ free, Reading.closedParts_append_cons free, ih,
        close?_foldl_takeLine, List.map_cons]
      exact (List.filter_append [_] _).symm

end Draft

namespace LineDecoder

/-- The decoder goes from line to line. -/
theorem feed_snd (draft : Draft) (bytes : List UInt8) :
    (feed ⟨[], draft⟩ bytes).2 = draft.frames (Reading.lines bytes) := by
  induction bytes using separated_induction newline generalizing draft with
  | unclosed part free =>
      rw [feed_open _ free, Reading.lines_of_not_mem free]
      rfl
  | closed line rest free ih =>
      rw [feed_line _ free, Reading.lines_append_cons free, finishLine_fst]
      cases text : lineText line with
      | nil =>
          rw [finishLine_of_empty draft text, ih]
          rfl
      | cons first others =>
          rw [finishLine_of_filled draft (by simp [text]), ih, text]
          rfl

/-- A decoder at the start of a stream brings the frames that its text says, whatever the bytes. -/
theorem frames_eq_reading (bytes : List UInt8) :
    (initial.feed bytes).2 = Reading.frames bytes := by
  rw [initial, feed_snd, Draft.frames_eq_filter, Reading.frames]

/-- Of two identifiers the last one counts, a field without a colon has an empty value, and what no
empty line closes is not read. -/
example :
    Reading.frames
        (encodeUtf8 ": hi\r\nid: 1\nid:2\r\ndata\ndata:  x\nretry: +5 \n\n\nid: 3\n") =
      [⟨some "2", none, "\n x", some 5⟩] := by
  decide +kernel

end LineDecoder

end LiveJobs
