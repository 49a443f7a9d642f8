import LiveJobs.Event.LineDecoder
import LiveJobs.Proofs.Delimiting
import LiveJobs.Proofs.Resumption
import Mathlib.Data.List.DropRight

/-!
# Streams that are cut off

A stream may end at any byte: in the middle of a character, of a line or of a message. The decoder
then counts the unfinished line as finished and closes the frame, so a message may be seen of which
only a beginning has arrived. Its payload is then no object, as the text of an object cannot end
early, and the message is passed over; or the payload is whole and only blanks or the end of the
line are missing, and the message is as good as complete.

There is a gap in between: if the identifier of a message has arrived and nothing of its payload,
the frame has an identifier and a blank payload. Such a frame counts as processed, and the
connection then resumes after a message that it has never received. In all other cases it resumes
after the last message that it has received.
-/

namespace LiveJobs

open LiveJobs.Json LiveJobs.Text

/-! ## Beginnings -/

section Beginnings

variable {α : Type} {part first second : List α} {c : α}

theorem head?_of_prefix (beginning : first <+: second) (head : first.head? = some c) :
    second.head? = some c := by
  obtain ⟨behind, rfl⟩ := beginning
  rw [List.head?_append, head]
  rfl

/-- What has a property may be taken off the end of a beginning and of the whole. -/
theorem rdropWhile_prefix_mono (p : α → Bool) (beginning : first <+: second) :
    first.rdropWhile p <+: second.rdropWhile p := by
  obtain ⟨behind, rfl⟩ := beginning
  rw [List.rdropWhile, List.rdropWhile, List.reverse_append, List.dropWhile_append]
  split
  · exact List.prefix_rfl
  · rw [List.reverse_append, List.reverse_reverse]
    exact (List.rdropWhile_prefix p _).trans (List.prefix_append _ _)

/-- A beginning of two parts ends within the first one, or has it whole. -/
theorem prefix_append_cases (beginning : part <+: first ++ second) :
    part <+: first ∧ part ≠ first ∨ ∃ rest, part = first ++ rest ∧ rest <+: second := by
  obtain ⟨behind, same⟩ := beginning
  rcases List.append_eq_append_iff.1 same with ⟨left, whole, -⟩ | ⟨rest, whole, left⟩
  · by_cases complete : part = first
    · exact .inr ⟨[], by rw [complete, List.append_nil], List.nil_prefix⟩
    · exact .inl ⟨⟨left, whole.symm⟩, complete⟩
  · exact .inr ⟨rest, whole, ⟨behind, left.symm⟩⟩

/-- A beginning of a line and what is behind it ends within the line, or goes on behind it. -/
theorem prefix_line_cases (beginning : part <+: first ++ c :: second) :
    part <+: first ∨ ∃ rest, part = first ++ c :: rest ∧ rest <+: second := by
  rcases prefix_append_cases beginning with ⟨within, -⟩ | ⟨rest, whole, behind⟩
  · exact .inl within
  · rcases List.prefix_cons_iff.1 behind with rfl | ⟨left, rfl, further⟩
    · rw [List.append_nil] at whole
      exact .inl (whole ▸ List.prefix_rfl)
    · exact .inr ⟨left, whole, further⟩

end Beginnings

/-! ## Characters that are cut -/

namespace Text

/-- Whether a text is what another one may become when its bytes are cut: a beginning of it, with a
replacement at the end if the cut went through a character. -/
def CutFrom (cut whole : List Char) : Prop :=
  ∃ kept, kept <+: whole ∧ (cut = kept ∨ cut = kept ++ [replacement])

namespace CutFrom

variable {cut whole : List Char}

theorem nil : CutFrom [] whole := ⟨[], List.nil_prefix, .inl rfl⟩

theorem replaced : CutFrom [replacement] whole := ⟨[], List.nil_prefix, .inr rfl⟩

theorem cons (c : Char) (cutFrom : CutFrom cut whole) : CutFrom (c :: cut) (c :: whole) := by
  obtain ⟨kept, beginning, split⟩ := cutFrom
  refine ⟨c :: kept, (List.prefix_cons_inj c).2 beginning, ?_⟩
  rcases split with rfl | rfl
  · exact .inl rfl
  · exact .inr rfl

/-- A cut text begins like the whole one, if not with a replacement. -/
theorem head? {c : Char} (cutFrom : CutFrom cut whole) (head : cut.head? = some c) :
    whole.head? = some c ∨ c = replacement := by
  obtain ⟨kept, ⟨behind, rfl⟩, split⟩ := cutFrom
  cases kept with
  | nil =>
      rcases split with rfl | rfl
      · cases head
      · cases head
        exact .inr rfl
  | cons first rest =>
      rcases split with rfl | rfl
      · exact .inl head
      · exact .inl head

end CutFrom

/-- A cut goes between two characters, or through one which is then replaced. -/
theorem continueChar_append (count value : Nat) (low high : UInt8) (first second : List UInt8) :
    continueChar count value low high first = (replacement, []) ∨
      ∃ c rest, continueChar count value low high first = (c, rest) ∧
        continueChar count value low high (first ++ second) = (c, rest ++ second) := by
  induction count generalizing value low high first with
  | zero => exact .inr ⟨_, _, rfl, rfl⟩
  | succ count ih =>
      cases first with
      | nil => exact .inl rfl
      | cons octet rest =>
          simp only [List.cons_append, continueChar]
          split
          · exact ih _ _ _ rest
          · exact .inr ⟨_, _, rfl, rfl⟩

theorem cutFrom_decodeLossy (first second : List UInt8) :
    CutFrom (decodeLossy first) (decodeLossy (first ++ second)) := by
  induction first using decodeLossy.induct with
  | case1 =>
      rw [decodeLossy]
      exact .nil
  | case2 octet rest ascii ih =>
      rw [List.cons_append, decodeLossy, decodeLossy, if_pos ascii, if_pos ascii]
      exact ih.cons _
  | case3 octet rest ascii foreign ih =>
      rw [List.cons_append, decodeLossy, decodeLossy, if_neg ascii, if_neg ascii, foreign]
      exact ih.cons _
  | case4 octet rest ascii count low high leads step ih =>
      rw [List.cons_append, decodeLossy, decodeLossy, if_neg ascii, if_neg ascii, leads]
      rcases continueChar_append count (leadingBits octet count) low high rest second with
        through | ⟨c, left, between, same⟩
      · simp only [through, decodeLossy]
        exact .replaced
      · simp only [step, between] at ih
        simp only [between, same]
        exact ih.cons c

end Text

/-! ## Lines -/

/-- A line is its characters without the carriage returns at the end. -/
theorem lineText_eq (bytes : List UInt8) :
    lineText bytes = (decodeLossy bytes).rdropWhile (· = '\r') := rfl

theorem lineText_nil : lineText [] = [] := by
  rw [lineText_eq, decodeLossy]
  rfl

/-- The line of bytes that are cut off is a beginning of the whole line, if not for a replacement at
its end. -/
theorem lineText_append (first second : List UInt8) :
    lineText first <+: lineText (first ++ second) ∨
      (lineText first).getLast? = some replacement := by
  obtain ⟨kept, beginning, split⟩ := cutFrom_decodeLossy first second
  rw [lineText_eq, lineText_eq]
  rcases split with same | same
  · rw [same]
    exact .inl (rdropWhile_prefix_mono _ beginning)
  · rw [same, List.rdropWhile_concat_neg _ _ _ (by decide)]
    simp

/-- What is read of a cut line begins like the whole line, if that is not empty. -/
theorem head?_lineText_append {first : List UInt8} (second : List UInt8) {c : Char}
    (head : (lineText first).head? = some c) :
    (lineText (first ++ second)).head? = some c ∨ c = '\r' ∨ c = replacement := by
  have shown := head?_of_prefix (List.rdropWhile_prefix _ (decodeLossy first)) head
  rcases (cutFrom_decodeLossy first second).head? shown with same | replaced
  · cases line : lineText (first ++ second) with
    | nil =>
        have returns := List.rdropWhile_eq_nil_iff.1 line c (List.mem_of_head? same)
        exact .inr (.inl (of_decide_eq_true returns))
    | cons other rest =>
        have begins : (decodeLossy (first ++ second)).head? = some other :=
          head?_of_prefix (List.rdropWhile_prefix _ _) (congrArg List.head? line)
        exact .inl (begins.symm.trans same)
  · exact .inr (.inr replaced)

namespace Draft

variable (draft : Draft) {line : List Char}

/-- The name of the field that a line is about. -/
abbrev fieldName (line : List Char) : List Char := (splitLine line).1

theorem fieldName_eq (line : List Char) : fieldName line = line.takeWhile (· ≠ ':') := by
  unfold fieldName splitLine
  split
  · rfl
  · rfl
  · rfl

theorem head?_of_fieldName {c : Char} {rest : List Char} (named : fieldName line = c :: rest) :
    line.head? = some c := by
  rw [fieldName_eq] at named
  exact head?_of_prefix (List.takeWhile_prefix _) (congrArg List.head? named)

theorem value_prefix {first second : List Char} (beginning : first <+: second) :
    (splitLine first).2 <+: (splitLine second).2 := by
  obtain ⟨more, rfl⟩ := beginning
  unfold splitLine
  rw [List.dropWhile_append]
  cases behind : first.dropWhile (· ≠ ':') with
  | nil => exact List.nil_prefix
  | cons colon value =>
      rw [if_neg (by simp)]
      cases value with
      | nil => exact List.nil_prefix
      | cons c rest =>
          by_cases space : c = ' '
          · subst space
            exact ⟨more, rfl⟩
          · simp [space]

theorem value_suffix (line : List Char) : (splitLine line).2 <:+ line := by
  unfold splitLine
  have behind := List.dropWhile_suffix (l := line) (· ≠ ':')
  split
  · rename_i same
    rw [same] at behind
    exact ((List.suffix_cons _ _).trans (List.suffix_cons _ _)).trans behind
  · rename_i same
    rw [same] at behind
    exact (List.suffix_cons _ _).trans behind
  · exact List.nil_suffix

/-- What a line says is settled by the name of its field, and by its value. -/
theorem takeLine_eq (line : List Char) :
    draft.takeLine line =
      if fieldName line = ['i', 'd'] then
        { draft with id := some (String.ofList (splitLine line).2) }
      else if fieldName line = ['e', 'v', 'e', 'n', 't'] then
        { draft with event := some (String.ofList (splitLine line).2) }
      else if fieldName line = ['d', 'a', 't', 'a'] then
        { draft with data := some (appendData (String.ofList (splitLine line).2) draft.data) }
      else if fieldName line = ['r', 'e', 't', 'r', 'y'] then
        { draft with
          retry := (readUnsigned maxWord64 (trimChars (splitLine line).2)).toOption }
      else draft := by
  unfold takeLine
  split
  · rename_i comment
    have nameless : fieldName line = [] := by
      cases line with
      | nil => rfl
      | cons c rest =>
          cases comment
          rw [fieldName_eq]
          rfl
    rw [nameless]
    rfl
  · rfl

theorem data_takeLine (other : fieldName line ≠ ['d', 'a', 't', 'a']) :
    (draft.takeLine line).data = draft.data := by
  rw [takeLine_eq, if_neg other]
  split
  · rfl
  · split
    · rfl
    · split
      · rfl
      · rfl

/-- A line that begins like no field says nothing. -/
theorem takeLine_of_head (foreign : ∀ c, line.head? = some c → c = '\r' ∨ c = replacement) :
    draft.takeLine line = draft := by
  rw [takeLine_eq]
  cases named : fieldName line with
  | nil => rfl
  | cons c rest =>
      rcases foreign c (head?_of_fieldName named) with rfl | rfl
      · simp
      · simp [replacement]

end Draft

/-! ## The decoder -/

namespace LineDecoder

variable (decoder : LineDecoder) {bytes : List UInt8}

theorem finish_snd :
    decoder.finish.2 =
      (decoder.draft.takeLine (lineText decoder.reversedLine.reverse)).close? := by
  unfold finish
  split
  · rename_i empty
    rw [empty]
    rfl
  · rfl

theorem finish_initial : initial.finish.2 = none := by
  rw [finish_snd, initial, List.reverse_nil, lineText_nil]
  rfl

theorem feed_open (within : newline ∉ bytes) :
    decoder.feed bytes = (⟨bytes.reverse ++ decoder.reversedLine, decoder.draft⟩, []) := by
  induction bytes generalizing decoder with
  | nil => rfl
  | cons byte rest ih =>
      have inside : byte ≠ newline := fun same => within (same ▸ List.mem_cons_self)
      have behind : newline ∉ rest := fun member => within (List.mem_cons_of_mem _ member)
      simp [feed, step, inside, ih _ behind]

theorem feed_line (draft : Draft) (within : newline ∉ bytes) (rest : List UInt8) :
    feed ⟨[], draft⟩ (bytes ++ newline :: rest) =
      (((finishLine ⟨bytes.reverse, draft⟩).1.feed rest).1,
        (finishLine ⟨bytes.reverse, draft⟩).2.toList ++
          ((finishLine ⟨bytes.reverse, draft⟩).1.feed rest).2) := by
  rw [feed_append, feed_open _ within]
  simp [feed, step]

theorem finishLine_of_filled (draft : Draft) (filled : lineText bytes ≠ []) :
    finishLine ⟨bytes.reverse, draft⟩ = (⟨[], draft.takeLine (lineText bytes)⟩, none) := by
  unfold finishLine
  rw [List.reverse_reverse]
  split
  · contradiction
  · rfl

theorem finishLine_of_empty (draft : Draft) (empty : lineText bytes = []) :
    finishLine ⟨bytes.reverse, draft⟩ = (initial, draft.close?) := by
  unfold finishLine
  rw [List.reverse_reverse, empty]

/-- Takes up chunks, one after the other. -/
def feedAll (decoder : LineDecoder) : List (List UInt8) → LineDecoder × List Frame
  | [] => (decoder, [])
  | chunk :: rest =>
      let fed := decoder.feed chunk
      let behind := feedAll fed.1 rest
      (behind.1, fed.2 ++ behind.2)

/-- How bytes are cut into chunks makes no difference. -/
theorem feedAll_eq (chunks : List (List UInt8)) :
    decoder.feedAll chunks = decoder.feed chunks.flatten := by
  induction chunks generalizing decoder with
  | nil => rfl
  | cons chunk rest ih => rw [feedAll, ih, List.flatten_cons, feed_append]

end LineDecoder

/-! ## Payloads that are cut -/

namespace Frame

variable {frame whole : Frame} {event : Event}

theorem event?_eq_some_iff : frame.event? = some event ↔ frame.decode = .ok (some event) := by
  unfold event?
  cases frame.decode with
  | ok found => simp
  | error fault => simp

theorem event?_of_isVoid (void : frame.isVoid = true) : frame.event? = none := by
  rw [event?, (decode_eq_ok_none_iff frame).2 void]

theorem object_of_event? (decoded : frame.event? = some event) :
    frame.isVoid = false ∧ ∃ members, parse frame.data.toList = some (.obj members) := by
  rw [event?_eq_some_iff] at decoded
  have filled : frame.isVoid = false := by
    rw [Bool.eq_false_iff]
    intro void
    rw [(decode_eq_ok_none_iff frame).2 void] at decoded
    cases decoded
  refine ⟨filled, ?_⟩
  rw [isVoid] at filled
  rw [decode, if_neg (by rw [filled]; decide)] at decoded
  split at decoded
  · cases decoded
  · rename_i members parsed
    exact ⟨members, parsed⟩
  · cases decoded

/-- What a payload decodes to is settled by the value that it stands for. -/
theorem decode_congr (id : frame.id = whole.id) (name : frame.event = whole.event)
    (filled : frame.isVoid = false) (filledWhole : whole.isVoid = false)
    (parsed : parse frame.data.toList = parse whole.data.toList) : frame.decode = whole.decode := by
  rw [isVoid] at filled filledWhole
  simp only [decode, filled, filledWhole, parsed, name, token?, id]

/-- A payload that is cut decodes to nothing, if it does not decode to what the whole payload
decodes to. -/
theorem event?_of_cut (id : frame.id = whole.id) (name : frame.event = whole.event)
    (cut : frame.data.toList <+: whole.data.toList ∨
      ∀ c, frame.data.toList.getLast? = some c → c = replacement)
    (decodes : whole.event? = some event) :
    frame.event? = none ∨ frame.event? = some event := by
  cases decoded : frame.event? with
  | none => exact .inl rfl
  | some found =>
      obtain ⟨filled, members, parsed⟩ := object_of_event? decoded
      obtain ⟨filledWhole, others, parsedWhole⟩ := object_of_event? decodes
      rcases cut with beginning | replaced
      · have same := parse_eq_of_prefix beginning parsed (by rw [parsedWhole]; rfl)
        have congruent := decode_congr id name filled filledWhole (parsed.trans same.symm)
        rw [event?, congruent, ← event?, decodes] at decoded
        exact .inr decoded.symm
      · cases last : frame.data.toList.getLast? with
        | none =>
            rw [isVoid, List.getLast?_eq_none_iff.1 last] at filled
            cases filled
        | some c =>
            have ends := last_of_parse_eq_obj parsed last
            rw [replaced c last] at ends
            exact absurd ends (by decide)

/-- The identifier of a frame that has nothing else to tell. -/
def hollowToken? (frame : Frame) : Option EventId :=
  if frame.isVoid then frame.token?.map EventId.mk else none

/-- Behind a frame without an event only a hollow one is resumed after. -/
theorem resumption?_of_event?_none (silent : frame.event? = none) :
    frame.resumption? = frame.hollowToken? := by
  rw [resumption?, isProcessed, silent, Option.isSome_none, Bool.or_false, hollowToken?]

theorem hollowToken?_of_event?_some (told : frame.event? = some event) :
    frame.hollowToken? = none := by
  rw [hollowToken?, (object_of_event? told).1]
  rfl

theorem resumption?_of_event?_some {id : String} (told : frame.event? = some event)
    (identified : frame.token? = some id) : frame.resumption? = some ⟨id⟩ := by
  simp [resumption?, isProcessed, told, identified]

end Frame

/-! ## Posts -/

/-- A message as the server writes it: a line with its identifier, a line with its payload, and an
empty line. -/
structure Post where
  id : String
  payload : List Char
  /-- The event that the payload decodes to. -/
  event : Event
  idLine : List UInt8
  dataLine : List UInt8
  blankLine : List UInt8
  identified : id ≠ ""
  decodes : Frame.decode ⟨some id, none, String.ofList payload, none⟩ = .ok (some event)
  id_splits : Draft.splitLine (lineText idLine) = (['i', 'd'], id.toList)
  data_splits : Draft.splitLine (lineText dataLine) = (['d', 'a', 't', 'a'], payload)
  blank : lineText blankLine = []
  id_within : LineDecoder.newline ∉ idLine
  data_within : LineDecoder.newline ∉ dataLine
  blank_within : LineDecoder.newline ∉ blankLine

namespace Post

/-- The bytes of a message. -/
def bytes (post : Post) : List UInt8 :=
  post.idLine ++ LineDecoder.newline :: (post.dataLine ++ LineDecoder.newline ::
    (post.blankLine ++ [LineDecoder.newline]))

/-- The frame that a complete message makes. -/
def frame (post : Post) : Frame := ⟨some post.id, none, String.ofList post.payload, none⟩

/-- Whether lines with an identifier and a payload say just these. -/
def IsWritable (id payload : String) : Prop :=
  id ≠ "" ∧ (⟨some id, none, payload, none⟩ : Frame).event?.isSome = true ∧
    Draft.splitLine (lineText (encodeUtf8 ("id: " ++ id))) = (['i', 'd'], id.toList) ∧
    Draft.splitLine (lineText (encodeUtf8 ("data: " ++ payload))) =
      (['d', 'a', 't', 'a'], payload.toList) ∧
    LineDecoder.newline ∉ encodeUtf8 ("id: " ++ id) ∧
    LineDecoder.newline ∉ encodeUtf8 ("data: " ++ payload)

instance (id payload : String) : Decidable (IsWritable id payload) :=
  inferInstanceAs (Decidable (_ ∧ _))

/-- The message that is written with an identifier and a payload. -/
def write (id payload : String) : IsWritable id payload → Post
  | ⟨identified, told, idSplits, dataSplits, idWithin, dataWithin⟩ =>
      { id := id
        payload := payload.toList
        event := Option.get _ told
        idLine := encodeUtf8 ("id: " ++ id)
        dataLine := encodeUtf8 ("data: " ++ payload)
        blankLine := []
        identified := identified
        decodes := by
          rw [String.ofList_toList]
          exact Frame.event?_eq_some_iff.1 (Option.some_get _).symm
        id_splits := idSplits
        data_splits := dataSplits
        blank := lineText_nil
        id_within := idWithin
        data_within := dataWithin
        blank_within := List.not_mem_nil }

variable (post : Post)

/-- What is known of a message once its identifier is read. -/
def named : Draft := ⟨some post.id, none, none, none⟩

/-- What is known of a message once its payload is read. -/
def filled : Draft := ⟨some post.id, none, some (String.ofList post.payload), none⟩

theorem takeLine_id : Draft.empty.takeLine (lineText post.idLine) = post.named := by
  rw [Draft.takeLine_eq, Draft.fieldName, post.id_splits]
  simp [named, Draft.empty]

theorem takeLine_data : post.named.takeLine (lineText post.dataLine) = post.filled := by
  rw [Draft.takeLine_eq, Draft.fieldName, post.data_splits]
  simp [named, filled, Draft.appendData]

theorem close?_filled : post.filled.close? = some post.frame := by
  simp [Draft.close?, filled, frame, Frame.isBlank]

theorem event?_frame : post.frame.event? = some post.event :=
  Frame.event?_eq_some_iff.2 post.decodes

theorem token?_of_id {frame : Frame} (id : frame.id = some post.id) :
    frame.token? = some post.id := by
  have identified := post.identified
  simp [Frame.token?, id, Option.filter, identified]

section Feeding

variable (rest : List UInt8)

theorem feed_idLine :
    LineDecoder.initial.feed (post.idLine ++ LineDecoder.newline :: rest) =
      LineDecoder.feed ⟨[], post.named⟩ rest := by
  have filled : lineText post.idLine ≠ [] := by
    intro empty
    have splits := post.id_splits
    rw [empty] at splits
    cases splits
  rw [LineDecoder.initial, LineDecoder.feed_line _ post.id_within,
    LineDecoder.finishLine_of_filled _ filled, takeLine_id]
  rfl

theorem feed_dataLine :
    LineDecoder.feed ⟨[], post.named⟩ (post.dataLine ++ LineDecoder.newline :: rest) =
      LineDecoder.feed ⟨[], post.filled⟩ rest := by
  have filled : lineText post.dataLine ≠ [] := by
    intro empty
    have splits := post.data_splits
    rw [empty] at splits
    cases splits
  rw [LineDecoder.feed_line _ post.data_within, LineDecoder.finishLine_of_filled _ filled,
    takeLine_data]
  rfl

theorem feed_blankLine :
    LineDecoder.feed ⟨[], post.filled⟩ (post.blankLine ++ LineDecoder.newline :: rest) =
      ((LineDecoder.initial.feed rest).1, post.frame :: (LineDecoder.initial.feed rest).2) := by
  rw [LineDecoder.feed_line _ post.blank_within, LineDecoder.finishLine_of_empty _ post.blank,
    close?_filled]
  rfl

theorem feed_bytes :
    LineDecoder.initial.feed (post.bytes ++ rest) =
      ((LineDecoder.initial.feed rest).1, post.frame :: (LineDecoder.initial.feed rest).2) := by
  simp only [bytes, List.append_assoc, List.cons_append, List.nil_append]
  rw [feed_idLine, feed_dataLine, feed_blankLine]

theorem feed_posts (posts : List Post) :
    LineDecoder.initial.feed (posts.flatMap bytes ++ rest) =
      ((LineDecoder.initial.feed rest).1,
        posts.map frame ++ (LineDecoder.initial.feed rest).2) := by
  induction posts with
  | nil => rfl
  | cons post posts ih => rw [List.flatMap_cons, List.append_assoc, feed_bytes, ih]; rfl

end Feeding

/-! ### Cuts -/

/-- The end of a stream within a line makes a line of what is there. -/
theorem flush_open (draft : Draft) {part : List UInt8} (within : LineDecoder.newline ∉ part) :
    (LineDecoder.feed ⟨[], draft⟩ part).2 = [] ∧
      (LineDecoder.feed ⟨[], draft⟩ part).1.finish.2 =
        (draft.takeLine (lineText part)).close? := by
  rw [LineDecoder.feed_open _ within, LineDecoder.finish_snd]
  simp

theorem event?_of_dataless {draft : Draft} {frame : Frame} (closed : draft.close? = some frame)
    (dataless : draft.data = none) : frame.event? = none := by
  simp only [Draft.close?, dataless, Option.ite_none_left_eq_some] at closed
  obtain ⟨-, same⟩ := closed
  cases same
  exact Frame.event?_of_isVoid rfl

/-- A frame tells nothing of a message, or all of it. -/
def ToldBy (post : Post) (frame : Frame) : Prop :=
  frame.event? = none ∨ frame.event? = some post.event ∧ frame.token? = some post.id

variable {post} {part : List UInt8} {frame : Frame}

theorem toldBy_of_idLine (cut : part <+: post.idLine)
    (closed : (Draft.empty.takeLine (lineText part)).close? = some frame) : post.ToldBy frame := by
  obtain ⟨rest, whole⟩ := cut
  refine .inl (event?_of_dataless closed ((Draft.data_takeLine _ ?_).trans rfl))
  intro named
  have begins := head?_lineText_append rest (Draft.head?_of_fieldName named)
  have begun : (lineText post.idLine).head? = some 'i' :=
    Draft.head?_of_fieldName (congrArg Prod.fst post.id_splits)
  rw [whole, begun] at begins
  exact absurd begins (by decide)

/-- The value of a payload line that is cut is a beginning of the payload, if not for a replacement
at its end. -/
theorem value_of_cut (cut : part <+: post.dataLine) :
    (Draft.splitLine (lineText part)).2 <+: post.payload ∨
      ∀ c, (Draft.splitLine (lineText part)).2.getLast? = some c → c = replacement := by
  obtain ⟨rest, whole⟩ := cut
  rcases lineText_append part rest with beginning | replaced
  · have before := Draft.value_prefix beginning
    rw [whole, post.data_splits] at before
    exact .inl before
  · refine .inr fun c last => ?_
    obtain ⟨before, same⟩ := Draft.value_suffix (lineText part)
    rw [← same, List.getLast?_append, last] at replaced
    exact Option.some.inj replaced

theorem close?_named {line : List Char} (named : Draft.fieldName line = ['d', 'a', 't', 'a']) :
    (post.named.takeLine line).close? =
      some ⟨some post.id, none, String.ofList (Draft.splitLine line).2, none⟩ := by
  simp [Draft.takeLine_eq, named, Post.named, Draft.close?, Draft.appendData, Frame.isBlank]

theorem toldBy_of_dataLine (cut : part <+: post.dataLine)
    (closed : (post.named.takeLine (lineText part)).close? = some frame) :
    post.ToldBy frame := by
  by_cases named : Draft.fieldName (lineText part) = ['d', 'a', 't', 'a']
  · rw [close?_named named, Option.some.injEq] at closed
    have sameId : frame.id = some post.id := closed ▸ rfl
    have sameName : frame.event = none := closed ▸ rfl
    have shown : frame.data.toList = (Draft.splitLine (lineText part)).2 := by
      rw [← closed, String.toList_ofList]
    have payload : post.frame.data.toList = post.payload := String.toList_ofList
    have value := post.value_of_cut cut
    rw [← shown, ← payload] at value
    rcases Frame.event?_of_cut sameId sameName value post.event?_frame with silent | told
    · exact .inl silent
    · exact .inr ⟨told, post.token?_of_id sameId⟩
  · exact .inl (event?_of_dataless closed ((Draft.data_takeLine _ named).trans rfl))

theorem toldBy_of_blankLine (cut : part <+: post.blankLine)
    (closed : (post.filled.takeLine (lineText part)).close? = some frame) :
    post.ToldBy frame := by
  obtain ⟨rest, whole⟩ := cut
  rw [Draft.takeLine_of_head, close?_filled] at closed
  · cases closed
    exact .inr ⟨post.event?_frame, post.token?_of_id rfl⟩
  · intro c head
    have begins := head?_lineText_append rest head
    rw [whole, post.blank] at begins
    simpa using begins

/-- A message that is cut off makes no frame before the stream ends, and the frame that the end of
the stream makes tells nothing of it or all of it. -/
theorem flush_of_cut (cut : part <+: post.bytes) (unfinished : part ≠ post.bytes) :
    (LineDecoder.initial.feed part).2 = [] ∧
      ∀ frame, (LineDecoder.initial.feed part).1.finish.2 = some frame → post.ToldBy frame := by
  rcases prefix_line_cases cut with inId | ⟨behindId, rfl, cutBehindId⟩
  · obtain ⟨silent, flushed⟩ := flush_open .empty fun member => post.id_within (inId.subset member)
    constructor
    · exact silent
    · intro frame closed
      exact toldBy_of_idLine inId (flushed.symm.trans closed)
  rw [feed_idLine]
  rcases prefix_line_cases cutBehindId with inData | ⟨behindData, rfl, cutBehindData⟩
  · obtain ⟨silent, flushed⟩ :=
      flush_open post.named fun member => post.data_within (inData.subset member)
    constructor
    · exact silent
    · intro frame closed
      exact toldBy_of_dataLine inData (flushed.symm.trans closed)
  rw [feed_dataLine]
  rcases prefix_line_cases cutBehindData with inBlank | ⟨behindBlank, rfl, cutBehindBlank⟩
  · obtain ⟨silent, flushed⟩ :=
      flush_open post.filled fun member => post.blank_within (inBlank.subset member)
    constructor
    · exact silent
    · intro frame closed
      exact toldBy_of_blankLine inBlank (flushed.symm.trans closed)
  · rw [List.prefix_nil.1 cutBehindBlank] at unfinished
    exact absurd rfl unfinished

/-- A beginning of some messages has some of them whole, and perhaps a part of the next one. -/
theorem cut_posts {posts : List Post} (cut : part <+: posts.flatMap bytes) :
    ∃ count rest, part = (posts.take count).flatMap bytes ++ rest ∧
      (rest = [] ∨
        ∃ post, posts[count]? = some post ∧ rest <+: post.bytes ∧ rest ≠ post.bytes) := by
  induction posts generalizing part with
  | nil => exact ⟨0, [], by simpa using cut, .inl rfl⟩
  | cons post posts ih =>
      rcases prefix_append_cases (List.flatMap_cons ▸ cut) with ⟨within, unfinished⟩ |
        ⟨rest, rfl, behind⟩
      · exact ⟨0, part, rfl, .inr ⟨post, rfl, within, unfinished⟩⟩
      · obtain ⟨count, left, whole, partly⟩ := ih behind
        refine ⟨count + 1, left, ?_, partly⟩
        rw [whole, List.take_succ_cons, List.flatMap_cons, List.append_assoc]

/-- The frames of a stream of messages that is cut off: those of its first messages, and perhaps one
that tells nothing of the next message or all of it. -/
theorem frames_of_cut {posts : List Post} (cut : part <+: posts.flatMap bytes) :
    ∃ count, (LineDecoder.initial.feed part).2 = (posts.take count).map Post.frame ∧
      ∀ last, (LineDecoder.initial.feed part).1.finish.2 = some last →
        ∃ post, posts[count]? = some post ∧ post.ToldBy last := by
  obtain ⟨count, rest, rfl, partly⟩ := cut_posts cut
  refine ⟨count, ?_⟩
  rw [feed_posts]
  rcases partly with rfl | ⟨post, next, within, unfinished⟩
  · constructor
    · exact List.append_nil _
    · intro last closed
      rw [LineDecoder.feed_nil, LineDecoder.finish_initial] at closed
      cases closed
  · obtain ⟨silent, told⟩ := flush_of_cut within unfinished
    refine ⟨?_, fun last closed => ⟨post, next, told last closed⟩⟩
    rw [silent, List.append_nil]

theorem events_of_frames (posts : List Post) :
    (posts.map Post.frame).filterMap Frame.event? = posts.map Post.event := by
  rw [List.filterMap_map, ← List.filterMap_eq_map]
  congr 1
  exact funext event?_frame

theorem resumptions_of_frames (posts : List Post) :
    (posts.map Post.frame).filterMap Frame.resumption? = posts.map fun post => ⟨post.id⟩ := by
  rw [List.filterMap_map, ← List.filterMap_eq_map]
  congr 1
  funext post
  exact Frame.resumption?_of_event?_some post.event?_frame (post.token?_of_id rfl)

end Post

/-! ## Connections -/

namespace Connection

variable (connection : Connection)

/-- Takes frames, one after the other, and gives the events in them. -/
def takeAll (connection : Connection) : List Frame → Connection × List Event
  | [] => (connection, [])
  | frame :: rest =>
      let taken := connection.takeFrame frame
      let behind := takeAll taken.1 rest
      (behind.1, taken.2.toList ++ behind.2)

theorem takeAll_spec (frames : List Frame) :
    (connection.takeAll frames).1.token = resumeFrom connection.token frames ∧
      (connection.takeAll frames).2 = frames.filterMap Frame.event? := by
  induction frames generalizing connection with
  | nil => exact ⟨rfl, rfl⟩
  | cons frame rest ih =>
      obtain ⟨token, event⟩ := connection.takeFrame_spec frame
      obtain ⟨tokenBehind, eventsBehind⟩ := ih (connection.takeFrame frame).1
      rw [takeAll, tokenBehind, eventsBehind, token, event, resumeFrom_cons]
      refine ⟨rfl, ?_⟩
      cases decoded : frame.event? with
      | none => simp [decoded]
      | some => simp [decoded]

/-- The frames of a stream before its end. -/
def framesOf (chunks : List (List UInt8)) : List Frame := (LineDecoder.initial.feedAll chunks).2

/-- The frame that the end of a stream makes of what is unfinished. -/
def lastFrame? (chunks : List (List UInt8)) : Option Frame :=
  (LineDecoder.initial.feedAll chunks).1.finish.2

/-- Takes all that a stream brings up to its end. -/
def takeStream (connection : Connection) (chunks : List (List UInt8)) :
    Connection × List Event :=
  connection.takeAll (framesOf chunks ++ (lastFrame? chunks).toList)

/-- The identifier of the frame that the end of a stream makes, if that frame is hollow. -/
def hollowToken? (chunks : List (List UInt8)) : Option EventId :=
  (lastFrame? chunks).bind Frame.hollowToken?

variable {posts : List Post} {chunks : List (List UInt8)}

/-- The frames of a stream that is cut off tell of its first messages, whole and in their order.
What is resumed after are these, and the identifier of a hollow frame at the end. -/
theorem told_of_cut (cut : chunks.flatten <+: posts.flatMap Post.bytes) :
    ∃ count, (framesOf chunks ++ (lastFrame? chunks).toList).filterMap Frame.event? =
        (posts.take count).map Post.event ∧
      (framesOf chunks ++ (lastFrame? chunks).toList).filterMap Frame.resumption? =
        ((posts.take count).map fun post => ⟨post.id⟩) ++ (hollowToken? chunks).toList := by
  obtain ⟨count, whole, told⟩ := Post.frames_of_cut cut
  rw [← LineDecoder.feedAll_eq] at whole told
  rw [framesOf, whole, List.filterMap_append, List.filterMap_append, Post.events_of_frames,
    Post.resumptions_of_frames, hollowToken?]
  cases flushed : lastFrame? chunks with
  | none => exact ⟨count, List.append_nil _, rfl⟩
  | some last =>
      obtain ⟨post, next, silent | ⟨event, identified⟩⟩ := told last flushed
      · refine ⟨count, ?_, ?_⟩
        · simp [silent]
        · cases hollow : last.hollowToken? with
          | none => simp [Frame.resumption?_of_event?_none silent, hollow]
          | some id => simp [Frame.resumption?_of_event?_none silent, hollow]
      · refine ⟨count + 1, ?_, ?_⟩
        · simp [List.take_add_one, next, event]
        · simp [List.take_add_one, next, Frame.resumption?_of_event?_some event identified,
            Frame.hollowToken?_of_event?_some event]

/-- What becomes of a connection when its stream is cut off. -/
theorem takeStream_of_cut (cut : chunks.flatten <+: posts.flatMap Post.bytes) :
    ∃ count, (connection.takeStream chunks).2 = (posts.take count).map Post.event ∧
      (connection.takeStream chunks).1.token =
        ((hollowToken? chunks).or
          ((posts.take count).getLast?.map fun post => ⟨post.id⟩)).or connection.token := by
  obtain ⟨count, events, resumptions⟩ := told_of_cut cut
  obtain ⟨token, handed⟩ := connection.takeAll_spec (framesOf chunks ++ (lastFrame? chunks).toList)
  refine ⟨count, handed.trans events, token.trans ?_⟩
  rw [resumeFrom, resumptions, List.getLast?_append, List.getLast?_map]
  cases hollowToken? chunks with
  | none => rfl
  | some id => rfl

/-- A stream that is cut off skips nothing. Take messages, any beginning of their bytes and any
chunks of these: what is handed on are the events of the first messages, whole and in their order,
and the connection resumes after the last of them, or where it did before if there is none. The end
of the stream must not make a hollow frame, though: if the identifier of a message has arrived and
nothing but blanks of its payload, the connection resumes after a message that it never received. -/
theorem resumes_after_last_received (cut : chunks.flatten <+: posts.flatMap Post.bytes)
    (solid : hollowToken? chunks = none) :
    ∃ count, (connection.takeStream chunks).2 = (posts.take count).map Post.event ∧
      (connection.takeStream chunks).1.token =
        ((posts.take count).getLast?.map fun post => ⟨post.id⟩).or connection.token := by
  obtain ⟨count, events, token⟩ := connection.takeStream_of_cut cut
  rw [solid, Option.none_or] at token
  exact ⟨count, events, token⟩

def firstPost : Post := .write "evt-1" "\x7b\"jobId\":\"job-1\"\x7d" (by decide +kernel)

def secondPost : Post := .write "evt-2" "\x7b\"jobId\":\"job-2\"\x7d" (by decide +kernel)

/-- A stream that ends within the second payload. -/
def payloadCut : List (List UInt8) :=
  [firstPost.bytes ++ secondPost.idLine, LineDecoder.newline :: secondPost.dataLine.take 15]

/-- A stream that ends between the second identifier and its payload. -/
def identifierOnly : List (List UInt8) :=
  [firstPost.bytes ++ secondPost.idLine, [LineDecoder.newline]]

/-- A connection that has not received anything. -/
def beginning : Connection := start .backgroundJobs (.reconnect 1000) none

theorem resumes_before_payloadCut :
    ∃ count, (beginning.takeStream payloadCut).2 =
        ([firstPost, secondPost].take count).map Post.event ∧
      (beginning.takeStream payloadCut).1.token =
        (([firstPost, secondPost].take count).getLast?.map fun post => ⟨post.id⟩).or none :=
  resumes_after_last_received beginning (by decide +kernel) (by decide +kernel)

/-- With its identifier alone the second message is resumed after, although only the first one has
been received. -/
theorem resumes_behind_identifierOnly :
    identifierOnly.flatten <+: [firstPost, secondPost].flatMap Post.bytes ∧
      (beginning.takeStream identifierOnly).2.map Event.eventId = [some ⟨"evt-1"⟩] ∧
      (beginning.takeStream identifierOnly).1.token = some ⟨"evt-2"⟩ := by
  refine ⟨?_, ?_, ?_⟩
  · decide +kernel
  · decide +kernel
  · decide +kernel

end Connection

end LiveJobs
