import LiveJobs.Proofs.CutStream

/-!
# Chunks

A connection brings the bytes of a stream in chunks of any size. Two ways to take up a chunk are
compared here. The decoder goes through it byte by byte. A reader with a buffer puts the chunk
behind the bytes that it still has and takes whole lines off the front, as long as there is a
newline; it decodes a line together with its newline and takes line ends of either kind off the
end, and only what is left when the stream ends is decoded without one. Both see the same frames,
because a newline is never part of a longer character, and so where a chunk ends leaves no trace.
-/

namespace LiveJobs

open LiveJobs.Text

/-- Every list is free of separators or has a first one. -/
@[elab_as_elim]
theorem separated_induction {α : Type} (separator : α) {motive : List α → Prop}
    (unclosed : ∀ part, separator ∉ part → motive part)
    (closed : ∀ part rest, separator ∉ part → motive rest → motive (part ++ separator :: rest))
    (list : List α) : motive list := by
  -- The induction goes through what is behind a part that is known to be free of separators.
  suffices behind : ∀ part, separator ∉ part → motive (part ++ list) from
    behind [] List.not_mem_nil
  induction list with
  | nil =>
      intro part free
      rw [List.append_nil]
      exact unclosed part free
  | cons first rest ih =>
      intro part free
      by_cases same : separator = first
      · subst same
        exact closed part rest free (ih [] List.not_mem_nil)
      · have longer : separator ∉ part ++ [first] := by simp [free, same]
        have goes := ih (part ++ [first]) longer
        rwa [List.append_assoc] at goes

/-! ## Newlines among bytes and among characters -/

namespace Text

/-- A leading octet asks for octets that are no newline, and settles that a larger character
comes: some bits are set in it, or have to be set in the next octet. -/
theorem leading_spec {octet low high : UInt8} {count : Nat}
    (leads : leading octet = some (count, low, high)) :
    0x80 ≤ low ∧ count ≠ 0 ∧
      (0 < leadingBits octet count ∨ 0x90 ≤ low ∧ high ≤ 0xBF) := by
  simp only [leading, UInt8.lt_iff_toNat_lt, UInt8.le_iff_toNat_le, ← UInt8.toNat_inj,
    UInt8.reduceToNat] at leads
  split_ifs at leads
  all_goals
    simp only [Option.some.injEq, Prod.mk.injEq] at leads
    obtain ⟨rfl, rfl, rfl⟩ := leads
    refine ⟨by decide, by decide, ?_⟩
  case pos =>
    left
    change 0 < octet.toNat % 32
    omega
  case pos => exact .inr ⟨by decide, by decide⟩
  case pos =>
    left
    change 0 < octet.toNat % 16
    omega
  case pos =>
    left
    change 0 < octet.toNat % 16
    omega
  case pos => exact .inr ⟨by decide, by decide⟩
  case pos =>
    left
    change 0 < octet.toNat % 8
    omega
  case pos =>
    left
    change 0 < octet.toNat % 8
    omega

/-- A newline does not go on with a character, so it stays behind whatever is read before it. -/
theorem continueChar_concat_newline (count value : Nat) {low : UInt8} (high : UInt8)
    (above : 0x80 ≤ low) (input : List UInt8) :
    continueChar count value low high (input ++ [LineDecoder.newline]) =
      ((continueChar count value low high input).1,
        (continueChar count value low high input).2 ++ [LineDecoder.newline]) := by
  induction count generalizing value low high input with
  | zero => rfl
  | succ count ih =>
      cases input with
      | nil =>
          have foreign : ¬low ≤ LineDecoder.newline := by
            intro fits
            exact absurd (UInt8.le_trans above fits) (by decide)
          simp [continueChar, foreign]
      | cons octet rest =>
          simp only [List.cons_append, continueChar]
          split
          · exact ih _ _ (UInt8.le_refl _) rest
          · rfl

theorem decodeLossy_newline : decodeLossy [LineDecoder.newline] = ['\n'] := by
  rw [decodeLossy, if_pos (by decide), decodeLossy]
  rfl

/-- The newline at the end of a line is decoded by itself, even behind an unfinished character. -/
theorem decodeLossy_concat_newline (bytes : List UInt8) :
    decodeLossy (bytes ++ [LineDecoder.newline]) = decodeLossy bytes ++ ['\n'] := by
  induction bytes using decodeLossy.induct with
  | case1 =>
      rw [List.nil_append, decodeLossy_newline, decodeLossy]
      rfl
  | case2 octet rest ascii ih =>
      rw [List.cons_append, decodeLossy, decodeLossy, if_pos ascii, if_pos ascii, ih]
      rfl
  | case3 octet rest ascii foreign ih =>
      rw [List.cons_append, decodeLossy, decodeLossy, if_neg ascii, if_neg ascii, foreign]
      simp only [ih, List.cons_append]
  | case4 octet rest ascii count low high leads step ih =>
      have behind := continueChar_concat_newline count (leadingBits octet count) high
        (leading_spec leads).1 rest
      rw [List.cons_append, decodeLossy, decodeLossy, if_neg ascii, if_neg ascii, leads]
      simp only [step] at ih
      simp only [behind, ih, List.cons_append]

/-- Ten is the only number of a newline. -/
theorem eq_ten_of_ofNat {value : Nat} (newline : Char.ofNat value = '\n') : value = 10 := by
  by_cases valid : value.isValidChar
  · have character : Char.ofNat value = Char.ofNatAux value valid := dif_pos valid
    exact congrArg Char.toNat (character.symm.trans newline)
  · have character : Char.ofNat value = '\x00' := dif_neg valid
    cases character.symm.trans newline

theorem continueChar_ne_newline (count value : Nat) (low high : UInt8) (input : List UInt8)
    (large : 10 < value ∨ count ≠ 0 ∧ (0 < value ∨ 0x90 ≤ low ∧ high ≤ 0xBF)) :
    (continueChar count value low high input).1 ≠ '\n' := by
  induction count generalizing value low high input with
  | zero =>
      have beyond : 10 < value := large.resolve_right fun owed => owed.1 rfl
      intro newline
      exact Nat.ne_of_gt beyond (eq_ten_of_ofNat newline)
  | succ count ih =>
      cases input with
      | nil => exact ne_of_beq_false rfl
      | cons octet rest =>
          simp only [continueChar]
          split
          next fits =>
            apply ih
            left
            rw [Bool.and_eq_true, decide_eq_true_eq, decide_eq_true_eq] at fits
            simp only [continuationBits, UInt8.le_iff_toNat_le, UInt8.reduceToNat] at *
            omega
          next => exact ne_of_beq_false rfl

theorem continueChar_suffix (count value : Nat) (low high : UInt8) (input : List UInt8) :
    (continueChar count value low high input).2 <:+ input := by
  induction count generalizing value low high input with
  | zero => exact List.suffix_rfl
  | succ count ih =>
      cases input with
      | nil => exact List.suffix_rfl
      | cons octet rest =>
          simp only [continueChar]
          split
          · exact (ih _ _ _ rest).trans (List.suffix_cons _ _)
          · exact List.suffix_rfl

theorem newline_not_mem_decodeLossy {bytes : List UInt8} (free : LineDecoder.newline ∉ bytes) :
    '\n' ∉ decodeLossy bytes := by
  induction bytes using decodeLossy.induct with
  | case1 =>
      rw [decodeLossy]
      exact List.not_mem_nil
  | case2 octet rest ascii ih =>
      rw [List.mem_cons, not_or] at free
      rw [decodeLossy, if_pos ascii, List.mem_cons, not_or]
      refine ⟨?_, ih free.2⟩
      intro newline
      exact free.1 (UInt8.toNat_inj.1 (eq_ten_of_ofNat newline.symm).symm)
  | case3 octet rest ascii foreign ih =>
      rw [List.mem_cons, not_or] at free
      rw [decodeLossy, if_neg ascii, foreign]
      exact List.not_mem_cons_of_ne_of_not_mem (by decide) (ih free.2)
  | case4 octet rest ascii count low high leads step ih =>
      have larger := continueChar_ne_newline count (leadingBits octet count) low high rest
        (.inr (leading_spec leads).2)
      have behind : LineDecoder.newline ∉ step.2 := by
        intro member
        exact free (List.mem_cons_of_mem _ ((continueChar_suffix _ _ _ _ rest).subset member))
      rw [decodeLossy, if_neg ascii, leads]
      exact List.not_mem_cons_of_ne_of_not_mem larger.symm (ih behind)

end Text

/-! ## Whole lines off a buffer -/

namespace LineDecoder

/-- The text of a line that still has its newline: line ends of either kind are taken off. -/
def wholeLineText (line : List UInt8) : List Char :=
  (decodeLossy line).rdropWhile fun c => c = '\n' ∨ c = '\r'

/-- Takes whole lines off the front of a buffer as long as it has a newline. The rest of it is the
unfinished line. -/
def drain (draft : Draft) (buffer : List UInt8) : LineDecoder × List Frame :=
  if newline ∈ buffer then
    let rest := (buffer.dropWhile (· ≠ newline)).tail
    match wholeLineText (buffer.takeWhile (· ≠ newline) ++ [newline]) with
    | [] =>
        let drained := drain .empty rest
        (drained.1, draft.close?.toList ++ drained.2)
    | line => drain (draft.takeLine line) rest
  else (⟨buffer.reverse, draft⟩, [])
termination_by buffer.length
decreasing_by
  all_goals
    rename_i found
    have filled := List.length_pos_of_mem found
    have shorter := List.length_dropWhile_le (· ≠ newline) buffer
    rw [List.length_tail]
    omega

/-- Takes up a chunk by putting it behind the bytes of the unfinished line. -/
def takeChunk (decoder : LineDecoder) (chunk : List UInt8) : LineDecoder × List Frame :=
  drain decoder.draft (decoder.reversedLine.reverse ++ chunk)

theorem rdropWhile_lineEnds {text : List Char} (free : '\n' ∉ text) :
    (text.rdropWhile fun c => c = '\n' ∨ c = '\r') = text.rdropWhile (· = '\r') := by
  induction text using List.reverseRecOn with
  | nil => rfl
  | append_singleton before last ih =>
      rw [List.mem_append, not_or, List.mem_singleton] at free
      have same : (last = '\n' ∨ last = '\r') ↔ last = '\r' :=
        or_iff_right fun newline => free.2 newline.symm
      simp only [List.rdropWhile_concat, same, ih free.1]

/-- A line is the same text with its newline and without. -/
theorem wholeLineText_concat {line : List UInt8} (free : newline ∉ line) :
    wholeLineText (line ++ [newline]) = lineText line := by
  rw [wholeLineText, decodeLossy_concat_newline, List.rdropWhile_concat_pos _ _ _ (by decide),
    rdropWhile_lineEnds (newline_not_mem_decodeLossy free), lineText_eq]

theorem drain_open (draft : Draft) {buffer : List UInt8} (free : newline ∉ buffer) :
    drain draft buffer = (⟨buffer.reverse, draft⟩, []) := by
  rw [drain, if_neg free]

/-- A newline takes the line before it off the buffer. -/
theorem drain_line (draft : Draft) {line : List UInt8} (free : newline ∉ line)
    (rest : List UInt8) :
    drain draft (line ++ newline :: rest) =
      ((drain (finishLine ⟨line.reverse, draft⟩).1.draft rest).1,
        (finishLine ⟨line.reverse, draft⟩).2.toList ++
          (drain (finishLine ⟨line.reverse, draft⟩).1.draft rest).2) := by
  have before : ∀ byte ∈ line, decide (byte ≠ newline) = true := by
    intro byte member
    apply decide_eq_true
    rintro rfl
    exact free member
  have taken : (line ++ newline :: rest).takeWhile (· ≠ newline) = line := by
    rw [List.takeWhile_append_of_pos before]
    simp
  have left : ((line ++ newline :: rest).dropWhile (· ≠ newline)).tail = rest := by
    rw [List.dropWhile_append_of_pos before]
    simp
  rw [drain, if_pos (by simp), taken, left, wholeLineText_concat free]
  split
  next empty =>
    rw [finishLine_of_empty draft empty]
    rfl
  next filled =>
    rw [finishLine_of_filled draft filled]
    rfl

theorem finishLine_fst (decoder : LineDecoder) :
    decoder.finishLine.1 = ⟨[], decoder.finishLine.1.draft⟩ := by
  simp only [finishLine]
  split
  · rfl
  · rfl

/-- Draining a buffer is going through it byte by byte. -/
theorem drain_eq_feed (draft : Draft) (buffer : List UInt8) :
    drain draft buffer = feed ⟨[], draft⟩ buffer := by
  induction buffer using separated_induction newline generalizing draft with
  | unclosed part free =>
      rw [drain_open _ free, feed_open _ free, List.append_nil]
  | closed line rest free ih =>
      rw [drain_line _ free, feed_line _ free, ih, ← finishLine_fst]

variable {decoder : LineDecoder}

/-- A reader with a buffer and the decoder do the same with a chunk. -/
theorem takeChunk_eq_feed (free : newline ∉ decoder.reversedLine) (chunk : List UInt8) :
    decoder.takeChunk chunk = decoder.feed chunk := by
  have kept : newline ∉ decoder.reversedLine.reverse := by rwa [List.mem_reverse]
  rw [takeChunk, drain_eq_feed, feed_append, feed_open _ kept, List.reverse_reverse,
    List.append_nil]
  rfl

/-! ## Decoders in the middle of a stream -/

/-- The decoders that a stream leads to from its start. -/
inductive Reached : LineDecoder → Prop where
  | initial : Reached initial
  | fed {decoder : LineDecoder} (chunk : List UInt8) :
      Reached decoder → Reached (decoder.feed chunk).1
  | finished {decoder : LineDecoder} : Reached decoder → Reached decoder.finish.1

theorem newline_not_mem_step (free : newline ∉ decoder.reversedLine) (byte : UInt8) :
    newline ∉ (decoder.step byte).1.reversedLine := by
  simp only [step]
  split
  next =>
    rw [finishLine_fst]
    exact List.not_mem_nil
  next other => exact List.not_mem_cons_of_ne_of_not_mem (Ne.symm other) free

theorem newline_not_mem_feed (free : newline ∉ decoder.reversedLine) (chunk : List UInt8) :
    newline ∉ (decoder.feed chunk).1.reversedLine := by
  induction chunk generalizing decoder with
  | nil => exact free
  | cons byte rest ih => exact ih (newline_not_mem_step free byte)

theorem Reached.newline_not_mem (reached : Reached decoder) : newline ∉ decoder.reversedLine := by
  induction reached with
  | initial => exact List.not_mem_nil
  | fed chunk _ free => exact newline_not_mem_feed free chunk
  | finished _ _ =>
      rw [finish_fst]
      exact List.not_mem_nil

theorem feed_newline (decoder : LineDecoder) (rest : List UInt8) :
    (decoder.feed (newline :: rest)).2 =
      decoder.finishLine.2.toList ++ (feed ⟨[], decoder.finishLine.1.draft⟩ rest).2 := by
  rw [← finishLine_fst]
  simp [feed, step]

/-- The end of a stream brings the frame that two newlines bring: the first one finishes the line,
and the second one closes the frame unless the line was empty and has closed it already. -/
theorem feed_two_newlines (decoder : LineDecoder) :
    (decoder.feed [newline, newline]).2 = decoder.finish.2.toList := by
  have blank (draft : Draft) : finishLine ⟨[], draft⟩ = (initial, draft.close?) :=
    finishLine_of_empty draft lineText_nil
  rw [feed_newline, feed_newline, blank, feed_nil, List.append_nil]
  simp only [finishLine, finish]
  split
  · exact List.append_nil _
  · rfl

/-- Where chunks begin and end leaves no trace. Take any decoder that a stream has led to, and the
bytes that follow, cut into chunks in any two ways: the frames are the same, and so are the decoders
afterwards. What the decoder does with a chunk byte by byte is what a reader with a buffer does line
by line. The end of the stream brings the frame that two newlines would bring, if they bring one;
it leaves a decoder as at the start of a stream, for which a second end brings nothing. -/
theorem frames_independent_of_chunks (reached : Reached decoder) :
    (∀ first second : List (List UInt8), first.flatten = second.flatten →
      decoder.feedAll first = decoder.feedAll second) ∧
    (∀ chunk, decoder.feed chunk = decoder.takeChunk chunk) ∧
    decoder.finish.2.toList = (decoder.feed [newline, newline]).2 ∧
    decoder.finish.1 = initial ∧
    decoder.finish.1.finish = (initial, none) := by
  refine ⟨?_, ?_, ?_, finish_fst decoder, ?_⟩
  · intro first second same
    rw [feedAll_eq, feedAll_eq, same]
  · intro chunk
    exact (takeChunk_eq_feed reached.newline_not_mem chunk).symm
  · exact (feed_two_newlines decoder).symm
  · rw [finish_fst]
    exact Prod.ext (finish_fst initial) finish_initial

/-- A decoder in the middle of a character, behind a line with an identifier. -/
def midCharacter : LineDecoder :=
  (initial.feed (encodeUtf8 "id: evt-1\ndata: " ++ [0xE2, 0x82])).1

/-- The character goes on in the next chunk, and one of the line ends is cut in two. -/
theorem midCharacter_frames :
    Reached midCharacter ∧
      (midCharacter.feedAll [[0xAC, 0x0D], [0x0A, 0x0D, 0x0A]]).2 =
        [⟨some "evt-1", none, "€", none⟩] ∧
      midCharacter.feedAll [[0xAC, 0x0D], [0x0A, 0x0D, 0x0A]] =
        midCharacter.feedAll [[0xAC], [], [0x0D, 0x0A, 0x0D], [0x0A]] ∧
      midCharacter.finish.2.toList = (midCharacter.feed [newline, newline]).2 := by
  have reached : Reached midCharacter := .fed _ .initial
  obtain ⟨chunks, -, ending, -⟩ := frames_independent_of_chunks reached
  exact ⟨reached, by decide +kernel, chunks _ _ rfl, ending⟩

end LineDecoder

end LiveJobs
