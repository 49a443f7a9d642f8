import LiveJobs.Proofs.ByteOrder
import LiveJobs.Text.Percent

/-!
# Percent encoding undone

Bytes are read from the front: where a percent sign is followed by two hexadecimal digits there is
an escape, and every other byte stands for itself. Reading makes a text shorter by its escapes and
by nothing else. Percent encoding leaves the escapes of a text alone, so a text and its encoding are
read alike.
-/

namespace LiveJobs.Text

/-! ## Bytes of a text -/

theorem toList_loop_eq (array : ByteArray) (place : Nat) (taken : List UInt8) :
    ByteArray.toList.loop array place taken = taken.reverse ++ array.data.toList.drop place := by
  fun_induction ByteArray.toList.loop array place taken with
  | case1 place taken inside ih =>
      have within : place < array.data.toList.length := by simpa using inside
      have byte : array.get! place = array.data.toList[place] :=
        getElem!_pos array.data place (by simpa using inside)
      rw [ih, List.drop_eq_getElem_cons within, byte]
      simp
  | case2 place taken outside =>
      have beyond : array.data.toList.length ≤ place := by simpa using outside
      rw [List.drop_eq_nil_of_le beyond, List.append_nil]

theorem encodeUtf8_eq_bytes (text : String) : encodeUtf8 text = bytes text := by
  rw [encodeUtf8, ByteArray.toList, toList_loop_eq]
  rfl

theorem encodeUtf8_eq_flatMap (text : String) :
    encodeUtf8 text = text.toList.flatMap String.utf8EncodeChar := by
  rw [encodeUtf8_eq_bytes, bytes_eq]

theorem utf8EncodeChar_of_lt {c : Char} (ascii : c.toNat < 0x80) :
    String.utf8EncodeChar c = [UInt8.ofNat c.toNat] := by
  rw [String.utf8EncodeChar]
  exact if_pos (Nat.le_of_lt_succ ascii)

theorem toNat_ofNat_of_lt {point : Nat} (ascii : point < 0x80) :
    (Char.ofNat point).toNat = point := by
  have valid : point.isValidChar := .inl (Nat.lt_trans ascii (by decide))
  rw [show Char.ofNat point = Char.ofNatAux point valid from dif_pos valid]
  rfl

theorem le_of_mem_utf8EncodeChar {c : Char} {byte : UInt8} (wide : 0x80 ≤ c.toNat)
    (member : byte ∈ String.utf8EncodeChar c) : 0x80 ≤ byte := by
  rw [UInt8.le_iff_toNat_le]
  rw [String.utf8EncodeChar] at member
  change 0x80 ≤ c.val.toNat at wide
  generalize c.val.toNat = point at member wide
  have notAscii : ¬point ≤ 127 := Nat.not_le_of_lt wide
  simp only [if_neg notAscii] at member
  split_ifs at member
  all_goals
    simp only [List.mem_cons, List.not_mem_nil, or_false] at member
    rcases member with rfl | rfl | rfl | rfl
  all_goals
    simp only [UInt8.toNat_ofNat', UInt8.reduceToNat]
    omega

/-- A byte below 128 belongs to the character of its number. -/
theorem eq_ofNat_of_mem_utf8EncodeChar {c : Char} {byte : UInt8}
    (member : byte ∈ String.utf8EncodeChar c) (ascii : byte < 0x80) :
    c = Char.ofNat byte.toNat := by
  rcases Nat.lt_or_ge c.toNat 0x80 with low | wide
  · rw [utf8EncodeChar_of_lt low, List.mem_singleton] at member
    rw [member, UInt8.toNat_ofNat', Nat.mod_eq_of_lt (Nat.lt_trans low (by decide)),
      Char.ofNat_toNat]
  · exact absurd (le_of_mem_utf8EncodeChar wide member) (UInt8.not_le.2 ascii)

/-! ## Escapes -/

/-- Whether a byte is a hexadecimal digit. -/
def IsHex (byte : UInt8) : Prop := (hexValue? (Char.ofNat byte.toNat)).isSome

instance : DecidablePred IsHex := fun byte =>
  inferInstanceAs (Decidable ((hexValue? (Char.ofNat byte.toNat)).isSome = true))

/-- Whether bytes begin with an escape: a percent sign and two hexadecimal digits. -/
inductive BeginsEscape : List UInt8 → Prop
  | intro {high low : UInt8} (rest : List UInt8) :
      IsHex high → IsHex low → BeginsEscape (0x25 :: high :: low :: rest)

/-- Whether there is an escape among bytes. -/
def HasEscape (bytes : List UInt8) : Prop := ∃ behind, behind <:+ bytes ∧ BeginsEscape behind

variable {bytes rest : List UInt8} {byte high low : UInt8}

theorem not_isHex_percent : ¬IsHex 0x25 := by decide

theorem hasEscape_cons :
    HasEscape (byte :: rest) ↔ BeginsEscape (byte :: rest) ∨ HasEscape rest := by
  simp only [HasEscape, List.suffix_cons_iff, or_and_right, exists_or, exists_eq_left]

theorem not_hasEscape_of_not_mem {text : String} (free : '%' ∉ text.toList) :
    ¬HasEscape (encodeUtf8 text) := by
  rintro ⟨behind, suffix, begins⟩
  refine free ?_
  cases begins with
  | intro rest hexHigh hexLow =>
      have percent : 0x25 ∈ encodeUtf8 text := suffix.subset List.mem_cons_self
      rw [encodeUtf8_eq_flatMap, List.mem_flatMap] at percent
      obtain ⟨c, member, among⟩ := percent
      rw [eq_ofNat_of_mem_utf8EncodeChar among (by decide)] at member
      exact member

/-- Bytes are read one escape or one other byte at a time. -/
@[elab_as_elim]
theorem escapeInduction {motive : List UInt8 → Prop} (bytes : List UInt8) (nil : motive [])
    (escape : ∀ high low rest, IsHex high → IsHex low → motive rest →
      motive (0x25 :: high :: low :: rest))
    (other : ∀ byte rest, ¬BeginsEscape (byte :: rest) → motive rest → motive (byte :: rest)) :
    motive bytes := by
  induction short : bytes.length using Nat.strongRecOn generalizing bytes with
  | ind length ih =>
      subst short
      cases bytes with
      | nil => exact nil
      | cons byte rest =>
          by_cases begins : BeginsEscape (byte :: rest)
          · cases begins with
            | intro rest hexHigh hexLow =>
                exact escape _ _ rest hexHigh hexLow (ih rest.length (by simp; omega) rest rfl)
          · exact other byte rest begins (ih rest.length (by simp) rest rfl)

theorem percentDecodeBytes_escape {upper lower : Nat}
    (highValue : hexValue? (Char.ofNat high.toNat) = some upper)
    (lowValue : hexValue? (Char.ofNat low.toNat) = some lower) :
    percentDecodeBytes (0x25 :: high :: low :: rest) =
      UInt8.ofNat (upper * 16 + lower) :: percentDecodeBytes rest := by
  rw [percentDecodeBytes, highValue, lowValue]

theorem percentDecodeBytes_other (stands : ¬BeginsEscape (byte :: rest)) :
    percentDecodeBytes (byte :: rest) = byte :: percentDecodeBytes rest := by
  by_cases percent : ∃ high low behind, byte = 0x25 ∧ rest = high :: low :: behind
  · obtain ⟨high, low, behind, rfl, rfl⟩ := percent
    rw [percentDecodeBytes]
    split
    next hexHigh hexLow =>
      refine absurd (.intro behind ?_ ?_) stands
      · rw [IsHex, hexHigh]; rfl
      · rw [IsHex, hexLow]; rfl
    next => rfl
  · rw [percentDecodeBytes]
    intro high low behind same sameRest
    exact percent ⟨high, low, behind, same, sameRest⟩

theorem percentDecodeBytes_eq_self (free : ¬HasEscape bytes) :
    percentDecodeBytes bytes = bytes := by
  induction bytes with
  | nil => rw [percentDecodeBytes]
  | cons byte rest ih =>
      rw [hasEscape_cons, not_or] at free
      rw [percentDecodeBytes_other free.1, ih free.2]

theorem exists_percentDecodeBytes_escape (hexHigh : IsHex high) (hexLow : IsHex low)
    (rest : List UInt8) :
    ∃ byte, percentDecodeBytes (0x25 :: high :: low :: rest) = byte :: percentDecodeBytes rest := by
  obtain ⟨upper, highValue⟩ := Option.isSome_iff_exists.1 hexHigh
  obtain ⟨lower, lowValue⟩ := Option.isSome_iff_exists.1 hexLow
  exact ⟨_, percentDecodeBytes_escape highValue lowValue⟩

theorem length_percentDecodeBytes_le (bytes : List UInt8) :
    (percentDecodeBytes bytes).length ≤ bytes.length := by
  induction bytes using escapeInduction with
  | nil => rw [percentDecodeBytes]
  | escape high low rest hexHigh hexLow ih =>
      obtain ⟨byte, read⟩ := exists_percentDecodeBytes_escape hexHigh hexLow rest
      rw [read]
      simp only [List.length_cons]
      omega
  | other byte rest stands ih =>
      rw [percentDecodeBytes_other stands]
      exact Nat.succ_le_succ ih

/-- Bytes with an escape get shorter. -/
theorem not_hasEscape_of_length_le (kept : bytes.length ≤ (percentDecodeBytes bytes).length) :
    ¬HasEscape bytes := by
  induction bytes using escapeInduction with
  | nil =>
      rintro ⟨behind, suffix, begins⟩
      rw [List.suffix_nil.1 suffix] at begins
      cases begins
  | escape high low rest hexHigh hexLow ih =>
      obtain ⟨byte, read⟩ := exists_percentDecodeBytes_escape hexHigh hexLow rest
      rw [read] at kept
      have short := length_percentDecodeBytes_le rest
      simp only [List.length_cons] at kept
      omega
  | other byte rest stands ih =>
      rw [percentDecodeBytes_other stands] at kept
      rw [hasEscape_cons, not_or]
      exact ⟨stands, ih (Nat.le_of_succ_le_succ kept)⟩

/-! ## Encoding -/

/-- The byte of the hexadecimal digit of a value below sixteen. -/
def hexByte (value : Nat) : UInt8 := UInt8.ofNat (hexDigitUpper value).toNat

/-- What percent encoding writes for a byte. -/
def encodedByte (plain : UInt8 → Bool) (byte : UInt8) : List UInt8 :=
  if plain byte then [byte] else [0x25, hexByte (byte.toNat / 16), hexByte (byte.toNat % 16)]

/-- Whether an encoding leaves escapes alone. -/
structure KeepsEscapes (plain : UInt8 → Bool) : Prop where
  ascii : ∀ byte, plain byte → byte < 0x80
  percent : plain 0x25
  hex : ∀ byte, IsHex byte → plain byte

variable {plain : UInt8 → Bool}

theorem hexDigitUpper_ascii : ∀ value < 16, (hexDigitUpper value).toNat < 0x80 := by decide

theorem hexValue?_hexDigitUpper : ∀ value < 16, hexValue? (hexDigitUpper value) = some value := by
  decide

theorem ofNat_hexByte {value : Nat} (small : value < 16) :
    Char.ofNat (hexByte value).toNat = hexDigitUpper value := by
  have ascii := hexDigitUpper_ascii value small
  rw [hexByte, UInt8.toNat_ofNat', Nat.mod_eq_of_lt (Nat.lt_trans ascii (by decide)),
    Char.ofNat_toNat]

theorem halves_lt (byte : UInt8) : byte.toNat / 16 < 16 ∧ byte.toNat % 16 < 16 := by
  have below : byte.toNat < 256 := byte.toNat_lt
  omega

theorem percentDecodeBytes_escaped (byte : UInt8) (rest : List UInt8) :
    percentDecodeBytes (0x25 :: hexByte (byte.toNat / 16) :: hexByte (byte.toNat % 16) :: rest) =
      byte :: percentDecodeBytes rest := by
  obtain ⟨upper, lower⟩ := halves_lt byte
  have highValue := hexValue?_hexDigitUpper _ upper
  have lowValue := hexValue?_hexDigitUpper _ lower
  rw [← ofNat_hexByte upper] at highValue
  rw [← ofNat_hexByte lower] at lowValue
  rw [percentDecodeBytes_escape highValue lowValue, Nat.div_add_mod', UInt8.ofNat_toNat]

/-- A digit in front of what is written stood in front of the bytes as well. -/
theorem exists_of_encoded_eq_cons (digit : IsHex byte)
    (written : bytes.flatMap (encodedByte plain) = byte :: rest) :
    ∃ behind, bytes = byte :: behind ∧ behind.flatMap (encodedByte plain) = rest := by
  cases bytes with
  | nil => cases written
  | cons first behind =>
      rw [List.flatMap_cons, encodedByte] at written
      split at written
      · cases written
        exact ⟨behind, rfl, rfl⟩
      · cases written
        exact absurd digit not_isHex_percent

/-- What is written for bytes is read as the bytes are. -/
theorem percentDecodeBytes_encoded (keeps : KeepsEscapes plain) (bytes : List UInt8) :
    percentDecodeBytes (bytes.flatMap (encodedByte plain)) = percentDecodeBytes bytes := by
  induction bytes using escapeInduction with
  | nil => rfl
  | escape high low rest hexHigh hexLow ih =>
      obtain ⟨upper, highValue⟩ := Option.isSome_iff_exists.1 hexHigh
      obtain ⟨lower, lowValue⟩ := Option.isSome_iff_exists.1 hexLow
      have written : (0x25 :: high :: low :: rest).flatMap (encodedByte plain) =
          0x25 :: high :: low :: rest.flatMap (encodedByte plain) := by
        simp only [List.flatMap_cons, encodedByte, if_pos keeps.percent,
          if_pos (keeps.hex high hexHigh), if_pos (keeps.hex low hexLow)]
        rfl
      rw [written, percentDecodeBytes_escape highValue lowValue,
        percentDecodeBytes_escape highValue lowValue, ih]
  | other byte rest stands ih =>
      rw [percentDecodeBytes_other stands, List.flatMap_cons]
      by_cases kept : plain byte
      · rw [encodedByte, if_pos kept, List.singleton_append, percentDecodeBytes_other, ih]
        -- What is written begins with an escape only where the bytes do.
        intro begins
        generalize written : rest.flatMap (encodedByte plain) = behind at begins
        cases begins with
        | intro last hexHigh hexLow =>
            obtain ⟨second, rfl, writtenToo⟩ := exists_of_encoded_eq_cons hexHigh written
            obtain ⟨third, rfl, -⟩ := exists_of_encoded_eq_cons hexLow writtenToo
            exact stands (.intro third hexHigh hexLow)
      · rw [encodedByte, if_neg kept]
        change percentDecodeBytes (0x25 :: hexByte (byte.toNat / 16) ::
          hexByte (byte.toNat % 16) :: rest.flatMap (encodedByte plain)) = _
        rw [percentDecodeBytes_escaped, ih]

theorem encodeUtf8_percentEncode (keeps : KeepsEscapes plain) (text : String) :
    encodeUtf8 (percentEncode plain text) = (encodeUtf8 text).flatMap (encodedByte plain) := by
  rw [percentEncode, encodeUtf8_eq_flatMap (String.ofList _), String.toList_ofList,
    List.flatMap_assoc]
  congr 1
  funext byte
  rw [encodedByte]
  split
  case isTrue kept =>
    have ascii : byte.toNat < 0x80 := UInt8.lt_iff_toNat_lt.1 (keeps.ascii byte kept)
    have number := toNat_ofNat_of_lt ascii
    rw [List.flatMap_singleton, utf8EncodeChar_of_lt (number.symm ▸ ascii), number,
      UInt8.ofNat_toNat]
  case isFalse =>
    obtain ⟨upper, lower⟩ := halves_lt byte
    rw [escapedByte]
    simp only [List.flatMap_cons, List.flatMap_nil,
      utf8EncodeChar_of_lt (hexDigitUpper_ascii _ upper),
      utf8EncodeChar_of_lt (hexDigitUpper_ascii _ lower)]
    rfl

/-- A text and its encoding are read alike. -/
theorem percentDecodeBytes_percentEncode (keeps : KeepsEscapes plain) (text : String) :
    percentDecodeBytes (encodeUtf8 (percentEncode plain text)) =
      percentDecodeBytes (encodeUtf8 text) := by
  rw [encodeUtf8_percentEncode keeps, percentDecodeBytes_encoded keeps]

/-- A character of an encoded text that is neither a percent sign nor a digit stands for itself. -/
theorem mem_of_mem_percentEncode (keeps : KeepsEscapes plain) {text : String} {c : Char}
    (member : c ∈ (percentEncode plain text).toList) (notPercent : c ≠ '%')
    (notHex : hexValue? c = none) : c ∈ text.toList ∧ plain (UInt8.ofNat c.toNat) := by
  rw [percentEncode, String.toList_ofList, List.mem_flatMap] at member
  obtain ⟨byte, among, member⟩ := member
  split at member
  case isTrue kept =>
    have ascii := keeps.ascii byte kept
    rw [List.mem_singleton] at member
    rw [encodeUtf8_eq_flatMap, List.mem_flatMap] at among
    obtain ⟨first, inside, among⟩ := among
    rw [eq_ofNat_of_mem_utf8EncodeChar among ascii, ← member] at inside
    rw [member, toNat_ofNat_of_lt (UInt8.lt_iff_toNat_lt.1 ascii), UInt8.ofNat_toNat]
    exact ⟨member ▸ inside, kept⟩
  case isFalse =>
    obtain ⟨upper, lower⟩ := halves_lt byte
    simp only [escapedByte, List.mem_cons, List.not_mem_nil, or_false] at member
    rcases member with rfl | rfl | rfl
    · exact absurd rfl notPercent
    · rw [hexValue?_hexDigitUpper _ upper] at notHex
      cases notHex
    · rw [hexValue?_hexDigitUpper _ lower] at notHex
      cases notHex

end LiveJobs.Text
