import LiveJobs.Text.Digits
import LiveJobs.Text.Utf8

/-!
# Text inside addresses

Two ways of writing arbitrary text in the target of a request. Percent encoding writes each byte
outside a chosen set as `%` and two hexadecimal digits. Form encoding keeps letters, digits and
four marks, writes a space as `+`, and percent-encodes all other bytes.
-/

namespace LiveJobs.Text

/-- Whether a byte is an ASCII letter or digit. -/
def isAlphanumeric (byte : UInt8) : Bool :=
  (0x30 ≤ byte && byte ≤ 0x39) || (0x41 ≤ byte && byte ≤ 0x5A) || (0x61 ≤ byte && byte ≤ 0x7A)

/-- A byte as `%` and two upper-case hexadecimal digits. -/
def escapedByte (byte : UInt8) : List Char :=
  ['%', hexDigitUpper (byte.toNat / 16), hexDigitUpper (byte.toNat % 16)]

/-- Writes the bytes of a text, leaving those in `plain` as they are. -/
def percentEncode (plain : UInt8 → Bool) (text : String) : String :=
  String.ofList <| (encodeUtf8 text).flatMap fun byte =>
    if plain byte then [Char.ofNat byte.toNat] else escapedByte byte

/-- One byte of a form-encoded text. -/
def formByte (byte : UInt8) : List Char :=
  if isAlphanumeric byte || [0x2A, 0x2D, 0x2E, 0x5F].contains byte then [Char.ofNat byte.toNat]
  else if byte = 0x20 then ['+']
  else escapedByte byte

/-- Form encoding of a text. -/
def formEncode (text : String) : String :=
  String.ofList ((encodeUtf8 text).flatMap formByte)

/-- The query `name=value&…` of a list of parameters. -/
def formQuery (parameters : List (String × String)) : String :=
  "&".intercalate (parameters.map fun parameter =>
    formEncode parameter.1 ++ "=" ++ formEncode parameter.2)

/-- Undoes percent encoding on bytes. A `%` without two hexadecimal digits behind it stands for
itself. -/
def percentDecodeBytes : List UInt8 → List UInt8
  | [] => []
  | 0x25 :: high :: low :: rest =>
      match hexValue? (Char.ofNat high.toNat), hexValue? (Char.ofNat low.toNat) with
      | some upper, some lower => UInt8.ofNat (upper * 16 + lower) :: percentDecodeBytes rest
      | _, _ => 0x25 :: percentDecodeBytes (high :: low :: rest)
  | byte :: rest => byte :: percentDecodeBytes rest
termination_by bytes => bytes.length

end LiveJobs.Text
