import LiveJobs.Decimal.Shortest
import LiveJobs.Json.Basic

/-!
# Writing JSON text

The compact form of a value: no gaps, members in their order, control characters escaped, all other
characters as they are.
-/

namespace LiveJobs.Json

open LiveJobs.Text LiveJobs.Decimal

/-- One character of a string. -/
def writeChar (c : Char) : List Char :=
  if c = '"' then ['\\', '"']
  else if c = '\\' then ['\\', '\\']
  else if c = '\n' then ['\\', 'n']
  else if c = '\r' then ['\\', 'r']
  else if c = '\t' then ['\\', 't']
  else if c = '\x08' then ['\\', 'b']
  else if c = '\x0c' then ['\\', 'f']
  else if c.toNat < 0x20 then
    ['\\', 'u', '0', '0', hexDigit (c.toNat / 16), hexDigit (c.toNat % 16)]
  else [c]

/-- A string between its quotes. -/
def writeString (text : String) : List Char :=
  '"' :: text.toList.flatMap writeChar ++ ['"']

mutual

/-- The characters of a value. -/
def writeChars : Json → List Char
  | .null => ['n', 'u', 'l', 'l']
  | .bool true => ['t', 'r', 'u', 'e']
  | .bool false => ['f', 'a', 'l', 's', 'e']
  | .int value => (toString value).toList
  | .float value => floatText value
  | .str text => writeString text
  | .arr items => '[' :: writeItems items ++ [']']
  | .obj members => '\x7b' :: writeMembers members ++ ['\x7d']

/-- The items of an array, separated by commas. -/
def writeItems : List Json → List Char
  | [] => []
  | [item] => writeChars item
  | item :: next :: rest => writeChars item ++ ',' :: writeItems (next :: rest)

/-- The members of an object, separated by commas. -/
def writeMembers : List (String × Json) → List Char
  | [] => []
  | [(name, value)] => writeString name ++ ':' :: writeChars value
  | (name, value) :: next :: rest =>
      writeString name ++ ':' :: writeChars value ++ ',' :: writeMembers (next :: rest)

end

/-- The compact text of a value. -/
def write (value : Json) : String :=
  String.ofList (writeChars value)

end LiveJobs.Json
