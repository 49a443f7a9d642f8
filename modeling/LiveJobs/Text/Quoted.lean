import LiveJobs.Text.Blank
import LiveJobs.Text.Digits
import LiveJobs.Text.Pictureless

/-!
# Quoted text

A text between double quotes, written so that every character can be told apart: quotes and
backslashes are escaped, and characters that have no picture of their own are written by number.
-/

namespace LiveJobs.Text

/-- Whether a character may stand in a quoted text as it is. -/
def showsItself (c : Char) : Bool :=
  !(inRanges pictureless c.toNat || inRanges extending c.toNat)

/-- The written form of one character of a quoted text. -/
def quoteChar (c : Char) : List Char :=
  if c = '"' then ['\\', '"']
  else if c = '\\' then ['\\', '\\']
  else if c = '\n' then ['\\', 'n']
  else if c = '\t' then ['\\', 't']
  else if c = '\r' then ['\\', 'r']
  else if c = '\x00' then ['\\', '0']
  else if showsItself c then [c]
  else ['\\', 'u', '\x7b'] ++ Nat.toDigits 16 c.toNat ++ ['\x7d']

/-- The quoted form of a text. -/
def quoted (text : String) : String :=
  String.ofList (['"'] ++ text.toList.flatMap quoteChar ++ ['"'])

end LiveJobs.Text
