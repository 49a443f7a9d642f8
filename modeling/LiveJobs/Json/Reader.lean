import LiveJobs.Json.Outline
import LiveJobs.Json.Skim

/-!
# Reading JSON text

A strict reader: no comments, no trailing commas, no text behind the value, and at most 127 nested
arrays and objects. Every reading function returns the value with the text behind it; members keep
their order and their repetitions. Members that do not count by the outline of what is read are
passed over, and left out of the value.
-/

namespace LiveJobs.Json

/-- A reader takes a value off the front of a text. -/
abbrev Reader := List Char → Option (Json × List Char)

/-- The items of an array from its first item on, up to and over the closing bracket. Each item
takes at least one character, so the length of the text bounds their number. -/
def readItems (inner : Outline → Reader) (others : Outline) :
    (fuel : Nat) → (leading : List Outline) → List Char → Option (List Json × List Char)
  | 0, _, _ => none
  | fuel + 1, leading, input =>
      match inner (leading.headD others) input with
      | none => none
      | some (item, rest) =>
          match skipGap rest with
          | ']' :: behind => some ([item], behind)
          | ',' :: behind =>
              (readItems inner others fuel leading.tail behind).map fun read =>
                (item :: read.1, read.2)
          | _ => none

/-- An array behind its opening bracket. -/
def readArray (inner : Outline → Reader) (outline : Outline) (input : List Char) :
    Option (Json × List Char) :=
  match skipGap input with
  | ']' :: rest => some (.arr [], rest)
  | rest =>
      (readItems inner outline.others rest.length outline.leading rest).map fun read =>
        (.arr read.1, read.2)

/-- The value of a member, if the member counts. -/
def readMemberValue (inner : Outline → Reader) (outline : Outline) (name : String)
    (input : List Char) : Option (Option (String × Json) × List Char) :=
  match outline.member? name with
  | some outline => (inner outline input).map fun read => (some (name, read.1), read.2)
  | none => (skim input).map fun rest => (none, rest)

/-- One member: a name, a colon and a value. -/
def readMember (inner : Outline → Reader) (outline : Outline) (input : List Char) :
    Option (Option (String × Json) × List Char) :=
  match skipGap input with
  | '"' :: behindQuote =>
      match readString behindQuote with
      | none => none
      | some (name, behindName) =>
          match skipGap behindName with
          | ':' :: behindColon => readMemberValue inner outline name behindColon
          | _ => none
  | _ => none

/-- The members of an object from its first member on, up to and over the closing brace. -/
def readMembers (inner : Outline → Reader) (outline : Outline) :
    (fuel : Nat) → List Char → Option (List (String × Json) × List Char)
  | 0, _ => none
  | fuel + 1, input =>
      match readMember inner outline input with
      | none => none
      | some (member, rest) =>
          match skipGap rest with
          | '\x7d' :: behind => some (member.toList, behind)
          | ',' :: behind =>
              (readMembers inner outline fuel behind).map fun read =>
                (member.toList ++ read.1, read.2)
          | _ => none

/-- An object behind its opening brace. -/
def readObject (inner : Outline → Reader) (outline : Outline) (input : List Char) :
    Option (Json × List Char) :=
  match skipGap input with
  | '\x7d' :: rest => some (.obj [], rest)
  | rest =>
      (readMembers inner outline rest.length rest).map fun read => (.obj read.1, read.2)

/-- A value, with the reader for what is nested inside it, if anything may be. -/
def readLevel (inner : Option (Outline → Reader)) (outline : Outline) (input : List Char) :
    Option (Json × List Char) :=
  match skipGap input with
  | 'n' :: 'u' :: 'l' :: 'l' :: rest => some (.null, rest)
  | 't' :: 'r' :: 'u' :: 'e' :: rest => some (.bool true, rest)
  | 'f' :: 'a' :: 'l' :: 's' :: 'e' :: rest => some (.bool false, rest)
  | '"' :: rest => (readString rest).map fun read => (.str read.1, read.2)
  | '[' :: rest => inner.bind fun inner => readArray inner outline rest
  | '\x7b' :: rest => inner.bind fun inner => readObject inner outline rest
  | rest => readNumber rest

/-- A value with at most `depth` nested arrays and objects among the parts that count. -/
def readValue : (depth : Nat) → Outline → Reader
  | 0 => readLevel none
  | depth + 1 => readLevel (some (readValue depth))

/-- The deepest nesting that is read. -/
def deepest : Nat := 127

/-- Reads the parts of a whole text that count, as they are written. -/
def parseOutlined (outline : Outline) (text : List Char) : Option Json :=
  match readValue deepest outline text with
  | some (value, rest) => if (skipGap rest).isEmpty then some value else none
  | none => none

/-- Reads a whole text as a canonical value: of members with one name the last one counts. -/
def parse (text : List Char) : Option Json :=
  (parseOutlined .whole text).map canonical

end LiveJobs.Json
