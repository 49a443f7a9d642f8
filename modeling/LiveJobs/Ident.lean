import LiveJobs.Text.Blank
import LiveJobs.Text.Digits

/-!
# Identifiers

Jobs, resources and pushed events are named by opaque text, tenants by a universally unique
identifier of 128 bits. Identifiers that people type are trimmed and must not be empty; identifiers
inside wire records are taken as they are.
-/

namespace LiveJobs

open LiveJobs.Text

/-- The name of a job. It is the same in every source that reports the job. -/
structure JobId where
  text : String
  deriving DecidableEq, Repr, Inhabited

/-- The name of the resource that a job works on. -/
structure ResourceId where
  text : String
  deriving DecidableEq, Repr, Inhabited

/-- The name of a pushed event. It serves as the token from which a stream is resumed. -/
structure EventId where
  text : String
  deriving DecidableEq, Repr, Inhabited

/-- A tenant, as its thirty-two lower-case hexadecimal digits. -/
structure TenantId where
  digits : List Char
  deriving DecidableEq, Repr

/-- The identifiers that are opaque text. -/
inductive IdentKind where
  | job
  | resource
  | event
  deriving DecidableEq, Repr

/-- The label of an identifier in error texts. -/
def IdentKind.label : IdentKind → String
  | .job => "JobId"
  | .resource => "ResourceId"
  | .event => "EventId"

/-- Why a text does not name what it should. -/
inductive NameError where
  /-- Nothing is left of an identifier once it is trimmed. -/
  | empty (kind : IdentKind)
  /-- The text is no form of a universally unique identifier. -/
  | malformedTenant
  /-- There is no push channel of that name. -/
  | unknownChannel (name : String)
  deriving DecidableEq, Repr

/-- Whether the error is about an identifier, rather than about a name from a fixed list. -/
def NameError.isIdentifier : NameError → Bool
  | .empty _ => true
  | .malformedTenant => true
  | .unknownChannel _ => false

def NameError.message : NameError → String
  | .empty kind => "invalid identifier: " ++ kind.label ++ ": empty"
  | .malformedTenant => "invalid identifier: TenantId: ..."
  | .unknownChannel name => "validation failed: unknown stream key: " ++ name

/-- The text of an identifier: trimmed, and not empty. -/
def identifierText (kind : IdentKind) (text : String) : Except NameError String :=
  let name := trim text
  if name.isEmpty then .error (.empty kind) else .ok name

/-- Reads the name of a job. -/
def JobId.read (text : String) : Except NameError JobId :=
  (identifierText .job text).map JobId.mk

/-- Reads the name of a resource. -/
def ResourceId.read (text : String) : Except NameError ResourceId :=
  (identifierText .resource text).map ResourceId.mk

/-- Reads the name of an event. -/
def EventId.read (text : String) : Except NameError EventId :=
  (identifierText .event text).map EventId.mk

namespace TenantId

/-- Whether every character is a hexadecimal digit. -/
def allHex (text : List Char) : Bool :=
  text.all fun c => (hexValue? c).isSome

/-- The digits in lower case. -/
def ofHex (text : List Char) : TenantId :=
  ⟨text.map fun c => hexDigit ((hexValue? c).getD 0)⟩

/-- The lengths of the groups between the hyphens. -/
def groups : List Nat := [8, 4, 4, 4, 12]

/-- Takes groups of digits that are separated by hyphens; nothing may follow the last group. -/
def joinGroups : List Nat → List Char → Option (List Char)
  | [], _ => none
  | [length], text => if text.length = length then some text else none
  | length :: rest, text =>
      match text.drop length with
      | '-' :: behind => (joinGroups rest behind).map fun joined => text.take length ++ joined
      | _ => none

/-- The hyphenated form. -/
def ofHyphenated? (text : List Char) : Option TenantId :=
  match joinGroups groups text with
  | some digits => if allHex digits then some (ofHex digits) else none
  | none => none

/-- What the form of a resource name begins with, in lower case. -/
def nameStart : List Char := "urn:uuid:".toList

/-- Whether a text begins like a resource name, in letters of either case. -/
def isNamed (text : List Char) : Bool :=
  (text.take nameStart.length).map Char.toLower = nameStart

/-- Reads any of the four forms: plain digits, hyphenated, hyphenated in braces, and hyphenated
behind `urn:uuid:`. Letters may be of either case. -/
def ofChars? (text : List Char) : Option TenantId :=
  if text.length = 32 ∧ allHex text then some (ofHex text)
  else if isNamed text then ofHyphenated? (text.drop nameStart.length)
  else
    match text with
    | '\x7b' :: rest =>
        if rest.getLast? = some '\x7d' then ofHyphenated? rest.dropLast else none
    | _ => ofHyphenated? text

/-- Reads a tenant. -/
def read (text : String) : Except NameError TenantId :=
  match ofChars? text.toList with
  | some tenant => .ok tenant
  | none => .error .malformedTenant

/-- Splits digits into groups. -/
def splitGroups : List Nat → List Char → List (List Char)
  | [], _ => []
  | length :: rest, text => text.take length :: splitGroups rest (text.drop length)

/-- The hyphenated form, in lower case. -/
def text (tenant : TenantId) : String :=
  String.ofList (['-'].intercalate (splitGroups groups tenant.digits))

end TenantId

end LiveJobs
