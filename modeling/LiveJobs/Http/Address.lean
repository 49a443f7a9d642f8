import LiveJobs.Text.Digits
import LiveJobs.Text.Percent

/-!
# Web addresses

How the text of an address is taken apart into the host that is asked and the target that it is
asked for. Only addresses of the web are read: `http` or `https`, a host, a path, and a query. The
path is brought into its normal form, in which no segment stands for its own or the outer level and
every byte that has no place in a path is percent-encoded. What follows a `#` is not sent.
-/

namespace LiveJobs.Http

open LiveJobs.Text

/-- A web address. -/
structure Address where
  secure : Bool
  /-- The host, with the number behind its colon if there is one. -/
  authority : String
  /-- The segments of the path, percent-encoded. -/
  segments : List String
  /-- The query behind the `?`, percent-encoded. -/
  query : Option String
  deriving DecidableEq, Repr

namespace Address

/-- The characters that an address is freed of at both ends: spaces and control characters. -/
def isMargin (c : Char) : Bool := c.toNat ≤ 0x20

/-- The characters that count for nothing inside an address. -/
def invisible : List Char := ['\t', '\n', '\r']

/-- The text without its margins and without line breaks and tabs inside. -/
def clean (text : String) : List Char :=
  let started := text.toList.dropWhile isMargin
  let closed := (started.reverse.dropWhile isMargin).reverse
  closed.filter fun c => !invisible.contains c

/-- Takes a word off the front of a text, in letters of either case. -/
def takeWord? (word : List Char) (text : List Char) : Option (List Char) :=
  if (text.take word.length).map Char.toLower = word then some (text.drop word.length) else none

/-- Whether an address is a secure one, and what follows the name of its scheme. -/
def scheme? (text : List Char) : Option (Bool × List Char) :=
  match takeWord? "https:".toList text with
  | some rest => some (true, rest)
  | none => (takeWord? "http:".toList text).map fun rest => (false, rest)

/-- A slash of either kind. -/
def isSlash (c : Char) : Bool := c = '/' || c = '\\'

/-- The characters that end the authority. -/
def endsAuthority (c : Char) : Bool := isSlash c || c = '?' || c = '#'

/-- Printable characters that have no place in the name of a host. -/
def notInHost : List Char := ['<', '>', '@', '[', ']', '^', '|', '%', ':']

/-- Whether a character may stand in the name of a host. -/
def inHost (c : Char) : Bool :=
  0x20 < c.toNat && c.toNat ≠ 0x7F && !notInHost.contains c

/-- Whether a text is the name of a host, with or without a number of 16 bits behind a colon. -/
def isAuthority (text : List Char) : Bool :=
  let host := text.takeWhile (· ≠ ':')
  let number := (text.drop host.length).drop 1
  !host.isEmpty && host.all inHost &&
    (number.isEmpty || match readDigits 65535 0 number with
      | .ok _ => true
      | .error _ => false)

/-- The part of an authority behind the name of a user. -/
def authority? (text : List Char) : Option String :=
  let host := (text.reverse.takeWhile (· ≠ '@')).reverse
  if isAuthority host then some (String.ofList host) else none

/-- Printable bytes that are escaped in a path. -/
def escapedInPath : List UInt8 := [0x22, 0x23, 0x3C, 0x3E, 0x3F, 0x60, 0x7B, 0x7D]

/-- Printable bytes that are escaped in a query. -/
def escapedInQuery : List UInt8 := [0x22, 0x23, 0x27, 0x3C, 0x3E]

/-- Whether a byte stands for itself where some printable bytes are escaped. -/
def isPlain (escaped : List UInt8) (byte : UInt8) : Bool :=
  0x20 < byte && byte < 0x7F && !escaped.contains byte

/-- Splits a path at its slashes. -/
def splitPath : List Char → List (List Char)
  | [] => [[]]
  | c :: rest =>
      match splitPath rest with
      | [] => [[c]]
      | first :: others => if isSlash c then [] :: first :: others else (c :: first) :: others

/-- The text of a segment with percent-encoded dots written out. -/
def writeDots : List Char → List Char
  | '%' :: '2' :: 'e' :: rest => '.' :: writeDots rest
  | '%' :: '2' :: 'E' :: rest => '.' :: writeDots rest
  | c :: rest => c :: writeDots rest
  | [] => []

/-- Whether a segment stands for its own level. -/
def isSelf (segment : List Char) : Bool := writeDots segment = ['.']

/-- Whether a segment stands for the outer level. -/
def isOuter (segment : List Char) : Bool := writeDots segment = ['.', '.']

/-- The normal form of segments, on top of those before them, the last one first. -/
def normalize (before : List (List Char)) : List (List Char) → List (List Char)
  | [] => before.reverse
  | [segment] =>
      if isOuter segment then ([] :: before.drop 1).reverse
      else if isSelf segment then ([] :: before).reverse
      else (segment :: before).reverse
  | segment :: rest =>
      if isOuter segment then normalize (before.drop 1) rest
      else if isSelf segment then normalize before rest
      else normalize (segment :: before) rest

/-- The segments of a path. -/
def segmentsOf (path : List Char) : List String :=
  let behind := if path.head?.any isSlash then path.drop 1 else path
  (normalize [] (splitPath behind)).map fun segment =>
    percentEncode (isPlain escapedInPath) (String.ofList segment)

/-- The query that a text begins with. -/
def queryOf : List Char → Option String
  | '?' :: rest => some (percentEncode (isPlain escapedInQuery) (String.ofList rest))
  | _ => none

/-- Reads a web address. -/
def read? (text : String) : Option Address := do
  let (secure, rest) ← scheme? (clean text)
  let behind := rest.dropWhile isSlash
  let authority ← authority? (behind.takeWhile fun c => !endsAuthority c)
  let place := (behind.dropWhile fun c => !endsAuthority c).takeWhile (· ≠ '#')
  some ⟨secure, authority, segmentsOf (place.takeWhile (· ≠ '?')),
    queryOf (place.dropWhile (· ≠ '?'))⟩

/-- The address with more parameters in its query. -/
def withParameters (address : Address) (parameters : List (String × String)) : Address :=
  let added := formQuery parameters
  let query :=
    match address.query with
    | none => added
    | some "" => added
    | some query => if added.isEmpty then query else query ++ "&" ++ added
  { address with query := if query.isEmpty then none else some query }

/-- The path as it is sent. -/
def path (address : Address) : String := "/" ++ "/".intercalate address.segments

/-- The path and the query as they are sent. -/
def target (address : Address) : String :=
  match address.query with
  | none => address.path
  | some query => address.path ++ "?" ++ query

end Address

end LiveJobs.Http
