import LiveJobs.Event.Frame
import LiveJobs.Text.Blank
import LiveJobs.Text.Digits
import LiveJobs.Text.Utf8

/-!
# Event-stream lines

Frames arrive as lines of `field: value`, and an empty line closes a frame. The decoder takes one
byte at a time and keeps the bytes of the line it is in, so how the bytes are cut into chunks makes
no difference.
-/

namespace LiveJobs

open LiveJobs.Text

/-- The fields of the frame that is being read. -/
structure Draft where
  id : Option String
  event : Option String
  /-- The values of the data lines so far, joined by newlines; absent before the first one. -/
  data : Option String
  retry : Option Nat
  deriving DecidableEq, Repr, Inhabited

namespace Draft

/-- A frame of which nothing has been read. -/
def empty : Draft := ⟨none, none, none, none⟩

/-- The frame that an empty line closes; one that says nothing is dropped. -/
def close? (draft : Draft) : Option Frame :=
  let frame : Frame := ⟨draft.id, draft.event, draft.data.getD "", draft.retry⟩
  if frame.isBlank then none else some frame

/-- The data with one more line. -/
def appendData (value : String) : Option String → String
  | none => value
  | some data => data ++ "\n" ++ value

/-- Splits a line at its first colon and takes one space off the value. A line without a colon is a
field with an empty value. -/
def splitLine (line : List Char) : List Char × List Char :=
  let field := line.takeWhile (· ≠ ':')
  match line.dropWhile (· ≠ ':') with
  | _ :: ' ' :: value => (field, value)
  | _ :: value => (field, value)
  | [] => (field, [])

/-- Takes up one line that is not empty. Comments, which begin with a colon, and unknown fields
count for nothing. A reconnect delay that is no number of 64 bits takes an earlier one back. -/
def takeLine (draft : Draft) (line : List Char) : Draft :=
  if line.head? = some ':' then draft
  else
    let (field, value) := splitLine line
    let text := String.ofList value
    if field = ['i', 'd'] then { draft with id := some text }
    else if field = ['e', 'v', 'e', 'n', 't'] then { draft with event := some text }
    else if field = ['d', 'a', 't', 'a'] then
      { draft with data := some (appendData text draft.data) }
    else if field = ['r', 'e', 't', 'r', 'y'] then
      { draft with retry := (readUnsigned maxWord64 (trimChars value)).toOption }
    else draft

end Draft

/-- The text of a line without the carriage returns at its end. -/
def lineText (bytes : List UInt8) : List Char :=
  ((decodeLossy bytes).reverse.dropWhile (· = '\r')).reverse

/-- A decoder in the middle of a stream. -/
structure LineDecoder where
  /-- The bytes of the unfinished line, the last one first. -/
  reversedLine : List UInt8
  draft : Draft
  deriving DecidableEq, Repr, Inhabited

namespace LineDecoder

/-- The decoder at the start of a stream. -/
def initial : LineDecoder := ⟨[], .empty⟩

/-- The byte that ends a line. -/
def newline : UInt8 := 0x0A

/-- Takes up a finished line: an empty one closes the frame. -/
def finishLine (decoder : LineDecoder) : LineDecoder × Option Frame :=
  match lineText decoder.reversedLine.reverse with
  | [] => (initial, decoder.draft.close?)
  | line => (⟨[], decoder.draft.takeLine line⟩, none)

/-- Takes up one byte, which completes at most one frame. -/
def step (decoder : LineDecoder) (byte : UInt8) : LineDecoder × Option Frame :=
  if byte = newline then decoder.finishLine
  else (⟨byte :: decoder.reversedLine, decoder.draft⟩, none)

/-- Takes up a chunk and gives the frames that it completes. -/
def feed (decoder : LineDecoder) : List UInt8 → LineDecoder × List Frame
  | [] => (decoder, [])
  | byte :: rest =>
      let stepped := decoder.step byte
      let fed := feed stepped.1 rest
      (fed.1, stepped.2.toList ++ fed.2)

/-- Ends the stream: an unfinished line counts as finished, and the frame is closed. -/
def finish (decoder : LineDecoder) : LineDecoder × Option Frame :=
  match lineText decoder.reversedLine.reverse with
  | [] => (initial, decoder.draft.close?)
  | line => (initial, (decoder.draft.takeLine line).close?)

@[simp] theorem feed_nil (decoder : LineDecoder) : decoder.feed [] = (decoder, []) := rfl

/-- Feeding two chunks is feeding them as one. -/
theorem feed_append (decoder : LineDecoder) (first second : List UInt8) :
    decoder.feed (first ++ second) =
      let fed := decoder.feed first
      let behind := fed.1.feed second
      (behind.1, fed.2 ++ behind.2) := by
  induction first generalizing decoder with
  | nil => rfl
  | cons byte rest ih => simp [feed, ih]

@[simp] theorem finish_fst (decoder : LineDecoder) : decoder.finish.1 = initial := by
  unfold finish
  split <;> rfl

end LineDecoder

end LiveJobs
