/-!
# Frames

One message of a push stream before its payload is looked at.
-/

namespace LiveJobs

/-- A message of a push stream. -/
structure Frame where
  id : Option String
  event : Option String
  data : String
  /-- The delay before a reconnect that the server asks for, in milliseconds. -/
  retry : Option Nat
  deriving DecidableEq, Repr, Inhabited

/-- Whether a frame says nothing at all. -/
def Frame.isBlank (frame : Frame) : Bool :=
  frame.id.isNone && frame.event.isNone && frame.data.isEmpty && frame.retry.isNone

/-- The identifier of a frame; an empty one is none. -/
def Frame.token? (frame : Frame) : Option String :=
  frame.id.filter fun id => !id.isEmpty

end LiveJobs
