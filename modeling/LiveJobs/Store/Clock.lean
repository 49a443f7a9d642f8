import LiveJobs.Merge.Stamps

/-!
# The clock of sequences

One clock hands out the sequences of all sources. Pushed events draw a sequence when they are
received, requests when they are issued, so a slow answer cannot overwrite what a fresher source
wrote while the request was under way.
-/

namespace LiveJobs

/-- A clock, which knows the last sequence it has handed out. -/
structure Clock where
  last : Sequence
  deriving DecidableEq, Repr, Inhabited

namespace Clock

/-- A clock that has handed out nothing. Sequences start at one. -/
def initial : Clock := ⟨0⟩

/-- Draws the next sequence. -/
def tick (clock : Clock) : Clock × Sequence := (⟨clock.last + 1⟩, clock.last + 1)

end Clock

end LiveJobs
