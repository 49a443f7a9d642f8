import LiveJobs.Time.Civil

/-!
# Instants

A moment in coordinated universal time with nanoseconds. The sixtieth second of a minute is a leap
second: it is kept in the second before it, with a nanosecond part of a thousand million or more,
and so comes after every ordinary moment of that second and before the next one.
-/

namespace LiveJobs.Time

/-- A moment: whole seconds since 1970-01-01T00:00:00Z and nanoseconds within the second. -/
structure Instant where
  second : Int
  nano : Nat
  deriving DecidableEq, Repr, Inhabited

/-- The nanoseconds of a second. -/
def nanosPerSecond : Nat := 1000000000

/-- The nanoseconds of a millisecond. -/
def nanosPerMilli : Nat := 1000000

/-- The seconds of a day. -/
def secondsPerDay : Int := 86400

namespace Instant

/-- Whether one moment comes before another. -/
def before (left right : Instant) : Bool :=
  left.second < right.second || (left.second = right.second && left.nano < right.nano)

/-- The second of the day. -/
def secondOfDay (moment : Instant) : Int := Int.fmod moment.second secondsPerDay

/-- Whether the moment lies in a leap second. -/
def inLeapSecond (moment : Instant) : Bool := nanosPerSecond ≤ moment.nano

/-- The seconds that leap seconds add to a difference: one if the earlier time of day lies in a
leap second that has to be passed. -/
def leapCorrection (later earlier : Instant) : Int :=
  if earlier.secondOfDay < later.secondOfDay ∧ earlier.inLeapSecond then 1
  else if later.secondOfDay < earlier.secondOfDay ∧ later.inLeapSecond then -1
  else 0

/-- The nanoseconds from one moment to a later one; negative if it is earlier. -/
def nanosSince (later earlier : Instant) : Int :=
  (later.second - earlier.second + leapCorrection later earlier) * nanosPerSecond
    + ((later.nano : Int) - earlier.nano)

/-- The whole milliseconds from one moment to a later one, without the part below a millisecond. -/
def millisSince (later earlier : Instant) : Int :=
  Int.tdiv (later.nanosSince earlier) nanosPerMilli

/-- The moment a number of milliseconds later. -/
def addMillis (moment : Instant) (millis : Int) : Instant :=
  let nanos := moment.second * nanosPerSecond + moment.nano + millis * nanosPerMilli
  ⟨Int.fdiv nanos nanosPerSecond, (Int.fmod nanos nanosPerSecond).toNat⟩

@[simp] theorem before_irrefl (moment : Instant) : moment.before moment = false := by
  simp [before]

end Instant

end LiveJobs.Time
