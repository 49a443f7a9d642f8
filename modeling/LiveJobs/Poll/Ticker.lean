/-!
# Tickers

A ticker is due once every period. A tick that is taken on time, or a little late, keeps the
rhythm; one that is taken too late shifts it, so that missed ticks are never made up for in a
burst.
-/

namespace LiveJobs

/-- A ticker. Times are in milliseconds. -/
structure Ticker where
  period : Nat
  /-- When the next tick is due. -/
  dueAt : Nat
  deriving DecidableEq, Repr

namespace Ticker

/-- How late a tick may be taken without shifting the rhythm. -/
def tolerance : Nat := 5

/-- A ticker whose first tick is due at once. -/
def start (period now : Nat) : Ticker := ⟨period, now⟩

/-- Whether a tick is due. -/
def isDue (ticker : Ticker) (now : Nat) : Bool := ticker.dueAt ≤ now

/-- Takes the tick that is due. -/
def take (ticker : Ticker) (now : Nat) : Ticker :=
  if ticker.dueAt + tolerance < now then { ticker with dueAt := now + ticker.period }
  else { ticker with dueAt := ticker.dueAt + ticker.period }

/-- The next tick is due one period from now. -/
def reset (ticker : Ticker) (now : Nat) : Ticker := { ticker with dueAt := now + ticker.period }

/-- The next tick is due now. -/
def resetNow (ticker : Ticker) (now : Nat) : Ticker := { ticker with dueAt := now }

end Ticker

end LiveJobs
