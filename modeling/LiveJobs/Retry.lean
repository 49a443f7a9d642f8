import LiveJobs.Fault

/-!
# Retry policies

How often and after which delays something that failed is tried again. Delays are whole
milliseconds. They grow exponentially up to a cap or stay fixed, and are spread by a jitter that
depends on the attempt alone, so that a schedule is the same every time.
-/

namespace LiveJobs

/-- How delays grow. -/
inductive Backoff where
  | fixed
  /-- The base delay is doubled with every attempt. -/
  | exponential
  deriving DecidableEq, Repr, Inhabited

def Backoff.name : Backoff → String
  | .fixed => "fixed"
  | .exponential => "exponential"

/-- A schedule of retries. Delays are in milliseconds. -/
structure RetryPolicy where
  /-- The greatest number of retries. -/
  maxAttempts : Nat
  baseDelay : Nat
  /-- The cap of growing delays. -/
  maxDelay : Nat
  backoff : Backoff
  /-- The share of a delay by which it is spread. -/
  jitter : Float
  deriving BEq, Repr, Inhabited

namespace RetryPolicy

/-- The greatest number of attempts that is counted. -/
def unbounded : Nat := 4294967295

/-- Retries after the same delay each time. -/
def fixed (maxAttempts delay : Nat) : RetryPolicy := ⟨maxAttempts, delay, delay, .fixed, 0⟩

/-- Retries for ever after the same delay. -/
def reconnect (delay : Nat) : RetryPolicy := fixed unbounded delay

/-- Retries after growing delays. -/
def exponential (maxAttempts baseDelay maxDelay : Nat) : RetryPolicy :=
  ⟨maxAttempts, baseDelay, maxDelay, .exponential, 0.1⟩

/-- The policy of requests: two retries, after a quarter of a second and twice that. -/
def standard : RetryPolicy := exponential 2 250 2000

/-- The same schedule on another base delay; the cap rises with it if it has to. -/
def withBaseDelay (policy : RetryPolicy) (delay : Nat) : RetryPolicy :=
  { policy with baseDelay := delay, maxDelay := max policy.maxDelay delay }

/-- A number of milliseconds below 2^64 as a double. -/
def millisAsFloat (millis : Nat) : Float := (UInt64.ofNat millis).toFloat

/-- The greatest number of times the base delay is doubled. -/
def mostDoublings : Nat := 30

/-- The delay before an attempt without the jitter. -/
def plainDelay (policy : RetryPolicy) (attempt : Nat) : Float :=
  let base := millisAsFloat policy.baseDelay
  match policy.backoff with
  | .fixed => base
  | .exponential =>
      let grown := base * millisAsFloat (Nat.pow 2 (min (attempt - 1) mostDoublings))
      let cap := millisAsFloat policy.maxDelay
      if cap < grown then cap else grown

/-- The place of an attempt between zero and one, from which its jitter is taken. -/
def spread (attempt : Nat) : Float := millisAsFloat (attempt * 17 % 100) / 100

/-- What an attempt's delay is shifted by, for a given range to both sides. -/
def shift (range : Float) (attempt : Nat) : Float :=
  if 0 < range then range * (spread attempt - 0.5) * 2 else 0

/-- The delay before an attempt, in milliseconds. Attempts are counted from one. -/
def delayFor (policy : RetryPolicy) (attempt : Nat) : Nat :=
  if attempt = 0 then 0
  else
    let delay := policy.plainDelay attempt
    (delay + shift (delay * policy.jitter) attempt).toUInt64.toNat

/-- Whether another retry is allowed after a number of them. -/
def allows (policy : RetryPolicy) (attempt : Nat) : Bool := attempt < policy.maxAttempts

/-- Whether something that gave a result after a number of retries is tried again. -/
def retries {α : Type} (policy : RetryPolicy) (attempt : Nat) : Except Fault α → Bool
  | .ok _ => false
  | .error fault => fault.isRetryable && policy.allows attempt

end RetryPolicy

/-- What became of something that was tried once or more. -/
structure Tries (α : Type) where
  /-- The waits between the tries, in milliseconds. -/
  waits : List Nat
  result : Except Fault α

/-- The number of tries is one more than that of the waits. -/
def Tries.count {α : Type} (tries : Tries α) : Nat := tries.waits.length + 1

namespace RetryPolicy

/-- Tries something until it succeeds, fails for good or has used up its retries. The results are
those that each try in turn would give. -/
def runFrom {α : Type} (policy : RetryPolicy) (results : Nat → Except Fault α) (attempt : Nat) :
    Tries α :=
  if again : policy.retries attempt (results attempt) = true then
    let behind := policy.runFrom results (attempt + 1)
    { behind with waits := policy.delayFor (attempt + 1) :: behind.waits }
  else ⟨[], results attempt⟩
termination_by policy.maxAttempts - attempt
decreasing_by
  have allowed : attempt < policy.maxAttempts := by
    unfold retries at again
    split at again
    · cases again
    · simp only [allows, Bool.and_eq_true, decide_eq_true_eq] at again
      exact again.2
  omega

/-- Tries something from the start. -/
def run {α : Type} (policy : RetryPolicy) (results : Nat → Except Fault α) : Tries α :=
  policy.runFrom results 0

end RetryPolicy

end LiveJobs
