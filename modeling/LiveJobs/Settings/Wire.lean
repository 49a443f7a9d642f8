import LiveJobs.Job.Wire
import LiveJobs.Settings.Basic

/-!
# Wire forms of settings

How faults and retry policies are read from JSON values, and how policies and settings are written.
-/

namespace LiveJobs

open LiveJobs.Json LiveJobs.Text

/-- A member that is there and not null. -/
def given? (value : Json) (name : String) : Option Json :=
  match value.get? name with
  | some .null => none
  | found => found

/-- The value of a member that is a number, or a default. -/
def numberOr (value : Json) (name : String) (default : Nat) : Nat :=
  ((value.get? name).bind word64?).getD default

/-- The value of a member that is text, or a default. -/
def textOr (value : Json) (name default : String) : String :=
  ((value.get? name).bind text?).getD default

/-- The items of a member that is an array; no items otherwise. -/
def itemsOf (value : Json) (name : String) : List Json :=
  ((value.get? name).bind items?).getD []

/-- A fault from its kind and message. -/
def Fault.ofJson? (value : Json) : Option Fault :=
  let message := textOr value "message" ""
  match textOr value "kind" "" with
  | "network" => some (.network message)
  | "parse" => some (.parse message)
  | "config" => some (.config message)
  | "api" => some (.api (numberOr value "status" 0) message)
  | _ => none

/-- A way of growing from its name. Without a choice, delays grow exponentially. -/
def Backoff.ofName? : String → Option Backoff
  | "fixed" => some .fixed
  | "exponential" => some .exponential
  | "default" => some .exponential
  | _ => none

namespace RetryPolicy

/-- One of the usual policies, by its kind. -/
def ofKind? (value : Json) : Option RetryPolicy :=
  match textOr value "kind" "" with
  | "default" => some standard
  | "fixed" => some (fixed (numberOr value "maxAttempts" 0) (numberOr value "delayMs" 0))
  | "reconnect" => some (reconnect (numberOr value "delayMs" 0))
  | "exponential" =>
      some (exponential (numberOr value "maxAttempts" 0) (numberOr value "baseMs" 0)
        (numberOr value "maxMs" 0))
  | _ => none

/-- One of the usual policies with some of its parts replaced. -/
def ofJson? (value : Json) : Option RetryPolicy := do
  let usual ← ofKind? value
  let jitter := ((value.get? "jitter").bind float?).getD usual.jitter
  let backoff ← match (value.get? "strategy").bind text? with
    | some name => Backoff.ofName? name
    | none => some usual.backoff
  let adjusted := { usual with jitter := jitter, backoff := backoff }
  match (value.get? "withBaseMs").bind word64? with
  | some delay => some (adjusted.withBaseDelay delay)
  | none => some adjusted

def toJson (policy : RetryPolicy) : Json :=
  .obj [("maxAttempts", ofNat policy.maxAttempts), ("baseMs", ofNat policy.baseDelay),
    ("maxMs", ofNat policy.maxDelay), ("strategy", .str policy.backoff.name),
    ("jitter", ofFloat policy.jitter)]

end RetryPolicy

def Settings.toJson (settings : Settings) : Json :=
  .obj [("apiUrl", .str settings.baseUrl), ("tenantId", settings.tenant.toJson),
    ("authToken", orNull Json.str settings.token), ("reconnect", settings.reconnect.toJson),
    ("httpRetry", settings.requestRetry.toJson), ("bulkPollMs", ofNat settings.bulkInterval),
    ("activePollMs", ofNat settings.activeInterval), ("pageSize", ofNat settings.pageSize),
    ("retentionMs", ofNat settings.retention),
    ("requestTimeoutMs", ofNat settings.requestTimeout)]

end LiveJobs
