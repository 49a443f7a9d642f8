import LiveJobs.Ident
import LiveJobs.Retry
import LiveJobs.Store.Basic

/-!
# Settings

Where the job service is, who asks, and how often. Settings are read from named variables; the
tenant has to be given, and everything else has a default.
-/

namespace LiveJobs

open LiveJobs.Text

/-- The settings of a client. Times are in milliseconds. -/
structure Settings where
  /-- The address of the service, without a slash at its end. -/
  baseUrl : String
  tenant : TenantId
  token : Option String
  /-- When broken push connections are opened again. -/
  reconnect : RetryPolicy
  /-- When failed requests are sent again. -/
  requestRetry : RetryPolicy
  bulkInterval : Nat
  activeInterval : Nat
  pageSize : Nat
  /-- How long jobs that have ended stay in the active set. -/
  retention : Nat
  requestTimeout : Nat

/-- Why variables do not make settings. -/
inductive SettingsError where
  | missingTenant
  | malformedTenant (error : NameError)
  | malformedNumber (name : String) (fault : NumberFault)
  | pageSizeOutOfRange
  deriving DecidableEq, Repr

def SettingsError.message : SettingsError → String
  | .missingTenant => "JOBSYNC_TENANT_ID must be set"
  | .malformedTenant error => error.message
  | .malformedNumber name fault => name ++ ": " ++ fault.message
  | .pageSizeOutOfRange => "JOBSYNC_PAGE_SIZE out of range"

/-- The error as a fault. -/
def SettingsError.toFault (error : SettingsError) : Fault := .config error.message

namespace Settings

/-- An address without the slashes at its end. -/
def withoutTrailingSlashes (address : String) : String :=
  String.ofList ((address.toList.reverse.dropWhile (· = '/')).reverse)

/-- The settings of a tenant with defaults for all else. -/
def standard (address : String) (tenant : TenantId) : Settings where
  baseUrl := withoutTrailingSlashes address
  tenant := tenant
  token := none
  reconnect := .reconnect 1000
  requestRetry := .standard
  bulkInterval := 5000
  activeInterval := 3000
  pageSize := 20
  retention := Store.standardRetention
  requestTimeout := 30000

/-- The settings with a token. -/
def withToken (settings : Settings) (token : String) : Settings :=
  { settings with token := some token }

/-- The settings with another delay before a broken push connection is opened again. -/
def withReconnectDelay (settings : Settings) (delay : Nat) : Settings :=
  { settings with reconnect := .reconnect delay }

/-- The address of the service where none is given. -/
def defaultAddress : String := "http://localhost:8080"

/-- Variables, by name. -/
abbrev Variables := String → Option String

/-- A variable that holds a number of 64 bits, with blanks around it. -/
def number? (setting : Variables) (name : String) : Except SettingsError (Option Nat) :=
  match setting name with
  | none => .ok none
  | some text =>
      match readUnsigned maxWord64 (trimChars text.toList) with
      | .ok value => .ok (some value)
      | .error fault => .error (.malformedNumber name fault)

/-- The tenant among the variables. -/
def tenantOf (setting : Variables) : Except SettingsError TenantId :=
  match setting "JOBSYNC_TENANT_ID" with
  | none => .error .missingTenant
  | some text =>
      match TenantId.read (trim text) with
      | .ok tenant => .ok tenant
      | .error error => .error (.malformedTenant error)

/-- A page size of 32 bits; zero becomes one. -/
def pageSizeOf (value : Nat) : Except SettingsError Nat :=
  if value ≤ maxWord32 then .ok (max value 1) else .error .pageSizeOutOfRange

/-- The settings that variables describe. An empty token is none. -/
def ofVariables (setting : Variables) : Except SettingsError Settings := do
  let tenant ← tenantOf setting
  let settings := standard ((setting "JOBSYNC_API_URL").getD defaultAddress) tenant
  let token := (setting "JOBSYNC_AUTH_TOKEN").filter fun token => !token.isEmpty
  let reconnect ← number? setting "JOBSYNC_RECONNECT_MS"
  let bulkInterval ← number? setting "JOBSYNC_BULK_POLL_MS"
  let pageSize ← number? setting "JOBSYNC_PAGE_SIZE"
  let pageSize ← match pageSize with
    | none => pure settings.pageSize
    | some value => pageSizeOf value
  pure { settings with
    token := token
    reconnect := (reconnect.map RetryPolicy.reconnect).getD settings.reconnect
    bulkInterval := bulkInterval.getD settings.bulkInterval
    pageSize := pageSize }

end Settings

/-- How log records are written. -/
inductive LogFormat where
  | json
  | text
  deriving DecidableEq, Repr

/-- The format that a variable asks for; records are JSON unless it asks for text. -/
def LogFormat.ofVariable : Option String → LogFormat
  | some "text" => .text
  | some "pretty" => .text
  | _ => .json

end LiveJobs
