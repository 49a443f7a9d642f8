import LiveJobs.Call
import LiveJobs.Http.Address
import LiveJobs.Job.Wire
import LiveJobs.Json.Writer
import LiveJobs.Push.Connection
import LiveJobs.Settings.Basic

/-!
# Requests to the job service

How a call becomes a request: its method, its address, its headers and its body. Every request
names the tenant, and carries the token if there is one.
-/

namespace LiveJobs.Http

open LiveJobs.Json

/-- A request as it is sent. -/
structure Request where
  method : String
  target : String
  /-- The headers by their names in lower case. -/
  headers : List (String × String)
  body : String
  deriving DecidableEq, Repr

/-- The place of a job below the address of the service. -/
def jobPath (job : JobId) : String := "/jobs/" ++ job.text

/-- The place at which the cancellation of a job is asked for. -/
def cancelPath (job : JobId) : String := jobPath job ++ "/cancel"

/-- The place of a push channel. -/
def channelPath (channel : Channel) : String := "/streams/" ++ channel.path

/-- The parameters of a query of the job list. -/
def queryParameters (query : Query) : List (String × String) :=
  [("page", toString query.page), ("pageSize", toString query.pageSize)] ++
    (query.jobType.toList.map fun jobType => ("jobType", jobType.name)) ++
    query.status.toList.map fun status => ("status", status.name)

/-- Whether a text may be the value of a header. -/
def isHeaderText (text : String) : Bool :=
  text.toList.all fun c => c = '\t' || (0x20 ≤ c.toNat && c.toNat ≠ 0x7F)

/-- The headers that every request has. -/
def commonHeaders (settings : Settings) : List (String × String) :=
  ("x-tenant-id", settings.tenant.text) ::
    settings.token.toList.map fun token => ("authorization", "Bearer " ++ token)

/-- A request to a place below the address of the service. None can be made if the address is no
web address, or a header has a value that it cannot have. -/
def requestTo? (settings : Settings) (method place : String) (parameters : List (String × String))
    (headers : List (String × String)) (body : String) : Option Request := do
  let address ← Address.read? (settings.baseUrl ++ place)
  let all := commonHeaders settings ++ headers
  if all.all fun header => isHeaderText header.2 then
    some ⟨method, (address.withParameters parameters).target, all, body⟩
  else none

/-- What a request to cancel says. -/
def cancelBody (reason : Option String) : String :=
  Json.write (.obj (member "reason" Json.str reason))

/-- The request of a call. -/
def requestOf? (settings : Settings) : Call → Option Request
  | .list query => requestTo? settings "GET" "/jobs" (queryParameters query) [] ""
  | .get job => requestTo? settings "GET" (jobPath job) [] [] ""
  | .cancel job reason =>
      requestTo? settings "POST" (cancelPath job) [] [("content-type", "application/json")]
        (cancelBody reason)

/-- The request that opens a push channel, to resume after an event. -/
def streamRequest? (settings : Settings) (channel : Channel) (token : Option EventId) :
    Option Request :=
  let parameters := token.toList.map fun id => ("lastEventId", id.text)
  let headers := ("accept", "text/event-stream") ::
    token.toList.map fun id => ("last-event-id", id.text)
  requestTo? settings "GET" (channelPath channel) parameters headers ""

end LiveJobs.Http
