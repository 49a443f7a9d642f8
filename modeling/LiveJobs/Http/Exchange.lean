import LiveJobs.Event.LineDecoder
import LiveJobs.Http.Request
import LiveJobs.Json.Reader

/-!
# Exchanges with the job service

What the answers of the service come to. A status that is no success is a fault with the body as
its message, and a body that is not of the wanted form is a fault too. Requests for jobs are tried
again after failures that may pass; requests to cancel are not.
-/

namespace LiveJobs.Http

open LiveJobs.Json LiveJobs.Text

/-- What comes back for a request. -/
inductive Response where
  /-- An answer, the body in the pieces in which it comes. -/
  | answer (status : Nat) (body : List String)
  /-- The connection ends without an answer. -/
  | dropped
  deriving DecidableEq, Repr

/-- The answer of a service that has nothing more to say. -/
def Response.exhausted : Response := .answer 404 ["exhausted"]

/-- Whether a status stands for success. -/
def isSuccess (status : Nat) : Bool := 200 ≤ status && status ≤ 299

/-- Whether an answer of a status never has a body. -/
def isBodiless (status : Nat) : Bool := status = 204 || status = 304

/-- A text without the mark of its byte order. -/
def withoutOrderMark (text : String) : String :=
  match text.toList with
  | '\uFEFF' :: rest => String.ofList rest
  | _ => text

/-- The body of a success; any other status is a fault. -/
def bodyOf : Response → Except Fault (List String)
  | .dropped => .error (.network "the connection ended without an answer")
  | .answer status body =>
      let sent := if isBodiless status then [] else body
      if isSuccess status then .ok sent
      else .error (.api status (withoutOrderMark (String.join sent)))

/-- A record from the body of an answer. -/
def recordOf {α : Type} (outline : Outline) (read : Json → Option α) (response : Response) :
    Except Fault α := do
  let body ← bodyOf response
  match (Json.parseOutlined outline (String.join body).toList).bind read with
  | some value => .ok value
  | none => .error (.parse "the body is not of the wanted form")

/-- The frames of a push channel. -/
def framesOf (response : Response) : Except Fault (List Frame) := do
  let body ← bodyOf response
  let fed := LineDecoder.initial.feed (body.flatMap encodeUtf8)
  .ok (fed.2 ++ fed.1.finish.2.toList)

/-- The service as it is met in the course of several exchanges. -/
structure Exchange where
  /-- What it will answer. -/
  responses : List Response
  /-- The requests that it has got, the last one first. -/
  received : List Request
  deriving DecidableEq, Repr

namespace Exchange

/-- The service takes a request a number of times. -/
def take (exchange : Exchange) (request : Request) (count : Nat) : Exchange :=
  ⟨exchange.responses.drop count, List.replicate count request ++ exchange.received⟩

/-- The answer to a request some requests ahead. -/
def upcoming (exchange : Exchange) (index : Nat) : Response :=
  exchange.responses[index]?.getD .exhausted

/-- The fault of a request that cannot be made. -/
def unusable : Fault := .network "the request cannot be made"

/-- Asks for a record, again and again as a policy allows. -/
def fetch {α : Type} (exchange : Exchange) (policy : RetryPolicy) (request : Option Request)
    (outline : Outline) (read : Json → Option α) : Exchange × Tries α :=
  match request with
  | none => (exchange, policy.run fun _ => .error unusable)
  | some request =>
      let tries := policy.run fun index => recordOf outline read (exchange.upcoming index)
      (exchange.take request tries.count, tries)

/-- Asks once for something without a record. -/
def post (exchange : Exchange) (request : Option Request) : Exchange × Except Fault Unit :=
  match request with
  | none => (exchange, .error unusable)
  | some request =>
      (exchange.take request 1, (bodyOf (exchange.upcoming 0)).map fun _ => ())

/-- Asks for a page of the job list. -/
def list (exchange : Exchange) (settings : Settings) (query : Query) : Exchange × Tries Page :=
  exchange.fetch settings.requestRetry (requestOf? settings (.list query)) Page.outline
    Page.ofJson?

/-- Asks for a job. -/
def get (exchange : Exchange) (settings : Settings) (job : JobId) : Exchange × Tries Job :=
  exchange.fetch settings.requestRetry (requestOf? settings (.get job)) Job.outline
    Job.ofJson?

/-- Asks for the cancellation of a job. -/
def cancel (exchange : Exchange) (settings : Settings) (job : JobId) (reason : Option String) :
    Exchange × Except Fault Unit :=
  exchange.post (requestOf? settings (.cancel job reason))

/-- Opens a push channel and takes its frames. -/
def frames (exchange : Exchange) (settings : Settings) (channel : Channel)
    (token : Option EventId) : Exchange × Except Fault (List Frame) :=
  match streamRequest? settings channel token with
  | none => (exchange, .error unusable)
  | some request => (exchange.take request 1, framesOf (exchange.upcoming 0))

end Exchange

end LiveJobs.Http
