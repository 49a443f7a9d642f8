import LiveJobs.Job.Patch

/-!
# Events

A decoded message of a push channel. Job updates carry part of one job's state, snapshots carry the
full records of the jobs that are active on the server, and control events carry nothing.
-/

namespace LiveJobs

/-- The category of resources that a push connection is about. -/
inductive Channel where
  /-- Every background job of the tenant. -/
  | backgroundJobs
  /-- Promotions and deployments. -/
  | deployments
  deriving DecidableEq, Repr, Inhabited

namespace Channel

/-- The name of the channel in addresses. -/
def path : Channel → String
  | .backgroundJobs => "jobs"
  | .deployments => "deployments"

/-- The name of the channel in records. -/
def wireName : Channel → String
  | .backgroundJobs => "background_jobs"
  | .deployments => "deployments"

def all : List Channel := [.backgroundJobs, .deployments]

/-- The channel of a name in records. -/
def ofWireName? (text : String) : Option Channel :=
  all.find? fun channel => channel.wireName = text

/-- Reads either name of a channel. -/
def read (text : String) : Except NameError Channel :=
  match all.find? fun channel => channel.path = text || channel.wireName = text with
  | some channel => .ok channel
  | none => .error (.unknownChannel text)

/-- The category of the resources of a channel, where it settles it. -/
def defaultKind? : Channel → Option ResourceKind
  | .backgroundJobs => none
  | .deployments => some .promotion

end Channel

/-- A decoded message. -/
structure Event where
  type : String
  jobId : Option JobId
  resourceId : Option ResourceId
  resourceKind : Option ResourceKind
  jobType : Option JobType
  status : Option Status
  current : Option Nat
  total : Option Nat
  percentage : Option Float
  message : Option String
  currentStep : Option String
  error : Option Failure
  result : Option Json
  /-- Full records, which only snapshots have. -/
  jobs : List Job
  /-- The identifier of the frame; the token to resume from once the event is processed. -/
  eventId : Option EventId
  deriving BEq, Repr

/-- The three families of events. -/
inductive EventKind where
  | snapshot
  | control
  | jobUpdate
  deriving DecidableEq, Repr

namespace Event

/-- The family of an event is settled by its type. -/
def kind (event : Event) : EventKind :=
  if event.type = "snapshot" then .snapshot
  else if ["heartbeat", "ping", "connected"].contains event.type then .control
  else .jobUpdate

/-- The part of a type before its first dot. -/
def family (type : String) : String :=
  String.ofList (type.toList.takeWhile (· ≠ '.'))

/-- The part of a type behind its last dot. -/
def stage (type : String) : String :=
  String.ofList (type.toList.reverse.takeWhile (· ≠ '.')).reverse

/-- The status that the last part of a type implies. -/
def impliedStatus? (event : Event) : Option Status :=
  let stage := stage event.type
  if ["started", "progress", "running"].contains stage then some .running
  else if ["completed", "succeeded"].contains stage then some .completed
  else if stage = "failed" then some .failed
  else if ["cancelled", "canceled"].contains stage then some .cancelled
  else none

/-- The category of resources that the first part of a type implies. -/
def familyKind? (event : Event) : Option ResourceKind :=
  let family := family event.type
  if ["sync", "backup", "restore", "snapshot_restore", "environment"].contains family then
    some .environment
  else if ["promotion", "deployment"].contains family then some .promotion
  else none

/-- The category of resources that the job type implies, or else the type of the event. -/
def impliedKind? (event : Event) : Option ResourceKind :=
  match event.jobType with
  | some .promotionExecute => some .promotion
  | some .unknown => event.familyKind?
  | none => event.familyKind?
  | some _ => some .environment

/-- The status that an event reports: its own, or else the implied one. -/
def reportedStatus? (event : Event) : Option Status :=
  event.status.or event.impliedStatus?

/-- The category that an event gives its resource: its own, or else the channel's, or else the
implied one. -/
def reportedKind? (event : Event) (channel : Channel) : Option ResourceKind :=
  (event.resourceKind.or channel.defaultKind?).or event.impliedKind?

end Event

end LiveJobs
