import LiveJobs.Ident
import LiveJobs.Json.Basic
import LiveJobs.Time.Instant

/-!
# Jobs

A background job as the console shows it: what it does, how far it has come, which resource it
works on, and when it was created, started and completed.
-/

namespace LiveJobs

open LiveJobs.Time

/-- What a job does. -/
inductive JobType where
  | environmentSync
  | remoteBackup
  | remoteRestore
  | promotionExecute
  | snapshotRestore
  /-- A kind of job that this client does not know. -/
  | unknown
  deriving DecidableEq, Repr, Inhabited

def JobType.name : JobType → String
  | .environmentSync => "environment_sync"
  | .remoteBackup => "remote_backup"
  | .remoteRestore => "remote_restore"
  | .promotionExecute => "promotion_execute"
  | .snapshotRestore => "snapshot_restore"
  | .unknown => "unknown"

/-- The job type of a wire name; every name that is not listed is unknown. -/
def JobType.ofName (name : String) : JobType :=
  if name = "environment_sync" then .environmentSync
  else if name = "remote_backup" then .remoteBackup
  else if name = "remote_restore" then .remoteRestore
  else if name = "promotion_execute" then .promotionExecute
  else if name = "snapshot_restore" then .snapshotRestore
  else .unknown

@[simp] theorem JobType.ofName_name (jobType : JobType) : ofName jobType.name = jobType := by
  cases jobType <;> decide

/-- How far a job has come. It only moves forward: pending, running, then one of the three ends. -/
inductive Status where
  | pending
  | running
  | completed
  | failed
  | cancelled
  deriving DecidableEq, Repr, Inhabited

namespace Status

def name : Status → String
  | .pending => "pending"
  | .running => "running"
  | .completed => "completed"
  | .failed => "failed"
  | .cancelled => "cancelled"

def all : List Status := [.pending, .running, .completed, .failed, .cancelled]

/-- The status of a wire name. -/
def ofName? (text : String) : Option Status :=
  all.find? fun status => status.name = text

@[simp] theorem ofName?_name (status : Status) : ofName? status.name = some status := by
  cases status <;> decide

/-- The position along the lifecycle. The three ends share the last one. -/
def rank : Status → Nat
  | .pending => 0
  | .running => 1
  | .completed => 2
  | .failed => 2
  | .cancelled => 2

/-- Whether the job has ended. -/
def isTerminal : Status → Bool
  | .pending => false
  | .running => false
  | .completed => true
  | .failed => true
  | .cancelled => true

/-- Whether the job may still make progress and may be cancelled. -/
def isActive (status : Status) : Bool := !status.isTerminal

/-- Whether going from one status to the next is a step forward. -/
def advancesTo (status next : Status) : Bool := status.rank < next.rank

end Status

/-- The category of a resource. -/
inductive ResourceKind where
  | environment
  | promotion
  | none
  deriving DecidableEq, Repr, Inhabited

def ResourceKind.name : ResourceKind → String
  | .environment => "environment"
  | .promotion => "promotion"
  | .none => "none"

def ResourceKind.all : List ResourceKind := [.environment, .promotion, .none]

/-- The category of a wire name. -/
def ResourceKind.ofName? (text : String) : Option ResourceKind :=
  ResourceKind.all.find? fun kind => kind.name = text

@[simp] theorem ResourceKind.ofName?_name (kind : ResourceKind) :
    ResourceKind.ofName? kind.name = some kind := by
  cases kind <;> decide

/-- The resource that a job works on. It is shown, and says nothing about which job it is. -/
inductive Resource where
  | environment (id : ResourceId)
  | promotion (id : ResourceId)
  | none
  deriving DecidableEq, Repr, Inhabited

namespace Resource

/-- The resource of a category; without a category the name is of no use and is dropped. -/
def ofKind (kind : ResourceKind) (id : ResourceId) : Resource :=
  match kind with
  | .environment => .environment id
  | .promotion => .promotion id
  | .none => .none

/-- The category of a resource. -/
def kind : Resource → ResourceKind
  | .environment _ => .environment
  | .promotion _ => .promotion
  | .none => .none

/-- The name of a resource. -/
def id? : Resource → Option ResourceId
  | .environment id => some id
  | .promotion id => some id
  | .none => Option.none

@[simp] theorem kind_ofKind (kind : ResourceKind) (id : ResourceId) :
    (ofKind kind id).kind = kind := by
  cases kind <;> rfl

end Resource

/-- What a running job reports about its progress. -/
structure Progress where
  current : Option Nat
  total : Option Nat
  percentage : Option Float
  message : Option String
  currentStep : Option String
  deriving BEq, Repr, Inhabited

def Progress.empty : Progress := ⟨none, none, none, none, none⟩

/-- When a job was created, started and completed. -/
structure Timestamps where
  created : Instant
  started : Option Instant
  completed : Option Instant
  deriving DecidableEq, Repr, Inhabited

/-- What is known about a failure. -/
structure Failure where
  message : Option String
  details : Option Json
  deriving BEq, Repr, Inhabited

/-- A background job. -/
structure Job where
  id : JobId
  jobType : JobType
  status : Status
  resource : Resource
  progress : Progress
  timestamps : Timestamps
  error : Option Failure
  /-- A payload that only its consumer understands. -/
  result : Option Json
  deriving BEq, Repr, Inhabited

namespace Job

/-- A job of which only its name, type, resource and creation are known. -/
def fresh (id : JobId) (jobType : JobType) (resource : Resource) (created : Instant) : Job where
  id := id
  jobType := jobType
  status := .pending
  resource := resource
  progress := .empty
  timestamps := ⟨created, none, none⟩
  error := none
  result := none

/-- Whether the job has ended. -/
def isTerminal (job : Job) : Bool := job.status.isTerminal

/-- Whether the job may still make progress. -/
def isActive (job : Job) : Bool := job.status.isActive

/-- The milliseconds since the job's creation; zero for a creation in the future. -/
def ageMillis (job : Job) (now : Instant) : Nat :=
  (now.millisSince job.timestamps.created).toNat

end Job

end LiveJobs
