import LiveJobs.Job.Basic

/-!
# Fields of a job

The fields that sources report independently of one another. Every field of a job can be read and
replaced under its name, so that rules which are the same for all fields are stated once. A field
is what it reads back: replacing one shows in that field and in no other.
-/

namespace LiveJobs

open LiveJobs.Time

/-- A field that a source may report. -/
inductive Field where
  | jobType
  | status
  | resource
  | current
  | total
  | percentage
  | message
  | currentStep
  | created
  | started
  | completed
  | error
  | result
  deriving DecidableEq, Repr, Inhabited

namespace Field

def name : Field → String
  | .jobType => "job_type"
  | .status => "status"
  | .resource => "resource"
  | .current => "progress.current"
  | .total => "progress.total"
  | .percentage => "progress.percentage"
  | .message => "progress.message"
  | .currentStep => "progress.current_step"
  | .created => "timestamps.created"
  | .started => "timestamps.started"
  | .completed => "timestamps.completed"
  | .error => "error"
  | .result => "result"

def all : List Field :=
  [.jobType, .status, .resource, .current, .total, .percentage, .message, .currentStep, .created,
    .started, .completed, .error, .result]

/-- The type of the values of a field. -/
abbrev Value : Field → Type
  | .jobType => JobType
  | .status => Status
  | .resource => Resource
  | .current => Option Nat
  | .total => Option Nat
  | .percentage => Option Float
  | .message => Option String
  | .currentStep => Option String
  | .created => Instant
  | .started => Option Instant
  | .completed => Option Instant
  | .error => Option Failure
  | .result => Option Json

/-- Whether two values of a field are the same. -/
def sameValue : (field : Field) → field.Value → field.Value → Bool
  | .jobType, left, right => left == right
  | .status, left, right => left == right
  | .resource, left, right => left == right
  | .current, left, right => left == right
  | .total, left, right => left == right
  | .percentage, left, right => left == right
  | .message, left, right => left == right
  | .currentStep, left, right => left == right
  | .created, left, right => left == right
  | .started, left, right => left == right
  | .completed, left, right => left == right
  | .error, left, right => left == right
  | .result, left, right => left == right

/-- The position of a field among all fields. -/
def index : Field → Fin 13
  | .jobType => 0
  | .status => 1
  | .resource => 2
  | .current => 3
  | .total => 4
  | .percentage => 5
  | .message => 6
  | .currentStep => 7
  | .created => 8
  | .started => 9
  | .completed => 10
  | .error => 11
  | .result => 12

theorem index_injective {left right : Field} (same : left.index = right.index) : left = right := by
  revert same
  cases left <;> cases right <;> decide

end Field

namespace Job

/-- The value of a field of a job. -/
def value (job : Job) : (field : Field) → field.Value
  | .jobType => job.jobType
  | .status => job.status
  | .resource => job.resource
  | .current => job.progress.current
  | .total => job.progress.total
  | .percentage => job.progress.percentage
  | .message => job.progress.message
  | .currentStep => job.progress.currentStep
  | .created => job.timestamps.created
  | .started => job.timestamps.started
  | .completed => job.timestamps.completed
  | .error => job.error
  | .result => job.result

/-- The job with another value in a field. -/
def withValue (job : Job) : (field : Field) → field.Value → Job
  | .jobType, value => { job with jobType := value }
  | .status, value => { job with status := value }
  | .resource, value => { job with resource := value }
  | .current, value => { job with progress := { job.progress with current := value } }
  | .total, value => { job with progress := { job.progress with total := value } }
  | .percentage, value => { job with progress := { job.progress with percentage := value } }
  | .message, value => { job with progress := { job.progress with message := value } }
  | .currentStep, value => { job with progress := { job.progress with currentStep := value } }
  | .created, value => { job with timestamps := { job.timestamps with created := value } }
  | .started, value => { job with timestamps := { job.timestamps with started := value } }
  | .completed, value => { job with timestamps := { job.timestamps with completed := value } }
  | .error, value => { job with error := value }
  | .result, value => { job with result := value }

@[simp] theorem value_withValue_self (job : Job) (field : Field) (value : field.Value) :
    (job.withValue field value).value field = value := by
  cases field <;> rfl

theorem value_withValue_of_ne (job : Job) {field other : Field} (differ : other ≠ field)
    (value : field.Value) : (job.withValue field value).value other = job.value other := by
  cases field <;> cases other <;> first | rfl | exact absurd rfl differ

@[simp] theorem id_withValue (job : Job) (field : Field) (value : field.Value) :
    (job.withValue field value).id = job.id := by
  cases field <;> rfl

/-- A job is its name and its fields. -/
theorem ext_value {left right : Job} (names : left.id = right.id)
    (fields : ∀ field : Field, left.value field = right.value field) : left = right := by
  obtain ⟨_, _, _, _, ⟨_, _, _, _, _⟩, ⟨_, _, _⟩, _, _⟩ := left
  obtain ⟨_, _, _, _, ⟨_, _, _, _, _⟩, ⟨_, _, _⟩, _, _⟩ := right
  have jobType := fields .jobType
  have status := fields .status
  have resource := fields .resource
  have current := fields .current
  have total := fields .total
  have percentage := fields .percentage
  have message := fields .message
  have currentStep := fields .currentStep
  have created := fields .created
  have started := fields .started
  have completed := fields .completed
  have error := fields .error
  have result := fields .result
  simp only [value] at *
  subst_vars
  rfl

end Job

end LiveJobs
