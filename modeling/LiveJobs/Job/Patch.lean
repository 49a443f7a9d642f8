import LiveJobs.Job.Basic

/-!
# Patches

A patch is what one source reports about one job at one moment: the fields it names are reported,
the others leave what is known untouched.
-/

namespace LiveJobs

open LiveJobs.Time

/-- The source of a patch. -/
inductive Origin where
  | stream
  | bulkPoll
  | singlePoll
  deriving DecidableEq, Repr, Inhabited

def Origin.name : Origin → String
  | .stream => "stream"
  | .bulkPoll => "bulk_poll"
  | .singlePoll => "single_poll"

def Origin.all : List Origin := [.stream, .bulkPoll, .singlePoll]

/-- The source of a wire name. -/
def Origin.ofName? (text : String) : Option Origin :=
  Origin.all.find? fun origin => origin.name = text

/-- What one source reports about one job. -/
structure Patch where
  id : JobId
  jobType : Option JobType
  status : Option Status
  resource : Option Resource
  /-- A resource named without its category; it is adopted under the category known already. -/
  resourceName : Option ResourceId
  progress : Progress
  created : Option Instant
  started : Option Instant
  completed : Option Instant
  error : Option Failure
  result : Option Json
  /-- When the source saw this state. It serves as the creation of a job that is first heard of
  through a partial report. -/
  observedAt : Instant
  deriving BEq, Repr

namespace Patch

def empty (id : JobId) (observedAt : Instant) : Patch where
  id := id
  jobType := none
  status := none
  resource := none
  resourceName := none
  progress := .empty
  created := none
  started := none
  completed := none
  error := none
  result := none
  observedAt := observedAt

/-- A patch that reports every field of a full record. -/
def ofJob (job : Job) (observedAt : Instant) : Patch where
  id := job.id
  jobType := some job.jobType
  status := some job.status
  resource := some job.resource
  resourceName := none
  progress := job.progress
  created := some job.timestamps.created
  started := job.timestamps.started
  completed := job.timestamps.completed
  error := job.error
  result := job.result
  observedAt := observedAt

/-- The patch with a status reported. -/
def withStatus (patch : Patch) (status : Status) : Patch :=
  { patch with status := some status }

/-- The patch with a resource reported. -/
def withResource (patch : Patch) (resource : Resource) : Patch :=
  { patch with resource := some resource }

/-- The patch with both counters of the progress reported. -/
def withCounters (patch : Patch) (current total : Nat) : Patch :=
  { patch with progress := { patch.progress with current := some current, total := some total } }

/-- The patch with a progress message reported. -/
def withMessage (patch : Patch) (message : String) : Patch :=
  { patch with progress := { patch.progress with message := some message } }

/-- The patch with a failure reported. -/
def withError (patch : Patch) (error : Failure) : Patch :=
  { patch with error := some error }

/-- The name of the resource that the patch reports, with or without a category. -/
def reportedResource? (patch : Patch) : Option ResourceId :=
  (patch.resource.bind Resource.id?).or patch.resourceName

/-- Whether the patch reports nothing. -/
def isEmpty (patch : Patch) : Bool :=
  patch.jobType.isNone && patch.status.isNone && patch.resource.isNone &&
    patch.resourceName.isNone && patch.progress == .empty && patch.created.isNone &&
    patch.started.isNone && patch.completed.isNone && patch.error.isNone && patch.result.isNone

end Patch

end LiveJobs
