import LiveJobs.Event.Basic
import LiveJobs.Text.Quoted

/-!
# From events to patches

A job update becomes one patch, and has to name both the job and the resource to be routed. A
snapshot becomes a full patch for each of its records, and a control event becomes nothing.
-/

namespace LiveJobs

open LiveJobs.Text LiveJobs.Time

/-- Why a job update cannot be routed. -/
inductive RoutingError where
  | missingJobId (type : String)
  | missingResourceId (type : String) (job : JobId)
  deriving DecidableEq, Repr

def RoutingError.message : RoutingError → String
  | .missingJobId type => "event " ++ quoted type ++ " carries no job id"
  | .missingResourceId type job =>
      "event " ++ quoted type ++ " for job " ++ job.text ++ " carries no resource id"

namespace Event

/-- What a job update reports about the job and the resource it names. -/
def toPatch (event : Event) (channel : Channel) (observedAt : Instant) (job : JobId)
    (resource : ResourceId) : Patch :=
  let kind := event.reportedKind? channel
  { Patch.empty job observedAt with
    status := event.reportedStatus?
    jobType := event.jobType
    resource := kind.map fun kind => .ofKind kind resource
    resourceName := if kind.isSome then none else some resource
    progress := ⟨event.current, event.total, event.percentage, event.message, event.currentStep⟩
    error := event.error
    result := event.result }

/-- The patch of a job update. -/
def jobPatch (event : Event) (channel : Channel) (observedAt : Instant) :
    Except RoutingError Patch :=
  match event.jobId, event.resourceId with
  | none, _ => .error (.missingJobId event.type)
  | some job, none => .error (.missingResourceId event.type job)
  | some job, some resource => .ok (event.toPatch channel observedAt job resource)

/-- The patches of an event. -/
def patches (event : Event) (channel : Channel) (observedAt : Instant) :
    Except RoutingError (List Patch) :=
  match event.kind with
  | .control => .ok []
  | .snapshot => .ok (event.jobs.map fun job => .ofJob job observedAt)
  | .jobUpdate => (event.jobPatch channel observedAt).map fun patch => [patch]

end Event

end LiveJobs
