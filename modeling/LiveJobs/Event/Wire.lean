import LiveJobs.Event.Basic
import LiveJobs.Event.Frame
import LiveJobs.Job.Wire
import LiveJobs.Json.Reader

/-!
# Wire forms of events

How events are read from and written as JSON values, and how a frame is decoded into an event.
-/

namespace LiveJobs

open LiveJobs.Json LiveJobs.Text

/-- A channel from its name in records. -/
def Channel.ofJson? (value : Json) : Option Channel := (choice? value).bind Channel.ofWireName?

def Channel.toJson (channel : Channel) : Json := .str channel.wireName

namespace Event

def fields : List String :=
  ["type", "jobId", "resourceId", "resourceKind", "jobType", "status", "current", "total",
    "percentage", "message", "currentStep", "error", "result", "jobs"]

def outline : Outline := .ofFields fields [("error", Failure.outline), ("jobs", .list Job.outline)]

/-- An event. The identifier of its frame is not part of the record. -/
def ofJson? (value : Json) : Option Event := do
  let record ← record? fields value
  let type ← record.defaulted "type" "" text?
  let jobId ← record.optional "jobId" JobId.ofJson?
  let resourceId ← record.optional "resourceId" ResourceId.ofJson?
  let resourceKind ← record.optional "resourceKind" ResourceKind.ofJson?
  let jobType ← record.optional "jobType" JobType.ofJson?
  let status ← record.optional "status" Status.ofJson?
  let current ← record.optional "current" word64?
  let total ← record.optional "total" word64?
  let percentage ← record.optional "percentage" float?
  let message ← record.optional "message" text?
  let currentStep ← record.optional "currentStep" text?
  let error ← record.optional "error" Failure.ofJson?
  let result ← record.optional "result" payload?
  let jobs ← record.defaulted "jobs" [] (list? Job.ofJson?)
  some ⟨type, jobId, resourceId, resourceKind, jobType, status, current, total, percentage,
    message, currentStep, error, result, jobs, none⟩

/-- An event with null for each absent field; records are left out when there are none. -/
def toJson (event : Event) : Json :=
  .obj ([("type", .str event.type), ("jobId", orNull JobId.toJson event.jobId),
    ("resourceId", orNull ResourceId.toJson event.resourceId),
    ("resourceKind", orNull ResourceKind.toJson event.resourceKind),
    ("jobType", orNull JobType.toJson event.jobType),
    ("status", orNull Status.toJson event.status), ("current", orNull ofNat event.current),
    ("total", orNull ofNat event.total), ("percentage", orNull ofFloat event.percentage),
    ("message", orNull Json.str event.message),
    ("currentStep", orNull Json.str event.currentStep),
    ("error", orNull Failure.toJson event.error),
    ("result", orNull (fun value => value) event.result)] ++
    if event.jobs.isEmpty then [] else [("jobs", .arr (event.jobs.map Job.toJson))])

end Event

/-- A frame from an object, of which every member may be missing. -/
def Frame.ofJson (value : Json) : Frame where
  id := (value.get? "id").bind text?
  event := (value.get? "event").bind text?
  data := ((value.get? "data").bind text?).getD ""
  retry := (value.get? "retry").bind word64?

/-- A frame as a value, with null for each absent part. -/
def Frame.toJson (frame : Frame) : Json :=
  .obj [("id", orNull Json.str frame.id), ("event", orNull Json.str frame.event),
    ("data", .str frame.data), ("retry", orNull ofNat frame.retry)]

def EventKind.name : EventKind → String
  | .snapshot => "snapshot"
  | .control => "control"
  | .jobUpdate => "job_update"

/-- Why the payload of a frame is no event. -/
inductive PayloadError where
  /-- The payload is no JSON text, or not of the form of an event. -/
  | malformed
  /-- The payload is a JSON text, but not an object. -/
  | notAnObject
  deriving DecidableEq, Repr

/-- Decodes the payload of a frame. A blank payload is no event. An event without a type takes the
frame's, or else is called a message. -/
def Frame.decode (frame : Frame) : Except PayloadError (Option Event) :=
  if (trimChars frame.data.toList).isEmpty then .ok none
  else
    match Json.parse frame.data.toList with
    | none => .error .malformed
    | some (.obj members) =>
        match Event.ofJson? (.obj members) with
        | none => .error .malformed
        | some event =>
            .ok <| some
              { event with
                type := if event.type.isEmpty then frame.event.getD "message" else event.type
                eventId := frame.token?.map EventId.mk }
    | some _ => .error .notAnObject

end LiveJobs
