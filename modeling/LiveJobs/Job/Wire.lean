import LiveJobs.Job.Page
import LiveJobs.Job.Patch
import LiveJobs.Json.Outline
import LiveJobs.Json.Record
import LiveJobs.Text.Digits
import LiveJobs.Time.Rfc3339

/-!
# Wire forms of jobs

How jobs, patches, pages and queries are read from and written as JSON values, and which parts of a
JSON text count for each of them. Reading gives nothing when a value does not have the wanted form.
-/

namespace LiveJobs

open LiveJobs.Json LiveJobs.Text LiveJobs.Time

/-- An unsigned number of 64 bits. -/
def word64? : Json → Option Nat := unsigned? maxWord64

/-- An unsigned number of 32 bits. -/
def word32? : Json → Option Nat := unsigned? maxWord32

def ofNat (value : Nat) : Json := .int value

/-- An identifier of a job, taken as it is. -/
def JobId.ofJson? (value : Json) : Option JobId := value.text?.map JobId.mk

def JobId.toJson (id : JobId) : Json := .str id.text

/-- An identifier of a resource, taken as it is. -/
def ResourceId.ofJson? (value : Json) : Option ResourceId := value.text?.map ResourceId.mk

def ResourceId.toJson (id : ResourceId) : Json := .str id.text

/-- A moment from its text. -/
def instant? (value : Json) : Option Instant := value.text?.bind Instant.ofText?

def ofInstant (moment : Instant) : Json := .str moment.text

/-- A job type from its name; unknown names are read as well. -/
def JobType.ofJson? (value : Json) : Option JobType := (choice? value).map JobType.ofName

def JobType.toJson (jobType : JobType) : Json := .str jobType.name

/-- A status from its name. -/
def Status.ofJson? (value : Json) : Option Status := (choice? value).bind Status.ofName?

def Status.toJson (status : Status) : Json := .str status.name

/-- A category from its name. -/
def ResourceKind.ofJson? (value : Json) : Option ResourceKind :=
  (choice? value).bind ResourceKind.ofName?

def ResourceKind.toJson (kind : ResourceKind) : Json := .str kind.name

/-- A source from its name. -/
def Origin.ofJson? (value : Json) : Option Origin := (choice? value).bind Origin.ofName?

def Origin.toJson (origin : Origin) : Json := .str origin.name

namespace Resource

/-- A resource from its category and what stands for its name. A resource of a category needs a
name; one without a category may have null in its place, and nothing else. -/
def ofParts? (kind : ResourceKind) (id : Option Json) : Option Resource :=
  match kind, id with
  | .environment, some id => (ResourceId.ofJson? id).map .environment
  | .promotion, some id => (ResourceId.ofJson? id).map .promotion
  | .none, some .null => some .none
  | .none, Option.none => some .none
  | _, _ => Option.none

def fields : List String := ["kind", "id"]

def outline : Outline := .ofFields fields []

/-- A category from its name as a text, the only form that it has in a pair. -/
def kindOfText? (value : Json) : Option ResourceKind := value.text?.bind ResourceKind.ofName?

/-- A resource from an object of category and name, or from the pair of them. -/
def ofJson? (value : Json) : Option Resource := do
  let record ← record? fields value
  let kind ← record.required "kind"
    (if record.positional then kindOfText? else ResourceKind.ofJson?)
  if record.positional ∧ (record.field? "id").isNone then Option.none
  else ofParts? kind (record.field? "id")

/-- A resource as an object of category and name. -/
def toJson (resource : Resource) : Json :=
  .obj (("kind", resource.kind.toJson) :: member "id" ResourceId.toJson resource.id?)

end Resource

namespace Progress

def fields : List String := ["current", "total", "percentage", "message", "currentStep"]

def outline : Outline := .ofFields fields []

/-- A progress record. -/
def ofJson? (value : Json) : Option Progress := do
  let record ← record? fields value
  let current ← record.optional "current" word64?
  let total ← record.optional "total" word64?
  let percentage ← record.optional "percentage" float?
  let message ← record.optional "message" text?
  let currentStep ← record.optional "currentStep" text?
  some ⟨current, total, percentage, message, currentStep⟩

/-- A progress record without its absent fields. -/
def toJson (progress : Progress) : Json :=
  .obj (member "current" ofNat progress.current ++ member "total" ofNat progress.total ++
    member "percentage" ofFloat progress.percentage ++
    member "message" Json.str progress.message ++
    member "currentStep" Json.str progress.currentStep)

end Progress

namespace Timestamps

def fields : List String := ["created", "started", "completed"]

def outline : Outline := .ofFields fields []

/-- The timestamps of a job. -/
def ofJson? (value : Json) : Option Timestamps := do
  let record ← record? fields value
  let created ← record.required "created" instant?
  let started ← record.optional "started" instant?
  let completed ← record.optional "completed" instant?
  some ⟨created, started, completed⟩

/-- The timestamps without those that are absent. -/
def toJson (timestamps : Timestamps) : Json :=
  .obj (("created", ofInstant timestamps.created) ::
    (member "started" ofInstant timestamps.started ++
      member "completed" ofInstant timestamps.completed))

end Timestamps

/-- A payload is any value, in canonical form. -/
def payload? (value : Json) : Option Json := some value.canonical

namespace Failure

def fields : List String := ["message", "details"]

def outline : Outline := .ofFields fields []

/-- What is known about a failure. -/
def ofJson? (value : Json) : Option Failure := do
  let record ← record? fields value
  let message ← record.optional "message" text?
  let details ← record.optional "details" payload?
  some ⟨message, details⟩

/-- A failure without its absent fields. -/
def toJson (failure : Failure) : Json :=
  .obj (member "message" Json.str failure.message ++
    member "details" (fun value => value) failure.details)

end Failure

namespace Job

def fields : List String :=
  ["id", "jobType", "status", "resource", "progress", "timestamps", "error", "result"]

def outline : Outline :=
  .ofFields fields
    [("resource", Resource.outline), ("progress", Progress.outline),
      ("timestamps", Timestamps.outline), ("error", Failure.outline)]

/-- A job. -/
def ofJson? (value : Json) : Option Job := do
  let record ← record? fields value
  let id ← record.required "id" JobId.ofJson?
  let jobType ← record.required "jobType" JobType.ofJson?
  let status ← record.required "status" Status.ofJson?
  let resource ← record.defaulted "resource" .none Resource.ofJson?
  let progress ← record.defaulted "progress" .empty Progress.ofJson?
  let timestamps ← record.required "timestamps" Timestamps.ofJson?
  let error ← record.optional "error" Failure.ofJson?
  let result ← record.optional "result" payload?
  some ⟨id, jobType, status, resource, progress, timestamps, error, result⟩

/-- A job without its absent fields. -/
def toJson (job : Job) : Json :=
  .obj ([("id", job.id.toJson), ("jobType", job.jobType.toJson), ("status", job.status.toJson),
    ("resource", job.resource.toJson), ("progress", job.progress.toJson),
    ("timestamps", job.timestamps.toJson)] ++ member "error" Failure.toJson job.error ++
    member "result" (fun value => value) job.result)

end Job

namespace Patch

def fields : List String :=
  ["id", "jobType", "status", "resource", "resourceId", "progress", "created", "started",
    "completed", "error", "result", "observedAt"]

def outline : Outline :=
  .ofFields fields
    [("resource", Resource.outline), ("progress", Progress.outline), ("error", Failure.outline)]

/-- A patch. -/
def ofJson? (value : Json) : Option Patch := do
  let record ← record? fields value
  let id ← record.required "id" JobId.ofJson?
  let jobType ← record.nullable "jobType" JobType.ofJson?
  let status ← record.nullable "status" Status.ofJson?
  let resource ← record.nullable "resource" Resource.ofJson?
  let resourceName ← record.nullable "resourceId" ResourceId.ofJson?
  let progress ← record.required "progress" Progress.ofJson?
  let created ← record.nullable "created" instant?
  let started ← record.nullable "started" instant?
  let completed ← record.nullable "completed" instant?
  let error ← record.nullable "error" Failure.ofJson?
  let result ← record.nullable "result" payload?
  let observedAt ← record.required "observedAt" instant?
  some ⟨id, jobType, status, resource, resourceName, progress, created, started, completed, error,
    result, observedAt⟩

/-- A patch, with null for each absent field of its own. -/
def toJson (patch : Patch) : Json :=
  .obj [("id", patch.id.toJson), ("jobType", orNull JobType.toJson patch.jobType),
    ("status", orNull Status.toJson patch.status),
    ("resource", orNull Resource.toJson patch.resource),
    ("resourceId", orNull ResourceId.toJson patch.resourceName),
    ("progress", patch.progress.toJson), ("created", orNull ofInstant patch.created),
    ("started", orNull ofInstant patch.started), ("completed", orNull ofInstant patch.completed),
    ("error", orNull Failure.toJson patch.error),
    ("result", orNull (fun value => value) patch.result),
    ("observedAt", ofInstant patch.observedAt)]

end Patch

namespace Query

def fields : List String := ["page", "pageSize", "jobType", "status"]

def outline : Outline := .ofFields fields []

/-- A query. -/
def ofJson? (value : Json) : Option Query := do
  let record ← record? fields value
  let page ← record.required "page" word32?
  let pageSize ← record.required "pageSize" word32?
  let jobType ← record.optional "jobType" JobType.ofJson?
  let status ← record.optional "status" Status.ofJson?
  some ⟨page, pageSize, jobType, status⟩

/-- A query without its absent restrictions. -/
def toJson (query : Query) : Json :=
  .obj ([("page", ofNat query.page), ("pageSize", ofNat query.pageSize)] ++
    member "jobType" JobType.toJson query.jobType ++ member "status" Status.toJson query.status)

end Query

namespace Page

def fields : List String := ["items", "total", "totalPages"]

def outline : Outline := .ofFields fields [("items", .list Job.outline)]

/-- A page. -/
def ofJson? (value : Json) : Option Page := do
  let record ← record? fields value
  let items ← record.required "items" (list? Job.ofJson?)
  let total ← record.required "total" word64?
  let totalPages ← record.required "totalPages" word32?
  some ⟨items, total, totalPages⟩

def toJson (page : Page) : Json :=
  .obj [("items", .arr (page.items.map Job.toJson)), ("total", ofNat page.total),
    ("totalPages", ofNat page.totalPages)]

end Page

/-- A tenant from one of its forms. -/
def TenantId.ofJson? (value : Json) : Option TenantId :=
  value.text?.bind fun text => TenantId.ofChars? text.toList

def TenantId.toJson (tenant : TenantId) : Json := .str tenant.text

end LiveJobs
