import LiveJobs.Event.Wire
import LiveJobs.Proofs.CanonicalValues
import LiveJobs.Proofs.FiniteDoubles
import LiveJobs.Proofs.RecordFields
import LiveJobs.Proofs.WrittenInstants

/-!
# Wire forms

What is written for a job, a patch, a page, a query or an event is read as the same again. Each type
says which of its values can be written: those whose numbers, instants and payloads are ones that
the wire has a form for. Everything that is read can be written, so that reading, writing and
reading again never changes anything.
-/

namespace LiveJobs

open LiveJobs.Json LiveJobs.Text LiveJobs.Time

/-! ## Single values -/

section

variable {value : Json} {bound number : Nat}

theorem carries_unsigned (small : number ≤ bound) : Carries (unsigned? bound) ofNat number where
  readBack := by
    rw [ofNat, unsigned?, if_pos (by omega)]
    rfl
  filled := nofun

theorem le_of_unsigned? (read : unsigned? bound value = some number) : number ≤ bound := by
  cases value with
  | int whole =>
      rw [unsigned?, Option.ite_none_right_eq_some] at read
      cases read.2
      omega
  | null => cases read
  | bool truth => cases read
  | float double => cases read
  | str text => cases read
  | arr items => cases read
  | obj members => cases read

theorem carries_text (text : String) : Carries text? Json.str text := ⟨rfl, nofun⟩

theorem carries_float {double : Float} (finite : double.isFinite = true) :
    Carries float? ofFloat double where
  readBack := by rw [ofFloat, if_pos finite, float?, if_pos finite]
  filled := by
    rw [ofFloat, if_pos finite]
    intro missing
    cases missing

theorem carries_instant {moment : Instant} (civil : moment.IsCivil) :
    Carries instant? ofInstant moment where
  readBack := by rw [instant?, ofInstant, text?, Option.bind_some, Instant.ofText?_text civil]
  filled := nofun

theorem isCivil_of_instant? {moment : Instant} (read : instant? value = some moment) :
    moment.IsCivil := by
  rw [instant?, Option.bind_eq_some_iff] at read
  rcases read with ⟨text, -, read⟩
  exact Instant.isCivil_of_read? read

theorem carries_payload {payload : Json} (kept : payload.IsPayload) :
    Carries payload? (fun value => value) payload :=
  ⟨congrArg some kept.1, kept.2⟩

theorem isPayload_of_payload? {payload : Json} (filled : value ≠ .null)
    (read : payload? value = some payload) : payload.IsPayload := by
  cases read
  exact isPayload_canonical filled

theorem carries_job (id : JobId) : Carries JobId.ofJson? JobId.toJson id := ⟨rfl, nofun⟩

theorem carries_resourceName (id : ResourceId) :
    Carries ResourceId.ofJson? ResourceId.toJson id :=
  ⟨rfl, nofun⟩

theorem carries_jobType (jobType : JobType) : Carries JobType.ofJson? JobType.toJson jobType :=
  ⟨congrArg some jobType.ofName_name, nofun⟩

theorem carries_status (status : Status) : Carries Status.ofJson? Status.toJson status :=
  ⟨status.ofName?_name, nofun⟩

theorem carries_kind (kind : ResourceKind) :
    Carries ResourceKind.ofJson? ResourceKind.toJson kind :=
  ⟨kind.ofName?_name, nofun⟩

end

theorem Resource.carries (resource : Resource) :
    Carries Resource.ofJson? Resource.toJson resource where
  readBack := by
    cases resource with
    | environment id => rfl
    | promotion id => rfl
    | none => rfl
  filled := nofun

/-! ## Records without their absent fields -/

variable {value : Json}

namespace Progress

variable {progress : Progress}

/-- Whether the counters are numbers of 64 bits and the percentage is finite. -/
structure Fits (progress : Progress) : Prop where
  current : ∀ count ∈ progress.current, count ≤ maxWord64
  total : ∀ count ∈ progress.total, count ≤ maxWord64
  percentage : ∀ share ∈ progress.percentage, share.isFinite = true

theorem fits_empty : Progress.empty.Fits := by
  constructor
  case current => exact nofun
  case total => exact nofun
  case percentage => exact nofun

theorem carries (fits : progress.Fits) : Carries ofJson? toJson progress where
  readBack := by
    let record := Record.written progress.toJson
    have found : record? fields progress.toJson = some record :=
      record?_obj (by decide) <| by
        simp only [List.map_append]
        exact ((((names_member _ _ _).append (names_member _ _ _)).append
          (names_member _ _ _)).append (names_member _ _ _)).append (names_member _ _ _)
    have current : record.optional "current" word64? = some progress.current :=
      optional_of_member (by simp [record, toJson, List.lookup_append]) fun count present =>
        carries_unsigned (fits.current count present)
    have total : record.optional "total" word64? = some progress.total :=
      optional_of_member (by simp [record, toJson, List.lookup_append]) fun count present =>
        carries_unsigned (fits.total count present)
    have percentage : record.optional "percentage" float? = some progress.percentage :=
      optional_of_member (by simp [record, toJson, List.lookup_append]) fun share present =>
        carries_float (fits.percentage share present)
    have message : record.optional "message" text? = some progress.message :=
      optional_of_member (by simp [record, toJson, List.lookup_append]) fun text _ =>
        carries_text text
    have currentStep : record.optional "currentStep" text? = some progress.currentStep :=
      optional_of_member (by simp [record, toJson, List.lookup_append]) fun text _ =>
        carries_text text
    rw [ofJson?, bind_of_found found, bind_of_found current, bind_of_found total,
      bind_of_found percentage, bind_of_found message, bind_of_found currentStep]
  filled := nofun

theorem fits_of_ofJson? (read : ofJson? value = some progress) : progress.Fits := by
  rw [ofJson?] at read
  rcases exists_of_bind read with ⟨record, -, read⟩
  rcases exists_of_bind read with ⟨current, first, read⟩
  rcases exists_of_bind read with ⟨total, second, read⟩
  rcases exists_of_bind read with ⟨percentage, third, read⟩
  rcases exists_of_bind read with ⟨message, -, read⟩
  rcases exists_of_bind read with ⟨currentStep, -, same⟩
  cases same
  constructor
  case current => exact forall_of_optional (fun _ => le_of_unsigned?) first
  case total => exact forall_of_optional (fun _ => le_of_unsigned?) second
  case percentage => exact forall_of_optional (fun _ => isFinite_of_float?) third

end Progress

namespace Timestamps

variable {timestamps : Timestamps}

/-- Whether all moments can be written. -/
structure Fits (timestamps : Timestamps) : Prop where
  created : timestamps.created.IsCivil
  started : ∀ moment ∈ timestamps.started, moment.IsCivil
  completed : ∀ moment ∈ timestamps.completed, moment.IsCivil

theorem carries (fits : timestamps.Fits) : Carries ofJson? toJson timestamps where
  readBack := by
    let record := Record.written timestamps.toJson
    have found : record? fields timestamps.toJson = some record :=
      record?_obj (by decide) <| by
        simp only [List.map_cons, List.map_append]
        exact .cons_cons "created" ((names_member _ _ _).append (names_member _ _ _))
    have created : record.required "created" instant? = some timestamps.created :=
      required_of_field (carries_instant fits.created) rfl
    have started : record.optional "started" instant? = some timestamps.started :=
      optional_of_member (by simp [record, toJson, List.lookup_cons, List.lookup_append])
        fun moment present => carries_instant (fits.started moment present)
    have completed : record.optional "completed" instant? = some timestamps.completed :=
      optional_of_member (by simp [record, toJson, List.lookup_cons, List.lookup_append])
        fun moment present => carries_instant (fits.completed moment present)
    rw [ofJson?, bind_of_found found, bind_of_found created, bind_of_found started,
      bind_of_found completed]
  filled := nofun

theorem fits_of_ofJson? (read : ofJson? value = some timestamps) : timestamps.Fits := by
  rw [ofJson?] at read
  rcases exists_of_bind read with ⟨record, -, read⟩
  rcases exists_of_bind read with ⟨created, first, read⟩
  rcases exists_of_bind read with ⟨started, second, read⟩
  rcases exists_of_bind read with ⟨completed, third, same⟩
  cases same
  constructor
  case created => exact of_required Instant.IsCivil isCivil_of_instant? first
  case started => exact forall_of_optional (fun _ => isCivil_of_instant?) second
  case completed => exact forall_of_optional (fun _ => isCivil_of_instant?) third

end Timestamps

namespace Failure

variable {failure : Failure}

/-- Whether the details, if there are any, are a payload. -/
def Fits (failure : Failure) : Prop := ∀ details ∈ failure.details, details.IsPayload

theorem carries (fits : failure.Fits) : Carries ofJson? toJson failure where
  readBack := by
    let record := Record.written failure.toJson
    have found : record? fields failure.toJson = some record :=
      record?_obj (by decide) <| by
        simp only [List.map_append]
        exact (names_member _ _ _).append (names_member _ _ _)
    have message : record.optional "message" text? = some failure.message :=
      optional_of_member (by simp [record, toJson, List.lookup_append]) fun text _ =>
        carries_text text
    have details : record.optional "details" payload? = some failure.details :=
      optional_of_member (by simp [record, toJson, List.lookup_append]) fun payload present =>
        carries_payload (fits payload present)
    rw [ofJson?, bind_of_found found, bind_of_found message, bind_of_found details]
  filled := nofun

theorem fits_of_ofJson? (read : ofJson? value = some failure) : failure.Fits := by
  rw [ofJson?] at read
  rcases exists_of_bind read with ⟨record, -, read⟩
  rcases exists_of_bind read with ⟨message, -, read⟩
  rcases exists_of_bind read with ⟨details, first, same⟩
  cases same
  exact forall_of_optional isPayload_of_payload? first

end Failure

namespace Job

variable {job : Job}

/-- Whether all parts of a job can be written. -/
structure Fits (job : Job) : Prop where
  progress : job.progress.Fits
  timestamps : job.timestamps.Fits
  error : ∀ failure ∈ job.error, failure.Fits
  result : ∀ payload ∈ job.result, payload.IsPayload

theorem carries (fits : job.Fits) : Carries ofJson? toJson job where
  readBack := by
    let record := Record.written job.toJson
    have found : record? fields job.toJson = some record :=
      record?_obj (by decide) <| by
        simp only [List.map_append]
        exact ((List.Sublist.refl _).append (names_member _ _ _)).append (names_member _ _ _)
    have id : record.required "id" JobId.ofJson? = some job.id :=
      required_of_field (carries_job job.id) rfl
    have jobType : record.required "jobType" JobType.ofJson? = some job.jobType :=
      required_of_field (carries_jobType job.jobType) rfl
    have status : record.required "status" Status.ofJson? = some job.status :=
      required_of_field (carries_status job.status) rfl
    have resource : record.defaulted "resource" .none Resource.ofJson? = some job.resource :=
      defaulted_of_field job.resource.carries rfl
    have progress : record.defaulted "progress" .empty Progress.ofJson? = some job.progress :=
      defaulted_of_field (Progress.carries fits.progress) rfl
    have timestamps : record.required "timestamps" Timestamps.ofJson? = some job.timestamps :=
      required_of_field (Timestamps.carries fits.timestamps) rfl
    have error : record.optional "error" Failure.ofJson? = some job.error :=
      optional_of_member (by simp [record, toJson, List.lookup_cons, List.lookup_append])
        fun failure present => Failure.carries (fits.error failure present)
    have result : record.optional "result" payload? = some job.result :=
      optional_of_member (by simp [record, toJson, List.lookup_cons, List.lookup_append])
        fun payload present => carries_payload (fits.result payload present)
    rw [ofJson?, bind_of_found found, bind_of_found id, bind_of_found jobType,
      bind_of_found status, bind_of_found resource, bind_of_found progress,
      bind_of_found timestamps, bind_of_found error, bind_of_found result]
  filled := nofun

theorem fits_of_ofJson? (read : ofJson? value = some job) : job.Fits := by
  rw [ofJson?] at read
  rcases exists_of_bind read with ⟨record, -, read⟩
  rcases exists_of_bind read with ⟨id, -, read⟩
  rcases exists_of_bind read with ⟨jobType, -, read⟩
  rcases exists_of_bind read with ⟨status, -, read⟩
  rcases exists_of_bind read with ⟨resource, -, read⟩
  rcases exists_of_bind read with ⟨progress, first, read⟩
  rcases exists_of_bind read with ⟨timestamps, second, read⟩
  rcases exists_of_bind read with ⟨error, third, read⟩
  rcases exists_of_bind read with ⟨result, fourth, same⟩
  cases same
  constructor
  case progress =>
    exact of_defaulted Progress.Fits Progress.fits_empty Progress.fits_of_ofJson? first
  case timestamps => exact of_required Timestamps.Fits Timestamps.fits_of_ofJson? second
  case error => exact forall_of_optional (fun _ => Failure.fits_of_ofJson?) third
  case result => exact forall_of_optional isPayload_of_payload? fourth

theorem carries_list {jobs : List Job} (fits : ∀ job ∈ jobs, job.Fits) :
    Carries (list? ofJson?) (fun jobs => .arr (jobs.map toJson)) jobs where
  readBack := readAll_map jobs fun job member => (carries (fits job member)).readBack
  filled := nofun

theorem fits_of_list? {jobs : List Job} (read : list? ofJson? value = some jobs) :
    ∀ job ∈ jobs, job.Fits := by
  cases value with
  | arr items => exact forall_of_readAll fits_of_ofJson? read
  | null => cases read
  | bool truth => cases read
  | int whole => cases read
  | float double => cases read
  | str text => cases read
  | obj members => cases read

end Job

namespace Query

variable {query : Query}

/-- Whether the numbers are numbers of 32 bits. -/
structure Fits (query : Query) : Prop where
  page : query.page ≤ maxWord32
  pageSize : query.pageSize ≤ maxWord32

theorem carries (fits : query.Fits) : Carries ofJson? toJson query where
  readBack := by
    let record := Record.written query.toJson
    have found : record? fields query.toJson = some record :=
      record?_obj (by decide) <| by
        simp only [List.map_append]
        exact ((List.Sublist.refl _).append (names_member _ _ _)).append (names_member _ _ _)
    have page : record.required "page" word32? = some query.page :=
      required_of_field (carries_unsigned fits.page) rfl
    have pageSize : record.required "pageSize" word32? = some query.pageSize :=
      required_of_field (carries_unsigned fits.pageSize) rfl
    have jobType : record.optional "jobType" JobType.ofJson? = some query.jobType :=
      optional_of_member (by simp [record, toJson, List.lookup_cons, List.lookup_append])
        fun jobType _ => carries_jobType jobType
    have status : record.optional "status" Status.ofJson? = some query.status :=
      optional_of_member (by simp [record, toJson, List.lookup_cons, List.lookup_append])
        fun status _ => carries_status status
    rw [ofJson?, bind_of_found found, bind_of_found page, bind_of_found pageSize,
      bind_of_found jobType, bind_of_found status]
  filled := nofun

theorem fits_of_ofJson? (read : ofJson? value = some query) : query.Fits := by
  rw [ofJson?] at read
  rcases exists_of_bind read with ⟨record, -, read⟩
  rcases exists_of_bind read with ⟨page, first, read⟩
  rcases exists_of_bind read with ⟨pageSize, second, read⟩
  rcases exists_of_bind read with ⟨jobType, -, read⟩
  rcases exists_of_bind read with ⟨status, -, same⟩
  cases same
  constructor
  case page => exact of_required (· ≤ maxWord32) le_of_unsigned? first
  case pageSize => exact of_required (· ≤ maxWord32) le_of_unsigned? second

end Query

/-! ## Records with all their fields -/

namespace Page

variable {page : Page}

/-- Whether all jobs can be written, and the numbers are of 64 and 32 bits. -/
structure Fits (page : Page) : Prop where
  items : ∀ job ∈ page.items, job.Fits
  total : page.total ≤ maxWord64
  totalPages : page.totalPages ≤ maxWord32

theorem carries (fits : page.Fits) : Carries ofJson? toJson page where
  readBack := by
    let record := Record.written page.toJson
    have found : record? fields page.toJson = some record :=
      record?_obj (by decide) (List.Sublist.refl _)
    have items : record.required "items" (list? Job.ofJson?) = some page.items :=
      required_of_field (Job.carries_list fits.items) rfl
    have total : record.required "total" word64? = some page.total :=
      required_of_field (carries_unsigned fits.total) rfl
    have totalPages : record.required "totalPages" word32? = some page.totalPages :=
      required_of_field (carries_unsigned fits.totalPages) rfl
    rw [ofJson?, bind_of_found found, bind_of_found items, bind_of_found total,
      bind_of_found totalPages]
  filled := nofun

theorem fits_of_ofJson? (read : ofJson? value = some page) : page.Fits := by
  rw [ofJson?] at read
  rcases exists_of_bind read with ⟨record, -, read⟩
  rcases exists_of_bind read with ⟨items, first, read⟩
  rcases exists_of_bind read with ⟨total, second, read⟩
  rcases exists_of_bind read with ⟨totalPages, third, same⟩
  cases same
  constructor
  case items => exact of_required (∀ job ∈ ·, Job.Fits job) Job.fits_of_list? first
  case total => exact of_required (· ≤ maxWord64) le_of_unsigned? second
  case totalPages => exact of_required (· ≤ maxWord32) le_of_unsigned? third

end Page

namespace Patch

variable {patch : Patch}

/-- Whether all parts of a patch can be written. -/
structure Fits (patch : Patch) : Prop where
  progress : patch.progress.Fits
  created : ∀ moment ∈ patch.created, moment.IsCivil
  started : ∀ moment ∈ patch.started, moment.IsCivil
  completed : ∀ moment ∈ patch.completed, moment.IsCivil
  error : ∀ failure ∈ patch.error, failure.Fits
  result : ∀ payload ∈ patch.result, payload.IsPayload
  observedAt : patch.observedAt.IsCivil

theorem carries (fits : patch.Fits) : Carries ofJson? toJson patch where
  readBack := by
    let record := Record.written patch.toJson
    have found : record? fields patch.toJson = some record :=
      record?_obj (by decide) (List.Sublist.refl _)
    have id : record.required "id" JobId.ofJson? = some patch.id :=
      required_of_field (carries_job patch.id) rfl
    have jobType : record.nullable "jobType" JobType.ofJson? = some patch.jobType :=
      nullable_of_orNull rfl fun jobType _ => carries_jobType jobType
    have status : record.nullable "status" Status.ofJson? = some patch.status :=
      nullable_of_orNull rfl fun status _ => carries_status status
    have resource : record.nullable "resource" Resource.ofJson? = some patch.resource :=
      nullable_of_orNull rfl fun resource _ => resource.carries
    have resourceName : record.nullable "resourceId" ResourceId.ofJson? =
        some patch.resourceName :=
      nullable_of_orNull rfl fun id _ => carries_resourceName id
    have progress : record.required "progress" Progress.ofJson? = some patch.progress :=
      required_of_field (Progress.carries fits.progress) rfl
    have created : record.nullable "created" instant? = some patch.created :=
      nullable_of_orNull rfl fun moment present =>
        carries_instant (fits.created moment present)
    have started : record.nullable "started" instant? = some patch.started :=
      nullable_of_orNull rfl fun moment present =>
        carries_instant (fits.started moment present)
    have completed : record.nullable "completed" instant? = some patch.completed :=
      nullable_of_orNull rfl fun moment present =>
        carries_instant (fits.completed moment present)
    have error : record.nullable "error" Failure.ofJson? = some patch.error :=
      nullable_of_orNull rfl fun failure present =>
        Failure.carries (fits.error failure present)
    have result : record.nullable "result" payload? = some patch.result :=
      nullable_of_orNull rfl fun payload present =>
        carries_payload (fits.result payload present)
    have observedAt : record.required "observedAt" instant? = some patch.observedAt :=
      required_of_field (carries_instant fits.observedAt) rfl
    rw [ofJson?, bind_of_found found, bind_of_found id, bind_of_found jobType,
      bind_of_found status, bind_of_found resource, bind_of_found resourceName,
      bind_of_found progress, bind_of_found created, bind_of_found started,
      bind_of_found completed, bind_of_found error, bind_of_found result, bind_of_found observedAt]
  filled := nofun

theorem fits_of_ofJson? (read : ofJson? value = some patch) : patch.Fits := by
  rw [ofJson?] at read
  rcases exists_of_bind read with ⟨record, -, read⟩
  rcases exists_of_bind read with ⟨id, -, read⟩
  rcases exists_of_bind read with ⟨jobType, -, read⟩
  rcases exists_of_bind read with ⟨status, -, read⟩
  rcases exists_of_bind read with ⟨resource, -, read⟩
  rcases exists_of_bind read with ⟨resourceName, -, read⟩
  rcases exists_of_bind read with ⟨progress, first, read⟩
  rcases exists_of_bind read with ⟨created, second, read⟩
  rcases exists_of_bind read with ⟨started, third, read⟩
  rcases exists_of_bind read with ⟨completed, fourth, read⟩
  rcases exists_of_bind read with ⟨error, fifth, read⟩
  rcases exists_of_bind read with ⟨result, sixth, read⟩
  rcases exists_of_bind read with ⟨observedAt, seventh, same⟩
  cases same
  constructor
  case progress => exact of_required Progress.Fits Progress.fits_of_ofJson? first
  case created => exact forall_of_nullable (fun _ => isCivil_of_instant?) second
  case started => exact forall_of_nullable (fun _ => isCivil_of_instant?) third
  case completed => exact forall_of_nullable (fun _ => isCivil_of_instant?) fourth
  case error => exact forall_of_nullable (fun _ => Failure.fits_of_ofJson?) fifth
  case result => exact forall_of_nullable isPayload_of_payload? sixth
  case observedAt => exact of_required Instant.IsCivil isCivil_of_instant? seventh

end Patch

theorem Job.Fits.ofJob {job : Job} {moment : Instant} (fits : job.Fits) (civil : moment.IsCivil) :
    (Patch.ofJob job moment).Fits := by
  constructor
  case progress => exact fits.progress
  case created =>
    intro created present
    cases present
    exact fits.timestamps.created
  case started => exact fits.timestamps.started
  case completed => exact fits.timestamps.completed
  case error => exact fits.error
  case result => exact fits.result
  case observedAt => exact civil

namespace Event

variable {event : Event}

/-- Whether all parts of an event can be written, apart from the identifier of its frame, which
never is. -/
structure Fits (event : Event) : Prop where
  current : ∀ count ∈ event.current, count ≤ maxWord64
  total : ∀ count ∈ event.total, count ≤ maxWord64
  percentage : ∀ share ∈ event.percentage, share.isFinite = true
  error : ∀ failure ∈ event.error, failure.Fits
  result : ∀ payload ∈ event.result, payload.IsPayload
  jobs : ∀ job ∈ event.jobs, job.Fits

theorem defaulted_jobs (fits : event.Fits) :
    (Record.written event.toJson).defaulted "jobs" [] (list? Job.ofJson?) = some event.jobs := by
  have carried := Job.carries_list fits.jobs
  cases jobs : event.jobs with
  | nil =>
      have field : (Record.written event.toJson).field? "jobs" = none := by
        rw [field?_written, toJson, jobs]
        rfl
      rw [Record.defaulted, field]
  | cons job rest =>
      rw [jobs] at carried
      apply defaulted_of_field carried
      rw [field?_written, toJson, jobs]
      rfl

theorem ofJson?_toJson (fits : event.Fits) :
    ofJson? event.toJson = some { event with eventId := none } := by
  let record := Record.written event.toJson
  have found : record? fields event.toJson = some record :=
    record?_obj (by decide) <| by
      rw [List.map_append]
      apply (List.Sublist.refl _).append
      cases event.jobs with
      | nil => exact List.nil_sublist ["jobs"]
      | cons job rest => exact List.Sublist.refl ["jobs"]
  have type : record.defaulted "type" "" text? = some event.type :=
    defaulted_of_field (carries_text event.type) rfl
  have jobId : record.optional "jobId" JobId.ofJson? = some event.jobId :=
    optional_of_orNull rfl fun id _ => carries_job id
  have resourceId : record.optional "resourceId" ResourceId.ofJson? = some event.resourceId :=
    optional_of_orNull rfl fun id _ => carries_resourceName id
  have resourceKind : record.optional "resourceKind" ResourceKind.ofJson? =
      some event.resourceKind :=
    optional_of_orNull rfl fun kind _ => carries_kind kind
  have jobType : record.optional "jobType" JobType.ofJson? = some event.jobType :=
    optional_of_orNull rfl fun jobType _ => carries_jobType jobType
  have status : record.optional "status" Status.ofJson? = some event.status :=
    optional_of_orNull rfl fun status _ => carries_status status
  have current : record.optional "current" word64? = some event.current :=
    optional_of_orNull rfl fun count present => carries_unsigned (fits.current count present)
  have total : record.optional "total" word64? = some event.total :=
    optional_of_orNull rfl fun count present => carries_unsigned (fits.total count present)
  have percentage : record.optional "percentage" float? = some event.percentage :=
    optional_of_orNull rfl fun share present => carries_float (fits.percentage share present)
  have message : record.optional "message" text? = some event.message :=
    optional_of_orNull rfl fun text _ => carries_text text
  have currentStep : record.optional "currentStep" text? = some event.currentStep :=
    optional_of_orNull rfl fun text _ => carries_text text
  have error : record.optional "error" Failure.ofJson? = some event.error :=
    optional_of_orNull rfl fun failure present => Failure.carries (fits.error failure present)
  have result : record.optional "result" payload? = some event.result :=
    optional_of_orNull rfl fun payload present => carries_payload (fits.result payload present)
  rw [ofJson?, bind_of_found found, bind_of_found type, bind_of_found jobId,
    bind_of_found resourceId, bind_of_found resourceKind, bind_of_found jobType,
    bind_of_found status, bind_of_found current, bind_of_found total, bind_of_found percentage,
    bind_of_found message, bind_of_found currentStep, bind_of_found error, bind_of_found result,
    bind_of_found (defaulted_jobs fits)]

/-- What is read has no identifier of a frame, and the rest of it can be written. -/
theorem fits_of_ofJson? (read : ofJson? value = some event) :
    event.Fits ∧ event.eventId = none := by
  rw [ofJson?] at read
  rcases exists_of_bind read with ⟨record, -, read⟩
  rcases exists_of_bind read with ⟨type, -, read⟩
  rcases exists_of_bind read with ⟨jobId, -, read⟩
  rcases exists_of_bind read with ⟨resourceId, -, read⟩
  rcases exists_of_bind read with ⟨resourceKind, -, read⟩
  rcases exists_of_bind read with ⟨jobType, -, read⟩
  rcases exists_of_bind read with ⟨status, -, read⟩
  rcases exists_of_bind read with ⟨current, first, read⟩
  rcases exists_of_bind read with ⟨total, second, read⟩
  rcases exists_of_bind read with ⟨percentage, third, read⟩
  rcases exists_of_bind read with ⟨message, -, read⟩
  rcases exists_of_bind read with ⟨currentStep, -, read⟩
  rcases exists_of_bind read with ⟨error, fourth, read⟩
  rcases exists_of_bind read with ⟨result, fifth, read⟩
  rcases exists_of_bind read with ⟨jobs, sixth, same⟩
  cases same
  refine ⟨?_, rfl⟩
  constructor
  case current => exact forall_of_optional (fun _ => le_of_unsigned?) first
  case total => exact forall_of_optional (fun _ => le_of_unsigned?) second
  case percentage => exact forall_of_optional (fun _ => isFinite_of_float?) third
  case error => exact forall_of_optional (fun _ => Failure.fits_of_ofJson?) fourth
  case result => exact forall_of_optional isPayload_of_payload? fifth
  case jobs =>
    exact of_defaulted (∀ job ∈ ·, Job.Fits job) (List.forall_mem_nil _) Job.fits_of_list? sixth

end Event

/-! ## Reading, writing and reading again -/

/-- What is written for a value is read as that value, for everything that can be written: jobs,
pages of them, patches, queries and events, of which the identifier of the frame is not part of what
is written. Whatever is read from a value can be written, and is read again as the same. -/
theorem wire_forms_round_trip :
    (∀ job : Job, job.Fits → Job.ofJson? job.toJson = some job) ∧
    (∀ page : Page, page.Fits → Page.ofJson? page.toJson = some page) ∧
    (∀ query : Query, query.Fits → Query.ofJson? query.toJson = some query) ∧
    (∀ patch : Patch, patch.Fits → Patch.ofJson? patch.toJson = some patch) ∧
    (∀ event : Event, event.Fits →
      Event.ofJson? event.toJson = some { event with eventId := none }) ∧
    (∀ value job, Job.ofJson? value = some job → Job.ofJson? job.toJson = some job) ∧
    (∀ value page, Page.ofJson? value = some page → Page.ofJson? page.toJson = some page) ∧
    (∀ value query, Query.ofJson? value = some query →
      Query.ofJson? query.toJson = some query) ∧
    (∀ value patch, Patch.ofJson? value = some patch →
      Patch.ofJson? patch.toJson = some patch) ∧
    (∀ value event, Event.ofJson? value = some event →
      Event.ofJson? event.toJson = some event) := by
  refine ⟨?_, ?_, ?_, ?_, ?_, ?_, ?_, ?_, ?_, ?_⟩
  · exact fun job fits => (Job.carries fits).readBack
  · exact fun page fits => (Page.carries fits).readBack
  · exact fun query fits => (Query.carries fits).readBack
  · exact fun patch fits => (Patch.carries fits).readBack
  · exact fun event fits => Event.ofJson?_toJson fits
  · exact fun value job read => (Job.carries (Job.fits_of_ofJson? read)).readBack
  · exact fun value page read => (Page.carries (Page.fits_of_ofJson? read)).readBack
  · exact fun value query read => (Query.carries (Query.fits_of_ofJson? read)).readBack
  · exact fun value patch read => (Patch.carries (Patch.fits_of_ofJson? read)).readBack
  · intro value event read
    rcases Event.fits_of_ofJson? read with ⟨fits, unnamed⟩
    rw [Event.ofJson?_toJson fits, ← unnamed]

/-- A job with something in each of its fields; it was completed in a leap second. -/
def fullJob : Job where
  id := ⟨"job-1"⟩
  jobType := .unknown
  status := .failed
  resource := .promotion ⟨"promotion-1"⟩
  progress := ⟨some 3, some 7, some 42.5, some "copying", some "upload"⟩
  timestamps := ⟨⟨1483228700, 0⟩, some ⟨1483228710, 500000000⟩, some ⟨1483228799, 1250000000⟩⟩
  error := some ⟨some "out of space", some (.obj [("code", .int 28), ("path", .null)])⟩
  result := some (.arr [])

theorem fullJob_fits : fullJob.Fits := by
  constructor
  case progress => constructor <;> decide
  case timestamps =>
    constructor
    case created => constructor <;> decide
    case started =>
      intro moment present
      cases present
      constructor <;> decide
    case completed =>
      intro moment present
      cases present
      constructor <;> decide
  case error =>
    intro failure present details stated
    cases present
    cases stated
    exact ⟨rfl, nofun⟩
  case result =>
    intro payload present
    cases present
    exact ⟨rfl, nofun⟩

/-- A snapshot with one record. -/
def fullSnapshot : Event :=
  ⟨"snapshot", none, none, none, none, none, none, none, none, none, none, none, none, [fullJob],
    some ⟨"event-1"⟩⟩

/-- The job by itself, on a page, in a patch and in a snapshot, a query, and queries and events of
which fields are missing. -/
theorem fullJob_round_trips :
    Job.ofJson? fullJob.toJson = some fullJob ∧
      Page.ofJson? (Page.toJson ⟨[fullJob], 1, 1⟩) = some ⟨[fullJob], 1, 1⟩ ∧
      Query.ofJson? Query.standard.toJson = some .standard ∧
      Patch.ofJson? (Patch.ofJob fullJob ⟨1483228800, 0⟩).toJson =
        some (.ofJob fullJob ⟨1483228800, 0⟩) ∧
      Event.ofJson? fullSnapshot.toJson = some { fullSnapshot with eventId := none } ∧
      Query.ofJson? (Query.toJson ⟨2, 50, none, none⟩) = some ⟨2, 50, none, none⟩ ∧
      Event.ofJson? (Event.toJson { fullSnapshot with jobs := [], eventId := none }) =
        some { fullSnapshot with jobs := [], eventId := none } := by
  obtain ⟨jobs, pages, queries, patches, events, -, -, queriesAgain, -, eventsAgain⟩ :=
    wire_forms_round_trip
  have listed : ∀ job ∈ [fullJob], job.Fits := by
    intro job member
    cases List.mem_singleton.1 member
    exact fullJob_fits
  refine ⟨jobs _ fullJob_fits, pages _ ⟨listed, by decide, by decide⟩,
    queries _ ⟨by decide, by decide⟩, patches _ (fullJob_fits.ofJob (by constructor <;> decide)),
    events _ ⟨nofun, nofun, nofun, nofun, nofun, listed⟩, ?_, ?_⟩
  · exact queriesAgain (.arr [.int 2, .int 50]) _ rfl
  · exact eventsAgain (.obj [("type", .str "snapshot"), ("jobs", .arr [])]) _ rfl

end LiveJobs
