import LiveJobs.Proofs.Chunks
import LiveJobs.Proofs.ListView
import LiveJobs.Proofs.Resumption
import LiveJobs.Rehearsal.Stage

/-!
# What a pushed update changes

A job update carries part of the state of one job. On its way to the stored record it is decoded
from a frame, takes what it does not say from its type and its channel, and is laid over the record.
Whatever it does not report has to survive that.

What an update reports is said here once, field by field, in terms of the event alone
(`Event.carried?`); `Event.Updates` is then all that it does to the stored job. The rest of the
store stays as it is, and of an event that cannot be routed only its sequence is left.
-/

namespace LiveJobs

open LiveJobs.Time

namespace Event

/-! ## The parts of a type -/

theorem undotted {part : List Char} (free : '.' ∉ part) {character : Char}
    (member : character ∈ part) : decide (character ≠ '.') = true :=
  decide_eq_true (ne_of_mem_of_not_mem member free)

theorem head?_splitOn (type : String) :
    (type.toList.splitOn '.').head? = some (family type).toList := by
  rw [family, String.toList_ofList]
  generalize type.toList = characters
  cases characters using separated_induction '.' with
  | unclosed part free =>
      rw [List.splitOn_eq_singleton free,
        List.takeWhile_eq_self_iff.2 fun _ member => undotted free member]
      rfl
  | closed part rest free =>
      rw [List.splitOn_append_cons_self_of_not_mem free,
        List.takeWhile_append_of_pos fun _ member => undotted free member]
      simp

theorem getLast?_splitOn (type : String) :
    (type.toList.splitOn '.').getLast? = some (stage type).toList := by
  rw [stage, String.toList_ofList]
  generalize type.toList = characters
  induction characters using separated_induction '.' with
  | unclosed part free =>
      rw [List.splitOn_eq_singleton free, List.takeWhile_eq_self_iff.2 fun _ member =>
        undotted free (List.mem_reverse.1 member)]
      simp
  | closed part rest free ih =>
      have behind : (part ++ '.' :: rest).reverse.takeWhile (· ≠ '.') =
          rest.reverse.takeWhile (· ≠ '.') := by
        rw [List.reverse_append, List.reverse_cons, List.append_assoc, List.takeWhile_append]
        split
        next whole =>
          rw [(List.takeWhile_prefix _).eq_of_length whole]
          exact List.append_nil _
        next => rfl
      rw [List.splitOn_append_cons_self_of_not_mem free, behind, ← ih]
      exact List.getLast?_cons_of_ne_nil (List.splitOn_ne_nil _ _)

end Event

/-! ## What an update reports -/

/-- The category of the resources that jobs of a type work on. -/
def JobType.kind? : JobType → Option ResourceKind
  | .environmentSync => some .environment
  | .remoteBackup => some .environment
  | .remoteRestore => some .environment
  | .promotionExecute => some .promotion
  | .snapshotRestore => some .environment
  | .unknown => none

namespace Event

variable (event : Event) (channel : Channel) (wall : Instant) {id : JobId} {resource : ResourceId}

/-- The category of the resource is settled by the first that says anything of it: the event, the
channel, the type of the job, the type of the event. -/
theorem reportedKind?_eq : event.reportedKind? channel =
    (event.resourceKind.or (channel.defaultKind?.or
      ((event.jobType.bind JobType.kind?).or event.familyKind?))) := by
  have implied : event.impliedKind? = (event.jobType.bind JobType.kind?).or event.familyKind? := by
    unfold impliedKind?
    cases event.jobType with
    | none => rfl
    | some jobType => cases jobType <;> rfl
  rw [reportedKind?, implied, Option.or_assoc]

/-- What an update that names a resource reports for a field of a job. A name without a category is
that of a resource of the category that the job's resource has, and of no use if it has none. -/
def carried? (job : Job) (resource : ResourceId) : (field : Field) → Option field.Value
  | .jobType => event.jobType
  | .status => event.status.or event.impliedStatus?
  | .resource =>
      match event.reportedKind? channel with
      | some kind => some (.ofKind kind resource)
      | none =>
          if job.resource.kind = .none then none else some (.ofKind job.resource.kind resource)
  | .current => event.current.map some
  | .total => event.total.map some
  | .percentage => event.percentage.map some
  | .message => event.message.map some
  | .currentStep => event.currentStep.map some
  | .created => none
  | .started => none
  | .completed => none
  | .error => event.error.map some
  | .result => event.result.map some

/-- The patch of an update reports what the update does. -/
theorem valueFor?_toPatch (job : Job) (field : Field) :
    (event.toPatch channel wall id resource).valueFor? job field =
      event.carried? channel job resource field := by
  cases field with
  | resource =>
      simp only [Patch.valueFor?, Patch.resourceFor?, toPatch, carried?]
      cases event.reportedKind? channel with
      | none => rfl
      | some kind => rfl
  | _ => rfl

/-! ## Routing -/

/-- Whether an event tells of no job: it is a control event, or a job update that cannot be
routed. -/
def IsIdle : Prop :=
  event.kind = .control ∨ event.kind = .jobUpdate ∧ (event.jobId = none ∨ event.resourceId = none)

variable {event}

theorem IsIdle.no_patches (idle : event.IsIdle) :
    (event.patches channel wall).toOption.getD [] = [] := by
  rcases idle with control | ⟨update, nameless | placeless⟩
  · rw [patches, control]
    rfl
  · rw [patches, update, jobPatch, nameless]
    rfl
  · rw [patches, update, jobPatch, placeless]
    cases event.jobId with
    | none => rfl
    | some job => rfl

theorem patches_of_update (update : event.kind = .jobUpdate) (names : event.jobId = some id)
    (places : event.resourceId = some resource) :
    event.patches channel wall = .ok [event.toPatch channel wall id resource] := by
  rw [patches, update, jobPatch, names, places]
  rfl

end Event

/-! ## What an update does -/

/-- All that a job update does to the entry of its job, which has not ended, under a sequence. -/
structure Event.Updates (event : Event) (channel : Channel) (wall : Instant)
    (resource : ResourceId) (sequence : Sequence) (entry next : Entry) : Prop where
  id : next.job.id = entry.job.id
  /-- A field that the event says nothing of keeps its value and its stamp. -/
  silent : ∀ field, field ≠ .completed →
    event.carried? channel entry.job resource field = none →
    next.register field = entry.register field
  created : next.register .created = entry.register .created
  started : next.register .started = entry.register .started
  /-- A field that it does say something of is offered just that. -/
  told : ∀ field : Field, field.isOverlaid = true → next.register field =
    (entry.register field).offer sequence (event.carried? channel entry.job resource field)
  /-- The status changes by a step forward only, to the event's own or else to the implied one. -/
  status : next.register .status =
    (entry.register .status).advance sequence (event.status.or event.impliedStatus?)
  /-- A time of completion comes with the end of the job only. -/
  completed : next.register .completed =
    if next.job.isTerminal then (entry.register .completed).complete sequence wall
    else entry.register .completed
  /-- A failure comes with a failed job only. -/
  error : next.register .error =
    if next.job.status = .failed then
      (entry.register .error).offer sequence (event.error.map some)
    else entry.register .error
  /-- The resource gets another category only if the event settles one. -/
  kind : next.job.resource.kind ≠ entry.job.resource.kind →
    event.reportedKind? channel = some next.job.resource.kind
  /-- A resource without a category is left alone by a name alone. -/
  uncategorised : event.reportedKind? channel = none → entry.job.resource.kind = .none →
    next.register .resource = entry.register .resource

namespace Event

variable {event : Event} {channel : Channel} {job : Job} {resource : ResourceId} {told : Resource}

/-- A resource that an update reports is of the category which the event settles, or else of that of
the job's resource. -/
theorem kind_of_carried (carried : event.carried? channel job resource .resource = some told) :
    event.reportedKind? channel = some told.kind ∨ told.kind = job.resource.kind := by
  rw [carried?] at carried
  split at carried
  next kind settled =>
    cases carried
    exact .inl (by rw [settled, Resource.kind_ofKind])
  next =>
    rw [Option.ite_none_left_eq_some] at carried
    cases carried.2
    exact .inr (Resource.kind_ofKind _ _)

end Event

namespace Report

variable {event : Event} {channel : Channel} {wall : Instant} {id : JobId} {resource : ResourceId}
  {origin : Origin} {sequence : Sequence} {entry next : Entry}

/-- Laying the patch of an update over an entry does what the update does. -/
theorem Lays.updates
    (lays : Lays ⟨event.toPatch channel wall id resource, origin, sequence⟩ entry next) :
    event.Updates channel wall resource sequence entry next := by
  have told (field : Field) (overlaid : field.isOverlaid = true) : next.register field =
      (entry.register field).offer sequence (event.carried? channel entry.job resource field) := by
    rw [lays.overlaid field overlaid, Event.valueFor?_toPatch]
  have status : next.register .status = (entry.register .status).advance sequence
      (event.carried? channel entry.job resource .status) := lays.status
  have error : next.register .error = if next.job.status = .failed then
      (entry.register .error).offer sequence (event.carried? channel entry.job resource .error)
      else entry.register .error := lays.error
  constructor
  case id => exact lays.id
  case silent =>
    intro field incomplete nothing
    cases field with
    | status =>
        rw [status, nothing]
        rfl
    | completed => exact absurd rfl incomplete
    | error =>
        rw [error, nothing]
        exact ite_self _
    | _ => rw [told _ rfl, nothing, Register.offer_none]
  case created => exact told .created rfl
  case started => exact told .started rfl
  case told => exact told
  case status => exact status
  case completed => exact lays.completed
  case error => exact error
  case kind =>
    intro differs
    rcases (entry.register .resource).value_offer_cases sequence
      (event.carried? channel entry.job resource .resource) with stays | taken
    · rw [← told .resource rfl] at stays
      exact absurd (congrArg Resource.kind stays) differs
    · rw [← told .resource rfl] at taken
      exact (Event.kind_of_carried taken).resolve_right differs
  case uncategorised =>
    intro unsettled bare
    have nothing : event.carried? channel entry.job resource .resource = none := by
      simp [Event.carried?, unsettled, bare]
    rw [told .resource rfl, nothing, Register.offer_none]

end Report

/-! ## What is left of a frame in the store -/

/-- Takes up a frame of a channel. The event in it is received if it decodes to one. -/
def Session.takeUp (session : Session) (channel : Channel) (wall : Instant) (frame : Frame) :
    Session :=
  match frame.event? with
  | none => session
  | some event => session.receive channel wall event

/-- So does a stream that takes frames, when it hears of one. -/
theorem Stage.store_hear {stage : Stage} {index : Nat} {stream : Connection}
    (found : stage.session.streams[index]? = some stream) (taking : stream.phase = .taking)
    (now : Nat) (frame : Frame) :
    (stage.hear now index (.frame frame)).session.store =
      (stage.session.takeUp stream.channel stage.wall frame).store := by
  have heard : (stream.hear now (.frame frame)).2 = frame.event? := by
    have delivery : stream.delivery? (.frame frame) = some frame := if_pos taking
    rw [stream.hear_of_delivery now delivery]
    exact (stream.takeFrame_spec frame).2
  simp only [hear, found, heard, Session.takeUp]
  cases frame.event? with
  | none => rfl
  | some event => simp only [Session.store_receive, putStream]

section Store

variable {event : Event} {channel : Channel} {wall : Instant} {id : JobId} {resource : ResourceId}

/-- Of an idle event only its sequence is left. -/
theorem Session.store_receive_of_isIdle (session : Session) (idle : event.IsIdle) :
    (session.receive channel wall event).store = session.store.draw.1 := by
  rw [store_receive, idle.no_patches]
  rfl

/-- An update of a job that has not ended changes what it reports, and nothing else in the store. -/
theorem Store.applyAll_update {store : Store} {entry : Entry}
    (found : store.snapshot.jobs.get? id = some entry) (unended : entry.job.isTerminal = false)
    (sequence : Sequence) :
    let updated :=
      (store.applyAll [event.toPatch channel wall id resource] .stream sequence).1
    (∃ next, updated.snapshot.jobs.get? id = some next ∧
      event.Updates channel wall resource sequence entry next) ∧
    (∀ other, other ≠ id → updated.snapshot.jobs.get? other = store.snapshot.jobs.get? other) ∧
    updated.snapshot.page = store.snapshot.page ∧
    updated.snapshot.pinned = store.snapshot.pinned := by
  intro updated
  let report : Report := ⟨event.toPatch channel wall id resource, .stream, sequence⟩
  have merged (other : JobId) : updated.snapshot.jobs.get? other =
      if id = other then report.entryAfter (store.snapshot.jobs.get? other)
      else store.snapshot.jobs.get? other := by
    have jobs : updated.snapshot.jobs = (store.snapshot.jobs.merge report).1 :=
      store.commit_jobs _
    rw [jobs, JobMap.get?_merge]
    rfl
  refine ⟨?_, fun other differs => ?_, store.commit_page _, store.commit_pinned _⟩
  · obtain ⟨next, becomes, lays⟩ := report.entryAfter_of_unended ((unended_some entry).2 unended)
    rw [merged, if_pos rfl, found]
    exact ⟨next, becomes, lays.updates⟩
  · rw [merged, if_neg differs.symm]

end Store

namespace Session

/-- What a pushed frame changes, whatever is in it and in the store.

If it decodes to no event, or to one that tells of no job, the snapshot of the store stays as it is,
and nobody is told of anything. A job update becomes one patch, which is merged under the sequence
that is drawn for it. On a job that has not ended, and under any sequence, it changes what
`Event.Updates` says, and nothing else in the store.

The category that an update gives its resource is its own, or else the channel's, or else that of
the type of the job, or else that of the family. Family and stage are the first and the last of the
parts of its type that dots separate. -/
theorem update_changes_what_it_reports (session : Session) (channel : Channel) (wall : Instant)
    (frame : Frame) :
    let taken := session.takeUp channel wall frame
    ((∀ event, frame.event? = some event → event.IsIdle) →
      taken.store.snapshot = session.store.snapshot ∧
      taken.store.announced = session.store.announced) ∧
    (∀ event id resource, frame.event? = some event → event.kind = .jobUpdate →
      event.jobId = some id → event.resourceId = some resource →
      ∃ patch, event.patches channel wall = .ok [patch] ∧
        taken.store =
          (session.store.draw.1.applyAll [patch] .stream session.store.draw.2).1 ∧
        ∀ (store : Store) (sequence : Sequence) (entry : Entry),
          store.snapshot.jobs.get? id = some entry → entry.job.isTerminal = false →
          let updated := (store.applyAll [patch] .stream sequence).1
          (∃ next, updated.snapshot.jobs.get? id = some next ∧
            event.Updates channel wall resource sequence entry next) ∧
          (∀ other, other ≠ id →
            updated.snapshot.jobs.get? other = store.snapshot.jobs.get? other) ∧
          updated.snapshot.page = store.snapshot.page ∧
          updated.snapshot.pinned = store.snapshot.pinned) ∧
    (∀ event : Event,
      event.reportedKind? channel = (event.resourceKind.or (channel.defaultKind?.or
        ((event.jobType.bind JobType.kind?).or event.familyKind?))) ∧
      (event.type.toList.splitOn '.').head? = some (Event.family event.type).toList ∧
      (event.type.toList.splitOn '.').getLast? = some (Event.stage event.type).toList) := by
  intro taken
  refine ⟨?_, ?_, ?_⟩
  · intro idle
    unfold taken takeUp
    split
    next => exact ⟨rfl, rfl⟩
    next event decoded =>
      rw [session.store_receive_of_isIdle (idle event decoded)]
      exact ⟨rfl, rfl⟩
  · intro event id resource decoded update names places
    have routed := Event.patches_of_update channel wall update names places
    refine ⟨_, routed, ?_, fun store sequence entry found unended =>
      store.applyAll_update found unended sequence⟩
    have received : taken = session.receive channel wall event := by
      simp only [taken, takeUp, decoded]
    rw [received, store_receive, routed]
    rfl
  · exact fun event =>
      ⟨event.reportedKind?_eq channel, Event.head?_splitOn _, Event.getLast?_splitOn _⟩

/-- A session that knows of a job at work on an environment. -/
def atWork : Session :=
  let job : Job := { Job.fresh ⟨"job-1"⟩ .unknown (.environment ⟨"env-1"⟩) ⟨5, 0⟩ with
    status := .running }
  let asked := (Store.initial 10000).draw
  { quiet 10000 with store := (asked.1.applyAll [.ofJob job ⟨9, 0⟩] .bulkPoll asked.2).1 }

/-- What it knows of the job. -/
def atWorkEntry : Entry := (atWork.store.snapshot.jobs.get? ⟨"job-1"⟩).get (by decide +kernel)

/-- The end of the job, told in a frame of a type that says nothing of the category. -/
def vague : Frame where
  id := none
  event := some "workflow.completed"
  data := "\x7b\"jobId\": \"job-1\", \"resourceId\": \"env-2\", \"current\": 3\x7d"
  retry := none

/-- The event in the frame. -/
def vagueUpdate : Event := vague.event?.get (by decide +kernel)

theorem vague_update_keeps_category :
    ∃ next,
      (atWork.takeUp .backgroundJobs ⟨11, 0⟩ vague).store.snapshot.jobs.get? ⟨"job-1"⟩ = some next ∧
      next.job.timestamps = ⟨⟨5, 0⟩, none, some ⟨11, 0⟩⟩ ∧ next.job.status = .completed ∧
      next.job.resource = .environment ⟨"env-2"⟩ := by
  obtain ⟨-, updates, -⟩ := update_changes_what_it_reports atWork .backgroundJobs ⟨11, 0⟩ vague
  obtain ⟨patch, -, taken, changes⟩ := updates vagueUpdate ⟨"job-1"⟩ ⟨"env-2"⟩
    (Option.some_get _).symm (by decide +kernel) (by decide +kernel) (by decide +kernel)
  obtain ⟨⟨next, found, updates⟩, -⟩ := changes atWork.store.draw.1 atWork.store.draw.2
    atWorkEntry (Option.some_get _).symm (by decide +kernel)
  have status : next.job.status = .completed :=
    (congrArg Register.value updates.status).trans (by decide +kernel)
  have ended : next.job.isTerminal = true := by rw [Job.isTerminal, status]; rfl
  have created : next.job.timestamps.created = ⟨5, 0⟩ :=
    (congrArg Register.value updates.created).trans (by decide +kernel)
  have started : next.job.timestamps.started = none :=
    (congrArg Register.value updates.started).trans (by decide +kernel)
  have completed : next.job.timestamps.completed = some ⟨11, 0⟩ := by
    refine (congrArg Register.value updates.completed).trans ?_
    rw [if_pos ended]
    decide +kernel
  have resource : next.job.resource = .environment ⟨"env-2"⟩ :=
    (congrArg Register.value (updates.told .resource rfl)).trans (by decide +kernel)
  refine ⟨next, taken ▸ found, ?_, status, resource⟩
  rw [← created, ← started, ← completed]

end Session

end LiveJobs
