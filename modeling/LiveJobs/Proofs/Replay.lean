import LiveJobs.Proofs.DeliveryOrder

/-!
# Replays

After a reconnect a channel may repeat the last of what it has said, and the repeated reports count
under new sequences. They really are laid over the jobs again, so that counts and resources go back
to older values on the way; but they end where they were.

What carries this is `Settling`: reports that are all taken do one of three things to a field, and
doing it twice is doing it once. A job that has ended takes nothing, so where the end of a job has
cut the first pass there is no second one.
-/

namespace LiveJobs

/-! ## What patches do to a field that takes them -/

/-- The resource of the same category under another name; one without a category has no name. -/
def Resource.rename (name : ResourceId) (resource : Resource) : Resource :=
  .ofKind resource.kind name

namespace Patch

/-- What a field becomes by a patch that does not report it by itself. -/
def renamed (patch : Patch) : (field : Field) → field.Value → field.Value
  | .resource, before =>
      match patch.resourceName with
      | some name => Resource.rename name before
      | none => before
  | _, before => before

/-- What a field becomes by a patch that it takes. -/
def settle (patch : Patch) (field : Field) (before : field.Value) : field.Value :=
  match patch.reported? field with
  | some value => value
  | none => patch.renamed field before

/-- What a field becomes by patches that it takes one after the other. -/
def settleAll (patches : List Patch) (field : Field) (before : field.Value) : field.Value :=
  patches.foldl (fun value patch => patch.settle field value) before

theorem renamed_of_ne (patch : Patch) {field : Field} (other : field ≠ .resource)
    (before : field.Value) : patch.renamed field before = before := by
  cases field
  case resource => exact absurd rfl other
  all_goals rfl

/-- A patch that is taken puts what it reports for the job in the place of the value before. -/
theorem settle_eq (patch : Patch) (job : Job) (field : Field) :
    patch.settle field (job.value field) =
      (patch.valueFor? job field).getD (job.value field) := by
  rw [settle]
  cases reported : patch.reported? field with
  | some value => rw [valueFor?_of_reported? reported job, Option.getD_some]
  | none =>
      by_cases isResource : field = .resource
      · subst isResource
        rw [reported?] at reported
        rw [valueFor?, resourceFor?, reported]
        cases named : patch.resourceName with
        | none => simp [renamed, named]
        | some name =>
            simp only [renamed, named, Resource.rename, Job.value]
            cases job.resource <;> rfl
      · rw [valueFor?_eq_reported? (fun resource => absurd resource isResource), reported,
          patch.renamed_of_ne isResource, Option.getD_none]

end Patch

/-- What patches that a field takes make of its value: they leave it, they put another in its place,
or they put another name to a resource. -/
inductive Settling : (field : Field) → (field.Value → field.Value) → Prop where
  | keep {field : Field} : Settling field id
  | replace {field : Field} (value : field.Value) : Settling field fun _ => value
  | rename (name : ResourceId) : Settling .resource (Resource.rename name)

namespace Settling

variable {field : Field} {first second : field.Value → field.Value}

theorem comp (later : Settling field second) (earlier : Settling field first) :
    Settling field (second ∘ first) := by
  cases later with
  | keep => exact earlier
  | replace value => exact .replace value
  | rename name =>
      cases earlier with
      | keep => exact .rename name
      | replace value => exact @Settling.replace .resource (Resource.rename name value)
      | rename other =>
          have hidden : Resource.rename name ∘ Resource.rename other = Resource.rename name := by
            funext resource
            simp [Resource.rename]
          rw [hidden]
          exact .rename name

theorem idempotent (settling : Settling field first) (value : field.Value) :
    first (first value) = first value := by
  cases settling with
  | keep => rfl
  | replace => rfl
  | rename name => simp [Resource.rename]

theorem agree (settling : Settling field first) {left right : field.Value}
    (before : field.Agree left right) : field.Agree (first left) (first right) := by
  cases settling with
  | keep => exact before
  | replace value => exact field.agree_refl value
  | rename name =>
      rw [Field.agree_iff_eq rfl] at before ⊢
      rw [before]

end Settling

namespace Patch

theorem settling_settle (patch : Patch) (field : Field) : Settling field (patch.settle field) := by
  unfold settle
  cases patch.reported? field with
  | some value => exact .replace value
  | none =>
      cases field
      case resource =>
        simp only [renamed]
        cases patch.resourceName with
        | none => exact .keep
        | some name => exact .rename name
      all_goals exact .keep

theorem settling_settleAll (patches : List Patch) (field : Field) :
    Settling field (settleAll patches field) := by
  induction patches with
  | nil => exact .keep
  | cons patch rest ih => exact ih.comp (patch.settling_settle field)

theorem settleAll_append (first second : List Patch) (field : Field) (before : field.Value) :
    settleAll (first ++ second) field before =
      settleAll second field (settleAll first field before) :=
  List.foldl_append

/-- The last of some patches may be repeated. -/
theorem settleAll_of_suffix {log replay : List Patch} (suffix : replay <:+ log) (field : Field)
    (before : field.Value) :
    settleAll replay field (settleAll log field before) = settleAll log field before := by
  obtain ⟨earlier, rfl⟩ := suffix
  rw [settleAll_append]
  exact (settling_settleAll replay field).idempotent _

end Patch

/-! ## Runs that take everything -/

theorem Register.stamp_offer_le {field : Field} {register : Register field}
    {sequence bound : Sequence} (stamped : register.stamp ≤ bound) (offered : sequence ≤ bound)
    (value : Option field.Value) : (register.offer sequence value).stamp ≤ bound := by
  cases value with
  | none => exact stamped
  | some value =>
      by_cases accepted : register.stamp ≤ sequence
      · rw [offer_stamp accepted]
        exact offered
      · rw [offer_of_lt (Nat.lt_of_not_le accepted)]
        exact stamped

theorem Report.Lays.agree_settle {report : Report} {entry next : Entry} {field : Field}
    (lays : report.Lays entry next) (overlaid : field.isOverlaid = true)
    (accepted : entry.stamps.get field ≤ report.sequence) :
    field.Agree (next.job.value field) (report.patch.settle field (entry.job.value field)) := by
  have offered := congrArg Register.value (lays.overlaid field overlaid)
  rw [Patch.settle_eq, show next.job.value field = _ from offered]
  cases report.patch.valueFor? entry.job field with
  | none => exact field.agree_refl _
  | some value => exact Register.offer_agree accepted value

namespace EntryRun

variable {entry last : Entry} {reports : List Report} {field : Field}

theorem stamp_le (run : EntryRun entry reports last) (overlaid : field.isOverlaid = true)
    {bound : Sequence} (stamped : entry.stamps.get field ≤ bound)
    (below : ∀ report ∈ reports, report.sequence ≤ bound) : last.stamps.get field ≤ bound := by
  apply run.invariant fun state => state.stamps.get field ≤ bound
  · exact stamped
  · intro before after report member _ lays reached
    have offered := congrArg Register.stamp (lays.overlaid field overlaid)
    rw [show after.stamps.get field = _ from offered]
    exact Register.stamp_offer_le reached (below report member) _

theorem ends_eq_false (run : EntryRun entry reports last) (active : last.job.isTerminal = false) :
    ∀ report ∈ reports, report.ends = false := by
  induction run with
  | done => simp
  | locked ended => exact absurd (ended.symm.trans active) (by decide)
  | laid before lays run ih =>
      refine List.forall_mem_cons.2 ⟨?_, ih active⟩
      rw [← lays.isTerminal_eq before, Bool.eq_false_iff]
      intro ended
      rw [run.eq_of_terminal ended] at active
      exact absurd (ended.symm.trans active) (by decide)

theorem active (run : EntryRun entry reports last) (active : entry.job.isTerminal = false)
    (unended : ∀ report ∈ reports, report.ends = false) : last.job.isTerminal = false := by
  apply run.invariant fun state => state.job.isTerminal = false
  · exact active
  · intro before after report member still lays _
    rw [lays.isTerminal_eq still]
    exact unended report member

/-- Over a job that goes on, reports of which none is stale settle each overlaid field. -/
theorem agree_settleAll (run : EntryRun entry reports last)
    (active : last.job.isTerminal = false) (overlaid : field.isOverlaid = true)
    (ascending : reports.Pairwise fun earlier later => earlier.sequence ≤ later.sequence)
    (fresh : ∀ report ∈ reports, entry.stamps.get field ≤ report.sequence) :
    field.Agree (last.job.value field)
      (Patch.settleAll (reports.map Report.patch) field (entry.job.value field)) := by
  induction run with
  | done => exact field.agree_refl _
  | locked ended => exact absurd (ended.symm.trans active) (by decide)
  | @laid entry next last report rest before lays run ih =>
      rw [List.pairwise_cons] at ascending
      rw [List.forall_mem_cons] at fresh
      have stamped : next.stamps.get field ≤ report.sequence := by
        have offered := congrArg Register.stamp (lays.overlaid field overlaid)
        rw [show next.stamps.get field = _ from offered]
        exact Register.stamp_offer_le fresh.1 (Nat.le_refl _) _
      have later := ih active ascending.2 fun other member =>
        Nat.le_trans stamped (ascending.1 other member)
      exact later.trans
        ((Patch.settling_settleAll _ field).agree (lays.agree_settle overlaid fresh.1))

end EntryRun

/-! ## Repeated reports -/

/-- Reports that bring the last patches of a log once more, none of them under a sequence that is
staler than the log. -/
structure Replays (replay log : List Report) : Prop where
  suffix : replay.map Report.patch <:+ log.map Report.patch
  ascending : replay.Pairwise fun earlier later => earlier.sequence ≤ later.sequence
  late : ∀ report ∈ replay, ∀ earlier ∈ log, earlier.sequence ≤ report.sequence

namespace Replays

variable {log replay : List Report} {report : Report}

theorem original (replays : Replays replay log) (member : report ∈ replay) :
    ∃ original ∈ log, original.patch = report.patch := by
  have inLog := replays.suffix.subset (List.mem_map_of_mem member)
  simpa using inLog

theorem ends_eq_false (replays : Replays replay log)
    (unended : ∀ report ∈ log, report.ends = false) :
    ∀ report ∈ replay, report.ends = false := by
  intro report member
  obtain ⟨original, inLog, same⟩ := replays.original member
  rw [Report.ends, ← same]
  exact unended original inLog

theorem saysRunning (replays : Replays replay log)
    (said : replay.any Report.saysRunning = true) : log.any Report.saysRunning = true := by
  obtain ⟨report, member, running⟩ := List.any_eq_true.1 said
  obtain ⟨original, inLog, same⟩ := replays.original member
  refine List.any_eq_true.2 ⟨original, inLog, ?_⟩
  rw [Report.saysRunning, same]
  exact running

/-- Of the reports about one job the last are repeated too. -/
theorem filter (replays : Replays replay log) (id : JobId) :
    Replays (replay.filter fun report => report.patch.id = id)
      (log.filter fun report => report.patch.id = id) := by
  have named (reports : List Report) :
      (reports.filter fun report => report.patch.id = id).map Report.patch =
        (reports.map Report.patch).filter fun patch => patch.id = id := by
    rw [List.filter_map]
    rfl
  constructor
  case suffix =>
    rw [named, named]
    exact replays.suffix.filter _
  case ascending => exact replays.ascending.filter _
  case late =>
    intro report member earlier inLog
    exact replays.late report (List.mem_filter.1 member).1 earlier (List.mem_filter.1 inLog).1

end Replays

namespace EntryRun

variable {start middle last : Entry} {log replay : List Report}

theorem status_of_replay (run : EntryRun start log middle) (again : EntryRun middle replay last)
    (replays : Replays replay log) (active : middle.job.isTerminal = false) :
    last.job.status = middle.job.status := by
  have startActive : start.job.isTerminal = false := by
    rw [Bool.eq_false_iff]
    intro ended
    rw [run.eq_of_terminal ended] at active
    exact absurd (ended.symm.trans active) (by decide)
  have unended := run.ends_eq_false active
  rw [again.status_eq active (replays.ends_eq_false unended)]
  split
  next said =>
    rw [run.status_eq startActive unended, replays.saysRunning said]
    rfl
  next => rfl

theorem agree_overlaid_of_replay {field : Field} (run : EntryRun start log middle)
    (again : EntryRun middle replay last) (replays : Replays replay log)
    (active : middle.job.isTerminal = false) (overlaid : field.isOverlaid = true)
    (ascending : log.Pairwise fun earlier later => earlier.sequence ≤ later.sequence)
    (fresh : ∀ report ∈ log, start.stamps.get field ≤ report.sequence) :
    field.Agree (last.job.value field) (middle.job.value field) := by
  have againFresh : ∀ report ∈ replay, middle.stamps.get field ≤ report.sequence := by
    intro report member
    obtain ⟨original, inLog, -⟩ := replays.original member
    have late := replays.late report member
    exact run.stamp_le overlaid (Nat.le_trans (fresh original inLog) (late original inLog)) late
  have lastActive := again.active active (replays.ends_eq_false (run.ends_eq_false active))
  have first := run.agree_settleAll active overlaid ascending fresh
  have second := again.agree_settleAll lastActive overlaid replays.ascending againFresh
  have settled := (Patch.settling_settleAll (replay.map Report.patch) field).agree first
  rw [Patch.settleAll_of_suffix replays.suffix] at settled
  exact (second.trans settled).trans first.symm

/-- Reports about one job, and then the last of them once more. -/
theorem agree_of_replay (run : EntryRun start log middle) (again : EntryRun middle replay last)
    (replays : Replays replay log)
    (ascending : log.Pairwise fun earlier later => earlier.sequence ≤ later.sequence)
    (fresh : ∀ report ∈ log, ∀ field, start.stamps.get field ≤ report.sequence) :
    last.job.Agree middle.job := by
  cases ended : middle.job.isTerminal with
  | true =>
      rw [again.eq_of_terminal ended]
      exact middle.job.agree_refl
  | false =>
      obtain ⟨completed, error⟩ :=
        again.register_end (replays.ends_eq_false (run.ends_eq_false ended))
      refine ⟨again.id_eq, ?_⟩
      intro field
      cases overlaid : field.isOverlaid with
      | true =>
          exact run.agree_overlaid_of_replay again replays ended overlaid ascending
            fun report member => fresh report member field
      | false =>
          cases field
          case status => exact .inr (run.status_of_replay again replays ended)
          case completed => exact .inr (congrArg Register.value completed)
          case error => exact .inr (congrArg Register.value error)
          all_goals cases overlaid

end EntryRun

/-! ## All jobs -/

section Maps

variable {map : JobMap} {log replay : List Report}

theorem le_of_getLast? {final earlier : Report}
    (ascending : log.Pairwise fun earlier later => earlier.sequence ≤ later.sequence)
    (isLast : log.getLast? = some final) (inLog : earlier ∈ log) :
    earlier.sequence ≤ final.sequence := by
  obtain ⟨before, rfl⟩ := List.getLast?_eq_some_iff.1 isLast
  rw [List.pairwise_append] at ascending
  rcases List.mem_append.1 inLog with early | here
  · exact ascending.2.2 earlier early final (List.mem_singleton_self final)
  · exact Nat.le_of_eq (congrArg Report.sequence (List.mem_singleton.1 here))

/-- The last of the reports about one job, once more. -/
theorem entryAfterAll_agree_of_replay {existing : Option Entry} (replays : Replays replay log)
    (ascending : log.Pairwise fun earlier later => earlier.sequence ≤ later.sequence)
    (fresh : ∀ report ∈ log, ∀ entry, existing = some entry →
      ∀ field, entry.stamps.get field ≤ report.sequence) :
    Option.Rel Job.Agree
      ((Report.entryAfterAll replay (Report.entryAfterAll log existing)).map Entry.job)
      ((Report.entryAfterAll log existing).map Entry.job) := by
  cases replay with
  | nil =>
      cases Report.entryAfterAll log existing with
      | none => exact .none
      | some entry => exact .some entry.job.agree_refl
  | cons repeated others =>
      cases log with
      | nil =>
          obtain ⟨original, inLog, -⟩ := replays.original List.mem_cons_self
          cases inLog
      | cons first rest =>
          obtain ⟨middle, reached, run⟩ := first.run_entryAfterAll rest existing
          obtain ⟨last, againReached, again⟩ := repeated.run_entryAfterAll others (some middle)
          rw [reached, againReached]
          refine .some (run.agree_of_replay again replays ascending ?_)
          intro report member field
          cases existing with
          | none => exact Nat.le_trans (Nat.le_of_eq (first.stamp_seed field)) (Nat.zero_le _)
          | some entry => exact fresh report member entry rfl field

/-- Replays are absorbed. Where a log of reports has been merged of which none was staler than the
one before or than what was stored, its last reports may be merged once more, from any source and
under any sequences that do not fall and are not staler than the log: every record agrees with what
it was after the log. The log may end jobs and may name resources without their category. -/
theorem replay_absorbed
    (ascending : log.Pairwise fun earlier later => earlier.sequence ≤ later.sequence)
    (fresh : ∀ report ∈ log, ∀ entry, map.get? report.patch.id = some entry →
      ∀ field, entry.stamps.get field ≤ report.sequence)
    (suffix : replay.map Report.patch <:+ log.map Report.patch)
    (replayAscending : replay.Pairwise fun earlier later => earlier.sequence ≤ later.sequence)
    (late : ∀ final, log.getLast? = some final →
      ∀ report ∈ replay, final.sequence ≤ report.sequence) :
    ∀ id, Option.Rel Job.Agree ((map.mergeAll (log ++ replay)).1.job? id)
      ((map.mergeAll log).1.job? id) := by
  have replays : Replays replay log := by
    refine ⟨suffix, replayAscending, ?_⟩
    intro report member earlier inLog
    have isLast := List.getLast?_eq_some_getLast (List.ne_nil_of_mem inLog)
    exact Nat.le_trans (le_of_getLast? ascending isLast inLog) (late _ isLast report member)
  intro id
  rw [JobMap.job?, JobMap.job?, JobMap.mergeAll_append, JobMap.get?_mergeAll,
    JobMap.get?_mergeAll]
  apply entryAfterAll_agree_of_replay (replays.filter id) (ascending.filter _)
  intro report member entry found
  obtain ⟨inLog, named⟩ := List.mem_filter.1 member
  exact fresh report inLog entry (by rw [of_decide_eq_true named]; exact found)

/-- A job that is stored before the log begins. -/
def knownBefore : JobMap :=
  (JobMap.empty.mergeAll
    [⟨((Patch.empty ⟨"job-1"⟩ ⟨10, 0⟩).withCounters 1 4).withResource
      (.environment ⟨"env-1"⟩), .stream, 1⟩]).1

/-- A log that renames the resource of the job, ends another job, and gives the first job a resource
of another category. -/
def renamingLog : List Report :=
  [⟨{ (Patch.empty ⟨"job-1"⟩ ⟨20, 0⟩).withCounters 2 4 with resourceName := some ⟨"env-2"⟩ },
      .stream, 2⟩,
    ⟨(Patch.empty ⟨"job-2"⟩ ⟨30, 0⟩).withStatus .completed, .stream, 3⟩,
    ⟨((Patch.empty ⟨"job-1"⟩ ⟨40, 0⟩).withCounters 3 4).withResource
      (.promotion ⟨"promotion-1"⟩), .stream, 4⟩]

/-- The same reports under later sequences. -/
def renamingReplay : List Report :=
  renamingLog.map fun report => { report with sequence := report.sequence + 3 }

theorem renamingReplay_absorbed :
    (∀ id, Option.Rel Job.Agree ((knownBefore.mergeAll (renamingLog ++ renamingReplay)).1.job? id)
      ((knownBefore.mergeAll renamingLog).1.job? id)) ∧
    ((knownBefore.mergeAll renamingLog).1.job? ⟨"job-1"⟩).map
        (fun job => (job.progress.current, job.resource)) =
      some (some 3, .promotion ⟨"promotion-1"⟩) ∧
    ((knownBefore.mergeAll (renamingLog ++ renamingReplay.take 1)).1.job? ⟨"job-1"⟩).map
        (fun job => (job.progress.current, job.resource)) =
      some (some 2, .promotion ⟨"env-2"⟩) := by
  have fresh : ∀ report ∈ renamingLog, ∀ entry, knownBefore.get? report.patch.id = some entry →
      ∀ field, entry.stamps.get field ≤ report.sequence := by
    intro report member entry found field
    simp only [renamingLog, List.mem_cons, List.not_mem_nil, or_false] at member
    rcases member with rfl | rfl | rfl
    · cases found
      cases field <;> decide
    · cases found
    · cases found
      cases field <;> decide
  have suffix : renamingReplay.map Report.patch <:+ renamingLog.map Report.patch :=
    ⟨[], rfl⟩
  have late : ∀ final, renamingLog.getLast? = some final →
      ∀ report ∈ renamingReplay, final.sequence ≤ report.sequence := by
    intro final isLast
    cases isLast
    decide
  exact ⟨replay_absorbed (by decide) fresh suffix (by decide) late, by decide +kernel,
    by decide +kernel⟩

end Maps

end LiveJobs
