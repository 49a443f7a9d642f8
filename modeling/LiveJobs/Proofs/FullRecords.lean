import LiveJobs.Proofs.ExactOutcomes
import LiveJobs.Proofs.Replay

/-!
# Full records

A full record is a patch that reports all that the record has. Where nothing is known of the job,
what is stored is the record itself, as far as it makes sense: a time of completion belongs to a job
that has ended, and a failure to one that has failed. Where the job is known and goes on, the record
is laid over it, and what the record lacks stays.

That nothing is kept back as stale rests on the last sequence of an entry, which is above all of its
stamps.
-/

namespace LiveJobs

open LiveJobs.Time

namespace Job

/-- The record with a time of completion exactly if the job has ended, and a failure only if it has
failed. A time of completion that is missing is the moment at which the record was seen. -/
def regular (job : Job) (observedAt : Instant) : Job :=
  { job with
    timestamps := { job.timestamps with
      completed :=
        if job.isTerminal then some (job.timestamps.completed.getD observedAt) else none }
    error := if job.status = .failed then job.error else none }

/-- The record with what it lacks filled in from an older one, and the further advanced of the two
statuses. -/
def filledFrom (job old : Job) : Job where
  id := job.id
  jobType := job.jobType
  status := if old.status.advancesTo job.status then job.status else old.status
  resource := job.resource
  progress :=
    ⟨job.progress.current.or old.progress.current, job.progress.total.or old.progress.total,
      job.progress.percentage.or old.progress.percentage,
      job.progress.message.or old.progress.message,
      job.progress.currentStep.or old.progress.currentStep⟩
  timestamps :=
    ⟨job.timestamps.created, job.timestamps.started.or old.timestamps.started,
      job.timestamps.completed.or old.timestamps.completed⟩
  error := job.error.or old.error
  result := job.result.or old.result

/-- A job of which nothing is known fills nothing in. -/
theorem filledFrom_fresh (job : Job) (id : JobId) (jobType : JobType) (resource : Resource)
    (created : Instant) : job.filledFrom (.fresh id jobType resource created) = job := by
  have named : (job.filledFrom (.fresh id jobType resource created)).id = job.id := rfl
  apply Job.ext_value named
  intro field
  cases field
  case jobType | resource | created => rfl
  case status =>
    simp only [value, filledFrom, fresh]
    cases job.status <;> rfl
  all_goals exact Option.or_none

/-- A record makes sense if there is nothing to put right in it. -/
theorem coherent_iff_regular (job : Job) (observedAt : Instant) :
    job.Coherent ↔ job.regular observedAt = job := by
  constructor
  · intro coherent
    have named : (job.regular observedAt).id = job.id := rfl
    apply Job.ext_value named
    intro field
    cases field
    case completed =>
      simp only [value, regular]
      split
      next ended =>
        obtain ⟨moment, found⟩ := Option.isSome_iff_exists.1 (coherent.completed_iff.2 ended)
        rw [found, Option.getD_some]
      next ongoing =>
        have missing := mt coherent.completed_iff.1 ongoing
        exact (Option.not_isSome_iff_eq_none.1 missing).symm
    case error =>
      simp only [value, regular]
      split
      next => rfl
      next unfailed =>
        have missing := mt coherent.failed_of_error unfailed
        exact (Option.not_isSome_iff_eq_none.1 missing).symm
    all_goals rfl
  · intro same
    have completed : (job.regular observedAt).timestamps.completed = job.timestamps.completed := by
      rw [same]
    have error : (job.regular observedAt).error = job.error := by rw [same]
    constructor
    case completed_iff =>
      rw [← completed, regular]
      cases job.isTerminal <;> simp
    case failed_of_error =>
      rw [← error, regular]
      intro failed
      refine Classical.byContradiction fun unfailed => ?_
      simp [unfailed] at failed

end Job

/-! ## Sound entries -/

/-- What always holds of a stored entry: no field has been written under a sequence above the last
one, and nothing has written the end of a job that goes on. -/
structure Entry.Sound (entry : Entry) : Prop where
  stamps : ∀ field, entry.stamps.get field ≤ entry.lastSequence
  ongoing : entry.job.isTerminal = false → entry.Ongoing

section Registers

variable {sequence bound : Sequence}

theorem Register.stamp_advance_le {register : Register .status} (stamped : register.stamp ≤ bound)
    (reached : sequence ≤ bound) (status : Option Status) :
    (register.advance sequence status).stamp ≤ bound := by
  cases status with
  | none => exact stamped
  | some next =>
      rw [advance]
      split
      · exact Nat.max_le.2 ⟨stamped, reached⟩
      · exact stamped

theorem Register.stamp_complete_le {register : Register .completed}
    (stamped : register.stamp ≤ bound) (reached : sequence ≤ bound) (observedAt : Instant) :
    (register.complete sequence observedAt).stamp ≤ bound := by
  rw [complete]
  split
  · exact Nat.max_le.2 ⟨stamped, reached⟩
  · exact stamped

end Registers

namespace Report

variable {report : Report} {existing : Option Entry} {entry next : Entry}

theorem Lays.stamp_le (lays : report.Lays entry next) {bound : Sequence} {field : Field}
    (stamped : entry.stamps.get field ≤ bound) (reached : report.sequence ≤ bound) :
    next.stamps.get field ≤ bound := by
  change (next.register field).stamp ≤ bound
  cases overlaid : field.isOverlaid with
  | true =>
      rw [lays.overlaid field overlaid]
      exact Register.stamp_offer_le stamped reached _
  | false =>
      cases field
      case status =>
        rw [lays.status]
        exact Register.stamp_advance_le stamped reached _
      case completed =>
        rw [lays.completed]
        split
        · exact Register.stamp_complete_le (Register.stamp_offer_le stamped reached _) reached _
        · exact stamped
      case error =>
        rw [lays.error]
        split
        · exact Register.stamp_offer_le stamped reached _
        · exact stamped
      all_goals cases overlaid

/-- A field takes just what is reported, unless it takes that for the stored value. -/
theorem Lays.eq_settle (lays : report.Lays entry next) {field : Field}
    (overlaid : field.isOverlaid = true) (accepted : entry.stamps.get field ≤ report.sequence)
    (differs : ∀ value, report.patch.valueFor? entry.job field = some value →
      field.sameValue (entry.job.value field) value = false) :
    next.job.value field = report.patch.settle field (entry.job.value field) := by
  have written : next.job.value field = _ :=
    congrArg Register.value (lays.overlaid field overlaid)
  rw [written, Patch.settle_eq]
  cases reported : report.patch.valueFor? entry.job field with
  | none => rfl
  | some value =>
      have taken : (entry.register field).offer report.sequence (some value) =
          ⟨if field.sameValue (entry.job.value field) value then entry.job.value field else value,
            report.sequence⟩ := if_pos accepted
      rw [taken, differs value reported]
      rfl

theorem sound_seed (report : Report) : report.seed.Sound where
  stamps := fun field => Nat.le_trans (Nat.le_of_eq (report.stamp_seed field)) (Nat.zero_le _)
  ongoing := fun _ => report.ongoing_seed

theorem sound_base (report : Report)
    (sound : ∀ entry, existing = some entry → entry.Sound) : (report.base existing).Sound := by
  cases existing with
  | none => exact report.sound_seed
  | some entry => exact sound entry rfl

theorem sound_entryAfter (becomes : report.entryAfter existing = some next)
    (sound : ∀ entry, existing = some entry → entry.Sound) : next.Sound := by
  cases merged : (report.mergeInto existing).1 with
  | none =>
      rw [entryAfter, merged] at becomes
      exact sound next becomes
  | some replacement =>
      rw [entryAfter, merged] at becomes
      cases becomes
      obtain ⟨unended, lays, -, lastSequence⟩ := lays_of_replaced merged
      have before := report.sound_base sound
      have active := report.base_unended unended
      constructor
      case stamps =>
        intro field
        rw [lastSequence]
        exact lays.stamp_le (Nat.le_trans (before.stamps field) (Nat.le_max_left _ _))
          (Nat.le_max_right _ _)
      case ongoing =>
        intro goesOn
        apply lays.ongoing (before.ongoing active)
        rw [← lays.isTerminal_eq active, goesOn]

theorem sound_entryAfterAll {reports : List Report} {last : Entry}
    (sound : ∀ entry, existing = some entry → entry.Sound)
    (stored : entryAfterAll reports existing = some last) : last.Sound := by
  induction reports generalizing existing with
  | nil => exact sound last stored
  | cons report rest ih => exact ih (fun next becomes => sound_entryAfter becomes sound) stored

end Report

theorem sound_of_entryFrom {reports : List Report} {id : JobId} {entry : Entry}
    (stored : entryFrom reports id = some entry) : entry.Sound := by
  rw [entryFrom, JobMap.get?_mergeAll, JobMap.get?_empty] at stored
  refine Report.sound_entryAfterAll ?_ stored
  intro before found
  cases found

/-! ## Full records as reports -/

/-- The report of a full record. -/
def Job.report (job : Job) (observedAt : Instant) (origin : Origin) (sequence : Sequence) :
    Report :=
  ⟨.ofJob job observedAt, origin, sequence⟩

section FullRecords

variable {job : Job} {observedAt : Instant} {origin : Origin} {sequence : Sequence}
  {entry next : Entry}

theorem Patch.settle_ofJob (job old : Job) (observedAt : Instant) {field : Field}
    (overlaid : field.isOverlaid = true) :
    (Patch.ofJob job observedAt).settle field (old.value field) =
      ((job.regular observedAt).filledFrom old).value field := by
  have filled {α : Type} (reported kept : Option α) :
      (reported.map some).getD kept = reported.or kept := by
    cases reported with
    | none => exact (Option.none_or).symm
    | some value => rfl
  rw [Patch.settle_eq]
  cases field
  case jobType | resource | created => rfl
  case status | completed | error => cases overlaid
  all_goals exact filled _ _

namespace Report.Lays

/-- The end of a job that goes on is the one that a full record brings, if it brings one. -/
theorem end_of_fullRecord (lays : (job.report observedAt origin sequence).Lays entry next)
    (ongoing : entry.Ongoing) :
    next.job.timestamps.completed = (job.regular observedAt).timestamps.completed ∧
      next.job.error = (job.regular observedAt).error := by
  cases ended : job.isTerminal with
  | true =>
      have decided := lays.ended ongoing rfl ended
      exact ⟨decided.completed.trans (if_pos ended).symm, decided.error⟩
  | false =>
      have unfailed : job.status ≠ .failed := by
        intro failed
        rw [Job.isTerminal, failed] at ended
        cases ended
      obtain ⟨completed, error⟩ := lays.register_end ongoing.active ended
      have noCompletion := congrArg Register.value (completed.trans ongoing.completed)
      have noError := congrArg Register.value (error.trans ongoing.error)
      exact ⟨noCompletion.trans (if_neg (Bool.eq_false_iff.1 ended)).symm,
        noError.trans (if_neg unfailed).symm⟩

/-- A full record that comes in time is laid over a job that goes on, and what it lacks stays. -/
theorem agree_filledFrom (lays : (job.report observedAt origin sequence).Lays entry next)
    (ongoing : entry.Ongoing) (named : entry.job.id = job.id)
    (accepted : ∀ field, entry.stamps.get field ≤ sequence) :
    next.job.Agree ((job.regular observedAt).filledFrom entry.job) := by
  obtain ⟨completed, error⟩ := lays.end_of_fullRecord ongoing
  have noCompletion : entry.job.timestamps.completed = none :=
    congrArg Register.value ongoing.completed
  have noError : entry.job.error = none := congrArg Register.value ongoing.error
  refine ⟨lays.id.trans named, fun field => ?_⟩
  cases overlaid : field.isOverlaid with
  | true =>
      rw [← Patch.settle_ofJob job entry.job observedAt overlaid]
      exact lays.agree_settle overlaid (accepted field)
  | false =>
      cases field
      case status => exact .inr (lays.status_of_some rfl)
      case completed =>
        rw [Job.value, Job.value, Job.filledFrom, noCompletion, Option.or_none]
        exact .inr completed
      case error =>
        rw [Job.value, Job.value, Job.filledFrom, noError, Option.or_none]
        exact .inr error
      all_goals cases overlaid

/-- Where nothing is known of a job, a full record is stored as it is, put right. -/
theorem eq_regular
    (lays : (job.report observedAt origin sequence).Lays
      (job.report observedAt origin sequence).seed next) :
    next.job = job.regular observedAt := by
  have sound := (job.report observedAt origin sequence).sound_seed
  have ongoing := sound.ongoing rfl
  obtain ⟨completed, error⟩ := lays.end_of_fullRecord ongoing
  have unknown : (job.regular observedAt).filledFrom
      (job.report observedAt origin sequence).seed.job = job.regular observedAt :=
    Job.filledFrom_fresh ..
  have agree := (lays.agree_filledFrom ongoing rfl sound.stamps).2
  rw [unknown] at agree
  have named : next.job.id = (job.regular observedAt).id := lays.id
  apply Job.ext_value named
  intro field
  cases field
  case completed => exact completed
  case error => exact error
  case percentage | result =>
    -- The comparison does not tell all values of these fields apart, but each from a missing one.
    refine (lays.eq_settle rfl (sound.stamps _) ?_).trans
      ((Patch.settle_ofJob job _ observedAt rfl).trans (by rw [unknown]))
    intro value reported
    obtain ⟨present, -, rfl⟩ := Option.map_eq_some_iff.1 reported
    rfl
  all_goals exact (Field.agree_iff_eq rfl).1 (agree _)

end Report.Lays

/-- Full records convert without loss. Where nothing is known of a job, its record is stored put
right, and that is the very record exactly if it makes sense. Where reports have made an entry of
the job that goes on and has no later sequence, the result agrees with the record, put right, in all
that the record has, keeps what it lacks, and has the further advanced of the two statuses. -/
theorem fullRecord_kept (job : Job) (observedAt : Instant) (origin : Origin)
    (sequence : Sequence) :
    let report : Report := ⟨.ofJob job observedAt, origin, sequence⟩
    (∃ next, report.entryAfter none = some next ∧ next.job = job.regular observedAt ∧
      (next.job = job ↔
        (job.timestamps.completed.isSome = true ↔ job.isTerminal = true) ∧
          (job.error.isSome = true → job.status = .failed))) ∧
    (∀ reports entry, entryFrom reports job.id = some entry → entry.job.isTerminal = false →
      entry.lastSequence ≤ sequence →
      ∃ next, entryFrom (reports ++ [report]) job.id = some next ∧
        next.job.Agree ((job.regular observedAt).filledFrom entry.job)) := by
  intro report
  constructor
  case left =>
    obtain ⟨next, becomes, lays⟩ := report.entryAfter_of_unended unended_none
    have kept : next.job = job.regular observedAt := Report.Lays.eq_regular lays
    refine ⟨next, becomes, kept, ?_⟩
    rw [kept, ← job.coherent_iff_regular]
    exact ⟨fun coherent => ⟨coherent.completed_iff, coherent.failed_of_error⟩,
      fun sense => ⟨sense.1, sense.2⟩⟩
  case right =>
    intro reports entry stored active late
    have sound := sound_of_entryFrom stored
    obtain ⟨next, becomes, lays⟩ :=
      report.entryAfter_of_unended ((unended_some entry).2 active)
    refine ⟨next, ?_, ?_⟩
    · have merged := (JobMap.empty.mergeAll reports).1.get?_merge report job.id
      have named : report.patch.id = job.id := rfl
      rw [if_pos named, show (JobMap.empty.mergeAll reports).1.get? job.id = some entry from stored,
        becomes] at merged
      rw [entryFrom_append]
      exact merged
    · exact Report.Lays.agree_filledFrom lays (sound.ongoing active) (JobMap.id_of_get? stored)
        fun field => Nat.le_trans (sound.stamps field) late

/-- A job that runs, with a message. -/
def startedCopying : List Report :=
  [⟨((Patch.empty ⟨"job-1"⟩ ⟨10, 0⟩).withStatus .running).withMessage "copying", .stream, 3⟩]

/-- The record of its failure, without a message and without a time of completion. -/
def failedRecord : Job :=
  { Job.fresh ⟨"job-1"⟩ .remoteBackup (.environment ⟨"env-1"⟩) ⟨5, 0⟩ with
    status := .failed
    progress := ⟨some 2, some 4, some 50, none, none⟩
    error := some ⟨some "connection lost", none⟩ }

theorem failedRecord_kept :
    (entryFrom startedCopying ⟨"job-1"⟩).map Entry.lastSequence = some 3 ∧
      ∃ next, entryFrom (startedCopying ++ [⟨.ofJob failedRecord ⟨30, 0⟩, .bulkPoll, 3⟩])
          ⟨"job-1"⟩ = some next ∧
        next.job.status = .failed ∧ next.job.progress.message = some "copying" ∧
        next.job.timestamps.completed = some ⟨30, 0⟩ := by
  obtain ⟨next, found, agree⟩ := (fullRecord_kept failedRecord ⟨30, 0⟩ .bulkPoll 3).2
    startedCopying _ rfl rfl (Nat.le_refl 3)
  exact ⟨rfl, next, found, (Field.agree_iff_eq rfl).1 (agree.2 .status),
    (Field.agree_iff_eq rfl).1 (agree.2 .message), (Field.agree_iff_eq rfl).1 (agree.2 .completed)⟩

end FullRecords

end LiveJobs
