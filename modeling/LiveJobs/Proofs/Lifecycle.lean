import LiveJobs.Proofs.Merging

/-!
# The lifecycle of a job

A status is taken in whatever order reports come, so a job ends with the first report that says so.
The time of completion and the failure are decided by that one report: until then nothing has
written them, and afterwards nothing can. The invariant that carries this is `Entry.Ongoing`.
-/

namespace LiveJobs

/-- Whether the report says that the job has ended. -/
def Report.ends (report : Report) : Bool := report.patch.status.any Status.isTerminal

/-- Whether the report says that the job is running. -/
def Report.saysRunning (report : Report) : Bool := report.patch.status = some .running

/-- The reports up to the first that ends the job. -/
def liveReports : List Report → List Report
  | [] => []
  | report :: rest => if report.ends then [report] else report :: liveReports rest

/-- The entry of a job once reports are merged, in their order, into a map without jobs. -/
def entryFrom (reports : List Report) (id : JobId) : Option Entry :=
  (JobMap.empty.mergeAll reports).1.get? id

/-- What the record of a job always satisfies: it has a time of completion exactly if it has ended,
and a failure only if it has failed. -/
structure Job.Coherent (job : Job) : Prop where
  completed_iff : job.timestamps.completed.isSome = true ↔ job.isTerminal = true
  failed_of_error : job.error.isSome = true → job.status = .failed

/-- The state of an entry that no report has ended: nothing has written its end. -/
structure Entry.Ongoing (entry : Entry) : Prop where
  active : entry.job.isTerminal = false
  completed : entry.register .completed = ⟨none, 0⟩
  error : entry.register .error = ⟨none, 0⟩

/-- The end of a job as a report brings it, whatever the report's sequence. -/
structure Report.Ended (report : Report) (final : Status) (job : Job) : Prop where
  status : job.status = final
  completed : job.timestamps.completed =
    some (report.patch.completed.getD report.patch.observedAt)
  error : job.error = if final = .failed then report.patch.error else none

namespace Status

variable {status next : Status}

theorem advancesTo_of_terminal (active : status.isTerminal = false)
    (ended : next.isTerminal = true) : status.advancesTo next = true := by
  revert active ended
  cases status <;> cases next <;> decide

/-- Before its end a job can only start to run. -/
theorem advanced_of_active (active : status.isTerminal = false)
    (ongoing : next.isTerminal = false) :
    (if status.advancesTo next then next else status) =
      if next = .running then .running else status := by
  revert active ongoing
  cases status <;> cases next <;> decide

end Status

theorem liveReports_of_forall {reports : List Report}
    (ongoing : ∀ report ∈ reports, report.ends = false) : liveReports reports = reports := by
  induction reports with
  | nil => rfl
  | cons report rest ih =>
      rw [List.forall_mem_cons] at ongoing
      rw [liveReports, ongoing.1, ih ongoing.2]
      rfl

/-- Either no report ends the job, or one is the first to do so. -/
theorem exists_first_end (reports : List Report) :
    (∀ report ∈ reports, report.ends = false) ∨
      ∃ before ending after, reports = before ++ ending :: after ∧
        (∀ report ∈ before, report.ends = false) ∧ ending.ends = true := by
  induction reports with
  | nil => exact .inl (by simp)
  | cons report rest ih =>
      cases ends : report.ends with
      | true => exact .inr ⟨[], report, rest, rfl, by simp, ends⟩
      | false =>
          rcases ih with ongoing | ⟨before, ending, after, rfl, ongoing, ended⟩
          · exact .inl (List.forall_mem_cons.2 ⟨ends, ongoing⟩)
          · exact .inr ⟨report :: before, ending, after, rfl,
              List.forall_mem_cons.2 ⟨ends, ongoing⟩, ended⟩

/-! ## One report -/

namespace Report

variable {report : Report} {entry next : Entry} {status : Status}

namespace Lays

theorem status_of_none (lays : report.Lays entry next) (silent : report.patch.status = none) :
    next.job.status = entry.job.status := by
  have taken := congrArg Register.value lays.status
  rw [silent] at taken
  exact taken

theorem status_of_some (lays : report.Lays entry next)
    (reported : report.patch.status = some status) :
    next.job.status =
      if entry.job.status.advancesTo status then status else entry.job.status := by
  have taken := congrArg Register.value lays.status
  rw [reported, Register.advance, apply_ite Register.value] at taken
  exact taken

/-- A report leaves the status as it is or takes it a step forward. -/
theorem status_eq_or_rank_lt (lays : report.Lays entry next) :
    next.job.status = entry.job.status ∨ entry.job.status.rank < next.job.status.rank := by
  cases reported : report.patch.status with
  | none => exact .inl (lays.status_of_none reported)
  | some status =>
      rw [lays.status_of_some reported]
      split
      next forward =>
        rw [Status.advancesTo, decide_eq_true_eq] at forward
        exact .inr forward
      next => exact .inl rfl

theorem status_of_terminal (lays : report.Lays entry next)
    (active : entry.job.isTerminal = false) (reported : report.patch.status = some status)
    (ended : status.isTerminal = true) : next.job.status = status := by
  rw [lays.status_of_some reported]
  exact if_pos (Status.advancesTo_of_terminal active ended)

/-- Without a reported end a job is running if it was or if the report says so. -/
theorem status_of_not_ends (lays : report.Lays entry next)
    (active : entry.job.isTerminal = false) (ongoing : report.ends = false) :
    next.job.status = if report.saysRunning then .running else entry.job.status := by
  cases reported : report.patch.status with
  | none =>
      rw [lays.status_of_none reported, saysRunning, reported]
      rfl
  | some status =>
      rw [ends, reported] at ongoing
      rw [lays.status_of_some reported, Status.advanced_of_active active ongoing, saysRunning,
        reported]
      simp

/-- A job ends with the report that says so. -/
theorem isTerminal_eq (lays : report.Lays entry next) (active : entry.job.isTerminal = false) :
    next.job.isTerminal = report.ends := by
  cases ends : report.ends with
  | true =>
      obtain ⟨status, reported, ended⟩ := (Option.any_eq_true _ _).1 ends
      rw [Job.isTerminal, lays.status_of_terminal active reported ended, ended]
  | false =>
      rw [Job.isTerminal, lays.status_of_not_ends active ends]
      split
      · rfl
      · exact active

/-- A report that does not end the job writes neither its completion nor its failure. -/
theorem register_end (lays : report.Lays entry next) (active : entry.job.isTerminal = false)
    (unended : report.ends = false) :
    next.register .completed = entry.register .completed ∧
      next.register .error = entry.register .error := by
  have still : next.job.isTerminal = false := by rw [lays.isTerminal_eq active, unended]
  have notFailed : next.job.status ≠ .failed := by
    intro failed
    rw [Job.isTerminal, failed] at still
    cases still
  constructor
  · rw [lays.completed, if_neg (by rw [still]; decide)]
  · rw [lays.error, if_neg notFailed]

theorem ongoing (lays : report.Lays entry next) (before : entry.Ongoing)
    (unended : report.ends = false) : next.Ongoing := by
  obtain ⟨completed, error⟩ := lays.register_end before.active unended
  constructor
  case active => rw [lays.isTerminal_eq before.active, unended]
  case completed => exact completed.trans before.completed
  case error => exact error.trans before.error

/-- The first report that ends a job decides its end. That nothing has written the end before makes
every sequence good enough. -/
theorem ended (lays : report.Lays entry next) (before : entry.Ongoing)
    (reported : report.patch.status = some status) (final : status.isTerminal = true) :
    report.Ended status next.job := by
  have becomes : next.job.status = status :=
    lays.status_of_terminal before.active reported final
  have terminal : next.job.isTerminal = true := by rw [Job.isTerminal, becomes, final]
  constructor
  case status => exact becomes
  case completed =>
    have written := congrArg Register.value lays.completed
    rw [if_pos terminal, before.completed] at written
    refine written.trans ?_
    cases report.patch.completed <;> rfl
  case error =>
    have written := congrArg Register.value lays.error
    rw [becomes, before.error] at written
    refine written.trans ?_
    split
    · cases report.patch.error <;> rfl
    · rfl

end Lays

end Report

/-! ## Runs -/

theorem Report.ongoing_seed (report : Report) : report.seed.Ongoing := by
  constructor
  case active => rfl
  case completed => simp [Entry.register, seed, Job.fresh, Job.value]
  case error => simp [Entry.register, seed, Job.fresh, Job.value]

theorem Entry.Ongoing.coherent {entry : Entry} (ongoing : entry.Ongoing) :
    entry.job.Coherent := by
  have completed : entry.job.timestamps.completed = none :=
    congrArg Register.value ongoing.completed
  have error : entry.job.error = none := congrArg Register.value ongoing.error
  constructor
  case completed_iff => simp [completed, ongoing.active]
  case failed_of_error => simp [error]

theorem Report.Ended.coherent {report : Report} {final : Status} {job : Job}
    (ended : report.Ended final job) (terminal : final.isTerminal = true) : job.Coherent := by
  constructor
  case completed_iff => simp [ended.completed, Job.isTerminal, ended.status, terminal]
  case failed_of_error =>
    intro present
    rw [ended.error] at present
    rw [ended.status]
    split at present
    next failed => exact failed
    next => cases present

namespace EntryRun

variable {entry last : Entry} {reports : List Report}

theorem ongoing (run : EntryRun entry reports last) (before : entry.Ongoing)
    (unended : ∀ report ∈ reports, report.ends = false) : last.Ongoing := by
  apply run.invariant Entry.Ongoing before
  intro earlier later report member _ lays ongoing
  exact lays.ongoing ongoing (unended report member)

theorem register_end (run : EntryRun entry reports last)
    (unended : ∀ report ∈ reports, report.ends = false) :
    last.register .completed = entry.register .completed ∧
      last.register .error = entry.register .error := by
  apply run.invariant fun state =>
    state.register .completed = entry.register .completed ∧
      state.register .error = entry.register .error
  · exact ⟨rfl, rfl⟩
  · intro before after report member active lays same
    obtain ⟨completed, error⟩ := lays.register_end active (unended report member)
    exact ⟨completed.trans same.1, error.trans same.2⟩

theorem status_eq_or_rank_lt (run : EntryRun entry reports last) :
    last.job.status = entry.job.status ∨ entry.job.status.rank < last.job.status.rank := by
  apply run.invariant fun state =>
    state.job.status = entry.job.status ∨ entry.job.status.rank < state.job.status.rank
  · exact .inl rfl
  · intro before after report _ _ lays reached
    rcases lays.status_eq_or_rank_lt with same | forward
    · rw [same]
      exact reached
    · rcases reached with unmoved | moved
      · exact .inr (unmoved ▸ forward)
      · exact .inr (Nat.lt_trans moved forward)

/-- No run takes a job back. -/
theorem rank_le (run : EntryRun entry reports last) :
    entry.job.status.rank ≤ last.job.status.rank := by
  rcases run.status_eq_or_rank_lt with same | forward
  · exact Nat.le_of_eq (congrArg Status.rank same.symm)
  · exact Nat.le_of_lt forward

/-- Before its end a job is running if it was or if some report said so. -/
theorem status_eq (run : EntryRun entry reports last) (active : entry.job.isTerminal = false)
    (unended : ∀ report ∈ reports, report.ends = false) :
    last.job.status =
      if reports.any Report.saysRunning then .running else entry.job.status := by
  induction run with
  | done => rfl
  | locked ended => exact absurd (ended.symm.trans active) (by decide)
  | @laid entry next last report rest _ lays run ih =>
      rw [List.forall_mem_cons] at unended
      have later : next.job.isTerminal = false := by
        rw [lays.isTerminal_eq active, unended.1]
      rw [ih later unended.2, lays.status_of_not_ends active unended.1, List.any_cons]
      cases report.saysRunning <;> cases rest.any Report.saysRunning <;> rfl

/-- The first report that ends the job decides its end, and nothing comes after it. -/
theorem eq_of_ended {ending : Report} {after : List Report} {final : Status}
    (run : EntryRun entry (ending :: after) last) (before : entry.Ongoing)
    (reported : ending.patch.status = some final) (terminal : final.isTerminal = true) :
    ending.Ended final last.job := by
  cases run with
  | locked ended => exact absurd (ended.symm.trans before.active) (by decide)
  | laid active lays run =>
      have ended := lays.ended before reported terminal
      rw [run.eq_of_terminal (by rw [Job.isTerminal, ended.status, terminal])]
      exact ended

end EntryRun

/-! ## The lifecycle -/

section Lifecycle

variable {id : JobId} {before after reports : List Report} {ending : Report} {final : Status}

/-- Before its end a job is running if some report said so and pending otherwise. -/
theorem entryFrom_of_ongoing (about : ∀ report ∈ reports, report.patch.id = id)
    (present : reports ≠ []) (unended : ∀ report ∈ reports, report.ends = false) :
    ∃ entry, entryFrom reports id = some entry ∧ entry.Ongoing ∧
      entry.job.status = if reports.any Report.saysRunning then .running else .pending := by
  obtain ⟨first, rest, rfl⟩ := List.exists_cons_of_ne_nil present
  obtain ⟨last, stored, run⟩ := JobMap.empty.run_mergeAll about
  exact ⟨last, stored, run.ongoing first.ongoing_seed unended, run.status_eq rfl unended⟩

/-- The first report that ends the job decides its end. -/
theorem entryFrom_of_ended (about : ∀ report ∈ before ++ ending :: after, report.patch.id = id)
    (unended : ∀ report ∈ before, report.ends = false)
    (reported : ending.patch.status = some final) (terminal : final.isTerminal = true) :
    ∃ entry, entryFrom (before ++ ending :: after) id = some entry ∧
      ending.Ended final entry.job := by
  cases before with
  | nil =>
      obtain ⟨last, stored, run⟩ := JobMap.empty.run_mergeAll about
      exact ⟨last, stored, run.eq_of_ended ending.ongoing_seed reported terminal⟩
  | cons first rest =>
      obtain ⟨last, stored, run⟩ := JobMap.empty.run_mergeAll about
      have joined : EntryRun first.seed ((first :: rest) ++ (ending :: after)) last := run
      obtain ⟨middle, early, late⟩ := joined.split
      have ongoing := early.ongoing first.ongoing_seed unended
      exact ⟨last, stored, late.eq_of_ended ongoing reported terminal⟩

theorem entryFrom_append (first second : List Report) (id : JobId) :
    entryFrom (first ++ second) id =
      ((JobMap.empty.mergeAll first).1.mergeAll second).1.get? id := by
  rw [entryFrom, JobMap.mergeAll_append]

/-- What is stored of a job makes sense at every point. -/
theorem coherent_of_entryFrom (about : ∀ report ∈ reports, report.patch.id = id) {entry : Entry}
    (stored : entryFrom reports id = some entry) : entry.job.Coherent := by
  rcases exists_first_end reports with unended | ⟨before, ending, after, rfl, unended, ends⟩
  · have present : reports ≠ [] := by
      rintro rfl
      cases stored
    obtain ⟨same, found, ongoing, -⟩ := entryFrom_of_ongoing about present unended
    cases stored.symm.trans found
    exact ongoing.coherent
  · obtain ⟨final, reported, terminal⟩ := (Option.any_eq_true _ _).1 ends
    obtain ⟨same, found, ended⟩ := entryFrom_of_ended about unended reported terminal
    cases stored.symm.trans found
    exact ended.coherent terminal

/-- Between two points of a run a job is not taken back. -/
theorem rank_le_of_entryFrom_append {earlier later : List Report} {past entry : Entry}
    (about : ∀ report ∈ earlier ++ later, report.patch.id = id)
    (before : entryFrom earlier id = some past)
    (stored : entryFrom (earlier ++ later) id = some entry) :
    past.job.status.rank ≤ entry.job.status.rank := by
  cases later with
  | nil =>
      rw [List.append_nil] at stored
      cases before.symm.trans stored
      exact Nat.le_refl _
  | cons report rest =>
      have aboutLater : ∀ each ∈ report :: rest, each.patch.id = id :=
        fun each member => about each (List.mem_append_right _ member)
      obtain ⟨last, found, run⟩ := JobMap.run_mergeAll (JobMap.empty.mergeAll earlier).1 aboutLater
      rw [entryFrom_append] at stored
      cases stored.symm.trans found
      rw [show (JobMap.empty.mergeAll earlier).1.get? id = some past from before] at run
      exact run.rank_le

/-- What comes after the end of a job is turned down and changes nothing. -/
theorem mergeAll_after_end {entry : Entry}
    (about : ∀ report ∈ after, report.patch.id = id)
    (stored : entryFrom before id = some entry) (terminal : entry.job.isTerminal = true) :
    JobMap.empty.mergeAll (before ++ after) =
      ((JobMap.empty.mergeAll before).1,
        (JobMap.empty.mergeAll before).2 ++
          List.replicate after.length (.rejected entry.job.status)) := by
  rw [JobMap.mergeAll_append, JobMap.mergeAll_of_terminal stored terminal about]

/-- The lifecycle of a job over any run of reports about it. Before its end it is running if some
report said so and pending otherwise, and has neither completion nor failure. The first report that
ends it decides its end, however stale the report is; every later one is turned down and leaves the
entry as it is. So at every point the record is coherent, and the rank of the status has not
fallen. -/
theorem lifecycle_of_reports (about : ∀ report ∈ reports, report.patch.id = id) :
    (reports ≠ [] → (∀ report ∈ reports, report.ends = false) →
      ∃ entry, entryFrom reports id = some entry ∧
        entry.job.status =
          (if ∃ report ∈ reports, report.patch.status = some .running then .running
            else .pending) ∧
        entry.job.timestamps.completed = none ∧ entry.job.error = none) ∧
    (∀ before ending after final, reports = before ++ ending :: after →
      (∀ report ∈ before, report.ends = false) →
      ending.patch.status = some final → final.isTerminal = true →
      ∃ entry, entryFrom (before ++ [ending]) id = some entry ∧
        entry.job.status = final ∧
        entry.job.timestamps.completed =
          some (ending.patch.completed.getD ending.patch.observedAt) ∧
        entry.job.error = (if final = .failed then ending.patch.error else none) ∧
        (JobMap.empty.mergeAll reports).2 =
          (JobMap.empty.mergeAll (before ++ [ending])).2 ++
            List.replicate after.length (.rejected final) ∧
        ∀ later, later <+: after → entryFrom (before ++ ending :: later) id = some entry) ∧
    (∀ point, point <+: reports → ∀ entry, entryFrom point id = some entry →
      (entry.job.timestamps.completed.isSome = true ↔ entry.job.isTerminal = true) ∧
      (entry.job.error.isSome = true → entry.job.status = .failed) ∧
      ∀ earlier, earlier <+: point → ∀ past, entryFrom earlier id = some past →
        past.job.status.rank ≤ entry.job.status.rank) := by
  refine ⟨?ongoing, ?ended, ?always⟩
  case ongoing =>
    intro present unended
    obtain ⟨entry, stored, ongoing, status⟩ := entryFrom_of_ongoing about present unended
    refine ⟨entry, stored, ?_, congrArg Register.value ongoing.completed,
      congrArg Register.value ongoing.error⟩
    simpa [Report.saysRunning] using status
  case ended =>
    rintro before ending after final rfl unended reported terminal
    have joined (later : List Report) :
        before ++ ending :: later = (before ++ [ending]) ++ later := by
      simp
    rw [joined] at about
    have aboutEnd : ∀ report ∈ before ++ [ending], report.patch.id = id :=
      fun report member => about report (List.mem_append_left _ member)
    have aboutAfter : ∀ report ∈ after, report.patch.id = id :=
      fun report member => about report (List.mem_append_right _ member)
    obtain ⟨entry, stored, ended⟩ := entryFrom_of_ended aboutEnd unended reported terminal
    have closed : entry.job.isTerminal = true := by rw [Job.isTerminal, ended.status, terminal]
    refine ⟨entry, stored, ended.status, ended.completed, ended.error, ?_, ?_⟩
    · rw [joined, mergeAll_after_end aboutAfter stored closed, ended.status]
    · intro later early
      have aboutLater : ∀ report ∈ later, report.patch.id = id :=
        fun report member => aboutAfter report (early.subset member)
      rw [joined, entryFrom, mergeAll_after_end aboutLater stored closed]
      exact stored
  case always =>
    intro point early entry stored
    have aboutPoint : ∀ report ∈ point, report.patch.id = id :=
      fun report member => about report (early.subset member)
    have coherent := coherent_of_entryFrom aboutPoint stored
    refine ⟨coherent.completed_iff, coherent.failed_of_error, ?_⟩
    rintro earlier ⟨later, rfl⟩ past before
    exact rank_le_of_entryFrom_append aboutPoint before stored

/-- A job that runs, fails by a report older than all that is known, and is said to run again. -/
def staleFailure : List Report :=
  [⟨(Patch.empty ⟨"job-1"⟩ ⟨10, 0⟩).withStatus .running, .stream, 8⟩,
    ⟨((Patch.empty ⟨"job-1"⟩ ⟨40, 0⟩).withStatus .failed).withError ⟨some "refused", none⟩,
      .bulkPoll, 3⟩,
    ⟨(Patch.empty ⟨"job-1"⟩ ⟨50, 0⟩).withStatus .running, .singlePoll, 9⟩]

theorem lifecycle_of_staleFailure :
    (∀ report ∈ staleFailure, report.patch.id = ⟨"job-1"⟩) ∧
      ∃ entry, entryFrom staleFailure ⟨"job-1"⟩ = some entry ∧ entry.job.status = .failed ∧
        entry.job.timestamps.completed = some ⟨40, 0⟩ ∧
        entry.job.error = some ⟨some "refused", none⟩ := by
  have about : ∀ report ∈ staleFailure, report.patch.id = ⟨"job-1"⟩ := by decide
  obtain ⟨-, ended, -⟩ := lifecycle_of_reports about
  obtain ⟨entry, -, status, completed, error, -, stays⟩ :=
    ended (staleFailure.take 1) _ (staleFailure.drop 2) .failed rfl (by decide) rfl rfl
  exact ⟨about, entry, stays _ List.prefix_rfl, status, completed, error⟩

end Lifecycle

end LiveJobs
