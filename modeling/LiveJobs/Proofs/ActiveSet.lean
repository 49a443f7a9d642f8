import LiveJobs.Proofs.ByteOrder
import LiveJobs.Proofs.Operations

/-!
# The active set

The active set shows the jobs that have not ended, and those that have ended only a while ago. It is
read off a map that has no order, and is sorted by the time of creation and then by name, so that it
does not depend on the order in which the map gives its jobs.

A job that has ended never changes any more, so one that has left the set could only come back by
the clock. That the time since its completion never gets shorter rests on the arithmetic of moments.
A leap second in which the clock is read is counted while it lasts; one in which the job was
completed is counted until the next midnight. When that is over, the time since the completion goes
back, by a second at the most.

The retention is a number of whole milliseconds. The time since a completion is not rounded, so a
job leaves the set exactly when that number of milliseconds is over.
-/

namespace LiveJobs.Time.Instant

variable {left middle right now later completed : Instant}

theorem before_iff : left.before right = true ↔
    left.second < right.second ∨ left.second = right.second ∧ left.nano < right.nano := by
  simp [before]

theorem before_trans (first : left.before middle = true) (second : middle.before right = true) :
    left.before right = true := by
  rw [before_iff] at *
  omega

theorem eq_of_not_before (notAfter : right.before left = false)
    (notBefore : left.before right = false) : left = right := by
  rw [← Bool.not_eq_true, before_iff] at *
  obtain ⟨leftSecond, leftNano⟩ := left
  obtain ⟨rightSecond, rightNano⟩ := right
  simp only [mk.injEq]
  simp only at notAfter notBefore
  omega

/-- Whether one of three moments lies in a leap second. -/
def TouchesLeapSecond (completed now later : Instant) : Prop :=
  completed.inLeapSecond = true ∨ now.inLeapSecond = true ∨ later.inLeapSecond = true

theorem nanosSince_of_ordinary (ordinary : completed.inLeapSecond = false)
    (alsoNow : now.inLeapSecond = false) :
    now.nanosSince completed =
      (now.second - completed.second) * nanosPerSecond + ((now.nano : Int) - completed.nano) := by
  simp [nanosSince, leapCorrection, ordinary, alsoNow]

/-- Time goes on, unless a leap second is in play. -/
theorem nanosSince_mono (goesOn : later.before now = false)
    (ordinary : ¬ TouchesLeapSecond completed now later) :
    now.nanosSince completed ≤ later.nanosSince completed := by
  simp only [TouchesLeapSecond, not_or, Bool.not_eq_true] at ordinary
  obtain ⟨ofCompletion, ofNow, ofLater⟩ := ordinary
  rw [nanosSince_of_ordinary ofCompletion ofNow, nanosSince_of_ordinary ofCompletion ofLater]
  rw [← Bool.not_eq_true, before_iff] at goesOn
  have within : now.nano < nanosPerSecond := Nat.lt_of_not_le (of_decide_eq_false ofNow)
  simp only [nanosPerSecond] at within ⊢
  omega

end LiveJobs.Time.Instant

namespace LiveJobs

open LiveJobs.Text LiveJobs.Time

/-! ## The order of the list -/

/-- Whether a job stands before another in a list of jobs: it was created later, or at the same
moment and its name comes first, byte by byte. -/
def Job.StandsBefore (left right : Job) : Prop :=
  right.timestamps.created.before left.timestamps.created = true ∨
    left.timestamps.created = right.timestamps.created ∧ bytes left.id.text < bytes right.id.text

namespace Job.StandsBefore

variable {left middle right : Job}

theorem trans (first : left.StandsBefore middle) (second : middle.StandsBefore right) :
    left.StandsBefore right := by
  rcases first with later | ⟨same, names⟩
  · rcases second with alsoLater | ⟨alsoSame, -⟩
    · exact .inl (Instant.before_trans alsoLater later)
    · exact .inl (alsoSame ▸ later)
  · rcases second with later | ⟨alsoSame, others⟩
    · exact .inl (same ▸ later)
    · exact .inr ⟨same.trans alsoSame, List.lt_trans names others⟩

theorem irrefl (job : Job) : ¬ job.StandsBefore job := by
  rintro (later | ⟨-, names⟩)
  · simp at later
  · exact List.lt_irrefl _ names

theorem asymm (first : left.StandsBefore right) : ¬ right.StandsBefore left :=
  fun second => irrefl left (first.trans second)

end Job.StandsBefore

namespace Snapshot

variable {left middle right : Job}

/-- What the list is sorted by: a job stands before another, or nothing tells the two apart. -/
theorem listedBefore_iff : listedBefore left right = true ↔
    left.StandsBefore right ∨
      left.timestamps.created = right.timestamps.created ∧ left.id = right.id := by
  have names : left.id.text = right.id.text ↔ left.id = right.id := by
    cases left.id; cases right.id; simp
  simp only [listedBefore, Job.StandsBefore, bytes_lt_iff]
  split
  next later => simp [later]
  next notLater =>
    rw [Bool.not_eq_true] at notLater
    split
    next earlier =>
      have differ : left.timestamps.created ≠ right.timestamps.created := by
        intro same
        simp [same] at earlier
      simp [notLater, differ]
    next notEarlier =>
      rw [Bool.not_eq_true] at notEarlier
      have same := Instant.eq_of_not_before notLater notEarlier
      simp [same, le_iff_lt_or_eq, names]

theorem listedBefore_total (left right : Job) :
    (listedBefore left right || listedBefore right left) = true := by
  simp only [listedBefore]
  split
  next => rfl
  next notLater =>
    split
    next => simp
    next notEarlier => simpa [notLater, notEarlier] using le_total left.id.text right.id.text

theorem listedBefore_trans (left middle right : Job) (first : listedBefore left middle = true)
    (second : listedBefore middle right = true) : listedBefore left right = true := by
  rw [listedBefore_iff] at *
  rcases first with before | ⟨created, name⟩
  · rcases second with alsoBefore | ⟨created, name⟩
    · exact .inl (before.trans alsoBefore)
    · rw [Job.StandsBefore, created, name] at before
      exact .inl before
  · rw [Job.StandsBefore, created, name]
    exact second

end Snapshot

/-! ## Members -/

theorem JobMap.get?_of_mem {map : JobMap} {entry : Entry} (member : entry ∈ map.entries) :
    map.get? entry.id = some entry := by
  obtain ⟨before, after, split⟩ := List.append_of_mem member
  have distinct := map.distinct
  rw [split, List.map_append, List.map_cons, List.nodup_append] at distinct
  rw [get?, split, List.find?_append, List.find?_cons_of_pos (by simp), Option.or_eq_some_iff]
  refine .inr ⟨List.find?_eq_none.2 ?_, rfl⟩
  intro other earlier same
  exact distinct.2.2 _ (List.mem_map_of_mem earlier) _ List.mem_cons_self (of_decide_eq_true same)

namespace Snapshot

variable {snapshot : Snapshot} {now : Instant} {retention : Nat} {job : Job}

theorem mem_records_iff :
    job ∈ snapshot.jobs.entries.map Entry.job ↔ snapshot.job? job.id = some job := by
  rw [List.mem_map]
  constructor
  · rintro ⟨entry, member, rfl⟩
    exact congrArg (Option.map Entry.job) (JobMap.get?_of_mem member)
  · intro found
    obtain ⟨entry, stored, same⟩ := Option.map_eq_some_iff.1 found
    exact ⟨entry, List.mem_of_find?_eq_some stored, same⟩

theorem mem_activeJobs_iff : job ∈ snapshot.activeJobs now retention ↔
    snapshot.job? job.id = some job ∧ isShownActive now retention job = true := by
  rw [activeJobs, List.mem_mergeSort, List.mem_filter, mem_records_iff]

/-- A number of milliseconds is itself, as long as 64 bits with a sign can hold it. -/
theorem signedMillis_of_lt (fits : retention < 2 ^ 63) : signedMillis retention = retention := by
  rw [signedMillis, Int.bmod_def]
  simp only [Text.maxWord64]
  omega

theorem isShownActive_eq_true : isShownActive now retention job = true ↔
    job.isActive = true ∨ ∃ completed, job.timestamps.completed = some completed ∧
      now.nanosSince completed < signedMillis retention * nanosPerMilli := by
  rw [isShownActive, Bool.or_eq_true, Option.any_eq_true]
  simp only [decide_eq_true_eq]

theorem isShownActive_iff (fits : retention < 2 ^ 63) : isShownActive now retention job = true ↔
    job.status = .pending ∨ job.status = .running ∨
      ∃ completed, job.timestamps.completed = some completed ∧
        now.nanosSince completed < retention * nanosPerMilli := by
  have active : job.isActive = true ↔ job.status = .pending ∨ job.status = .running := by
    rw [Job.isActive]
    cases job.status <;> decide
  rw [isShownActive_eq_true, active, signedMillis_of_lt fits, or_assoc]

/-! ## The order -/

section Order

variable (snapshot : Snapshot) (now : Instant) (retention : Nat)

theorem activeJobs_perm : (snapshot.activeJobs now retention).Perm
    ((snapshot.jobs.entries.map Entry.job).filter (isShownActive now retention)) :=
  List.mergeSort_perm _ _

theorem nodup_activeJobs : ((snapshot.activeJobs now retention).map Job.id).Nodup := by
  rw [((snapshot.activeJobs_perm now retention).map Job.id).nodup_iff]
  have names : (snapshot.jobs.entries.map Entry.job).map Job.id =
      snapshot.jobs.entries.map Entry.id := List.map_map
  exact (names ▸ snapshot.jobs.distinct).sublist (List.filter_sublist.map Job.id)

/-- Each job stands before all that follow it, and nothing is left open: the names differ. -/
theorem pairwise_activeJobs : (snapshot.activeJobs now retention).Pairwise Job.StandsBefore := by
  have sorted := List.pairwise_mergeSort listedBefore_trans listedBefore_total
    ((snapshot.jobs.entries.map Entry.job).filter (isShownActive now retention))
  have distinct := List.pairwise_map.1 (snapshot.nodup_activeJobs now retention)
  apply (sorted.and distinct).imp
  rintro left right ⟨listed, differ⟩
  exact (listedBefore_iff.1 listed).resolve_right fun alike => differ alike.2

/-- The active set does not depend on the order in which the map holds its jobs. -/
theorem activeJobs_eq_of_perm {other : Snapshot}
    (same : other.jobs.entries.Perm snapshot.jobs.entries) :
    other.activeJobs now retention = snapshot.activeJobs now retention := by
  apply List.Perm.eq_of_pairwise _ (other.pairwise_activeJobs now retention)
    (snapshot.pairwise_activeJobs now retention)
  · exact (other.activeJobs_perm now retention).trans <|
      ((same.map Entry.job).filter _).trans (snapshot.activeJobs_perm now retention).symm
  · intro left right _ _ first second
    exact absurd second first.asymm

end Order

theorem activeJobs_subset {longer : Nat} (atLeast : retention ≤ longer) (fits : longer < 2 ^ 63) :
    snapshot.activeJobs now retention ⊆ snapshot.activeJobs now longer := by
  intro job member
  rw [mem_activeJobs_iff, isShownActive_iff (Nat.lt_of_le_of_lt atLeast fits)] at member
  rw [mem_activeJobs_iff, isShownActive_iff fits]
  obtain ⟨stored, shown⟩ := member
  refine ⟨stored, shown.imp_right (Or.imp_right ?_)⟩
  rintro ⟨completed, said, recent⟩
  refine ⟨completed, said, Int.lt_of_lt_of_le recent ?_⟩
  exact Int.mul_le_mul_of_nonneg_right (by exact_mod_cast atLeast) (Int.natCast_nonneg _)

/-! ## Leaving the set -/

/-- The names of the jobs in the active set. -/
def activeIds (snapshot : Snapshot) (now : Instant) (retention : Nat) : List JobId :=
  (snapshot.activeJobs now retention).map Job.id

variable {id : JobId} {later : Instant}

theorem mem_activeIds_iff : id ∈ snapshot.activeIds now retention ↔
    (snapshot.job? id).any (isShownActive now retention) = true := by
  rw [activeIds, List.mem_map, Option.any_eq_true]
  constructor
  · rintro ⟨job, member, rfl⟩
    exact ⟨job, mem_activeJobs_iff.1 member⟩
  · rintro ⟨job, stored, shown⟩
    obtain ⟨entry, found, rfl⟩ := Option.map_eq_some_iff.1 stored
    have named : entry.job.id = id := JobMap.id_of_get? found
    exact ⟨entry.job, mem_activeJobs_iff.2 ⟨named.symm ▸ stored, shown⟩, named⟩

theorem isTerminal_of_not_shown (missing : isShownActive now retention job ≠ true) :
    job.isTerminal = true := by
  rw [Ne, isShownActive_eq_true, not_or, Job.isActive, Status.isActive] at missing
  simpa [Job.isTerminal] using missing.1

/-- A job comes back only if the time since its completion has got shorter. -/
theorem exists_completed_of_returns (missing : isShownActive now retention job ≠ true)
    (shown : isShownActive later retention job = true) :
    ∃ completed, job.timestamps.completed = some completed ∧
      later.nanosSince completed < now.nanosSince completed := by
  rw [Ne, isShownActive_eq_true, not_or] at missing
  obtain ⟨completed, said, recent⟩ := (isShownActive_eq_true.1 shown).resolve_left missing.1
  have elapsed := fun early => missing.2 ⟨completed, said, early⟩
  exact ⟨completed, said, Int.lt_of_lt_of_le recent (Int.not_lt.1 elapsed)⟩

end Snapshot

namespace Store

/-- The active set of a store. It holds each stored job at most once, and just those that are
pending or running or were completed less than the retention ago. The later creation stands first,
and of jobs that were created at the same moment the one whose name comes first, byte by byte; so
nothing is left open, and the order in which the map holds its jobs makes no difference. A longer
retention keeps at least as many jobs.

A job that is stored and has left the set does not come back, whatever is done to the store and
however time goes on, unless the time since its completion gets shorter: that needs a leap second,
at the completion or at one of the two readings of the clock. -/
theorem active_set_shows_recent_jobs (store : Store) (now : Instant) {retention : Nat}
    (fits : retention < 2 ^ 63) :
    let active := store.snapshot.activeJobs now retention
    (active.map Job.id).Nodup ∧
    (∀ job, job ∈ active ↔ store.job? job.id = some job ∧
      (job.status = .pending ∨ job.status = .running ∨
        ∃ completed, job.timestamps.completed = some completed ∧
          now.nanosSince completed < retention * nanosPerMilli)) ∧
    active.Pairwise (fun left right =>
      right.timestamps.created.before left.timestamps.created = true ∨
        left.timestamps.created = right.timestamps.created ∧
          bytes left.id.text < bytes right.id.text) ∧
    (∀ other : Snapshot, other.jobs.entries.Perm store.snapshot.jobs.entries →
      other.activeJobs now retention = active) ∧
    (∀ longer, retention ≤ longer → longer < 2 ^ 63 →
      active ⊆ store.snapshot.activeJobs now longer) ∧
    (∀ id job operations later, store.job? id = some job →
      id ∉ store.snapshot.activeIds now retention → later.before now = false →
      (store.run operations).1.job? id = some job ∧
      (id ∉ (store.run operations).1.snapshot.activeIds later retention ∨
        ∃ completed, job.timestamps.completed = some completed ∧
          later.nanosSince completed < now.nanosSince completed ∧
          Instant.TouchesLeapSecond completed now later)) := by
  intro active
  refine ⟨store.snapshot.nodup_activeJobs now retention, ?_,
    store.snapshot.pairwise_activeJobs now retention,
    fun other same => store.snapshot.activeJobs_eq_of_perm now retention same,
    fun longer atLeast bounded => Snapshot.activeJobs_subset atLeast bounded, ?_⟩
  · intro job
    rw [Snapshot.mem_activeJobs_iff, Snapshot.isShownActive_iff fits]
    rfl
  · intro id job operations later stored left goesOn
    have missing : Snapshot.isShownActive now retention job ≠ true :=
      fun shown => left (Snapshot.mem_activeIds_iff.2 (by rwa [← Store.job?, stored]))
    have kept := store.job?_run_of_terminal operations stored
      (Snapshot.isTerminal_of_not_shown missing)
    refine ⟨kept, ?_⟩
    by_cases returns : id ∈ (store.run operations).1.snapshot.activeIds later retention
    · have shown : Snapshot.isShownActive later retention job = true := by
        rw [Snapshot.mem_activeIds_iff, ← Store.job?, kept] at returns
        exact returns
      obtain ⟨completed, said, shorter⟩ := Snapshot.exists_completed_of_returns missing shown
      refine .inr ⟨completed, said, shorter, ?_⟩
      by_contra ordinary
      exact absurd shorter (Int.not_lt.2 (Instant.nanosSince_mono goesOn ordinary))
    · exact .inl returns

/-- A job that has ended at some moment, as a stream tells of it. -/
def endedPatch (name : String) (completed : Instant) : Patch :=
  { Patch.empty ⟨name⟩ completed with status := some .completed, completed := some completed }

/-- Two jobs that have ended in the last minutes of a year, the first of them in a leap second. -/
def lateEnds : List Operation :=
  [.merge 1 (.one (endedPatch "job-1" ⟨1483228739, 1500000000⟩) .stream),
    .merge 2 (.one (endedPatch "job-2" ⟨1483228740, 500000000⟩) .stream)]

/-- After half a minute a job is still shown, and after a full one it is not. It stays away when
another source tells of it again. -/
theorem ended_job_stays_away :
    let store := ((initial 60000).run (lateEnds.drop 1)).1
    60000 < 2 ^ 63 ∧
    ⟨"job-2"⟩ ∈ store.snapshot.activeIds ⟨1483228770, 0⟩ 60000 ∧
    ⟨"job-2"⟩ ∉ store.snapshot.activeIds ⟨1483228801, 0⟩ 60000 ∧
    ⟨"job-2"⟩ ∉ (store.run lateEnds).1.snapshot.activeIds ⟨1483228805, 0⟩ 60000 := by
  intro store
  have fits : 60000 < 2 ^ 63 := by decide
  have left : ⟨"job-2"⟩ ∉ store.snapshot.activeIds ⟨1483228801, 0⟩ 60000 := by
    rw [Snapshot.mem_activeIds_iff]
    decide
  obtain ⟨-, -, -, -, -, stays⟩ := active_set_shows_recent_jobs store ⟨1483228801, 0⟩ fits
  refine ⟨fits, ?_, left, ?_⟩
  · rw [Snapshot.mem_activeIds_iff]
    decide
  · obtain ⟨-, away | ⟨completed, said, -, leap⟩⟩ :=
      stays ⟨"job-2"⟩ _ lateEnds ⟨1483228805, 0⟩ rfl left (by decide)
    · exact away
    · cases said
      exact absurd leap (by simp [Instant.TouchesLeapSecond, Instant.inLeapSecond, nanosPerSecond])

/-- The year ends with a leap second. Just before it the first job has left the active set, and in
the midst of it the second one as well. At midnight both are back, although the clock has only gone
on: the time that is counted since either completion has got shorter. -/
theorem jobs_return_after_leap_second :
    let store := ((initial 60000).run lateEnds).1
    let before : Instant := ⟨1483228799, 900000000⟩
    let leap : Instant := ⟨1483228799, 1900000000⟩
    let midnight : Instant := ⟨1483228800, 0⟩
    leap.before before = false ∧ midnight.before leap = false ∧
    (store.job? ⟨"job-1"⟩).isSome = true ∧ (store.job? ⟨"job-2"⟩).isSome = true ∧
    ⟨"job-1"⟩ ∉ store.snapshot.activeIds before 60000 ∧
    ⟨"job-2"⟩ ∉ store.snapshot.activeIds leap 60000 ∧
    ⟨"job-1"⟩ ∈ store.snapshot.activeIds midnight 60000 ∧
    ⟨"job-2"⟩ ∈ store.snapshot.activeIds midnight 60000 := by
  simp only [Snapshot.mem_activeIds_iff]
  decide

end Store

end LiveJobs
