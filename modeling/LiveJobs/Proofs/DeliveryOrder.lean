import LiveJobs.Proofs.Freshness

/-!
# Delivery order

As long as no job ends, the order in which reports are delivered shows only in the bookkeeping: in
the source and the highest sequence that an entry remembers, and in the stamp of its status. Single
merges do not commute, as the first report of a job starts its entry. What is invariant is the
freshest report of each field, and it is all that the field holds in the end.
-/

namespace LiveJobs

/-! ## What may differ -/

/-- Two registers with the same stamp whose values agree. -/
structure Register.Alike {field : Field} (left right : Register field) : Prop where
  value : field.Agree left.value right.value
  stamp : left.stamp = right.stamp

/-- Two entries with the same record and, but for the status, the same stamps. -/
structure Entry.Alike (left right : Entry) : Prop where
  job : left.job.Agree right.job
  stamps : ∀ field : Field, field ≠ .status → left.stamps.get field = right.stamps.get field

/-- Two maps with the same names, under which the entries are alike. -/
def JobMap.Alike (left right : JobMap) : Prop :=
  ∀ id, Option.Rel Entry.Alike (left.get? id) (right.get? id)

namespace Register.Alike

variable {field : Field} {left right : Register field}

theorem of_eq (same : left = right) : left.Alike right := by
  subst same
  exact ⟨field.agree_refl _, rfl⟩

end Register.Alike

theorem Entry.Alike.refl (entry : Entry) : entry.Alike entry :=
  ⟨entry.job.agree_refl, fun _ _ => rfl⟩

/-- Entries are alike if their statuses are the same and all other registers are alike. -/
theorem Entry.Alike.of_registers {left right : Entry} (names : left.job.id = right.job.id)
    (status : left.job.status = right.job.status)
    (registers : ∀ field, field ≠ .status → (left.register field).Alike (right.register field)) :
    left.Alike right := by
  constructor
  case job =>
    refine ⟨names, ?_⟩
    intro field
    by_cases isStatus : field = .status
    · subst isStatus
      exact .inr status
    · exact (registers field isStatus).value
  case stamps =>
    intro field notStatus
    exact (registers field notStatus).stamp

/-! ## One field -/

section Offers

variable {field : Field} {start other : Register field} {left right : List Report}

/-- Of reports with different sequences, at most one is the freshest. -/
theorem Freshest.unique {first second : Report} {value otherValue : field.Value}
    (same : ∀ report, report ∈ left ↔ report ∈ right)
    (distinct : ∀ first ∈ left, ∀ second ∈ left, first.sequence = second.sequence →
      first = second)
    (freshest : Freshest left field first value)
    (otherFreshest : Freshest right field second otherValue) :
    first = second ∧ value = otherValue := by
  have firstMentions : first.patch.reported? field ≠ none := by simp [freshest.1]
  have secondMentions : second.patch.reported? field ≠ none := by simp [otherFreshest.1]
  have below := otherFreshest.le ((same first).1 freshest.mem) firstMentions
  have above := freshest.le ((same second).2 otherFreshest.mem) secondMentions
  have one : first = second :=
    distinct first freshest.mem second ((same second).2 otherFreshest.mem)
      (Nat.le_antisymm below above)
  refine ⟨one, ?_⟩
  have both := freshest.1
  rw [one, otherFreshest.1] at both
  exact (Option.some.inj both).symm

/-- What a register holds after some reports does not depend on their order. Nor does it depend on
what it held before, if one of them was taken. -/
theorem Register.offers_alike (same : ∀ report, report ∈ left ↔ report ∈ right)
    (distinct : ∀ first ∈ left, ∀ second ∈ left, first.sequence = second.sequence →
      first = second)
    (stamps : start.stamp = other.stamp)
    (values : start = other ∨ ∃ report ∈ left, report.patch.reported? field ≠ none ∧
      start.stamp ≤ report.sequence) :
    (start.offers left).Alike (other.offers right) := by
  rcases start.offers_cases left with
    ⟨first, value, freshest, reaches, agree, stamp⟩ | ⟨stale, kept⟩
  · rcases other.offers_cases right with
      ⟨second, otherValue, otherFreshest, -, otherAgree, otherStamp⟩ | ⟨otherStale, -⟩
    · obtain ⟨rfl, rfl⟩ := freshest.unique same distinct otherFreshest
      exact ⟨agree.trans otherAgree.symm, stamp.trans otherStamp.symm⟩
    · have below := otherStale first ((same first).1 freshest.mem) (by simp [freshest.1])
      rw [← stamps] at below
      exact absurd below (Nat.not_lt_of_le reaches)
  · rcases other.offers_cases right with
      ⟨second, _, otherFreshest, reaches, _, _⟩ | ⟨-, otherKept⟩
    · have below := stale second ((same second).2 otherFreshest.mem) (by simp [otherFreshest.1])
      rw [stamps] at below
      exact absurd below (Nat.not_lt_of_le reaches)
    · rcases values with equal | ⟨report, member, mentions, reaches⟩
      · exact .of_eq (by rw [kept, otherKept, equal])
      · exact absurd (stale report member mentions) (Nat.not_lt_of_le reaches)

end Offers

/-! ## One job -/

/-- Two entries of a job from which the same reports lead to entries that are alike. The time of
creation may differ, if one of the reports sets it. -/
structure Entry.SameStart (reports : List Report) (start other : Entry) : Prop where
  active : start.job.isTerminal = false
  id : start.job.id = other.job.id
  stamps : start.stamps = other.stamps
  values : ∀ field, field ≠ .created → start.job.value field = other.job.value field
  created : start.job.value .created = other.job.value .created ∨
    ∃ report ∈ reports, report.patch.created ≠ none ∧
      start.stamps.get .created ≤ report.sequence

namespace Entry.SameStart

variable {reports : List Report} {start other : Entry}

theorem refl (active : start.job.isTerminal = false) : start.SameStart reports start :=
  ⟨active, rfl, rfl, fun _ _ => rfl, .inl rfl⟩

/-- The entries that two reports start differ in the time of creation only. -/
theorem seeds {first second : Report} (names : first.patch.id = second.patch.id)
    (created : ∃ report ∈ reports, report.patch.created ≠ none) :
    first.seed.SameStart reports second.seed := by
  constructor
  case active => rfl
  case id => exact names
  case stamps => rfl
  case values =>
    intro field notCreated
    cases field
    case created => exact absurd rfl notCreated
    all_goals rfl
  case created =>
    obtain ⟨report, member, mentions⟩ := created
    right
    refine ⟨report, member, mentions, ?_⟩
    rw [show first.seed.stamps.get .created = 0 from Stamps.get_zero _]
    exact Nat.zero_le _

theorem status (starts : start.SameStart reports other) : start.job.status = other.job.status :=
  starts.values .status (by decide)

theorem otherActive (starts : start.SameStart reports other) :
    other.job.isTerminal = false := by
  rw [Job.isTerminal, ← starts.status]
  exact starts.active

theorem register_eq (starts : start.SameStart reports other) {field : Field}
    (notCreated : field ≠ .created) : start.register field = other.register field := by
  rw [Entry.register, starts.values field notCreated, starts.stamps]
  rfl

/-- A register is the same in both, or some report is taken by it. -/
theorem register_eq_or (starts : start.SameStart reports other) (field : Field) :
    start.register field = other.register field ∨
      ∃ report ∈ reports, report.patch.reported? field ≠ none ∧
        (start.register field).stamp ≤ report.sequence := by
  by_cases isCreated : field = .created
  · subst isCreated
    rcases starts.created with same | reported
    · left
      rw [Entry.register, same, starts.stamps]
      rfl
    · exact .inr reported
  · exact .inl (starts.register_eq isCreated)

end Entry.SameStart

namespace EntryRun

variable {start other last otherLast : Entry} {left right : List Report}

theorem id_eq {reports : List Report} (run : EntryRun start reports last) :
    last.job.id = start.job.id := by
  apply run.invariant fun entry => entry.job.id = start.job.id
  · rfl
  · intro before after report _ _ lays same
    exact lays.id.trans same

theorem alike (run : EntryRun start left last) (otherRun : EntryRun other right otherLast)
    (perm : left.Perm right) (starts : start.SameStart left other)
    (unended : ∀ report ∈ left, report.ends = false)
    (explicit : ∀ report ∈ left, ¬report.patch.NamesOnly)
    (distinct : ∀ first ∈ left, ∀ second ∈ left, first.sequence = second.sequence →
      first = second) : last.Alike otherLast := by
  have same (report : Report) : report ∈ left ↔ report ∈ right := perm.mem_iff
  have otherUnended : ∀ report ∈ right, report.ends = false := by
    intro report member
    exact unended report ((same report).2 member)
  have otherExplicit : ∀ report ∈ right, ¬report.patch.NamesOnly := by
    intro report member
    exact explicit report ((same report).2 member)
  obtain ⟨completed, error⟩ := run.register_end unended
  obtain ⟨otherCompleted, otherError⟩ := otherRun.register_end otherUnended
  apply Entry.Alike.of_registers
  case names => rw [run.id_eq, otherRun.id_eq, starts.id]
  case status =>
    rw [run.status_eq starts.active unended,
      otherRun.status_eq starts.otherActive otherUnended, perm.any_eq, starts.status]
  case registers =>
    intro field notStatus
    cases overlaid : field.isOverlaid with
    | true =>
        rw [run.register_overlaid starts.active overlaid fun _ => explicit,
          otherRun.register_overlaid starts.otherActive overlaid fun _ => otherExplicit,
          liveReports_of_forall unended, liveReports_of_forall otherUnended]
        apply Register.offers_alike same distinct
        · exact congrArg (fun stamps => stamps.get field) starts.stamps
        · exact starts.register_eq_or field
    | false =>
        apply Register.Alike.of_eq
        cases field
        case status => exact absurd rfl notStatus
        case completed =>
          rw [completed, otherCompleted]
          exact starts.register_eq (by decide)
        case error =>
          rw [error, otherError]
          exact starts.register_eq (by decide)
        all_goals cases overlaid

end EntryRun

/-! ## All jobs -/

section Maps

variable {map : JobMap} {left right : List Report}

theorem eq_of_sequence_eq {reports : List Report} {first second : Report}
    (distinct : reports.Pairwise fun first second =>
      first.patch.id = second.patch.id → first.sequence ≠ second.sequence)
    (firstMember : first ∈ reports) (secondMember : second ∈ reports)
    (named : first.patch.id = second.patch.id) (sequences : first.sequence = second.sequence) :
    first = second := by
  have separate : reports.Pairwise fun first second =>
      first.patch.id = second.patch.id → first.sequence = second.sequence → first = second :=
    distinct.imp fun differ named sequences => absurd sequences (differ named)
  have flipped : reports.Pairwise (flip fun first second : Report =>
      first.patch.id = second.patch.id → first.sequence = second.sequence → first = second) :=
    separate.imp fun one named sequences => (one named.symm sequences.symm).symm
  exact separate.forall_of_forall_of_flip (fun _ _ _ _ => rfl) flipped firstMember secondMember
    named sequences

/-- Reports about one job. -/
theorem entryAfterAll_alike {existing : Option Entry} (perm : left.Perm right)
    (unended : left ≠ [] → Unended existing)
    (ongoing : ∀ report ∈ left, report.ends = false)
    (explicit : ∀ report ∈ left, ¬report.patch.NamesOnly)
    (names : ∀ first ∈ left, ∀ second ∈ left, first.patch.id = second.patch.id)
    (distinct : ∀ first ∈ left, ∀ second ∈ left, first.sequence = second.sequence →
      first = second)
    (created : left ≠ [] → existing = none → ∃ report ∈ left, report.patch.created ≠ none) :
    Option.Rel Entry.Alike (Report.entryAfterAll left existing)
      (Report.entryAfterAll right existing) := by
  cases left with
  | nil =>
      cases perm.nil_eq
      cases existing with
      | none => exact .none
      | some entry => exact .some (.refl entry)
  | cons first rest =>
      cases right with
      | nil => cases perm.eq_nil
      | cons second others =>
          have active := unended (List.cons_ne_nil first rest)
          have named : first.patch.id = second.patch.id :=
            names first List.mem_cons_self second (perm.mem_iff.2 List.mem_cons_self)
          obtain ⟨last, reached, run⟩ := first.run_entryAfterAll rest existing
          obtain ⟨otherLast, otherReached, otherRun⟩ := second.run_entryAfterAll others existing
          rw [reached, otherReached]
          refine .some (run.alike otherRun perm ?_ ongoing explicit distinct)
          cases existing with
          | none => exact .seeds named (created (List.cons_ne_nil first rest) rfl)
          | some entry => exact .refl (active entry rfl)

/-- Delivery order does not matter while jobs run. Reports that end no job, that name no resource
without its category, of which no two about one job have the same sequence, and one of which sets
the creation of each job that is not stored yet, may be merged in any order: the same jobs are
stored, with records that agree and with the same stamps but for those of the statuses. -/
theorem mergeAll_alike_of_perm (perm : left.Perm right)
    (unended : ∀ report ∈ left, Unended (map.get? report.patch.id))
    (ongoing : ∀ report ∈ left, report.ends = false)
    (explicit : ∀ report ∈ left, ¬report.patch.NamesOnly)
    (distinct : left.Pairwise fun first second =>
      first.patch.id = second.patch.id → first.sequence ≠ second.sequence)
    (created : ∀ report ∈ left, map.get? report.patch.id = none →
      ∃ other ∈ left, other.patch.id = report.patch.id ∧ other.patch.created ≠ none) :
    (map.mergeAll left).1.Alike (map.mergeAll right).1 := by
  intro id
  have about {report : Report} (member : report ∈ left.filter fun each => each.patch.id = id) :
      report ∈ left ∧ report.patch.id = id := by
    simpa using member
  rw [JobMap.get?_mergeAll, JobMap.get?_mergeAll]
  apply entryAfterAll_alike (perm.filter _)
  case unended =>
    intro present
    obtain ⟨report, member⟩ := List.exists_mem_of_ne_nil _ present
    obtain ⟨here, named⟩ := about member
    exact named ▸ unended report here
  case ongoing =>
    intro report member
    exact ongoing report (about member).1
  case explicit =>
    intro report member
    exact explicit report (about member).1
  case names =>
    intro first firstMember second secondMember
    exact (about firstMember).2.trans (about secondMember).2.symm
  case distinct =>
    intro first firstMember second secondMember sequences
    exact eq_of_sequence_eq distinct (about firstMember).1 (about secondMember).1
      ((about firstMember).2.trans (about secondMember).2.symm) sequences
  case created =>
    intro present absent
    obtain ⟨report, member⟩ := List.exists_mem_of_ne_nil _ present
    obtain ⟨here, named⟩ := about member
    obtain ⟨other, there, alsoNamed, mentions⟩ := created report here (named ▸ absent)
    refine ⟨other, ?_, mentions⟩
    simpa using ⟨there, alsoNamed.trans named⟩

/-- A page and an update that overtook it. -/
def overtaken : List Report :=
  [⟨.ofJob (.fresh ⟨"job-1"⟩ .remoteBackup .none ⟨5, 0⟩) ⟨20, 0⟩, .bulkPoll, 3⟩,
    ⟨.ofJob (.fresh ⟨"job-2"⟩ .remoteRestore .none ⟨6, 0⟩) ⟨20, 0⟩, .bulkPoll, 3⟩,
    ⟨((Patch.empty ⟨"job-1"⟩ ⟨10, 0⟩).withStatus .running).withCounters 1 4, .stream, 4⟩]

theorem overtaken_alike :
    overtaken.Perm overtaken.reverse ∧
      (JobMap.empty.mergeAll overtaken).1.Alike (JobMap.empty.mergeAll overtaken.reverse).1 := by
  have perm : overtaken.Perm overtaken.reverse := (List.reverse_perm overtaken).symm
  refine ⟨perm, mergeAll_alike_of_perm perm ?_ (by decide) ?_ (by decide) ?_⟩
  · intro report _
    exact unended_none
  · intro report member named
    simp only [overtaken, List.mem_cons, List.not_mem_nil, or_false] at member
    rcases member with rfl | rfl | rfl
    all_goals exact named.2 rfl
  · intro report member _
    revert member
    exact (by decide : ∀ report ∈ overtaken, ∃ other ∈ overtaken,
      other.patch.id = report.patch.id ∧ other.patch.created ≠ none) report

end Maps

end LiveJobs
