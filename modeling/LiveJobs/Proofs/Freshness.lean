import LiveJobs.Proofs.Lifecycle

/-!
# The highest sequence wins

Each overlaid field of a job is a register of its own: after any run it holds what the report with
the highest sequence says about it, of the reports up to the one that ended the job. The fields do
not see one another, and the sources of the reports play no part.
-/

namespace LiveJobs

namespace Patch

/-- The value that a patch reports for a field by itself. A resource that is named without its
category is not one: what it stands for depends on what is stored. -/
def reported? (patch : Patch) : (field : Field) → Option field.Value
  | .jobType => patch.jobType
  | .status => patch.status
  | .resource => patch.resource
  | .current => patch.progress.current.map some
  | .total => patch.progress.total.map some
  | .percentage => patch.progress.percentage.map some
  | .message => patch.progress.message.map some
  | .currentStep => patch.progress.currentStep.map some
  | .created => patch.created
  | .started => patch.started.map some
  | .completed => patch.completed.map some
  | .error => patch.error.map some
  | .result => patch.result.map some

/-- Whether a patch names a resource without its category. -/
def NamesOnly (patch : Patch) : Prop := patch.resource = none ∧ patch.resourceName ≠ none

variable {patch : Patch} {field : Field}

theorem valueFor?_of_reported? {value : field.Value} (reported : patch.reported? field = some value)
    (job : Job) : patch.valueFor? job field = some value := by
  cases field
  case resource =>
    rw [reported?] at reported
    rw [valueFor?, resourceFor?, reported]
  all_goals exact reported

/-- Except for a resource that is only named, a patch reports nothing but by itself. -/
theorem valueFor?_eq_reported? (explicit : field = .resource → ¬patch.NamesOnly) (job : Job) :
    patch.valueFor? job field = patch.reported? field := by
  cases field
  case resource =>
    rw [valueFor?, resourceFor?, reported?]
    cases resource : patch.resource with
    | some => rfl
    | none =>
        cases name : patch.resourceName with
        | none => rfl
        | some => exact absurd ⟨resource, by simp [name]⟩ (explicit rfl)
  all_goals rfl

end Patch

/-- The report of a list that counts for a field, with what it says: of the reports that mention the
field it has the highest sequence, and of those with that sequence it is the last. -/
def Freshest (reports : List Report) (field : Field) (report : Report) (value : field.Value) :
    Prop :=
  report.patch.reported? field = some value ∧
    ∃ before after, reports = before ++ report :: after ∧
      (∀ other ∈ before, other.patch.reported? field ≠ none →
        other.sequence ≤ report.sequence) ∧
      (∀ other ∈ after, other.patch.reported? field ≠ none → other.sequence < report.sequence)

namespace Freshest

variable {reports : List Report} {field : Field} {report first : Report} {value : field.Value}

theorem cons (freshest : Freshest reports field report value)
    (staler : first.patch.reported? field ≠ none → first.sequence ≤ report.sequence) :
    Freshest (first :: reports) field report value := by
  obtain ⟨reported, before, after, rfl, below, above⟩ := freshest
  exact ⟨reported, first :: before, after, rfl, List.forall_mem_cons.2 ⟨staler, below⟩, above⟩

theorem head (reported : first.patch.reported? field = some value)
    (staler : ∀ other ∈ reports, other.patch.reported? field ≠ none →
      other.sequence < first.sequence) : Freshest (first :: reports) field first value :=
  ⟨reported, [], reports, rfl, by simp, staler⟩

theorem mem (freshest : Freshest reports field report value) : report ∈ reports := by
  obtain ⟨-, before, after, rfl, -, -⟩ := freshest
  simp

theorem le (freshest : Freshest reports field report value) {other : Report}
    (member : other ∈ reports) (mentions : other.patch.reported? field ≠ none) :
    other.sequence ≤ report.sequence := by
  obtain ⟨-, before, after, rfl, below, above⟩ := freshest
  rcases List.mem_append.1 member with early | late
  · exact below other early mentions
  · rcases List.mem_cons.1 late with rfl | later
    · exact Nat.le_refl _
    · exact Nat.le_of_lt (above other later mentions)

end Freshest

namespace Register

variable {field : Field}

/-- The register after reports have been offered to it, first to last. -/
def offers (register : Register field) (reports : List Report) : Register field :=
  reports.foldl
    (fun register report => register.offer report.sequence (report.patch.reported? field)) register

@[simp] theorem offers_cons (register : Register field) (report : Report)
    (reports : List Report) :
    register.offers (report :: reports) =
      (register.offer report.sequence (report.patch.reported? field)).offers reports := rfl

/-- A register ends up with the freshest report, unless that is staler than the register was: then
nothing has happened to it. -/
theorem offers_cases (register : Register field) (reports : List Report) :
    (∃ report value, Freshest reports field report value ∧
      register.stamp ≤ report.sequence ∧
      field.Agree (register.offers reports).value value ∧
      (register.offers reports).stamp = report.sequence) ∨
    ((∀ report ∈ reports, report.patch.reported? field ≠ none →
      report.sequence < register.stamp) ∧ register.offers reports = register) := by
  induction reports generalizing register with
  | nil => exact .inr ⟨by simp, rfl⟩
  | cons first rest ih =>
      rw [offers_cons]
      cases reported : first.patch.reported? field with
      | none =>
          have silent (goal : Prop) : first.patch.reported? field ≠ none → goal :=
            fun mentions => absurd reported mentions
          rcases ih register with ⟨report, value, freshest, reaches, agree, stamp⟩ | ⟨stale, same⟩
          · exact .inl ⟨report, value, freshest.cons (silent _), reaches, agree, stamp⟩
          · exact .inr ⟨List.forall_mem_cons.2 ⟨silent _, stale⟩, same⟩
      | some offered =>
          by_cases accepted : register.stamp ≤ first.sequence
          · have raised := offer_stamp accepted offered
            rcases ih (register.offer first.sequence (some offered)) with
              ⟨report, value, freshest, reaches, agree, stamp⟩ | ⟨stale, same⟩
            · rw [raised] at reaches
              exact .inl ⟨report, value, freshest.cons fun _ => reaches,
                Nat.le_trans accepted reaches, agree, stamp⟩
            · rw [raised] at stale
              rw [same]
              exact .inl ⟨first, offered, .head reported stale, accepted,
                offer_agree accepted offered, raised⟩
          · have fresher := Nat.lt_of_not_le accepted
            rw [offer_of_lt fresher]
            rcases ih register with
              ⟨report, value, freshest, reaches, agree, stamp⟩ | ⟨stale, same⟩
            · exact .inl ⟨report, value,
                freshest.cons fun _ => Nat.le_of_lt (Nat.lt_of_lt_of_le fresher reaches),
                reaches, agree, stamp⟩
            · exact .inr ⟨List.forall_mem_cons.2 ⟨fun _ => fresher, stale⟩, same⟩

/-- Nothing is too stale for a register without a stamp. -/
theorem offers_of_unstamped {register : Register field} (unstamped : register.stamp = 0)
    (reports : List Report) :
    (∃ report value, Freshest reports field report value ∧
      field.Agree (register.offers reports).value value ∧
      (register.offers reports).stamp = report.sequence) ∨
    ((∀ report ∈ reports, report.patch.reported? field = none) ∧
      register.offers reports = register) := by
  rcases register.offers_cases reports with
    ⟨report, value, freshest, -, agree, stamp⟩ | ⟨stale, same⟩
  · exact .inl ⟨report, value, freshest, agree, stamp⟩
  · refine .inr ⟨?_, same⟩
    intro report member
    cases reported : report.patch.reported? field with
    | none => rfl
    | some =>
        have below := stale report member (by simp [reported])
        rw [unstamped] at below
        exact absurd below (Nat.not_lt_zero _)

end Register

/-- Over one entry, an overlaid field is offered what the reports say up to the one that ends the
job. The fields do not see one another. -/
theorem EntryRun.register_overlaid {entry last : Entry} {reports : List Report} {field : Field}
    (run : EntryRun entry reports last) (active : entry.job.isTerminal = false)
    (overlaid : field.isOverlaid = true)
    (explicit : field = .resource → ∀ report ∈ reports, ¬report.patch.NamesOnly) :
    last.register field = (entry.register field).offers (liveReports reports) := by
  induction run with
  | done => rfl
  | locked ended => exact absurd (ended.symm.trans active) (by decide)
  | @laid entry next last report rest _ lays run ih =>
      have offered : next.register field =
          (entry.register field).offer report.sequence (report.patch.reported? field) := by
        rw [lays.overlaid field overlaid, Patch.valueFor?_eq_reported?]
        exact fun resource => explicit resource report List.mem_cons_self
      have nextEnded := lays.isTerminal_eq active
      cases ends : report.ends with
      | true =>
          rw [ends] at nextEnded
          rw [run.eq_of_terminal nextEnded, liveReports, if_pos ends]
          exact offered
      | false =>
          rw [ends] at nextEnded
          have later := ih nextEnded fun resource other member =>
            explicit resource other (List.mem_cons_of_mem _ member)
          rw [later, offered, liveReports, if_neg (by rw [ends]; decide)]
          rfl

/-! ## Sources -/

/-- The report as if the stream had brought it. -/
def Report.unsigned (report : Report) : Report := { report with origin := .stream }

/-- The entry as if the stream had written it. -/
def Entry.unsigned (entry : Entry) : Entry := { entry with lastOrigin := .stream }

@[simp] theorem Entry.unsigned_id (entry : Entry) : entry.unsigned.id = entry.id := rfl

/-- A merge does not look at the source of a report. -/
theorem Report.mergeInto_unsigned (report : Report) (existing : Option Entry) :
    report.unsigned.mergeInto (existing.map Entry.unsigned) =
      ((report.mergeInto existing).1.map Entry.unsigned, (report.mergeInto existing).2) := by
  cases existing with
  | none => rfl
  | some entry =>
      cases ended : entry.job.isTerminal with
      | true =>
          rw [mergeInto_of_terminal report ended]
          exact mergeInto_of_terminal report.unsigned ended
      | false =>
          have active : entry.unsigned.job.isTerminal = false := ended
          by_cases untouched : (Overlay.ofPatch report.patch report.sequence entry).changed = [] ∧
              (Overlay.ofPatch report.patch report.sequence entry).stamps = entry.stamps
          · rw [mergeInto_of_untouched report ended untouched.1 untouched.2]
            exact mergeInto_of_untouched report.unsigned active untouched.1 untouched.2
          · rw [mergeInto_of_touched report ended untouched]
            exact mergeInto_of_touched report.unsigned active untouched

theorem putEntry_unsigned (entry : Entry) (entries : List Entry) :
    putEntry entry.unsigned (entries.map Entry.unsigned) =
      (putEntry entry entries).map Entry.unsigned := by
  induction entries with
  | nil => rfl
  | cons first rest ih =>
      simp only [List.map_cons, putEntry, Entry.unsigned_id, ih]
      split
      · rfl
      · rfl

namespace JobMap

/-- The map as if the stream had written all of it. -/
def unsigned (map : JobMap) : JobMap where
  entries := map.entries.map Entry.unsigned
  distinct := by
    rw [List.map_map]
    exact map.distinct

theorem get?_unsigned (map : JobMap) (id : JobId) :
    map.unsigned.get? id = (map.get? id).map Entry.unsigned :=
  List.find?_map

theorem insert_unsigned (map : JobMap) (entry : Entry) :
    map.unsigned.insert entry.unsigned = (map.insert entry).unsigned := by
  simp only [insert, unsigned, putEntry_unsigned]

theorem merge_unsigned (map : JobMap) (report : Report) :
    map.unsigned.merge report.unsigned =
      ((map.merge report).1.unsigned, (map.merge report).2) := by
  have merged := report.mergeInto_unsigned (map.get? report.patch.id)
  rw [← get?_unsigned] at merged
  unfold merge
  rw [show report.unsigned.patch = report.patch from rfl, merged]
  rcases report.mergeInto (map.get? report.patch.id) with ⟨_ | next, outcome⟩
  · rfl
  · exact congrArg (·, outcome) (map.insert_unsigned next)

/-- Nothing but the source that an entry remembers depends on the sources of the reports. -/
theorem mergeAll_unsigned (map : JobMap) (reports : List Report) :
    map.unsigned.mergeAll (reports.map Report.unsigned) =
      ((map.mergeAll reports).1.unsigned, (map.mergeAll reports).2) := by
  induction reports generalizing map with
  | nil => rfl
  | cons report rest ih => simp only [List.map_cons, mergeAll_cons, merge_unsigned, ih]

/-- Lists that differ in their sources only have the same outcomes, and leave the same map but for
the sources. -/
theorem mergeAll_eq_of_unsigned_eq (map : JobMap) {first second : List Report}
    (same : first.map Report.unsigned = second.map Report.unsigned) :
    (map.mergeAll first).2 = (map.mergeAll second).2 ∧
      (map.mergeAll first).1.unsigned = (map.mergeAll second).1.unsigned := by
  have left := map.mergeAll_unsigned first
  have right := map.mergeAll_unsigned second
  rw [same] at left
  obtain ⟨maps, outcomes⟩ := Prod.mk.inj (left.symm.trans right)
  exact ⟨outcomes, maps⟩

end JobMap

theorem entryFrom_of_unsigned_eq {first second : List Report} {id : JobId} {entry : Entry}
    (same : first.map Report.unsigned = second.map Report.unsigned)
    (stored : entryFrom second id = some entry) :
    ∃ other, entryFrom first id = some other ∧ other.unsigned = entry.unsigned := by
  obtain ⟨-, maps⟩ := JobMap.empty.mergeAll_eq_of_unsigned_eq same
  have found : (entryFrom first id).map Entry.unsigned = some entry.unsigned := by
    rw [entryFrom, ← JobMap.get?_unsigned, maps, JobMap.get?_unsigned]
    exact congrArg (Option.map Entry.unsigned) stored
  obtain ⟨other, there, alike⟩ := Option.map_eq_some_iff.1 found
  exact ⟨other, there, alike⟩

/-! ## The law -/

theorem Report.stamp_seed (report : Report) (field : Field) :
    (report.seed.register field).stamp = 0 :=
  Stamps.get_zero field

/-- A field that the first report does not mention starts with the default. Without a reported
creation the job counts as created when it was first observed. -/
theorem Report.value_seed_of_silent (report : Report) {field : Field}
    (silent : report.patch.reported? field = none) :
    report.seed.job.value field =
      (Job.fresh report.patch.id .unknown .none report.patch.observedAt).value field := by
  cases field
  case created =>
    rw [Patch.reported?] at silent
    simp only [seed, Job.fresh, Job.value, silent, Option.getD_none]
  all_goals rfl

theorem head_mem_liveReports (first : Report) (rest : List Report) :
    first ∈ liveReports (first :: rest) := by
  rw [liveReports]
  split
  · exact List.mem_singleton_self first
  · exact List.mem_cons_self

section Law

variable {id : JobId} {first : Report} {rest : List Report}

/-- The highest sequence wins. After any run of reports about a job, every overlaid field agrees
with what the freshest report says about it, up to the report that ended the job, and is stamped
with the sequence of that report; a field that none of them mentions has the default of a new job
and no stamp. The resource is left out of this if a patch names one without its category. With other
sources the same reports have the same outcomes, and leave the same record with the same stamps. -/
theorem highest_sequence_wins (about : ∀ report ∈ first :: rest, report.patch.id = id) :
    ∃ entry, entryFrom (first :: rest) id = some entry ∧
      (∀ field : Field, field.isOverlaid = true →
        (field = .resource → ∀ report ∈ first :: rest, ¬report.patch.NamesOnly) →
        (∃ report value, Freshest (liveReports (first :: rest)) field report value ∧
          field.Agree (entry.job.value field) value ∧
          entry.stamps.get field = report.sequence) ∨
        ((∀ report ∈ liveReports (first :: rest), report.patch.reported? field = none) ∧
          entry.job.value field =
            (Job.fresh id .unknown .none first.patch.observedAt).value field ∧
          entry.stamps.get field = 0)) ∧
      ∀ others : List Report,
        others.map Report.unsigned = (first :: rest).map Report.unsigned →
        (JobMap.empty.mergeAll others).2 = (JobMap.empty.mergeAll (first :: rest)).2 ∧
        ∃ other, entryFrom others id = some other ∧ other.job = entry.job ∧
          other.stamps = entry.stamps := by
  obtain ⟨last, stored, run⟩ := JobMap.empty.run_mergeAll about
  refine ⟨last, stored, ?fields, ?sources⟩
  case fields =>
    intro field overlaid explicit
    have offered := run.register_overlaid rfl overlaid explicit
    have value : last.job.value field = _ := congrArg Register.value offered
    have stamp : last.stamps.get field = _ := congrArg Register.stamp offered
    rcases Register.offers_of_unstamped (first.stamp_seed field) (liveReports (first :: rest)) with
      ⟨report, reported, freshest, agree, stamped⟩ | ⟨silent, same⟩
    · left
      refine ⟨report, reported, freshest, ?_, stamp.trans stamped⟩
      rw [value]
      exact agree
    · right
      refine ⟨silent, ?_, ?_⟩
      · rw [← about first List.mem_cons_self,
          ← first.value_seed_of_silent (silent first (head_mem_liveReports first rest))]
        exact value.trans (congrArg Register.value same)
      · rw [← first.stamp_seed field]
        exact stamp.trans (congrArg Register.stamp same)
  case sources =>
    intro others same
    obtain ⟨outcomes, -⟩ := JobMap.empty.mergeAll_eq_of_unsigned_eq same
    obtain ⟨other, found, alike⟩ := entryFrom_of_unsigned_eq same stored
    have jobs := congrArg Entry.job alike
    have stamps := congrArg Entry.stamps alike
    exact ⟨outcomes, other, found, jobs, stamps⟩

/-- Three counts of one job, of which the freshest comes second. -/
def lateCounts : List Report :=
  [⟨(Patch.empty ⟨"job-1"⟩ ⟨10, 0⟩).withCounters 1 4, .bulkPoll, 2⟩,
    ⟨(Patch.empty ⟨"job-1"⟩ ⟨30, 0⟩).withCounters 3 4, .stream, 5⟩,
    ⟨(Patch.empty ⟨"job-1"⟩ ⟨40, 0⟩).withCounters 2 4, .singlePoll, 4⟩]

theorem freshest_of_lateCounts :
    (∀ report ∈ lateCounts, report.patch.id = ⟨"job-1"⟩) ∧
      ∃ entry, entryFrom lateCounts ⟨"job-1"⟩ = some entry ∧
        entry.job.progress.current = some 3 ∧ entry.stamps.get .current = 5 := by
  have about : ∀ report ∈ lateCounts, report.patch.id = ⟨"job-1"⟩ := by decide
  obtain ⟨entry, stored, fields, -⟩ := highest_sequence_wins about
  refine ⟨about, entry, stored, ?_⟩
  rcases fields .current rfl (by intro resource; cases resource) with
    ⟨report, value, freshest, agree, stamp⟩ | ⟨silent, -, -⟩
  · rw [Field.agree_iff_eq rfl] at agree
    have fresh := freshest.le (List.mem_cons_of_mem _ List.mem_cons_self) (by decide)
    have member : report ∈ lateCounts := freshest.mem
    simp only [lateCounts, List.mem_cons, List.not_mem_nil, or_false] at member
    rcases member with rfl | rfl | rfl
    · exact absurd fresh (by decide)
    · cases freshest.1
      exact ⟨agree, stamp⟩
    · exact absurd fresh (by decide)
  · exact absurd (silent _ List.mem_cons_self) (by decide)

end Law

end LiveJobs
