import LiveJobs.Proofs.Overlay

/-!
# Merging reports

What a report can do to an entry, and what a list of reports does to a map. The jobs of a map do
not see one another: a job's entry after a list of reports depends on its entry before and on the
reports about it, in their order.
-/

namespace LiveJobs

/-- Whether the stored job, if there is one, has not ended yet. -/
def Unended (existing : Option Entry) : Prop :=
  ∀ entry, existing = some entry → entry.job.isTerminal = false

@[simp] theorem unended_none : Unended none := by
  intro entry found
  cases found

@[simp] theorem unended_some (entry : Entry) :
    Unended (some entry) ↔ entry.job.isTerminal = false := by
  simp [Unended]

namespace Report

variable {report : Report} {existing : Option Entry} {entry next : Entry}

/-- The entry that a report is laid over: the stored one, or the one that the report starts. -/
def base (report : Report) (existing : Option Entry) : Entry := existing.getD report.seed

@[simp] theorem base_none (report : Report) : report.base none = report.seed := rfl

@[simp] theorem base_some (report : Report) (entry : Entry) : report.base (some entry) = entry :=
  rfl

theorem base_unended (report : Report) (unended : Unended existing) :
    (report.base existing).job.isTerminal = false := by
  cases existing with
  | none => rfl
  | some entry => exact unended entry rfl

/-- What laying a report over an entry makes of it, field by field. -/
structure Lays (report : Report) (entry next : Entry) : Prop where
  id : next.job.id = entry.job.id
  stamps : ∀ field, entry.stamps.get field ≤ next.stamps.get field
  /-- An overlaid field is offered what the report says about it. -/
  overlaid : ∀ field : Field, field.isOverlaid = true →
    next.register field =
      (entry.register field).offer report.sequence (report.patch.valueFor? entry.job field)
  /-- The status moves forward or stays, whatever the sequence. -/
  status : next.register .status =
    (entry.register .status).advance report.sequence report.patch.status
  /-- A job that has ended gets a time of completion, the reported one if there is one. -/
  completed : next.register .completed =
    if next.job.isTerminal then
      ((entry.register .completed).offer report.sequence
        (report.patch.completed.map some)).complete report.sequence report.patch.observedAt
    else entry.register .completed
  /-- A failed job gets the reported failure. -/
  error : next.register .error =
    if next.job.status = .failed then
      (entry.register .error).offer report.sequence (report.patch.error.map some)
    else entry.register .error

/-- An entry that has the job and the stamps of the overlay is what the report makes. -/
theorem lays_of_ofPatch
    (job : next.job = (Overlay.ofPatch report.patch report.sequence entry).job)
    (stamps : next.stamps = (Overlay.ofPatch report.patch report.sequence entry).stamps) :
    report.Lays entry next := by
  have registers (field : Field) : next.register field =
      (Overlay.ofPatch report.patch report.sequence entry).register field := by
    rw [Entry.register, job, stamps]
    rfl
  have grows := Overlay.grows_ofPatch report.patch report.sequence entry
  constructor
  case id => exact job ▸ grows.id
  case stamps => exact stamps ▸ grows.stamps
  case overlaid =>
    intro field overlaid
    rw [registers]
    exact Overlay.register_ofPatch_of_isOverlaid _ _ _ overlaid
  case status =>
    rw [registers]
    exact Overlay.register_ofPatch_status _ _ _
  case completed =>
    rw [registers, job]
    exact Overlay.register_ofPatch_completed _ _ _
  case error =>
    rw [registers, job]
    exact Overlay.register_ofPatch_error _ _ _

theorem mergeInto_of_terminal (report : Report) (ended : entry.job.isTerminal = true) :
    report.mergeInto (some entry) = (none, .rejected entry.job.status) :=
  if_pos ended

theorem mergeInto_of_untouched (report : Report) (active : entry.job.isTerminal = false)
    (unchanged : (Overlay.ofPatch report.patch report.sequence entry).changed = [])
    (unstamped : (Overlay.ofPatch report.patch report.sequence entry).stamps = entry.stamps) :
    report.mergeInto (some entry) = (none, .unchanged) := by
  simp [mergeInto, active, unchanged, unstamped]

theorem mergeInto_of_touched (report : Report) (active : entry.job.isTerminal = false)
    (touched : ¬((Overlay.ofPatch report.patch report.sequence entry).changed = [] ∧
      (Overlay.ofPatch report.patch report.sequence entry).stamps = entry.stamps)) :
    report.mergeInto (some entry) =
      (some
        { job := (Overlay.ofPatch report.patch report.sequence entry).job
          stamps := (Overlay.ofPatch report.patch report.sequence entry).stamps
          lastOrigin := report.origin
          lastSequence := max entry.lastSequence report.sequence },
        if (Overlay.ofPatch report.patch report.sequence entry).changed.isEmpty then .unchanged
        else .updated (Overlay.ofPatch report.patch report.sequence entry).changed) := by
  simp only [mergeInto, active, List.isEmpty_iff]
  rw [if_neg (by decide), if_neg touched]

theorem entryAfter_of_terminal (report : Report) (ended : entry.job.isTerminal = true) :
    report.entryAfter (some entry) = some entry := by
  rw [entryAfter, mergeInto_of_terminal report ended]
  rfl

/-- A job that has not ended is there after the report, with the report laid over it. That nothing
is replaced where nothing was written makes no difference. -/
theorem entryAfter_of_unended (report : Report) (unended : Unended existing) :
    ∃ next, report.entryAfter existing = some next ∧ report.Lays (report.base existing) next := by
  cases existing with
  | none => exact ⟨_, rfl, lays_of_ofPatch rfl rfl⟩
  | some entry =>
      let overlay := Overlay.ofPatch report.patch report.sequence entry
      have active : entry.job.isTerminal = false := unended entry rfl
      by_cases untouched : overlay.changed = [] ∧ overlay.stamps = entry.stamps
      · have stays : report.entryAfter (some entry) = some entry := by
          rw [entryAfter, mergeInto_of_untouched report active untouched.1 untouched.2]
          rfl
        have quiet : overlay.job = entry.job :=
          (Overlay.grows_ofPatch report.patch report.sequence entry).quiet untouched.1
        exact ⟨entry, stays, lays_of_ofPatch quiet.symm untouched.2.symm⟩
      · have becomes : report.entryAfter (some entry) = some
            { job := overlay.job
              stamps := overlay.stamps
              lastOrigin := report.origin
              lastSequence := max entry.lastSequence report.sequence } := by
          rw [entryAfter, mergeInto_of_touched report active untouched]
          rfl
        exact ⟨_, becomes, lays_of_ofPatch rfl rfl⟩

/-- All that a report can do: nothing to a job that has ended, and what `Lays` says otherwise. -/
theorem entryAfter_cases (report : Report) (existing : Option Entry) :
    (∃ entry, existing = some entry ∧ entry.job.isTerminal = true ∧
      report.entryAfter existing = some entry) ∨
    (Unended existing ∧
      ∃ next, report.entryAfter existing = some next ∧
        report.Lays (report.base existing) next) := by
  cases existing with
  | none => exact .inr ⟨unended_none, report.entryAfter_of_unended unended_none⟩
  | some entry =>
      cases ended : entry.job.isTerminal with
      | true => exact .inl ⟨entry, rfl, ended, report.entryAfter_of_terminal ended⟩
      | false =>
          have unended : Unended (some entry) := (unended_some entry).2 ended
          exact .inr ⟨unended, report.entryAfter_of_unended unended⟩

/-- The entry of a job after reports about it, in their order. -/
def entryAfterAll (reports : List Report) (existing : Option Entry) : Option Entry :=
  reports.foldl (fun existing report => report.entryAfter existing) existing

@[simp] theorem entryAfterAll_cons (report : Report) (reports : List Report)
    (existing : Option Entry) :
    entryAfterAll (report :: reports) existing =
      entryAfterAll reports (report.entryAfter existing) := rfl

/-- A job that has ended takes nothing from any list of reports. -/
theorem entryAfterAll_of_terminal (ended : entry.job.isTerminal = true) (reports : List Report) :
    entryAfterAll reports (some entry) = some entry := by
  induction reports with
  | nil => rfl
  | cons report rest ih =>
      rw [entryAfterAll_cons, entryAfter_of_terminal report ended]
      exact ih

end Report

/-! ## Runs over one entry -/

/-- Reports that turn one entry into another. An entry that has ended stays, whatever comes. -/
inductive EntryRun : Entry → List Report → Entry → Prop where
  | done (entry : Entry) : EntryRun entry [] entry
  | locked {entry : Entry} (ended : entry.job.isTerminal = true) (reports : List Report) :
      EntryRun entry reports entry
  | laid {entry next last : Entry} {report : Report} {rest : List Report}
      (active : entry.job.isTerminal = false) (lays : report.Lays entry next)
      (run : EntryRun next rest last) : EntryRun entry (report :: rest) last

namespace EntryRun

variable {entry last : Entry} {first second : List Report}

theorem eq_of_terminal {reports : List Report} (run : EntryRun entry reports last)
    (ended : entry.job.isTerminal = true) : last = entry := by
  cases run with
  | done => rfl
  | locked => rfl
  | laid active => exact absurd (ended.symm.trans active) (by decide)

/-- A run over two lists is one over the first and then one over the second. -/
theorem split (run : EntryRun entry (first ++ second) last) :
    ∃ middle, EntryRun entry first middle ∧ EntryRun middle second last := by
  induction first generalizing entry with
  | nil => exact ⟨entry, .done entry, run⟩
  | cons report rest ih =>
      cases run with
      | locked ended => exact ⟨_, .locked ended _, .locked ended _⟩
      | laid active lays run =>
          obtain ⟨middle, before, after⟩ := ih run
          exact ⟨middle, .laid active lays before, after⟩

/-- What holds of the first entry and is kept by every report holds of the last entry. -/
theorem invariant {reports : List Report} (run : EntryRun entry reports last)
    (Holds : Entry → Prop) (initially : Holds entry)
    (kept : ∀ {before after report}, report ∈ reports → before.job.isTerminal = false →
      report.Lays before after → Holds before → Holds after) : Holds last := by
  induction run with
  | done => exact initially
  | locked => exact initially
  | laid active lays run ih =>
      exact ih (kept List.mem_cons_self active lays initially) fun member =>
        kept (List.mem_cons_of_mem _ member)

theorem stamps_le {reports : List Report} (run : EntryRun entry reports last) (field : Field) :
    entry.stamps.get field ≤ last.stamps.get field := by
  apply run.invariant fun state => entry.stamps.get field ≤ state.stamps.get field
  · exact Nat.le_refl _
  · intro before after report _ _ lays below
    exact Nat.le_trans below (lays.stamps field)

end EntryRun

/-- Reports about one job are a run over its entry, or over the one that the first of them
starts. -/
theorem Report.run_entryAfterAll (report : Report) (rest : List Report)
    (existing : Option Entry) :
    ∃ last, entryAfterAll (report :: rest) existing = some last ∧
      EntryRun (report.base existing) (report :: rest) last := by
  induction rest generalizing report existing with
  | nil =>
      rcases report.entryAfter_cases existing with
        ⟨entry, rfl, ended, stays⟩ | ⟨unended, next, becomes, lays⟩
      · exact ⟨entry, stays, .locked ended _⟩
      · exact ⟨next, becomes, .laid (report.base_unended unended) lays (.done next)⟩
  | cons second rest ih =>
      rcases report.entryAfter_cases existing with
        ⟨entry, rfl, ended, _⟩ | ⟨unended, next, becomes, lays⟩
      · exact ⟨entry, entryAfterAll_of_terminal ended _, .locked ended _⟩
      · obtain ⟨last, reached, run⟩ := ih second (some next)
        rw [entryAfterAll_cons, becomes]
        exact ⟨last, reached, .laid (report.base_unended unended) lays run⟩

namespace JobMap

/-- The entry that a merge stores is that of the job which the report names. -/
theorem id_of_mergeInto {map : JobMap} {report : Report} {next : Entry}
    (stored : (report.mergeInto (map.get? report.patch.id)).1 = some next) :
    next.id = report.patch.id := by
  have becomes : report.entryAfter (map.get? report.patch.id) = some next := by
    rw [Report.entryAfter, stored]
    rfl
  have named : (report.base (map.get? report.patch.id)).id = report.patch.id := by
    cases found : map.get? report.patch.id with
    | none => rfl
    | some entry => exact id_of_get? found
  rcases report.entryAfter_cases (map.get? report.patch.id) with
    ⟨entry, found, -, stays⟩ | ⟨-, other, laid, lays⟩
  · cases becomes.symm.trans stays
    exact id_of_get? found
  · cases becomes.symm.trans laid
    exact lays.id.trans named

/-- A merge changes the entry of the job that the report names, and no other. -/
theorem get?_merge (map : JobMap) (report : Report) (id : JobId) :
    (map.merge report).1.get? id =
      if report.patch.id = id then report.entryAfter (map.get? id) else map.get? id := by
  unfold merge
  split
  next next outcome merged =>
    have named : next.id = report.patch.id := id_of_mergeInto (by rw [merged])
    rw [get?_insert, named]
    split
    next same =>
      subst same
      rw [Report.entryAfter, merged]
      rfl
    next => rfl
  next outcome merged =>
    split
    next same =>
      subst same
      rw [Report.entryAfter, merged]
      rfl
    next => rfl

@[simp] theorem mergeAll_cons (map : JobMap) (report : Report) (reports : List Report) :
    map.mergeAll (report :: reports) =
      (((map.merge report).1.mergeAll reports).1,
        (map.merge report).2 :: ((map.merge report).1.mergeAll reports).2) := rfl

theorem mergeAll_append (map : JobMap) (first second : List Report) :
    map.mergeAll (first ++ second) =
      (((map.mergeAll first).1.mergeAll second).1,
        (map.mergeAll first).2 ++ ((map.mergeAll first).1.mergeAll second).2) := by
  induction first generalizing map with
  | nil => rfl
  | cons report rest ih => simp [ih]

/-- A job's entry after a list of reports depends on the reports about it alone. -/
theorem get?_mergeAll (map : JobMap) (reports : List Report) (id : JobId) :
    (map.mergeAll reports).1.get? id =
      Report.entryAfterAll (reports.filter fun report => report.patch.id = id)
        (map.get? id) := by
  induction reports generalizing map with
  | nil => rfl
  | cons report rest ih =>
      rw [mergeAll_cons, ih, get?_merge]
      by_cases same : report.patch.id = id
      · simp [same]
      · simp [same]

/-- Where all reports are about one job, its entry is what they make of it one after the other. -/
theorem get?_mergeAll_of_forall (map : JobMap) {reports : List Report} {id : JobId}
    (about : ∀ report ∈ reports, report.patch.id = id) :
    (map.mergeAll reports).1.get? id = Report.entryAfterAll reports (map.get? id) := by
  rw [get?_mergeAll]
  congr 1
  exact List.filter_eq_self.2 fun report member => by simpa using about report member

/-- Reports about one job that are merged into a map are a run over the job's entry. -/
theorem run_mergeAll (map : JobMap) {report : Report} {rest : List Report} {id : JobId}
    (about : ∀ each ∈ report :: rest, each.patch.id = id) :
    ∃ last, (map.mergeAll (report :: rest)).1.get? id = some last ∧
      EntryRun (report.base (map.get? id)) (report :: rest) last := by
  rw [get?_mergeAll_of_forall map about]
  exact report.run_entryAfterAll rest (map.get? id)

/-- Reports that are merged into a map are a run over each entry of it. -/
theorem run_of_get? {map : JobMap} {id : JobId} {entry : Entry}
    (found : map.get? id = some entry) (reports : List Report) :
    ∃ last, (map.mergeAll reports).1.get? id = some last ∧
      EntryRun entry (reports.filter fun report => report.patch.id = id) last := by
  rw [get?_mergeAll, found]
  cases reports.filter fun report => report.patch.id = id with
  | nil => exact ⟨entry, rfl, .done entry⟩
  | cons first rest => exact first.run_entryAfterAll rest (some entry)

theorem exists_get?_mergeAll (map : JobMap) {reports : List Report} {report : Report}
    (member : report ∈ reports) :
    ∃ entry, (map.mergeAll reports).1.get? report.patch.id = some entry := by
  rw [get?_mergeAll]
  cases about : reports.filter fun each => each.patch.id = report.patch.id with
  | nil =>
      have mentioned : report ∈ reports.filter fun each => each.patch.id = report.patch.id :=
        List.mem_filter.2 ⟨member, decide_eq_true rfl⟩
      rw [about] at mentioned
      cases mentioned
  | cons first rest =>
      obtain ⟨entry, stored, -⟩ := first.run_entryAfterAll rest (map.get? report.patch.id)
      exact ⟨entry, stored⟩

/-- Reports about a job that has ended are all turned down, and the map stays as it is. -/
theorem mergeAll_of_terminal {map : JobMap} {id : JobId} {entry : Entry} {reports : List Report}
    (found : map.get? id = some entry) (ended : entry.job.isTerminal = true)
    (about : ∀ report ∈ reports, report.patch.id = id) :
    map.mergeAll reports =
      (map, List.replicate reports.length (.rejected entry.job.status)) := by
  induction reports with
  | nil => rfl
  | cons report rest ih =>
      have merged : map.merge report = (map, .rejected entry.job.status) := by
        rw [merge, about report List.mem_cons_self, found, Report.mergeInto_of_terminal _ ended]
      rw [mergeAll_cons, merged, ih fun each member => about each (List.mem_cons_of_mem _ member)]
      rfl

end JobMap

end LiveJobs
