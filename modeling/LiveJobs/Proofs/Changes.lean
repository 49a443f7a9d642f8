import LiveJobs.Proofs.Merging

/-!
# What a report is said to change

A merge answers which fields of a job it has changed, and whether subscribers are told rests on
that answer. It is right field by field: a field on the list has another value than before, by the
comparison of the merge itself, and a field that is not on the list is the very same. This holds
although a field is looked at when it is written and not at the end, because no field is written
twice: a time of completion is only put where the report has written none.
-/

namespace LiveJobs

open LiveJobs.Time

namespace Field

/-- The fields in the order in which a report writes them. -/
def writingOrder : List Field :=
  [.status] ++ progressive ++ [.completed] ++ [.error] ++ [.result]

end Field

namespace Overlay

/-- All that a reported field can do: it leaves the job as it is, or it is forced on the job with a
value that is not taken for the stored one. -/
theorem writeReported_cases (overlay : Overlay) (sequence : Sequence) (field : Field)
    (value : Option field.Value) :
    ((overlay.writeReported sequence field value).job = overlay.job ∧
      (overlay.writeReported sequence field value).changed = overlay.changed) ∨
    ∃ reported, value = some reported ∧
      field.sameValue (overlay.job.value field) reported = false ∧
      overlay.writeReported sequence field value = overlay.force sequence field reported := by
  cases value with
  | none => exact .inl ⟨rfl, rfl⟩
  | some reported =>
      simp only [writeReported, write]
      split
      · split
        next => exact .inl ⟨rfl, rfl⟩
        next differs => exact .inr ⟨reported, rfl, Bool.eq_false_iff.2 differs, rfl⟩
      · exact .inl ⟨rfl, rfl⟩

/-- What is known of an overlay once some fields have had their turn: the changes on record are
among them, in their order, and tell apart the fields that differ from those that do not. -/
structure Tracks (job : Job) (written : List Field) (overlay : Overlay) : Prop where
  order : overlay.changed.Sublist written
  changed : ∀ field ∈ overlay.changed,
    field.sameValue (job.value field) (overlay.job.value field) = false
  unchanged : ∀ field, field ∉ overlay.changed → overlay.job.value field = job.value field

namespace Tracks

variable {job : Job} {written : List Field} {overlay after : Overlay} {field : Field}

theorem start (entry : Entry) : Tracks entry.job [] (Overlay.start entry) where
  order := List.Sublist.slnil
  changed := fun _ member => absurd member List.not_mem_nil
  unchanged := fun _ _ => rfl

theorem value_of_not_mem (tracks : Tracks job written overlay) (new : field ∉ written) :
    overlay.job.value field = job.value field :=
  tracks.unchanged field fun member => new (tracks.order.subset member)

/-- Stamps play no part. -/
theorem congr (tracks : Tracks job written overlay)
    (same : after.job = overlay.job ∧ after.changed = overlay.changed) :
    Tracks job written after where
  order := same.2 ▸ tracks.order
  changed := same.1 ▸ same.2 ▸ tracks.changed
  unchanged := same.1 ▸ same.2 ▸ tracks.unchanged

theorem skip (tracks : Tracks job written overlay) (field : Field) :
    Tracks job (written ++ [field]) overlay where
  order := tracks.order.trans (List.sublist_append_left _ _)
  changed := tracks.changed
  unchanged := tracks.unchanged

theorem force (tracks : Tracks job written overlay) (sequence : Sequence) {value : field.Value}
    (differs : field.sameValue (job.value field) value = false) :
    Tracks job (written ++ [field]) (overlay.force sequence field value) where
  order := tracks.order.append (List.Sublist.refl [field])
  changed := by
    intro other member
    by_cases same : other = field
    · subst same
      rwa [Overlay.force, Job.value_withValue_self]
    · have earlier : other ∈ overlay.changed := by simpa [Overlay.force, same] using member
      rw [Overlay.force, Job.value_withValue_of_ne _ same]
      exact tracks.changed other earlier
  unchanged := by
    intro other absent
    rw [Overlay.force, List.mem_append, not_or, List.mem_singleton] at absent
    rw [Overlay.force, Job.value_withValue_of_ne _ absent.2]
    exact tracks.unchanged other absent.1

section Turns

variable (patch : Patch) (found : Job) (sequence : Sequence)

theorem advance (tracks : Tracks job written overlay) (new : .status ∉ written)
    (status : Option Status) :
    Tracks job (written ++ [.status]) (overlay.advance sequence status) := by
  cases status with
  | none => exact tracks.skip _
  | some next =>
      simp only [Overlay.advance]
      split
      next forward =>
        have stored : overlay.job.status = job.status := tracks.value_of_not_mem new
        have differs : (job.status == next) = false := by
          rw [stored, Status.advancesTo, decide_eq_true_eq] at forward
          rw [beq_eq_false_iff_ne]
          rintro rfl
          exact Nat.lt_irrefl _ forward
        exact tracks.force sequence differs
      next => exact tracks.skip _

theorem take (tracks : Tracks job written overlay) (new : field ∉ written) :
    Tracks job (written ++ [field]) (overlay.take patch found sequence field) := by
  rcases overlay.writeReported_cases sequence field (patch.valueFor? found field) with
    same | ⟨reported, -, differs, forced⟩
  · exact (tracks.congr same).skip field
  · rw [tracks.value_of_not_mem new] at differs
    rw [Overlay.take, forced]
    exact tracks.force sequence differs

theorem foldl_take {fields : List Field} (tracks : Tracks job written overlay)
    (distinct : fields.Nodup) (new : ∀ field ∈ fields, field ∉ written) :
    Tracks job (written ++ fields) (fields.foldl (Overlay.take patch found sequence) overlay) := by
  induction fields generalizing written overlay with
  | nil => rwa [List.append_nil]
  | cons first rest ih =>
      rw [List.nodup_cons] at distinct
      rw [List.forall_mem_cons] at new
      rw [List.append_cons]
      apply ih (tracks.take patch found sequence new.1) distinct.2
      intro field member
      rw [List.mem_append, not_or, List.mem_singleton]
      refine ⟨new.2 field member, ?_⟩
      rintro rfl
      exact distinct.1 member

theorem complete (tracks : Tracks job written overlay) (new : .completed ∉ written)
    (observedAt : Instant) :
    Tracks job (written ++ [.completed]) (overlay.complete sequence observedAt) := by
  simp only [Overlay.complete]
  split
  next missing =>
    have stored : job.timestamps.completed = none :=
      (tracks.value_of_not_mem new).symm.trans (Option.isNone_iff_eq_none.1 missing)
    have differs : (job.timestamps.completed == some observedAt) = false := by
      rw [stored]
      rfl
    exact tracks.force sequence differs
  next => exact tracks.skip _

/-- The time of completion is written once: it is put where there is none, and then the report has
written none. -/
theorem take_complete (tracks : Tracks job written overlay) (new : .completed ∉ written) :
    Tracks job (written ++ [.completed])
      ((overlay.take patch found sequence .completed).complete sequence patch.observedAt) := by
  rcases overlay.writeReported_cases sequence .completed (patch.valueFor? found .completed) with
    same | ⟨reported, mentioned, differs, forced⟩
  · exact (tracks.congr same).complete sequence new _
  · obtain ⟨moment, -, rfl⟩ := Option.map_eq_some_iff.1 mentioned
    rw [tracks.value_of_not_mem new] at differs
    rw [Overlay.take, forced]
    exact tracks.force sequence differs

theorem takeEnd (tracks : Tracks job written overlay)
    (new : .completed ∉ written ∧ .error ∉ written) :
    Tracks job (written ++ [.completed] ++ [.error])
      (overlay.takeEnd patch found sequence) := by
  have notYet : .error ∉ written ++ [.completed] := by simp [new.2]
  simp only [Overlay.takeEnd]
  split
  · have completed := tracks.take_complete patch found sequence new.1
    split
    · exact completed.take patch found sequence notYet
    · exact completed.skip _
  · exact (tracks.skip _).skip _

end Turns

/-- With a change on record the records differ by the comparison of the merge. -/
theorem beq_eq_false (tracks : Tracks job written overlay) (loud : overlay.changed ≠ []) :
    (job == overlay.job) = false := by
  obtain ⟨field, member⟩ := List.exists_mem_of_ne_nil _ loud
  rw [Bool.eq_false_iff]
  intro same
  have alike := ((Job.beq_iff job overlay.job).1 same).2 field
  rw [tracks.changed field member] at alike
  cases alike

end Tracks

/-- The changes on record are right, field by field. -/
theorem tracks_ofPatch (patch : Patch) (sequence : Sequence) (entry : Entry) :
    Tracks entry.job Field.writingOrder (ofPatch patch sequence entry) := by
  have advanced := (Tracks.start entry).advance sequence List.not_mem_nil patch.status
  have progressed := advanced.foldl_take patch entry.job sequence Field.progressive_nodup
    (by decide)
  have ended := progressed.takeEnd patch entry.job sequence (by decide)
  exact ended.take patch entry.job sequence (by decide)

end Overlay

/-! ## Outcomes -/

namespace Report

variable {report : Report} {existing : Option Entry}

section Active

variable {entry : Entry} (report : Report) (active : entry.job.isTerminal = false)

include active

/-- The outcome of a report about a job that has not ended: the changes on record. -/
theorem outcome_of_active :
    (report.mergeInto (some entry)).2 =
      if (Overlay.ofPatch report.patch report.sequence entry).changed.isEmpty then .unchanged
      else .updated (Overlay.ofPatch report.patch report.sequence entry).changed := by
  simp only [mergeInto, active, Bool.false_eq_true, if_false]
  split
  · rfl
  · rfl

/-- The record of a job that has not ended is the overlaid one, also if the entry is not
replaced. -/
theorem job_entryAfter_of_active :
    (report.entryAfter (some entry)).map Entry.job =
      some (Overlay.ofPatch report.patch report.sequence entry).job := by
  let overlay := Overlay.ofPatch report.patch report.sequence entry
  by_cases untouched : overlay.changed = [] ∧ overlay.stamps = entry.stamps
  · have same : overlay.job = entry.job :=
      (Overlay.grows_ofPatch report.patch report.sequence entry).quiet untouched.1
    rw [entryAfter, mergeInto_of_untouched report active untouched.1 untouched.2]
    exact congrArg some same.symm
  · rw [entryAfter, mergeInto_of_touched report active untouched]
    rfl

end Active

/-- An outcome that shows no change is that of a report which leaves the record of the job as it is;
stamps may still rise. -/
theorem job_entryAfter_of_quiet (quiet : (report.mergeInto existing).2.changed = false) :
    (report.entryAfter existing).map Entry.job = existing.map Entry.job := by
  cases existing with
  | none => cases quiet
  | some entry =>
      cases ended : entry.job.isTerminal with
      | true => rw [report.entryAfter_of_terminal ended]
      | false =>
          have grows := Overlay.grows_ofPatch report.patch report.sequence entry
          rw [report.outcome_of_active ended] at quiet
          rw [report.job_entryAfter_of_active ended]
          split at quiet
          next nothing => exact congrArg some (grows.quiet (List.isEmpty_iff.1 nothing))
          next => cases quiet

/-- An outcome that shows a change is that of a report which makes another record of the job, by
the comparison of the merge. -/
theorem job_entryAfter_of_changed (changed : (report.mergeInto existing).2.changed = true) :
    (existing.map Entry.job == (report.entryAfter existing).map Entry.job) = false := by
  cases existing with
  | none => rfl
  | some entry =>
      cases ended : entry.job.isTerminal with
      | true =>
          rw [mergeInto_of_terminal report ended] at changed
          cases changed
      | false =>
          have tracks := Overlay.tracks_ofPatch report.patch report.sequence entry
          rw [report.outcome_of_active ended] at changed
          rw [report.job_entryAfter_of_active ended]
          split at changed
          next => cases changed
          next something =>
            exact tracks.beq_eq_false fun nothing => something (List.isEmpty_iff.2 nothing)

end Report

namespace JobMap

variable {map : JobMap} {report : Report}

theorem merge_snd (map : JobMap) (report : Report) :
    (map.merge report).2 = (report.mergeInto (map.get? report.patch.id)).2 := by
  simp only [merge]
  split
  next merged => rw [merged]
  next merged => rw [merged]

theorem job?_merge (map : JobMap) (report : Report) (id : JobId) :
    (map.merge report).1.job? id =
      if report.patch.id = id then (report.entryAfter (map.get? id)).map Entry.job
      else map.job? id := by
  rw [job?, get?_merge, apply_ite (Option.map Entry.job)]
  rfl

theorem job?_merge_of_quiet (quiet : (map.merge report).2.changed = false) (id : JobId) :
    (map.merge report).1.job? id = map.job? id := by
  rw [merge_snd] at quiet
  rw [job?_merge]
  split
  next same =>
    subst same
    exact Report.job_entryAfter_of_quiet quiet
  next => rfl

/-- With a change the record of the reported job is another one, by the comparison of the merge. -/
theorem job?_merge_of_changed (changed : (map.merge report).2.changed = true) :
    (map.job? report.patch.id == (map.merge report).1.job? report.patch.id) = false := by
  rw [merge_snd] at changed
  rw [job?_merge, if_pos rfl]
  exact Report.job_entryAfter_of_changed changed

theorem job?_mergeAll_of_quiet {reports : List Report}
    (quiet : (map.mergeAll reports).2.any Outcome.changed = false) (id : JobId) :
    (map.mergeAll reports).1.job? id = map.job? id := by
  induction reports generalizing map with
  | nil => rfl
  | cons report rest ih =>
      rw [mergeAll_cons, List.any_cons, Bool.or_eq_false_iff] at quiet
      rw [mergeAll_cons]
      exact (ih quiet.2).trans (job?_merge_of_quiet quiet.1 id)

end JobMap

end LiveJobs
