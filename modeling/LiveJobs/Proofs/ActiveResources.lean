import LiveJobs.Poll.Active
import Mathlib.Data.List.Nodup

/-!
# The resources of the running jobs

The map of the running jobs counts a job under a resource if the job is active and the resource is
its own. The test for work that the map lacks counts jobs in the same way, so it is settled by the
list that the map was made of. A reported resource plays a part only for a job that has none.
-/

namespace LiveJobs

/-- Whether a job counts under a resource: it is active, and the resource is its own. -/
def Job.WorksOn (job : Job) (resource : ResourceId) : Prop :=
  job.isActive = true ∧ job.resource.id? = some resource

namespace ActiveMap

variable {job : Job} {resource : ResourceId}

theorem resource?_eq_some_iff : resource? job = some resource ↔ job.WorksOn resource := by
  rw [resource?, Job.WorksOn]
  split
  next active => simp [active]
  next inactive => simp [inactive]

/-! ## The map of a list -/

theorem lookup_insertNew (map : ActiveMap) (job : Job) (resource : ResourceId) :
    (map.insertNew job).lookup resource =
      (map.lookup resource).or (if resource? job = some resource then some job.id else none) := by
  unfold insertNew
  cases named : resource? job with
  | none => simp
  | some other =>
      by_cases same : other = resource
      · subst same
        cases known : map.lookup other with
        | none => simp [known, List.lookup_append]
        | some id => simp [known]
      · have differs : (resource == other) = false := by simpa using Ne.symm same
        simp only [Option.some.injEq, same, if_false, Option.or_none]
        split
        · rfl
        · simp [List.lookup_append, List.lookup_cons, differs]

/-- The map of a list of jobs names the first active job of each resource. -/
theorem lookup_ofJobs (jobs : List Job) (resource : ResourceId) :
    (ofJobs jobs).lookup resource =
      (jobs.find? fun job => resource? job = some resource).map Job.id := by
  have grown (map : ActiveMap) : (jobs.foldl insertNew map).lookup resource =
      (map.lookup resource).or
        ((jobs.find? fun job => resource? job = some resource).map Job.id) := by
    induction jobs generalizing map with
    | nil => simp
    | cons job rest ih =>
        rw [List.foldl_cons, ih, lookup_insertNew, List.find?_cons]
        by_cases named : resource? job = some resource
        · simp [named]
        · simp [named]
  exact grown []

theorem lookup_ofJobs_eq_none_iff (jobs : List Job) (resource : ResourceId) :
    (ofJobs jobs).lookup resource = none ↔ ∀ job ∈ jobs, ¬job.WorksOn resource := by
  simp [lookup_ofJobs, resource?_eq_some_iff]

theorem lookup_ofJobs_eq_some_iff (jobs : List Job) (resource : ResourceId) (id : JobId) :
    (ofJobs jobs).lookup resource = some id ↔
      ∃ before job after, jobs = before ++ job :: after ∧ job.WorksOn resource ∧
        (∀ earlier ∈ before, ¬earlier.WorksOn resource) ∧ job.id = id := by
  rw [lookup_ofJobs, Option.map_eq_some_iff]
  constructor
  · rintro ⟨job, found, named⟩
    obtain ⟨works, before, after, rfl, none⟩ := List.find?_eq_some_iff_append.1 found
    refine ⟨before, job, after, rfl, resource?_eq_some_iff.1 (of_decide_eq_true works), ?_, named⟩
    intro earlier member works
    simpa [resource?_eq_some_iff.2 works] using none earlier member
  · rintro ⟨before, job, after, rfl, works, none, named⟩
    refine ⟨job, List.find?_eq_some_iff_append.2 ?_, named⟩
    refine ⟨decide_eq_true (resource?_eq_some_iff.2 works), before, after, rfl, ?_⟩
    intro earlier member
    simpa [resource?_eq_some_iff] using none earlier member

/-- The resources that a map knows of. -/
def resources (map : ActiveMap) : List ResourceId := map.map Prod.fst

theorem mem_resources_iff (map : ActiveMap) (resource : ResourceId) :
    resource ∈ map.resources ↔ (map.lookup resource).isSome = true := by
  rw [resources, List.mem_map, List.lookup_isSome_iff]
  simp only [beq_iff_eq, @eq_comm _ _ resource]

theorem nodup_insertNew {map : ActiveMap} (distinct : map.resources.Nodup) (job : Job) :
    (map.insertNew job).resources.Nodup := by
  unfold insertNew
  cases resource? job with
  | none => exact distinct
  | some resource =>
      dsimp only
      split
      next => exact distinct
      next unknown =>
        rw [← mem_resources_iff] at unknown
        rw [resources, List.map_append, List.map_singleton, ← List.concat_eq_append]
        exact distinct.concat unknown

theorem nodup_ofJobs (jobs : List Job) : (ofJobs jobs).resources.Nodup := by
  have grown (map : ActiveMap) (distinct : map.resources.Nodup) :
      (jobs.foldl insertNew map).resources.Nodup := by
    induction jobs generalizing map with
    | nil => exact distinct
    | cons job rest ih => exact ih _ (nodup_insertNew distinct job)
  exact grown [] List.nodup_nil

/-! ## The test -/

/-- A job is lacking if it is active on a resource of which the list has no active job. -/
theorem lacks_ofJobs_iff (jobs : List Job) (job : Job) (reported : Option ResourceId) :
    (ofJobs jobs).lacks job reported = true ↔
      job.isActive = true ∧ ∃ resource, job.resource.id?.or reported = some resource ∧
        ∀ listed ∈ jobs, ¬listed.WorksOn resource := by
  rw [lacks, Bool.and_eq_true, Option.any_eq_true]
  simp only [Option.isNone_iff_eq_none, lookup_ofJobs_eq_none_iff]

/-- The map of the running jobs and the test for work that it lacks agree, for every list of jobs.
The resources of the map are those that an active job of the list works on, each once, and each
leads to the first such job of the list. A job is lacking exactly if it is active, has a resource of
its own or else was reported with one, and no active job of the list works on that. So an active job
of the list is never lacking, whatever was reported for it, unless it has no resource. -/
theorem map_and_test_agree (jobs : List Job) :
    (ofJobs jobs).resources.Nodup ∧
    (∀ resource, resource ∈ (ofJobs jobs).resources ↔ ∃ job ∈ jobs, job.WorksOn resource) ∧
    (∀ resource id, (ofJobs jobs).lookup resource = some id ↔
      ∃ before job after, jobs = before ++ job :: after ∧ job.WorksOn resource ∧
        (∀ earlier ∈ before, ¬earlier.WorksOn resource) ∧ job.id = id) ∧
    (∀ job reported, (ofJobs jobs).lacks job reported = true ↔
      job.isActive = true ∧ ∃ resource, job.resource.id?.or reported = some resource ∧
        ∀ listed ∈ jobs, ¬listed.WorksOn resource) ∧
    (∀ job ∈ jobs, ∀ reported, (ofJobs jobs).lacks job reported = true →
      job.resource = .none) := by
  refine ⟨nodup_ofJobs jobs, ?resources, lookup_ofJobs_eq_some_iff jobs, lacks_ofJobs_iff jobs,
    ?listed⟩
  case resources =>
    intro resource
    rw [mem_resources_iff, ← not_iff_not, Bool.not_eq_true, Option.isSome_eq_false_iff,
      Option.isNone_iff_eq_none, lookup_ofJobs_eq_none_iff]
    simp
  case listed =>
    intro job member reported lacking
    obtain ⟨active, resource, named, free⟩ := (lacks_ofJobs_iff jobs job reported).1 lacking
    cases owned : job.resource with
    | none => rfl
    | environment id | promotion id =>
        rw [owned] at named
        cases named
        exact absurd ⟨active, by rw [owned]; rfl⟩ (free job member)

/-- Three jobs on resources of one name, of which the first has ended, and one that runs without a
resource. -/
def mixedJobs : List Job :=
  [{ Job.fresh ⟨"job-1"⟩ .environmentSync (.environment ⟨"env-1"⟩) ⟨10, 0⟩ with
      status := .completed },
    { Job.fresh ⟨"job-2"⟩ .remoteBackup (.promotion ⟨"env-1"⟩) ⟨20, 0⟩ with status := .running },
    Job.fresh ⟨"job-3"⟩ .remoteRestore (.environment ⟨"env-1"⟩) ⟨30, 0⟩,
    { Job.fresh ⟨"job-4"⟩ .unknown .none ⟨40, 0⟩ with status := .running }]

theorem mixedJobs_agree :
    (ofJobs mixedJobs).lookup ⟨"env-1"⟩ = some ⟨"job-2"⟩ ∧
      ∃ job ∈ mixedJobs, (ofJobs mixedJobs).lacks job (some ⟨"env-2"⟩) = true ∧
        job.resource = .none := by
  obtain ⟨-, -, first, -, listed⟩ := map_and_test_agree mixedJobs
  have detached : mixedJobs[3] ∈ mixedJobs := List.getElem_mem _
  refine ⟨(first ⟨"env-1"⟩ ⟨"job-2"⟩).2 ?_, mixedJobs[3], detached, by decide, ?_⟩
  · refine ⟨mixedJobs.take 1, mixedJobs[1], mixedJobs.drop 2, rfl, ?_, ?_, rfl⟩
    · exact ⟨rfl, rfl⟩
    · intro earlier member works
      rw [List.mem_singleton.1 member] at works
      exact absurd works.1 (by decide)
  · exact listed _ detached (some ⟨"env-2"⟩) (by decide)

end ActiveMap

end LiveJobs
