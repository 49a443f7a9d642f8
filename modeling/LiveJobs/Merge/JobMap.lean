import LiveJobs.Merge.Overlay

/-!
# Maps of jobs

The stored jobs, each under its own name. A map is seen through `get?`; the order of its entries is
that in which the jobs were first stored and has no meaning.
-/

namespace LiveJobs

/-- The name of the job of an entry. -/
def Entry.id (entry : Entry) : JobId := entry.job.id

/-- Puts an entry in the place of the one of the same job, or at the end. -/
def putEntry (entry : Entry) : List Entry → List Entry
  | [] => [entry]
  | first :: rest =>
      if first.id = entry.id then entry :: rest else first :: putEntry entry rest

/-- Only the entry's own name may be new. -/
theorem mem_ids_putEntry {entry : Entry} {entries : List Entry} {id : JobId} :
    id ∈ (putEntry entry entries).map Entry.id ↔ id = entry.id ∨ id ∈ entries.map Entry.id := by
  induction entries with
  | nil => simp [putEntry]
  | cons first rest ih =>
      by_cases same : first.id = entry.id
      · simp [putEntry, same]
      · simp only [putEntry, same, if_false, List.map_cons, List.mem_cons, ih]
        constructor
        · rintro (here | here | there)
          · exact .inr (.inl here)
          · exact .inl here
          · exact .inr (.inr there)
        · rintro (here | here | there)
          · exact .inr (.inl here)
          · exact .inl here
          · exact .inr (.inr there)

theorem nodup_putEntry {entry : Entry} {entries : List Entry}
    (distinct : (entries.map Entry.id).Nodup) : ((putEntry entry entries).map Entry.id).Nodup := by
  induction entries with
  | nil => simp [putEntry]
  | cons first rest ih =>
      have parts := List.nodup_cons.1 distinct
      by_cases same : first.id = entry.id
      · simpa [putEntry, same] using distinct
      · simp only [putEntry, same, if_false, List.map_cons, List.nodup_cons]
        refine ⟨fun member => ?_, ih parts.2⟩
        rcases mem_ids_putEntry.1 member with here | there
        · exact same here
        · exact parts.1 there

/-- Putting an entry changes what is found under its own name only. -/
theorem find?_putEntry (entry : Entry) (entries : List Entry) (id : JobId) :
    (putEntry entry entries).find? (fun entry => entry.id = id) =
      if entry.id = id then some entry else entries.find? fun entry => entry.id = id := by
  induction entries with
  | nil => by_cases same : entry.id = id <;> simp [putEntry, same]
  | cons first rest ih =>
      by_cases replaced : first.id = entry.id
      · by_cases same : entry.id = id <;> simp [putEntry, replaced, same]
      · by_cases found : first.id = id
        · have differ : entry.id ≠ id := fun same => replaced (found.trans same.symm)
          subst found
          simp [putEntry, replaced, differ]
        · simp [putEntry, replaced, found, ih]

/-- The stored jobs. -/
structure JobMap where
  entries : List Entry
  distinct : (entries.map Entry.id).Nodup

namespace JobMap

def empty : JobMap := ⟨[], List.nodup_nil⟩

/-- The entry of a job. -/
def get? (map : JobMap) (id : JobId) : Option Entry :=
  map.entries.find? fun entry => entry.id = id

/-- The stored record of a job. -/
def job? (map : JobMap) (id : JobId) : Option Job := (map.get? id).map Entry.job

/-- Stores an entry under its job's name. -/
def insert (map : JobMap) (entry : Entry) : JobMap :=
  ⟨putEntry entry map.entries, nodup_putEntry map.distinct⟩

/-- The number of stored jobs. -/
def size (map : JobMap) : Nat := map.entries.length

/-- Merges a report into the entry of its job. -/
def merge (map : JobMap) (report : Report) : JobMap × Outcome :=
  match report.mergeInto (map.get? report.patch.id) with
  | (some entry, outcome) => (map.insert entry, outcome)
  | (none, outcome) => (map, outcome)

/-- Merges reports one after the other, and gives the outcome of each. -/
def mergeAll (map : JobMap) : List Report → JobMap × List Outcome
  | [] => (map, [])
  | report :: rest =>
      let merged := map.merge report
      let behind := mergeAll merged.1 rest
      (behind.1, merged.2 :: behind.2)

@[simp] theorem get?_empty (id : JobId) : empty.get? id = none := rfl

/-- An inserted entry is found under its own name, and nothing else changes. -/
@[simp] theorem get?_insert (map : JobMap) (entry : Entry) (id : JobId) :
    (map.insert entry).get? id = if entry.id = id then some entry else map.get? id :=
  find?_putEntry entry map.entries id

theorem id_of_get? {map : JobMap} {id : JobId} {entry : Entry} (found : map.get? id = some entry) :
    entry.id = id := by
  simpa using List.find?_some found

end JobMap

end LiveJobs
