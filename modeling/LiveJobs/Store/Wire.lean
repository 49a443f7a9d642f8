import LiveJobs.Job.Wire
import LiveJobs.Store.Basic

/-!
# Wire forms of the store

How outcomes, entries and views are written as JSON values.
-/

namespace LiveJobs

open LiveJobs.Json

/-- An outcome as a word, or as an object that says more. -/
def Outcome.toJson : Outcome → Json
  | .created => .str "created"
  | .unchanged => .str "unchanged"
  | .updated fields => .obj [("updated", .arr (fields.map fun field => .str field.name))]
  | .rejected status => .obj [("rejected", status.toJson)]

/-- The stamps that are not zero, by field. -/
def Stamps.toJson (stamps : Stamps) : Json :=
  .obj (Field.all.filterMap fun field =>
    if stamps.get field = 0 then none else some (field.name, ofNat (stamps.get field)))

def Entry.toJson (entry : Entry) : Json :=
  .obj [("job", entry.job.toJson), ("stamps", entry.stamps.toJson),
    ("lastOrigin", entry.lastOrigin.toJson), ("lastSequence", ofNat entry.lastSequence)]

def PageState.toJson (page : PageState) : Json :=
  .obj [("ids", .arr (page.ids.map JobId.toJson)), ("total", ofNat page.total),
    ("totalPages", ofNat page.totalPages), ("page", ofNat page.page),
    ("pageSize", ofNat page.pageSize), ("sequence", ofNat page.sequence)]

def ListView.toJson (view : ListView) : Json :=
  .obj [("items", .arr (view.items.map Job.toJson)), ("total", ofNat view.total),
    ("totalPages", ofNat view.totalPages)]

/-- The entries, sorted by the names of their jobs. -/
def Store.sortedEntries (store : Store) : List Entry :=
  store.snapshot.jobs.entries.mergeSort fun left right => left.id.text ≤ right.id.text

end LiveJobs
