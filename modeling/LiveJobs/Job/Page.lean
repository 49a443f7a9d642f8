import LiveJobs.Job.Basic

/-!
# Pages of the job list

The list of jobs is asked for in pages, which are counted from one.
-/

namespace LiveJobs

/-- Which page of the job list is asked for, and which jobs it is restricted to. -/
structure Query where
  page : Nat
  pageSize : Nat
  jobType : Option JobType
  status : Option Status
  deriving DecidableEq, Repr, Inhabited

/-- A page without restriction. Page zero is the first page. -/
def Query.ofPage (page pageSize : Nat) : Query := ⟨max page 1, pageSize, none, none⟩

/-- The first page of the running jobs. -/
def Query.running (pageSize : Nat) : Query :=
  { Query.ofPage 1 pageSize with status := some .running }

/-- The first page of twenty jobs. -/
def Query.standard : Query := Query.ofPage 1 20

/-- One page of the job list, with the size of the whole list. -/
structure Page where
  items : List Job
  total : Nat
  totalPages : Nat
  deriving BEq, Repr, Inhabited

def Page.empty : Page := ⟨[], 0, 0⟩

end LiveJobs
