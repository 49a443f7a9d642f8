import LiveJobs.Job.Page
import LiveJobs.Merge.JobMap

/-!
# Snapshots

One consistent view of every known job: the records, the page of the job list that is displayed,
and the jobs that are pinned to its top. A snapshot is replaced whole by every write; its version
counts the writes that can be seen.
-/

namespace LiveJobs

open LiveJobs.Text LiveJobs.Time

/-- The page of the job list that is displayed. -/
structure PageState where
  /-- The names of its jobs in the server's order. -/
  ids : List JobId
  total : Nat
  totalPages : Nat
  page : Nat
  pageSize : Nat
  /-- The sequence of the answer that the page came from. -/
  sequence : Sequence
  deriving DecidableEq, Repr, Inhabited

namespace PageState

/-- No page has been displayed yet. -/
def initial : PageState := ⟨[], 0, 0, 0, 0, 0⟩

/-- The state that an answer to a query gives. -/
def ofPage (query : Query) (page : Page) (sequence : Sequence) : PageState where
  ids := page.items.map Job.id
  total := page.total
  totalPages := page.totalPages
  page := query.page
  pageSize := query.pageSize
  sequence := sequence

/-- Whether two pages look the same; the sequence is not shown. -/
def looksLike (left right : PageState) : Bool :=
  { left with sequence := right.sequence } == right

end PageState

/-- A consistent view of all jobs. -/
structure Snapshot where
  version : Nat
  jobs : JobMap
  page : PageState
  /-- The pinned jobs, the latest pin first. -/
  pinned : List JobId

/-- The job list as it is shown. -/
structure ListView where
  items : List Job
  total : Nat
  totalPages : Nat

namespace Snapshot

def initial : Snapshot := ⟨0, .empty, .initial, []⟩

/-- The record of a job. -/
def job? (snapshot : Snapshot) (id : JobId) : Option Job := snapshot.jobs.job? id

/-- The pinned jobs that are known but not on the page. -/
def prepended (snapshot : Snapshot) : List Job :=
  (snapshot.pinned.filter fun id => !snapshot.page.ids.contains id).filterMap snapshot.job?

/-- The page with pinned jobs in front if they are not on it. The total counts them too, within
64 bits. -/
def view (snapshot : Snapshot) : ListView where
  items := snapshot.prepended ++ snapshot.page.ids.filterMap snapshot.job?
  total := (snapshot.page.total + snapshot.prepended.length) % (maxWord64 + 1)
  totalPages := snapshot.page.totalPages

/-- A number of milliseconds below 2^64 in 64 bits with a sign. -/
def signedMillis (millis : Nat) : Int := Int.bmod millis (maxWord64 + 1)

/-- Whether a job belongs to the active set: it has not ended, or has ended only a while ago. -/
def isShownActive (now : Instant) (retention : Nat) (job : Job) : Bool :=
  job.isActive ||
    job.timestamps.completed.any fun completed =>
      now.nanosSince completed < signedMillis retention * nanosPerMilli

/-- Whether a job is listed before another: the later creation first, then by name. -/
def listedBefore (left right : Job) : Bool :=
  if right.timestamps.created.before left.timestamps.created then true
  else if left.timestamps.created.before right.timestamps.created then false
  else left.id.text ≤ right.id.text

/-- The active jobs, newest first. Jobs that have ended stay for the retention time, in
milliseconds, so that their end can be seen. -/
def activeJobs (snapshot : Snapshot) (now : Instant) (retention : Nat) : List Job :=
  ((snapshot.jobs.entries.map Entry.job).filter (isShownActive now retention)).mergeSort
    listedBefore

end Snapshot

end LiveJobs
