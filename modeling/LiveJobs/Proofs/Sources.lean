import LiveJobs.Session

/-!
# What the sources do to a store

A store has three ways to merge what answers a request. They differ in what they say to
subscribers and in what they do to the displayed page; to the jobs all of them merge a list of
reports, under the sequence that was drawn for the request. The polls do nothing else to a store
than draw for requests and merge answers, and the streams draw and merge at once.
-/

namespace LiveJobs

open LiveJobs.Time

/-! ## Answers -/

/-- What answers a request, by the write that merges it. -/
inductive Answer where
  | one (patch : Patch) (origin : Origin)
  | many (patches : List Patch) (origin : Origin)
  | page (query : Query) (listed : Page) (observedAt : Instant)

namespace Store

variable {α : Type}

@[simp] theorem commit_jobs (store : Store) (write : Write α) :
    (store.commit write).snapshot.jobs = write.snapshot.jobs := by
  simp only [commit]
  split
  · rfl
  · rfl

@[simp] theorem commit_clock (store : Store) (write : Write α) :
    (store.commit write).clock = store.clock := by
  simp only [commit]
  split
  · rfl
  · rfl

@[simp] theorem pin_jobs (store : Store) (id : JobId) :
    (store.pin id).1.snapshot.jobs = store.snapshot.jobs := by
  refine (store.commit_jobs _).trans ?_
  unfold Snapshot.pin
  split
  · rfl
  · rfl

@[simp] theorem unpin_jobs (store : Store) (id : JobId) :
    (store.unpin id).1.snapshot.jobs = store.snapshot.jobs :=
  store.commit_jobs _

end Store

namespace Answer

/-- Merges an answer under the sequence of its request. -/
def merge (sequence : Sequence) (store : Store) : Answer → Store
  | .one patch origin => (store.apply ⟨patch, origin, sequence⟩).1
  | .many patches origin => (store.applyAll patches origin sequence).1
  | .page query listed observedAt => (store.applyPage query listed sequence observedAt).1

/-- The reports that an answer makes. -/
def reports (sequence : Sequence) : Answer → List Report
  | .one patch origin => [⟨patch, origin, sequence⟩]
  | .many patches origin => patches.map fun patch => ⟨patch, origin, sequence⟩
  | .page _ listed observedAt => Snapshot.pageReports listed sequence observedAt

variable {answer : Answer} {sequence : Sequence}

theorem sequence_of_mem_reports {report : Report} (member : report ∈ answer.reports sequence) :
    report.sequence = sequence := by
  cases answer with
  | one patch origin =>
      rw [reports, List.mem_singleton] at member
      rw [member]
  | many patches origin =>
      rw [reports, List.mem_map] at member
      obtain ⟨patch, -, rfl⟩ := member
      rfl
  | page query listed observedAt =>
      rw [reports, Snapshot.pageReports, List.mem_map] at member
      obtain ⟨job, -, rfl⟩ := member
      rfl

/-- Whatever write merges them, the jobs change by the reports alone. -/
theorem jobs_merge (answer : Answer) (sequence : Sequence) (store : Store) :
    (answer.merge sequence store).snapshot.jobs =
      (store.snapshot.jobs.mergeAll (answer.reports sequence)).1 := by
  cases answer with
  | one patch origin => exact store.commit_jobs _
  | many patches origin => exact store.commit_jobs _
  | page query listed observedAt =>
      refine (store.commit_jobs _).trans ?_
      simp only [Snapshot.adoptPage]
      split
      · rfl
      · rfl

@[simp] theorem clock_merge (answer : Answer) (sequence : Sequence) (store : Store) :
    (answer.merge sequence store).clock = store.clock := by
  cases answer with
  | one patch origin => exact store.commit_clock _
  | many patches origin => exact store.commit_clock _
  | page query listed observedAt => exact store.commit_clock _

end Answer

/-! ## Polls and streams -/

/-- What a source does to a store unless it is answered: nothing, or it draws for a request that it
issues. -/
def Asks (asking : Sequence → Prop) (before after : Store) : Prop :=
  after = before ∨ after = before.draw.1 ∧ asking before.draw.2

/-- What a source does to a store when a request is answered: nothing, or it merges the answer under
the sequence of the request. -/
def TakesUp (asking : Sequence → Prop) (before after : Store) : Prop :=
  after = before ∨ ∃ request answer, asking request ∧ after = Answer.merge request before answer

namespace SinglePoll

variable (poll : SinglePoll) (job : JobId) (now : Nat) (store : Store)

theorem asks_turn :
    Asks (fun request => (poll.turn job now store).1 = .asking request) store
      (poll.turn job now store).2.1 := by
  cases poll with
  | asking sequence => exact .inl rfl
  | stopped => exact .inl rfl
  | resting dueAt =>
      simp only [turn, check]
      split
      · split
        · exact .inl rfl
        · exact .inr ⟨rfl, rfl⟩
      · exact .inl rfl

theorem takesUp_accept (wall : Instant) (answer : Except Fault Job) :
    TakesUp (fun request => poll = .asking request) store
      (poll.accept job now wall answer store).2 := by
  cases poll with
  | resting dueAt => exact .inl rfl
  | stopped => exact .inl rfl
  | asking request =>
      cases answer with
      | error fault => exact .inl rfl
      | ok record => exact .inr ⟨request, .one (.ofJob record wall) .singlePoll, rfl, rfl⟩

end SinglePoll

namespace ActivePoll

variable (poll : ActivePoll) (now : Nat) (store : Store)

theorem asks_turn :
    Asks (fun request => (poll.turn now store).1.phase = .asking request) store
      (poll.turn now store).2.1 := by
  simp only [turn]
  split
  · exact .inr ⟨rfl, rfl⟩
  · split
    · exact .inr ⟨rfl, rfl⟩
    · exact .inl rfl
  all_goals exact .inl rfl

theorem takesUp_accept (wall : Instant) (answer : Except Fault Page) :
    TakesUp (fun request => poll.phase = .asking request) store
      (poll.accept now wall answer store).2 := by
  simp only [accept]
  split
  next request asking =>
    cases answer with
    | error fault => exact .inl rfl
    | ok page =>
        exact .inr ⟨request, .many (page.items.map fun job => .ofJob job wall) .bulkPoll,
          asking, rfl⟩
  all_goals exact .inl rfl

end ActivePoll

namespace BulkPoll

variable (poll : BulkPoll) (first : Precedence) (now : Nat) (store : Store)

/-- Whether a request of the poll of the page is under way. -/
def IsAsking (poll : BulkPoll) (request : Sequence) : Prop :=
  ∃ query, poll.phase = .asking query request

theorem asks_askOrPark :
    Asks (poll.askOrPark store).1.IsAsking store (poll.askOrPark store).2.1 := by
  simp only [askOrPark]
  split
  · exact .inr ⟨rfl, poll.query, rfl⟩
  · exact .inl rfl

theorem asks_watch :
    Asks (poll.watch first now store).1.IsAsking store (poll.watch first now store).2.1 := by
  simp only [watch]
  split
  · exact asks_askOrPark _ store
  · split
    · exact asks_askOrPark _ store
    · split
      · exact .inl rfl
      · exact .inl rfl

theorem asks_resume :
    Asks (poll.resume first now store).1.IsAsking store (poll.resume first now store).2.1 := by
  simp only [resume]
  split
  · exact asks_watch _ first now store
  · exact .inl rfl

theorem asks_turn :
    Asks (poll.turn first now store).1.IsAsking store (poll.turn first now store).2.1 := by
  simp only [turn]
  split
  · split
    · exact .inl rfl
    · exact asks_resume _ first now store
  · simp only [awaitMount]
    split
    · exact asks_watch _ first now store
    · split
      · exact .inl rfl
      · exact .inl rfl
  · exact asks_watch poll first now store
  all_goals exact .inl rfl

/-- The poll of the page takes up an answer and may ask again at once. -/
theorem takesUp_accept (wall : Instant) (answer : Except Fault Page) :
    ∃ merged, TakesUp poll.IsAsking store merged ∧
      Asks (poll.accept first now wall answer store).1.IsAsking merged
        (poll.accept first now wall answer store).2.1 := by
  simp only [accept]
  split
  next query request asking =>
    refine ⟨merge query request wall answer store, ?_, asks_resume poll first now _⟩
    cases answer with
    | error fault => exact .inl rfl
    | ok page => exact .inr ⟨request, .page query page wall, ⟨query, asking⟩, rfl⟩
  all_goals exact ⟨store, .inl rfl, .inl rfl⟩

end BulkPoll

/-- An event draws its sequence first and is merged at once. One that cannot be routed is merged
like one that reports nothing. -/
theorem Session.store_receive (session : Session) (channel : Channel) (wall : Instant)
    (event : Event) :
    (session.receive channel wall event).store =
      (Answer.many ((event.patches channel wall).toOption.getD []) .stream).merge
        session.store.draw.2 session.store.draw.1 := by
  rw [receive]
  cases event.patches channel wall with
  | error => rfl
  | ok patches =>
      cases patches with
      | nil => rfl
      | cons patch rest => rfl

end LiveJobs
