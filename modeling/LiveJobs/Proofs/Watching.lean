import LiveJobs.Proofs.IdlePoll
import LiveJobs.Proofs.ListView

/-!
# Following jobs

To follow a job is to pin it in the store and to start a poll for it, and to leave it takes both
back, each apart from the other. A poll that is told to stop may be waiting, or have a request under
way, and may go on for a while before it takes notice. And a poll stops by itself once its job has
ended, without anybody being told.

So three things are kept apart here: the pins, the polls that were not told to stop, and what each
poll does. The first two belong to the same jobs at any time, because the calls change both and
nothing else changes either; that is `Session.Matched`. What a poll does is followed by its place
among the polls, which it never leaves, and what may become of it there is `Watcher.Becomes`.
-/

namespace LiveJobs

open LiveJobs.Time

namespace Session

/-- Tells the polls of a job to stop. -/
def Watcher.tell (job : JobId) (watcher : Watcher) : Watcher :=
  if watcher.job = job then { watcher with dismissed := true } else watcher

/-- Stops a poll if it was told to. -/
def Watcher.heed (watcher : Watcher) : Watcher :=
  if watcher.dismissed then { watcher with poll := .stopped } else watcher

/-- What can happen in a session, where a poll that is told to stop may take its time. -/
inductive Move where
  | happened (happening : Happening)
  /-- A job is no longer followed, and its polls are told to stop. -/
  | told (job : JobId)
  /-- A poll that was told to stop does so. -/
  | heeded (index : Nat)

namespace Move

/-- The job that somebody asks to follow. -/
def follows? : Move → Option JobId
  | .happened (.watched job _) => some job
  | _ => none

/-- The job that is no longer followed. -/
def leaves? : Move → Option JobId
  | .happened (.unwatched job) => some job
  | .told job => some job
  | _ => none

end Move

/-- Takes the pin off a job, and tells its polls to stop. -/
def tell (session : Session) (job : JobId) : Session :=
  { session with
    store := (session.store.unpin job).1
    watchers := session.watchers.map (Watcher.tell job) }

/-- Stops the poll at a place if it was told to. -/
def heed (session : Session) (index : Nat) : Session :=
  { session with watchers := session.watchers.modify index Watcher.heed }

/-- What a move makes of a session. -/
def move (session : Session) : Move → Session
  | .happened happening => session.happen happening
  | .told job => session.tell job
  | .heeded index => session.heed index

/-- What moves make of a session. -/
def proceed (session : Session) (moves : List Move) : Session := moves.foldl move session

/-- What the poll at a place calls by a move. -/
def call? (session : Session) : Move → Option (Nat × Call)
  | .happened (.watcherTurned index now) =>
      session.watchers[index]?.bind fun watcher =>
        (watcher.poll.turn watcher.job now session.store).2.2.map (index, ·)
  | _ => none

/-- All that the polls of single jobs call in the course of some moves. -/
def calls (session : Session) : List Move → List (Nat × Call)
  | [] => []
  | move :: rest => (session.call? move).toList ++ (session.move move).calls rest

variable {session : Session}

theorem proceed_cons (session : Session) (move : Move) (rest : List Move) :
    session.proceed (move :: rest) = (session.move move).proceed rest := rfl

/-! ## What a move touches -/

/-- Everything that a move can do to the polls of single jobs. -/
inductive Shifts (session : Session) : Move → List Watcher → Prop where
  | still {move : Move} (stays : move.leaves? = none) : session.Shifts move session.watchers
  | turns {index : Nat} {watcher : Watcher} (found : session.watchers[index]? = some watcher)
      (now : Nat) :
      session.Shifts (.happened (.watcherTurned index now)) (session.watchers.set index
        { watcher with poll := (watcher.poll.turn watcher.job now session.store).1 })
  | accepts {index : Nat} {watcher : Watcher} (found : session.watchers[index]? = some watcher)
      (now : Nat) (wall : Instant) (answer : Except Fault Job) :
      session.Shifts (.happened (.watcherAnswered index now wall answer))
        (session.watchers.set index
          { watcher with
            poll := (watcher.poll.accept watcher.job now wall answer session.store).1 })
  | heeds (index : Nat) :
      session.Shifts (.heeded index) (session.watchers.modify index Watcher.heed)
  | joins (job : JobId) (now : Nat) :
      session.Shifts (.happened (.watched job now))
        (session.watchers ++ [⟨job, .start now, false⟩])
  | dismisses (job : JobId) :
      session.Shifts (.happened (.unwatched job)) (session.watchers.map (Watcher.dismiss job))
  | tells (job : JobId) : session.Shifts (.told job) (session.watchers.map (Watcher.tell job))
  | ceases :
      session.Shifts (.happened .shutDown)
        (session.watchers.map fun watcher => { watcher with poll := .stopped })

theorem shifts_move (session : Session) (move : Move) :
    session.Shifts move (session.move move).watchers := by
  cases move with
  | told job => exact .tells job
  | heeded index => exact .heeds index
  | happened happening =>
      cases happening with
      | received channel wall event =>
          simp only [Session.move, happen, receive]
          split
          · exact .still rfl
          · exact .still rfl
          · exact .still rfl
      | watcherTurned index now =>
          simp only [Session.move, happen]
          split
          · exact .still rfl
          next watcher found => exact .turns found now
      | watcherAnswered index now wall answer =>
          simp only [Session.move, happen]
          split
          · exact .still rfl
          next watcher found => exact .accepts found now wall answer
      | watched job now =>
          simp only [Session.move, happen, watch]
          split
          · exact .still rfl
          · exact .joins job now
      | unwatched job => exact .dismisses job
      | cancelBegun job =>
          simp only [Session.move, happen, beginCancel]
          cases session.cancellations.begin session.store job with
          | error error => exact .still rfl
          | ok begun => exact .still rfl
      | shutDown => exact .ceases
      | _ => exact .still rfl

end Session

namespace Store

variable {asking : Sequence → Prop} {before after : Store}

theorem pinned_of_asks (asks : Asks asking before after) :
    after.snapshot.pinned = before.snapshot.pinned := by
  rcases asks with rfl | ⟨rfl, -⟩
  · rfl
  · rfl

theorem pinned_of_takesUp (takesUp : TakesUp asking before after) :
    after.snapshot.pinned = before.snapshot.pinned := by
  rcases takesUp with rfl | ⟨request, answer, -, rfl⟩
  · rfl
  · exact before.pinned_perform_merge request answer

end Store

namespace Session

variable {session : Session} {move : Move}

/-- Nothing but the calls that follow or leave a job touches the pins. -/
theorem pinned_move_of_still (session : Session) (still : move.follows? = none)
    (stays : move.leaves? = none) :
    (session.move move).store.snapshot.pinned = session.store.snapshot.pinned := by
  cases move with
  | told job => cases stays
  | heeded index => rfl
  | happened happening =>
      cases happening with
      | watched job now => cases still
      | unwatched job => cases stays
      | received channel wall event =>
          simp only [Session.move, happen, store_receive]
          exact session.store.draw.1.pinned_perform_merge _ _
      | activeTurned now =>
          exact Store.pinned_of_asks (session.active.asks_turn now session.store)
      | activeAnswered now wall answer =>
          exact Store.pinned_of_takesUp
            (session.active.takesUp_accept now session.store wall answer)
      | bulkTurned first now =>
          exact Store.pinned_of_asks (session.bulk.asks_turn first now session.store)
      | bulkAnswered first now wall answer =>
          obtain ⟨merged, takesUp, asks⟩ :=
            session.bulk.takesUp_accept first now session.store wall answer
          exact (Store.pinned_of_asks asks).trans (Store.pinned_of_takesUp takesUp)
      | watcherTurned index now =>
          simp only [Session.move, happen]
          split
          · rfl
          · exact Store.pinned_of_asks (SinglePoll.asks_turn _ _ now session.store)
      | watcherAnswered index now wall answer =>
          simp only [Session.move, happen]
          split
          · rfl
          · exact Store.pinned_of_takesUp
              (SinglePoll.takesUp_accept _ _ now session.store wall answer)
      | cancelBegun job =>
          simp only [Session.move, happen, beginCancel]
          cases session.cancellations.begin session.store job with
          | error error => rfl
          | ok begun => rfl
      | applied report =>
          exact session.store.pinned_perform_merge report.sequence
            (.one report.patch report.origin)
      | _ => rfl

theorem pinned_watch (session : Session) (job : JobId) (now : Nat) :
    (session.watch job now).store.snapshot.pinned =
      if job ∈ session.store.snapshot.pinned then session.store.snapshot.pinned
      else job :: session.store.snapshot.pinned := by
  have stores : (session.watch job now).store = (session.store.pin job).1 := by
    unfold watch
    split
    · rfl
    · rfl
  rw [stores]
  exact session.store.pinned_perform_pin job

theorem Move.eq_of_follows {id : JobId} (follows : move.follows? = some id) :
    ∃ now, move = .happened (.watched id now) := by
  cases move with
  | happened happening =>
      cases happening with
      | watched job now =>
          cases follows
          exact ⟨now, rfl⟩
      | _ => cases follows
  | told job => cases follows
  | heeded index => cases follows

theorem Move.eq_of_leaves {id : JobId} (leaves : move.leaves? = some id) :
    move = .happened (.unwatched id) ∨ move = .told id := by
  cases move with
  | happened happening =>
      cases happening with
      | unwatched job =>
          cases leaves
          exact .inl rfl
      | _ => cases leaves
  | told job =>
      cases leaves
      exact .inr rfl
  | heeded index => cases leaves

/-- Both calls that leave a job take its pin off. -/
theorem pinned_move_of_leaves {id : JobId} (session : Session) (leaves : move.leaves? = some id) :
    (session.move move).store.snapshot.pinned =
      session.store.snapshot.pinned.filter fun pinned => pinned ≠ id := by
  rcases Move.eq_of_leaves leaves with rfl | rfl
  · exact session.store.pinned_perform_unpin id
  · exact session.store.pinned_perform_unpin id

/-! ## Pins and polls go together -/

/-- The jobs of the polls, with whether each was told to stop. -/
def roster (session : Session) : List (JobId × Bool) :=
  session.watchers.map fun watcher => (watcher.job, watcher.dismissed)

/-- The number of polls of a job that were not told to stop. -/
def followers (session : Session) (job : JobId) : Nat :=
  session.watchers.countP fun watcher => watcher.job = job && !watcher.dismissed

theorem followers_eq (session : Session) (job : JobId) :
    session.followers job = session.roster.countP fun entry => entry.1 = job && !entry.2 := by
  rw [roster, List.countP_map]
  rfl

theorem roster_set {index : Nat} {watcher : Watcher}
    (found : session.watchers[index]? = some watcher) (poll : SinglePoll) :
    ((session.watchers.set index { watcher with poll := poll }).map fun watcher =>
      (watcher.job, watcher.dismissed)) = session.roster := by
  apply List.ext_getElem?
  intro place
  rw [List.getElem?_map, List.getElem?_set, roster, List.getElem?_map]
  split
  next same =>
    subst same
    split
    · rw [found]
      rfl
    · rw [List.getElem?_eq_none (by omega)]
  next => rfl

theorem roster_move_of_still (session : Session) (still : move.follows? = none)
    (stays : move.leaves? = none) : (session.move move).roster = session.roster := by
  have shifts := session.shifts_move move
  rw [roster]
  generalize (session.move move).watchers = watchers at shifts
  cases shifts with
  | still => rfl
  | turns found now => exact roster_set found _
  | accepts found now wall answer => exact roster_set found _
  | heeds index =>
      apply List.ext_getElem?
      intro place
      rw [List.getElem?_map, List.getElem?_modify, roster, List.getElem?_map]
      cases session.watchers[place]? with
      | none => rfl
      | some watcher =>
          by_cases here : index = place
          · by_cases dismissed : watcher.dismissed = true <;> simp [Watcher.heed, here, dismissed]
          · simp [here]
  | joins job now => cases still
  | dismisses job => cases stays
  | tells job => cases stays
  | ceases => simp [roster]

theorem isWatched_iff {job : JobId} : session.isWatched job = true ↔ 0 < session.followers job := by
  rw [isWatched, List.any_eq_true, followers, List.countP_pos_iff]

/-- Whether the followed jobs are the pinned ones, each with one poll that was not told to stop. -/
def Matched (session : Session) : Prop :=
  ∀ id, session.followers id = if id ∈ session.store.snapshot.pinned then 1 else 0

namespace Matched

theorem start (settings : Settings) (channels : List Channel) (now : Nat) :
    (start settings channels now).Matched := fun _ => rfl

/-- A job is followed exactly if it is pinned. -/
theorem isWatched_iff (matched : session.Matched) {id : JobId} :
    session.isWatched id = true ↔ id ∈ session.store.snapshot.pinned := by
  rw [Session.isWatched_iff, matched id]
  split
  next pinned => simp [pinned]
  next free => simp [free]

theorem watch (matched : session.Matched) (job : JobId) (now : Nat) :
    (session.watch job now).Matched := by
  intro id
  have before := matched id
  rw [pinned_watch]
  by_cases watched : session.isWatched job = true
  · have same : (session.watch job now).followers id = session.followers id := by
      simp only [Session.watch, watched, if_true]
      rfl
    rw [same, before, if_pos (matched.isWatched_iff.1 watched)]
  · have free : job ∉ session.store.snapshot.pinned := fun pinned =>
      watched (matched.isWatched_iff.2 pinned)
    have more : (session.watch job now).followers id =
        session.followers id + if job = id then 1 else 0 := by
      simp [Session.watch, watched, followers, List.countP_append]
    rw [more, before, if_neg free]
    by_cases same : job = id
    · subst same
      simp [free]
    · simp [same, Ne.symm same]

/-- A job that is left has neither a pin nor a poll that was not told to stop. -/
theorem leave {next : Session} {job : JobId} (matched : session.Matched)
    (unpinned : next.store.snapshot.pinned =
      session.store.snapshot.pinned.filter fun pinned => pinned ≠ job)
    (told : next.roster = session.roster.map fun entry =>
      (entry.1, entry.2 || decide (entry.1 = job))) : next.Matched := by
  intro id
  have before := matched id
  rw [followers_eq] at before
  rw [followers_eq, told, List.countP_map, unpinned]
  by_cases same : id = job
  · subst same
    have nobody : id ∉ session.store.snapshot.pinned.filter fun pinned => pinned ≠ id := by simp
    rw [if_neg nobody, List.countP_eq_zero]
    intro entry _
    by_cases named : entry.1 = id <;> simp [named]
  · have others : id ∈ (session.store.snapshot.pinned.filter fun pinned => pinned ≠ job) ↔
        id ∈ session.store.snapshot.pinned := by simp [same]
    simp only [others, ← before]
    refine List.countP_congr fun entry _ => ?_
    by_cases named : entry.1 = id
    · simp [named, same]
    · simp [named]

end Matched

/-- Both calls that leave a job tell its polls to stop. -/
theorem roster_move_of_leaves {id : JobId} (session : Session) (leaves : move.leaves? = some id) :
    (session.move move).roster = session.roster.map fun entry =>
      (entry.1, entry.2 || decide (entry.1 = id)) := by
  rcases Move.eq_of_leaves leaves with rfl | rfl
  · simp only [Session.move, happen, unwatch, roster, List.map_map]
    refine List.map_congr_left fun watcher _ => ?_
    by_cases named : watcher.job = id <;> simp [Watcher.dismiss, named]
  · simp only [Session.move, tell, roster, List.map_map]
    refine List.map_congr_left fun watcher _ => ?_
    by_cases named : watcher.job = id <;> simp [Watcher.tell, named]

theorem matched_move (matched : session.Matched) (move : Move) :
    (session.move move).Matched := by
  cases follows : move.follows? with
  | some id =>
      obtain ⟨now, rfl⟩ := Move.eq_of_follows follows
      exact matched.watch id now
  | none =>
      cases leaves : move.leaves? with
      | some id =>
          exact matched.leave (session.pinned_move_of_leaves leaves)
            (session.roster_move_of_leaves leaves)
      | none =>
          intro id
          rw [followers_eq, session.roster_move_of_still follows leaves, ← followers_eq,
            session.pinned_move_of_still follows leaves]
          exact matched id

theorem matched_proceed (matched : session.Matched) (moves : List Move) :
    (session.proceed moves).Matched := by
  induction moves generalizing session with
  | nil => exact matched
  | cons move rest ih => exact ih (matched_move matched move)

/-! ## What is pinned -/

/-- Whether somebody has asked to follow a job, and it was not left since. -/
def FollowedIn (moves : List Move) (id : JobId) : Prop :=
  ∃ before move after, moves = before ++ move :: after ∧ move.follows? = some id ∧
    ∀ later ∈ after, later.leaves? ≠ some id

theorem not_followedIn_nil (id : JobId) : ¬ FollowedIn [] id := by
  rintro ⟨before, move, after, whole, -⟩
  cases before with
  | nil => cases whole
  | cons => cases whole

theorem followedIn_cons {rest : List Move} {id : JobId} : FollowedIn (move :: rest) id ↔
    (move.follows? = some id ∧ ∀ later ∈ rest, later.leaves? ≠ some id) ∨ FollowedIn rest id := by
  constructor
  · rintro ⟨before, step, after, whole, follows, stays⟩
    cases before with
    | nil =>
        cases whole
        exact .inl ⟨follows, stays⟩
    | cons first others =>
        cases whole
        exact .inr ⟨others, step, after, rfl, follows, stays⟩
  · rintro (⟨follows, stays⟩ | ⟨before, step, after, rfl, follows, stays⟩)
    · exact ⟨[], move, rest, rfl, follows, stays⟩
    · exact ⟨move :: before, step, after, rfl, follows, stays⟩

theorem mem_pinned_move_iff (session : Session) (move : Move) (id : JobId) :
    id ∈ (session.move move).store.snapshot.pinned ↔
      move.follows? = some id ∨
        id ∈ session.store.snapshot.pinned ∧ move.leaves? ≠ some id := by
  cases follows : move.follows? with
  | some job =>
      obtain ⟨now, rfl⟩ := Move.eq_of_follows follows
      simp only [Session.move, happen, pinned_watch, Move.leaves?]
      split
      next known =>
        simp only [Option.some.injEq, ne_eq, reduceCtorEq, not_false_eq_true, and_true]
        exact ⟨.inr, fun either => either.elim (fun same => same ▸ known) fun known => known⟩
      next => simp [@eq_comm _ job id]
  | none =>
      cases leaves : move.leaves? with
      | some job =>
          rw [session.pinned_move_of_leaves leaves]
          simp [@eq_comm _ job id]
      | none => simp [session.pinned_move_of_still follows leaves]

theorem mem_pinned_proceed_iff (session : Session) (moves : List Move) (id : JobId) :
    id ∈ (session.proceed moves).store.snapshot.pinned ↔
      FollowedIn moves id ∨
        id ∈ session.store.snapshot.pinned ∧ ∀ move ∈ moves, move.leaves? ≠ some id := by
  induction moves generalizing session with
  | nil => simp [not_followedIn_nil, proceed]
  | cons move rest ih =>
      rw [proceed_cons, ih, mem_pinned_move_iff, followedIn_cons, List.forall_mem_cons]
      tauto

/-! ## Each poll at its place -/

end Session

/-- What may become of a poll in the course of time: it stays that of its job, and neither a stop
nor the call for it is ever taken back. -/
structure Watcher.Becomes (before after : Watcher) : Prop where
  job : after.job = before.job
  dismissed : before.dismissed = true → after.dismissed = true
  stopped : before.poll = .stopped → after.poll = .stopped

namespace Watcher.Becomes

theorem refl (watcher : Watcher) : watcher.Becomes watcher := ⟨rfl, id, id⟩

theorem trans {first second third : Watcher} (earlier : first.Becomes second)
    (later : second.Becomes third) : first.Becomes third where
  job := later.job.trans earlier.job
  dismissed := later.dismissed ∘ earlier.dismissed
  stopped := later.stopped ∘ earlier.stopped

variable (watcher : Watcher) (job : JobId)

theorem withPoll {poll : SinglePoll} (stays : watcher.poll = .stopped → poll = .stopped) :
    watcher.Becomes { watcher with poll := poll } := ⟨rfl, id, stays⟩

theorem dismiss : watcher.Becomes (Session.Watcher.dismiss job watcher) := by
  unfold Session.Watcher.dismiss
  split
  · exact ⟨rfl, fun _ => rfl, fun _ => rfl⟩
  · exact .refl watcher

theorem tell : watcher.Becomes (Session.Watcher.tell job watcher) := by
  unfold Session.Watcher.tell
  split
  · exact ⟨rfl, fun _ => rfl, id⟩
  · exact .refl watcher

theorem heed : watcher.Becomes (Session.Watcher.heed watcher) := by
  unfold Session.Watcher.heed
  split
  · exact .withPoll watcher fun _ => rfl
  · exact .refl watcher

end Watcher.Becomes

theorem JobMap.Leads.keeps {before after : JobMap} (leads : before.Leads after) {id : JobId}
    (stored : before.job? id ≠ none) : after.job? id ≠ none := by
  obtain ⟨reports, rfl⟩ := leads
  obtain ⟨record, known⟩ := Option.ne_none_iff_exists'.1 stored
  obtain ⟨entry, found, -⟩ := Option.map_eq_some_iff.1 known
  obtain ⟨last, kept, -⟩ := JobMap.run_of_get? found reports
  rw [job?, kept]
  exact Option.some_ne_none _

namespace Session

variable {session : Session} {move : Move} {index : Nat} {watcher : Watcher}

theorem becomes_move (found : session.watchers[index]? = some watcher) (move : Move) :
    ∃ next, (session.move move).watchers[index]? = some next ∧ watcher.Becomes next := by
  have shifts := session.shifts_move move
  generalize (session.move move).watchers = watchers at shifts ⊢
  have put {place : Nat} {other : Watcher} (there : session.watchers[place]? = some other)
      {poll : SinglePoll} (stays : other.poll = .stopped → poll = .stopped) :
      ∃ next, (session.watchers.set place { other with poll := poll })[index]? = some next ∧
        watcher.Becomes next := by
    by_cases same : place = index
    · subst same
      cases there.symm.trans found
      rw [List.getElem?_set_self (List.getElem?_eq_some_iff.1 found).1]
      exact ⟨_, rfl, .withPoll watcher stays⟩
    · rw [List.getElem?_set_ne same]
      exact ⟨watcher, found, .refl watcher⟩
  have map {change : Watcher → Watcher} (changes : watcher.Becomes (change watcher)) :
      ∃ next, (session.watchers.map change)[index]? = some next ∧ watcher.Becomes next := by
    rw [List.getElem?_map, found]
    exact ⟨_, rfl, changes⟩
  cases shifts with
  | still => exact ⟨watcher, found, .refl watcher⟩
  | turns there now =>
      refine put there fun stopped => ?_
      rw [stopped]
      rfl
  | accepts there now wall answer =>
      refine put there fun stopped => ?_
      rw [stopped]
      rfl
  | heeds place =>
      rw [List.getElem?_modify, found]
      split
      · exact ⟨_, rfl, .heed watcher⟩
      · exact ⟨_, rfl, .refl watcher⟩
  | joins job now =>
      rw [List.getElem?_append_left (List.getElem?_eq_some_iff.1 found).1]
      exact ⟨watcher, found, .refl watcher⟩
  | dismisses job => exact map (.dismiss watcher job)
  | tells job => exact map (.tell watcher job)
  | ceases => exact map (.withPoll watcher fun _ => rfl)

theorem becomes_proceed (found : session.watchers[index]? = some watcher) (moves : List Move) :
    ∃ next, (session.proceed moves).watchers[index]? = some next ∧ watcher.Becomes next := by
  induction moves generalizing session watcher with
  | nil => exact ⟨watcher, found, .refl watcher⟩
  | cons move rest ih =>
      obtain ⟨next, there, becomes⟩ := becomes_move found move
      obtain ⟨last, reached, further⟩ := ih there
      exact ⟨last, reached, becomes.trans further⟩

theorem move_answered_of_stopped (found : session.watchers[index]? = some watcher)
    (stopped : watcher.poll = .stopped) (now : Nat) (wall : Instant) (answer : Except Fault Job) :
    session.move (.happened (.watcherAnswered index now wall answer)) = session := by
  obtain ⟨bound, rfl⟩ := List.getElem?_eq_some_iff.1 found
  have kept : session.watchers[index].poll.accept session.watchers[index].job now wall answer
      session.store = (session.watchers[index].poll, session.store) := by
    rw [stopped]
    rfl
  simp only [Session.move, happen, found, kept]
  show { session with watchers := session.watchers.set index session.watchers[index] } = session
  rw [List.set_getElem_self]

theorem turn_of_call {call : Call} (called : session.call? move = some (index, call))
    (found : session.watchers[index]? = some watcher) :
    ∃ now, move = .happened (.watcherTurned index now) ∧
      (watcher.poll.turn watcher.job now session.store).2.2 = some call := by
  unfold call? at called
  split at called
  next place now =>
    obtain ⟨other, there, calls⟩ := Option.bind_eq_some_iff.1 called
    obtain ⟨made, makes, same⟩ := Option.map_eq_some_iff.1 calls
    cases same
    cases there.symm.trans found
    exact ⟨now, rfl, makes⟩
  next => cases called

/-- A poll that has stopped calls nothing any more. -/
theorem not_mem_calls_of_stopped (found : session.watchers[index]? = some watcher)
    (stopped : watcher.poll = .stopped) (moves : List Move) (call : Call) :
    (index, call) ∉ session.calls moves := by
  induction moves generalizing session watcher with
  | nil => exact List.not_mem_nil
  | cons move rest ih =>
      obtain ⟨next, there, becomes⟩ := becomes_move found move
      rw [calls, List.mem_append, Option.mem_toList]
      rintro (here | later)
      · obtain ⟨now, -, calls⟩ := turn_of_call here found
        rw [stopped] at calls
        cases calls
      · exact ih there (becomes.stopped stopped) later

/-! ## Following a job again -/

/-- Whether a move may disturb a poll at a place that waits for its first turn: it is that turn, its
job is left, or everything is stopped. -/
def Move.disturbs (index : Nat) (job : JobId) : Move → Bool
  | .happened (.watcherTurned place _) => place = index
  | .happened (.unwatched other) => other = job
  | .happened .shutDown => true
  | .told other => other = job
  | _ => false

theorem rests_move {job : JobId} {dueAt : Nat}
    (found : session.watchers[index]? = some ⟨job, .resting dueAt, false⟩)
    (calm : move.disturbs index job = false) :
    (session.move move).watchers[index]? = some ⟨job, .resting dueAt, false⟩ := by
  have shifts := session.shifts_move move
  generalize (session.move move).watchers = watchers at shifts ⊢
  cases shifts with
  | still => exact found
  | @turns place other there now =>
      have elsewhere : place ≠ index := of_decide_eq_false calm
      rw [List.getElem?_set_ne elsewhere, found]
  | @accepts place other there now wall answer =>
      by_cases same : place = index
      · subst same
        cases there.symm.trans found
        rw [List.getElem?_set_self (List.getElem?_eq_some_iff.1 found).1]
        rfl
      · rw [List.getElem?_set_ne same, found]
  | heeds place =>
      rw [List.getElem?_modify, found]
      split
      · rfl
      · rfl
  | joins other now =>
      rw [List.getElem?_append_left (List.getElem?_eq_some_iff.1 found).1, found]
  | dismisses other =>
      have elsewhere : job ≠ other := Ne.symm (of_decide_eq_false calm)
      rw [List.getElem?_map, found, Option.map_some, Watcher.dismiss, if_neg elsewhere]
  | tells other =>
      have elsewhere : job ≠ other := Ne.symm (of_decide_eq_false calm)
      rw [List.getElem?_map, found, Option.map_some, Watcher.tell, if_neg elsewhere]
  | ceases => cases calm

theorem rests_proceed {job : JobId} {dueAt : Nat} {moves : List Move}
    (found : session.watchers[index]? = some ⟨job, .resting dueAt, false⟩)
    (calm : ∀ move ∈ moves, move.disturbs index job = false) :
    (session.proceed moves).watchers[index]? = some ⟨job, .resting dueAt, false⟩ := by
  induction moves generalizing session with
  | nil => exact found
  | cons move rest ih =>
      obtain ⟨here, later⟩ := List.forall_mem_cons.1 calm
      exact ih (rests_move found here) later

theorem watchers_watch {job : JobId} (free : session.isWatched job = false) (now : Nat) :
    (session.watch job now).watchers = session.watchers ++ [⟨job, .resting now, false⟩] := by
  simp [watch, free, SinglePoll.start]

theorem Matched.watch_eq_self (matched : session.Matched) {job : JobId}
    (pinned : job ∈ session.store.snapshot.pinned) (now : Nat) :
    session.watch job now = session := by
  have unchanged : (session.store.pin job).1 = session.store := by
    simp [Store.pin, Snapshot.pin, Store.commit, pinned]
  simp only [Session.watch, matched.isWatched_iff.2 pinned, if_true, unchanged]

/-! ## Stopping at once -/

theorem Watcher.heed_heed (watcher : Watcher) :
    Watcher.heed (Watcher.heed watcher) = Watcher.heed watcher := by
  by_cases dismissed : watcher.dismissed = true <;> simp [Watcher.heed, dismissed]

/-- Some polls take notice of whether they were told to stop, and nothing else changes. -/
theorem proceed_heeded (session : Session) (indices : List Nat) :
    ∃ watchers, session.proceed (indices.map .heeded) = { session with watchers := watchers } ∧
      ∀ place : Nat, watchers[place]? = (session.watchers[place]?).map fun watcher =>
        if place ∈ indices then Watcher.heed watcher else watcher := by
  induction indices generalizing session with
  | nil => exact ⟨session.watchers, rfl, fun place => by simp⟩
  | cons index rest ih =>
      obtain ⟨watchers, becomes, each⟩ := ih (session.heed index)
      refine ⟨watchers, becomes, fun place => ?_⟩
      rw [each, heed, List.getElem?_modify]
      cases session.watchers[place]? with
      | none => rfl
      | some watcher =>
          by_cases here : index = place
          · subst here
            simp [Watcher.heed_heed]
          · simp [here, Ne.symm here]

/-- To leave a job at once is to tell its polls to stop, and for each of them to do so. -/
theorem unwatch_eq_proceed (session : Session) (job : JobId) :
    ∃ indices : List Nat,
      session.unwatch job = (session.tell job).proceed (indices.map .heeded) := by
  refine ⟨(List.range session.watchers.length).filter fun index =>
    session.watchers[index]?.any fun watcher => watcher.job = job, ?_⟩
  obtain ⟨watchers, becomes, each⟩ := (session.tell job).proceed_heeded
    ((List.range session.watchers.length).filter fun index =>
      session.watchers[index]?.any fun watcher => watcher.job = job)
  have same : session.watchers.map (Watcher.dismiss job) = watchers := by
    apply List.ext_getElem?
    intro place
    rw [each, tell, List.getElem?_map, List.getElem?_map, Option.map_map]
    cases found : session.watchers[place]? with
    | none => rfl
    | some watcher =>
        obtain ⟨within, rfl⟩ := List.getElem?_eq_some_iff.1 found
        by_cases named : session.watchers[place].job = job
        · simp [within, named, Watcher.dismiss, Watcher.tell, Watcher.heed]
        · simp [within, named, Watcher.dismiss, Watcher.tell]
  rw [becomes, ← same]
  rfl

/-! ## Runs -/

/-- Whether the poll at a place is over: whatever happens from now on, it calls nothing, and no
answer that it still gets leads to anything. -/
def IsOver (session : Session) (index : Nat) : Prop :=
  ∀ moves, (∀ call, (index, call) ∉ session.calls moves) ∧
    ∀ now wall answer,
      (session.proceed moves).move (.happened (.watcherAnswered index now wall answer)) =
        session.proceed moves

theorem isOver_of_stopped (found : session.watchers[index]? = some watcher)
    (stopped : watcher.poll = .stopped) : session.IsOver index := by
  refine fun moves => ⟨not_mem_calls_of_stopped found stopped moves, fun now wall answer => ?_⟩
  obtain ⟨last, there, becomes⟩ := becomes_proceed found moves
  exact move_answered_of_stopped there (becomes.stopped stopped) now wall answer

/-- A poll of a job that is left is over as soon as it takes notice of that. -/
theorem isOver_heed (found : session.watchers[index]? = some watcher) (between : List Move) :
    (((session.tell watcher.job).proceed between).heed index).IsOver index := by
  have told : (session.tell watcher.job).watchers[index]? =
      some { watcher with dismissed := true } := by
    rw [tell, List.getElem?_map, found, Option.map_some, Watcher.tell, if_pos rfl]
  obtain ⟨next, there, becomes⟩ := becomes_proceed told between
  have heeds : (((session.tell watcher.job).proceed between).heed index).watchers[index]? =
      some { next with poll := .stopped } := by
    rw [heed, List.getElem?_modify_eq, there]
    show some (Watcher.heed next) = _
    rw [Watcher.heed, if_pos (becomes.dismissed rfl)]
  exact isOver_of_stopped heeds rfl

theorem isOver_unwatch (found : session.watchers[index]? = some watcher) :
    (session.unwatch watcher.job).IsOver index := by
  have stops : (session.unwatch watcher.job).watchers[index]? =
      some { watcher with poll := .stopped, dismissed := true } := by
    rw [unwatch, List.getElem?_map, found, Option.map_some, Watcher.dismiss, if_pos rfl]
  exact isOver_of_stopped stops rfl

/-- Whatever happens, the jobs change by merging alone. -/
theorem leads_move (session : Session) (move : Move) :
    session.store.snapshot.jobs.Leads (session.move move).store.snapshot.jobs := by
  cases move with
  | happened happening => exact session.leads_happen happening
  | told job => exact ⟨[], session.store.unpin_jobs job⟩
  | heeded index => exact .refl _

theorem leads_proceed (session : Session) (moves : List Move) :
    session.store.snapshot.jobs.Leads (session.proceed moves).store.snapshot.jobs := by
  induction moves generalizing session with
  | nil => exact .refl _
  | cons move rest ih => exact (session.leads_move move).trans (ih _)

/-- A poll that waits for its first turn asks for its job as soon as it gets it. -/
theorem call?_of_rests {job : JobId} {dueAt now : Nat}
    (found : session.watchers[index]? = some ⟨job, .resting dueAt, false⟩) (due : dueAt ≤ now)
    (unended : SinglePoll.hasEnded session.store job = false) :
    session.call? (.happened (.watcherTurned index now)) = some (index, .get job) ∧
      (session.move (.happened (.watcherTurned index now))).watchers[index]? =
        some ⟨job, .asking session.store.draw.2, false⟩ := by
  have asks : SinglePoll.turn (.resting dueAt) job now session.store =
      (.asking session.store.draw.2, session.store.draw.1, some (.get job)) := by
    simp [SinglePoll.turn, SinglePoll.check, due, unended]
  constructor
  · simp [call?, found, asks]
  · simp only [Session.move, happen, found, asks]
    rw [List.getElem?_set_self (List.getElem?_eq_some_iff.1 found).1]

/-- What it means to follow a job and to leave it again, over any calls that do either, and whatever
else happens in between: turns of polls, answers, events, and polls that take notice late.

The pinned jobs are those that somebody has asked to follow and that were not left since. Each of
them has one poll that was not told to stop, and no other job has any; so to follow a job that is
followed changes nothing at all.

To leave a job keeps its record, as does everything else. Its polls are over as soon as they take
notice, whatever they do until then: none calls any more, and an answer that is still under way
leads to nothing. They may take notice at once, and that is what `unwatch` stands for.

To follow a job that is not followed starts one poll. At its first turn it asks for the job, unless
the job is known to have ended. -/
theorem polls_what_is_followed (settings : Settings) (channels : List Channel) (now : Nat)
    (moves : List Move) :
    let session := (start settings channels now).proceed moves
    (∀ id, id ∈ session.store.snapshot.pinned ↔ FollowedIn moves id) ∧
    (∀ id, session.followers id = if id ∈ session.store.snapshot.pinned then 1 else 0) ∧
    (∀ id time, id ∈ session.store.snapshot.pinned → session.watch id time = session) ∧
    (∀ id, (session.tell id).store.snapshot.jobs = session.store.snapshot.jobs ∧
      (session.unwatch id).store.snapshot.jobs = session.store.snapshot.jobs ∧
      (∀ index, (session.heed index).store = session.store) ∧
      ∀ more, session.store.job? id ≠ none → (session.proceed more).store.job? id ≠ none) ∧
    (∀ id, (∃ indices : List Nat,
        session.unwatch id = (session.tell id).proceed (indices.map .heeded)) ∧
      ∀ (index : Nat) watcher, session.watchers[index]? = some watcher → watcher.job = id →
        (session.unwatch id).IsOver index ∧
        ∀ between, (((session.tell id).proceed between).heed index).IsOver index) ∧
    (∀ id time, id ∉ session.store.snapshot.pinned →
      let place := session.watchers.length
      let watched := session.watch id time
      watched.watchers = session.watchers ++ [⟨id, .resting time, false⟩] ∧
      ∀ between turn, (∀ move ∈ between, move.disturbs place id = false) → time ≤ turn →
        let waiting := watched.proceed between
        SinglePoll.hasEnded waiting.store id = false →
        waiting.call? (.happened (.watcherTurned place turn)) = some (place, .get id) ∧
        (waiting.move (.happened (.watcherTurned place turn))).watchers[place]? =
          some ⟨id, .asking waiting.store.draw.2, false⟩) := by
  intro session
  have matched : session.Matched := matched_proceed (.start settings channels now) moves
  refine ⟨?_, matched, fun id time pinned => matched.watch_eq_self pinned time, ?_, ?_, ?_⟩
  · intro id
    have begun : id ∉ (start settings channels now).store.snapshot.pinned := List.not_mem_nil
    rw [mem_pinned_proceed_iff]
    exact or_iff_left fun either => begun either.1
  · intro id
    exact ⟨session.store.unpin_jobs id, session.store.unpin_jobs id, fun _ => rfl,
      fun more stored => (session.leads_proceed more).keeps stored⟩
  · refine fun id => ⟨session.unwatch_eq_proceed id, ?_⟩
    rintro index watcher found rfl
    exact ⟨isOver_unwatch found, isOver_heed found⟩
  · intro id time unpinned place watched
    have free : session.isWatched id = false :=
      Bool.eq_false_iff.2 fun watched => unpinned (matched.isWatched_iff.1 watched)
    have joins : watched.watchers = _ := watchers_watch free time
    refine ⟨joins, ?_⟩
    intro between turn calm due waiting unended
    have there : watched.watchers[place]? = some ⟨id, .resting time, false⟩ := by
      rw [joins, List.getElem?_concat_length]
    exact call?_of_rests (rests_proceed there calm) due unended

/-- A job is followed twice, and left while its poll has a request under way. -/
def leftWhileAsking : List Move :=
  [.happened (.watched ⟨"job-1"⟩ 0), .happened (.watched ⟨"job-1"⟩ 1),
    .happened (.watcherTurned 0 1), .told ⟨"job-1"⟩, .heeded 0]

theorem leftWhileAsking_is_asked_for_again :
    let begun := start (.standard "http://localhost:8080" (.ofHex (List.replicate 32 '0'))) [] 0
    let left := begun.proceed leftWhileAsking
    let answered := left.move (.happened (.watcherAnswered 0 5 ⟨100, 0⟩
      (.ok (.fresh ⟨"job-1"⟩ .remoteBackup .none ⟨50, 0⟩))))
    answered = left ∧
      (answered.watch ⟨"job-1"⟩ 9).call? (.happened (.watcherTurned 1 9)) =
        some (1, .get ⟨"job-1"⟩) := by
  intro begun left answered
  obtain ⟨-, -, -, -, leaves, -⟩ := polls_what_is_followed
    (.standard "http://localhost:8080" (.ofHex (List.replicate 32 '0'))) [] 0
    (leftWhileAsking.take 3)
  obtain ⟨-, -, -, -, -, follows⟩ := polls_what_is_followed
    (.standard "http://localhost:8080" (.ofHex (List.replicate 32 '0'))) [] 0 leftWhileAsking
  obtain ⟨-, heeded⟩ :=
    (leaves ⟨"job-1"⟩).2 0 ⟨⟨"job-1"⟩, .asking 1, false⟩ (by decide +kernel) rfl
  have dropped : answered = left := (heeded [] []).2 5 ⟨100, 0⟩ _
  have asks := (follows ⟨"job-1"⟩ 9 (by decide +kernel)).2 [] 9 (by simp) (Nat.le_refl 9)
    (by decide +kernel)
  rw [dropped]
  exact ⟨rfl, asks.1⟩

end Session

end LiveJobs
