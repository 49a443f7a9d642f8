import LiveJobs.Proofs.IdlePoll
import LiveJobs.Proofs.Timely

/-!
# When the running jobs are asked for

The poll of the running jobs asks at once, and from then on each request is settled by the answer to
the one before: when it came, what it said, and whether a wake was kept for it. Wakes are kept one
at a time, while the poll does not wait; a wait uses up the wake that it finds.

Whether a wake is kept is read off the run here, as a wake since the latest wait ended. `Sound` says
that this is what the poll remembers. The time of the next request is then settled for each of the
ways in which the poll can wait.
-/

namespace LiveJobs

open LiveJobs.Time

/-! ## Happenings -/

/-- Whether a request is under way. -/
def ActivePhase.isAsking : ActivePhase → Bool
  | .roused => false
  | .resting _ => false
  | .idle => false
  | .asking _ => true
  | .stopped => false

/-- Whether the poll waits for a wake, if not only for that. -/
def ActivePhase.waits : ActivePhase → Bool
  | .roused => false
  | .resting _ => true
  | .idle => true
  | .asking _ => false
  | .stopped => false

theorem ActivePhase.waits_of_isAsking {phase : ActivePhase} (asking : phase.isAsking = true) :
    phase.waits = false := by
  cases phase with
  | asking sequence => rfl
  | roused => rfl
  | resting dueAt => cases asking
  | idle => cases asking
  | stopped => rfl

namespace ActivePoll

/-- What can happen to the poll of the running jobs. -/
inductive Happening where
  /-- It gets its turn. -/
  | turned
  | woken
  | answered (wall : Instant) (answer : Except Fault Page)
  /-- Another source writes to the store. -/
  | wrote (store : Store)

namespace Happening

def isWake : Happening → Bool
  | .turned => false
  | .woken => true
  | .answered _ _ => false
  | .wrote _ => false

def isAnswer : Happening → Bool
  | .turned => false
  | .woken => false
  | .answered _ _ => true
  | .wrote _ => false

end Happening

/-- The poll of the running jobs beside the store, by the clock. -/
def clockwork : Clockwork (ActivePoll × Store) Happening Call where
  dueAt? state now := state.1.dueAt? now
  step state now
    | .turned =>
        let turned := state.1.turn now state.2
        ((turned.1, turned.2.1), turned.2.2)
    | .woken => ((state.1.wake, state.2), none)
    | .answered wall answer => (state.1.accept now wall answer state.2, none)
    | .wrote store => ((state.1, store), none)

section Clockwork

variable (poll : ActivePoll) (store other : Store) (now : Nat) (wall : Instant)
  (answer : Except Fault Page)

@[simp] theorem clockwork_dueAt : clockwork.dueAt? (poll, store) now = poll.dueAt? now := rfl

@[simp] theorem clockwork_turned : clockwork.step (poll, store) now .turned =
    (((poll.turn now store).1, (poll.turn now store).2.1), (poll.turn now store).2.2) := rfl

@[simp] theorem clockwork_woken : clockwork.step (poll, store) now .woken =
    ((poll.wake, store), none) := rfl

@[simp] theorem clockwork_answered : clockwork.step (poll, store) now (.answered wall answer) =
    (poll.accept now wall answer store, none) := rfl

@[simp] theorem clockwork_wrote : clockwork.step (poll, store) now (.wrote other) =
    ((poll, other), none) := rfl

end Clockwork

/-! ## The schedule -/

/-- Whether a wait has ended when the poll goes from one phase to another. An answer that finds a
wake ends the wait that it begins. -/
def endsWait (before : ActivePhase) : ActivePhase → Bool
  | .roused => before.waits || before.isAsking
  | .resting _ => false
  | .idle => false
  | .asking _ => before.waits
  | .stopped => false

@[simp] theorem endsWait_self (phase : ActivePhase) : endsWait phase phase = false := by
  cases phase with
  | roused => rfl
  | resting dueAt => rfl
  | idle => rfl
  | asking sequence => rfl
  | stopped => rfl

/-- Whether a wake has come since the latest wait ended, when something has happened. -/
def wokenAfter (woken : Bool) (state : ActivePoll × Store) (time : Nat) (happening : Happening) :
    Bool :=
  if endsWait state.1.phase (clockwork.step state time happening).1.1.phase then false
  else woken || happening.isWake

/-- Whether a wake has come since the latest wait ended, after a run. -/
def wokenSince (woken : Bool) (state : ActivePoll × Store) : List (Nat × Happening) → Bool
  | [] => woken
  | (time, happening) :: rest =>
      wokenSince (wokenAfter woken state time happening) (clockwork.step state time happening).1
        rest

/-- When the next wake comes. -/
def nextWake? (happenings : List (Nat × Happening)) : Option Nat :=
  (happenings.find? fun happening => happening.2.isWake).map Prod.fst

/-- A time, or that of a wake which comes first. -/
def soonest (time : Nat) (wake : Option Nat) : Nat := min time (wake.getD time)

theorem soonest_of_le {time : Nat} {wake : Option Nat} (later : ∀ other ∈ wake, time ≤ other) :
    soonest time wake = time := by
  cases wake with
  | none => exact Nat.min_self time
  | some other => exact Nat.min_eq_left (later other rfl)

/-- When the next request starts after an answer that has arrived, if a wake is kept or not and the
next wake comes at some time. -/
def nextRequest (interval arrival : Nat) (answer : Except Fault Page) (woken : Bool)
    (wake : Option Nat) : Option Nat :=
  if woken then some arrival
  else
    match answer with
    | .error _ => some (soonest (arrival + interval) wake)
    | .ok page =>
        if page.items.isEmpty then wake else some (soonest (arrival + interval) wake)

/-- The map of the running jobs after something has happened. -/
def knownAfter (poll : ActivePoll) : Happening → ActiveMap
  | .answered _ (.ok page) => if poll.phase.isAsking then .ofJobs page.items else poll.known
  | .answered _ (.error _) => poll.known
  | .turned => poll.known
  | .woken => poll.known
  | .wrote _ => poll.known

/-- How the poll waits after an answer, unless a wake is kept. -/
def pause (interval now : Nat) : Except Fault Page → ActivePhase
  | .error _ => .resting (now + interval)
  | .ok page => if page.items.isEmpty then .idle else .resting (now + interval)

/-! ## Steps -/

section Steps

variable {poll : ActivePoll} {now : Nat} {wall : Instant} {answer : Except Fault Page}

/-- An answer to a request under way is taken up, and then the poll waits. -/
theorem accept_of_asking (asking : poll.phase.isAsking = true) (store : Store) :
    (poll.accept now wall answer store).1 =
      { poll with known := poll.knownAfter (.answered wall answer) }.wait
        (pause poll.interval now answer) := by
  unfold accept
  split
  next sequence phase =>
    cases answer with
    | error fault => rfl
    | ok page =>
        rw [knownAfter, if_pos asking]
        rfl
  next phase => cases (congrArg ActivePhase.isAsking phase).symm.trans asking
  next phase => cases (congrArg ActivePhase.isAsking phase).symm.trans asking
  next phase => cases (congrArg ActivePhase.isAsking phase).symm.trans asking
  next phase => cases (congrArg ActivePhase.isAsking phase).symm.trans asking

theorem accept_of_not_asking (unasked : poll.phase.isAsking = false) (store : Store) :
    poll.accept now wall answer store = (poll, store) := by
  unfold accept
  split
  next phase => cases (congrArg ActivePhase.isAsking phase).symm.trans unasked
  all_goals rfl

/-- An answer that finds a wake is followed by the next request at once. -/
theorem accept_of_woken (asking : poll.phase.isAsking = true) (woken : poll.wakePending = true)
    (store : Store) :
    (poll.accept now wall answer store).1 =
      { poll with
        known := poll.knownAfter (.answered wall answer)
        phase := .roused
        wakePending := false } :=
  (accept_of_asking asking store).trans (if_pos woken)

theorem accept_of_unwoken (asking : poll.phase.isAsking = true)
    (unwoken : poll.wakePending = false) (store : Store) :
    (poll.accept now wall answer store).1 =
      { poll with
        known := poll.knownAfter (.answered wall answer)
        phase := pause poll.interval now answer } :=
  (accept_of_asking asking store).trans (if_neg (by simp [unwoken]))

theorem pause_ne_stopped {interval : Nat} (answer : Except Fault Page) :
    pause interval now answer ≠ .stopped := by
  cases answer with
  | error fault => exact nofun
  | ok page =>
      rw [pause]
      split
      · exact nofun
      · exact nofun

/-- Asking is all that the poll does in its turn, and it does so exactly if it is due. -/
theorem turn_cases (poll : ActivePoll) (now : Nat) (store : Store) :
    ((∃ due ∈ poll.dueAt? now, due ≤ now) ∧ poll.turn now store = poll.ask store) ∨
    ((∀ due ∈ poll.dueAt? now, now < due) ∧ poll.turn now store = (poll, store, none)) := by
  unfold turn dueAt?
  cases poll.phase with
  | roused => exact .inl ⟨⟨now, rfl, Nat.le_refl now⟩, rfl⟩
  | resting dueAt =>
      by_cases reached : dueAt ≤ now
      · exact .inl ⟨⟨dueAt, rfl, reached⟩, if_pos reached⟩
      · refine .inr ⟨?_, if_neg reached⟩
        rintro due ⟨⟩
        exact Nat.lt_of_not_le reached
  | idle => exact .inr ⟨nofun, rfl⟩
  | asking sequence => exact .inr ⟨nofun, rfl⟩
  | stopped => exact .inr ⟨nofun, rfl⟩

/-- A wake rouses a poll that waits, and is kept by any other. -/
theorem wake_cases (unstopped : poll.phase ≠ .stopped) :
    (poll.phase.waits = true ∧ poll.wake = { poll with phase := .roused }) ∨
    (poll.phase.waits = false ∧ poll.wake = { poll with wakePending := true }) := by
  unfold wake
  split
  next phase => exact .inl ⟨congrArg ActivePhase.waits phase, rfl⟩
  next phase => exact .inl ⟨congrArg ActivePhase.waits phase, rfl⟩
  next phase => exact .inr ⟨congrArg ActivePhase.waits phase, rfl⟩
  next phase => exact .inr ⟨congrArg ActivePhase.waits phase, rfl⟩
  next phase => exact absurd phase unstopped

end Steps

/-- What holds of the poll after a run, given whether a wake has come since the latest wait
ended. -/
structure Sound (interval pageSize : Nat) (woken : Bool) (poll : ActivePoll) : Prop where
  interval : poll.interval = interval
  pageSize : poll.pageSize = pageSize
  unstopped : poll.phase ≠ .stopped
  /-- The poll remembers whether a wake has come, but not while it waits: the first wake would end
  the wait. -/
  kept : poll.wakePending = (!poll.phase.waits && woken)
  knowsNothing : poll.IdleKnowsNothing

namespace Sound

variable {interval pageSize : Nat} {woken : Bool} {poll : ActivePoll}

theorem start (interval pageSize : Nat) : (start interval pageSize).Sound interval pageSize false
    where
  interval := rfl
  pageSize := rfl
  unstopped := nofun
  kept := rfl
  knowsNothing := nofun

theorem ask (sound : poll.Sound interval pageSize woken) (store : Store) :
    (poll.ask store).1.Sound interval pageSize (!poll.phase.waits && woken) where
  interval := sound.interval
  pageSize := sound.pageSize
  unstopped := nofun
  kept := sound.kept
  knowsNothing := nofun

theorem turn (sound : poll.Sound interval pageSize woken) (store : Store) (time : Nat) :
    (poll.turn time store).1.Sound interval pageSize
      (wokenAfter woken (poll, store) time .turned) := by
  rcases poll.turn_cases time store with ⟨-, asks⟩ | ⟨-, same⟩
  · have left : wokenAfter woken (poll, store) time .turned = (!poll.phase.waits && woken) := by
      cases waits : poll.phase.waits with
      | true => simp [wokenAfter, asks, ActivePoll.ask, endsWait, waits]
      | false => simp [wokenAfter, asks, ActivePoll.ask, endsWait, waits, Happening.isWake]
    rw [left, asks]
    exact sound.ask store
  · have left : wokenAfter woken (poll, store) time .turned = woken := by
      simp [wokenAfter, same, Happening.isWake]
    rw [left, same]
    exact sound

/-- A wake ends a wait, or is remembered. -/
theorem wake (sound : poll.Sound interval pageSize woken) (store : Store) (time : Nat) :
    poll.wake.Sound interval pageSize (wokenAfter woken (poll, store) time .woken) := by
  have knowsNothing := idleKnowsNothing_wake sound.knowsNothing
  rcases wake_cases sound.unstopped with ⟨waits, roused⟩ | ⟨busy, pending⟩
  · have left : wokenAfter woken (poll, store) time .woken = false := by
      simp [wokenAfter, roused, endsWait, waits]
    have unwoken : poll.wakePending = false := by simp [sound.kept, waits]
    rw [left]
    rw [roused] at knowsNothing ⊢
    exact ⟨sound.interval, sound.pageSize, by simp, unwoken, knowsNothing⟩
  · have left : wokenAfter woken (poll, store) time .woken = true := by
      simp [wokenAfter, pending, Happening.isWake]
    rw [left]
    rw [pending] at knowsNothing ⊢
    exact ⟨sound.interval, sound.pageSize, sound.unstopped, by simp [busy], knowsNothing⟩

theorem kept_of_asking (sound : poll.Sound interval pageSize woken)
    (asking : poll.phase.isAsking = true) : poll.wakePending = woken := by
  rw [sound.kept, ActivePhase.waits_of_isAsking asking]
  rfl

/-- An answer that finds a wake uses it up; after any other answer no wake is kept. -/
theorem accept (sound : poll.Sound interval pageSize woken) (store : Store) (time : Nat)
    (wall : Instant) (answer : Except Fault Page) :
    (poll.accept time wall answer store).1.Sound interval pageSize
      (wokenAfter woken (poll, store) time (.answered wall answer)) := by
  have knowsNothing := idleKnowsNothing_accept time wall answer store sound.knowsNothing
  cases asking : poll.phase.isAsking with
  | false =>
      have left : wokenAfter woken (poll, store) time (.answered wall answer) = woken := by
        simp [wokenAfter, accept_of_not_asking asking, Happening.isWake]
      rw [left, accept_of_not_asking asking]
      exact sound
  | true =>
      have kept := sound.kept_of_asking asking
      cases woken with
      | true =>
          have left : wokenAfter true (poll, store) time (.answered wall answer) = false := by
            simp [wokenAfter, accept_of_woken asking kept, endsWait, asking]
          rw [left]
          rw [accept_of_woken asking kept] at knowsNothing ⊢
          exact ⟨sound.interval, sound.pageSize, by simp, rfl, knowsNothing⟩
      | false =>
          have left : wokenAfter false (poll, store) time (.answered wall answer) = false := by
            simp [wokenAfter, Happening.isWake]
          rw [left]
          rw [accept_of_unwoken asking kept] at knowsNothing ⊢
          exact ⟨sound.interval, sound.pageSize, pause_ne_stopped answer, by simp [kept],
            knowsNothing⟩

theorem step (sound : poll.Sound interval pageSize woken) (store : Store) (time : Nat)
    (happening : Happening) :
    (clockwork.step (poll, store) time happening).1.1.Sound interval pageSize
      (wokenAfter woken (poll, store) time happening) := by
  cases happening with
  | turned => exact sound.turn store time
  | woken => exact sound.wake store time
  | answered wall answer => exact sound.accept store time wall answer
  | wrote other =>
      have left : wokenAfter woken (poll, store) time (.wrote other) = woken := by
        simp [wokenAfter, Happening.isWake]
      rw [left]
      exact sound

theorem run (sound : poll.Sound interval pageSize woken) (store : Store)
    (happenings : List (Nat × Happening)) :
    (clockwork.run (poll, store) happenings).1.Sound interval pageSize
      (wokenSince woken (poll, store) happenings) := by
  induction happenings generalizing poll store woken with
  | nil => exact sound
  | cons first rest ih => exact ih (sound.step store first.1 first.2) _

end Sound

/-! ## The next request -/

section NextRequest

variable {poll : ActivePoll} {store : Store} {now dueAt : Nat}
  {happenings : List (Nat × Happening)}

/-- Whatever comes before its turn, a poll that is roused asks at once. -/
theorem nextAt_of_roused (roused : poll.phase = .roused)
    (timely : clockwork.Timely (poll, store) now happenings) :
    clockwork.NextAt .turned (poll, store) now happenings (some now) := by
  refine Clockwork.nextAt_of_due (fun state => state.1.phase = .roused) (fun _ => True) ?_ ?_ ?_
    roused timely fun _ _ => trivial
  · rintro ⟨poll, store⟩ (roused : poll.phase = .roused)
    simp [dueAt?, roused]
  · rintro ⟨poll, store⟩ (roused : poll.phase = .roused)
    simp [turn, roused, ask]
  · rintro ⟨poll, store⟩ happening (roused : poll.phase = .roused) -
    cases happening with
    | turned => exact .inl (by simp [turn, roused, ask])
    | woken => exact .inr ⟨rfl, by simp [wake, roused]⟩
    | answered wall answer =>
        rw [clockwork_answered, accept_of_not_asking (by simp [roused, ActivePhase.isAsking])]
        exact .inr ⟨rfl, roused⟩
    | wrote other => exact .inr ⟨rfl, roused⟩

theorem nextWake_le {state : ActivePoll × Store} {wake : Nat}
    (timely : clockwork.Timely state now happenings)
    (next : wake ∈ nextWake? happenings) : now ≤ wake := by
  obtain ⟨happening, found, rfl⟩ := Option.map_eq_some_iff.1 next
  exact timely.le_of_mem (List.mem_of_find?_eq_some found)

/-- A poll that rests asks when its time has come, or at the first wake before that. -/
theorem nextAt_of_resting (resting : poll.phase = .resting dueAt) (early : now ≤ dueAt)
    (timely : clockwork.Timely (poll, store) now happenings) :
    clockwork.NextAt .turned (poll, store) now happenings
      (some (soonest dueAt (nextWake? happenings))) := by
  induction happenings generalizing poll store now with
  | nil =>
      have unwoken : soonest dueAt (nextWake? []) = dueAt := soonest_of_le nofun
      rw [Clockwork.nextAt_nil, unwoken]
      rintro time ⟨⟩
      exact ⟨early, by simp [dueAt?, resting], by simp [turn, resting, ask]⟩
  | cons first rest ih =>
      obtain ⟨time, happening⟩ := first
      obtain ⟨goesOn, punctual, behind⟩ := timely
      have due (moment : Nat) : poll.dueAt? moment = some dueAt := by simp [dueAt?, resting]
      have before : time ≤ dueAt := by have := punctual dueAt (due now); omega
      cases happening with
      | turned =>
          have later : nextWake? ((time, .turned) :: rest) = nextWake? rest := rfl
          rw [later]
          rcases poll.turn_cases time store with ⟨⟨other, isDue, reached⟩, asks⟩ | ⟨-, same⟩
          · cases (due time).symm.trans isDue
            have puts : (clockwork.step (poll, store) time .turned).2 =
                some (.list (.running poll.pageSize)) := by simp [asks, ask]
            have here : time = dueAt := by omega
            have unwoken := soonest_of_le fun wake next => nextWake_le behind next
            rw [Clockwork.nextAt_of_output puts, ← here, unwoken]
          · have silent : (clockwork.step (poll, store) time .turned).2 = none := by simp [same]
            rw [Clockwork.nextAt_of_silent silent]
            rw [clockwork_turned, same] at behind ⊢
            exact ih resting before behind
      | woken =>
          rw [Clockwork.nextAt_of_silent rfl]
          have next : soonest dueAt (nextWake? ((time, .woken) :: rest)) = time := by
            simp [soonest, nextWake?, Happening.isWake]
            omega
          rw [next]
          exact nextAt_of_roused (by simp [wake, resting]) behind
      | answered wall answer =>
          rw [Clockwork.nextAt_of_silent rfl]
          rw [clockwork_answered, accept_of_not_asking (by simp [resting, ActivePhase.isAsking])]
            at behind ⊢
          exact ih resting before behind
      | wrote other =>
          rw [Clockwork.nextAt_of_silent rfl]
          exact ih resting before behind

/-- A poll that is idle asks only at the next wake. -/
theorem nextAt_of_idle (idle : poll.phase = .idle)
    (timely : clockwork.Timely (poll, store) now happenings) :
    clockwork.NextAt .turned (poll, store) now happenings (nextWake? happenings) := by
  induction happenings generalizing poll store now with
  | nil => simp [Clockwork.nextAt_nil, nextWake?]
  | cons first rest ih =>
      obtain ⟨time, happening⟩ := first
      obtain ⟨goesOn, punctual, behind⟩ := timely
      cases happening with
      | turned =>
          have same : poll.turn time store = (poll, store, none) := by simp [turn, idle]
          have silent : (clockwork.step (poll, store) time .turned).2 = none := by simp [same]
          rw [Clockwork.nextAt_of_silent silent]
          rw [clockwork_turned, same] at behind ⊢
          exact ih idle behind
      | woken =>
          rw [Clockwork.nextAt_of_silent rfl]
          exact nextAt_of_roused (by simp [wake, idle]) behind
      | answered wall answer =>
          rw [Clockwork.nextAt_of_silent rfl]
          rw [clockwork_answered, accept_of_not_asking (by simp [idle, ActivePhase.isAsking])]
            at behind ⊢
          exact ih idle behind
      | wrote other =>
          rw [Clockwork.nextAt_of_silent rfl]
          exact ih idle behind

/-- After an answer, the next request comes when the answer and the wakes say. -/
theorem nextAt_of_answered {interval pageSize : Nat} {woken : Bool} {wall : Instant}
    {answer : Except Fault Page} (sound : poll.Sound interval pageSize woken)
    (asking : poll.phase.isAsking = true)
    (timely : clockwork.Timely (poll.accept now wall answer store) now happenings) :
    clockwork.NextAt .turned (poll.accept now wall answer store) now happenings
      (nextRequest interval now answer woken (nextWake? happenings)) := by
  have kept := sound.kept_of_asking asking
  have phase : (poll.accept now wall answer store).1.phase =
      if woken then .roused else pause interval now answer := by
    cases woken with
    | true => exact congrArg ActivePoll.phase (accept_of_woken asking kept store)
    | false => rw [accept_of_unwoken asking kept, sound.interval, if_neg Bool.false_ne_true]
  generalize poll.accept now wall answer store = accepted at phase timely ⊢
  obtain ⟨next, merged⟩ := accepted
  cases woken with
  | true => exact nextAt_of_roused phase timely
  | false =>
      have paused : next.phase = pause interval now answer := phase
      cases answer with
      | error fault => exact nextAt_of_resting paused (Nat.le_add_right now interval) timely
      | ok page =>
          rw [nextRequest, if_neg Bool.false_ne_true]
          rw [pause] at paused
          split at paused
          next empty =>
            rw [if_pos empty]
            exact nextAt_of_idle paused timely
          next filled =>
            rw [if_neg filled]
            exact nextAt_of_resting paused (Nat.le_add_right now interval) timely

/-- Nothing but its answer makes the poll go on from a request. -/
theorem outputs_of_asking (asking : poll.phase.isAsking = true)
    (unanswered : ∀ happening ∈ happenings, happening.2.isAnswer = false) :
    clockwork.outputs (poll, store) happenings = [] := by
  refine (Clockwork.outputs_of_quiet (fun state => state.1.phase.isAsking = true)
    (fun happening => happening.isAnswer = false) ?_ asking unanswered).1
  rintro ⟨poll, store⟩ time happening (asking : poll.phase.isAsking = true) unanswered
  obtain ⟨sequence, phase⟩ : ∃ sequence, poll.phase = .asking sequence := by
    cases phase : poll.phase with
    | asking sequence => exact ⟨sequence, rfl⟩
    | _ => simp [phase, ActivePhase.isAsking] at asking
  cases happening with
  | turned => simp [turn, phase, ActivePhase.isAsking]
  | woken => simp [wake, phase, ActivePhase.isAsking]
  | answered wall answer => cases unanswered
  | wrote other => exact ⟨rfl, asking⟩

end NextRequest

theorem asks_of_output {state : ActivePoll × Store} {time : Nat} {happening : Happening}
    {call : Call} (puts : (clockwork.step state time happening).2 = some call) :
    call = .list (.running state.1.pageSize) ∧
      (clockwork.step state time happening).1.1.phase.isAsking = true := by
  obtain ⟨poll, store⟩ := state
  cases happening with
  | turned =>
      rw [clockwork_turned] at puts ⊢
      rcases poll.turn_cases time store with ⟨-, asks⟩ | ⟨-, same⟩
      · rw [asks] at puts ⊢
        cases puts
        exact ⟨rfl, rfl⟩
      · rw [same] at puts
        cases puts
  | woken => cases puts
  | answered wall answer => cases puts
  | wrote other => cases puts

/-- The map of the running jobs changes with an answer that holds a page, and never else. -/
theorem known_step (state : ActivePoll × Store) (time : Nat) (happening : Happening) :
    (clockwork.step state time happening).1.1.known = state.1.knownAfter happening := by
  obtain ⟨poll, store⟩ := state
  cases happening with
  | turned =>
      rw [clockwork_turned]
      rcases poll.turn_cases time store with ⟨-, asks⟩ | ⟨-, same⟩
      · rw [asks]
        rfl
      · rw [same]
        rfl
  | woken =>
      rw [clockwork_woken, wake]
      split <;> rfl
  | answered wall answer =>
      rw [clockwork_answered]
      cases asking : poll.phase.isAsking with
      | true =>
          rw [accept_of_asking asking, wait]
          split
          · rfl
          · rfl
      | false =>
          rw [accept_of_not_asking asking]
          cases answer with
          | error fault => rfl
          | ok page => exact (if_neg (by simp [asking])).symm
  | wrote other => rfl

theorem restful : clockwork.Restful .turned := by
  intro state now due isDue
  obtain ⟨poll, store⟩ := state
  rw [clockwork_turned, clockwork_dueAt] at isDue
  rcases poll.turn_cases now store with ⟨-, asks⟩ | ⟨early, same⟩
  · rw [asks] at isDue
    cases isDue
  · rw [same] at isDue
    exact early due isDue

/-- The schedule of the poll of the running jobs, over any answers, wakes and writes to the store,
at any times. The first request starts at once. Each request asks for the running jobs, and no
other one starts before its answer. After an answer the next one starts at that moment if a wake
has come since the wait before the request ended, however many they were; otherwise it starts with
the next wake or when the interval is over, whatever comes first, but with the next wake alone after
an empty page. A page replaces the map of the running jobs, anything else keeps it, and an idle poll
knows of no job. The run goes on to any later time by the turns of the poll alone, so every request
that is due does start. -/
theorem asks_on_schedule (interval pageSize now : Nat) (store : Store)
    {happenings : List (Nat × Happening)}
    (timely : clockwork.Timely (start interval pageSize, store) now happenings) :
    let begun := (start interval pageSize, store)
    clockwork.NextAt .turned begun now happenings (some now) ∧
    (∀ before time happening after call, happenings = before ++ (time, happening) :: after →
      (clockwork.step (clockwork.run begun before) time happening).2 = some call →
      call = .list (.running pageSize) ∧
      (clockwork.run begun (before ++ [(time, happening)])).1.phase.isAsking = true) ∧
    (∀ before during after, happenings = before ++ during ++ after →
      (clockwork.run begun before).1.phase.isAsking = true →
      (∀ happening ∈ during, happening.2.isAnswer = false) →
      clockwork.outputs (clockwork.run begun before) during = []) ∧
    (∀ before arrival wall answer after,
      happenings = before ++ (arrival, .answered wall answer) :: after →
      (clockwork.run begun before).1.phase.isAsking = true →
      clockwork.NextAt .turned (clockwork.run begun (before ++ [(arrival, .answered wall answer)]))
        arrival after (nextRequest interval arrival answer (wokenSince false begun before)
          (nextWake? after))) ∧
    (∀ before time happening after, happenings = before ++ (time, happening) :: after →
      (clockwork.run begun (before ++ [(time, happening)])).1.known =
        (clockwork.run begun before).1.knownAfter happening) ∧
    ((clockwork.run begun happenings).1.phase = .idle →
      (clockwork.run begun happenings).1.known = []) ∧
    clockwork.GoesOn .turned begun now happenings := by
  intro begun
  have sound (before : List (Nat × Happening)) :
      (clockwork.run begun before).1.Sound interval pageSize (wokenSince false begun before) :=
    (Sound.start interval pageSize).run store before
  refine ⟨nextAt_of_roused rfl timely, ?_, ?_, ?_, ?_, (sound happenings).knowsNothing,
    timely.goesOn restful⟩
  · rintro before time happening after call - puts
    obtain ⟨asked, asking⟩ := asks_of_output puts
    rw [(sound before).pageSize] at asked
    rw [Clockwork.run_append]
    exact ⟨asked, asking⟩
  · rintro before during after - asking unanswered
    exact outputs_of_asking asking unanswered
  · rintro before arrival wall answer after rfl asking
    rw [Clockwork.run_append]
    obtain ⟨-, -, -, behind⟩ := Clockwork.timely_append.1 timely
    exact nextAt_of_answered (sound before) asking behind
  · rintro before time happening after -
    rw [Clockwork.run_append]
    exact known_step _ time happening

/-- A job that runs on a resource. -/
def runningJob : Job :=
  { Job.fresh ⟨"job-1"⟩ .remoteBackup (.environment ⟨"env-1"⟩) ⟨5, 0⟩ with status := .running }

/-- Two wakes during the first request make for one more. The second answer lists a job, so the
third request starts when the interval is over. That one fails, and a wake ends the wait; the last
answer is empty, and the poll is woken only much later. -/
def variedAnswers : List (Nat × Happening) :=
  [(0, .turned), (40, .woken), (60, .woken), (100, .answered ⟨0, 0⟩ (.ok .empty)), (100, .turned),
    (250, .answered ⟨0, 0⟩ (.ok ⟨[runningJob], 1, 1⟩)), (3250, .turned),
    (3260, .answered ⟨0, 0⟩ (.error (.network "reset"))), (4000, .woken), (4000, .turned),
    (4010, .answered ⟨0, 0⟩ (.ok .empty)), (9000, .woken), (9000, .turned)]

theorem variedAnswers_on_schedule :
    let begun := (start 3000 20, Store.initial 10000)
    clockwork.Timely begun 0 variedAnswers ∧
      clockwork.NextAt .turned (clockwork.run begun (variedAnswers.take 4)) 100
        (variedAnswers.drop 4) (some 100) ∧
      clockwork.NextAt .turned (clockwork.run begun (variedAnswers.take 6)) 250
        (variedAnswers.drop 6) (some 3250) ∧
      clockwork.NextAt .turned (clockwork.run begun (variedAnswers.take 6)) 250 [] (some 3250) ∧
      clockwork.NextAt .turned (clockwork.run begun (variedAnswers.take 8)) 3260
        (variedAnswers.drop 8) (some 4000) ∧
      clockwork.NextAt .turned (clockwork.run begun (variedAnswers.take 11)) 4010
        (variedAnswers.drop 11) (some 9000) := by
  intro begun
  have timely : clockwork.Timely begun 0 variedAnswers := by decide
  have cut : clockwork.Timely begun 0 (variedAnswers.take 6) := by decide
  have answered := (asks_on_schedule 3000 20 0 (.initial 10000) timely).2.2.2.1
  have alone := (asks_on_schedule 3000 20 0 (.initial 10000) cut).2.2.2.1
  exact ⟨timely, answered (variedAnswers.take 3) 100 _ _ _ rfl rfl,
    answered (variedAnswers.take 5) 250 _ _ _ rfl rfl,
    alone (variedAnswers.take 5) 250 _ _ [] rfl rfl,
    answered (variedAnswers.take 7) 3260 _ _ _ rfl rfl,
    answered (variedAnswers.take 10) 4010 _ _ _ rfl rfl⟩

end ActivePoll

end LiveJobs
