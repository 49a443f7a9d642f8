import LiveJobs.Poll.Single
import LiveJobs.Proofs.Timely

/-!
# When a single job is asked for

The poll of a single job makes checks. A check asks for the job, unless the store says that it has
ended: then the poll is over for good, whoever has written that. The wait from an answer to the next
check depends on the age of the job as it is stored by then.

A run has turns of the poll, answers and writes of other sources, at any times and in any order.
What a check comes to is read off the store at that moment, so nothing is assumed about who writes
to it, or when.
-/

namespace LiveJobs

open LiveJobs.Time

/-- The age is the time since the creation, without the part below a millisecond. A creation in the
future counts as just now. -/
theorem Job.ageMillis_eq (job : Job) (now : Instant) :
    (job.ageMillis now : Int) = max 0 (now.nanosSince job.timestamps.created) / nanosPerMilli := by
  rw [ageMillis, Instant.millisSince]
  generalize now.nanosSince job.timestamps.created = nanos
  rcases Int.le_total 0 nanos with past | future
  · have whole : 0 ≤ nanos / (nanosPerMilli : Int) := Int.ediv_nonneg past (Int.natCast_nonneg _)
    rw [Int.tdiv_eq_ediv_of_nonneg past, Int.toNat_of_nonneg whole, Int.max_eq_right past]
  · have ahead : 0 ≤ Int.tdiv (-nanos) nanosPerMilli :=
      Int.tdiv_nonneg (by omega) (Int.natCast_nonneg _)
    have none : Int.tdiv nanos nanosPerMilli ≤ 0 := by
      rw [Int.neg_tdiv] at ahead
      omega
    rw [Int.toNat_of_nonpos none, Int.max_eq_left future]
    rfl

namespace SinglePoll

/-! ## The wait -/

/-- The age at which a duration is as long as it can be: all of 64 bits of seconds, and all but one
of the nanoseconds of another one. -/
def greatestAge : Nat := 18446744073709551615 * 1000 + 999

/-- Up to the greatest age, neither of the two results is more than 128 bits can hold. -/
theorem saturate_of_age {age : Nat} (aged : age ≤ greatestAge) :
    saturate (age / growsEvery * growth) = age / growsEvery * growth ∧
      saturate (shortest + age / growsEvery * growth) = shortest + age / growsEvery * growth := by
  simp only [greatestAge] at aged
  simp only [saturate, growsEvery, growth, shortest]
  omega

/-- No wait is more than 64 bits can hold. -/
theorem narrow_of_le {millis : Nat} (short : millis ≤ longest) : narrow millis = millis := by
  apply Nat.mod_eq_of_lt
  simp only [longest] at short
  omega

/-- What the words cannot hold makes no difference at any age. -/
theorem interval_eq (age : Nat) : interval age = min (2000 + age / 30000 * 2000) 10000 := by
  rw [interval, narrow_of_le (Nat.min_le_right _ _)]
  simp only [saturate, growsEvery, growth, shortest, longest]
  omega

theorem interval_mono {age older : Nat} (ages : age ≤ older) : interval age ≤ interval older := by
  rw [interval_eq, interval_eq]
  omega

theorem interval_bounds (age : Nat) : shortest ≤ interval age ∧ interval age ≤ longest := by
  rw [interval_eq]
  simp only [shortest, longest]
  omega

/-! ## Happenings -/

/-- What can happen to the poll of a job. -/
inductive Happening where
  /-- It gets its turn. -/
  | turned
  | answered (wall : Instant) (answer : Except Fault Job)
  /-- Another source writes to the store. -/
  | wrote (store : Store)

namespace Happening

def isAnswer : Happening → Bool
  | .turned => false
  | .answered _ _ => true
  | .wrote _ => false

/-- Whether nothing is told of any job: it is a turn, or a request has failed. -/
def isEmpty : Happening → Bool
  | .turned => true
  | .answered _ (.ok _) => false
  | .answered _ (.error _) => true
  | .wrote _ => false

end Happening

/-- What a check comes to. -/
inductive Check where
  | asks (call : Call)
  /-- The job has ended, and is not asked for any more. -/
  | ends
  deriving DecidableEq, Repr

def Check.ofCall? : Option Call → Check
  | some call => .asks call
  | none => .ends

/-- Whether a request is under way. -/
def isAsking : SinglePoll → Bool
  | .resting _ => false
  | .asking _ => true
  | .stopped => false

/-- Whether a check is due. -/
def isDue (poll : SinglePoll) (now : Nat) : Bool := poll.dueAt?.any fun dueAt => dueAt ≤ now

/-- The poll of a job beside the store, by the clock. What it puts out are its checks. -/
def clockwork (job : JobId) : Clockwork (SinglePoll × Store) Happening Check where
  dueAt? state _ := state.1.dueAt?
  step state now
    | .turned =>
        let turned := state.1.turn job now state.2
        ((turned.1, turned.2.1),
          if state.1.isDue now then some (.ofCall? turned.2.2) else none)
    | .answered wall answer => (state.1.accept job now wall answer state.2, none)
    | .wrote store => ((state.1, store), none)

/-- The age of a job as it is stored, in milliseconds; zero for a job that is not. -/
def storedAge (store : Store) (job : JobId) (wall : Instant) : Nat :=
  ((store.job? job).map fun stored => stored.ageMillis wall).getD 0

section Clockwork

variable (job : JobId) (poll : SinglePoll) (store other : Store) (now : Nat) (wall : Instant)
  (answer : Except Fault Job)

@[simp] theorem clockwork_dueAt : (clockwork job).dueAt? (poll, store) now = poll.dueAt? := rfl

@[simp] theorem clockwork_turned : (clockwork job).step (poll, store) now .turned =
    (((poll.turn job now store).1, (poll.turn job now store).2.1),
      if poll.isDue now then some (.ofCall? (poll.turn job now store).2.2) else none) := rfl

@[simp] theorem clockwork_answered :
    (clockwork job).step (poll, store) now (.answered wall answer) =
      (poll.accept job now wall answer store, none) := rfl

end Clockwork

/-! ## Steps -/

section Steps

variable {job : JobId} {poll : SinglePoll} {store : Store} {now : Nat} {wall : Instant}
  {answer : Except Fault Job}

theorem check_of_ended (ended : hasEnded store job = true) :
    check job store = (.stopped, store, none) := if_pos ended

theorem check_of_unended (unended : hasEnded store job = false) :
    check job store = (.asking store.draw.2, store.draw.1, some (.get job)) :=
  if_neg (Bool.eq_false_iff.1 unended)

/-- In its turn the poll makes the check that is due, or does nothing. -/
theorem turn_cases (poll : SinglePoll) (job : JobId) (now : Nat) (store : Store) :
    (poll.isDue now = true ∧ poll.turn job now store = check job store) ∨
    (poll.isDue now = false ∧ poll.turn job now store = (poll, store, none)) := by
  cases poll with
  | resting dueAt =>
      by_cases due : dueAt ≤ now
      · exact .inl ⟨decide_eq_true due, if_pos due⟩
      · exact .inr ⟨decide_eq_false due, if_neg due⟩
  | asking sequence => exact .inr ⟨rfl, rfl⟩
  | stopped => exact .inr ⟨rfl, rfl⟩

theorem not_due_of_asking (asking : poll.isAsking = true) : poll.isDue now = false := by
  cases poll with
  | resting dueAt => cases asking
  | asking sequence => rfl
  | stopped => cases asking

/-- An answer is merged first, and what is stored then decides. -/
theorem accept_of_asking (asking : poll.isAsking = true) (store : Store) :
    (poll.accept job now wall answer store).1 =
      rest job now wall (poll.accept job now wall answer store).2 := by
  cases poll with
  | resting dueAt => cases asking
  | asking sequence => rfl
  | stopped => cases asking

theorem rest_of_ended (ended : hasEnded store job = true) : rest job now wall store = .stopped := by
  unfold hasEnded at ended
  unfold rest
  cases found : store.job? job with
  | none =>
      rw [found] at ended
      cases ended
  | some stored =>
      rw [found] at ended
      exact if_pos ended

theorem rest_of_unended (unended : hasEnded store job = false) :
    rest job now wall store = .resting (now + interval (storedAge store job wall)) := by
  unfold hasEnded at unended
  unfold rest storedAge
  cases found : store.job? job with
  | none => rfl
  | some stored =>
      rw [found] at unended
      exact if_neg (Bool.eq_false_iff.1 unended)

/-- All that a check comes to: it stops the poll if the job has ended, and asks for it otherwise. -/
theorem check_of_output {state : SinglePoll × Store} {happening : Happening} {shown : Check}
    (puts : ((clockwork job).step state now happening).2 = some shown) :
    (hasEnded state.2 job = true ∧ shown = .ends ∧
      ((clockwork job).step state now happening).1.1 = .stopped) ∨
    (hasEnded state.2 job = false ∧ shown = .asks (.get job) ∧
      ((clockwork job).step state now happening).1.1.isAsking = true) := by
  obtain ⟨poll, store⟩ := state
  cases happening with
  | turned =>
      rw [clockwork_turned] at puts ⊢
      rcases poll.turn_cases job now store with ⟨due, checks⟩ | ⟨early, -⟩
      · rw [if_pos due, checks] at puts
        rw [checks]
        cases ended : hasEnded store job with
        | true =>
            rw [check_of_ended ended] at puts ⊢
            cases puts
            exact .inl ⟨rfl, rfl, rfl⟩
        | false =>
            rw [check_of_unended ended] at puts ⊢
            cases puts
            exact .inr ⟨rfl, rfl, rfl⟩
      · rw [if_neg (Bool.eq_false_iff.1 early)] at puts
        cases puts
  | answered wall answer => cases puts
  | wrote other => cases puts

theorem step_of_stopped (store : Store) (happening : Happening) :
    ((clockwork job).step (.stopped, store) now happening).2 = none ∧
      ((clockwork job).step (.stopped, store) now happening).1.1 = .stopped := by
  cases happening with
  | turned => exact ⟨rfl, rfl⟩
  | answered wall answer => exact ⟨rfl, rfl⟩
  | wrote other => exact ⟨rfl, rfl⟩

/-- Nothing but its answer makes the poll go on from a request. -/
theorem step_of_asking (asking : poll.isAsking = true) (store : Store) {happening : Happening}
    (unanswered : happening.isAnswer = false) :
    ((clockwork job).step (poll, store) now happening).2 = none ∧
      ((clockwork job).step (poll, store) now happening).1.1.isAsking = true := by
  cases happening with
  | turned =>
      have early : poll.isDue now = false := not_due_of_asking asking
      rcases poll.turn_cases job now store with ⟨due, -⟩ | ⟨-, same⟩
      · cases early.symm.trans due
      · rw [clockwork_turned, same]
        exact ⟨if_neg (Bool.eq_false_iff.1 early), asking⟩
  | answered wall answer => cases unanswered
  | wrote other => exact ⟨rfl, asking⟩

/-- A turn or a failed request changes nothing in the store but the clock. -/
theorem store_step_of_isEmpty {state : SinglePoll × Store} {happening : Happening}
    (empty : happening.isEmpty = true) :
    ((clockwork job).step state now happening).1.2 =
      { state.2 with clock := ((clockwork job).step state now happening).1.2.clock } := by
  obtain ⟨poll, store⟩ := state
  cases happening with
  | turned =>
      rw [clockwork_turned]
      rcases poll.turn_cases job now store with ⟨-, checks⟩ | ⟨-, same⟩
      · rw [checks]
        cases ended : hasEnded store job with
        | true => rw [check_of_ended ended]
        | false =>
            rw [check_of_unended ended]
            rfl
      · rw [same]
  | answered wall answer =>
      cases answer with
      | ok job => cases empty
      | error fault =>
          rw [clockwork_answered]
          cases poll with
          | resting dueAt => rfl
          | asking sequence => rfl
          | stopped => rfl
  | wrote other => cases empty

end Steps

/-! ## Runs -/

section Runs

variable {job : JobId} {poll : SinglePoll} {store : Store} {now dueAt : Nat}
  {happenings : List (Nat × Happening)}

theorem outputs_of_stopped (store : Store) (happenings : List (Nat × Happening)) :
    (clockwork job).outputs (.stopped, store) happenings = [] := by
  refine (Clockwork.outputs_of_quiet (fun state => state.1 = .stopped) (fun _ => True) ?_ rfl
    fun _ _ => trivial).1
  rintro ⟨poll, store⟩ time happening (stopped : poll = .stopped) -
  subst stopped
  exact step_of_stopped store happening

theorem run_of_asking (asking : poll.isAsking = true)
    (unanswered : ∀ happening ∈ happenings, happening.2.isAnswer = false) :
    (clockwork job).outputs (poll, store) happenings = [] ∧
      ((clockwork job).run (poll, store) happenings).1.isAsking = true := by
  refine Clockwork.outputs_of_quiet (fun state : SinglePoll × Store => state.1.isAsking = true)
    (fun happening : Happening => happening.isAnswer = false) ?_ asking unanswered
  rintro ⟨poll, store⟩ time happening (asking : poll.isAsking = true) unanswered
  exact step_of_asking asking store unanswered

/-- Turns and failed requests change nothing in the store but the clock. -/
theorem store_run_of_isEmpty {state : SinglePoll × Store}
    (empty : ∀ happening ∈ happenings, happening.2.isEmpty = true) :
    ((clockwork job).run state happenings).2 =
      { state.2 with clock := ((clockwork job).run state happenings).2.clock } := by
  induction happenings generalizing state with
  | nil => rfl
  | cons first rest ih =>
      obtain ⟨time, happening⟩ := first
      obtain ⟨here, behind⟩ := List.forall_mem_cons.1 empty
      rw [Clockwork.run_cons, ih behind, store_step_of_isEmpty here]

/-- A poll that rests makes its check when its time has come. -/
theorem nextAt_of_resting (early : now ≤ dueAt)
    (timely : (clockwork job).Timely (.resting dueAt, store) now happenings) :
    (clockwork job).NextAt .turned (.resting dueAt, store) now happenings (some dueAt) := by
  have puts {time : Nat} (reached : dueAt ≤ time) (store : Store) :
      ((clockwork job).step (.resting dueAt, store) time .turned).2.isSome = true := by
    have checks : ((clockwork job).step (.resting dueAt, store) time .turned).2 =
        some (.ofCall? (turn (.resting dueAt) job time store).2.2) :=
      if_pos (decide_eq_true reached)
    exact Option.isSome_of_eq_some checks
  refine Clockwork.nextAt_of_waiting (fun state => state.1 = .resting dueAt) (fun _ => True) ?_ ?_
    ?_ rfl early timely fun _ _ => trivial
  · rintro ⟨poll, store⟩ time rfl - -
    rfl
  · rintro ⟨poll, store⟩ rfl
    exact puts (Nat.le_refl dueAt) store
  · rintro ⟨poll, store⟩ time happening rfl - before -
    cases happening with
    | turned =>
        by_cases reached : dueAt ≤ time
        · exact .inl ⟨Nat.le_antisymm before reached, puts reached store⟩
        · have same : (clockwork job).step (.resting dueAt, store) time .turned =
              ((.resting dueAt, store), none) := by
            simp [turn, isDue, dueAt?, reached]
          rw [same]
          exact .inr ⟨rfl, rfl⟩
    | answered wall answer => exact .inr ⟨rfl, rfl⟩
    | wrote other => exact .inr ⟨rfl, rfl⟩

theorem restful (job : JobId) : (clockwork job).Restful .turned := by
  intro state now due isDue
  obtain ⟨poll, store⟩ := state
  rw [clockwork_turned, clockwork_dueAt] at isDue
  rcases poll.turn_cases job now store with ⟨-, checks⟩ | ⟨early, same⟩
  · rw [checks] at isDue
    cases ended : hasEnded store job with
    | true =>
        rw [check_of_ended ended] at isDue
        cases isDue
    | false =>
        rw [check_of_unended ended] at isDue
        cases isDue
  · rw [same] at isDue
    cases poll with
    | resting dueAt =>
        cases isDue
        exact Nat.lt_of_not_le (of_decide_eq_false early)
    | asking sequence => cases isDue
    | stopped => cases isDue

/-- After the answer to its request the poll stops if the stored job has ended, and else makes its
next check when the wait is over. -/
theorem nextAt_of_answered {wall : Instant} {answer : Except Fault Job}
    (asking : poll.isAsking = true)
    (unended : hasEnded (poll.accept job now wall answer store).2 job = false)
    (timely : (clockwork job).Timely (poll.accept job now wall answer store) now happenings) :
    (clockwork job).NextAt .turned (poll.accept job now wall answer store) now happenings
      (some (now + interval (storedAge (poll.accept job now wall answer store).2 job wall))) := by
  have rests : (poll.accept job now wall answer store).1 = _ :=
    (accept_of_asking asking store).trans (rest_of_unended unended)
  generalize poll.accept job now wall answer store = accepted at rests timely ⊢
  obtain ⟨next, merged⟩ := accepted
  have resting : next = .resting (now + interval (storedAge merged job wall)) := rests
  subst resting
  exact nextAt_of_resting (Nat.le_add_right _ _) timely

theorem outputs_of_answered {wall : Instant} {answer : Except Fault Job}
    (asking : poll.isAsking = true)
    (ended : hasEnded (poll.accept job now wall answer store).2 job = true) :
    (clockwork job).outputs (poll.accept job now wall answer store) happenings = [] := by
  have stops : (poll.accept job now wall answer store).1 = _ :=
    (accept_of_asking asking store).trans (rest_of_ended ended)
  generalize poll.accept job now wall answer store = accepted at stops ⊢
  obtain ⟨next, merged⟩ := accepted
  subst stops
  exact outputs_of_stopped merged happenings

end Runs

/-- The checks of the poll of a single job, over any answers and any writes to the store, at any
times. The first check is made at once. A check that finds the stored job ended is the last one; any
other asks for the job, and then nothing but the answer makes the poll go on. If the stored job has
ended when the answer has been merged, whoever has written that, the poll makes no check any more.
Otherwise the next one comes after a wait that the age of the stored job alone settles. Turns and
failed requests change nothing in the store but the clock. The wait is never shorter for an older
job, and up to the greatest age all its arithmetic is exact. The run goes on to any later time by
the turns of the poll alone, so every check that is due is made. -/
theorem checks_until_ended (job : JobId) (now : Nat) (store : Store)
    {happenings : List (Nat × Happening)}
    (timely : (clockwork job).Timely (start now, store) now happenings) :
    let begun := (start now, store)
    (clockwork job).NextAt .turned begun now happenings (some now) ∧
    (∀ before time happening after shown, happenings = before ++ (time, happening) :: after →
      ((clockwork job).step ((clockwork job).run begun before) time happening).2 = some shown →
      let checked := (clockwork job).run begun (before ++ [(time, happening)])
      if hasEnded ((clockwork job).run begun before).2 job then
        shown = .ends ∧ (clockwork job).outputs checked after = []
      else shown = .asks (.get job) ∧ checked.1.isAsking = true) ∧
    (∀ before during after, happenings = before ++ during ++ after →
      ((clockwork job).run begun before).1.isAsking = true →
      (∀ happening ∈ during, happening.2.isAnswer = false) →
      (clockwork job).outputs ((clockwork job).run begun before) during = [] ∧
      ((clockwork job).run begun (before ++ during)).1.isAsking = true) ∧
    (∀ before arrival wall answer after,
      happenings = before ++ (arrival, .answered wall answer) :: after →
      ((clockwork job).run begun before).1.isAsking = true →
      let answered := (clockwork job).run begun (before ++ [(arrival, .answered wall answer)])
      if hasEnded answered.2 job then (clockwork job).outputs answered after = []
      else (clockwork job).NextAt .turned answered arrival after
        (some (arrival + min (2000 + storedAge answered.2 job wall / 30000 * 2000) 10000))) ∧
    (∀ before during after, happenings = before ++ during ++ after →
      (∀ happening ∈ during, happening.2.isEmpty = true) →
      let told := (clockwork job).run begun (before ++ during)
      told.2 = { ((clockwork job).run begun before).2 with clock := told.2.clock }) ∧
    (∀ (stored : Job) (wall : Instant), (stored.ageMillis wall : Int) =
      max 0 (wall.nanosSince stored.timestamps.created) / nanosPerMilli) ∧
    (∀ age older, age ≤ older → older ≤ greatestAge →
      interval age ≤ interval older ∧ 2000 ≤ interval age ∧ interval older ≤ 10000 ∧
      interval age = min (2000 + age / 30000 * 2000) 10000 ∧
      saturate (age / growsEvery * growth) = age / growsEvery * growth ∧
      saturate (shortest + age / growsEvery * growth) = shortest + age / growsEvery * growth ∧
      narrow (min (shortest + age / growsEvery * growth) longest) =
        min (shortest + age / growsEvery * growth) longest) ∧
    (clockwork job).GoesOn .turned begun now happenings := by
  intro begun
  refine ⟨nextAt_of_resting (Nat.le_refl now) timely, ?_, ?_, ?_, ?_,
    fun stored wall => stored.ageMillis_eq wall, ?_, timely.goesOn (restful job)⟩
  · rintro before time happening after shown - puts
    rw [Clockwork.run_append]
    rcases check_of_output puts with ⟨ended, ends, stopped⟩ | ⟨unended, asks, asking⟩
    · rw [if_pos ended]
      refine ⟨ends, ?_⟩
      rw [Clockwork.run_cons, Clockwork.run_nil, ← Prod.eta ((clockwork job).step _ _ _).1, stopped]
      exact outputs_of_stopped _ after
    · rw [if_neg (Bool.eq_false_iff.1 unended)]
      exact ⟨asks, asking⟩
  · rintro before during after - asking unanswered
    rw [Clockwork.run_append]
    exact run_of_asking asking unanswered
  · rintro before arrival wall answer after rfl asking
    rw [Clockwork.run_append]
    obtain ⟨-, -, -, behind⟩ := Clockwork.timely_append.1 timely
    intro answered
    split
    next ended => exact outputs_of_answered asking ended
    next unended =>
      rw [← interval_eq]
      exact nextAt_of_answered asking (Bool.eq_false_iff.2 unended) behind
  · rintro before during after - empty
    rw [Clockwork.run_append]
    exact store_run_of_isEmpty empty
  · intro age older ages aged
    obtain ⟨grown, waited⟩ := saturate_of_age (Nat.le_trans ages aged)
    exact ⟨interval_mono ages, (interval_bounds age).1, (interval_bounds older).2, interval_eq age,
      grown, waited, narrow_of_le (Nat.min_le_right _ _)⟩

/-- A job that somebody follows. -/
def followedJob (status : Status) : Job :=
  { Job.fresh ⟨"job-1"⟩ .remoteBackup .none ⟨5, 0⟩ with status := status }

/-- The first request fails, and the second one tells of a job that is 47 seconds old. Its end is
heard of elsewhere, during the wait that follows. -/
def endedElsewhere : List (Nat × Happening) :=
  [(0, .turned), (11, .answered ⟨50, 0⟩ (.error (.network "reset"))), (2011, .turned),
    (2022, .answered ⟨52, 0⟩ (.ok (followedJob .running))),
    (4000, .wrote ((Store.initial 10000).apply
      ⟨.ofJob (followedJob .failed) ⟨54, 0⟩, .stream, 7⟩).1),
    (6022, .turned), (9000, .turned)]

theorem endedElsewhere_is_not_asked_for :
    let poll := clockwork ⟨"job-1"⟩
    let begun := (start 0, Store.initial 10000)
    poll.Timely begun 0 endedElsewhere ∧
      poll.NextAt .turned (poll.run begun (endedElsewhere.take 2)) 11 (endedElsewhere.drop 2)
        (some 2011) ∧
      poll.NextAt .turned (poll.run begun (endedElsewhere.take 4)) 2022 (endedElsewhere.drop 4)
        (some 6022) ∧
      poll.outputs (poll.run begun (endedElsewhere.take 6)) (endedElsewhere.drop 6) = [] := by
  intro poll begun
  have timely : poll.Timely begun 0 endedElsewhere := by decide
  obtain ⟨-, checks, -, answers, -⟩ := checks_until_ended ⟨"job-1"⟩ 0 (.initial 10000) timely
  have failed := (if_neg (by decide)).mp (answers (endedElsewhere.take 1) 11 ⟨50, 0⟩ _ _ rfl rfl)
  have told := (if_neg (by decide)).mp (answers (endedElsewhere.take 3) 2022 ⟨52, 0⟩ _ _ rfl rfl)
  have found := (if_pos (by decide)).mp (checks (endedElsewhere.take 5) 6022 _ _ .ends rfl rfl)
  have unknown : 11 + min (2000 +
      storedAge (poll.run begun (endedElsewhere.take 2)).2 ⟨"job-1"⟩ ⟨50, 0⟩ / 30000 * 2000) 10000 =
        2011 := by decide
  have aged : 2022 + min (2000 +
      storedAge (poll.run begun (endedElsewhere.take 4)).2 ⟨"job-1"⟩ ⟨52, 0⟩ / 30000 * 2000) 10000 =
        6022 := by decide
  refine ⟨timely, ?_, ?_, ?_⟩
  · rw [← unknown]
    apply failed
  · rw [← aged]
    apply told
  · exact found.2

end SinglePoll

end LiveJobs
