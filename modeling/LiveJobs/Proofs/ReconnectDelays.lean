import LiveJobs.Proofs.ConnectionStates
import LiveJobs.Proofs.Timely

/-!
# The delay before a reconnect

After a failure a connection waits before it asks again. How long is settled by its policy, which
the server may change in any frame, and by the number of failures since it was last let in.

What the server has asked for is kept over all openings. Each frame that names a delay sets the base
delay of the policy, whatever else is in the frame; and the cap rises with every base delay that
differs from the one before, and never falls. So the policy at any point is read off the frames that
were delivered until then. A run has its times, as `Clockwork` tells it: a reconnect is made exactly
when its delay is over.
-/

namespace LiveJobs

/-! ## What the server asks for -/

/-- The delays that the server asks for in some frames. -/
def hints (frames : List Frame) : List Nat := frames.filterMap Frame.retry

@[simp] theorem hints_append (first second : List Frame) :
    hints (first ++ second) = hints first ++ hints second := List.filterMap_append

namespace RetryPolicy

/-- The hints that name another delay than the one in force, if the first of them finds a base
delay in force. -/
def adopted (base : Nat) (hints : List Nat) : List Nat :=
  ((base :: hints).zip hints).filterMap fun pair =>
    if pair.2 = pair.1 then none else some pair.2

/-- What hints make of a policy. The last one is its base delay. The cap has risen with all that
were adopted. -/
def heeding (policy : RetryPolicy) (hints : List Nat) : RetryPolicy :=
  { policy with
    baseDelay := hints.getLast?.getD policy.baseDelay
    maxDelay := (adopted policy.baseDelay hints).foldl max policy.maxDelay }

variable (policy : RetryPolicy) (base hint : Nat) (rest : List Nat)

theorem adopted_cons :
    adopted base (hint :: rest) = if hint = base then adopted hint rest
      else hint :: adopted hint rest := by
  rw [adopted, List.zip_cons_cons, List.filterMap_cons]
  split
  next same => rw [if_pos (by simpa using same), adopted]
  next other differs =>
    rw [Option.ite_none_left_eq_some] at differs
    obtain ⟨differs, same⟩ := differs
    cases same
    rw [if_neg differs, adopted]

@[simp] theorem heeding_nil : policy.heeding [] = policy := rfl

theorem heeding_cons : policy.heeding (hint :: rest) =
    (if hint = policy.baseDelay then policy else policy.withBaseDelay hint).heeding rest := by
  simp only [heeding, adopted_cons, List.getLast?_cons, Option.getD_some]
  split
  next same => simp [same]
  next => simp [withBaseDelay]

theorem heeding_append (first second : List Nat) :
    policy.heeding (first ++ second) = (policy.heeding first).heeding second := by
  induction first generalizing policy with
  | nil => rfl
  | cons hint rest ih => rw [List.cons_append, heeding_cons, heeding_cons, ih]

variable {base} {delay : Nat} {hints : List Nat}

/-- A hint is adopted if it differs from the base delay that is in force when it comes. -/
theorem mem_adopted_iff : delay ∈ adopted base hints ↔
    ∃ before after, hints = before ++ delay :: after ∧ delay ≠ before.getLast?.getD base := by
  induction hints generalizing base with
  | nil => simp [adopted]
  | cons hint rest ih =>
      have split : delay ∈ adopted base (hint :: rest) ↔
          delay = hint ∧ hint ≠ base ∨ delay ∈ adopted hint rest := by
        rw [adopted_cons]
        split
        next same => simp [same]
        next differs => simp [differs]
      rw [split, ih]
      constructor
      · rintro (⟨rfl, differs⟩ | ⟨before, after, rfl, differs⟩)
        · exact ⟨[], rest, rfl, differs⟩
        · exact ⟨hint :: before, after, rfl, by simpa [List.getLast?_cons] using differs⟩
      · rintro ⟨before, after, whole, differs⟩
        cases before with
        | nil =>
            cases whole
            exact .inl ⟨rfl, differs⟩
        | cons first others =>
            cases whole
            exact .inr ⟨others, after, rfl, by simpa [List.getLast?_cons] using differs⟩

end RetryPolicy

namespace Connection

variable {connection : Connection}

/-! ## The policy -/

theorem policy_heed (connection : Connection) (frame : Frame) :
    (connection.heed frame).policy = connection.policy.heeding frame.retry.toList := by
  unfold heed
  cases frame.retry with
  | none => rfl
  | some delay =>
      rw [Option.toList_some, RetryPolicy.heeding_cons, RetryPolicy.heeding_nil]
      dsimp only
      split
      · rfl
      · rfl

theorem policy_takeFrame (connection : Connection) (frame : Frame) :
    (connection.takeFrame frame).1.policy = connection.policy.heeding frame.retry.toList := by
  have resumed : ((connection.heed frame).resumeAfter frame).policy =
      (connection.heed frame).policy := by
    unfold resumeAfter
    split
    · rfl
    · rfl
  rw [← policy_heed, takeFrame]
  split
  · exact resumed
  · rfl

theorem policy_fail (connection : Connection) (now : Nat) :
    (connection.fail now).policy = connection.policy := by
  rcases connection.fail_cases now with ⟨-, dueAt, rests⟩ | ⟨-, givesUp⟩
  · rw [rests]
    exact policy_move _ _
  · rw [givesUp, finish, policy_move]
    exact policy_move _ _

theorem policy_turn (connection : Connection) (now : Nat) :
    (connection.turn now).1.policy = connection.policy := by
  cases asked : (connection.turn now).2 with
  | true =>
      rw [turn_of_asked asked]
      exact policy_move _ _
  | false => rw [turn_of_silent asked]

theorem policy_close (connection : Connection) : connection.close.policy = connection.policy := by
  unfold close
  split
  · rfl
  · exact policy_move _ _

theorem policy_hear_of_no_delivery {signal : Signal} (now : Nat)
    (silent : connection.delivery? signal = none) :
    (connection.hear now signal).1.policy = connection.policy := by
  rcases connection.hear_cases now signal with ⟨-, -, enters⟩ | ⟨-, -, fails⟩ |
    ⟨-, same | ⟨frame, taking, rfl, -⟩⟩
  · rw [enters]
    exact policy_move _ _
  · rw [fails, policy_fail]
  · rw [same]
  · cases (if_pos taking).symm.trans silent

/-- A reaction heeds the frame that is delivered, whatever is in it. -/
theorem policy_react (connection : Connection) (stimulus : Stimulus) :
    (connection.react stimulus).1.policy =
      connection.policy.heeding (hints (delivered (connection.react stimulus).2)) := by
  cases stimulus with
  | turned now =>
      have quiet : delivered (connection.react (.turned now)).2 = [] := by
        rw [react]
        split
        · rfl
        · rfl
      rw [quiet]
      exact connection.policy_turn now
  | heard now signal =>
      rw [react]
      cases delivery : connection.delivery? signal with
      | none =>
          rw [(connection.hear_of_no_delivery now delivery).2]
          exact policy_hear_of_no_delivery now delivery
      | some frame =>
          have one : delivered ([.took frame] ++
              (connection.takeFrame frame).2.toList.map Deed.handed) = [frame] := by
            cases (connection.takeFrame frame).2 <;> rfl
          have carries : hints [frame] = frame.retry.toList := by
            cases retry : frame.retry with
            | none => simp [hints, retry]
            | some delay => simp [hints, retry]
          rw [connection.hear_of_delivery now delivery, policy_takeFrame, ← carries, ← one]
          rfl
  | closed => exact connection.policy_close
  | abandoned => rfl

/-- The policy is read off the frames that were delivered, over all openings. -/
theorem policy_run (connection : Connection) (script : List Stimulus) :
    (connection.run script).1.policy =
      connection.policy.heeding (hints (delivered (connection.run script).2)) := by
  induction script generalizing connection with
  | nil => rfl
  | cons stimulus rest ih =>
      rw [run, ih, policy_react, delivered_append, hints_append, RetryPolicy.heeding_append]

/-! ## By the clock -/

/-- What can happen to a connection at a time. -/
inductive Happening where
  | turned
  | heard (signal : Signal)
  | closed
  | abandoned

namespace Happening

def stimulus (now : Nat) : Happening → Stimulus
  | .turned => .turned now
  | .heard signal => .heard now signal
  | .closed => .closed
  | .abandoned => .abandoned

/-- Whether the connection is shut down, in good order or not. -/
def isShutdown : Happening → Bool
  | .turned => false
  | .heard _ => false
  | .closed => true
  | .abandoned => true

end Happening

/-- Whether a deed is an attempt to be let in. -/
def Deed.isAttempt : Deed → Bool
  | .asked _ => true
  | .took _ => false
  | .handed _ => false

/-- What happens to a connection in the course of a run, without the times. -/
def script (happenings : List (Nat × Happening)) : List Stimulus :=
  happenings.map fun happening => happening.2.stimulus happening.1

/-- A connection by the clock. What it puts out are its attempts to be let in. -/
def clockwork : Clockwork Connection Happening Deed where
  dueAt? connection now := connection.dueAt? now
  step connection now happening :=
    let reacted := connection.react (happening.stimulus now)
    (reacted.1, reacted.2.find? Deed.isAttempt)

variable {now dueAt : Nat} {happenings : List (Nat × Happening)}

theorem clockwork_run (connection : Connection) (happenings : List (Nat × Happening)) :
    clockwork.run connection happenings = (connection.run (script happenings)).1 := by
  induction happenings generalizing connection with
  | nil => rfl
  | cons first rest ih => exact ih _

@[simp] theorem clockwork_dueAt (connection : Connection) (now : Nat) :
    clockwork.dueAt? connection now = connection.dueAt? now := rfl

theorem clockwork_turned (connection : Connection) (now : Nat) :
    clockwork.step connection now .turned = ((connection.turn now).1,
      if (connection.turn now).2 then some (.asked (connection.turn now).1.token) else none) := by
  simp only [clockwork, Happening.stimulus, react]
  split
  · rfl
  · rfl

theorem asks_of_due {time : Nat} (due : connection.dueAt? time = some dueAt)
    (reached : dueAt ≤ time) : (clockwork.step connection time .turned).2.isSome = true := by
  have knocks : connection.turn time = (connection.knock, true) := by
    simp [turn, due, reached]
  rw [clockwork_turned, knocks]
  rfl

/-- Nothing is heard by a connection that has not asked to be let in. -/
theorem step_of_deaf (unasked : connection.phase ≠ .knocking) (shut : connection.phase ≠ .taking)
    (time : Nat) (signal : Signal) :
    clockwork.step connection time (.heard signal) = (connection, none) := by
  have silent : connection.delivery? signal = none := by
    cases signal with
    | frame frame => exact if_neg shut
    | opened => rfl
    | turnedAway => rfl
    | broken => rfl
  have deaf : connection.hear time signal = (connection, none) := by
    cases phase : connection.phase with
    | knocking => exact absurd phase unasked
    | taking => exact absurd phase shut
    | _ => simp [hear, phase]
  simp only [clockwork, Happening.stimulus, react, silent, deaf]
  rfl

/-- The first attempt is made at once, unless the connection is shut down before it. -/
theorem nextAt_of_starting (starting : connection.phase = .starting)
    (timely : clockwork.Timely connection now happenings)
    (unclosed : ∀ happening ∈ happenings, happening.2.isShutdown = false) :
    clockwork.NextAt .turned connection now happenings (some now) := by
  have due {connection : Connection} (starting : connection.phase = .starting) :
      connection.dueAt? now = some now := by simp [dueAt?, starting]
  refine Clockwork.nextAt_of_due (fun connection => connection.phase = .starting)
    (fun happening => happening.2.isShutdown = false) (fun _ => due) ?_ ?_ starting timely unclosed
  · exact fun connection starting => asks_of_due (due starting) (Nat.le_refl now)
  · intro connection happening starting unclosed
    cases happening with
    | turned => exact .inl (asks_of_due (due starting) (Nat.le_refl now))
    | heard signal =>
        rw [step_of_deaf (by simp [starting]) (by simp [starting])]
        exact .inr ⟨rfl, starting⟩
    | closed => cases unclosed
    | abandoned => cases unclosed

/-- A connection that waits for its next attempt makes it when its time has come, unless it is shut
down before. -/
theorem nextAt_of_resting (resting : connection.phase = .resting dueAt) (early : now ≤ dueAt)
    (timely : clockwork.Timely connection now happenings)
    (unclosed : ∀ happening ∈ happenings, happening.2.isShutdown = false) :
    clockwork.NextAt .turned connection now happenings (some dueAt) := by
  have due {connection : Connection} (resting : connection.phase = .resting dueAt) (time : Nat) :
      connection.dueAt? time = some dueAt := by simp [dueAt?, resting]
  refine Clockwork.nextAt_of_waiting (fun connection => connection.phase = .resting dueAt)
    (fun happening => happening.2.isShutdown = false) ?_ ?_ ?_ resting early timely unclosed
  · exact fun connection time resting _ _ => due resting time
  · exact fun connection resting => asks_of_due (due resting dueAt) (Nat.le_refl dueAt)
  · intro connection time happening resting _ before unclosed
    cases happening with
    | turned =>
        by_cases reached : dueAt ≤ time
        · exact .inl ⟨Nat.le_antisymm before reached, asks_of_due (due resting time) reached⟩
        · have waits : connection.turn time = (connection, false) := by
            simp [turn, dueAt?, resting, reached]
          rw [clockwork_turned, waits]
          exact .inr ⟨rfl, resting⟩
    | heard signal =>
        rw [step_of_deaf (by simp [resting]) (by simp [resting])]
        exact .inr ⟨rfl, resting⟩
    | closed => cases unclosed
    | abandoned => cases unclosed

theorem outputs_of_finished (finished : connection.phase = .finished)
    (happenings : List (Nat × Happening)) : clockwork.outputs connection happenings = [] := by
  refine (Clockwork.outputs_of_quiet (fun connection : Connection => connection.phase = .finished)
    (fun _ : Happening => True) ?_ finished fun _ _ => trivial).1
  intro connection time happening finished _
  simp only [clockwork, react_of_finished finished]
  exact ⟨rfl, finished⟩

theorem phase_react_of_isShutdown {happening : Happening} (shutdown : happening.isShutdown = true) :
    (connection.react (happening.stimulus now)).1.phase = .finished := by
  cases happening with
  | turned => cases shutdown
  | heard signal => cases shutdown
  | closed =>
      show connection.close.phase = .finished
      unfold close
      split
      next finished => exact finished
      next => rfl
  | abandoned => rfl

theorem restful : clockwork.Restful .turned := by
  intro connection now due isDue
  rw [clockwork_turned, clockwork_dueAt] at isDue
  cases asked : (connection.turn now).2 with
  | true =>
      rw [turn_of_asked asked] at isDue
      cases isDue
  | false =>
      rw [turn_of_silent asked] at isDue
      rw [turn, isDue] at asked
      dsimp only at asked
      split at asked
      next => cases asked
      next early => exact Nat.lt_of_not_le early

/-- Whether a signal makes a connection fail. -/
def FailsBy (connection : Connection) (signal : Signal) : Prop :=
  connection.phase = .knocking ∧ signal = .turnedAway ∨
    connection.phase = .taking ∧ signal = .broken

theorem FailsBy.hear {signal : Signal} (fails : connection.FailsBy signal) (now : Nat) :
    connection.hear now signal = (connection.fail now, none) := by
  rcases fails with ⟨knocking, rfl⟩ | ⟨taking, rfl⟩
  · simp [Connection.hear, knocking]
  · simp [Connection.hear, taking]

theorem attempts_tally (connection : Connection) :
    connection.tally.attempts = min (connection.attempts + 1) RetryPolicy.unbounded := by
  unfold tally move
  split
  · rfl
  · rfl

/-- A connection that goes on after a failure waits as long as its policy says. -/
theorem phase_fail (unfinished : (connection.fail now).phase ≠ .finished) :
    (connection.fail now).phase = .resting
      (now + (connection.fail now).policy.delayFor (connection.fail now).attempts) := by
  have failed : connection.fail now = if connection.goesOn then
      { connection.tally with phase := .resting (now + connection.tally.policy.delayFor
        (min (connection.attempts + 1) RetryPolicy.unbounded)) }
      else connection.tally.finish := rfl
  rw [failed] at unfinished ⊢
  split
  next => rw [attempts_tally]
  next never =>
    rw [if_neg never] at unfinished
    exact absurd rfl unfinished

/-- A failure is the last one exactly if as many attempts have failed in a row as are allowed to be
repeated. -/
theorem Sound.finished_fail_iff {past : List Incident} {policy : RetryPolicy}
    (sound : connection.Sound policy past) (now : Nat) :
    (connection.fail now).phase = .finished ↔
      policy.maxAttempts < RetryPolicy.unbounded ∧ policy.maxAttempts ≤ failures past := by
  have allowed := sound.goesOn_iff
  rcases connection.fail_cases now with ⟨again, dueAt, failed⟩ | ⟨never, failed⟩
  · rw [again, eq_self_iff_true, true_iff] at allowed
    rw [failed]
    exact ⟨nofun, fun ⟨limited, exhausted⟩ => absurd (allowed limited) (Nat.not_lt.2 exhausted)⟩
  · rw [never] at allowed
    have exhausted : ¬(policy.maxAttempts < RetryPolicy.unbounded →
        failures past < policy.maxAttempts) := fun again => Bool.false_ne_true (allowed.2 again)
    rw [Classical.not_imp, Nat.not_lt] at exhausted
    rw [failed]
    exact ⟨fun _ => exhausted, fun _ => rfl⟩

/-- When a connection is tried again, over any course of attempts, frames, failures and endings, at
any times.

At every point the base delay is the one that the server has asked for last, in whatever frame that
was delivered over any opening; a payload that is malformed and a missing identifier make no
difference. The cap is the greatest of the configured one and all delays that were adopted, which
are those that differed from the base delay in force. The rest of the policy is as configured.

The first attempt is made at once. A failure ends the connection exactly if as many attempts have
failed in a row as are allowed to be repeated. After any other one, the next attempt is made exactly
when the delay is over that this policy has for the number of failures since the connection was last
let in; unless the connection is shut down before that, and then none is made any more. The run goes
on to any later time by the turns of the connection alone, so every attempt that is due is made. -/
theorem reconnects_when_delay_is_over (channel : Channel) (policy : RetryPolicy)
    (token : Option EventId) (now : Nat) {happenings : List (Nat × Happening)}
    (timely : clockwork.Timely (start channel policy token) now happenings) :
    let begun := start channel policy token
    (∀ before after, happenings = before ++ after →
      let told := hints (delivered (begun.run (script before)).2)
      let adopted := RetryPolicy.adopted policy.baseDelay told
      (clockwork.run begun before).policy = { policy with
        baseDelay := told.getLast?.getD policy.baseDelay
        maxDelay := adopted.foldl max policy.maxDelay } ∧
      ∀ delay, delay ∈ adopted ↔ ∃ earlier later, told = earlier ++ delay :: later ∧
        delay ≠ earlier.getLast?.getD policy.baseDelay) ∧
    (∀ waiting after, happenings = waiting ++ after →
      (∀ happening ∈ waiting, happening.2.isShutdown = false) →
      clockwork.NextAt .turned begun now waiting (some now)) ∧
    (∀ before time signal waiting after,
      happenings = before ++ (time, .heard signal) :: (waiting ++ after) →
      (clockwork.run begun before).FailsBy signal →
      (∀ happening ∈ waiting, happening.2.isShutdown = false) →
      let failing := before ++ [(time, .heard signal)]
      let failed := clockwork.run begun failing
      (failed.phase = .finished ↔ policy.maxAttempts < RetryPolicy.unbounded ∧
        policy.maxAttempts ≤ failures (begun.history (script before))) ∧
      (failed.phase ≠ .finished →
        failed.attempts =
          min (failures (begun.history (script failing))) RetryPolicy.unbounded ∧
        clockwork.NextAt .turned failed time waiting
          (some (time + failed.policy.delayFor failed.attempts)))) ∧
    (∀ before time happening after, happenings = before ++ (time, happening) :: after →
      happening.isShutdown = true →
      clockwork.outputs (clockwork.run begun (before ++ [(time, happening)])) after = []) ∧
    clockwork.GoesOn .turned begun now happenings := by
  intro begun
  have sound (before : List (Nat × Happening)) :
      (clockwork.run begun before).Sound policy (begun.history (script before)) := by
    rw [clockwork_run]
    exact (Sound.start channel policy token).run (script before)
  refine ⟨?_, ?_, ?_, ?_, timely.goesOn restful⟩
  · rintro before after -
    rw [clockwork_run, policy_run]
    exact ⟨rfl, fun delay => RetryPolicy.mem_adopted_iff⟩
  · rintro waiting after rfl unclosed
    exact nextAt_of_starting rfl (Clockwork.timely_append.1 timely).1 unclosed
  · rintro before time signal waiting after rfl fails unclosed failing failed
    obtain ⟨-, -, -, behind⟩ := Clockwork.timely_append.1 timely
    obtain ⟨prompt, -⟩ := Clockwork.timely_append.1 behind
    have fails : (clockwork.step (clockwork.run begun before) time (.heard signal)).1 =
        (clockwork.run begun before).fail time := congrArg Prod.fst (fails.hear time)
    have becomes : failed = (clockwork.run begun before).fail time := by
      rw [← fails]
      exact Clockwork.run_append
    refine ⟨?_, fun unfinished =>
      ⟨(sound failing).counted, nextAt_of_resting ?_ (Nat.le_add_right _ _) ?_ unclosed⟩⟩
    · rw [becomes]
      exact (sound before).finished_fail_iff time
    · rw [becomes] at unfinished ⊢
      exact phase_fail unfinished
    · rw [becomes, ← fails]
      exact prompt
  · rintro before time happening after - shutdown
    rw [Clockwork.run_append]
    exact outputs_of_finished (phase_react_of_isShutdown shutdown) after

/-- Delays that grow from a second, and at first to no more than a second and a half. -/
def growing : RetryPolicy := ⟨5, 1000, 1500, .exponential, 0⟩

/-- The server asks for two seconds, and in a frame that is malformed for a quarter of a second. The
connection breaks, and is turned away twice after that. -/
def hinted : List (Nat × Happening) :=
  [(0, .turned), (5, .heard .opened),
    (7, .heard (.frame ⟨some "1", some "ping", "", some 2000⟩)),
    (8, .heard (.frame ⟨none, none, "broken", some 250⟩)), (9, .heard .broken),
    (100, .turned), (259, .turned), (260, .heard .turnedAway), (760, .turned),
    (770, .heard .turnedAway), (1500, .closed), (2000, .turned)]

theorem hinted_delays_are_kept :
    let begun := start .backgroundJobs growing none
    clockwork.Timely begun 0 hinted ∧
      clockwork.NextAt .turned begun 0 [] (some 0) ∧
      clockwork.NextAt .turned (clockwork.run begun (hinted.take 5)) 9 ((hinted.drop 5).take 2)
        (some 259) ∧
      clockwork.NextAt .turned (clockwork.run begun (hinted.take 5)) 9 [] (some 259) ∧
      clockwork.NextAt .turned (clockwork.run begun (hinted.take 8)) 260 ((hinted.drop 8).take 1)
        (some 760) ∧
      clockwork.outputs (clockwork.run begun (hinted.take 11)) (hinted.drop 11) = [] ∧
      (clockwork.run begun (hinted.take 5)).policy.maxDelay = 2000 := by
  intro begun
  have timely : clockwork.Timely begun 0 hinted := by decide +kernel
  obtain ⟨-, first, attempts, closed, -⟩ :=
    reconnects_when_delay_is_over .backgroundJobs growing none 0 timely
  have broke := (attempts (hinted.take 4) 9 .broken ((hinted.drop 5).take 2) (hinted.drop 7) rfl
    (.inr (by decide +kernel)) (by decide)).2 (by decide +kernel)
  have alone := (attempts (hinted.take 4) 9 .broken [] (hinted.drop 5) rfl
    (.inr (by decide +kernel)) nofun).2 (by decide +kernel)
  have turnedAway := (attempts (hinted.take 7) 260 .turnedAway ((hinted.drop 8).take 1)
    (hinted.drop 9) rfl (.inl (by decide +kernel)) (by decide)).2 (by decide +kernel)
  have untilBroken : hinted.take 4 ++ [(9, .heard .broken)] = hinted.take 5 := rfl
  have untilTurnedAway : hinted.take 7 ++ [(260, .heard .turnedAway)] = hinted.take 8 := rfl
  have once : 9 + (clockwork.run begun (hinted.take 5)).policy.delayFor
      (clockwork.run begun (hinted.take 5)).attempts = 259 := by decide +kernel
  have twice : 260 + (clockwork.run begun (hinted.take 8)).policy.delayFor
      (clockwork.run begun (hinted.take 8)).attempts = 760 := by decide +kernel
  simp only [untilBroken, begun, once] at broke alone
  simp only [untilTurnedAway, begun, twice] at turnedAway
  refine ⟨timely, first [] hinted rfl nofun, ?_, ?_, ?_, ?_, by decide +kernel⟩
  -- Written with `@`, so that the run is not evaluated to see what is expected here.
  · exact @And.right _ _ broke
  · exact @And.right _ _ alone
  · exact @And.right _ _ turnedAway
  · exact closed (hinted.take 10) 1500 .closed (hinted.drop 11) rfl rfl

end Connection

end LiveJobs
