import LiveJobs.Proofs.PageRequests

/-!
# The rhythm of the displayed page

The poll of the displayed page keeps the rhythm of its requests, whatever time their answers take.
The tick moves in three ways: from where it was, if it is taken on time or a little late; from the
moment at which it is taken, if that is later; and from the moment of a request that was made for
another reason. All of them come to one period behind the latest request, as long as no answer comes
a little late. `BulkPoll.InStep` says so, and is kept by every step.

A query that was set before a request may have been left unseen by it, if the poll took up its tick
first. Then the next request is made for that query, as soon as the answer is there.
-/

namespace LiveJobs

open LiveJobs.Time

namespace Ticker

variable {ticker : Ticker} {now : Nat}

theorem isDue_iff : ticker.isDue now = true ↔ ticker.dueAt ≤ now := decide_eq_true_iff

/-- A tick that is taken on time, or too late to keep the rhythm, is followed by the next one a
period later. -/
theorem dueAt_take (punctual : ticker.dueAt = now ∨ ticker.dueAt + tolerance < now) :
    (ticker.take now).dueAt = now + ticker.period := by
  unfold take
  split
  next => rfl
  next kept =>
    rw [punctual.resolve_right kept]

end Ticker

namespace BulkPoll

/-! ## Latencies -/

/-- The time of the latest request when something has happened, given that of the one before. -/
def latestRequest (since : Nat) (state : BulkPoll × Store) (time : Nat) (happening : Happening) :
    Nat :=
  if (clockwork.step state time happening).2.isSome then time else since

/-- The times that the answers took which came in a run, given the time of the latest request before
it. -/
def latencies (since : Nat) (state : BulkPoll × Store) : List (Nat × Happening) → List Nat
  | [] => []
  | (time, happening) :: rest =>
      (if state.1.phase.isAsking && happening.isAnswer then [time - since] else []) ++
        latencies (latestRequest since state time happening)
          (clockwork.step state time happening).1 rest

/-- The time of the latest request after a run. -/
def latestRequestAfter (since : Nat) (state : BulkPoll × Store) : List (Nat × Happening) → Nat
  | [] => since
  | (time, happening) :: rest =>
      latestRequestAfter (latestRequest since state time happening)
        (clockwork.step state time happening).1 rest

theorem latestRequest_of_silent {since : Nat} {state : BulkPoll × Store} {time : Nat}
    {happening : Happening} (silent : (clockwork.step state time happening).2 = none) :
    latestRequest since state time happening = since := if_neg (by simp [silent])

theorem latestRequest_of_output {since : Nat} {state : BulkPoll × Store} {time : Nat}
    {happening : Happening} {call : Call}
    (puts : (clockwork.step state time happening).2 = some call) :
    latestRequest since state time happening = time := if_pos (by simp [puts])

section Latencies

variable {since time : Nat} {state : BulkPoll × Store} {happening : Happening}
  {before rest : List (Nat × Happening)} {Fits : Nat → Prop}

theorem forall_latencies_cons :
    (∀ latency ∈ latencies since state ((time, happening) :: rest), Fits latency) ↔
      (state.1.phase.isAsking = true → happening.isAnswer = true → Fits (time - since)) ∧
      ∀ latency ∈ latencies (latestRequest since state time happening)
        (clockwork.step state time happening).1 rest, Fits latency := by
  rw [latencies, List.forall_mem_append]
  cases asking : state.1.phase.isAsking with
  | true =>
      cases happening.isAnswer with
      | true => simp
      | false => simp
  | false => simp

theorem latestRequestAfter_of_silent (silent : clockwork.outputs state rest = []) :
    latestRequestAfter since state rest = since := by
  induction rest generalizing state with
  | nil => rfl
  | cons head others ih =>
      obtain ⟨time, happening⟩ := head
      rw [Clockwork.outputs_cons, List.append_eq_nil_iff, List.map_eq_nil_iff] at silent
      obtain ⟨here, behind⟩ := silent
      rw [latestRequestAfter, latestRequest_of_silent (Option.toList_eq_nil_iff.1 here)]
      exact ih behind

theorem latencies_append :
    latencies since state (before ++ rest) =
      latencies since state before ++
        latencies (latestRequestAfter since state before) (clockwork.run state before) rest := by
  induction before generalizing since state with
  | nil => rfl
  | cons first others ih =>
      obtain ⟨time, happening⟩ := first
      rw [List.cons_append, latencies, latencies, ih, List.append_assoc, Clockwork.run_cons,
        latestRequestAfter]

end Latencies

/-- Whether the list stays mounted in the course of a run, by a number at first, while no query is
set and the poll is not stopped. -/
def IsSteady (count : Nat) : List (Nat × Happening) → Prop
  | [] => 0 < count
  | (_, happening) :: rest =>
      0 < count ∧ happening.query? = none ∧ happening.isStop = false ∧
        IsSteady (happening.mounts count) rest

instance decidableIsSteady (count : Nat) :
    (happenings : List (Nat × Happening)) → Decidable (IsSteady count happenings)
  | [] => inferInstanceAs (Decidable (0 < count))
  | (_, happening) :: rest =>
      have := decidableIsSteady (happening.mounts count) rest
      inferInstanceAs (Decidable (_ ∧ _ ∧ _ ∧ _))

/-- A run that is steady stays so from any point on. -/
theorem steady_append {count : Nat} {before rest : List (Nat × Happening)}
    (steady : IsSteady count (before ++ rest)) :
    (∀ happening ∈ before, happening.2.isStop = false) ∧
      IsSteady (mountsAfter count before) rest := by
  induction before generalizing count with
  | nil => exact ⟨nofun, steady⟩
  | cons head others ih =>
      obtain ⟨-, -, unstopped, steadily⟩ := steady
      obtain ⟨goesOn, behind⟩ := ih steadily
      exact ⟨List.forall_mem_cons.2 ⟨unstopped, goesOn⟩, behind⟩

/-! ## The first request -/

/-- A poll that stays mounted from its start on asks at once. -/
theorem nextAt_of_starting {interval mounts now : Nat} {query : Query} {next : Precedence}
    {past happenings : List (Nat × Happening)} {poll : BulkPoll} {store : Store}
    (sound : poll.Sound interval mounts query past) (moves : 0 < interval)
    (starting : poll.phase = .starting) (timely : clockwork.Timely (poll, store) now happenings)
    (steady : IsSteady (mountsAfter mounts past) happenings) :
    clockwork.NextAt (.turned next) (poll, store) now happenings (some now) := by
  induction happenings generalizing poll store past with
  | nil =>
      have poised : poll.IsPoised := .inl ⟨starting, by rw [sound.period]; omega⟩
      have mounted := isMounted_eq_true.2 (sound.counted ▸ steady)
      rw [Clockwork.nextAt_nil]
      rintro time ⟨⟩
      exact ⟨Nat.le_refl now, due_of_poised poised,
        Option.isSome_of_eq_some (asks_of_poised sound.toIsOpen mounted poised)⟩
  | cons head rest ih =>
      obtain ⟨time, happening⟩ := head
      obtain ⟨goesOn, punctual, behind⟩ := timely
      obtain ⟨some, unchosen, unstopped, steadily⟩ := steady
      have poised : poll.IsPoised := .inl ⟨starting, by rw [sound.period]; omega⟩
      have mounted := isMounted_eq_true.2 (sound.counted ▸ some)
      have atOnce : time = now := by
        have := punctual now (due_of_poised poised)
        omega
      subst atOnce
      cases puts : (clockwork.step (poll, store) time happening).2 with
      | some call => rw [Clockwork.nextAt_of_output puts]
      | none =>
          have still : (clockwork.step (poll, store) time happening).1.1.phase = .starting := by
            cases happening with
            | turned first =>
                cases puts.symm.trans (asks_of_poised sound.toIsOpen mounted poised)
            | answered first wall answer =>
                rw [clockwork_answered,
                  accept_of_not_asking (congrArg BulkPhase.isAsking starting)]
                exact starting
            | mounted => exact (poll.phase_setMounts _).trans starting
            | unmounted => exact (poll.phase_setMounts _).trans starting
            | queried query => cases unchosen
            | stopped => cases unstopped
            | wrote other => exact starting
          rw [← mountsAfter_concat mounts time] at steadily
          rw [Clockwork.nextAt_of_silent puts]
          exact ih (sound.step store time happening) still behind steadily

/-! ## In step -/

/-- Whether the ticks go along with the requests, of which the latest was at some time. -/
structure InStep (interval since now : Nat) (poll : BulkPoll) : Prop extends poll.IsOpen where
  period : poll.ticker.period = interval
  began : since ≤ now
  asking : poll.phase.isAsking = true → poll.ticker.dueAt = since + interval
  watching : poll.phase = .watching → now ≤ poll.ticker.dueAt

namespace InStep

variable {interval since now time : Nat} {poll : BulkPoll} {store : Store} {happening : Happening}

theorem start (interval mounts : Nat) (query : Query) (now : Nat) :
    (start interval mounts query now).InStep interval now now where
  mountsOpen := rfl
  queryOpen := rfl
  period := rfl
  began := Nat.le_refl now
  asking := nofun
  watching := nofun

/-- Time does not pass the tick for which the poll waits. -/
theorem early (inStep : poll.InStep interval since now)
    (punctual : ∀ due ∈ poll.dueAt? now, time ≤ max now due) (watching : poll.phase = .watching) :
    time ≤ poll.ticker.dueAt := by
  have before := inStep.watching watching
  cases news : poll.queryNews with
  | true =>
      have := punctual now (by simp [dueAt?, watching, news])
      omega
  | false =>
      have := punctual poll.ticker.dueAt (by simp [dueAt?, watching, news, inStep.queryOpen])
      omega

/-- Whatever the poll does at once keeps it in step, if the tick that it may find is taken on time
or too late to keep the rhythm. -/
theorem acts {result : BulkPoll × Store × Option Call} (inStep : poll.InStep interval since now)
    (acts : poll.Acts time store result) (goesOn : now ≤ time)
    (early : poll.phase = .watching → time ≤ poll.ticker.dueAt)
    (taken : poll.phase.isAsking = true → poll.ticker.isDue time = true →
      poll.ticker.dueAt = time ∨ poll.ticker.dueAt + Ticker.tolerance < time) :
    result.1.InStep interval (if result.2.2.isSome then time else since) time := by
  obtain ⟨-, -, isOpen, period⟩ := acts.kept
  have opens := isOpen inStep.toIsOpen
  have keeps := period.trans inStep.period
  have began := Nat.le_trans inStep.began goesOn
  cases acts with
  | begins =>
      refine ⟨opens, keeps, Nat.le_refl time, fun _ => ?_, nofun⟩
      exact congrArg (time + ·) inStep.period
  | ticks mounted mountsNews running due =>
      refine ⟨opens, keeps, Nat.le_refl time, fun _ => ?_, nofun⟩
      have punctual : poll.ticker.dueAt = time ∨ poll.ticker.dueAt + Ticker.tolerance < time := by
        rcases running with watching | asking
        · exact .inl (Nat.le_antisymm (Ticker.isDue_iff.1 due) (early watching))
        · exact taken asking due
      exact (Ticker.dueAt_take punctual).trans (congrArg (time + ·) inStep.period)
  | parks => exact ⟨opens, keeps, began, nofun, nofun⟩
  | watches mountsNews running heeded notYet =>
      refine ⟨opens, keeps, began, nofun, fun _ => ?_⟩
      exact Nat.le_of_not_le fun due => ne_true_of_eq_false notYet (Ticker.isDue_iff.2 due)
  | rests => exact ⟨opens, keeps, began, inStep.asking, early⟩
  | stops => exact ⟨opens, keeps, began, nofun, nofun⟩

/-- Every step keeps the poll in step, if no answer comes a little late. -/
theorem step (inStep : poll.InStep interval since now) (store : Store) (goesOn : now ≤ time)
    (punctual : ∀ due ∈ poll.dueAt? now, time ≤ max now due)
    (fits : poll.phase.isAsking = true → happening.isAnswer = true →
      time - since ≤ interval ∨ interval + Ticker.tolerance < time - since) :
    (clockwork.step (poll, store) time happening).1.1.InStep interval
      (latestRequest since (poll, store) time happening) time := by
  have early := inStep.early punctual
  have began := Nat.le_trans inStep.began goesOn
  cases happening with
  | turned first =>
      cases asking : poll.phase.isAsking with
      | true =>
          rw [latestRequest, clockwork_turned, turn_of_asking asking]
          exact ⟨inStep.toIsOpen, inStep.period, began, inStep.asking, early⟩
      | false =>
          refine inStep.acts (acts_turn inStep.toIsOpen) goesOn early ?_
          intro other
          cases asking.symm.trans other
  | answered first wall answer =>
      refine inStep.acts (acts_accept inStep.toIsOpen wall answer) goesOn early ?_
      intro asking due
      have dueAt := inStep.asking asking
      have fits := fits asking rfl
      rw [Ticker.isDue_iff] at due
      omega
  | mounted =>
      rw [latestRequest, clockwork_mounted, setMounts_of_open inStep.toIsOpen]
      exact ⟨⟨inStep.mountsOpen, inStep.queryOpen⟩, inStep.period, began, inStep.asking, early⟩
  | unmounted =>
      rw [latestRequest, clockwork_unmounted, setMounts_of_open inStep.toIsOpen]
      exact ⟨⟨inStep.mountsOpen, inStep.queryOpen⟩, inStep.period, began, inStep.asking, early⟩
  | queried query =>
      rw [latestRequest, clockwork_queried, setQuery_of_open inStep.toIsOpen]
      exact ⟨⟨inStep.mountsOpen, inStep.queryOpen⟩, inStep.period, began, inStep.asking, early⟩
  | stopped => exact ⟨⟨inStep.mountsOpen, inStep.queryOpen⟩, inStep.period, began, nofun, nofun⟩
  | wrote other => exact ⟨inStep.toIsOpen, inStep.period, began, inStep.asking, early⟩

/-- The poll is in step after a run in which no answer comes a little late. -/
theorem run {happenings : List (Nat × Happening)} (inStep : poll.InStep interval since now)
    (timely : clockwork.Timely (poll, store) now happenings)
    (fits : ∀ latency ∈ latencies since (poll, store) happenings,
      latency ≤ interval ∨ interval + Ticker.tolerance < latency) :
    (clockwork.run (poll, store) happenings).1.InStep interval
      (latestRequestAfter since (poll, store) happenings) (Clockwork.moment now happenings) := by
  induction happenings generalizing poll store since now with
  | nil => exact inStep
  | cons first rest ih =>
      obtain ⟨time, happening⟩ := first
      obtain ⟨goesOn, punctual, behind⟩ := timely
      obtain ⟨here, later⟩ := forall_latencies_cons.1 fits
      exact ih (inStep.step store goesOn punctual here) behind later

end InStep

/-! ## In rhythm -/

/-- Whether the poll is in a rhythm that the latest request has set, with a number of mounts. -/
structure InRhythm (interval since now count : Nat) (poll : BulkPoll) : Prop
    extends poll.InStep interval since now where
  counted : poll.mounts = count
  heeded : poll.queryNews = false
  running : poll.phase = .watching ∨ poll.phase.isAsking = true
  dueAt : poll.ticker.dueAt = since + interval

namespace InRhythm

variable {interval since now time count : Nat} {poll : BulkPoll} {store : Store}
  {happening : Happening}

/-- A request that leaves no query unseen sets the rhythm. -/
theorem of_asks {before : BulkPoll} {result : BulkPoll × Store × Option Call} {call : Call}
    (acts : before.Acts time store result) (asks : result.2.2 = some call)
    (inStep : result.1.InStep interval time time) (counted : before.mounts = count)
    (heeded : result.1.queryNews = false) : result.1.InRhythm interval time time count := by
  rcases acts.asks_cases with ⟨-, -, asking⟩ | rests
  · exact ⟨inStep, acts.kept.1.trans counted, heeded, .inr asking, inStep.asking asking⟩
  · rw [rests] at asks
    cases asks

theorem withMountsNews (inRhythm : poll.InRhythm interval since now count) (mountsNews : Bool) :
    { poll with mountsNews := mountsNews }.InRhythm interval since now count where
  mountsOpen := inRhythm.mountsOpen
  queryOpen := inRhythm.queryOpen
  period := inRhythm.period
  began := inRhythm.began
  asking := inRhythm.asking
  watching := inRhythm.watching
  counted := inRhythm.counted
  heeded := inRhythm.heeded
  running := inRhythm.running
  dueAt := inRhythm.dueAt

/-- A mounted poll in rhythm that looks for the tick asks if it is due, and waits for it
otherwise. -/
theorem watch_cases (inRhythm : poll.InRhythm interval since now count) (mounted : 0 < count)
    (first : Precedence) (time : Nat) (store : Store) :
    (since + interval ≤ time ∧ (poll.watch first time store).2.2 = some (.list poll.query)) ∨
    (time < since + interval ∧
      poll.watch first time store = ({ poll with phase := .watching }, store, none)) := by
  rw [← inRhythm.dueAt]
  cases due : poll.ticker.isDue time with
  | true =>
      have isMounted : poll.isMounted = true := isMounted_eq_true.2 (inRhythm.counted ▸ mounted)
      rw [watch_of_due inRhythm.toIsOpen isMounted inRhythm.heeded due]
      exact .inl ⟨Ticker.isDue_iff.1 due, rfl⟩
  | false =>
      rw [watch_of_early inRhythm.toIsOpen inRhythm.heeded due]
      refine .inr ⟨?_, rfl⟩
      exact Nat.lt_of_not_le fun reached => ne_true_of_eq_false due (Ticker.isDue_iff.2 reached)

/-- A poll in rhythm waits for the tick, or for its answer and then for the tick, and asks when both
have come. -/
theorem step (inRhythm : poll.InRhythm interval since now count) (store : Store)
    (mounted : 0 < count) (goesOn : now ≤ time)
    (punctual : ∀ due ∈ poll.dueAt? now, time ≤ max now due)
    (unchosen : happening.query? = none) (unstopped : happening.isStop = false)
    (fits : poll.phase.isAsking = true → happening.isAnswer = true →
      time - since ≤ interval ∨ interval + Ticker.tolerance < time - since) :
    ((clockwork.step (poll, store) time happening).2 = none ∧
      (clockwork.step (poll, store) time happening).1.1.InRhythm interval since time
        (happening.mounts count) ∧
      (poll.phase = .watching ∨ happening.isAnswer = true →
        (clockwork.step (poll, store) time happening).1.1.phase = .watching)) ∨
    ∃ call, (clockwork.step (poll, store) time happening).2 = some call ∧
      (clockwork.step (poll, store) time happening).1.1.InRhythm interval time time
        (happening.mounts count) ∧
      since + interval ≤ time ∧ (poll.phase = .watching → time = since + interval) := by
  have kept := inRhythm.toInStep.step store goesOn punctual fits
  have early := inRhythm.early punctual
  rw [inRhythm.dueAt] at early
  rw [latestRequest] at kept
  cases happening with
  | turned first =>
      rw [clockwork_turned] at kept ⊢
      have acts : poll.Acts time store (poll.turn first time store) := acts_turn inRhythm.toIsOpen
      rcases inRhythm.running with watching | asking
      · rw [turn_of_watching watching] at kept acts ⊢
        rcases inRhythm.watch_cases mounted first time store with ⟨due, asks⟩ | ⟨notYet, waits⟩
        · rw [asks] at kept
          have next := of_asks acts asks kept inRhythm.counted (acts.heeded inRhythm.heeded)
          exact .inr ⟨_, asks, next, due, fun _ => Nat.le_antisymm (early watching) due⟩
        · rw [waits] at kept ⊢
          exact .inl ⟨rfl, ⟨kept, inRhythm.counted, inRhythm.heeded, .inl rfl, inRhythm.dueAt⟩,
            fun _ => rfl⟩
      · rw [turn_of_asking asking] at kept ⊢
        exact .inl ⟨rfl, ⟨kept, inRhythm.counted, inRhythm.heeded, .inr asking, inRhythm.dueAt⟩,
          fun waits => waits.resolve_right Bool.false_ne_true⟩
  | answered first wall answer =>
      rw [clockwork_answered] at kept ⊢
      have acts : poll.Acts time _ (poll.accept first time wall answer store) :=
        acts_accept inRhythm.toIsOpen wall answer
      rcases inRhythm.running with watching | asking
      · rw [accept_of_not_asking (congrArg BulkPhase.isAsking watching)] at kept ⊢
        exact .inl ⟨rfl, ⟨kept, inRhythm.counted, inRhythm.heeded, .inl watching, inRhythm.dueAt⟩,
          fun _ => watching⟩
      · rw [accept_of_asking asking, resume_of_mounted
          (isMounted_eq_true.2 (inRhythm.counted ▸ mounted))] at kept acts ⊢
        rcases (inRhythm.withMountsNews false).watch_cases mounted first time
            (poll.absorb wall answer store) with ⟨due, asks⟩ | ⟨notYet, waits⟩
        · rw [asks] at kept
          refine .inr ⟨_, asks, of_asks acts asks kept inRhythm.counted
            (acts.heeded inRhythm.heeded), due, ?_⟩
          intro watching
          cases (congrArg BulkPhase.isAsking watching).symm.trans asking
        · rw [waits] at kept ⊢
          exact .inl ⟨rfl, ⟨kept, inRhythm.counted, inRhythm.heeded, .inl rfl, inRhythm.dueAt⟩,
            fun _ => rfl⟩
  | mounted =>
      rw [clockwork_mounted, setMounts_of_open inRhythm.toIsOpen] at kept ⊢
      exact .inl ⟨rfl, ⟨kept, congrArg (· + 1) inRhythm.counted, inRhythm.heeded, inRhythm.running,
        inRhythm.dueAt⟩, fun waits => waits.resolve_right Bool.false_ne_true⟩
  | unmounted =>
      rw [clockwork_unmounted, setMounts_of_open inRhythm.toIsOpen] at kept ⊢
      exact .inl ⟨rfl, ⟨kept, congrArg (· - 1) inRhythm.counted, inRhythm.heeded, inRhythm.running,
        inRhythm.dueAt⟩, fun waits => waits.resolve_right Bool.false_ne_true⟩
  | queried query => cases unchosen
  | stopped => cases unstopped
  | wrote other =>
      exact .inl ⟨rfl, ⟨kept, inRhythm.counted, inRhythm.heeded, inRhythm.running, inRhythm.dueAt⟩,
        fun waits => waits.resolve_right Bool.false_ne_true⟩

variable {arrival : Nat} {first next : Precedence} {wall : Instant} {answer : Except Fault Page}
  {during after happenings : List (Nat × Happening)}

/-- A poll that stays mounted asks exactly at the tick for which it waits. -/
theorem nextAt_of_watching (inRhythm : poll.InRhythm interval since now count)
    (watching : poll.phase = .watching)
    (timely : clockwork.Timely (poll, store) now happenings) (steady : IsSteady count happenings)
    (fits : ∀ latency ∈ latencies since (poll, store) happenings,
      latency ≤ interval ∨ interval + Ticker.tolerance < latency) :
    clockwork.NextAt (.turned next) (poll, store) now happenings (some (since + interval)) := by
  induction happenings generalizing poll store now count with
  | nil =>
      have early := inRhythm.watching watching
      have due : poll.dueAt? now = some poll.ticker.dueAt := by
        simp [dueAt?, watching, inRhythm.heeded, inRhythm.queryOpen]
      rw [inRhythm.dueAt] at early due
      rw [Clockwork.nextAt_nil]
      rintro time ⟨⟩
      refine ⟨early, due, ?_⟩
      rw [clockwork_turned, turn_of_watching watching]
      rcases inRhythm.watch_cases steady next (since + interval) store with
        ⟨-, asks⟩ | ⟨notYet, -⟩
      · exact Option.isSome_of_eq_some asks
      · exact absurd notYet (Nat.lt_irrefl _)
  | cons head rest ih =>
      obtain ⟨time, happening⟩ := head
      obtain ⟨goesOn, punctual, behind⟩ := timely
      obtain ⟨mounted, unchosen, unstopped, steadily⟩ := steady
      obtain ⟨here, later⟩ := forall_latencies_cons.1 fits
      rcases inRhythm.step store mounted goesOn punctual unchosen unstopped here with
        ⟨silent, next, waits⟩ | ⟨call, puts, -, -, onTime⟩
      · rw [Clockwork.nextAt_of_silent silent]
        rw [latestRequest_of_silent silent] at later
        exact ih next (waits (.inl watching)) behind steadily later
      · rw [Clockwork.nextAt_of_output puts, onTime watching]

/-- After an answer a poll that stays mounted asks at the tick, or at once if it has missed it. -/
theorem nextAt_of_answered (inRhythm : poll.InRhythm interval since now count)
    (timely : clockwork.Timely (poll, store) now ((arrival, .answered first wall answer) :: after))
    (steady : IsSteady count ((arrival, .answered first wall answer) :: after))
    (fits : ∀ latency ∈ latencies since (poll, store)
      ((arrival, .answered first wall answer) :: after),
      latency ≤ interval ∨ interval + Ticker.tolerance < latency) :
    clockwork.NextAt (.turned next) (poll, store) arrival
      ((arrival, .answered first wall answer) :: after)
      (some (since + max interval (arrival - since))) := by
  obtain ⟨goesOn, punctual, behind⟩ := timely
  obtain ⟨mounted, unchosen, unstopped, steadily⟩ := steady
  obtain ⟨here, later⟩ := forall_latencies_cons.1 fits
  rcases inRhythm.step store mounted goesOn punctual unchosen unstopped here with
    ⟨silent, resumed, waits⟩ | ⟨call, puts, -, late, -⟩
  · have watching := waits (.inr rfl)
    have early := resumed.watching watching
    rw [resumed.dueAt] at early
    have expected : since + max interval (arrival - since) = since + interval := by omega
    rw [Clockwork.nextAt_of_silent silent, expected]
    rw [latestRequest_of_silent silent] at later
    exact nextAt_of_watching resumed watching behind steadily later
  · have expected : since + max interval (arrival - since) = arrival := by omega
    rw [Clockwork.nextAt_of_output puts, expected]

/-- What happens before the answer does not change the time of the next request. -/
theorem nextAt_of_asking (inRhythm : poll.InRhythm interval since now count)
    (asking : poll.phase.isAsking = true)
    (unanswered : ∀ happening ∈ during, happening.2.isAnswer = false)
    (timely : clockwork.Timely (poll, store) now
      (during ++ (arrival, .answered first wall answer) :: after))
    (steady : IsSteady count (during ++ (arrival, .answered first wall answer) :: after))
    (fits : ∀ latency ∈ latencies since (poll, store)
      (during ++ (arrival, .answered first wall answer) :: after),
      latency ≤ interval ∨ interval + Ticker.tolerance < latency) :
    clockwork.NextAt (.turned next) (clockwork.run (poll, store) during) arrival
      ((arrival, .answered first wall answer) :: after)
      (some (since + max interval (arrival - since))) := by
  induction during generalizing poll store now count with
  | nil => exact nextAt_of_answered inRhythm timely steady fits
  | cons head rest ih =>
      obtain ⟨time, happening⟩ := head
      obtain ⟨unanswered, noAnswers⟩ := List.forall_mem_cons.1 unanswered
      obtain ⟨goesOn, punctual, behind⟩ := timely
      obtain ⟨mounted, unchosen, unstopped, steadily⟩ := steady
      obtain ⟨here, later⟩ := forall_latencies_cons.1 fits
      obtain ⟨silent, phase, -⟩ := step_of_asking asking store time unanswered unstopped
      rcases inRhythm.step store mounted goesOn punctual unchosen unstopped here with
        ⟨-, next, -⟩ | ⟨call, puts, -⟩
      · rw [latestRequest_of_silent silent] at later
        exact ih next (by rw [phase]; exact asking) noAnswers behind steadily later
      · cases silent.symm.trans puts

/-- A poll that stays mounted and is answered in time asks once every interval. -/
theorem requests (inRhythm : poll.InRhythm interval since now count)
    (timely : clockwork.Timely (poll, store) now happenings) (steady : IsSteady count happenings)
    (prompt : ∀ latency ∈ latencies since (poll, store) happenings, latency ≤ interval) :
    ∃ number,
      (clockwork.outputs (poll, store) happenings).map Prod.fst =
        (List.range number).map (fun index => since + (index + 1) * interval) ∧
      ((clockwork.run (poll, store) happenings).1.phase.isAsking = false →
        Clockwork.moment now happenings ≤ since + (number + 1) * interval) := by
  induction happenings generalizing poll store since now count with
  | nil =>
      refine ⟨0, rfl, fun unasked => ?_⟩
      have watching := inRhythm.running.resolve_right (ne_true_of_eq_false unasked)
      have early := inRhythm.watching watching
      rw [inRhythm.dueAt] at early
      simpa using early
  | cons first rest ih =>
      obtain ⟨time, happening⟩ := first
      obtain ⟨goesOn, punctual, behind⟩ := timely
      obtain ⟨mounted, unchosen, unstopped, steadily⟩ := steady
      obtain ⟨here, later⟩ := forall_latencies_cons.1 prompt
      rcases inRhythm.step store mounted goesOn punctual unchosen unstopped
          (fun asking answered => .inl (here asking answered)) with
        ⟨silent, next, -⟩ | ⟨call, puts, next, late, onTime⟩
      · rw [latestRequest_of_silent silent] at later
        rw [Clockwork.outputs_of_silent silent]
        exact ih next behind steadily later
      · have reached : time = since + interval := by
          rcases inRhythm.running with watching | asking
          · exact onTime watching
          · cases answered : happening.isAnswer with
            | true =>
                have inTime := here asking answered
                omega
            | false =>
                have silent := (step_of_asking asking store time answered unstopped).1
                cases silent.symm.trans puts
        rw [latestRequest_of_output puts] at later
        obtain ⟨number, times, ends⟩ := ih next behind steadily later
        refine ⟨number + 1, ?_, ?_⟩
        · have shifted : (List.range number).map (fun index => time + (index + 1) * interval) =
              ((List.range number).map Nat.succ).map
                (fun index => since + (index + 1) * interval) := by
            rw [List.map_map]
            refine List.map_congr_left fun index _ => ?_
            rw [Function.comp_apply, Nat.succ_eq_add_one, Nat.succ_mul (index + 1), reached]
            omega
          rw [Clockwork.outputs_cons, puts, List.map_append, times, shifted,
            List.range_succ_eq_map, List.map_cons, Nat.zero_add, Nat.one_mul, ← reached]
          rfl
        · intro unasked
          have before := ends unasked
          rw [Nat.succ_mul (number + 1)]
          rw [Clockwork.moment_cons]
          omega

end InRhythm

/-- Any request of a run in which no answer comes a little late leaves the poll in step, and in
rhythm unless a query is left unseen. -/
theorem of_request {interval mounts now since : Nat} {query : Query} {store : Store}
    {cause : Happening} {before rest : List (Nat × Happening)}
    (timely : clockwork.Timely (start interval mounts query now, store) now
      (before ++ (since, cause) :: rest))
    (fits : ∀ latency ∈ latencies now (start interval mounts query now, store)
      (before ++ (since, cause) :: rest),
      latency ≤ interval ∨ interval + Ticker.tolerance < latency)
    (asks : (clockwork.step (clockwork.run (start interval mounts query now, store) before)
      since cause).2.isSome = true) :
    let asked := clockwork.run (start interval mounts query now, store) (before ++ [(since, cause)])
    asked.1.phase.isAsking = true ∧
      asked.1.InStep interval since since ∧
      (asked.1.queryNews = false → asked.1.InRhythm interval since since
        (mountsAfter mounts (before ++ [(since, cause)]))) ∧
      clockwork.Timely asked since rest ∧
      ∀ latency ∈ latencies since asked rest,
        latency ≤ interval ∨ interval + Ticker.tolerance < latency := by
  obtain ⟨call, puts⟩ := Option.isSome_iff_exists.1 asks
  obtain ⟨earlier, goesOn, punctual, behind⟩ := Clockwork.timely_append.1 timely
  rw [latencies_append, List.forall_mem_append, forall_latencies_cons] at fits
  obtain ⟨fits, here, later⟩ := fits
  have sound := (Sound.start interval mounts query now).run store before
  have counted := ((Sound.start interval mounts query now).run store
    (before ++ [(since, cause)])).counted
  have inStep := ((InStep.start interval mounts query now).run earlier fits).step
    (clockwork.run (start interval mounts query now, store) before).2 goesOn punctual here
  have asking := (asks_of_output sound puts).2.2
  rw [latestRequest_of_output puts] at later
  rw [latestRequest_of_output (by exact puts)] at inStep
  rw [Clockwork.run_append] at counted ⊢
  exact ⟨asking, inStep,
    fun heeded => ⟨inStep, counted, heeded, .inr asking, inStep.asking asking⟩, behind, later⟩

/-! ## Unseen queries -/

section Unseen

variable {interval mounts now arrival : Nat} {query : Query} {past : List (Nat × Happening)}
  {poll : BulkPoll} {store : Store} {first : Precedence} {wall : Instant}
  {answer : Except Fault Page} {happenings : List (Nat × Happening)}

/-- As long as no query is set, none is unseen. -/
theorem heeded_of_unqueried (sound : poll.Sound interval mounts query past)
    (heeded : poll.queryNews = false)
    (unqueried : ∀ happening ∈ happenings, happening.2.query? = none) :
    (clockwork.run (poll, store) happenings).1.queryNews = false := by
  induction happenings generalizing poll store past with
  | nil => exact heeded
  | cons head rest ih =>
      obtain ⟨time, happening⟩ := head
      obtain ⟨here, behind⟩ := List.forall_mem_cons.1 unqueried
      refine ih (sound.step store time happening) ?_ behind
      cases happening with
      | turned first => exact (acts_turn sound.toIsOpen).heeded heeded
      | answered first wall answer => exact (acts_accept sound.toIsOpen wall answer).heeded heeded
      | mounted => exact (poll.queryNews_setMounts _).trans heeded
      | unmounted => exact (poll.queryNews_setMounts _).trans heeded
      | queried query => cases here
      | stopped => exact heeded
      | wrote other => exact heeded

/-- An answer that comes before the tick leaves no query unseen. -/
theorem heeded_of_early (isOpen : poll.IsOpen) (asking : poll.phase.isAsking = true)
    (mounted : poll.isMounted = true) (early : arrival < poll.ticker.dueAt) :
    (poll.accept first arrival wall answer store).1.queryNews = false := by
  have notDue : poll.ticker.isDue arrival = false := decide_eq_false (Nat.not_le_of_lt early)
  rw [accept_of_asking asking, resume_of_mounted mounted, watch,
    if_neg (by simp [takesTick, notDue])]
  split
  next => rw [askOrPark_of_mounted (by exact mounted), ask]
  next still =>
    rw [if_neg (by simp [isOpen.queryOpen])]
    exact eq_false_of_ne_true still

/-- A query that is unseen is asked for with the answer. -/
theorem asks_of_unseen {since : Nat} {during after : List (Nat × Happening)}
    {waiting : BulkPoll × Store} (sound : poll.Sound interval mounts query past)
    (inStep : poll.InStep interval since now) (asking : poll.phase.isAsking = true)
    (unseen : poll.queryNews = true) (waits : waiting = clockwork.run (poll, store) during)
    (unanswered : ∀ happening ∈ during, happening.2.isAnswer = false)
    (timely : clockwork.Timely (poll, store) now
      (during ++ (arrival, .answered first wall answer) :: after))
    (steady : IsSteady (mountsAfter mounts past)
      (during ++ (arrival, .answered first wall answer) :: after))
    (fits : ∀ latency ∈ latencies since (poll, store)
      (during ++ (arrival, .answered first wall answer) :: after),
      latency ≤ interval ∨ interval + Ticker.tolerance < latency) :
    (clockwork.step waiting arrival (.answered first wall answer)).2.isSome = true ∧
      (arrival < since + interval →
        (clockwork.step waiting arrival (.answered first wall answer)).1.1.queryNews = false) := by
  obtain ⟨unstopped, mounted, -⟩ := steady_append steady
  obtain ⟨stillAsking, stillUnseen⟩ :
      waiting.1.phase.isAsking = true ∧ waiting.1.queryNews = true := by
    rw [waits]
    exact run_of_asking asking unseen
      fun happening member => ⟨unanswered happening member, unstopped happening member⟩
  have dueAt : waiting.1.ticker.dueAt = since + interval := by
    rw [latencies_append, List.forall_mem_append] at fits
    have kept := inStep.run (Clockwork.timely_append.1 timely).1 fits.1
    rw [latestRequestAfter_of_silent (outputs_of_asking asking unanswered), ← waits] at kept
    exact kept.asking stillAsking
  have reached := sound.run store during
  rw [← waits] at reached
  have still : 0 < mountsAfter mounts (past ++ during) := by
    rw [mountsAfter, List.foldl_append]
    exact mounted
  obtain ⟨asks, -⟩ := accept_of_queryNews reached stillAsking stillUnseen first arrival wall answer
    waiting.2
  refine ⟨Option.isSome_of_eq_some (asks still), fun early => ?_⟩
  exact heeded_of_early reached.toIsOpen stillAsking
    (isMounted_eq_true.2 (reached.counted ▸ still)) (dueAt ▸ early)

end Unseen

/-- The rhythm of the requests for the displayed page, over any run in which each answer takes the
interval at most, or more than five milliseconds longer, while the list stays mounted and no query
is set. If the list is mounted from the start on, the first request starts at once. A request is
followed by the next one exactly when both the interval and the time that its answer takes are over.
If all answers come within the interval, the requests are exactly one interval apart from the first
one on.

That takes a request which leaves no query unseen, so it holds of all requests as long as no query
has been set. A query that was set earlier can be left unseen where the poll took up its tick first.
Then the next request is made with the answer, and if that comes before the tick, the query has been
seen. The run goes on to any later time by the turns of the poll alone, so every request that is due
does start. -/
theorem keeps_rhythm (interval mounts : Nat) (query : Query) (now : Nat) (store : Store)
    {happenings : List (Nat × Happening)}
    (timely : clockwork.Timely (start interval mounts query now, store) now happenings)
    (fits : ∀ latency ∈ latencies now (start interval mounts query now, store) happenings,
      latency ≤ interval ∨ interval + 5 < latency) :
    let begun := (start interval mounts query now, store)
    (0 < interval → ∀ during after, happenings = during ++ after → IsSteady mounts during →
      ∀ next, clockwork.NextAt (.turned next) begun now during (some now)) ∧
    (∀ before since cause during arrival first wall answer after,
      happenings =
        before ++ (since, cause) :: (during ++ (arrival, .answered first wall answer) :: after) →
      (clockwork.step (clockwork.run begun before) since cause).2.isSome = true →
      (∀ happening ∈ during, happening.2.isAnswer = false) →
      IsSteady (mountsAfter mounts (before ++ [(since, cause)]))
        (during ++ (arrival, .answered first wall answer) :: after) →
      let asked := clockwork.run begun (before ++ [(since, cause)])
      let waiting := clockwork.run begun (before ++ (since, cause) :: during)
      let answered := clockwork.step waiting arrival (.answered first wall answer)
      (asked.1.queryNews = false → ∀ next, clockwork.NextAt (.turned next) waiting arrival
        ((arrival, .answered first wall answer) :: after)
        (some (since + max interval (arrival - since)))) ∧
      (asked.1.queryNews = true → answered.2.isSome = true ∧
        (arrival < since + interval → answered.1.1.queryNews = false))) ∧
    (∀ before first cause after, happenings = before ++ (first, cause) :: after →
      (clockwork.step (clockwork.run begun before) first cause).2.isSome = true →
      IsSteady (mountsAfter mounts (before ++ [(first, cause)])) after →
      let asked := clockwork.run begun (before ++ [(first, cause)])
      asked.1.queryNews = false →
      (∀ latency ∈ latencies first asked after, latency ≤ interval) →
      ∃ number,
        (clockwork.outputs asked after).map Prod.fst =
          (List.range number).map (fun index => first + (index + 1) * interval) ∧
        ((clockwork.run begun happenings).1.phase.isAsking = false →
          Clockwork.moment now happenings ≤ first + (number + 1) * interval)) ∧
    (∀ before after, happenings = before ++ after →
      (∀ happening ∈ before, happening.2.query? = none) →
      (clockwork.run begun before).1.queryNews = false) ∧
    ∀ next, clockwork.GoesOn (.turned next) begun now happenings := by
  intro begun
  have sound (before : List (Nat × Happening)) :
      (clockwork.run begun before).1.Sound interval mounts query before :=
    (Sound.start interval mounts query now).run store before
  refine ⟨?_, ?_, ?_, ?_, fun next => timely.goesOn (restful next)⟩
  · rintro moves during after rfl steady next
    exact nextAt_of_starting (Sound.start interval mounts query now) moves rfl
      (Clockwork.timely_append.1 timely).1 steady
  · rintro before since cause during arrival first wall answer after rfl asks unanswered steady
    obtain ⟨asking, inStep, inRhythm, behind, later⟩ := of_request timely fits asks
    intro asked waiting answered
    have waits : waiting = clockwork.run asked during := by
      rw [← Clockwork.run_append, ← List.append_cons]
    refine ⟨fun heeded next => ?_, fun unseen => ?_⟩
    · rw [waits]
      exact (inRhythm heeded).nextAt_of_asking asking unanswered behind steady later
    · exact asks_of_unseen (sound _) inStep asking unseen waits unanswered behind steady later
  · rintro before first cause after rfl asks steady asked heeded prompt
    obtain ⟨-, -, inRhythm, behind, -⟩ := of_request timely fits asks
    obtain ⟨number, times, ends⟩ := (inRhythm heeded).requests behind steady prompt
    refine ⟨number, times, ?_⟩
    rw [List.append_cons before, Clockwork.run_append, Clockwork.moment_append]
    rw [Clockwork.moment_append]
    exact ends
  · rintro before after - unqueried
    exact heeded_of_unqueried (.start interval mounts query now) rfl unqueried

/-- A query that the first request leaves unseen; then a prompt answer, and a late one. -/
def unseenQuery : List (Nat × Happening) :=
  [(0, .turned .query), (0, .queried (.ofPage 2 20)), (0, .mounted), (0, .turned .tick),
    (1500, .answered .query ⟨0, 0⟩ (.ok .empty)), (3000, .answered .query ⟨0, 0⟩ (.ok .empty)),
    (6500, .turned .tick), (18500, .answered .query ⟨0, 0⟩ (.ok .empty))]

theorem unseenQuery_keeps_rhythm :
    (clockwork.step
        (clockwork.run (start 5000 0 .standard 0, .initial 10000) (unseenQuery.take 4)) 1500
        (.answered .query ⟨0, 0⟩ (.ok .empty))).2.isSome = true ∧
      clockwork.NextAt (.turned .query)
        (clockwork.run (start 5000 0 .standard 0, .initial 10000) (unseenQuery.take 5)) 3000
        (unseenQuery.drop 5) (some 6500) ∧
      clockwork.NextAt (.turned .query)
        (clockwork.run (start 5000 0 .standard 0, .initial 10000) (unseenQuery.take 7)) 18500
        (unseenQuery.drop 7) (some 18500) := by
  have timely : clockwork.Timely (start 5000 0 .standard 0, .initial 10000) 0 unseenQuery := by
    decide
  have fits : ∀ latency ∈ latencies 0 (start 5000 0 .standard 0, .initial 10000) unseenQuery,
      latency ≤ 5000 ∨ 5000 + 5 < latency := by decide
  obtain ⟨-, next, -⟩ := keeps_rhythm 5000 0 .standard 0 (.initial 10000) timely fits
  refine ⟨?_, ?_, ?_⟩
  · exact ((next (unseenQuery.take 3) 0 (.turned .tick) [] 1500 .query _ _ _ rfl rfl nofun
      (by decide)).2 (by decide)).1
  · exact (next (unseenQuery.take 4) 1500 (.answered .query ⟨0, 0⟩ (.ok .empty)) [] 3000 .query
      _ _ _ rfl rfl nofun (by decide)).1 (by decide) .query
  · exact (next (unseenQuery.take 6) 6500 (.turned .tick) [] 18500 .query _ _ _ rfl rfl nofun
      (by decide)).1 (by decide) .query

end BulkPoll

end LiveJobs
