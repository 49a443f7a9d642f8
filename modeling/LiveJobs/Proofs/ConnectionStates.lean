import LiveJobs.Proofs.Resumption

/-!
# The states of a connection

A connection goes from state to state as the table of transitions says, and publishes each state it
gets to. What is published counts the failures since it was last let in. That count also decides
when it gives up, so it has to be right over runs of any length, and past the greatest number that
it can take.

What befalls a connection is told here as its history. The count, what the connection holds and the
moment at which it gives up are all read off the history; `Connection.Sound` says how they show in
the connection.
-/

namespace LiveJobs

/-- The state in which a connection is while it does something. One that has finished may have been
abandoned in any state. -/
def ConnectionPhase.state? : ConnectionPhase → Option ConnectionState
  | .starting => some .closed
  | .knocking => some .connecting
  | .taking => some .opened
  | .resting _ => some .backoff
  | .finished => none

/-- What a connection holds: lines to the channel, whether asked for or open, and timers for the
next attempt. -/
structure Holdings where
  lines : Nat
  timers : Nat
  deriving DecidableEq, Repr

/-- What a connection holds while it does something. -/
def ConnectionPhase.holdings : ConnectionPhase → Holdings
  | .starting => ⟨0, 0⟩
  | .knocking => ⟨1, 0⟩
  | .taking => ⟨1, 0⟩
  | .resting _ => ⟨0, 1⟩
  | .finished => ⟨0, 0⟩

theorem ConnectionPhase.holdings_le_one (phase : ConnectionPhase) :
    phase.holdings.lines + phase.holdings.timers ≤ 1 := by
  cases phase with
  | starting => exact Nat.zero_le 1
  | knocking => exact Nat.le_refl 1
  | taking => exact Nat.le_refl 1
  | resting dueAt => exact Nat.le_refl 1
  | finished => exact Nat.zero_le 1

/-- Whether a connection has a line that may fail. -/
def ConnectionPhase.IsBusy (phase : ConnectionPhase) : Prop := phase = .knocking ∨ phase = .taking

namespace ConnectionPhase.IsBusy

variable {phase : ConnectionPhase}

theorem holdings (busy : phase.IsBusy) : phase.holdings = ⟨1, 0⟩ := by
  rcases busy with rfl | rfl
  · rfl
  · rfl

theorem unfinished (busy : phase.IsBusy) : phase ≠ .finished := by
  rcases busy with rfl | rfl
  · exact nofun
  · exact nofun

end ConnectionPhase.IsBusy

@[simp] theorem ConnectionState.apply_close (state : ConnectionState) :
    state.apply .close = .ok .closed := by
  cases state with
  | closed => rfl
  | connecting => rfl
  | opened => rfl
  | backoff => rfl

namespace Connection

/-! ## History -/

/-- What befalls a connection. -/
inductive Incident where
  /-- It asked to be let in. -/
  | asked
  | letIn
  /-- It was turned away, or it broke. It is tried again at some time, or never. -/
  | failed (again : Option Nat)
  /-- It was closed or abandoned. -/
  | ended
  deriving DecidableEq, Repr

def Incident.isFailure : Incident → Bool
  | .failed _ => true
  | .asked => false
  | .letIn => false
  | .ended => false

/-- When a connection that is waiting is tried again. -/
def againAt? (connection : Connection) : Option Nat :=
  match connection.phase with
  | .resting dueAt => some dueAt
  | .starting => none
  | .knocking => none
  | .taking => none
  | .finished => none

/-- What befalls a connection by what it hears of the channel. -/
def heardIncident? (connection : Connection) (now : Nat) (signal : Signal) : Option Incident :=
  match connection.phase, signal with
  | .knocking, .opened => some .letIn
  | .knocking, .turnedAway => some (.failed (connection.fail now).againAt?)
  | .taking, .broken => some (.failed (connection.fail now).againAt?)
  | _, _ => none

/-- What befalls a connection by something that happens to it. -/
def incident? (connection : Connection) : Stimulus → Option Incident
  | .turned now => if (connection.turn now).2 then some .asked else none
  | .heard now signal => connection.heardIncident? now signal
  | .closed => if connection.phase = .finished then none else some .ended
  | .abandoned => if connection.phase = .finished then none else some .ended

/-- What befalls a connection in the course of a script. -/
def history (connection : Connection) : List Stimulus → List Incident
  | [] => []
  | stimulus :: rest =>
      (connection.incident? stimulus).toList ++ (connection.react stimulus).1.history rest

/-- The number of failures since a connection was last let in. -/
def failures (past : List Incident) : Nat :=
  (past.reverse.takeWhile fun incident => incident ≠ .letIn).countP Incident.isFailure

/-- What is held after an incident. To ask takes a line, and uses up the timer that has run out. A
failure gives the line up and sets a timer for the next attempt, if there is to be one. -/
def hold (holdings : Holdings) : Incident → Holdings
  | .asked => ⟨holdings.lines + 1, holdings.timers - 1⟩
  | .letIn => holdings
  | .failed again => ⟨holdings.lines - 1, holdings.timers + again.toList.length⟩
  | .ended => ⟨0, 0⟩

/-- What is held after some incidents. -/
def holdings (past : List Incident) : Holdings := past.foldl hold ⟨0, 0⟩

@[simp] theorem failures_asked (past : List Incident) :
    failures (past ++ [.asked]) = failures past := by
  simp [failures, Incident.isFailure]

@[simp] theorem failures_letIn (past : List Incident) : failures (past ++ [.letIn]) = 0 := by
  simp [failures]

@[simp] theorem failures_failed (past : List Incident) (again : Option Nat) :
    failures (past ++ [.failed again]) = failures past + 1 := by
  simp [failures, List.countP_cons, Incident.isFailure]

@[simp] theorem failures_ended (past : List Incident) :
    failures (past ++ [.ended]) = failures past := by
  simp [failures, Incident.isFailure]

@[simp] theorem holdings_concat (past : List Incident) (incident : Incident) :
    holdings (past ++ [incident]) = hold (holdings past) incident :=
  List.foldl_append

/-! ## What a connection publishes -/

/-- What there is to publish of a connection. -/
def status (connection : Connection) : ConnectionStatus :=
  ⟨connection.state, connection.attempts, connection.token⟩

/-- The connection when it has counted a failure, before it settles what to do about it. -/
def tally (connection : Connection) : Connection :=
  { connection with
    attempts := min (connection.attempts + 1) RetryPolicy.unbounded }.move .failed

/-- The connection when it has been let in. -/
def enter (connection : Connection) : Connection :=
  { { connection with attempts := 0 }.move .opened with phase := .taking }

/-- The connection at each point at which it publishes something, in the course of reacting to what
happens. One that is closed before its first turn still sets out to ask. -/
def stations (connection : Connection) : Stimulus → List Connection
  | .turned now => if (connection.turn now).2 then [connection.knock] else []
  | .heard now signal =>
      match connection.heardIncident? now signal with
      | some (.failed (some _)) => [connection.tally]
      | some (.failed none) => [connection.tally, connection.fail now]
      | some _ => [connection.enter]
      | none =>
          match (connection.delivery? signal).bind Frame.resumption? with
          | some _ => [(connection.hear now signal).1]
          | none => []
  | .closed =>
      match connection.phase with
      | .starting => [connection.knock, connection.close]
      | .finished => []
      | _ => [connection.close]
  | .abandoned => []

variable {connection : Connection}

theorem move_of_leads {transition : Transition} {state : ConnectionState}
    (leads : connection.state.apply transition = .ok state) :
    connection.move transition = { connection with state := state }.publish := by
  simp only [move, leads]

theorem state_move_of_leads {transition : Transition} {state : ConnectionState}
    (leads : connection.state.apply transition = .ok state) :
    (connection.move transition).state = state := by
  rw [move_of_leads leads]
  rfl

@[simp] theorem policy_move (connection : Connection) (transition : Transition) :
    (connection.move transition).policy = connection.policy := by
  unfold move
  split
  · rfl
  · rfl

/-- Whether the connection is tried again after the failure that befalls it. -/
def goesOn (connection : Connection) : Bool :=
  connection.tally.policy.allows (min (connection.attempts + 1) RetryPolicy.unbounded - 1)

/-- After a failure the connection waits for its next attempt, or gives up. -/
theorem fail_cases (connection : Connection) (now : Nat) :
    (connection.goesOn = true ∧
      ∃ dueAt, connection.fail now = { connection.tally with phase := .resting dueAt }) ∨
    (connection.goesOn = false ∧ connection.fail now = connection.tally.finish) := by
  cases again : connection.goesOn with
  | true => exact .inl ⟨rfl, _, if_pos again⟩
  | false => exact .inr ⟨rfl, if_neg (Bool.not_eq_true _ ▸ again)⟩

/-! ## Steps -/

/-- Everything that can become of a connection at once. -/
inductive Step (connection : Connection) : Option Incident → Connection → Prop where
  | idle : Step connection none connection
  | asks (waits : connection.phase = .starting ∨ ∃ dueAt, connection.phase = .resting dueAt) :
      Step connection (some .asked) connection.knock
  | enters (knocking : connection.phase = .knocking) :
      Step connection (some .letIn) connection.enter
  | rests (busy : connection.phase.IsBusy)
      (again : connection.goesOn = true) (dueAt : Nat) :
      Step connection (some (.failed (some dueAt)))
        { connection.tally with phase := .resting dueAt }
  | givesUp (busy : connection.phase.IsBusy)
      (never : connection.goesOn = false) :
      Step connection (some (.failed none)) connection.tally.finish
  | takes (taking : connection.phase = .taking) (frame : Frame) :
      Step connection none (connection.takeFrame frame).1
  | closes (unfinished : connection.phase ≠ .finished) :
      Step connection (some .ended) connection.finish
  | abandons (unfinished : connection.phase ≠ .finished) :
      Step connection (some .ended) connection.abandon

theorem step_fail (busy : connection.phase.IsBusy) (now : Nat) :
    connection.Step (some (.failed (connection.fail now).againAt?)) (connection.fail now) := by
  rcases connection.fail_cases now with ⟨again, dueAt, rests⟩ | ⟨never, givesUp⟩
  · rw [rests]
    exact .rests busy again dueAt
  · rw [givesUp]
    exact .givesUp busy never

theorem step_turn (connection : Connection) (now : Nat) :
    connection.Step (if (connection.turn now).2 then some .asked else none)
      (connection.turn now).1 := by
  unfold turn dueAt?
  cases phase : connection.phase with
  | starting =>
      simp only [Nat.le_refl, if_true]
      exact .asks (.inl phase)
  | resting dueAt =>
      by_cases due : dueAt ≤ now
      · simp only [due, if_true]
        exact .asks (.inr ⟨dueAt, phase⟩)
      · simp only [due, if_false, Bool.false_eq_true]
        exact .idle
  | knocking => exact .idle
  | taking => exact .idle
  | finished => exact .idle

/-- A connection that hears of the channel is let in, fails, takes a frame, or does nothing. -/
theorem hear_cases (connection : Connection) (now : Nat) (signal : Signal) :
    (connection.phase = .knocking ∧ connection.heardIncident? now signal = some .letIn ∧
      (connection.hear now signal).1 = connection.enter) ∨
    (connection.phase.IsBusy ∧
      connection.heardIncident? now signal = some (.failed (connection.fail now).againAt?) ∧
      (connection.hear now signal).1 = connection.fail now) ∨
    (connection.heardIncident? now signal = none ∧
      ((connection.hear now signal).1 = connection ∨
        ∃ frame, connection.phase = .taking ∧ signal = .frame frame ∧
          (connection.hear now signal).1 = (connection.takeFrame frame).1)) := by
  fun_cases heardIncident? connection now signal
  case case1 knocking => exact .inl ⟨knocking, rfl, by simp [hear, enter, knocking]⟩
  case case2 knocking => exact .inr (.inl ⟨.inl knocking, rfl, by simp [hear, knocking]⟩)
  case case3 taking => exact .inr (.inl ⟨.inr taking, rfl, by simp [hear, taking]⟩)
  case case4 unheard unrefused unbroken =>
    refine .inr (.inr ⟨rfl, ?_⟩)
    unfold hear
    split
    next knocking => exact (unheard knocking rfl).elim
    next knocking => exact (unrefused knocking rfl).elim
    next frame taking => exact .inr ⟨frame, taking, rfl, rfl⟩
    next taking => exact (unbroken taking rfl).elim
    next => exact .inl rfl

theorem step_hear (connection : Connection) (now : Nat) (signal : Signal) :
    connection.Step (connection.heardIncident? now signal) (connection.hear now signal).1 := by
  rcases connection.hear_cases now signal with ⟨knocking, incident, enters⟩ |
    ⟨busy, incident, fails⟩ | ⟨incident, same | ⟨frame, taking, -, takes⟩⟩
  · rw [incident, enters]
    exact .enters knocking
  · rw [incident, fails]
    exact step_fail busy now
  · rw [incident, same]
    exact .idle
  · rw [incident, takes]
    exact .takes taking frame

theorem step_react (connection : Connection) (stimulus : Stimulus) :
    connection.Step (connection.incident? stimulus) (connection.react stimulus).1 := by
  cases stimulus with
  | turned now => exact connection.step_turn now
  | heard now signal => exact connection.step_hear now signal
  | closed =>
      simp only [incident?, react, close]
      split
      next finished => simpa [finished] using .idle
      next unfinished => simpa [unfinished] using .closes unfinished
  | abandoned =>
      by_cases finished : connection.phase = .finished
      · have same : connection.abandon = connection := by
          rw [abandon, ← finished]
        simpa [incident?, react, finished, same] using .idle
      · simpa [incident?, react, finished] using .abandons finished

/-- A frame leaves alone all of a connection but its token and its delays. -/
theorem takeFrame_cases (connection : Connection) (frame : Frame) :
    ∃ policy : RetryPolicy, policy.maxAttempts = connection.policy.maxAttempts ∧
      ((connection.takeFrame frame).1 = { connection with policy := policy } ∨
        ∃ id, (connection.takeFrame frame).1 =
          { connection with policy := policy, token := some id }.publish) := by
  have heeds : ∃ policy : RetryPolicy, policy.maxAttempts = connection.policy.maxAttempts ∧
      connection.heed frame = { connection with policy := policy } := by
    unfold heed
    split
    · exact ⟨connection.policy, rfl, rfl⟩
    · split
      · exact ⟨connection.policy, rfl, rfl⟩
      · exact ⟨connection.policy.withBaseDelay _, rfl, rfl⟩
  rcases heeds with ⟨policy, limit, heeds⟩
  refine ⟨policy, limit, ?_⟩
  unfold takeFrame resumeAfter
  rw [heeds]
  split
  · split
    · exact .inl rfl
    · exact .inr ⟨_, rfl⟩
  · exact .inl rfl

theorem phase_takeFrame (connection : Connection) (frame : Frame) :
    (connection.takeFrame frame).1.phase = connection.phase := by
  rcases connection.takeFrame_cases frame with ⟨policy, -, same | ⟨id, moved⟩⟩
  · rw [same]
  · rw [moved]
    rfl

theorem phase_fail_ne (connection : Connection) (now : Nat) :
    (connection.fail now).phase ≠ .starting := by
  rcases connection.fail_cases now with ⟨-, dueAt, rests⟩ | ⟨-, givesUp⟩
  · simp [rests]
  · simp [givesUp, finish]

theorem phase_of_delivery {signal : Signal} {frame : Frame}
    (delivery : connection.delivery? signal = some frame) : connection.phase = .taking := by
  unfold delivery? at delivery
  split at delivery
  · split at delivery
    · assumption
    · cases delivery
  · cases delivery

theorem turn_of_asked {now : Nat} (asked : (connection.turn now).2 = true) :
    (connection.turn now).1 = connection.knock := by
  unfold turn at asked ⊢
  split at asked
  · split at asked
    · next due => simp [due]
    · cases asked
  · cases asked

theorem close_of_unfinished (unfinished : connection.phase ≠ .finished) :
    connection.close = connection.finish := by
  unfold close
  split
  next finished => exact absurd finished unfinished
  next => rfl

/-- A connection publishes what it has become, or a failure that it has counted. One that is closed
before its first turn first publishes that it sets out to ask. -/
theorem station_cases {stimulus : Stimulus} {station : Connection}
    (member : station ∈ connection.stations stimulus) :
    (station = (connection.react stimulus).1 ∧ (connection.react stimulus).1.phase ≠ .starting) ∨
    (connection.phase.IsBusy ∧ station = connection.tally ∧ ∃ now,
      connection.incident? stimulus = some (.failed (connection.fail now).againAt?) ∧
      (connection.react stimulus).1 = connection.fail now) ∨
    (connection.phase = .starting ∧ stimulus = .closed ∧ station = connection.knock) := by
  cases stimulus with
  | turned now =>
      simp only [stations] at member
      split at member
      next asked =>
        rw [List.mem_singleton] at member
        rw [member, react, turn_of_asked asked]
        exact .inl ⟨rfl, by simp [knock]⟩
      next => cases member
  | heard now signal =>
      rw [stations] at member
      rcases connection.hear_cases now signal with ⟨knocking, incident, enters⟩ |
        ⟨busy, incident, fails⟩ | ⟨incident, -⟩
      · rw [incident, List.mem_singleton] at member
        rw [member, react, enters]
        exact .inl ⟨rfl, by simp [enter]⟩
      · rw [incident] at member
        cases again : (connection.fail now).againAt? with
        | some dueAt =>
            rw [again, List.mem_singleton] at member
            exact .inr (.inl ⟨busy, member, now, incident, fails⟩)
        | none =>
            rw [again, List.mem_cons, List.mem_singleton] at member
            rcases member with counted | final
            · exact .inr (.inl ⟨busy, counted, now, incident, fails⟩)
            · rw [final, react, fails]
              exact .inl ⟨rfl, connection.phase_fail_ne now⟩
      · simp only [incident] at member
        split at member
        next resumes =>
          obtain ⟨frame, delivery, -⟩ := Option.bind_eq_some_iff.1 resumes
          have taking := phase_of_delivery delivery
          have takes := connection.hear_of_delivery now delivery
          rw [List.mem_singleton] at member
          refine .inl ⟨member, ?_⟩
          rw [react, takes, phase_takeFrame, taking]
          simp
        next => cases member
  | closed =>
      simp only [stations] at member
      split at member
      next starting =>
        have closes : connection.close = connection.finish :=
          close_of_unfinished (by simp [starting])
        rw [List.mem_cons, List.mem_singleton] at member
        rcases member with asking | closed
        · exact .inr (.inr ⟨starting, rfl, asking⟩)
        · rw [closed, react, closes]
          exact .inl ⟨rfl, by simp [finish]⟩
      next => cases member
      next unfinished =>
        rw [List.mem_singleton] at member
        rw [member, react, close_of_unfinished unfinished]
        exact .inl ⟨rfl, by simp [finish]⟩
  | abandoned => cases member

/-! ## What holds at every moment -/

/-- Whether no transition of a connection was refused, and it has published the state that it is in,
after a number of failures. -/
structure Truthful (count : Nat) (connection : Connection) : Prop where
  refused : connection.refused = []
  published : connection.published = connection.status
  counted : connection.attempts = min count RetryPolicy.unbounded

/-- How the history of a connection shows in it. -/
structure Sound (policy : RetryPolicy) (past : List Incident) (connection : Connection) : Prop
    extends Truthful (failures past) connection where
  state : ∀ state, connection.phase.state? = some state → connection.state = state
  limit : connection.policy.maxAttempts = policy.maxAttempts
  held : holdings past = connection.phase.holdings
  within : connection.phase ≠ .finished → policy.maxAttempts < RetryPolicy.unbounded →
    failures past ≤ policy.maxAttempts
  finished : connection.phase = .finished → .ended ∈ past ∨
    policy.maxAttempts < RetryPolicy.unbounded ∧ failures past = policy.maxAttempts + 1

namespace Truthful

variable {count : Nat}

/-- Whatever transition leads from its state, a connection that makes it says so. -/
theorem move {transition : Transition} {state : ConnectionState}
    (refused : connection.refused = [])
    (counted : connection.attempts = min count RetryPolicy.unbounded)
    (leads : connection.state.apply transition = .ok state) :
    (connection.move transition).Truthful count := by
  rw [move_of_leads leads]
  exact ⟨refused, rfl, counted⟩

theorem withPhase (truthful : connection.Truthful count) (phase : ConnectionPhase) :
    { connection with phase := phase }.Truthful count :=
  ⟨truthful.refused, truthful.published, truthful.counted⟩

theorem finish (truthful : connection.Truthful count) : connection.finish.Truthful count :=
  (move truthful.refused truthful.counted connection.state.apply_close).withPhase .finished

end Truthful

variable {policy : RetryPolicy} {past : List Incident}

namespace Sound

theorem start (channel : Channel) (policy : RetryPolicy) (token : Option EventId) :
    (start channel policy token).Sound policy [] where
  refused := rfl
  published := rfl
  counted := rfl
  state := by
    intro state found
    cases found
    rfl
  limit := rfl
  held := rfl
  within := fun _ _ => Nat.zero_le _
  finished := nofun

theorem leads_opening (sound : connection.Sound policy past)
    (waits : connection.phase = .starting ∨ ∃ dueAt, connection.phase = .resting dueAt) :
    connection.state.apply connection.opening = .ok .connecting := by
  rcases waits with starting | ⟨dueAt, resting⟩
  · have closed := sound.state .closed (by rw [starting]; rfl)
    simp [opening, closed, ConnectionState.apply]
  · have backoff := sound.state .backoff (by rw [resting]; rfl)
    simp [opening, backoff, ConnectionState.apply]

theorem leads_failed (sound : connection.Sound policy past)
    (busy : connection.phase.IsBusy) :
    connection.state.apply .failed = .ok .backoff := by
  rcases busy with knocking | taking
  · rw [sound.state .connecting (by rw [knocking]; rfl)]
    rfl
  · rw [sound.state .opened (by rw [taking]; rfl)]
    rfl

theorem leads_opened (sound : connection.Sound policy past)
    (knocking : connection.phase = .knocking) :
    connection.state.apply .opened = .ok .opened := by
  rw [sound.state .connecting (by rw [knocking]; rfl)]
  rfl

theorem truthful_knock (sound : connection.Sound policy past)
    (waits : connection.phase = .starting ∨ ∃ dueAt, connection.phase = .resting dueAt) :
    connection.knock.Truthful (failures past) :=
  (Truthful.move sound.refused sound.counted (sound.leads_opening waits)).withPhase .knocking

theorem truthful_enter (sound : connection.Sound policy past)
    (knocking : connection.phase = .knocking) :
    connection.enter.Truthful 0 := by
  have entered : ({ connection with attempts := 0 }.move .opened).Truthful 0 :=
    .move sound.refused (Nat.zero_min _).symm (sound.leads_opened knocking)
  exact entered.withPhase .taking

theorem truthful_tally (sound : connection.Sound policy past)
    (busy : connection.phase.IsBusy) :
    connection.tally.Truthful (failures past + 1) := by
  refine Truthful.move sound.refused ?_ (sound.leads_failed busy)
  show min (connection.attempts + 1) _ = _
  rw [sound.counted]
  omega

/-- A connection is tried again until as many attempts have failed in a row as are allowed. -/
theorem goesOn_iff (sound : connection.Sound policy past) :
    connection.goesOn = true ↔
      (policy.maxAttempts < RetryPolicy.unbounded → failures past < policy.maxAttempts) := by
  have some : 0 < RetryPolicy.unbounded := by decide
  rw [goesOn, tally, policy_move, RetryPolicy.allows, decide_eq_true_iff, sound.limit,
    sound.counted]
  omega

/-! Each of the steps keeps the history showing in the connection. -/

theorem asks (sound : connection.Sound policy past)
    (waits : connection.phase = .starting ∨ ∃ dueAt, connection.phase = .resting dueAt) :
    connection.knock.Sound policy (past ++ [.asked]) := by
  have unfinished : connection.phase ≠ .finished := by
    rcases waits with starting | ⟨dueAt, resting⟩
    · simp [starting]
    · simp [resting]
  have held : hold (holdings past) .asked = ⟨1, 0⟩ := by
    rcases waits with starting | ⟨dueAt, resting⟩
    · simp [sound.held, starting, ConnectionPhase.holdings, hold]
    · simp [sound.held, resting, ConnectionPhase.holdings, hold]
  constructor
  case toTruthful => simpa using sound.truthful_knock waits
  case state =>
    intro state found
    cases found
    exact state_move_of_leads (sound.leads_opening waits)
  case limit => rw [knock, policy_move, sound.limit]
  case held =>
    rw [holdings_concat, held]
    rfl
  case within => simpa using fun _ => sound.within unfinished
  case finished => exact nofun

theorem enters (sound : connection.Sound policy past) (knocking : connection.phase = .knocking) :
    connection.enter.Sound policy (past ++ [.letIn]) := by
  constructor
  case toTruthful => simpa using sound.truthful_enter knocking
  case state =>
    intro state found
    cases found
    exact state_move_of_leads (sound.leads_opened knocking)
  case limit => rw [enter, policy_move, sound.limit]
  case held =>
    rw [holdings_concat, sound.held, knocking]
    rfl
  case within => simp
  case finished => exact nofun

theorem rests (sound : connection.Sound policy past) (busy : connection.phase.IsBusy)
    (again : connection.goesOn = true) (dueAt : Nat) :
    Sound policy (past ++ [.failed (some dueAt)])
      { connection.tally with phase := .resting dueAt } := by
  have more := sound.goesOn_iff.1 again
  constructor
  case toTruthful => simpa using (sound.truthful_tally busy).withPhase _
  case state =>
    intro state found
    cases found
    exact state_move_of_leads (sound.leads_failed busy)
  case limit => rw [tally, policy_move, sound.limit]
  case held =>
    rw [holdings_concat, sound.held, busy.holdings]
    rfl
  case within =>
    intro _
    rw [failures_failed]
    exact more
  case finished => exact nofun

theorem givesUp (sound : connection.Sound policy past) (busy : connection.phase.IsBusy)
    (never : connection.goesOn = false) :
    connection.tally.finish.Sound policy (past ++ [.failed none]) := by
  have few := sound.within busy.unfinished
  have exhausted : ¬ (policy.maxAttempts < RetryPolicy.unbounded →
      failures past < policy.maxAttempts) := by
    rw [← sound.goesOn_iff, never]
    exact Bool.false_ne_true
  constructor
  case toTruthful => simpa using (sound.truthful_tally busy).finish
  case state => exact nofun
  case limit => rw [finish, policy_move, tally, policy_move, sound.limit]
  case held =>
    rw [holdings_concat, sound.held, busy.holdings]
    rfl
  case within => exact fun unfinished => absurd rfl unfinished
  case finished =>
    intro _
    rw [failures_failed]
    omega

theorem takes (sound : connection.Sound policy past) (frame : Frame) :
    (connection.takeFrame frame).1.Sound policy past := by
  rcases connection.takeFrame_cases frame with ⟨heeded, limit, same | ⟨id, moved⟩⟩
  · rw [same]
    exact ⟨⟨sound.refused, sound.published, sound.counted⟩, sound.state,
      limit.trans sound.limit, sound.held, sound.within, sound.finished⟩
  · rw [moved]
    exact ⟨⟨sound.refused, rfl, sound.counted⟩, sound.state,
      limit.trans sound.limit, sound.held, sound.within, sound.finished⟩

theorem ends {next : Connection} (sound : connection.Sound policy past)
    (truthful : next.Truthful (failures past))
    (limit : next.policy.maxAttempts = connection.policy.maxAttempts)
    (finished : next.phase = .finished) : next.Sound policy (past ++ [.ended]) := by
  constructor
  case toTruthful => simpa using truthful
  case state => simp [finished, ConnectionPhase.state?]
  case limit => exact limit.trans sound.limit
  case held =>
    rw [holdings_concat, finished]
    rfl
  case within => exact fun unfinished => absurd finished unfinished
  case finished => simp

theorem step {incident : Option Incident} {next : Connection}
    (sound : connection.Sound policy past) (step : connection.Step incident next) :
    next.Sound policy (past ++ incident.toList) := by
  cases step with
  | idle => simpa using sound
  | asks waits => exact sound.asks waits
  | enters knocking => exact sound.enters knocking
  | rests busy again dueAt => exact sound.rests busy again dueAt
  | givesUp busy never => exact sound.givesUp busy never
  | takes taking frame => simpa using sound.takes frame
  | closes unfinished =>
      exact sound.ends sound.toTruthful.finish (by rw [finish, policy_move]) rfl
  | abandons unfinished => exact sound.ends (sound.toTruthful.withPhase .finished) rfl rfl

theorem run (sound : connection.Sound policy past) (script : List Stimulus) :
    (connection.run script).1.Sound policy (past ++ connection.history script) := by
  induction script generalizing connection past with
  | nil => simpa [history, Connection.run] using sound
  | cons stimulus rest ih =>
      have behind := ih (sound.step (connection.step_react stimulus))
      rwa [List.append_assoc] at behind

/-- Whatever a connection publishes in the course of a reaction is its state, the number of failures
since it was last let in, and the token that it then has. -/
theorem station (sound : connection.Sound policy past) {stimulus : Stimulus} {station : Connection}
    (member : station ∈ connection.stations stimulus) :
    station.Truthful (failures (past ++ (connection.incident? stimulus).toList)) ∧
      station.token = (connection.react stimulus).1.token := by
  rcases station_cases member with
    ⟨becomes, -⟩ | ⟨busy, counted, now, incident, fails⟩ | ⟨starting, rfl, asking⟩
  · rw [becomes]
    exact ⟨(sound.step (connection.step_react stimulus)).toTruthful, rfl⟩
  · rw [counted, incident, fails, Option.toList_some, failures_failed, token_fail, tally,
      token_move]
    exact ⟨sound.truthful_tally busy, rfl⟩
  · have incident : connection.incident? .closed = some .ended := by simp [incident?, starting]
    rw [asking, incident, Option.toList_some, failures_ended, token_knock, react, token_close]
    exact ⟨sound.truthful_knock (.inl starting), rfl⟩

theorem finished_of_closed (sound : connection.Sound policy past) {stimulus : Stimulus}
    {station : Connection} (member : station ∈ connection.stations stimulus)
    (closed : station.published.state = .closed) :
    (connection.react stimulus).1.phase = .finished := by
  have said := (sound.station member).1.published
  rw [said, status] at closed
  rcases station_cases member with
    ⟨becomes, started⟩ | ⟨busy, counted, -⟩ | ⟨starting, -, asking⟩
  · have shows := (sound.step (connection.step_react stimulus)).state
    rw [becomes] at closed
    cases phase : (connection.react stimulus).1.phase with
    | finished => rfl
    | starting => exact absurd phase started
    | knocking => cases (shows .connecting (by rw [phase]; rfl)).symm.trans closed
    | taking => cases (shows .opened (by rw [phase]; rfl)).symm.trans closed
    | resting dueAt => cases (shows .backoff (by rw [phase]; rfl)).symm.trans closed
  · have failed : connection.tally.state = .backoff :=
      state_move_of_leads (sound.leads_failed busy)
    rw [counted, failed] at closed
    cases closed
  · have asked : connection.knock.state = .connecting :=
      state_move_of_leads (sound.leads_opening (.inl starting))
    rw [asking, asked] at closed
    cases closed

end Sound

/-! ## Runs -/

theorem turn_of_silent {now : Nat} (silent : (connection.turn now).2 = false) :
    (connection.turn now).1 = connection := by
  unfold turn at silent ⊢
  split at silent
  · split at silent
    · cases silent
    · next early => simp [early]
  · rfl

/-- A frame that does not move the token leads to nothing that is published. -/
theorem published_takeFrame {frame : Frame} (still : frame.resumption? = none) :
    (connection.takeFrame frame).1.published = connection.published := by
  have heeded : (connection.heed frame).published = connection.published := by
    unfold heed
    split
    · rfl
    · split
      · rfl
      · rfl
  unfold takeFrame
  split
  next event decoded =>
    rw [Frame.resumption?, Frame.isProcessed_of_ok decoded, if_pos rfl, Option.map_eq_none_iff]
      at still
    unfold resumeAfter
    rw [still]
    exact heeded
  next => exact heeded

/-- What a connection has published after a reaction is what it published last in the course of
it. -/
theorem published_react (connection : Connection) (stimulus : Stimulus) :
    (connection.react stimulus).1.published =
      ((connection.stations stimulus).getLast?.map published).getD connection.published := by
  cases stimulus with
  | turned now =>
      cases asked : (connection.turn now).2 with
      | true => simp [react, stations, asked, turn_of_asked asked]
      | false => simp [react, stations, asked, turn_of_silent asked]
  | heard now signal =>
      rw [stations, react]
      rcases connection.hear_cases now signal with ⟨-, incident, enters⟩ | ⟨-, incident, fails⟩ |
        ⟨incident, same | ⟨frame, taking, rfl, takes⟩⟩
      · rw [incident, enters]
        rfl
      · rw [incident, fails]
        rcases connection.fail_cases now with ⟨-, dueAt, rests⟩ | ⟨-, givesUp⟩
        · rw [rests]
          rfl
        · rw [givesUp]
          rfl
      · rw [incident, same]
        cases (connection.delivery? signal).bind Frame.resumption? with
        | some id => simp
        | none => rfl
      · have delivery : connection.delivery? (.frame frame) = some frame := if_pos taking
        rw [incident, takes, delivery, Option.bind_some]
        cases resumption : frame.resumption? with
        | some id => simp
        | none => exact published_takeFrame resumption
  | closed =>
      rw [stations, react]
      split
      next => rfl
      next finished => simp [close, finished]
      next => rfl
  | abandoned => rfl

theorem react_of_finished (finished : connection.phase = .finished) (stimulus : Stimulus) :
    connection.react stimulus = (connection, []) := by
  cases stimulus with
  | turned now => simp [react, turn, dueAt?, finished]
  | heard now signal =>
      have silent : connection.delivery? signal = none := by
        unfold delivery?
        split
        · simp [finished]
        · rfl
      have idle : connection.hear now signal = (connection, none) := by
        simp [hear, finished]
      rw [react, idle, silent]
      rfl
  | closed => simp [react, close, finished]
  | abandoned =>
      rw [react, abandon, ← finished]

theorem run_of_finished (finished : connection.phase = .finished) (script : List Stimulus) :
    connection.run script = (connection, []) := by
  induction script with
  | nil => rfl
  | cons stimulus rest ih =>
      rw [Connection.run, react_of_finished finished, ih]
      rfl

theorem run_append (connection : Connection) (first second : List Stimulus) :
    (connection.run (first ++ second)).1 = ((connection.run first).1.run second).1 := by
  induction first generalizing connection with
  | nil => rfl
  | cons stimulus rest ih => exact ih _

theorem history_append (connection : Connection) (first second : List Stimulus) :
    connection.history (first ++ second) =
      connection.history first ++ (connection.run first).1.history second := by
  induction first generalizing connection with
  | nil => rfl
  | cons stimulus rest ih => simp only [List.cons_append, history, ih, List.append_assoc, run]

theorem stimulus_of_ended {stimulus : Stimulus}
    (ended : connection.incident? stimulus = some .ended) :
    stimulus = .closed ∨ stimulus = .abandoned := by
  cases stimulus with
  | turned now =>
      rw [incident?, Option.ite_none_right_eq_some] at ended
      cases ended.2
  | heard now signal =>
      rw [incident?] at ended
      rcases connection.hear_cases now signal with
        ⟨-, incident, -⟩ | ⟨-, incident, -⟩ | ⟨incident, -⟩
      · rw [incident] at ended
        cases ended
      · rw [incident] at ended
        cases ended
      · rw [incident] at ended
        cases ended
  | closed => exact .inl rfl
  | abandoned => exact .inr rfl

theorem mem_script_of_ended {script : List Stimulus} (ended : .ended ∈ connection.history script) :
    .closed ∈ script ∨ .abandoned ∈ script := by
  induction script generalizing connection with
  | nil => cases ended
  | cons stimulus rest ih =>
      rw [history, List.mem_append, Option.mem_toList] at ended
      rcases ended with here | later
      · rcases stimulus_of_ended here with rfl | rfl
        · exact .inl (.head _)
        · exact .inr (.head _)
      · exact (ih later).imp (.tail _) (.tail _)

theorem history_concat (connection : Connection) (script : List Stimulus) (stimulus : Stimulus) :
    connection.history (script ++ [stimulus]) =
      connection.history script ++ ((connection.run script).1.incident? stimulus).toList := by
  rw [history_append, history, history, List.append_nil]

theorem run_concat (connection : Connection) (script : List Stimulus) (stimulus : Stimulus) :
    (connection.run (script ++ [stimulus])).1 = ((connection.run script).1.react stimulus).1 :=
  connection.run_append script [stimulus]

/-- The state machine of a connection and what is published of it, over scripts of any length.

No transition is ever refused. What is published, also at each point in the middle of a reaction, is
the state of the connection, the number of failures since it was last let in, up to the greatest
number that is counted, and the token to which the frames have moved. It holds one line or one timer
at most.

Unless it is closed or abandoned, it goes on as long as no more attempts have failed in a row than
are allowed to be repeated, and finishes exactly with the next failure; one that reconnects for ever
never finishes. Once it has published that it is closed, it never asks to be let in again. -/
theorem keeps_to_its_states (channel : Channel) (policy : RetryPolicy) (token : Option EventId)
    (script : List Stimulus) :
    let start := start channel policy token
    let connection := (start.run script).1
    let past := start.history script
    connection.refused = [] ∧
    connection.published = ⟨connection.state, min (failures past) RetryPolicy.unbounded,
      resumeFrom token (delivered (start.run script).2)⟩ ∧
    (∀ stimulus,
      (connection.react stimulus).1.published =
        ((connection.stations stimulus).getLast?.map published).getD connection.published ∧
      ∀ station ∈ connection.stations stimulus,
        station.refused = [] ∧
        station.published = ⟨station.state,
          min (failures (start.history (script ++ [stimulus]))) RetryPolicy.unbounded,
          resumeFrom token (delivered (start.run (script ++ [stimulus])).2)⟩) ∧
    (holdings past).lines + (holdings past).timers ≤ 1 ∧
    (.closed ∉ script → .abandoned ∉ script →
      (connection.phase ≠ .finished → policy.maxAttempts < RetryPolicy.unbounded →
        failures past ≤ policy.maxAttempts) ∧
      (connection.phase = .finished →
        policy.maxAttempts < RetryPolicy.unbounded ∧ failures past = policy.maxAttempts + 1)) ∧
    (∀ delay, policy = .reconnect delay → .closed ∉ script → .abandoned ∉ script →
      connection.phase ≠ .finished) ∧
    (∀ before stimulus after, script = before ++ stimulus :: after →
      (∃ station ∈ (start.run before).1.stations stimulus, station.published.state = .closed) →
      ∀ asked, .asked asked ∉ ((start.run (before ++ [stimulus])).1.run after).2) := by
  intro start connection past
  have soundAfter (script : List Stimulus) :
      (start.run script).1.Sound policy (start.history script) := by
    simpa using (Sound.start channel policy token).run script
  have sound : connection.Sound policy past := soundAfter script
  have onItsOwn (unclosed : .closed ∉ script) (unabandoned : .abandoned ∉ script)
      (finished : connection.phase = .finished) :
      policy.maxAttempts < RetryPolicy.unbounded ∧ failures past = policy.maxAttempts + 1 := by
    rcases sound.finished finished with ended | exhausted
    · exact absurd (mem_script_of_ended ended) (not_or.2 ⟨unclosed, unabandoned⟩)
    · exact exhausted
  refine ⟨sound.refused, ?_, ?_, ?_, ?_, ?_, ?_⟩
  · have said := sound.published
    rwa [status, sound.counted, token_run start script] at said
  · refine fun stimulus => ⟨connection.published_react stimulus, fun station member => ?_⟩
    obtain ⟨truthful, token⟩ := sound.station member
    refine ⟨truthful.refused, ?_⟩
    rw [truthful.published, status, truthful.counted, token, ← run_concat, token_run,
      history_concat]
    rfl
  · rw [sound.held]
    exact connection.phase.holdings_le_one
  · exact fun unclosed unabandoned =>
      ⟨sound.within, onItsOwn unclosed unabandoned⟩
  · rintro delay rfl unclosed unabandoned finished
    exact absurd (onItsOwn unclosed unabandoned finished).1 (Nat.lt_irrefl _)
  · rintro before stimulus after - ⟨station, member, closed⟩ asked
    have finished := (soundAfter before).finished_of_closed member closed
    rw [run_concat, run_of_finished finished]
    exact List.not_mem_nil

end Connection

end LiveJobs
