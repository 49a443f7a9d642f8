import LiveJobs.Proofs.IdlePoll
import LiveJobs.Proofs.Timely

/-!
# When the displayed page is asked for

The poll of the displayed page has three reasons to ask: a mount, another query, and the tick of its
rhythm. It hears of the first two through counters that others set at any time, also while it does
something else, so each of them leaves a mark that is looked at later.

Everything that the poll can do at once is said by `BulkPoll.Acts`. The laws on mounts and queries
follow from it by way of `BulkPoll.Sound`, which says what the poll knows of the mounts and queries
so far; those are read off the run.
-/

namespace LiveJobs

open LiveJobs.Time

@[simp] theorem Ticker.period_take (ticker : Ticker) (now : Nat) :
    (ticker.take now).period = ticker.period := by
  unfold take
  split
  · rfl
  · rfl

/-- A tick that is taken when it is due is like a fresh start. -/
@[simp] theorem Ticker.take_resetNow (ticker : Ticker) (now : Nat) :
    (ticker.resetNow now).take now = ticker.reset now := if_neg (by simp [resetNow])

@[simp] theorem Ticker.isDue_resetNow (ticker : Ticker) (now : Nat) :
    (ticker.resetNow now).isDue now = true := by simp [isDue, resetNow]

/-- Whether a request is under way. -/
def BulkPhase.isAsking : BulkPhase → Bool
  | .starting => false
  | .unmounted => false
  | .watching => false
  | .asking _ _ => true
  | .stopped => false

namespace BulkPoll

/-! ## What the poll can do at once -/

/-- Whether the mounts and the query may still change. -/
structure IsOpen (poll : BulkPoll) : Prop where
  mountsOpen : poll.mountsFinal = false
  queryOpen : poll.queryFinal = false

/-- Everything that the poll can do at once, and what comes of it. -/
inductive Acts (poll : BulkPoll) (now : Nat) (store : Store) :
    BulkPoll × Store × Option Call → Prop where
  /-- It asks, and begins the rhythm anew. -/
  | begins (mounted : poll.isMounted = true) (mountsNews queryNews : Bool)
      (noted : poll.queryNews = false → queryNews = false) :
      Acts poll now store
        ({ poll with
            phase := .asking poll.query store.draw.2
            ticker := poll.ticker.reset now
            mountsNews := mountsNews
            queryNews := queryNews },
          store.draw.1, some (.list poll.query))
  /-- It asks at the tick of the rhythm. -/
  | ticks (mounted : poll.isMounted = true) (mountsNews : Bool)
      (running : poll.phase = .watching ∨ poll.phase.isAsking = true)
      (due : poll.ticker.isDue now = true) :
      Acts poll now store
        ({ poll with
            phase := .asking poll.query store.draw.2
            ticker := poll.ticker.take now
            mountsNews := mountsNews },
          store.draw.1, some (.list poll.query))
  /-- It waits for a mount. -/
  | parks (unmounted : poll.isMounted = false) (queryNews : Bool)
      (noted : poll.queryNews = false → queryNews = false) (ticker : Ticker)
      (period : ticker.period = poll.ticker.period) :
      Acts poll now store
        ({ poll with
            phase := .unmounted
            ticker := ticker
            mountsNews := false
            queryNews := queryNews },
          store, none)
  /-- It waits for the tick. -/
  | watches (mountsNews : Bool) (running : poll.phase = .watching ∨ poll.phase.isAsking = true)
      (heeded : poll.queryNews = false) (early : poll.ticker.isDue now = false) :
      Acts poll now store
        ({ poll with phase := .watching, mountsNews := mountsNews }, store, none)
  | rests : Acts poll now store (poll, store, none)
  /-- It has no period to keep. -/
  | stops (still : poll.ticker.period = 0) : Acts poll now store (poll.stop, store, none)

section Acts

variable {poll : BulkPoll} {first : Precedence} {now : Nat} {store : Store}

theorem setMounts_of_open (isOpen : poll.IsOpen) (mounts : Nat) :
    poll.setMounts mounts = { poll with mounts := mounts, mountsNews := true } :=
  if_neg (by simp [isOpen.mountsOpen])

theorem setQuery_of_open (isOpen : poll.IsOpen) (query : Query) :
    poll.setQuery query = { poll with query := query, queryNews := true } :=
  if_neg (by simp [isOpen.queryOpen])

theorem park_of_open (isOpen : poll.IsOpen) :
    poll.park = { poll with phase := .unmounted, mountsNews := false } :=
  if_neg (by simp [isOpen.mountsOpen])

theorem askOrPark_of_mounted (mounted : poll.isMounted = true) :
    poll.askOrPark store = poll.ask store := if_pos mounted

theorem askOrPark_of_unmounted (isOpen : poll.IsOpen) (unmounted : poll.isMounted = false) :
    poll.askOrPark store =
      ({ poll with phase := .unmounted, mountsNews := false }, store, none) := by
  rw [askOrPark, if_neg (ne_true_of_eq_false unmounted), park_of_open isOpen]

theorem resume_of_mounted (mounted : poll.isMounted = true) :
    poll.resume first now store = { poll with mountsNews := false }.watch first now store :=
  if_pos mounted

theorem resume_of_unmounted (isOpen : poll.IsOpen) (unmounted : poll.isMounted = false) :
    poll.resume first now store =
      ({ poll with phase := .unmounted, mountsNews := false }, store, none) := by
  rw [resume, if_neg (ne_true_of_eq_false unmounted), park_of_open isOpen]

/-- A poll that has found another query begins its rhythm anew. -/
theorem acts_of_queryNews (isOpen : poll.IsOpen) (mountsNews : Bool) :
    poll.Acts now store
      ({ poll with
          mountsNews := mountsNews
          queryNews := false
          ticker := poll.ticker.reset now }.askOrPark store) := by
  cases mounted : poll.isMounted with
  | true =>
      rw [askOrPark_of_mounted (by exact mounted)]
      exact .begins mounted mountsNews false fun _ => rfl
  | false =>
      rw [askOrPark_of_unmounted (by exact ⟨isOpen.mountsOpen, isOpen.queryOpen⟩)
        (by exact mounted)]
      exact .parks mounted false (fun _ => rfl) _ rfl

/-- A poll that watches takes up another query or the tick. -/
theorem acts_watch (isOpen : poll.IsOpen)
    (running : poll.phase = .watching ∨ poll.phase.isAsking = true) (mountsNews : Bool) :
    poll.Acts now store ({ poll with mountsNews := mountsNews }.watch first now store) := by
  unfold watch
  split
  next taken =>
    rw [takesTick, Bool.and_eq_true] at taken
    cases mounted : poll.isMounted with
    | true =>
        rw [askOrPark_of_mounted (by exact mounted)]
        exact .ticks mounted mountsNews running taken.1
    | false =>
        rw [askOrPark_of_unmounted (by exact ⟨isOpen.mountsOpen, isOpen.queryOpen⟩)
          (by exact mounted)]
        exact .parks mounted poll.queryNews id _ (poll.ticker.period_take now)
  next left =>
    split
    next => exact acts_of_queryNews isOpen mountsNews
    next still =>
      have heeded : poll.queryNews = false := eq_false_of_ne_true still
      rw [if_neg (by simp [isOpen.queryOpen])]
      exact .watches mountsNews running heeded
        (by simpa [takesTick, heeded, isOpen.queryOpen] using left)

/-- A poll that finds a mount asks at once. -/
theorem acts_watch_anew (isOpen : poll.IsOpen) (mounted : poll.isMounted = true)
    (mountsNews : Bool) :
    poll.Acts now store
      ({ poll with mountsNews := mountsNews, ticker := poll.ticker.resetNow now }.watch first now
        store) := by
  unfold watch
  split
  next =>
    rw [askOrPark_of_mounted (by exact mounted), Ticker.take_resetNow]
    exact .begins mounted mountsNews poll.queryNews id
  next left =>
    split
    next => exact acts_of_queryNews isOpen mountsNews
    next still =>
      have heeded : poll.queryNews = false := eq_false_of_ne_true still
      simp [takesTick, heeded, isOpen.queryOpen] at left

theorem acts_turn (isOpen : poll.IsOpen) :
    poll.Acts now store (poll.turn first now store) := by
  unfold turn
  split
  next starting =>
    split
    next still => exact .stops still
    next =>
      cases mounted : poll.isMounted with
      | true =>
          rw [resume_of_mounted (by exact mounted)]
          exact acts_watch_anew isOpen mounted false
      | false =>
          rw [resume_of_unmounted (by exact ⟨isOpen.mountsOpen, isOpen.queryOpen⟩)
            (by exact mounted)]
          exact .parks mounted poll.queryNews id _ rfl
  next unmounted =>
    rw [awaitMount]
    split
    next found =>
      rw [Bool.and_eq_true] at found
      exact acts_watch_anew isOpen found.2 false
    next none =>
      split
      next news =>
        rw [isOpen.mountsOpen, Bool.or_false] at news
        rw [news, Bool.true_and] at none
        rw [park_of_open isOpen]
        exact .parks (eq_false_of_ne_true none) poll.queryNews id _ rfl
      next => exact .rests
  next watching => exact acts_watch isOpen (.inl watching) poll.mountsNews
  next => exact .rests
  next => exact .rests

/-- The store when the poll has taken up an answer, before it goes on. -/
def absorb (poll : BulkPoll) (wall : Instant) (answer : Except Fault Page) (store : Store) :
    Store :=
  match poll.phase with
  | .asking query sequence => merge query sequence wall answer store
  | .starting => store
  | .unmounted => store
  | .watching => store
  | .stopped => store

theorem accept_of_asking (asking : poll.phase.isAsking = true) (wall : Instant)
    (answer : Except Fault Page) :
    poll.accept first now wall answer store =
      poll.resume first now (poll.absorb wall answer store) := by
  cases phase : poll.phase with
  | asking query sequence => simp [accept, absorb, phase]
  | _ => simp [phase, BulkPhase.isAsking] at asking

theorem accept_of_not_asking (unasked : poll.phase.isAsking = false) (wall : Instant)
    (answer : Except Fault Page) :
    poll.accept first now wall answer store = (poll, poll.absorb wall answer store, none) := by
  cases phase : poll.phase with
  | asking query sequence => simp [phase, BulkPhase.isAsking] at unasked
  | _ => simp [accept, absorb, phase]

theorem acts_accept (isOpen : poll.IsOpen) (wall : Instant) (answer : Except Fault Page) :
    poll.Acts now (poll.absorb wall answer store) (poll.accept first now wall answer store) := by
  cases asking : poll.phase.isAsking with
  | true =>
      rw [accept_of_asking asking]
      cases mounted : poll.isMounted with
      | true =>
          rw [resume_of_mounted mounted]
          exact acts_watch isOpen (.inr asking) false
      | false =>
          rw [resume_of_unmounted isOpen mounted]
          exact .parks mounted poll.queryNews id _ rfl
  | false =>
      rw [accept_of_not_asking asking]
      exact .rests

/-- Acting changes neither the mounts nor the query nor the period. -/
theorem Acts.kept {result : BulkPoll × Store × Option Call} (acts : poll.Acts now store result) :
    result.1.mounts = poll.mounts ∧ result.1.query = poll.query ∧
      (poll.IsOpen → result.1.IsOpen) ∧ result.1.ticker.period = poll.ticker.period := by
  cases acts with
  | begins => exact ⟨rfl, rfl, fun isOpen => ⟨isOpen.mountsOpen, isOpen.queryOpen⟩, rfl⟩
  | ticks =>
      exact ⟨rfl, rfl, fun isOpen => ⟨isOpen.mountsOpen, isOpen.queryOpen⟩,
        poll.ticker.period_take now⟩
  | parks unmounted queryNews noted ticker period =>
      exact ⟨rfl, rfl, fun isOpen => ⟨isOpen.mountsOpen, isOpen.queryOpen⟩, period⟩
  | watches => exact ⟨rfl, rfl, fun isOpen => ⟨isOpen.mountsOpen, isOpen.queryOpen⟩, rfl⟩
  | rests => exact ⟨rfl, rfl, id, rfl⟩
  | stops => exact ⟨rfl, rfl, fun isOpen => ⟨isOpen.mountsOpen, isOpen.queryOpen⟩, rfl⟩

theorem Acts.heeded {result : BulkPoll × Store × Option Call} (acts : poll.Acts now store result)
    (heeded : poll.queryNews = false) : result.1.queryNews = false := by
  cases acts with
  | begins mounted mountsNews queryNews noted => exact noted heeded
  | ticks => exact heeded
  | parks unmounted queryNews noted ticker period => exact noted heeded
  | watches => exact heeded
  | rests => exact heeded
  | stops => exact heeded

/-- The poll asks only while it is mounted, and for the page of its query; to ask is to draw. -/
theorem Acts.asks_cases {result : BulkPoll × Store × Option Call}
    (acts : poll.Acts now store result) :
    (result.2 = (store.draw.1, some (.list poll.query)) ∧ poll.isMounted = true ∧
      result.1.phase.isAsking = true) ∨
    result.2 = (store, none) := by
  cases acts with
  | begins mounted => exact .inl ⟨rfl, mounted, rfl⟩
  | ticks mounted => exact .inl ⟨rfl, mounted, rfl⟩
  | parks => exact .inr rfl
  | watches => exact .inr rfl
  | rests => exact .inr rfl
  | stops => exact .inr rfl

end Acts

section Setting

variable (poll : BulkPoll) (mounts : Nat) (query : Query)

@[simp] theorem phase_setMounts : (poll.setMounts mounts).phase = poll.phase := by
  unfold setMounts
  split
  · rfl
  · rfl

@[simp] theorem queryNews_setMounts : (poll.setMounts mounts).queryNews = poll.queryNews := by
  unfold setMounts
  split
  · rfl
  · rfl

@[simp] theorem phase_setQuery : (poll.setQuery query).phase = poll.phase := by
  unfold setQuery
  split
  · rfl
  · rfl

theorem queryNews_setQuery (news : poll.queryNews = true) :
    (poll.setQuery query).queryNews = true := by
  unfold setQuery
  split
  · exact news
  · rfl

end Setting

/-! ## Happenings -/

/-- What can happen to the poll of the displayed page. -/
inductive Happening where
  /-- It gets its turn, and takes up one of two things first if it finds both. -/
  | turned (first : Precedence)
  /-- Somebody mounts the list. -/
  | mounted
  /-- Somebody takes a mount back. -/
  | unmounted
  | queried (query : Query)
  /-- It is answered, and goes on likewise. -/
  | answered (first : Precedence) (wall : Instant) (answer : Except Fault Page)
  | stopped
  /-- Another source writes to the store. -/
  | wrote (store : Store)

namespace Happening

/-- How many have the list mounted after something has happened. -/
def mounts (count : Nat) : Happening → Nat
  | .mounted => count + 1
  | .unmounted => count - 1
  | .turned _ => count
  | .queried _ => count
  | .answered _ _ _ => count
  | .stopped => count
  | .wrote _ => count

def query? : Happening → Option Query
  | .queried query => some query
  | .turned _ => none
  | .mounted => none
  | .unmounted => none
  | .answered _ _ _ => none
  | .stopped => none
  | .wrote _ => none

def isAnswer : Happening → Bool
  | .answered _ _ _ => true
  | .turned _ => false
  | .mounted => false
  | .unmounted => false
  | .queried _ => false
  | .stopped => false
  | .wrote _ => false

def isStop : Happening → Bool
  | .stopped => true
  | .turned _ => false
  | .mounted => false
  | .unmounted => false
  | .queried _ => false
  | .answered _ _ _ => false
  | .wrote _ => false

/-- Whether the poll hears of it from outside. -/
def isHeard : Happening → Bool
  | .mounted => true
  | .unmounted => true
  | .queried _ => true
  | .answered _ _ _ => true
  | .stopped => true
  | .turned _ => false
  | .wrote _ => false

/-- Whether something may be merged into the store. -/
def mayMerge : Happening → Bool
  | .answered _ _ (.ok _) => true
  | .wrote _ => true
  | .answered _ _ (.error _) => false
  | .turned _ => false
  | .mounted => false
  | .unmounted => false
  | .queried _ => false
  | .stopped => false

end Happening

/-- The poll of the displayed page beside the store, by the clock. -/
def clockwork : Clockwork (BulkPoll × Store) Happening Call where
  dueAt? state now := state.1.dueAt? now
  step state now
    | .turned first =>
        let turned := state.1.turn first now state.2
        ((turned.1, turned.2.1), turned.2.2)
    | .mounted => ((state.1.setMounts (state.1.mounts + 1), state.2), none)
    | .unmounted => ((state.1.setMounts (state.1.mounts - 1), state.2), none)
    | .queried query => ((state.1.setQuery query, state.2), none)
    | .answered first wall answer =>
        let accepted := state.1.accept first now wall answer state.2
        ((accepted.1, accepted.2.1), accepted.2.2)
    | .stopped => ((state.1.stop, state.2), none)
    | .wrote store => ((state.1, store), none)

/-- How many have the list mounted after a run. -/
def mountsAfter (mounts : Nat) (past : List (Nat × Happening)) : Nat :=
  past.foldl (fun count happening => happening.2.mounts count) mounts

/-- The query that was set last in a run. -/
def latestQuery (query : Query) (past : List (Nat × Happening)) : Query :=
  (past.filterMap fun happening => happening.2.query?).getLast?.getD query

section Clockwork

variable (poll : BulkPoll) (first : Precedence) (store other : Store) (now : Nat) (wall : Instant)
  (answer : Except Fault Page) (query : Query)

@[simp] theorem clockwork_turned : clockwork.step (poll, store) now (.turned first) =
    (((poll.turn first now store).1, (poll.turn first now store).2.1),
      (poll.turn first now store).2.2) := rfl

@[simp] theorem clockwork_mounted : clockwork.step (poll, store) now .mounted =
    ((poll.setMounts (poll.mounts + 1), store), none) := rfl

@[simp] theorem clockwork_unmounted : clockwork.step (poll, store) now .unmounted =
    ((poll.setMounts (poll.mounts - 1), store), none) := rfl

@[simp] theorem clockwork_queried : clockwork.step (poll, store) now (.queried query) =
    ((poll.setQuery query, store), none) := rfl

@[simp] theorem clockwork_answered :
    clockwork.step (poll, store) now (.answered first wall answer) =
      (((poll.accept first now wall answer store).1, (poll.accept first now wall answer store).2.1),
        (poll.accept first now wall answer store).2.2) := rfl

@[simp] theorem clockwork_stopped : clockwork.step (poll, store) now .stopped =
    ((poll.stop, store), none) := rfl

@[simp] theorem clockwork_wrote : clockwork.step (poll, store) now (.wrote other) =
    ((poll, other), none) := rfl

end Clockwork

section History

variable (mounts time : Nat) (query : Query) (past : List (Nat × Happening))
  (happening : Happening)

@[simp] theorem mountsAfter_concat : mountsAfter mounts (past ++ [(time, happening)]) =
    happening.mounts (mountsAfter mounts past) := List.foldl_append

@[simp] theorem latestQuery_concat : latestQuery query (past ++ [(time, happening)]) =
    happening.query?.getD (latestQuery query past) := by
  unfold latestQuery
  rw [List.filterMap_append]
  cases found : happening.query? with
  | none => simp [found]
  | some other => simp [found]

end History

/-- What the poll knows of its mounts and queries after a run. -/
structure Sound (interval mounts : Nat) (query : Query) (past : List (Nat × Happening))
    (poll : BulkPoll) : Prop extends poll.IsOpen where
  period : poll.ticker.period = interval
  counted : poll.mounts = mountsAfter mounts past
  chosen : poll.query = latestQuery query past
  /-- While it waits for a mount, it looks at every change. -/
  noticed : poll.phase = .unmounted → poll.isMounted = true → poll.mountsNews = true
  stopped : poll.phase = .stopped → interval = 0 ∨ ∃ happening ∈ past, happening.2.isStop = true

namespace Sound

variable {interval mounts : Nat} {query : Query} {past : List (Nat × Happening)} {poll : BulkPoll}

theorem start (interval mounts : Nat) (query : Query) (now : Nat) :
    (start interval mounts query now).Sound interval mounts query [] where
  mountsOpen := rfl
  queryOpen := rfl
  period := rfl
  counted := rfl
  chosen := rfl
  noticed := nofun
  stopped := nofun

/-- The poll knows no less when it has acted. -/
theorem acts {result : BulkPoll × Store × Option Call} {now time : Nat} {store : Store}
    {happening : Happening} (sound : poll.Sound interval mounts query past)
    (acts : poll.Acts now store result)
    (uncounted : ∀ count, happening.mounts count = count) (unchosen : happening.query? = none) :
    result.1.Sound interval mounts query (past ++ [(time, happening)]) := by
  obtain ⟨counted, chosen, isOpen, period⟩ := acts.kept
  constructor
  case toIsOpen => exact isOpen sound.toIsOpen
  case period => exact period.trans sound.period
  case counted => rw [counted, sound.counted, mountsAfter_concat, uncounted]
  case chosen =>
    rw [chosen, sound.chosen, latestQuery_concat, unchosen]
    rfl
  case noticed =>
    cases acts with
    | begins => exact nofun
    | ticks => exact nofun
    | parks unmounted => exact fun _ found => absurd found (ne_true_of_eq_false unmounted)
    | watches => exact nofun
    | rests => exact sound.noticed
    | stops => exact nofun
  case stopped =>
    intro stopped
    cases acts with
    | begins => cases stopped
    | ticks => cases stopped
    | parks => cases stopped
    | watches => cases stopped
    | rests =>
        refine (sound.stopped stopped).imp_right ?_
        rintro ⟨happening, member, stops⟩
        exact ⟨happening, List.mem_append_left _ member, stops⟩
    | stops still => exact .inl (sound.period.symm.trans still)

theorem step (sound : poll.Sound interval mounts query past) (store : Store) (time : Nat)
    (happening : Happening) :
    (clockwork.step (poll, store) time happening).1.1.Sound interval mounts query
      (past ++ [(time, happening)]) := by
  have before : poll.phase = .stopped → interval = 0 ∨
      ∃ other ∈ past ++ [(time, happening)], other.2.isStop = true := by
    intro stopped
    refine (sound.stopped stopped).imp_right ?_
    rintro ⟨other, member, stops⟩
    exact ⟨other, List.mem_append_left _ member, stops⟩
  cases happening with
  | turned first => exact sound.acts (acts_turn sound.toIsOpen) (fun _ => rfl) rfl
  | answered first wall answer =>
      exact sound.acts (acts_accept sound.toIsOpen wall answer) (fun _ => rfl) rfl
  | mounted =>
      rw [clockwork_mounted, setMounts_of_open sound.toIsOpen]
      exact ⟨⟨sound.mountsOpen, sound.queryOpen⟩, sound.period,
        by simp [sound.counted, Happening.mounts], by simp [sound.chosen, Happening.query?],
        fun _ _ => rfl, before⟩
  | unmounted =>
      rw [clockwork_unmounted, setMounts_of_open sound.toIsOpen]
      exact ⟨⟨sound.mountsOpen, sound.queryOpen⟩, sound.period,
        by simp [sound.counted, Happening.mounts], by simp [sound.chosen, Happening.query?],
        fun _ _ => rfl, before⟩
  | queried other =>
      rw [clockwork_queried, setQuery_of_open sound.toIsOpen]
      exact ⟨⟨sound.mountsOpen, sound.queryOpen⟩, sound.period,
        by simp [sound.counted, Happening.mounts], by simp [Happening.query?],
        sound.noticed, before⟩
  | stopped =>
      exact ⟨⟨sound.mountsOpen, sound.queryOpen⟩, sound.period,
        by simp [stop, sound.counted, Happening.mounts],
        by simp [stop, sound.chosen, Happening.query?], nofun,
        fun _ => .inr ⟨_, List.mem_append_right _ (.head _), rfl⟩⟩
  | wrote other =>
      exact ⟨sound.toIsOpen, sound.period, by simp [sound.counted, Happening.mounts],
        by simp [sound.chosen, Happening.query?], sound.noticed, before⟩

theorem run (sound : poll.Sound interval mounts query past) (store : Store)
    (happenings : List (Nat × Happening)) :
    (clockwork.run (poll, store) happenings).1.Sound interval mounts query
      (past ++ happenings) := by
  induction happenings generalizing poll store past with
  | nil => simpa using sound
  | cons first rest ih =>
      rw [List.append_cons]
      exact ih (sound.step store first.1 first.2) _

end Sound

/-! ## Requests -/

section Requests

variable {poll : BulkPoll} {first : Precedence} {store : Store} {now : Nat}
  {happenings : List (Nat × Happening)}

/-- Whichever of the two it takes up, a mounted poll asks. -/
theorem asks_of_watch (isOpen : poll.IsOpen) (mounted : poll.isMounted = true)
    (ready : poll.queryNews = true ∨ poll.ticker.isDue now = true) :
    (poll.watch first now store).2.2 = some (.list poll.query) := by
  unfold watch
  split
  next => rw [askOrPark_of_mounted (by exact mounted), ask]
  next left =>
    cases news : poll.queryNews with
    | true => rw [if_pos rfl, askOrPark_of_mounted (by exact mounted), ask]
    | false =>
        have due := ready.resolve_left (ne_true_of_eq_false news)
        simp [takesTick, news, due, isOpen.queryOpen] at left

theorem turn_of_starting (starting : poll.phase = .starting) (moves : poll.ticker.period ≠ 0) :
    poll.turn first now store =
      { poll with ticker := poll.ticker.resetNow now }.resume first now store := by
  simp [turn, starting, moves]

theorem turn_of_unmounted (unmounted : poll.phase = .unmounted) :
    poll.turn first now store = poll.awaitMount first now store := by simp [turn, unmounted]

theorem turn_of_watching (watching : poll.phase = .watching) :
    poll.turn first now store = poll.watch first now store := by simp [turn, watching]

theorem watch_of_due (isOpen : poll.IsOpen) (mounted : poll.isMounted = true)
    (heeded : poll.queryNews = false) (due : poll.ticker.isDue now = true) :
    poll.watch first now store = { poll with ticker := poll.ticker.take now }.ask store := by
  rw [watch, if_pos (by simp [takesTick, due, heeded, isOpen.queryOpen]),
    askOrPark_of_mounted (by exact mounted)]

theorem watch_of_early (isOpen : poll.IsOpen) (heeded : poll.queryNews = false)
    (early : poll.ticker.isDue now = false) :
    poll.watch first now store = ({ poll with phase := .watching }, store, none) := by
  rw [watch, if_neg (by simp [takesTick, early]), if_neg (by simp [heeded]),
    if_neg (by simp [isOpen.queryOpen])]

/-- Whether a mounted poll asks as soon as it gets its turn. -/
def IsPoised (poll : BulkPoll) : Prop :=
  poll.phase = .starting ∧ poll.ticker.period ≠ 0 ∨
    poll.phase = .unmounted ∧ poll.mountsNews = true ∨
    poll.phase = .watching ∧ poll.queryNews = true

theorem asks_of_poised (isOpen : poll.IsOpen) (mounted : poll.isMounted = true)
    (poised : poll.IsPoised) : (poll.turn first now store).2.2 = some (.list poll.query) := by
  rcases poised with ⟨starting, moves⟩ | ⟨unmounted, news⟩ | ⟨watching, news⟩
  · rw [turn_of_starting starting moves, resume_of_mounted (by exact mounted)]
    exact asks_of_watch ⟨isOpen.mountsOpen, isOpen.queryOpen⟩ mounted (.inr (by simp))
  · rw [turn_of_unmounted unmounted, awaitMount, if_pos (by simp [news, mounted])]
    exact asks_of_watch ⟨isOpen.mountsOpen, isOpen.queryOpen⟩ mounted (.inr (by simp))
  · rw [turn_of_watching watching]
    exact asks_of_watch isOpen mounted (.inl news)

theorem due_of_poised (poised : poll.IsPoised) : poll.dueAt? now = some now := by
  rcases poised with ⟨starting, -⟩ | ⟨unmounted, news⟩ | ⟨watching, news⟩
  · simp [dueAt?, starting]
  · simp [dueAt?, unmounted, news]
  · simp [dueAt?, watching, news]

/-- If nothing else is heard at that moment, a mounted poll that is about to ask does so at once. -/
theorem nextAt_of_poised (isOpen : poll.IsOpen) (mounted : poll.isMounted = true)
    (poised : poll.IsPoised) (timely : clockwork.Timely (poll, store) now happenings)
    (alone : ∀ happening ∈ happenings, happening.2.isHeard = true → happening.1 ≠ now) :
    clockwork.NextAt (.turned first) (poll, store) now happenings (some now) := by
  refine Clockwork.nextAt_of_due (fun state => state.1 = poll)
    (fun happening => happening.2.isHeard = true → happening.1 ≠ now) ?_ ?_ ?_ rfl timely alone
  · rintro ⟨same, store⟩ rfl
    exact due_of_poised poised
  · rintro ⟨same, store⟩ rfl
    exact Option.isSome_of_eq_some (asks_of_poised isOpen mounted poised)
  · rintro ⟨same, store⟩ happening rfl unheard
    cases happening with
    | turned other =>
        exact .inl (Option.isSome_of_eq_some (asks_of_poised isOpen mounted poised))
    | wrote other => exact .inr ⟨rfl, rfl⟩
    | mounted => exact absurd rfl (unheard rfl)
    | unmounted => exact absurd rfl (unheard rfl)
    | queried query => exact absurd rfl (unheard rfl)
    | answered first wall answer => exact absurd rfl (unheard rfl)
    | stopped => exact absurd rfl (unheard rfl)

theorem accept_of_stopped (stopped : poll.phase = .stopped) {wall : Instant}
    {answer : Except Fault Page} :
    poll.accept first now wall answer store = (poll, store, none) := by
  simp [accept, stopped]

theorem step_of_stopped (stopped : poll.phase = .stopped) (store : Store) (time : Nat)
    (happening : Happening) :
    (clockwork.step (poll, store) time happening).2 = none ∧
      (clockwork.step (poll, store) time happening).1.1.phase = .stopped := by
  cases happening with
  | turned first => simp [turn, stopped]
  | mounted => exact ⟨rfl, (poll.phase_setMounts _).trans stopped⟩
  | unmounted => exact ⟨rfl, (poll.phase_setMounts _).trans stopped⟩
  | queried query => exact ⟨rfl, (poll.phase_setQuery query).trans stopped⟩
  | answered first wall answer => simp [accept_of_stopped stopped, stopped]
  | stopped => exact ⟨rfl, rfl⟩
  | wrote other => exact ⟨rfl, stopped⟩

theorem silent_of_stopped (stopped : poll.phase = .stopped) (happenings : List (Nat × Happening)) :
    clockwork.outputs (poll, store) happenings = [] ∧
      (clockwork.run (poll, store) happenings).1.phase = .stopped := by
  refine Clockwork.outputs_of_quiet (fun state : BulkPoll × Store => state.1.phase = .stopped)
    (fun _ => True) ?_ stopped fun _ _ => trivial
  rintro state time happening stopped -
  exact step_of_stopped stopped state.2 time happening

theorem exists_asking (asking : poll.phase.isAsking = true) :
    ∃ query sequence, poll.phase = .asking query sequence := by
  cases phase : poll.phase with
  | asking query sequence => exact ⟨query, sequence, rfl⟩
  | _ => simp [phase, BulkPhase.isAsking] at asking

theorem turn_of_asking (asking : poll.phase.isAsking = true) :
    poll.turn first now store = (poll, store, none) := by
  obtain ⟨query, sequence, phase⟩ := exists_asking asking
  simp [turn, phase]

/-- While a request is under way, the poll only notes what happens. -/
theorem step_of_asking (asking : poll.phase.isAsking = true) (store : Store) (time : Nat)
    {happening : Happening} (unanswered : happening.isAnswer = false)
    (unstopped : happening.isStop = false) :
    (clockwork.step (poll, store) time happening).2 = none ∧
      (clockwork.step (poll, store) time happening).1.1.phase = poll.phase ∧
      (poll.queryNews = true →
        (clockwork.step (poll, store) time happening).1.1.queryNews = true) := by
  cases happening with
  | turned first =>
      rw [clockwork_turned, turn_of_asking asking]
      exact ⟨rfl, rfl, id⟩
  | mounted => exact ⟨rfl, poll.phase_setMounts _, (poll.queryNews_setMounts _).trans⟩
  | unmounted => exact ⟨rfl, poll.phase_setMounts _, (poll.queryNews_setMounts _).trans⟩
  | queried query => exact ⟨rfl, poll.phase_setQuery query, poll.queryNews_setQuery query⟩
  | wrote other => exact ⟨rfl, rfl, id⟩
  | answered first wall answer => cases unanswered
  | stopped => cases unstopped

/-- What was noted during a request is still known when the answer comes. -/
theorem run_of_asking (asking : poll.phase.isAsking = true) (news : poll.queryNews = true)
    (quiet : ∀ happening ∈ happenings, happening.2.isAnswer = false ∧ happening.2.isStop = false) :
    (clockwork.run (poll, store) happenings).1.phase.isAsking = true ∧
      (clockwork.run (poll, store) happenings).1.queryNews = true := by
  refine (Clockwork.outputs_of_quiet
    (fun state : BulkPoll × Store => state.1.phase.isAsking = true ∧ state.1.queryNews = true)
    (fun happening : Happening => happening.isAnswer = false ∧ happening.isStop = false) ?_
    ⟨asking, news⟩ quiet).2
  rintro state time happening ⟨asking, news⟩ ⟨unanswered, unstopped⟩
  obtain ⟨silent, phase, noted⟩ := step_of_asking asking state.2 time unanswered unstopped
  exact ⟨silent, by rw [phase]; exact asking, noted news⟩

/-- Nothing but its answer makes the poll go on from a request. -/
theorem outputs_of_asking (asking : poll.phase.isAsking = true)
    (unanswered : ∀ happening ∈ happenings, happening.2.isAnswer = false) :
    clockwork.outputs (poll, store) happenings = [] := by
  refine (Clockwork.outputs_of_quiet
    (fun state => state.1.phase.isAsking = true ∨ state.1.phase = .stopped)
    (fun happening => happening.isAnswer = false) ?_ (.inl asking) unanswered).1
  rintro ⟨poll, store⟩ time happening (asking | stopped) unanswered
  · cases stops : happening.isStop with
    | true =>
        cases happening with
        | stopped => exact ⟨rfl, .inr rfl⟩
        | _ => cases stops
    | false =>
        obtain ⟨silent, phase, -⟩ := step_of_asking asking store time unanswered stops
        exact ⟨silent, .inl (by rw [phase]; exact asking)⟩
  · exact (step_of_stopped stopped store time happening).imp_right .inr

end Requests

/-! ## Rest -/

section Rest

variable (poll : BulkPoll) (first : Precedence) (now : Nat) (store : Store)

/-- Whether the poll is not due yet. -/
def IsCalm : Prop := ∀ due ∈ poll.dueAt? now, now < due

variable {poll} in
theorem isCalm_park : poll.park.IsCalm now := by
  unfold park
  split
  · exact nofun
  · intro due isDue
    simp_all [dueAt?]

theorem isCalm_askOrPark : (poll.askOrPark store).1.IsCalm now := by
  unfold askOrPark
  split
  · exact nofun
  · exact isCalm_park now

theorem isCalm_watch : (poll.watch first now store).1.IsCalm now := by
  unfold watch
  split
  · exact isCalm_askOrPark _ now store
  · split
    · exact isCalm_askOrPark _ now store
    · split
      · exact nofun
      · intro due isDue
        simp_all [dueAt?, takesTick, Ticker.isDue]

theorem isCalm_resume : (poll.resume first now store).1.IsCalm now := by
  unfold resume
  split
  · exact isCalm_watch _ first now store
  · exact isCalm_park now

theorem isCalm_turn : (poll.turn first now store).1.IsCalm now := by
  unfold turn
  split
  next =>
    split
    · exact nofun
    · exact isCalm_resume _ first now store
  next unmounted =>
    unfold awaitMount
    split
    · exact isCalm_watch _ first now store
    · split
      · exact isCalm_park now
      · intro due isDue
        simp_all [dueAt?]
  next => exact poll.isCalm_watch first now store
  next asking =>
    intro due isDue
    simp [dueAt?, asking] at isDue
  next stopped =>
    intro due isDue
    simp [dueAt?, stopped] at isDue

theorem restful : clockwork.Restful (.turned first) :=
  fun state now => state.1.isCalm_turn first now state.2

end Rest

/-! ## Mounts and queries -/

section Follows

variable {poll : BulkPoll} {interval mounts now : Nat} {query : Query}
  {past : List (Nat × Happening)}

theorem isMounted_eq_true : poll.isMounted = true ↔ 0 < poll.mounts := decide_eq_true_iff

/-- What is heard at a time of its own is not followed by anything else that is heard then. -/
theorem alone_of_apart {before after : List (Nat × Happening)} {time : Nat} {happening : Happening}
    (heard : happening.isHeard = true)
    (apart : (((before ++ (time, happening) :: after).filter
      fun happening => happening.2.isHeard).map Prod.fst).Nodup) :
    ∀ other ∈ after, other.2.isHeard = true → other.1 ≠ time := by
  rintro other member otherHeard rfl
  rw [List.filter_append, List.filter_cons_of_pos (by exact heard), List.map_append,
    List.map_cons] at apart
  have fresh := (List.nodup_cons.1 (List.nodup_append.1 apart).2.1).1
  exact fresh (List.mem_map.2 ⟨other, List.mem_filter.2 ⟨member, otherHeard⟩, rfl⟩)

theorem poised_of_mount (sound : poll.Sound interval mounts query past)
    (unmounted : poll.phase = .unmounted) :
    (poll.setMounts (poll.mounts + 1)).isMounted = true ∧
      (poll.setMounts (poll.mounts + 1)).IsPoised := by
  rw [setMounts_of_open sound.toIsOpen]
  exact ⟨isMounted_eq_true.2 (Nat.succ_pos _), .inr (.inl ⟨unmounted, rfl⟩)⟩

/-- Another query rouses a mounted poll, unless a request is under way. -/
theorem poised_of_query (sound : poll.Sound interval mounts query past) (moves : 0 < interval)
    (mounted : poll.isMounted = true) (unasked : poll.phase.isAsking = false)
    (unstopped : poll.phase ≠ .stopped) (chosen : Query) :
    (poll.setQuery chosen).isMounted = true ∧ (poll.setQuery chosen).IsPoised := by
  rw [setQuery_of_open sound.toIsOpen]
  refine ⟨mounted, ?_⟩
  cases phase : poll.phase with
  | starting => exact .inl ⟨rfl, by rw [sound.period]; omega⟩
  | unmounted => exact .inr (.inl ⟨rfl, sound.noticed phase mounted⟩)
  | watching => exact .inr (.inr ⟨rfl, rfl⟩)
  | asking query sequence => cases (congrArg BulkPhase.isAsking phase).symm.trans unasked
  | stopped => exact absurd phase unstopped

theorem run_of_query (isOpen : poll.IsOpen) (asking : poll.phase.isAsking = true)
    (chosen : Query) {store : Store} {happenings : List (Nat × Happening)}
    (quiet : ∀ happening ∈ happenings, happening.2.isAnswer = false ∧ happening.2.isStop = false) :
    (clockwork.run (poll.setQuery chosen, store) happenings).1.phase.isAsking = true ∧
      (clockwork.run (poll.setQuery chosen, store) happenings).1.queryNews = true := by
  rw [setQuery_of_open isOpen]
  exact run_of_asking asking rfl quiet

/-- Another query that was set during a request is taken up with the answer, if the list is still
mounted then. Otherwise it is left to the next mount. -/
theorem accept_of_queryNews (sound : poll.Sound interval mounts query past)
    (asking : poll.phase.isAsking = true) (news : poll.queryNews = true) (first : Precedence)
    (now : Nat) (wall : Instant) (answer : Except Fault Page) (store : Store) :
    (0 < mountsAfter mounts past →
      (poll.accept first now wall answer store).2.2 = some (.list poll.query)) ∧
    (mountsAfter mounts past = 0 →
      (poll.accept first now wall answer store).2.2 = none ∧
      (poll.accept first now wall answer store).1.phase = .unmounted) := by
  rw [accept_of_asking asking, ← sound.counted]
  constructor
  · intro some
    have mounted := isMounted_eq_true.2 some
    rw [resume_of_mounted mounted]
    exact asks_of_watch ⟨sound.mountsOpen, sound.queryOpen⟩ mounted (.inl news)
  · intro none
    rw [resume_of_unmounted sound.toIsOpen (by simp [isMounted, none])]
    exact ⟨rfl, rfl⟩

/-- A step that merges nothing leaves the store alone, but for the draw of a request that it
starts. -/
theorem store_step (isOpen : poll.IsOpen) (store : Store) (time : Nat) {happening : Happening}
    (unmerged : happening.mayMerge = false) :
    (clockwork.step (poll, store) time happening).1.2 =
      if (clockwork.step (poll, store) time happening).2.isSome then store.draw.1 else store := by
  have ofActs {result : BulkPoll × Store × Option Call} (acts : poll.Acts time store result) :
      result.2.1 = if result.2.2.isSome then store.draw.1 else store := by
    rcases acts.asks_cases with ⟨asks, -⟩ | rests
    · rw [asks]
      rfl
    · rw [rests]
      rfl
  cases happening with
  | turned first => exact ofActs (acts_turn isOpen)
  | answered first wall answer =>
      cases answer with
      | ok page => cases unmerged
      | error fault =>
          have same : poll.absorb wall (.error fault) store = store := by
            unfold absorb
            split <;> rfl
          have acts : poll.Acts time _ (poll.accept first time wall (.error fault) store) :=
            acts_accept isOpen wall (.error fault)
          rw [same] at acts
          exact ofActs acts
  | mounted => rfl
  | unmounted => rfl
  | queried query => rfl
  | stopped => rfl
  | wrote other => cases unmerged

/-- Whatever makes it ask, the poll is mounted then and asks for the latest query. -/
theorem asks_of_output (sound : poll.Sound interval mounts query past) {store : Store} {time : Nat}
    {happening : Happening} {call : Call}
    (puts : (clockwork.step (poll, store) time happening).2 = some call) :
    0 < mountsAfter mounts (past ++ [(time, happening)]) ∧
      call = .list (latestQuery query (past ++ [(time, happening)])) ∧
      (clockwork.step (poll, store) time happening).1.1.phase.isAsking = true := by
  have ofActs {merged : Store} {result : BulkPoll × Store × Option Call}
      (acts : poll.Acts time merged result) (asks : result.2.2 = some call) :
      0 < mountsAfter mounts past ∧ call = .list (latestQuery query past) ∧
        result.1.phase.isAsking = true := by
    rcases acts.asks_cases with ⟨puts, mounted, asking⟩ | rests
    · rw [puts] at asks
      cases asks
      exact ⟨sound.counted ▸ isMounted_eq_true.1 mounted, sound.chosen ▸ rfl, asking⟩
    · rw [rests] at asks
      cases asks
  rw [mountsAfter_concat, latestQuery_concat]
  cases happening with
  | turned first => exact ofActs (acts_turn sound.toIsOpen) puts
  | answered first wall answer => exact ofActs (acts_accept sound.toIsOpen wall answer) puts
  | mounted => cases puts
  | unmounted => cases puts
  | queried query => cases puts
  | stopped => cases puts
  | wrote other => cases puts

end Follows

/-- Mounts and queries, over any schedule of mounts, queries, answers and an end, no two of them at
the same time, and whatever the poll takes up first where it finds both another query and the tick.
A request starts only while the list is mounted, for the latest query, and not before the one under
way is answered. A mount for which the poll waits starts one at that moment, and so does another
query while the list is mounted; if a request is under way then, the next one starts with its
answer, unless the list is no longer mounted, in which case the poll waits for a mount. But for the
draws of requests, the store stays as it is unless a page or another source is merged. After the end
no request starts and no answer is merged. The run goes on to any later time by the turns of the
poll alone, so every request that is due does start. A poll without a period ends at its first turn,
so a query that is set before that turn takes an interval above zero. -/
theorem follows_mounts_and_query (interval mounts : Nat) (query : Query) (now : Nat) (store : Store)
    {happenings : List (Nat × Happening)}
    (timely : clockwork.Timely (start interval mounts query now, store) now happenings)
    (apart : ((happenings.filter fun happening => happening.2.isHeard).map Prod.fst).Nodup) :
    let begun := (start interval mounts query now, store)
    (∀ before time happening after call, happenings = before ++ (time, happening) :: after →
      (clockwork.step (clockwork.run begun before) time happening).2 = some call →
      0 < mountsAfter mounts (before ++ [(time, happening)]) ∧
      call = .list (latestQuery query (before ++ [(time, happening)])) ∧
      (clockwork.run begun (before ++ [(time, happening)])).1.phase.isAsking = true) ∧
    (∀ before during after, happenings = before ++ during ++ after →
      (clockwork.run begun before).1.phase.isAsking = true →
      (∀ happening ∈ during, happening.2.isAnswer = false) →
      clockwork.outputs (clockwork.run begun before) during = []) ∧
    (∀ before time after, happenings = before ++ (time, .mounted) :: after →
      (clockwork.run begun before).1.phase = .unmounted →
      ∀ first, clockwork.NextAt (.turned first)
        (clockwork.run begun (before ++ [(time, .mounted)])) time after (some time)) ∧
    (0 < interval → ∀ before time chosen after,
      happenings = before ++ (time, .queried chosen) :: after →
      0 < mountsAfter mounts before → (∀ happening ∈ before, happening.2.isStop = false) →
      (clockwork.run begun before).1.phase.isAsking = false →
      ∀ first, clockwork.NextAt (.turned first)
        (clockwork.run begun (before ++ [(time, .queried chosen)])) time after (some time)) ∧
    (∀ before time chosen during arrival first wall answer after,
      happenings = before ++ (time, .queried chosen) :: during ++
        (arrival, .answered first wall answer) :: after →
      (clockwork.run begun before).1.phase.isAsking = true →
      (∀ happening ∈ during, happening.2.isAnswer = false ∧ happening.2.isStop = false) →
      let soFar := before ++ (time, .queried chosen) :: during
      let accepted := clockwork.step (clockwork.run begun soFar) arrival
        (.answered first wall answer)
      (0 < mountsAfter mounts soFar → accepted.2.isSome = true) ∧
      (mountsAfter mounts soFar = 0 → accepted.2 = none ∧ accepted.1.1.phase = .unmounted)) ∧
    (∀ before time happening after, happenings = before ++ (time, happening) :: after →
      happening.mayMerge = false →
      (clockwork.run begun (before ++ [(time, happening)])).2 =
        if (clockwork.step (clockwork.run begun before) time happening).2.isSome then
          (clockwork.run begun before).2.draw.1
        else (clockwork.run begun before).2) ∧
    (∀ before time after, happenings = before ++ (time, .stopped) :: after →
      clockwork.outputs (clockwork.run begun (before ++ [(time, .stopped)])) after = [] ∧
      ∀ during arrival first wall answer rest,
        after = during ++ (arrival, .answered first wall answer) :: rest →
        (clockwork.run begun
          (before ++ (time, .stopped) :: during ++ [(arrival, .answered first wall answer)])).2 =
          (clockwork.run begun (before ++ (time, .stopped) :: during)).2) ∧
    ∀ first, clockwork.GoesOn (.turned first) begun now happenings := by
  intro begun
  have sound (before : List (Nat × Happening)) :
      (clockwork.run begun before).1.Sound interval mounts query before :=
    (Sound.start interval mounts query now).run store before
  refine ⟨?_, ?_, ?_, ?_, ?_, ?_, ?_, fun first => timely.goesOn (restful first)⟩
  · rintro before time happening after call - puts
    rw [Clockwork.run_append]
    exact asks_of_output (sound before) puts
  · rintro before during after - asking unanswered
    exact outputs_of_asking asking unanswered
  · rintro before time after rfl unmounted first
    obtain ⟨-, -, -, behind⟩ := Clockwork.timely_append.1 timely
    obtain ⟨mounted, poised⟩ := poised_of_mount (sound before) unmounted
    rw [Clockwork.run_append]
    exact nextAt_of_poised ((sound before).step store time .mounted).toIsOpen mounted poised behind
      (alone_of_apart rfl apart)
  · rintro moves before time chosen after rfl some unstopped unasked first
    obtain ⟨-, -, -, behind⟩ := Clockwork.timely_append.1 timely
    have running : (clockwork.run begun before).1.phase ≠ .stopped := by
      intro stopped
      rcases (sound before).stopped stopped with none | ⟨happening, member, stops⟩
      · omega
      · cases (unstopped happening member).symm.trans stops
    have mounted := isMounted_eq_true.2 ((sound before).counted ▸ some)
    obtain ⟨mounted, poised⟩ :=
      poised_of_query (sound before) moves mounted unasked running chosen
    rw [Clockwork.run_append]
    exact nextAt_of_poised ((sound before).step store time (.queried chosen)).toIsOpen mounted
      poised behind (alone_of_apart rfl apart)
  · rintro before time chosen during arrival first wall answer after - asking quiet soFar accepted
    obtain ⟨asks, news⟩ := run_of_query (sound before).toIsOpen asking chosen quiet
    have reached : clockwork.run begun soFar =
        clockwork.run ((clockwork.run begun before).1.setQuery chosen,
          (clockwork.run begun before).2) during := Clockwork.run_append
    rw [← reached] at asks news
    obtain ⟨mounted, unmounted⟩ := accept_of_queryNews (sound soFar) asks news first arrival wall
      answer (clockwork.run begun soFar).2
    exact ⟨fun some => Option.isSome_of_eq_some (mounted some), unmounted⟩
  · rintro before time happening after - unmerged
    rw [Clockwork.run_append]
    exact store_step (sound before).toIsOpen _ time unmerged
  · rintro before time after -
    have stopped : (clockwork.run begun (before ++ [(time, .stopped)])).1.phase = .stopped := by
      rw [Clockwork.run_append]
      rfl
    refine ⟨(silent_of_stopped stopped after).1, ?_⟩
    rintro during arrival first wall answer rest -
    have still : (clockwork.run begun (before ++ (time, .stopped) :: during)).1.phase =
        .stopped := by
      rw [List.append_cons, Clockwork.run_append]
      exact (silent_of_stopped stopped during).2
    rw [Clockwork.run_append]
    exact congrArg (fun accepted => accepted.2.1) (accept_of_stopped still)

/-- A mount; another query that is set during the first request; and a third one that is set while
the poll waits for its tick. -/
def queriedTwice : List (Nat × Happening) :=
  [(0, .turned .query), (20, .mounted), (20, .turned .query), (30, .queried (.ofPage 2 20)),
    (90, .answered .query ⟨0, 0⟩ (.ok .empty)), (150, .answered .query ⟨0, 0⟩ (.ok .empty)),
    (400, .queried (.ofPage 3 20)), (400, .turned .tick)]

theorem queriedTwice_follows :
    clockwork.NextAt (.turned .query)
        (clockwork.run (start 5000 0 .standard 0, .initial 10000) (queriedTwice.take 2)) 20
        (queriedTwice.drop 2) (some 20) ∧
      (clockwork.step
        (clockwork.run (start 5000 0 .standard 0, .initial 10000) (queriedTwice.take 4)) 90
        (.answered .query ⟨0, 0⟩ (.ok .empty))).2.isSome = true ∧
      clockwork.NextAt (.turned .tick)
        (clockwork.run (start 5000 0 .standard 0, .initial 10000) (queriedTwice.take 7)) 400
        (queriedTwice.drop 7) (some 400) ∧
      clockwork.outputs (start 5000 0 .standard 0, .initial 10000) queriedTwice =
        [(20, .list .standard), (90, .list (.ofPage 2 20)), (400, .list (.ofPage 3 20))] := by
  have timely : clockwork.Timely (start 5000 0 .standard 0, .initial 10000) 0 queriedTwice := by
    decide
  have apart : ((queriedTwice.filter fun happening => happening.2.isHeard).map
      Prod.fst).Nodup := by decide
  obtain ⟨-, -, mount, watching, asking, -⟩ :=
    follows_mounts_and_query 5000 0 .standard 0 (.initial 10000) timely apart
  have untilQueried : queriedTwice.take 7 =
      queriedTwice.take 6 ++ [(400, .queried (.ofPage 3 20))] := rfl
  refine ⟨mount (queriedTwice.take 1) 20 _ rfl rfl .query, ?_, ?_, by decide⟩
  · exact (asking (queriedTwice.take 3) 30 _ [] 90 .query _ _ _ rfl rfl nofun).1 (by decide)
  · rw [untilQueried]
    exact watching (by decide) (queriedTwice.take 6) 400 _ _ rfl (by decide) (by decide) rfl .tick

end BulkPoll

/-- Whatever happens in a session, is to its poll of the displayed page a happening of its own, or a
write to the store. -/
theorem Session.page_happen (session : Session) (happening : Session.Happening) :
    ∃ own, ((session.happen happening).bulk, (session.happen happening).store) =
      BulkPoll.clockwork.run (session.bulk, session.store) own := by
  have wrote (same : (session.happen happening).bulk = session.bulk) :
      ∃ own, ((session.happen happening).bulk, (session.happen happening).store) =
        BulkPoll.clockwork.run (session.bulk, session.store) own :=
    ⟨[(0, .wrote (session.happen happening).store)], by rw [same]; rfl⟩
  cases happening with
  | bulkTurned first now => exact ⟨[(now, .turned first)], rfl⟩
  | bulkAnswered first now wall answer => exact ⟨[(now, .answered first wall answer)], rfl⟩
  | mounted => exact ⟨[(0, .mounted)], rfl⟩
  | unmounted => exact ⟨[(0, .unmounted)], rfl⟩
  | queried query => exact ⟨[(0, .queried query)], rfl⟩
  | shutDown => exact ⟨[(0, .stopped)], rfl⟩
  | received channel wall event =>
      refine wrote ?_
      rw [happen, receive]
      split
      · rfl
      · rfl
      · rfl
  | watcherTurned index now =>
      refine wrote ?_
      simp only [happen]
      split
      · rfl
      · rfl
  | watcherAnswered index now wall answer =>
      refine wrote ?_
      simp only [happen]
      split
      · rfl
      · rfl
  | watched job now =>
      refine wrote ?_
      simp only [happen, watch]
      split
      · rfl
      · rfl
  | cancelBegun job =>
      refine wrote ?_
      simp only [happen, beginCancel]
      cases session.cancellations.begin session.store job with
      | error error => rfl
      | ok begun => rfl
  | activeTurned now => exact wrote rfl
  | activeAnswered now wall answer => exact wrote rfl
  | unwatched job => exact wrote rfl
  | cancelReleased job => exact wrote rfl
  | connected streams => exact wrote rfl
  | applied report => exact wrote rfl

end LiveJobs
