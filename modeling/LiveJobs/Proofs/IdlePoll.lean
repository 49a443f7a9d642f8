import LiveJobs.Proofs.Merging
import LiveJobs.Proofs.Sources

/-!
# The sleep of the poll of the running jobs

The poll of the running jobs goes idle once an answer is empty, and only an event wakes it. An event
that is received while a request is under way must not be lost: it leaves a wake behind, which the
poll finds when it is about to wait.

Whether an event tells of new work is settled by the resources of the last answer, and that is where
the poll can be taken in. While a request is under way the last answer is an old one: an event about
another job on a resource that was listed then leaves no wake, and if the new answer is empty the
poll goes idle on that job. Events on any other resource keep it awake. What carries this is
`Course.Sound`: a wake is kept until the poll asks, and the jobs only move on.
-/

namespace LiveJobs

open LiveJobs.Time

/-! ## Wakes -/

namespace ActivePoll

/-- Whether the poll will ask again without being told to, unless it has been stopped for good. -/
def isAwake (poll : ActivePoll) : Bool :=
  match poll.phase with
  | .roused => true
  | .resting _ => true
  | .idle => false
  | .asking _ => poll.wakePending
  | .stopped => true

/-- Whether a request is under way and no wake is kept for the time after it. -/
def isUnwoken (poll : ActivePoll) : Bool :=
  match poll.phase with
  | .roused => false
  | .resting _ => false
  | .idle => false
  | .asking _ => !poll.wakePending
  | .stopped => false

/-- Whether an idle poll knows of no job. -/
def IdleKnowsNothing (poll : ActivePoll) : Prop := poll.phase = .idle → poll.known = []

variable (poll : ActivePoll) (now : Nat) (wall : Instant) (answer : Except Fault Page)
variable (store : Store)

theorem isAwake_of_phase_ne_idle (busy : poll.phase ≠ .idle) (heeded : poll.isUnwoken = false) :
    poll.isAwake = true := by
  unfold isAwake
  split
  next => rfl
  next => rfl
  next idle => exact absurd idle busy
  next asking => simpa [isUnwoken, asking] using heeded
  next => rfl

theorem isAwake_wake : poll.wake.isAwake = true := by
  unfold wake
  split
  next => rfl
  next => rfl
  next roused => simp [isAwake, roused]
  next asking => simp [isAwake, asking]
  next stopped => simp [isAwake, stopped]

/-- Only by asking the poll uses up what keeps it awake. -/
theorem turn_eq_self (silent : (poll.turn now store).2.2 = none) :
    (poll.turn now store).1 = poll := by
  unfold turn at silent ⊢
  cases phase : poll.phase with
  | roused => simp [phase, ask] at silent
  | resting dueAt =>
      by_cases due : dueAt ≤ now
      · simp [phase, due, ask] at silent
      · simp [due]
  | idle => rfl
  | asking sequence => rfl
  | stopped => rfl

/-- A wake that is pending when an answer arrives is found, whatever the answer says. -/
theorem isAwake_accept (awake : poll.isAwake = true) :
    (poll.accept now wall answer store).1.isAwake = true := by
  unfold accept
  split
  next sequence asking =>
    have pending : poll.wakePending = true := by simpa [isAwake, asking] using awake
    cases answer with
    | error fault => simp [wait, pending, isAwake]
    | ok page => simp [wait, pending, isAwake]
  all_goals exact awake

theorem isAwake_stop : poll.stop.isAwake = true := rfl

variable {poll}

theorem idleKnowsNothing_wake (knowsNothing : poll.IdleKnowsNothing) :
    poll.wake.IdleKnowsNothing := by
  unfold wake
  split
  next => intro idle; cases idle
  next => intro idle; cases idle
  all_goals exact knowsNothing

theorem idleKnowsNothing_turn (knowsNothing : poll.IdleKnowsNothing) :
    (poll.turn now store).1.IdleKnowsNothing := by
  unfold turn
  split
  next => intro idle; cases idle
  next =>
    split
    · intro idle
      cases idle
    · exact knowsNothing
  all_goals exact knowsNothing

/-- Only an empty answer sends the poll to sleep. -/
theorem idleKnowsNothing_accept (knowsNothing : poll.IdleKnowsNothing) :
    (poll.accept now wall answer store).1.IdleKnowsNothing := by
  unfold accept
  split
  next =>
    cases answer with
    | error fault =>
        simp only [wait]
        split
        · intro idle
          cases idle
        · intro idle
          cases idle
    | ok page =>
        simp only [wait]
        split
        · intro idle
          cases idle
        · intro idle
          cases items : page.items with
          | nil => rfl
          | cons job rest => simp [items] at idle
  all_goals exact knowsNothing

theorem idleKnowsNothing_stop : poll.stop.IdleKnowsNothing := by
  intro idle
  cases idle

end ActivePoll

/-! ## Sessions -/

namespace Session

/-- What can happen in a session. -/
inductive Happening where
  | received (channel : Channel) (wall : Instant) (event : Event)
  | activeTurned (now : Nat)
  | activeAnswered (now : Nat) (wall : Instant) (answer : Except Fault Page)
  | bulkTurned (first : Precedence) (now : Nat)
  | bulkAnswered (first : Precedence) (now : Nat) (wall : Instant) (answer : Except Fault Page)
  | watcherTurned (index now : Nat)
  | watcherAnswered (index now : Nat) (wall : Instant) (answer : Except Fault Job)
  | watched (job : JobId) (now : Nat)
  | unwatched (job : JobId)
  | mounted
  | unmounted
  | queried (query : Query)
  | cancelBegun (job : JobId)
  | cancelReleased (job : JobId)
  /-- The connections do something that yields no event. -/
  | connected (streams : List Connection)
  /-- Somebody writes to the store directly. -/
  | applied (report : Report)
  | shutDown

/-- What a happening makes of a session. -/
def happen (session : Session) : Happening → Session
  | .received channel wall event => session.receive channel wall event
  | .activeTurned now =>
      let turned := session.active.turn now session.store
      { session with active := turned.1, store := turned.2.1 }
  | .activeAnswered now wall answer =>
      let accepted := session.active.accept now wall answer session.store
      { session with active := accepted.1, store := accepted.2 }
  | .bulkTurned first now =>
      let turned := session.bulk.turn first now session.store
      { session with bulk := turned.1, store := turned.2.1 }
  | .bulkAnswered first now wall answer =>
      let accepted := session.bulk.accept first now wall answer session.store
      { session with bulk := accepted.1, store := accepted.2.1 }
  | .watcherTurned index now =>
      match session.watchers[index]? with
      | none => session
      | some watcher =>
          let turned := watcher.poll.turn watcher.job now session.store
          { session with
            store := turned.2.1
            watchers := session.watchers.set index { watcher with poll := turned.1 } }
  | .watcherAnswered index now wall answer =>
      match session.watchers[index]? with
      | none => session
      | some watcher =>
          let accepted := watcher.poll.accept watcher.job now wall answer session.store
          { session with
            store := accepted.2
            watchers := session.watchers.set index { watcher with poll := accepted.1 } }
  | .watched job now => session.watch job now
  | .unwatched job => session.unwatch job
  | .mounted => session.mount
  | .unmounted => session.unmount
  | .queried query => session.setQuery query
  | .cancelBegun job =>
      match session.beginCancel job with
      | .ok begun => begun.1
      | .error _ => session
  | .cancelReleased job => session.releaseCancel job
  | .connected streams => { session with streams := streams }
  | .applied report => { session with store := (session.store.apply report).1 }
  | .shutDown => session.shutdown

end Session

/-- Whether some jobs are what merging reports has made of others. -/
def JobMap.Leads (before after : JobMap) : Prop :=
  ∃ reports, after = (before.mergeAll reports).1

namespace JobMap.Leads

variable {first second third : JobMap} {id : JobId}

theorem refl (map : JobMap) : map.Leads map := ⟨[], rfl⟩

theorem trans (earlier : first.Leads second) (later : second.Leads third) :
    first.Leads third := by
  obtain ⟨reports, rfl⟩ := earlier
  obtain ⟨others, rfl⟩ := later
  exact ⟨reports ++ others, by rw [mergeAll_append]⟩

theorem active {before : Entry} {after : Entry} (leads : first.Leads second)
    (found : first.get? id = some before) (stored : second.get? id = some after)
    (active : after.job.isActive = true) : before.job.isActive = true := by
  obtain ⟨reports, rfl⟩ := leads
  obtain ⟨last, reached, run⟩ := run_of_get? found reports
  cases stored.symm.trans reached
  cases ended : before.job.isTerminal with
  | true =>
      rw [run.eq_of_terminal ended] at active
      exact active
  | false =>
      rw [Job.isActive, Status.isActive, show before.job.status.isTerminal = false from ended]
      rfl

end JobMap.Leads

namespace Store

theorem leads_of_asks {asking : Sequence → Prop} {before after : Store}
    (asks : Asks asking before after) : before.snapshot.jobs.Leads after.snapshot.jobs := by
  rcases asks with rfl | ⟨rfl, -⟩
  · exact .refl _
  · exact .refl _

theorem leads_of_takesUp {asking : Sequence → Prop} {before after : Store}
    (takesUp : TakesUp asking before after) :
    before.snapshot.jobs.Leads after.snapshot.jobs := by
  rcases takesUp with rfl | ⟨request, answer, -, rfl⟩
  · exact .refl _
  · exact ⟨answer.reports request, answer.jobs_merge request before⟩

end Store

namespace Session

variable (session : Session)

/-- Whatever happens, the jobs change by merging alone. -/
theorem leads_happen (happening : Happening) :
    session.store.snapshot.jobs.Leads (session.happen happening).store.snapshot.jobs := by
  cases happening with
  | received channel wall event =>
      rw [happen, store_receive]
      exact ⟨_, Answer.jobs_merge _ _ session.store.draw.1⟩
  | activeTurned now => exact Store.leads_of_asks (session.active.asks_turn now session.store)
  | activeAnswered now wall answer =>
      exact Store.leads_of_takesUp (session.active.takesUp_accept now session.store wall answer)
  | bulkTurned first now =>
      exact Store.leads_of_asks (session.bulk.asks_turn first now session.store)
  | bulkAnswered first now wall answer =>
      obtain ⟨merged, takesUp, asks⟩ :=
        session.bulk.takesUp_accept first now session.store wall answer
      exact (Store.leads_of_takesUp takesUp).trans (Store.leads_of_asks asks)
  | watcherTurned index now =>
      simp only [happen]
      split
      · exact .refl _
      · exact Store.leads_of_asks (SinglePoll.asks_turn _ _ now session.store)
  | watcherAnswered index now wall answer =>
      simp only [happen]
      split
      · exact .refl _
      · exact Store.leads_of_takesUp (SinglePoll.takesUp_accept _ _ now session.store wall answer)
  | watched job now =>
      simp only [happen, watch]
      split
      · exact ⟨[], session.store.pin_jobs job⟩
      · exact ⟨[], session.store.pin_jobs job⟩
  | unwatched job => exact ⟨[], session.store.unpin_jobs job⟩
  | cancelBegun job =>
      simp only [happen, beginCancel]
      cases session.cancellations.begin session.store job with
      | error error => exact .refl _
      | ok begun => exact .refl _
  | applied report =>
      exact ⟨[report], (Answer.one report.patch report.origin).jobs_merge report.sequence
        session.store⟩
  | mounted => exact .refl _
  | unmounted => exact .refl _
  | queried query => exact .refl _
  | cancelReleased job => exact .refl _
  | connected streams => exact .refl _
  | shutDown => exact .refl _

/-- An event wakes the poll of the running jobs if it tells of work that is new to it. -/
theorem active_receive (channel : Channel) (wall : Instant) (event : Event) :
    (session.receive channel wall event).active =
      if tellsOfNewWork (session.receive channel wall event).store session.active.known
          ((event.patches channel wall).toOption.getD []) then
        session.active.wake
      else session.active := by
  rw [receive]
  cases event.patches channel wall with
  | error => rfl
  | ok patches =>
      cases patches with
      | nil => rfl
      | cons patch rest => rfl

/-- All that can happen to the poll of the running jobs. -/
theorem active_happen (happening : Happening) :
    (session.happen happening).active = session.active ∨
      (session.happen happening).active = session.active.wake ∨
      (session.happen happening).active = session.active.stop ∨
      (∃ now, happening = .activeTurned now ∧
        (session.happen happening).active = (session.active.turn now session.store).1) ∨
      ∃ now wall answer, (session.happen happening).active =
        (session.active.accept now wall answer session.store).1 := by
  cases happening with
  | received channel wall event =>
      rw [happen, active_receive]
      split
      · exact .inr (.inl rfl)
      · exact .inl rfl
  | activeTurned now => exact .inr (.inr (.inr (.inl ⟨now, rfl, rfl⟩)))
  | activeAnswered now wall answer => exact .inr (.inr (.inr (.inr ⟨now, wall, answer, rfl⟩)))
  | shutDown => exact .inr (.inr (.inl rfl))
  | watcherTurned index now =>
      simp only [happen]
      split
      · exact .inl rfl
      · exact .inl rfl
  | watcherAnswered index now wall answer =>
      simp only [happen]
      split
      · exact .inl rfl
      · exact .inl rfl
  | watched job now =>
      simp only [happen, watch]
      split
      · exact .inl rfl
      · exact .inl rfl
  | cancelBegun job =>
      simp only [happen, beginCancel]
      cases session.cancellations.begin session.store job with
      | error error => exact .inl rfl
      | ok begun => exact .inl rfl
  | bulkTurned first now => exact .inl rfl
  | bulkAnswered first now wall answer => exact .inl rfl
  | unwatched job => exact .inl rfl
  | mounted => exact .inl rfl
  | unmounted => exact .inl rfl
  | queried query => exact .inl rfl
  | cancelReleased job => exact .inl rfl
  | connected streams => exact .inl rfl
  | applied report => exact .inl rfl

variable {session} {happening : Happening}

/-- The request that a happening makes the poll of the running jobs issue. -/
def asked? (session : Session) : Happening → Option Call
  | .activeTurned now => (session.active.turn now session.store).2.2
  | _ => none

/-- Nothing puts the poll of the running jobs to sleep that is awake, but its own asking. -/
theorem isAwake_happen (awake : session.active.isAwake = true)
    (silent : session.asked? happening = none) :
    (session.happen happening).active.isAwake = true := by
  rcases session.active_happen happening with
    same | woken | stopped | ⟨now, rfl, turned⟩ | ⟨now, wall, answer, answered⟩
  · rw [same]
    exact awake
  · rw [woken]
    exact session.active.isAwake_wake
  · rw [stopped]
    exact session.active.isAwake_stop
  · rw [turned, session.active.turn_eq_self now session.store silent]
    exact awake
  · rw [answered]
    exact session.active.isAwake_accept now wall answer session.store awake

theorem idleKnowsNothing_happen (knowsNothing : session.active.IdleKnowsNothing) :
    (session.happen happening).active.IdleKnowsNothing := by
  rcases session.active_happen happening with
    same | woken | stopped | ⟨now, -, turned⟩ | ⟨now, wall, answer, answered⟩
  · rw [same]
    exact knowsNothing
  · rw [woken]
    exact ActivePoll.idleKnowsNothing_wake knowsNothing
  · rw [stopped]
    exact ActivePoll.idleKnowsNothing_stop
  · rw [turned]
    exact ActivePoll.idleKnowsNothing_turn now session.store knowsNothing
  · rw [answered]
    exact ActivePoll.idleKnowsNothing_accept now wall answer session.store knowsNothing

end Session

/-! ## Courses -/

/-- An event that a session takes up, with the session as it was before. -/
structure Hearing where
  found : Session
  channel : Channel
  wall : Instant
  event : Event

namespace Hearing

variable (hearing : Hearing)

/-- The session once it has taken up the event. -/
def left : Session := hearing.found.receive hearing.channel hearing.wall hearing.event

/-- The resource of the job of a patch, once the event has been taken up. -/
def resource? (patch : Patch) : Option ResourceId :=
  (hearing.left.store.job? patch.id).bind fun job => job.resource.id?.or patch.reportedResource?

/-- Whether the last answer hides that a patch of the event tells of new work: a request is under
way, and the answer to the one before listed a job on the resource. -/
def isOvershadowed (patch : Patch) : Bool :=
  hearing.found.active.isUnwoken &&
    (hearing.resource? patch).any fun resource =>
      (hearing.found.active.known.lookup resource).isSome

variable {hearing} {patches : List Patch} {patch : Patch} {job : Job}

theorem active_left (routed : hearing.event.patches hearing.channel hearing.wall = .ok patches) :
    hearing.left.active =
      if Session.tellsOfNewWork hearing.left.store hearing.found.active.known patches then
        hearing.found.active.wake
      else hearing.found.active := by
  rw [left, Session.active_receive, routed]
  rfl

theorem exists_entry_left
    (routed : hearing.event.patches hearing.channel hearing.wall = .ok patches)
    (member : patch ∈ patches) : ∃ entry, hearing.left.store.entry? patch.id = some entry := by
  rw [left, Session.store_receive, routed, Store.entry?, Answer.jobs_merge]
  exact JobMap.exists_get?_mergeAll _ (List.mem_map_of_mem member)

/-- An event about an active job on some resource keeps the poll awake, unless it is
overshadowed. -/
theorem isAwake_left (knowsNothing : hearing.found.active.IdleKnowsNothing)
    (routed : hearing.event.patches hearing.channel hearing.wall = .ok patches)
    (member : patch ∈ patches) (named : patch.reportedResource?.isSome = true)
    (stored : hearing.left.store.job? patch.id = some job) (active : job.isActive = true)
    (visible : hearing.isOvershadowed patch = false) : hearing.left.active.isAwake = true := by
  obtain ⟨reported, reports⟩ := Option.isSome_iff_exists.1 named
  obtain ⟨resource, names⟩ : ∃ resource, job.resource.id?.or patch.reportedResource? =
      some resource := by
    rw [reports]
    cases job.resource.id? with
    | none => exact ⟨reported, rfl⟩
    | some id => exact ⟨id, rfl⟩
  have resourced : hearing.resource? patch = some resource := by
    rw [resource?, stored]
    exact names
  rw [active_left routed]
  split
  next => exact hearing.found.active.isAwake_wake
  next listed =>
    have known : (hearing.found.active.known.lookup resource).isSome = true := by
      cases found : hearing.found.active.known.lookup resource with
      | some id => rfl
      | none =>
          refine absurd (List.any_eq_true.2 ⟨patch, member, ?_⟩) listed
          rw [stored]
          simp [ActiveMap.lacks, active, names, found]
    refine hearing.found.active.isAwake_of_phase_ne_idle ?_ ?_
    · intro idle
      rw [knowsNothing idle] at known
      cases known
    · simpa [isOvershadowed, resourced, known] using visible

end Hearing

/-- A session with the events that it has taken up since its poll of the running jobs last asked. -/
structure Course where
  session : Session
  heard : List Hearing

namespace Course

def start (settings : Settings) (channels : List Channel) (now : Nat) : Course :=
  ⟨.start settings channels now, []⟩

/-- What a happening adds to the events that have been taken up. -/
def heardAfter (course : Course) : Session.Happening → List Hearing
  | .received channel wall event => ⟨course.session, channel, wall, event⟩ :: course.heard
  | _ => course.heard

/-- What a happening makes of a course. -/
def step (course : Course) (happening : Session.Happening) : Course where
  session := course.session.happen happening
  heard :=
    if (course.session.asked? happening).isSome then [] else course.heardAfter happening

/-- What happenings make of a course, one after the other. -/
def run (course : Course) (happenings : List Session.Happening) : Course :=
  happenings.foldl step course

/-- What is kept along a course. -/
structure Sound (course : Course) : Prop where
  knowsNothing : course.session.active.IdleKnowsNothing
  foundSound : ∀ hearing ∈ course.heard, hearing.found.active.IdleKnowsNothing
  /-- A poll that an event has left awake sleeps no earlier than it has asked. -/
  awake : ∀ hearing ∈ course.heard, hearing.left.active.isAwake = true →
    course.session.active.isAwake = true
  leads : ∀ hearing ∈ course.heard,
    hearing.left.store.snapshot.jobs.Leads course.session.store.snapshot.jobs

namespace Sound

variable {course : Course}

theorem start (settings : Settings) (channels : List Channel) (now : Nat) :
    (Course.start settings channels now).Sound where
  knowsNothing := by
    intro idle
    cases idle
  foundSound := by
    intro hearing member
    cases member
  awake := by
    intro hearing member
    cases member
  leads := by
    intro hearing member
    cases member

theorem mem_heardAfter {happening : Session.Happening} {hearing : Hearing}
    (member : hearing ∈ course.heardAfter happening) :
    (hearing.found = course.session ∧ course.session.happen happening = hearing.left) ∨
      hearing ∈ course.heard := by
  cases happening with
  | received channel wall event =>
      rcases List.mem_cons.1 member with rfl | earlier
      · exact .inl ⟨rfl, rfl⟩
      · exact .inr earlier
  | _ => exact .inr member

theorem step (sound : course.Sound) (happening : Session.Happening) :
    (course.step happening).Sound := by
  have knowsNothing : (course.step happening).session.active.IdleKnowsNothing :=
    Session.idleKnowsNothing_happen sound.knowsNothing
  cases asks : course.session.asked? happening with
  | some call =>
      have forgotten : (course.step happening).heard = [] := by simp [Course.step, asks]
      constructor
      case knowsNothing => exact knowsNothing
      all_goals simp [forgotten]
  | none =>
      have heard : (course.step happening).heard = course.heardAfter happening := by
        simp [Course.step, asks]
      constructor
      case knowsNothing => exact knowsNothing
      case foundSound =>
        intro hearing member
        rcases mem_heardAfter (heard ▸ member) with ⟨found, -⟩ | earlier
        · rw [found]
          exact sound.knowsNothing
        · exact sound.foundSound hearing earlier
      case awake =>
        intro hearing member awake
        rcases mem_heardAfter (heard ▸ member) with ⟨-, leaves⟩ | earlier
        · rw [Course.step, leaves]
          exact awake
        · exact Session.isAwake_happen (sound.awake hearing earlier awake) asks
      case leads =>
        intro hearing member
        rcases mem_heardAfter (heard ▸ member) with ⟨-, leaves⟩ | earlier
        · rw [Course.step, leaves]
          exact .refl _
        · exact (sound.leads hearing earlier).trans (course.session.leads_happen happening)

theorem run (sound : course.Sound) (happenings : List Session.Happening) :
    (course.run happenings).Sound := by
  induction happenings generalizing course with
  | nil => exact sound
  | cons happening rest ih => exact ih (sound.step happening)

end Sound

/-- The poll of the running jobs is never idle while there is a job that it ought to know of. Take
any run of a session, and an event that it has taken up since the poll last asked: while a job that
the event names with a resource is active, the poll is not idle, unless the event was overshadowed
by the last answer. -/
theorem never_idle_on_introduced_job (settings : Settings) (channels : List Channel) (now : Nat)
    (happenings : List Session.Happening) {course : Course}
    (ran : (start settings channels now).run happenings = course) {hearing : Hearing}
    (heard : hearing ∈ course.heard) {patches : List Patch}
    (routed : hearing.event.patches hearing.channel hearing.wall = .ok patches) {patch : Patch}
    (member : patch ∈ patches) (named : patch.reportedResource?.isSome = true) {job : Job}
    (stored : course.session.store.job? patch.id = some job) (active : job.isActive = true)
    (visible : hearing.isOvershadowed patch = false) :
    course.session.active.phase ≠ .idle := by
  have sound : course.Sound := ran ▸ (Sound.start settings channels now).run happenings
  obtain ⟨entry, left⟩ := Hearing.exists_entry_left routed member
  obtain ⟨last, reached, rfl⟩ := Option.map_eq_some_iff.1 stored
  have unended := (sound.leads hearing heard).active left reached active
  have introduced : hearing.left.store.job? patch.id = some entry.job :=
    congrArg (Option.map Entry.job) left
  have awake := sound.awake hearing heard
    (Hearing.isAwake_left (sound.foundSound hearing heard) routed member named introduced unended
      visible)
  intro idle
  simp [ActivePoll.isAwake, idle] at awake

/-- A session of one channel at its start. -/
def beginning : Course :=
  .start (.standard "http://localhost:8080" (.ofHex (List.replicate 32 '0'))) [.backgroundJobs]
    0

/-- An event that tells of a job that has started on a resource. -/
def startedOn (job : JobId) (resource : ResourceId) : Event where
  type := "sync.started"
  jobId := some job
  resourceId := some resource
  resourceKind := some .environment
  jobType := none
  status := none
  current := none
  total := none
  percentage := none
  message := none
  currentStep := none
  error := none
  result := none
  jobs := []
  eventId := none

/-- The first answer lists a job on an environment. While the second request is under way an event
tells of another job, and the second answer is empty. -/
def overtakenBy (event : Event) : List Session.Happening :=
  [.activeTurned 0,
    .activeAnswered 5 ⟨100, 0⟩ (.ok
      ⟨[{ Job.fresh ⟨"job-1"⟩ .environmentSync (.environment ⟨"env-1"⟩) ⟨50, 0⟩ with
          status := .running }], 1, 1⟩),
    .activeTurned 3005,
    .received .backgroundJobs ⟨103, 0⟩ event,
    .activeAnswered 3010 ⟨103, 0⟩ (.ok .empty)]

/-- What has become of the session when the event tells of a job on some environment. -/
def overtakenOn (resource : ResourceId) : Course :=
  beginning.run (overtakenBy (startedOn ⟨"job-2"⟩ resource))

/-- An event about another environment keeps the poll awake. -/
theorem awake_beside_job_elsewhere : (overtakenOn ⟨"env-2"⟩).session.active.phase ≠ .idle :=
  never_idle_on_introduced_job _ _ _ _ rfl (.head _) rfl (.head _) rfl rfl (by decide +kernel)
    (by decide +kernel)

/-- An event about the environment that was listed does not: the poll goes idle, and the job that
the event told of while the request was under way is active. -/
theorem idle_beside_overshadowed_job :
    ∃ hearing patch job,
      hearing ∈ (overtakenOn ⟨"env-1"⟩).heard ∧ hearing.event.kind = .jobUpdate ∧
      hearing.event.patches hearing.channel hearing.wall = .ok [patch] ∧
      patch.reportedResource? = some ⟨"env-1"⟩ ∧
      (overtakenOn ⟨"env-1"⟩).session.store.job? patch.id = some job ∧ job.isActive = true ∧
      (overtakenOn ⟨"env-1"⟩).session.active.phase = .idle ∧
      (overtakenOn ⟨"env-1"⟩).session.active.wakePending = false := by
  refine ⟨_, _, _, .head _, ?_, rfl, rfl, rfl, ?_, ?_, ?_⟩
  · decide +kernel
  · decide +kernel
  · decide +kernel
  · decide +kernel

end Course

end LiveJobs
