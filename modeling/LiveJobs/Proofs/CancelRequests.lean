import LiveJobs.Call
import LiveJobs.Proofs.Operations
import LiveJobs.Rehearsal.Stage
import Mathlib.Data.List.Induction

/-!
# Requests to cancel

Between a request to cancel and its answer other requests are made, and other sources write to the
store. What a request does before it is sent takes no time: it looks its job up and is refused, or
leaves its mark and is sent, in one step. The mark is taken off when the request is answered or
given up, so the marks are those of the requests under way: this is `CancelDesk.Sound`. A request
that is refused has left no mark and takes none off. Everything else follows from what a single
request does to a session, in a rehearsal as well.
-/

namespace LiveJobs

open LiveJobs.Time

/-! ## One request -/

namespace Session

variable {session : Session} {job : JobId} {stored : Job}

theorem beginCancel_of_unknown (unknown : session.store.job? job = none) :
    session.beginCancel job = .error (.unknownJob job) := by
  simp [beginCancel, Cancellations.begin, unknown, Except.map]

theorem beginCancel_of_terminal (found : session.store.job? job = some stored)
    (ended : stored.isTerminal = true) :
    session.beginCancel job = .error (.notCancellable job stored.status) := by
  simp [beginCancel, Cancellations.begin, found, ended, Except.map]

theorem beginCancel_of_marked (found : session.store.job? job = some stored)
    (active : stored.isTerminal = false) (marked : job ∈ session.cancellations.inFlight) :
    session.beginCancel job = .error (.alreadyRequested job) := by
  simp [beginCancel, Cancellations.begin, found, active, Cancellations.isInFlight, marked,
    Except.map]

theorem beginCancel_of_unmarked (found : session.store.job? job = some stored)
    (active : stored.isTerminal = false) (unmarked : job ∉ session.cancellations.inFlight) :
    session.beginCancel job =
      .ok ({ session with cancellations := ⟨job :: session.cancellations.inFlight⟩ },
        ⟨job, stored.status⟩) := by
  simp [beginCancel, Cancellations.begin, found, active, Cancellations.isInFlight, unmarked,
    Except.map]

theorem beginCancel_cases (session : Session) (job : JobId) :
    (∃ error, session.beginCancel job = .error error) ∨
      ∃ stored, session.store.job? job = some stored ∧ stored.isTerminal = false ∧
        job ∉ session.cancellations.inFlight := by
  cases found : session.store.job? job with
  | none => exact .inl ⟨_, beginCancel_of_unknown found⟩
  | some stored =>
      cases ended : stored.isTerminal with
      | true => exact .inl ⟨_, beginCancel_of_terminal found ended⟩
      | false =>
          by_cases marked : job ∈ session.cancellations.inFlight
          · exact .inl ⟨_, beginCancel_of_marked found ended marked⟩
          · exact .inr ⟨stored, rfl, ended, marked⟩

end Session

/-! ## Requests under way -/

/-- A request to cancel that was sent and waits for its answer. It goes by the number of requests
that were made before it. -/
structure CancelCall where
  ticket : Nat
  request : CancelRequest
  deriving DecidableEq

/-- A session with the requests to cancel that are made in it. -/
structure CancelDesk where
  session : Session
  /-- The requests that wait for an answer, the latest first. -/
  outstanding : List CancelCall
  /-- How many requests have been made, whether or not they were sent. -/
  made : Nat
  /-- What was sent to the service, first to last. -/
  sent : List Call

namespace CancelDesk

/-- What can happen to a session in which jobs are cancelled. -/
inductive Happening where
  | asked (job : JobId) (reason : Option String)
  | answered (ticket : Nat) (wall : Instant) (answer : Except Fault Unit)
  /-- The request is no longer waited for. -/
  | abandoned (ticket : Nat)
  /-- Another source uses the store. -/
  | stored (operation : Operation)

/-- Whether a happening ends the request of a ticket. -/
def Happening.Ends (ticket : Nat) : Happening → Prop
  | .asked _ _ => False
  | .answered other _ _ => other = ticket
  | .abandoned other => other = ticket
  | .stored _ => False

/-- A new session, in which nothing has been asked. -/
def start (settings : Settings) (channels : List Channel) (now : Nat) : CancelDesk :=
  ⟨.start settings channels now, [], 0, []⟩

/-- Makes a request to cancel. One that is refused is told at once. -/
def ask (desk : CancelDesk) (job : JobId) (reason : Option String) :
    CancelDesk × Option (Except CancelError CancelAccepted) :=
  match desk.session.beginCancel job with
  | .error error => ({ desk with made := desk.made + 1 }, some (.error error))
  | .ok (session, request) =>
      ({ session := session
         outstanding := ⟨desk.made, request⟩ :: desk.outstanding
         made := desk.made + 1
         sent := desk.sent ++ [.cancel job reason] }, none)

/-- Marks a job and sends a request for it. -/
def send (desk : CancelDesk) (job : JobId) (reason : Option String) (status : Status) :
    CancelDesk where
  session := { desk.session with
    cancellations := ⟨job :: desk.session.cancellations.inFlight⟩ }
  outstanding := ⟨desk.made, ⟨job, status⟩⟩ :: desk.outstanding
  made := desk.made + 1
  sent := desk.sent ++ [.cancel job reason]

/-- The request of a ticket, if it is under way. -/
def call? (desk : CancelDesk) (ticket : Nat) : Option CancelCall :=
  desk.outstanding.find? fun call => call.ticket = ticket

/-- Ends a request. -/
def close (desk : CancelDesk) (call : CancelCall) : CancelDesk :=
  { desk with
    session := desk.session.releaseCancel call.request.job
    outstanding := desk.outstanding.erase call }

/-- What a happening makes of a session, and what is told to who made the request. Only a request
that is under way can be answered or abandoned. -/
def step (desk : CancelDesk) : Happening → CancelDesk × Option (Except CancelError CancelAccepted)
  | .asked job reason => desk.ask job reason
  | .answered ticket wall answer =>
      match desk.call? ticket with
      | none => (desk, none)
      | some call => (desk.close call, some (call.request.conclude wall answer))
  | .abandoned ticket =>
      match desk.call? ticket with
      | none => (desk, none)
      | some call => (desk.close call, none)
  | .stored operation =>
      ({ desk with session.store := (desk.session.store.perform operation).1 }, none)

/-- What happenings make of a session, one after the other. -/
def run (desk : CancelDesk) (happenings : List Happening) : CancelDesk :=
  happenings.foldl (fun desk happening => (desk.step happening).1) desk

/-- Whether a request for a job is under way. -/
def IsOutstanding (desk : CancelDesk) (job : JobId) : Prop :=
  ∃ call ∈ desk.outstanding, call.request.job = job

/-- Whether a request is turned down: nothing is sent, and the session stays as it is. -/
structure Refuses (desk : CancelDesk) (job : JobId) (reason : Option String)
    (error : CancelError) : Prop where
  told : (desk.step (.asked job reason)).2 = some (.error error)
  sent : (desk.step (.asked job reason)).1.sent = desk.sent
  outstanding : (desk.step (.asked job reason)).1.outstanding = desk.outstanding
  session : (desk.step (.asked job reason)).1.session = desk.session

/-- Whether a request is sent, for a job with a given status. -/
structure Sends (desk : CancelDesk) (job : JobId) (reason : Option String) (status : Status) :
    Prop where
  told : (desk.step (.asked job reason)).2 = none
  sent : (desk.step (.asked job reason)).1.sent = desk.sent ++ [.cancel job reason]
  outstanding : (desk.step (.asked job reason)).1.outstanding =
    ⟨desk.made, ⟨job, status⟩⟩ :: desk.outstanding
  store : (desk.step (.asked job reason)).1.session.store = desk.session.store

/-- What holds at every moment: each request under way has left its mark, there is no other mark,
and no two requests under way are for one job. -/
structure Sound (desk : CancelDesk) : Prop where
  marks : desk.session.cancellations.inFlight =
    desk.outstanding.map fun call => call.request.job
  jobs : (desk.outstanding.map fun call => call.request.job).Nodup
  tickets : (desk.outstanding.map CancelCall.ticket).Nodup
  made : ∀ call ∈ desk.outstanding, call.ticket < desk.made

variable {desk : CancelDesk} {job : JobId} {reason : Option String} {stored : Job}
variable {call : CancelCall} {error : CancelError}

/-- What turning a request down makes of a session: it only counts. -/
theorem step_asked_of_refused (refused : desk.session.beginCancel job = .error error)
    (reason : Option String) :
    desk.step (.asked job reason) =
      ({ desk with made := desk.made + 1 }, some (.error error)) := by
  rw [step, ask, refused]

theorem refuses_of_beginCancel (refused : desk.session.beginCancel job = .error error)
    (reason : Option String) : desk.Refuses job reason error := by
  have becomes := step_asked_of_refused refused reason
  constructor
  case told => rw [becomes]
  case sent => rw [becomes]
  case outstanding => rw [becomes]
  case session => rw [becomes]

/-- What sending a request makes of a session. -/
theorem step_asked_of_unmarked (found : desk.session.store.job? job = some stored)
    (active : stored.isTerminal = false)
    (unmarked : job ∉ desk.session.cancellations.inFlight) (reason : Option String) :
    desk.step (.asked job reason) = (desk.send job reason stored.status, none) := by
  rw [step, ask, Session.beginCancel_of_unmarked found active unmarked]
  rfl

theorem sends_of_unmarked (found : desk.session.store.job? job = some stored)
    (active : stored.isTerminal = false)
    (unmarked : job ∉ desk.session.cancellations.inFlight) (reason : Option String) :
    desk.Sends job reason stored.status := by
  have becomes := step_asked_of_unmarked found active unmarked reason
  constructor
  case told => rw [becomes]
  case sent =>
    rw [becomes]
    rfl
  case outstanding =>
    rw [becomes]
    rfl
  case store =>
    rw [becomes]
    rfl

/-- Everything that a happening can make of a session. -/
inductive Turn (desk : CancelDesk) : Happening → CancelDesk → Prop where
  | refused {job : JobId} {reason : Option String} {error : CancelError}
      (refused : desk.session.beginCancel job = .error error) :
      Turn desk (.asked job reason) { desk with made := desk.made + 1 }
  | sent {job : JobId} {reason : Option String} {stored : Job}
      (found : desk.session.store.job? job = some stored) (active : stored.isTerminal = false)
      (unmarked : job ∉ desk.session.cancellations.inFlight) :
      Turn desk (.asked job reason) (desk.send job reason stored.status)
  | ended {happening : Happening} {call : CancelCall} (underWay : call ∈ desk.outstanding)
      (ends : happening.Ends call.ticket) : Turn desk happening (desk.close call)
  | late {happening : Happening} {ticket : Nat} (ends : happening.Ends ticket) :
      Turn desk happening desk
  | stored (operation : Operation) :
      Turn desk (.stored operation)
        { desk with session.store := (desk.session.store.perform operation).1 }

theorem mem_of_call? {ticket : Nat} (found : desk.call? ticket = some call) :
    call ∈ desk.outstanding ∧ call.ticket = ticket :=
  ⟨List.mem_of_find?_eq_some found, by simpa using List.find?_some found⟩

theorem turn_step (desk : CancelDesk) (happening : Happening) :
    desk.Turn happening (desk.step happening).1 := by
  cases happening with
  | asked job reason =>
      rcases desk.session.beginCancel_cases job with
        ⟨error, refused⟩ | ⟨stored, found, active, unmarked⟩
      · rw [step_asked_of_refused refused]
        exact .refused refused
      · rw [step_asked_of_unmarked found active unmarked]
        exact .sent found active unmarked
  | answered ticket wall answer =>
      rw [step]
      cases found : desk.call? ticket with
      | none => exact .late rfl
      | some call => exact .ended (mem_of_call? found).1 (mem_of_call? found).2.symm
  | abandoned ticket =>
      rw [step]
      cases found : desk.call? ticket with
      | none => exact .late rfl
      | some call => exact .ended (mem_of_call? found).1 (mem_of_call? found).2.symm
  | stored operation => exact .stored operation

/-! ### Requests and their marks -/

theorem call?_of_mem (sound : desk.Sound) (underWay : call ∈ desk.outstanding) :
    desk.call? call.ticket = some call := by
  apply List.find?_eq_some_iff_append.2
  refine ⟨decide_eq_true rfl, ?_⟩
  rcases List.append_of_mem underWay with ⟨newer, older, split⟩
  refine ⟨newer, older, split, ?_⟩
  intro other earlier
  have tickets := sound.tickets
  rw [split, List.map_append, List.map_cons, List.nodup_append] at tickets
  have differ := tickets.2.2 other.ticket (List.mem_map_of_mem earlier) call.ticket
    List.mem_cons_self
  simp [differ]

/-- Where no two requests are for one job, ending one takes out its job and no other. -/
theorem map_job_erase {calls : List CancelCall}
    (once : (calls.map fun call => call.request.job).Nodup) (member : call ∈ calls) :
    ((calls.erase call).map fun call => call.request.job) =
      (calls.map fun call => call.request.job).erase call.request.job := by
  induction calls with
  | nil => cases member
  | cons first rest ih =>
      rw [List.map_cons, List.nodup_cons] at once
      rcases List.mem_cons.1 member with rfl | later
      · rw [List.erase_cons_head, List.map_cons, List.erase_cons_head]
      · have other : first.request.job ≠ call.request.job := by
          intro same
          exact once.1 (same ▸ List.mem_map_of_mem later)
        have distinct : first ≠ call := fun same => other (congrArg (·.request.job) same)
        rw [List.erase_cons_tail (by simpa using distinct), List.map_cons, List.map_cons,
          List.erase_cons_tail (by simpa using other), ih once.2 later]

namespace Sound

theorem start (settings : Settings) (channels : List Channel) (now : Nat) :
    (CancelDesk.start settings channels now).Sound where
  marks := rfl
  jobs := .nil
  tickets := .nil
  made := fun _ underWay => nomatch underWay

/-- The marks are those of the requests under way. -/
theorem mem_inFlight_iff (sound : desk.Sound) :
    job ∈ desk.session.cancellations.inFlight ↔ desk.IsOutstanding job := by
  rw [sound.marks, List.mem_map]
  rfl

theorem isInFlight_iff (sound : desk.Sound) :
    desk.session.cancellations.isInFlight job = true ↔ desk.IsOutstanding job := by
  rw [Cancellations.isInFlight, List.contains_iff_mem, sound.mem_inFlight_iff]

theorem send (sound : desk.Sound) (unmarked : job ∉ desk.session.cancellations.inFlight)
    (reason : Option String) (status : Status) : (desk.send job reason status).Sound := by
  constructor
  case marks => rw [CancelDesk.send, List.map_cons, ← sound.marks]
  case jobs =>
    rw [CancelDesk.send, List.map_cons, List.nodup_cons, ← sound.marks]
    exact ⟨unmarked, sound.marks ▸ sound.jobs⟩
  case tickets =>
    rw [CancelDesk.send, List.map_cons, List.nodup_cons]
    refine ⟨?_, sound.tickets⟩
    intro taken
    rcases List.mem_map.1 taken with ⟨call, underWay, same⟩
    exact Nat.ne_of_lt (sound.made call underWay) same
  case made =>
    intro call underWay
    rcases List.mem_cons.1 underWay with rfl | earlier
    · exact Nat.lt_succ_self _
    · exact Nat.lt_succ_of_lt (sound.made call earlier)

theorem close (sound : desk.Sound) (underWay : call ∈ desk.outstanding) :
    (desk.close call).Sound := by
  have fewer : (desk.outstanding.erase call).Sublist desk.outstanding := List.erase_sublist
  constructor
  case marks =>
    rw [CancelDesk.close, Session.releaseCancel, Cancellations.release, sound.marks]
    exact (map_job_erase sound.jobs underWay).symm
  case jobs => exact sound.jobs.sublist (fewer.map _)
  case tickets => exact sound.tickets.sublist (fewer.map _)
  case made => exact fun other stays => sound.made other (fewer.subset stays)

theorem turn {happening : Happening} {next : CancelDesk} (sound : desk.Sound)
    (turn : desk.Turn happening next) : next.Sound := by
  cases turn with
  | refused =>
      exact ⟨sound.marks, sound.jobs, sound.tickets,
        fun call underWay => Nat.lt_succ_of_lt (sound.made call underWay)⟩
  | sent found active unmarked => exact sound.send unmarked _ _
  | ended underWay => exact sound.close underWay
  | late => exact sound
  | stored operation => exact ⟨sound.marks, sound.jobs, sound.tickets, sound.made⟩

theorem run (sound : desk.Sound) (happenings : List Happening) : (desk.run happenings).Sound := by
  induction happenings generalizing desk with
  | nil => exact sound
  | cons happening rest ih => exact ih (sound.turn (desk.turn_step happening))

end Sound

/-! ### What a request comes to -/

/-- What a request comes to, in each state that its job can be in. -/
structure AnswersRequest (desk : CancelDesk) (job : JobId) (reason : Option String) : Prop where
  unknown : desk.session.store.job? job = none → desk.Refuses job reason (.unknownJob job)
  ended : ∀ stored, desk.session.store.job? job = some stored → stored.isTerminal = true →
    desk.Refuses job reason (.notCancellable job stored.status)
  repeated : ∀ stored, desk.session.store.job? job = some stored → stored.isTerminal = false →
    desk.IsOutstanding job → desk.Refuses job reason (.alreadyRequested job)
  first : ∀ stored, desk.session.store.job? job = some stored → stored.isTerminal = false →
    ¬ desk.IsOutstanding job → desk.Sends job reason stored.status

theorem Sound.answersRequest (sound : desk.Sound) (job : JobId) (reason : Option String) :
    desk.AnswersRequest job reason where
  unknown := fun unknown =>
    refuses_of_beginCancel (Session.beginCancel_of_unknown unknown) reason
  ended := fun _ found ended =>
    refuses_of_beginCancel (Session.beginCancel_of_terminal found ended) reason
  repeated := fun _ found active underWay =>
    refuses_of_beginCancel
      (Session.beginCancel_of_marked found active (sound.mem_inFlight_iff.2 underWay)) reason
  first := fun _ found active unmarked =>
    sends_of_unmarked found active (fun marked => unmarked (sound.mem_inFlight_iff.1 marked)) reason

theorem Sound.isCancellable_iff (sound : desk.Sound) (job : JobId) :
    desk.session.isCancellable job = true ↔
      (∃ stored, desk.session.store.job? job = some stored ∧ stored.isTerminal = false) ∧
        ¬ desk.IsOutstanding job := by
  rw [← sound.isInFlight_iff, Session.isCancellable, Cancellations.isCancellable]
  simp [Option.any_eq_true, Job.isActive, Status.isActive, Job.isTerminal]

/-! ### The end of a request -/

theorem step_of_ends (sound : desk.Sound) (underWay : call ∈ desk.outstanding)
    {happening : Happening} (ends : happening.Ends call.ticket) :
    (desk.step happening).1 = desk.close call := by
  have found := call?_of_mem sound underWay
  cases happening with
  | asked job reason => cases ends
  | answered ticket wall answer =>
      cases ends
      rw [step, found]
  | abandoned ticket =>
      cases ends
      rw [step, found]
  | stored operation => cases ends

theorem told_of_answered (sound : desk.Sound) (underWay : call ∈ desk.outstanding)
    (wall : Instant) (answer : Except Fault Unit) :
    (desk.step (.answered call.ticket wall answer)).2 =
      some (call.request.conclude wall answer) := by
  rw [step, call?_of_mem sound underWay]

/-- Whether a happening ends a request and nothing else. -/
structure Frees (desk : CancelDesk) (call : CancelCall) (happening : Happening) : Prop where
  unmarked : (desk.step happening).1.session.cancellations.isInFlight call.request.job = false
  others : ∀ other, other ∈ (desk.step happening).1.outstanding ↔
    other ∈ desk.outstanding ∧ other ≠ call
  again : ∀ stored reason, desk.session.store.job? call.request.job = some stored →
    stored.isTerminal = false →
    (desk.step happening).1.Sends call.request.job reason stored.status

theorem Sound.frees (sound : desk.Sound) (underWay : call ∈ desk.outstanding)
    {happening : Happening} (ends : happening.Ends call.ticket) : desk.Frees call happening := by
  have becomes := step_of_ends sound underWay ends
  have after : (desk.close call).Sound := sound.close underWay
  have unmarked : call.request.job ∉ (desk.close call).session.cancellations.inFlight := by
    have once := sound.jobs
    rw [← sound.marks] at once
    exact once.not_mem_erase
  constructor
  case unmarked =>
    rw [becomes, Cancellations.isInFlight, List.contains_eq_mem]
    exact decide_eq_false unmarked
  case others =>
    intro other
    have once : desk.outstanding.Nodup :=
      List.Pairwise.of_map CancelCall.ticket
        (fun _ _ differ same => differ (congrArg CancelCall.ticket same)) sound.tickets
    rw [becomes, CancelDesk.close, once.mem_erase_iff]
    exact and_comm
  case again =>
    intro stored reason found active
    have still : (desk.close call).session.store.job? call.request.job = some stored := found
    rw [becomes]
    exact sends_of_unmarked still active unmarked reason

/-- An answer to a request that is not under way, or no longer, changes nothing. -/
theorem step_of_late {ticket : Nat} (late : ∀ call ∈ desk.outstanding, call.ticket ≠ ticket)
    {happening : Happening} (ends : happening.Ends ticket) :
    desk.step happening = (desk, none) := by
  have unknown : desk.call? ticket = none := by
    cases found : desk.call? ticket with
    | none => rfl
    | some call =>
        rcases mem_of_call? found with ⟨underWay, same⟩
        exact absurd same (late call underWay)
  cases happening with
  | asked job reason => cases ends
  | answered other wall answer =>
      cases ends
      rw [step, unknown]
  | abandoned other =>
      cases ends
      rw [step, unknown]
  | stored operation => cases ends

/-! ### The store -/

/-- Of all happenings only the other sources write to the store. -/
theorem Turn.store {happening : Happening} {next : CancelDesk} (turn : desk.Turn happening next) :
    next.session.store = desk.session.store ∨
      ∃ operation, happening = .stored operation ∧
        next.session.store = (desk.session.store.perform operation).1 := by
  cases turn with
  | refused => exact .inl rfl
  | sent => exact .inl rfl
  | ended => exact .inl rfl
  | late => exact .inl rfl
  | stored operation => exact .inr ⟨operation, rfl, rfl⟩

theorem Turn.sent_eq {happening : Happening} {next : CancelDesk} (turn : desk.Turn happening next)
    (other : ∀ job reason, happening ≠ .asked job reason) : next.sent = desk.sent := by
  cases turn with
  | refused => exact absurd rfl (other _ _)
  | sent => exact absurd rfl (other _ _)
  | ended => rfl
  | late => rfl
  | stored operation => rfl

theorem job?_run_of_terminal (found : desk.session.store.job? job = some stored)
    (ended : stored.isTerminal = true) (happenings : List Happening) :
    (desk.run happenings).session.store.job? job = some stored := by
  induction happenings generalizing desk with
  | nil => exact found
  | cons happening rest ih =>
      apply ih
      rcases (desk.turn_step happening).store with same | ⟨operation, -, written⟩
      · rw [same]
        exact found
      · rw [written]
        exact desk.session.store.job?_perform_of_terminal operation found ended

/-! ### Where a request comes from -/

/-- A request under way was under way before the last happening, or was sent by it. -/
theorem Turn.outstanding {happening : Happening} {next : CancelDesk}
    (turn : desk.Turn happening next) (underWay : call ∈ next.outstanding) :
    call ∈ desk.outstanding ∨
      ∃ job reason stored, happening = .asked job reason ∧
        desk.session.store.job? job = some stored ∧ stored.isTerminal = false ∧
        job ∉ desk.session.cancellations.inFlight ∧
        call = ⟨desk.made, ⟨job, stored.status⟩⟩ := by
  cases turn with
  | refused => exact .inl underWay
  | sent found active unmarked =>
      rcases List.mem_cons.1 underWay with sent | earlier
      · exact .inr ⟨_, _, _, rfl, found, active, unmarked, sent⟩
      · exact .inl earlier
  | ended => exact .inl (List.mem_of_mem_erase underWay)
  | late => exact .inl underWay
  | stored operation => exact .inl underWay

/-- Whether a request was sent in the course of a run, at a moment when its job was stored with the
status that the request remembers, had not ended, and had no request under way. -/
def SentDuring (desk : CancelDesk) (happenings : List Happening) (call : CancelCall) : Prop :=
  ∃ before reason after stored,
    happenings = before ++ .asked call.request.job reason :: after ∧
      (desk.run before).made = call.ticket ∧
      (desk.run before).session.store.job? call.request.job = some stored ∧
      stored.isTerminal = false ∧ stored.status = call.request.status ∧
      ¬ (desk.run before).IsOutstanding call.request.job

theorem run_concat (desk : CancelDesk) (happenings : List Happening) (happening : Happening) :
    desk.run (happenings ++ [happening]) = ((desk.run happenings).step happening).1 :=
  List.foldl_append

theorem SentDuring.concat {happenings : List Happening} (sent : desk.SentDuring happenings call)
    (happening : Happening) : desk.SentDuring (happenings ++ [happening]) call := by
  rcases sent with ⟨before, reason, after, stored, split, moment⟩
  refine ⟨before, reason, after ++ [happening], stored, ?_, moment⟩
  rw [split, List.append_assoc, List.cons_append]

theorem Sound.sentDuring (sound : desk.Sound) (idle : desk.outstanding = [])
    (happenings : List Happening) :
    ∀ call ∈ (desk.run happenings).outstanding, desk.SentDuring happenings call := by
  induction happenings using List.reverseRecOn with
  | nil =>
      intro call underWay
      rw [CancelDesk.run, List.foldl_nil, idle] at underWay
      cases underWay
  | append_singleton happenings happening ih =>
      intro call underWay
      rw [run_concat] at underWay
      rcases (turn_step _ _).outstanding underWay with
        earlier | ⟨job, reason, stored, rfl, found, active, unmarked, rfl⟩
      · exact (ih call earlier).concat happening
      · refine ⟨happenings, reason, [], stored, rfl, rfl, found, active, rfl, ?_⟩
        intro taken
        exact unmarked ((sound.run happenings).mem_inFlight_iff.2 taken)

/-! ### The protocol -/

/-- A job that has ended can never again be cancelled: its record stays, the control for it is not
offered, and every request for it is refused. -/
theorem Sound.ended_for_good (sound : desk.Sound)
    (found : desk.session.store.job? job = some stored) (ended : stored.isTerminal = true)
    (later : List Happening) :
    (desk.run later).session.store.job? job = some stored ∧
      (desk.run later).session.isCancellable job = false ∧
      ∀ reason, (desk.run later).Refuses job reason (.notCancellable job stored.status) := by
  have kept := job?_run_of_terminal found ended later
  refine ⟨kept, ?_, ?_⟩
  · apply Bool.eq_false_iff.2
    intro offered
    rcases ((sound.run later).isCancellable_iff job).1 offered with ⟨⟨other, present, active⟩, -⟩
    rw [kept, Option.some.injEq] at present
    rw [← present, ended] at active
    cases active
  · intro reason
    exact ((sound.run later).answersRequest job reason).ended stored kept ended

/-- Requests to cancel, made in any number, answered in any order, given up and mixed with all that
other sources write. At every moment the marks are those of the requests under way, of which there
is at most one for each job, and a cancellation is offered where a request would be sent. A request
is refused or sent as the state of its job says, and what is refused leaves no trace. Each request
under way was sent while its job was stored with the status that a success will tell of. Its end,
of whichever kind, takes off its own mark and no other, and its job can be asked for again; an
answer that comes after that changes nothing. None of this writes to the store, and only a request
that is made sends anything. A job that has ended stays ended. -/
theorem one_request_at_a_time (settings : Settings) (channels : List Channel) (now : Nat)
    (happenings : List Happening) :
    let desk := (start settings channels now).run happenings
    (∀ job, desk.session.cancellations.isInFlight job = true ↔ desk.IsOutstanding job) ∧
    (desk.outstanding.map fun call => call.request.job).Nodup ∧
    (∀ job, desk.session.isCancellable job = true ↔
      (∃ stored, desk.session.store.job? job = some stored ∧ stored.isTerminal = false) ∧
        ¬ desk.IsOutstanding job) ∧
    (∀ job reason, desk.AnswersRequest job reason) ∧
    (∀ call ∈ desk.outstanding, (start settings channels now).SentDuring happenings call ∧
      (∀ wall, (desk.step (.answered call.ticket wall (.ok ()))).2 =
        some (.ok ⟨call.request.job, call.request.status, wall⟩)) ∧
      (∀ wall fault, (desk.step (.answered call.ticket wall (.error fault))).2 =
        some (.error (.request fault))) ∧
      ∀ happening : Happening, happening.Ends call.ticket → desk.Frees call happening) ∧
    (∀ ticket, (∀ call ∈ desk.outstanding, call.ticket ≠ ticket) →
      ∀ happening : Happening, happening.Ends ticket → desk.step happening = (desk, none)) ∧
    (∀ happening : Happening, (∀ operation, happening ≠ .stored operation) →
      (desk.step happening).1.session.store = desk.session.store) ∧
    (∀ happening : Happening, (∀ job reason, happening ≠ .asked job reason) →
      (desk.step happening).1.sent = desk.sent) ∧
    (∀ job stored, desk.session.store.job? job = some stored → stored.isTerminal = true →
      ∀ later, (desk.run later).session.store.job? job = some stored ∧
        (desk.run later).session.isCancellable job = false ∧
        ∀ reason, (desk.run later).Refuses job reason (.notCancellable job stored.status)) := by
  intro desk
  have initially : (start settings channels now).Sound := .start settings channels now
  have sound : desk.Sound := initially.run happenings
  refine ⟨fun _ => sound.isInFlight_iff, sound.jobs, sound.isCancellable_iff,
    sound.answersRequest, ?_, ?_, ?_, ?_, ?_⟩
  · intro call underWay
    refine ⟨initially.sentDuring rfl happenings call underWay, ?_, ?_, ?_⟩
    · intro wall
      exact told_of_answered sound underWay wall (.ok ())
    · intro wall fault
      exact told_of_answered sound underWay wall (.error fault)
    · intro happening ends
      exact sound.frees underWay ends
  · intro ticket late happening ends
    exact step_of_late late ends
  · intro happening other
    rcases (desk.turn_step happening).store with same | ⟨operation, stores, -⟩
    · exact same
    · exact absurd stores (other operation)
  · intro happening other
    exact (desk.turn_step happening).sent_eq other
  · intro job stored found ended later
    exact sound.ended_for_good found ended later

/-- A job that has ended. -/
def failedJob : Job :=
  { Job.fresh ⟨"job-2"⟩ .remoteBackup .none ⟨5, 0⟩ with
    status := .failed
    timestamps := ⟨⟨5, 0⟩, none, some ⟨9, 0⟩⟩ }

/-- Two jobs are known, one of which has ended. The other one is asked for twice, and between that
one is asked for that nobody knows. -/
def repeatedRequest : List Happening :=
  [.stored (.merge 1 (.page .standard
      ⟨[.fresh ⟨"job-1"⟩ .remoteBackup .none ⟨5, 0⟩, failedJob], 2, 1⟩ ⟨12, 0⟩)),
    .asked ⟨"job-1"⟩ none, .asked ⟨"job-9"⟩ none, .asked ⟨"job-1"⟩ none]

/-- The second request is refused and the first one is still under way. -/
theorem repeatedRequest_is_refused :
    let desk := (start (.standard "http://localhost" ⟨.replicate 32 'a'⟩) [] 0).run repeatedRequest
    let call : CancelCall := ⟨0, ⟨⟨"job-1"⟩, .pending⟩⟩
    desk.IsOutstanding ⟨"job-1"⟩ ∧
      desk.sent = [.cancel ⟨"job-1"⟩ none] ∧
      desk.Refuses ⟨"job-1"⟩ none (.alreadyRequested ⟨"job-1"⟩) ∧
      desk.Refuses ⟨"job-9"⟩ none (.unknownJob ⟨"job-9"⟩) ∧
      desk.Refuses ⟨"job-2"⟩ none (.notCancellable ⟨"job-2"⟩ .failed) ∧
      desk.Frees call (.abandoned 0) ∧
      desk.step (.abandoned 1) = (desk, none) ∧
      (desk.step (.abandoned 0)).1.session.store = desk.session.store ∧
      (desk.step (.abandoned 0)).1.sent = desk.sent ∧
      (desk.run [.abandoned 0]).session.isCancellable ⟨"job-2"⟩ = false := by
  intro desk call
  have fresh : desk.session.store.job? ⟨"job-1"⟩ =
    some (.fresh ⟨"job-1"⟩ .remoteBackup .none ⟨5, 0⟩) := rfl
  have failed : desk.session.store.job? ⟨"job-2"⟩ = some failedJob := rfl
  have waits : desk.outstanding = [call] := rfl
  have underWay : call ∈ desk.outstanding := waits ▸ List.mem_cons_self
  have repeated : desk.IsOutstanding ⟨"job-1"⟩ := ⟨call, underWay, rfl⟩
  obtain ⟨-, -, -, answers, ends, late, store, sent, forGood⟩ :=
    one_request_at_a_time (.standard "http://localhost" ⟨.replicate 32 'a'⟩) [] 0 repeatedRequest
  refine ⟨repeated, rfl, ?_, ?_, ?_, ?_, ?_, ?_, ?_, ?_⟩
  · exact (answers _ _).repeated _ fresh rfl repeated
  · exact (answers _ _).unknown rfl
  · exact (answers _ _).ended _ failed rfl
  · exact (ends call underWay).2.2.2 _ rfl
  · refine late 1 ?_ _ rfl
    intro other stays
    rw [waits] at stays
    cases List.mem_singleton.1 stays
    decide
  · exact store _ (fun _ => nofun)
  · exact sent _ (fun _ _ => nofun)
  · exact (forGood _ _ failed rfl [.abandoned 0]).2.1

end CancelDesk

/-! ## Rehearsed requests -/

namespace Stage

/-- Whether a rehearsal is at the point of a session in which jobs are cancelled: the requests that
are under way are among those that were made on the stage. -/
structure Plays (stage : Stage) (desk : CancelDesk) : Prop where
  session : stage.session = desk.session
  made : stage.cancelTasks.length = desk.made
  tasks : ∀ call ∈ desk.outstanding,
    ∃ name, stage.cancelTasks[call.ticket]? = some ⟨name, some call.request⟩

namespace Plays

variable {stage : Stage} {desk : CancelDesk} {call : CancelCall}

/-- A task that is added leaves the earlier ones where they are. -/
theorem task_of_append (plays : stage.Plays desk) (underWay : call ∈ desk.outstanding)
    (task : CancelTask) :
    ∃ name, (stage.cancelTasks ++ [task])[call.ticket]? = some ⟨name, some call.request⟩ := by
  rcases plays.tasks call underWay with ⟨name, found⟩
  refine ⟨name, ?_⟩
  rw [List.getElem?_append_left (List.getElem?_eq_some_iff.1 found).1]
  exact found

theorem requestCancel (plays : stage.Plays desk) (now : Nat) (name : String) (job : JobId)
    (reason : Option String) :
    (stage.requestCancel now name job reason).Plays (desk.step (.asked job reason)).1 := by
  rcases desk.session.beginCancel_cases job with
    ⟨error, refused⟩ | ⟨stored, found, active, unmarked⟩
  · have asked := refused
    rw [← plays.session] at asked
    rw [CancelDesk.step_asked_of_refused refused, Stage.requestCancel, asked]
    constructor
    case session => exact plays.session
    case made => exact (List.length_append).trans (congrArg (· + 1) plays.made)
    case tasks => exact fun call underWay => plays.task_of_append underWay _
  · have asked := Session.beginCancel_of_unmarked found active unmarked
    rw [← plays.session] at asked
    rw [CancelDesk.step_asked_of_unmarked found active unmarked, Stage.requestCancel, asked]
    constructor
    case session =>
      rw [CancelDesk.send, ← plays.session]
      rfl
    case made => exact (List.length_append).trans (congrArg (· + 1) plays.made)
    case tasks =>
      intro call underWay
      rcases List.mem_cons.1 underWay with rfl | earlier
      · refine ⟨name, ?_⟩
        rw [← plays.made]
        exact List.getElem?_concat_length
      · exact plays.task_of_append earlier _

/-- A request that ends on the stage ends in the session. -/
theorem close (plays : stage.Plays desk) (ended : Stage)
    (session : ended.session = stage.session.releaseCancel call.request.job)
    (tasks : ended.cancelTasks = stage.cancelTasks) : ended.Plays (desk.close call) := by
  constructor
  case session =>
    rw [session, plays.session]
    rfl
  case made =>
    rw [tasks]
    exact plays.made
  case tasks =>
    intro other stays
    rw [tasks]
    exact plays.tasks other (List.mem_of_mem_erase stays)

theorem cancelAccept (plays : stage.Plays desk) (sound : desk.Sound)
    (underWay : call ∈ desk.outstanding) (now : Nat) (answer : Except Fault Unit) :
    (stage.cancelAccept now (call.ticket, answer)).Plays
      (desk.step (.answered call.ticket stage.wall answer)).1 := by
  have ends : CancelDesk.Happening.Ends call.ticket
      (.answered call.ticket stage.wall answer) := rfl
  rcases plays.tasks call underWay with ⟨name, task⟩
  rw [CancelDesk.step_of_ends sound underWay ends, Stage.cancelAccept, task]
  exact plays.close _ rfl rfl

theorem abandonTicket (plays : stage.Plays desk) (sound : desk.Sound)
    (underWay : call ∈ desk.outstanding) (onItsWay : stage.isCancelUnderWay call.ticket = true) :
    (stage.abandonTicket call.ticket call.request).Plays
      (desk.step (.abandoned call.ticket)).1 := by
  have ends : CancelDesk.Happening.Ends call.ticket (.abandoned call.ticket) := rfl
  rw [CancelDesk.step_of_ends sound underWay ends, Stage.abandonTicket, if_pos onItsWay]
  exact plays.close _ rfl rfl

end Plays

end Stage

end LiveJobs
