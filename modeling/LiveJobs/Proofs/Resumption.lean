import LiveJobs.Push.Connection

/-!
# Resumption

A connection is opened again and again, and each time it asks for what comes after the last frame
that it has processed. The token from which it resumes lives through all failures, and moves in one
place only: behind the decoder, once the event has been handed on.

A run of a connection is told here by what it does, in order. The law is about the frames that were
delivered before each attempt, over all earlier openings.
-/

namespace LiveJobs

open LiveJobs.Text

/-! ## Frames -/

namespace Frame

/-- The event that a frame decodes to, if it does. -/
def event? (frame : Frame) : Option Event :=
  match frame.decode with
  | .ok event => event
  | .error _ => none

/-- Whether the payload of a frame is blank. -/
def isVoid (frame : Frame) : Bool := (trimChars frame.data.toList).isEmpty

/-- Whether a frame counts as processed: it decodes to an event, or its payload is blank. -/
def isProcessed (frame : Frame) : Bool := frame.isVoid || frame.event?.isSome

/-- The event to resume after once a frame has been taken. -/
def resumption? (frame : Frame) : Option EventId :=
  if frame.isProcessed then frame.token?.map EventId.mk else none

/-- A payload is no event without being malformed exactly if it is blank. -/
theorem decode_eq_ok_none_iff (frame : Frame) :
    frame.decode = .ok none ↔ frame.isVoid = true := by
  unfold decode isVoid
  split
  next blank => simp [blank]
  next filled =>
    rw [Bool.not_eq_true] at filled
    simp only [filled, Bool.false_eq_true, iff_false]
    split
    · simp
    · split
      · simp
      · simp
    · simp

theorem isProcessed_of_ok {frame : Frame} {event : Option Event}
    (decoded : frame.decode = .ok event) : frame.isProcessed = true := by
  cases event with
  | none =>
      rw [decode_eq_ok_none_iff] at decoded
      simp [isProcessed, decoded]
  | some event => simp [isProcessed, event?, decoded]

theorem isProcessed_of_error {frame : Frame} {error : PayloadError}
    (decoded : frame.decode = .error error) : frame.isProcessed = false := by
  have filled : frame.isVoid = false := by
    rw [Bool.eq_false_iff]
    intro blank
    rw [← decode_eq_ok_none_iff, decoded] at blank
    cases blank
  simp [isProcessed, event?, decoded, filled]

end Frame

/-- The event to resume after when some frames have been taken: the latest that was processed and
has an identifier, or else the one from before. -/
def resumeFrom (token : Option EventId) (frames : List Frame) : Option EventId :=
  (frames.filterMap Frame.resumption?).getLast?.or token

@[simp] theorem resumeFrom_nil (token : Option EventId) : resumeFrom token [] = token := rfl

theorem resumeFrom_cons (token : Option EventId) (frame : Frame) (frames : List Frame) :
    resumeFrom token (frame :: frames) = resumeFrom (frame.resumption?.or token) frames := by
  unfold resumeFrom
  cases resumption : frame.resumption? with
  | none => simp [resumption]
  | some id =>
      simp only [List.filterMap_cons, resumption, List.getLast?_cons, Option.some_or]
      cases (frames.filterMap Frame.resumption?).getLast? <;> rfl

theorem resumeFrom_append (token : Option EventId) (first second : List Frame) :
    resumeFrom token (first ++ second) = resumeFrom (resumeFrom token first) second := by
  induction first generalizing token with
  | nil => rfl
  | cons frame rest ih => rw [List.cons_append, resumeFrom_cons, resumeFrom_cons, ih]

/-! ## The token of a connection -/

namespace Connection

variable (connection : Connection) (now : Nat) (frame : Frame)

@[simp] theorem token_move (transition : Transition) :
    (connection.move transition).token = connection.token := by
  unfold move
  split
  · rfl
  · rfl

@[simp] theorem token_knock : connection.knock.token = connection.token :=
  connection.token_move connection.opening

@[simp] theorem token_finish : connection.finish.token = connection.token :=
  connection.token_move .close

@[simp] theorem token_fail : (connection.fail now).token = connection.token := by
  simp only [fail]
  split
  · exact token_move _ _
  · rw [token_finish, token_move]

@[simp] theorem token_heed : (connection.heed frame).token = connection.token := by
  unfold heed
  split
  · rfl
  · split
    · rfl
    · rfl

theorem token_resumeAfter :
    (connection.resumeAfter frame).token = (frame.token?.map EventId.mk).or connection.token := by
  unfold resumeAfter
  cases frame.token? with
  | none => rfl
  | some id => rfl

/-- A frame is taken by handing its event on, and then moving the token if it was processed. -/
theorem takeFrame_spec :
    (connection.takeFrame frame).1.token = frame.resumption?.or connection.token ∧
      (connection.takeFrame frame).2 = frame.event? := by
  unfold takeFrame Frame.resumption? Frame.event?
  cases decoded : frame.decode with
  | ok event =>
      rw [Frame.isProcessed_of_ok decoded, if_pos rfl, token_resumeAfter, token_heed]
      exact ⟨rfl, rfl⟩
  | error error =>
      rw [Frame.isProcessed_of_error decoded, if_neg Bool.false_ne_true, token_heed]
      exact ⟨rfl, rfl⟩

@[simp] theorem token_turn : (connection.turn now).1.token = connection.token := by
  unfold turn
  split
  · split
    · exact connection.token_knock
    · rfl
  · rfl

@[simp] theorem token_close : connection.close.token = connection.token := by
  unfold close
  split
  · rfl
  · exact connection.token_finish

/-! ## Runs -/

/-- What can happen to a connection. -/
inductive Stimulus where
  /-- It gets its turn. -/
  | turned (now : Nat)
  /-- It hears of the channel. -/
  | heard (now : Nat) (signal : Signal)
  | closed
  | abandoned

/-- What a connection does that others see. -/
inductive Deed where
  /-- It asks to be let in, to resume after an event. -/
  | asked (token : Option EventId)
  /-- It takes delivery of a frame. -/
  | took (frame : Frame)
  /-- It hands an event on. -/
  | handed (event : Event)

namespace Deed

/-- The event after which an attempt to be let in resumes. -/
def resumed? : Deed → Option (Option EventId)
  | .asked token => some token
  | .took _ => none
  | .handed _ => none

def frame? : Deed → Option Frame
  | .asked _ => none
  | .took frame => some frame
  | .handed _ => none

def event? : Deed → Option Event
  | .asked _ => none
  | .took _ => none
  | .handed event => some event

end Deed

/-- The frame that is delivered by a signal. Frames are delivered only while the connection takes
them. -/
def delivery? (connection : Connection) : Signal → Option Frame
  | .frame frame => if connection.phase = .taking then some frame else none
  | _ => none

/-- What becomes of a connection by what happens to it, and what it does. -/
def react (connection : Connection) : Stimulus → Connection × List Deed
  | .turned now =>
      let turned := connection.turn now
      (turned.1, if turned.2 then [.asked turned.1.token] else [])
  | .heard now signal =>
      let heard := connection.hear now signal
      (heard.1, (connection.delivery? signal).toList.map .took ++ heard.2.toList.map .handed)
  | .closed => (connection.close, [])
  | .abandoned => (connection.abandon, [])

/-- What becomes of a connection in the course of a script, and all that it does. -/
def run (connection : Connection) : List Stimulus → Connection × List Deed
  | [] => (connection, [])
  | stimulus :: rest =>
      let reacted := connection.react stimulus
      let behind := run reacted.1 rest
      (behind.1, reacted.2 ++ behind.2)

/-- The frames that were delivered in the course of some deeds. -/
def delivered (deeds : List Deed) : List Frame := deeds.filterMap Deed.frame?

/-- The events that were handed on in the course of some deeds. -/
def handedOn (deeds : List Deed) : List Event := deeds.filterMap Deed.event?

theorem hear_of_delivery {signal : Signal} {frame : Frame}
    (delivery : connection.delivery? signal = some frame) :
    connection.hear now signal = connection.takeFrame frame := by
  cases signal with
  | frame other =>
      rw [delivery?, Option.ite_none_right_eq_some] at delivery
      obtain ⟨taking, same⟩ := delivery
      cases same
      simp [hear, taking]
  | opened => cases delivery
  | turnedAway => cases delivery
  | broken => cases delivery

theorem hear_of_no_delivery {signal : Signal} (silent : connection.delivery? signal = none) :
    (connection.hear now signal).1.token = connection.token ∧
      (connection.hear now signal).2 = none := by
  unfold hear
  split
  next => exact ⟨token_move _ _, rfl⟩
  next => exact ⟨connection.token_fail now, rfl⟩
  next frame taking => simp [delivery?, taking] at silent
  next => exact ⟨connection.token_fail now, rfl⟩
  next => exact ⟨rfl, rfl⟩

/-- All that a connection can do at once: nothing; ask with its token; or take a frame and hand on
the event in it. Only the last moves the token. -/
theorem react_cases (stimulus : Stimulus) :
    ((connection.react stimulus).2 = [] ∧
      (connection.react stimulus).1.token = connection.token) ∨
    ((connection.react stimulus).2 = [.asked connection.token] ∧
      (connection.react stimulus).1.token = connection.token) ∨
    ∃ frame, (connection.react stimulus).2 =
        .took frame :: frame.event?.toList.map .handed ∧
      (connection.react stimulus).1.token = frame.resumption?.or connection.token := by
  cases stimulus with
  | turned now =>
      rw [react, token_turn]
      split
      · exact .inr (.inl ⟨rfl, rfl⟩)
      · exact .inl ⟨rfl, rfl⟩
  | closed => exact .inl ⟨rfl, connection.token_close⟩
  | abandoned => exact .inl ⟨rfl, rfl⟩
  | heard now signal =>
      rw [react]
      cases delivery : connection.delivery? signal with
      | none =>
          obtain ⟨token, silent⟩ := connection.hear_of_no_delivery now delivery
          rw [silent]
          exact .inl ⟨rfl, token⟩
      | some frame =>
          obtain ⟨token, event⟩ := connection.takeFrame_spec frame
          rw [connection.hear_of_delivery now delivery, event]
          exact .inr (.inr ⟨frame, rfl, token⟩)

/-- Every event is handed on once, right behind its frame. -/
theorem handedOn_react (stimulus : Stimulus) :
    handedOn (connection.react stimulus).2 =
      (delivered (connection.react stimulus).2).filterMap Frame.event? := by
  rcases connection.react_cases stimulus with ⟨deeds, -⟩ | ⟨deeds, -⟩ | ⟨frame, deeds, -⟩
  · rw [deeds]
    rfl
  · rw [deeds]
    rfl
  · rw [deeds]
    cases event : frame.event? with
    | none => simp [handedOn, delivered, Deed.event?, Deed.frame?, event]
    | some => simp [handedOn, delivered, Deed.event?, Deed.frame?, event, List.filterMap_cons]

theorem token_react (stimulus : Stimulus) :
    (connection.react stimulus).1.token =
      resumeFrom connection.token (delivered (connection.react stimulus).2) := by
  rcases connection.react_cases stimulus with ⟨deeds, token⟩ | ⟨deeds, token⟩ |
    ⟨frame, deeds, token⟩
  · rw [deeds, token]
    rfl
  · rw [deeds, token]
    rfl
  · have one : delivered (.took frame :: frame.event?.toList.map Deed.handed) = [frame] := by
      cases frame.event? <;> rfl
    rw [deeds, token, one, resumeFrom_cons, resumeFrom_nil]

/-- An attempt to connect is a step of its own, and carries the token. -/
theorem asked_react {stimulus : Stimulus} {before after : List Deed} {asked : Option EventId}
    (deeds : (connection.react stimulus).2 = before ++ .asked asked :: after) :
    before = [] ∧ asked = connection.token := by
  rcases connection.react_cases stimulus with ⟨found, -⟩ | ⟨found, -⟩ | ⟨frame, found, -⟩
  · rw [found] at deeds
    simp at deeds
  · rw [found] at deeds
    cases before with
    | nil =>
        cases deeds
        exact ⟨rfl, rfl⟩
    | cons => simp at deeds
  · have member : Deed.asked asked ∈ .took frame :: frame.event?.toList.map Deed.handed := by
      rw [← found, deeds]
      simp
    simp at member

variable (script : List Stimulus)

theorem delivered_append (first second : List Deed) :
    delivered (first ++ second) = delivered first ++ delivered second :=
  List.filterMap_append

theorem handedOn_run :
    handedOn (connection.run script).2 =
      (delivered (connection.run script).2).filterMap Frame.event? := by
  induction script generalizing connection with
  | nil => rfl
  | cons stimulus rest ih =>
      have first := connection.handedOn_react stimulus
      have behind := ih (connection.react stimulus).1
      simp only [handedOn, delivered, run, List.filterMap_append] at first behind ⊢
      rw [first, behind]

theorem token_run :
    (connection.run script).1.token =
      resumeFrom connection.token (delivered (connection.run script).2) := by
  induction script generalizing connection with
  | nil => rfl
  | cons stimulus rest ih =>
      rw [run, ih, connection.token_react stimulus, delivered_append, resumeFrom_append]

/-- Every attempt carries what the frames delivered before it have made of the token. -/
theorem asked_run {before after : List Deed} {asked : Option EventId}
    (deeds : (connection.run script).2 = before ++ .asked asked :: after) :
    asked = resumeFrom connection.token (delivered before) := by
  induction script generalizing connection before with
  | nil => simp [run] at deeds
  | cons stimulus rest ih =>
      rw [run] at deeds
      rcases List.append_eq_append_iff.1 deeds with
        ⟨between, rfl, later⟩ | ⟨between, found, later⟩
      · rw [ih _ later, connection.token_react stimulus, delivered_append, resumeFrom_append]
      · cases between with
        | nil =>
            rw [List.append_nil] at found
            have next := ih (connection.react stimulus).1 (show _ = [] ++ _ from later.symm)
            rw [next, connection.token_react stimulus, found]
            rfl
        | cons head tail =>
            rw [List.cons_append, List.cons.injEq] at later
            obtain ⟨rfl, -⟩ := later
            obtain ⟨rfl, same⟩ := connection.asked_react found
            exact same

/-- Resumption and delivery of one connection, over any course of attempts, frames, failures and
endings. Of the frames that are delivered, all over the openings, those that decode to an event have
it handed on once and in their order, and nothing else is handed on. Every attempt to connect, the
first one included, asks for what comes after the latest frame delivered so far that has an
identifier and was processed, or else after the event that the connection was started with; and that
is the token of the connection at every point. -/
theorem resumes_after_latest_processed (channel : Channel) (policy : RetryPolicy)
    (token : Option EventId) :
    handedOn ((start channel policy token).run script).2 =
      (delivered ((start channel policy token).run script).2).filterMap Frame.event? ∧
    (∀ before asked after,
      ((start channel policy token).run script).2 = before ++ .asked asked :: after →
      asked = ((delivered before).filterMap Frame.resumption?).getLast?.or token) ∧
    ((start channel policy token).run script).1.token =
      ((delivered ((start channel policy token).run script).2).filterMap
        Frame.resumption?).getLast?.or token := by
  refine ⟨handedOn_run _ script, ?_, token_run _ script⟩
  intro before asked after deeds
  exact asked_run _ script deeds

/-- Two openings that break after some frames each. In the first one a malformed frame comes behind
an event; in the second one an event without an identifier, and a frame with a blank payload. -/
def twiceBroken : List Stimulus :=
  [.turned 0, .heard 5 .turnedAway, .turned 1005, .heard 1010 .opened,
    .heard 1020 (.frame ⟨some "evt-1", none, "\x7b\"jobId\":\"job-1\"\x7d", none⟩),
    .heard 1030 (.frame ⟨some "evt-2", none, "broken", none⟩), .heard 1040 .broken, .turned 2040,
    .heard 2050 .opened, .heard 2060 (.frame ⟨none, none, "\x7b\"jobId\":\"job-3\"\x7d", none⟩),
    .heard 2070 (.frame ⟨some "evt-4", some "ping", "", none⟩), .heard 2080 .broken, .turned 3080]

theorem twiceBroken_resumes :
    let ran := (start .backgroundJobs (.reconnect 1000) (some ⟨"evt-0"⟩)).run twiceBroken
    (delivered ran.2).map Frame.id = [some "evt-1", some "evt-2", none, some "evt-4"] ∧
      (handedOn ran.2).map Event.jobId = [some ⟨"job-1"⟩, some ⟨"job-3"⟩] ∧
      ran.2.filterMap Deed.resumed? =
        [some ⟨"evt-0"⟩, some ⟨"evt-0"⟩, some ⟨"evt-1"⟩, some ⟨"evt-4"⟩] ∧
      ran.1.token = some ⟨"evt-4"⟩ := by
  intro ran
  obtain ⟨handed, -, token⟩ :=
    resumes_after_latest_processed twiceBroken .backgroundJobs (.reconnect 1000) (some ⟨"evt-0"⟩)
  refine ⟨by decide +kernel, ?_, by decide +kernel, ?_⟩
  · rw [handed]
    decide +kernel
  · rw [token]
    decide +kernel

end Connection

end LiveJobs
