/-!
# Machines with a clock

A poll or a connection acts when something happens to it, and by itself when it is due. A run of
such a machine is a list of happenings, each at its time; the turns at which the machine acts by
itself are happenings too. A run is timely if no moment passes at which the machine is due.
Happenings at the same time may come in any order, so a law about all timely runs holds whatever
comes first.

Laws on schedules are stated by `Clockwork.NextAt`: the next output comes exactly at some time. A
run may end before that; then the machine is due at that time, and its turn puts something out. By
`Clockwork.GoesOn` a machine to which nothing else happens gets there by its turns alone, so no
happening from outside is needed for the output to come.
-/

namespace LiveJobs

/-- A machine that acts at times of its own, and when something happens to it. -/
structure Clockwork (State Happening Output : Type) where
  /-- When the machine acts by itself. -/
  dueAt? : State → Nat → Option Nat
  /-- What becomes of the machine by what happens to it at a time, and what it puts out. -/
  step : State → Nat → Happening → State × Option Output

namespace Clockwork

variable {State Happening Output : Type} (clockwork : Clockwork State Happening Output)

/-- What becomes of the machine in a run. -/
def run (state : State) (happenings : List (Nat × Happening)) : State :=
  happenings.foldl (fun state happening => (clockwork.step state happening.1 happening.2).1) state

/-- What the machine puts out in a run, with the times. -/
def outputs (state : State) : List (Nat × Happening) → List (Nat × Output)
  | [] => []
  | (time, happening) :: rest =>
      let stepped := clockwork.step state time happening
      stepped.2.toList.map (time, ·) ++ outputs stepped.1 rest

/-- The time that it is after a run. -/
def moment (now : Nat) (happenings : List (Nat × Happening)) : Nat :=
  happenings.foldl (fun _ happening => happening.1) now

/-- Whether time goes on, and passes no moment at which the machine is due. -/
def Timely (state : State) (now : Nat) : List (Nat × Happening) → Prop
  | [] => True
  | (time, happening) :: rest =>
      now ≤ time ∧ (∀ due ∈ clockwork.dueAt? state now, time ≤ max now due) ∧
        Timely (clockwork.step state time happening).1 time rest

instance decidableTimely (state : State) (now : Nat) :
    (happenings : List (Nat × Happening)) → Decidable (clockwork.Timely state now happenings)
  | [] => .isTrue trivial
  | (time, happening) :: rest =>
      have := decidableTimely (clockwork.step state time happening).1 time rest
      inferInstanceAs (Decidable (_ ∧ _ ∧ _))

/-- Whether the next output comes exactly at the expected time, or not at all if none is expected.
A run without an output ends before the expected time has passed; then the machine is due exactly at
that time, and puts something out in its turn. -/
def NextAt (turned : Happening) (state : State) (now : Nat) (happenings : List (Nat × Happening))
    (expected : Option Nat) : Prop :=
  match (clockwork.outputs state happenings).head? with
  | some output => expected = some output.1
  | none => ∀ time ∈ expected, moment now happenings ≤ time ∧
      clockwork.dueAt? (clockwork.run state happenings) (moment now happenings) = some time ∧
      (clockwork.step (clockwork.run state happenings) time turned).2.isSome = true

/-- Whether a run can go on to any later time by turns of the machine alone. -/
def GoesOn (turned : Happening) (state : State) (now : Nat)
    (happenings : List (Nat × Happening)) : Prop :=
  ∀ later, moment now happenings ≤ later →
    ∃ turns, (∀ happening ∈ turns, happening.2 = turned) ∧
      clockwork.Timely state now (happenings ++ turns) ∧
      moment now (happenings ++ turns) = later

/-- Whether a machine that has just had its turn is due again only later. -/
def Restful (turned : Happening) : Prop :=
  ∀ state now, ∀ due ∈ clockwork.dueAt? (clockwork.step state now turned).1 now, now < due

variable {clockwork} {state : State} {now time : Nat} {happening turned : Happening}
  {happenings before after : List (Nat × Happening)}

/-! ## Runs that go on -/

@[simp] theorem run_nil : clockwork.run state [] = state := rfl

@[simp] theorem run_cons : clockwork.run state ((time, happening) :: after) =
    clockwork.run (clockwork.step state time happening).1 after := rfl

@[simp] theorem run_append : clockwork.run state (before ++ after) =
    clockwork.run (clockwork.run state before) after := List.foldl_append

@[simp] theorem moment_nil : moment now ([] : List (Nat × Happening)) = now := rfl

@[simp] theorem moment_cons : moment now ((time, happening) :: after) = moment time after := rfl

@[simp] theorem moment_append :
    moment now (before ++ after) = moment (moment now before) after := List.foldl_append

theorem outputs_cons : clockwork.outputs state ((time, happening) :: after) =
    (clockwork.step state time happening).2.toList.map (time, ·) ++
      clockwork.outputs (clockwork.step state time happening).1 after := rfl

theorem outputs_of_silent (silent : (clockwork.step state time happening).2 = none) :
    clockwork.outputs state ((time, happening) :: after) =
      clockwork.outputs (clockwork.step state time happening).1 after := by
  rw [outputs_cons, silent]
  rfl

/-- A machine that is silent, and stays so whatever happens, puts nothing out. -/
theorem outputs_of_quiet (Holds : State → Prop) (Quiet : Happening → Prop)
    (still : ∀ state time happening, Holds state → Quiet happening →
      (clockwork.step state time happening).2 = none ∧
        Holds (clockwork.step state time happening).1)
    (holds : Holds state) (quiet : ∀ happening ∈ happenings, Quiet happening.2) :
    clockwork.outputs state happenings = [] ∧ Holds (clockwork.run state happenings) := by
  induction happenings generalizing state with
  | nil => exact ⟨rfl, holds⟩
  | cons first rest ih =>
      obtain ⟨time, happening⟩ := first
      obtain ⟨here, behind⟩ := List.forall_mem_cons.1 quiet
      obtain ⟨silent, next⟩ := still state time happening holds here
      rw [outputs_of_silent silent]
      exact ih next behind

theorem timely_append : clockwork.Timely state now (before ++ after) ↔
    clockwork.Timely state now before ∧
      clockwork.Timely (clockwork.run state before) (moment now before) after := by
  induction before generalizing state now with
  | nil => simp [Timely]
  | cons first rest ih =>
      obtain ⟨time, happening⟩ := first
      simp only [List.cons_append, Timely, ih, run_cons, moment_cons, and_assoc]

/-! ## The next output -/

theorem nextAt_nil {expected : Option Nat} :
    clockwork.NextAt turned state now [] expected ↔
      ∀ time ∈ expected, now ≤ time ∧ clockwork.dueAt? state now = some time ∧
        (clockwork.step state time turned).2.isSome = true := Iff.rfl

theorem nextAt_of_output {output : Output} {expected : Option Nat}
    (puts : (clockwork.step state time happening).2 = some output) :
    clockwork.NextAt turned state now ((time, happening) :: after) expected ↔
      expected = some time := by
  rw [NextAt, outputs_cons, puts]
  rfl

theorem nextAt_of_silent {expected : Option Nat}
    (silent : (clockwork.step state time happening).2 = none) :
    clockwork.NextAt turned state now ((time, happening) :: after) expected ↔
      clockwork.NextAt turned (clockwork.step state time happening).1 time after expected := by
  rw [NextAt, outputs_of_silent silent]
  rfl

/-- A machine that waits for some time, and goes on waiting until it puts something out at that
time, does so exactly then. -/
theorem nextAt_of_waiting (Waits : State → Prop) (Admitted : Nat × Happening → Prop) {dueAt : Nat}
    (due : ∀ state time, Waits state → now ≤ time → time ≤ dueAt →
      clockwork.dueAt? state time = some dueAt)
    (rings : ∀ state, Waits state → (clockwork.step state dueAt turned).2.isSome = true)
    (acts : ∀ state time happening, Waits state → now ≤ time → time ≤ dueAt →
      Admitted (time, happening) →
      (time = dueAt ∧ (clockwork.step state time happening).2.isSome = true) ∨
        (clockwork.step state time happening).2 = none ∧
          Waits (clockwork.step state time happening).1)
    (waits : Waits state) (early : now ≤ dueAt)
    (timely : clockwork.Timely state now happenings)
    (admitted : ∀ happening ∈ happenings, Admitted happening) :
    clockwork.NextAt turned state now happenings (some dueAt) := by
  induction happenings generalizing state now with
  | nil =>
      rw [nextAt_nil]
      rintro time ⟨⟩
      exact ⟨early, due state now waits (Nat.le_refl now) early, rings state waits⟩
  | cons first rest ih =>
      obtain ⟨time, happening⟩ := first
      obtain ⟨goesOn, punctual, behind⟩ := timely
      obtain ⟨here, later⟩ := List.forall_mem_cons.1 admitted
      have before : time ≤ dueAt := by
        have := punctual dueAt (due state now waits (Nat.le_refl now) early)
        omega
      rcases acts state time happening waits goesOn before here with
        ⟨rfl, puts⟩ | ⟨silent, next⟩
      · obtain ⟨output, puts⟩ := Option.isSome_iff_exists.1 puts
        rw [nextAt_of_output puts]
      · rw [nextAt_of_silent silent]
        exact ih
          (fun state time waits since => due state time waits (Nat.le_trans goesOn since))
          (fun state time happening waits since =>
            acts state time happening waits (Nat.le_trans goesOn since))
          next before behind later

/-- A machine that is due at once, and stays so until it puts something out, does that at once. -/
theorem nextAt_of_due (Poised : State → Prop) (Admitted : Nat × Happening → Prop)
    (due : ∀ state, Poised state → clockwork.dueAt? state now = some now)
    (rings : ∀ state, Poised state → (clockwork.step state now turned).2.isSome = true)
    (acts : ∀ state happening, Poised state → Admitted (now, happening) →
      (clockwork.step state now happening).2.isSome = true ∨
        (clockwork.step state now happening).2 = none ∧
          Poised (clockwork.step state now happening).1)
    (poised : Poised state) (timely : clockwork.Timely state now happenings)
    (admitted : ∀ happening ∈ happenings, Admitted happening) :
    clockwork.NextAt turned state now happenings (some now) := by
  refine nextAt_of_waiting Poised Admitted ?_ rings ?_ poised (Nat.le_refl now) timely admitted
  · intro state time poised goesOn before
    cases Nat.le_antisymm goesOn before
    exact due state poised
  · intro state time happening poised goesOn before here
    cases Nat.le_antisymm goesOn before
    exact (acts state happening poised here).imp_left fun puts => ⟨rfl, puts⟩

namespace Timely

theorem le_of_mem (timely : clockwork.Timely state now happenings)
    (member : (time, happening) ∈ happenings) : now ≤ time := by
  induction happenings generalizing state now with
  | nil => cases member
  | cons first rest ih =>
      obtain ⟨goesOn, -, behind⟩ := timely
      rcases List.mem_cons.1 member with rfl | later
      · exact goesOn
      · exact Nat.le_trans goesOn (ih behind later)

/-- A machine that is not due yet can be taken to any later time by its own turns. -/
theorem exists_of_calm {later : Nat} (restful : clockwork.Restful turned)
    (calm : ∀ due ∈ clockwork.dueAt? state now, now < due) (late : now ≤ later) :
    ∃ turns, (∀ happening ∈ turns, happening.2 = turned) ∧
      clockwork.Timely state now turns ∧ moment now turns = later := by
  -- Every turn is at a later time than the one before, so the time that is left is used up.
  induction left : later - now using Nat.strongRecOn generalizing state now with
  | ind left ih =>
  by_cases early : ∃ due ∈ clockwork.dueAt? state now, due ≤ later
  · obtain ⟨due, isDue, reached⟩ := early
    have passes := calm due isDue
    obtain ⟨turns, alone, timely, ends⟩ :=
      ih (later - due) (by omega) (restful state due) reached rfl
    refine ⟨(due, turned) :: turns, List.forall_mem_cons.2 ⟨rfl, alone⟩,
      ⟨Nat.le_of_lt passes, ?_, timely⟩, ends⟩
    intro other same
    cases isDue.symm.trans same
    exact Nat.le_max_right _ _
  · refine ⟨[(later, turned)], List.forall_mem_singleton.2 rfl, ⟨late, ?_, trivial⟩, rfl⟩
    intro due isDue
    have : ¬ due ≤ later := fun reached => early ⟨due, isDue, reached⟩
    omega

/-- Time never stops for a machine that is restful. -/
theorem goesOn (restful : clockwork.Restful turned)
    (timely : clockwork.Timely state now happenings) :
    clockwork.GoesOn turned state now happenings := by
  intro later late
  obtain ⟨turns, alone, behind, ends⟩ := exists_of_calm restful
    (restful (clockwork.run state happenings) (moment now happenings)) late
  refine ⟨(moment now happenings, turned) :: turns, List.forall_mem_cons.2 ⟨rfl, alone⟩, ?_, ?_⟩
  · refine timely_append.2 ⟨timely, Nat.le_refl _, ?_, behind⟩
    intro due _
    exact Nat.le_max_left _ _
  · rw [moment_append, moment_cons, ends]

end Timely

end Clockwork

end LiveJobs
