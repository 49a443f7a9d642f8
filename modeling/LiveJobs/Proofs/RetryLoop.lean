import LiveJobs.Retry

/-!
# How often something is tried

Something that fails is tried again while its failure may pass and retries are left. So there is one
result that settles it: the first that is a success, that does not pass, or that comes when no retry
is left. All that the loop does follows from where that result stands: it is what is given back, the
tries go up to it, and before each of them but the first lies its own delay.

The loop counts its retries in a word of 32 bits, which starts again at zero when it is full. A
`RetryLoop` takes one try at a step and has such a word. The word is never full when it is counted
up, as it is compared with the number of allowed retries before.
-/

namespace LiveJobs

/-- The failures that may pass: the service is not reached, or it answers with an error of its own,
other than the one that says that it is unavailable. -/
inductive Fault.MayPass : Fault → Prop where
  | network (detail : String) : MayPass (.network detail)
  | api {status : Nat} (message : String) (serverError : 500 ≤ status ∧ status < 600)
      (available : status ≠ 503) : MayPass (.api status message)

theorem Fault.isRetryable_iff (fault : Fault) : fault.isRetryable = true ↔ fault.MayPass := by
  constructor
  · intro retryable
    cases fault with
    | network detail => exact .network detail
    | api status message =>
        simp only [isRetryable, isPassingStatus, Bool.and_eq_true, decide_eq_true_eq,
          bne_iff_ne] at retryable
        exact .api message ⟨retryable.1.1, Nat.lt_succ_of_le retryable.1.2⟩ retryable.2
    | parse detail => cases retryable
    | config detail => cases retryable
  · intro passes
    cases passes with
    | network detail => rfl
    | api message serverError available =>
        simp only [isRetryable, isPassingStatus, Bool.and_eq_true, decide_eq_true_eq,
          bne_iff_ne]
        exact ⟨⟨serverError.1, Nat.le_of_lt_succ serverError.2⟩, available⟩

/-! ## The result that settles it -/

namespace RetryPolicy

variable {α : Type} {policy : RetryPolicy} {results : Nat → Except Fault α} {attempt last : Nat}

/-- Whether the result of the try after a number of retries is the last one: it is a success, it is
a failure that does not pass, or no retry is left. -/
def Settles (policy : RetryPolicy) (attempt : Nat) (result : Except Fault α) : Prop :=
  (∃ value, result = .ok value) ∨ (∃ fault, result = .error fault ∧ ¬fault.MayPass) ∨
    attempt = policy.maxAttempts

/-- What does not settle the matter is a failure that may pass. -/
theorem mayPass_of_unsettled {result : Except Fault α}
    (unsettled : ¬policy.Settles attempt result) :
    ∃ fault, result = .error fault ∧ fault.MayPass := by
  cases result with
  | ok value => exact absurd (.inl ⟨value, rfl⟩) unsettled
  | error fault =>
      refine ⟨fault, rfl, Classical.byContradiction fun lasts => ?_⟩
      exact unsettled (.inr (.inl ⟨fault, rfl, lasts⟩))

/-- A try is followed by another one exactly if its result does not settle the matter. -/
theorem retries_iff (within : attempt ≤ policy.maxAttempts) (result : Except Fault α) :
    policy.retries attempt result = true ↔ ¬policy.Settles attempt result := by
  cases result with
  | ok value => exact iff_of_false nofun fun unsettled => unsettled (.inl ⟨value, rfl⟩)
  | error fault =>
      rw [retries, Bool.and_eq_true, fault.isRetryable_iff, allows, decide_eq_true_eq]
      constructor
      · rintro ⟨passes, left⟩ (⟨value, same⟩ | ⟨other, same, lasts⟩ | usedUp)
        · cases same
        · cases same
          exact lasts passes
        · exact Nat.ne_of_lt left usedUp
      · intro unsettled
        obtain ⟨other, same, passes⟩ := mayPass_of_unsettled unsettled
        cases same
        exact ⟨passes, Nat.lt_of_le_of_ne within fun usedUp => unsettled (.inr (.inr usedUp))⟩

theorem runFrom_of_settles (within : attempt ≤ policy.maxAttempts)
    (settles : policy.Settles attempt (results attempt)) :
    policy.runFrom results attempt = ⟨[], results attempt⟩ := by
  rw [runFrom, dif_neg fun again => (retries_iff within _).1 again settles]

theorem runFrom_of_unsettled (within : attempt ≤ policy.maxAttempts)
    (unsettled : ¬policy.Settles attempt (results attempt)) :
    policy.runFrom results attempt =
      ⟨policy.delayFor (attempt + 1) :: (policy.runFrom results (attempt + 1)).waits,
        (policy.runFrom results (attempt + 1)).result⟩ := by
  rw [runFrom, dif_pos ((retries_iff within _).2 unsettled)]

/-- Whether a try is the first one whose result settles the matter, of those from some try on. -/
structure IsLast (policy : RetryPolicy) (results : Nat → Except Fault α) (attempt last : Nat) :
    Prop where
  reached : attempt ≤ last
  settles : policy.Settles last (results last)
  first : ∀ index, attempt ≤ index → index < last → ¬policy.Settles index (results index)

theorem IsLast.le_maxAttempts (isLast : policy.IsLast results attempt last)
    (within : attempt ≤ policy.maxAttempts) : last ≤ policy.maxAttempts := by
  apply Nat.le_of_not_lt
  intro beyond
  exact isLast.first policy.maxAttempts within beyond (.inr (.inr rfl))

/-- The loop goes on to the first result that settles the matter, and no further. -/
theorem runFrom_eq (results : Nat → Except Fault α) (within : attempt ≤ policy.maxAttempts) :
    ∃ last, policy.IsLast results attempt last ∧
      policy.runFrom results attempt =
        ⟨(List.range' attempt (last - attempt)).map fun index => policy.delayFor (index + 1),
          results last⟩ := by
  induction left : policy.maxAttempts - attempt generalizing attempt with
  | zero =>
      have settles : policy.Settles attempt (results attempt) := .inr (.inr (by omega))
      refine ⟨attempt, ⟨Nat.le_refl _, settles, fun index => by omega⟩, ?_⟩
      rw [runFrom_of_settles within settles, Nat.sub_self]
      rfl
  | succ left ih =>
      by_cases settles : policy.Settles attempt (results attempt)
      · refine ⟨attempt, ⟨Nat.le_refl _, settles, fun index => by omega⟩, ?_⟩
        rw [runFrom_of_settles within settles, Nat.sub_self]
        rfl
      · have again : attempt + 1 ≤ policy.maxAttempts := by omega
        obtain ⟨last, isLast, behind⟩ := ih again (by omega)
        have later := isLast.reached
        refine ⟨last, ⟨by omega, isLast.settles, ?_⟩, ?_⟩
        · intro index here earlier
          rcases Nat.eq_or_lt_of_le here with rfl | next
          · exact settles
          · exact isLast.first index next earlier
        · have number : last - attempt = last - (attempt + 1) + 1 := by omega
          rw [runFrom_of_unsettled within settles, behind, number, List.range'_succ,
            List.map_cons]

end RetryPolicy

/-! ## The loop, one try at a step -/

/-- What the loop does to the world. -/
inductive RetryAct where
  | tries
  /-- It waits for some milliseconds. -/
  | waits (millis : Nat)
  deriving DecidableEq, Repr

/-- The loop between two tries. -/
structure RetryLoop (α : Type) where
  /-- What it has done so far. -/
  acts : List RetryAct
  /-- The retries that it has counted. -/
  attempt : UInt32
  /-- What it has given back. -/
  result : Option (Except Fault α)

namespace RetryLoop

variable {α : Type} {policy : RetryPolicy} {results : Nat → Except Fault α} {last : Nat}

/-- The number of tries so far. -/
def tried (loop : RetryLoop α) : Nat := loop.acts.count .tries

def start : RetryLoop α := ⟨[], 0, none⟩

/-- One try. A loop that has given something back does nothing any more. -/
def step (policy : RetryPolicy) (results : Nat → Except Fault α) (loop : RetryLoop α) :
    RetryLoop α :=
  if loop.result.isSome then loop
  else
    let result := results loop.tried
    if policy.retries loop.attempt.toNat result then
      let attempt := loop.attempt + 1
      { loop with
        acts := loop.acts ++ [.tries, .waits (policy.delayFor attempt.toNat)]
        attempt := attempt }
    else { loop with acts := loop.acts ++ [.tries], result := some result }

/-- The loop after a number of steps. -/
def after (policy : RetryPolicy) (results : Nat → Except Fault α) : (steps : Nat) → RetryLoop α
  | 0 => start
  | steps + 1 => step policy results (after policy results steps)

/-- Tries that are each followed by the delay of the next one. -/
def triesAndWaits (policy : RetryPolicy) (number : Nat) : List RetryAct :=
  (List.range number).flatMap fun index => [.tries, .waits (policy.delayFor (index + 1))]

theorem triesAndWaits_succ (policy : RetryPolicy) (number : Nat) :
    triesAndWaits policy (number + 1) =
      triesAndWaits policy number ++ [.tries, .waits (policy.delayFor (number + 1))] := by
  simp [triesAndWaits, List.range_succ]

@[simp] theorem count_triesAndWaits (policy : RetryPolicy) (number : Nat) :
    (triesAndWaits policy number).count .tries = number := by
  induction number with
  | zero => rfl
  | succ number ih => simp [triesAndWaits_succ, ih]

/-- No count of retries fills the word. -/
theorem toNat_count (counted : policy.maxAttempts ≤ RetryPolicy.unbounded) {number : Nat}
    (within : number ≤ policy.maxAttempts) : (UInt32.ofNat number).toNat = number := by
  apply UInt32.toNat_ofNat_of_lt'
  exact Nat.lt_succ_of_le (Nat.le_trans within counted)

/-- Up to the try that settles the matter the loop goes on, and its word counts the steps. -/
theorem after_of_le (counted : policy.maxAttempts ≤ RetryPolicy.unbounded)
    (isLast : policy.IsLast results 0 last) {steps : Nat} (early : steps ≤ last) :
    after policy results steps = ⟨triesAndWaits policy steps, UInt32.ofNat steps, none⟩ := by
  have within := isLast.le_maxAttempts (Nat.zero_le _)
  induction steps with
  | zero => rfl
  | succ steps ih =>
      have count : (UInt32.ofNat steps).toNat = steps := toNat_count counted (by omega)
      have countNext : (UInt32.ofNat (steps + 1)).toNat = steps + 1 :=
        toNat_count counted (by omega)
      have next : UInt32.ofNat steps + 1 = UInt32.ofNat (steps + 1) :=
        (UInt32.ofNat_add steps 1).symm
      have again : policy.retries steps (results steps) = true :=
        (RetryPolicy.retries_iff (by omega) _).2 (isLast.first steps (Nat.zero_le _) early)
      rw [after, ih (by omega), step]
      simp only [tried, count_triesAndWaits, count, again, next, countNext, triesAndWaits_succ,
        Option.isSome_none, Bool.false_eq_true, if_false, if_true]

/-- The loop gives back the result that settles the matter, and does nothing after that. -/
theorem after_of_lt (counted : policy.maxAttempts ≤ RetryPolicy.unbounded)
    (isLast : policy.IsLast results 0 last) {steps : Nat} (late : last < steps) :
    after policy results steps =
      ⟨triesAndWaits policy last ++ [.tries], UInt32.ofNat last, some (results last)⟩ := by
  have within := isLast.le_maxAttempts (Nat.zero_le _)
  induction steps with
  | zero => cases late
  | succ steps ih =>
      rcases Nat.eq_or_lt_of_le (Nat.le_of_lt_succ late) with rfl | later
      · have count : (UInt32.ofNat last).toNat = last := toNat_count counted within
        have settled : policy.retries last (results last) = false :=
          Bool.eq_false_iff.2 fun again =>
            (RetryPolicy.retries_iff within _).1 again isLast.settles
        rw [after, after_of_le counted isLast (Nat.le_refl _), step]
        simp [tried, count, settled]
      · rw [after, ih later, step]
        rfl

/-- How often something is tried, whatever the policy and the results. There is a first result that
settles the matter; it is given back, whatever failures came before it. The tries go up to that
result and no further, so there is one more of them at most than retries are allowed, and before
each of them but the first lies the delay of its number. Step by step the loop does the same: its
word counts the steps and never starts again, and once a result is given back nothing is done any
more. A try is only followed by another one if it has failed in a way that may pass, so neither a
success nor an unavailable service, a status that is no server error, an answer of another form or a
client that is not set up is. -/
theorem tries_until_settled (policy : RetryPolicy)
    (counted : policy.maxAttempts ≤ RetryPolicy.unbounded) (results : Nat → Except Fault α) :
    ∃ last,
      policy.Settles last (results last) ∧
      (∀ index < last, ¬policy.Settles index (results index)) ∧
      policy.run results =
        ⟨(List.range last).map fun index => policy.delayFor (index + 1), results last⟩ ∧
      (policy.run results).count = last + 1 ∧ last + 1 ≤ policy.maxAttempts + 1 ∧
      (∀ steps ≤ last,
        (after policy results steps).acts = triesAndWaits policy steps ∧
        (after policy results steps).tried = steps ∧
        (after policy results steps).attempt.toNat = steps ∧
        (after policy results steps).result = none) ∧
      (∀ steps > last,
        (after policy results steps).acts = triesAndWaits policy last ++ [.tries] ∧
        (after policy results steps).tried = last + 1 ∧
        (after policy results steps).attempt.toNat = last ∧
        (after policy results steps).result = some (results last)) ∧
      ∀ index < last, ∃ fault, results index = .error fault ∧ fault.MayPass := by
  obtain ⟨last, isLast, ran⟩ := RetryPolicy.runFrom_eq results (Nat.zero_le policy.maxAttempts)
  have within := isLast.le_maxAttempts (Nat.zero_le _)
  have settled : policy.run results =
      ⟨(List.range last).map fun index => policy.delayFor (index + 1), results last⟩ := by
    rw [RetryPolicy.run, ran, Nat.sub_zero, List.range_eq_range']
  refine ⟨last, isLast.settles, fun index => isLast.first index (Nat.zero_le _), settled, ?_,
    Nat.succ_le_succ within, ?_, ?_, ?_⟩
  · simp [settled, Tries.count]
  · intro steps early
    rw [after_of_le counted isLast early]
    exact ⟨rfl, count_triesAndWaits policy steps,
      toNat_count counted (Nat.le_trans early within), rfl⟩
  · intro steps late
    rw [after_of_lt counted isLast late]
    exact ⟨rfl, by simp [tried], toNat_count counted within, rfl⟩
  · intro index earlier
    exact RetryPolicy.mayPass_of_unsettled (isLast.first index (Nat.zero_le _) earlier)

/-- Two failures that may pass, and then the service says that it is unavailable. -/
def unavailableAtLast : Nat → Except Fault Unit
  | 0 => .error (.network "reset")
  | 1 => .error (.api 502 "bad gateway")
  | _ => .error (.api 503 "unavailable")

theorem unavailableAtLast_settles :
    (RetryPolicy.reconnect 10).maxAttempts ≤ RetryPolicy.unbounded ∧
      (RetryPolicy.reconnect 10).run unavailableAtLast =
        ⟨[(RetryPolicy.reconnect 10).delayFor 1, (RetryPolicy.reconnect 10).delayFor 2],
          .error (.api 503 "unavailable")⟩ ∧
      (after (RetryPolicy.reconnect 10) unavailableAtLast 3).tried = 3 := by
  have counted : (RetryPolicy.reconnect 10).maxAttempts ≤ RetryPolicy.unbounded := Nat.le_refl _
  have unavailable : (RetryPolicy.reconnect 10).Settles 2 (unavailableAtLast 2) := by
    refine .inr (.inl ⟨_, rfl, ?_⟩)
    intro passes
    cases passes with
    | api message serverError available => exact available rfl
  have goesOn (index : Nat) (early : index < 2) :
      ¬(RetryPolicy.reconnect 10).Settles index (unavailableAtLast index) := by
    apply (RetryPolicy.retries_iff (Nat.le_of_lt (Nat.lt_trans early (by decide))) _).1
    match index, early with
    | 0, _ => rfl
    | 1, _ => rfl
  obtain ⟨last, settles, first, ran, -, -, -, late, -⟩ :=
    tries_until_settled (RetryPolicy.reconnect 10) counted unavailableAtLast
  have third : last = 2 := by
    apply Nat.le_antisymm
    · exact Nat.le_of_not_lt fun later => first 2 later unavailable
    · exact Nat.le_of_not_lt fun earlier => goesOn last earlier settles
  subst third
  exact ⟨counted, ran, (late 3 (by decide)).2.1⟩

end RetryLoop

end LiveJobs
