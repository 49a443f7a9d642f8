import Mathlib.Algebra.Group.Nat.Defs
import LiveJobs.Proofs.Numerals
import LiveJobs.Proofs.PageRequests
import LiveJobs.Settings.Basic

/-!
# Accepted settings

Which variables make settings, and what the settings are good for. Each variable is looked at by
itself, so settings are made unless the tenant or one of the numbers is at fault. The settings then
have an address, a token and a page size that requests can be made with. The rhythm of the page poll
is taken as it is given, zero included; without a rhythm that poll stops at its first turn.
-/

namespace LiveJobs

open LiveJobs.Text

namespace Settings

variable {setting : Variables} {name : String} {value limit : Nat}

/-! ## Variables -/

/-- Whether a variable holds a number, with blanks around it or without. -/
def Holds (setting : Variables) (name : String) (value : Nat) : Prop :=
  ∃ text, setting name = some text ∧ Denotes (trimChars text.toList) value

/-- Whether a variable is set and does not hold a number below a limit. -/
def Malformed (setting : Variables) (name : String) (limit : Nat) : Prop :=
  ∃ text, setting name = some text ∧
    ∀ value < limit, ¬Denotes (trimChars text.toList) value

/-- What a number variable gives: nothing if it is not set, and a number of 64 bits otherwise. -/
def Gives (setting : Variables) (name : String) : Option Nat → Prop
  | none => setting name = none
  | some value => Holds setting name value ∧ value < 2 ^ 64

/-- Whether the tenant is missing or malformed. -/
def LacksTenant (setting : Variables) : Prop :=
  setting "JOBSYNC_TENANT_ID" = none ∨
    ∃ text error, setting "JOBSYNC_TENANT_ID" = some text ∧ TenantId.read (trim text) = .error error

theorem Holds.unique {other : Nat} (holds : Holds setting name value)
    (holdsToo : Holds setting name other) : value = other := by
  obtain ⟨text, isSet, denoted⟩ := holds
  obtain ⟨same, isSetToo, denotedToo⟩ := holdsToo
  cases isSet.symm.trans isSetToo
  exact denoted.unique denotedToo

theorem Holds.not_malformed (holds : Holds setting name value) (below : value < limit) :
    ¬Malformed setting name limit := by
  rintro ⟨text, isSet, none⟩
  obtain ⟨same, isSetToo, denoted⟩ := holds
  cases isSet.symm.trans isSetToo
  exact none value below denoted

theorem Holds.malformed (holds : Holds setting name value) (above : limit ≤ value) :
    Malformed setting name limit := by
  obtain ⟨text, isSet, denoted⟩ := holds
  refine ⟨text, isSet, fun other below denotedToo => ?_⟩
  rw [denotedToo.unique denoted] at below
  exact Nat.not_lt_of_le above below

theorem Malformed.ne_none (malformed : Malformed setting name limit) : setting name ≠ none := by
  obtain ⟨text, isSet, -⟩ := malformed
  rw [isSet]
  exact Option.some_ne_none text

theorem Malformed.mono {lower : Nat} (malformed : Malformed setting name limit)
    (le : lower ≤ limit) : Malformed setting name lower := by
  obtain ⟨text, isSet, none⟩ := malformed
  exact ⟨text, isSet, fun value below => none value (Nat.lt_of_lt_of_le below le)⟩

theorem Gives.not_malformed {given : Option Nat} (gives : Gives setting name given) :
    ¬Malformed setting name (2 ^ 64) := by
  cases given with
  | none => exact fun malformed => malformed.ne_none gives
  | some value => exact gives.1.not_malformed gives.2

theorem Gives.getD_eq_zero_iff {given : Option Nat} (gives : Gives setting name given)
    {standard : Nat} (positive : 0 < standard) :
    given.getD standard = 0 ↔ Holds setting name 0 := by
  cases given with
  | none =>
      refine iff_of_false (Nat.ne_of_gt positive) ?_
      rintro ⟨text, isSet, -⟩
      exact Option.some_ne_none text (isSet.symm.trans gives)
  | some value =>
      constructor
      · rintro rfl
        exact gives.1
      · exact fun zero => gives.1.unique zero

/-- A number variable is read if it gives anything, and refused if it is malformed. -/
theorem number?_cases (setting : Variables) (name : String) :
    (∃ given, Gives setting name given ∧ number? setting name = .ok given) ∨
      (Malformed setting name (2 ^ 64) ∧ ∃ error, number? setting name = .error error) := by
  rw [number?]
  cases isSet : setting name with
  | none => exact .inl ⟨none, isSet, rfl⟩
  | some text =>
      dsimp only
      cases read : readUnsigned maxWord64 (trimChars text.toList) with
      | ok value =>
          obtain ⟨denoted, within⟩ := readUnsigned_eq_ok_iff.1 read
          exact .inl ⟨some value, ⟨⟨text, isSet, denoted⟩, Nat.lt_succ_of_le within⟩, rfl⟩
      | error fault =>
          have none := exists_readUnsigned_eq_error_iff.1 ⟨fault, read⟩
          refine .inr ⟨⟨text, isSet, fun value below => ?_⟩, _, rfl⟩
          exact none value (Nat.le_of_lt_succ below)

theorem tenantOf_cases (setting : Variables) :
    (¬LacksTenant setting ∧ ∃ tenant, tenantOf setting = .ok tenant) ∨
      (LacksTenant setting ∧ ∃ error, tenantOf setting = .error error) := by
  rw [tenantOf, LacksTenant]
  cases setting "JOBSYNC_TENANT_ID" with
  | none => exact .inr ⟨.inl rfl, _, rfl⟩
  | some text =>
      dsimp only
      cases read : TenantId.read (trim text) with
      | ok tenant => exact .inl ⟨by simp [read], tenant, rfl⟩
      | error error => exact .inr ⟨.inr ⟨text, error, rfl, read⟩, _, rfl⟩

/-! ## What the variables make -/

/-- Whether no settings can be made. -/
def Faulty (setting : Variables) : Prop :=
  LacksTenant setting ∨ Malformed setting "JOBSYNC_RECONNECT_MS" (2 ^ 64) ∨
    Malformed setting "JOBSYNC_BULK_POLL_MS" (2 ^ 64) ∨
    Malformed setting "JOBSYNC_PAGE_SIZE" (2 ^ 32)

/-- What settings take from variables. -/
structure Describes (setting : Variables) (settings : Settings) : Prop where
  baseUrl : settings.baseUrl =
    withoutTrailingSlashes ((setting "JOBSYNC_API_URL").getD defaultAddress)
  tenant : tenantOf setting = .ok settings.tenant
  token : settings.token = (setting "JOBSYNC_AUTH_TOKEN").filter fun token => !token.isEmpty
  reconnect : ∃ given, Gives setting "JOBSYNC_RECONNECT_MS" given ∧
    settings.reconnect = .reconnect (given.getD 1000)
  bulkInterval : ∃ given, Gives setting "JOBSYNC_BULK_POLL_MS" given ∧
    settings.bulkInterval = given.getD 5000
  pageSize : ∃ given, Gives setting "JOBSYNC_PAGE_SIZE" given ∧
    given.getD 20 < 2 ^ 32 ∧ settings.pageSize = max (given.getD 20) 1

/-- Variables without a fault describe the settings that are made; no others are made. -/
theorem ofVariables_cases (setting : Variables) :
    (¬Faulty setting ∧ ∃ settings, ofVariables setting = .ok settings ∧
      Describes setting settings) ∨
    (Faulty setting ∧ ∃ error, ofVariables setting = .error error) := by
  rw [ofVariables]
  simp only [bind, Except.bind, pure, Except.pure]
  rcases tenantOf_cases setting with ⟨named, tenant, tenantRead⟩ | ⟨lacking, error, refused⟩
  case inr => exact .inr ⟨.inl lacking, error, by rw [refused]⟩
  rcases number?_cases setting "JOBSYNC_RECONNECT_MS" with
    ⟨delay, givesDelay, delayRead⟩ | ⟨malformed, error, refused⟩
  case inr => exact .inr ⟨.inr (.inl malformed), error, by rw [tenantRead, refused]⟩
  rcases number?_cases setting "JOBSYNC_BULK_POLL_MS" with
    ⟨interval, givesInterval, intervalRead⟩ | ⟨malformed, error, refused⟩
  case inr =>
    exact .inr ⟨.inr (.inr (.inl malformed)), error, by rw [tenantRead, delayRead, refused]⟩
  rcases number?_cases setting "JOBSYNC_PAGE_SIZE" with
    ⟨size, givesSize, sizeRead⟩ | ⟨malformed, error, refused⟩
  case inr =>
    refine .inr ⟨.inr (.inr (.inr (malformed.mono (by decide)))), error, ?_⟩
    rw [tenantRead, delayRead, intervalRead, refused]
  rw [tenantRead, delayRead, intervalRead, sizeRead]
  have delayed : (delay.map RetryPolicy.reconnect).getD (.reconnect 1000) =
      .reconnect (delay.getD 1000) := by
    cases delay with
    | none => rfl
    | some delay => rfl
  -- With the size in order nothing is at fault.
  have flawless (sized : ¬Malformed setting "JOBSYNC_PAGE_SIZE" (2 ^ 32)) : ¬Faulty setting := by
    rintro (lacking | malformed | malformed | malformed)
    · exact named lacking
    · exact givesDelay.not_malformed malformed
    · exact givesInterval.not_malformed malformed
    · exact sized malformed
  cases size with
  | none =>
      refine .inl ⟨flawless fun malformed => malformed.ne_none givesSize, _, rfl, ?_⟩
      exact ⟨rfl, tenantRead, rfl, ⟨delay, givesDelay, delayed⟩, ⟨interval, givesInterval, rfl⟩,
        ⟨none, givesSize, by decide, rfl⟩⟩
  | some size =>
      dsimp only
      by_cases within : size ≤ maxWord32
      · have below : size < 2 ^ 32 := Nat.lt_succ_of_le within
        rw [show pageSizeOf size = .ok (max size 1) from if_pos within]
        refine .inl ⟨flawless (givesSize.1.not_malformed below), _, rfl, ?_⟩
        exact ⟨rfl, tenantRead, rfl, ⟨delay, givesDelay, delayed⟩, ⟨interval, givesInterval, rfl⟩,
          ⟨some size, givesSize, below, rfl⟩⟩
      · have above : 2 ^ 32 ≤ size := Nat.lt_of_not_le within
        rw [show pageSizeOf size = .error .pageSizeOutOfRange from if_neg within]
        exact .inr ⟨.inr (.inr (.inr (givesSize.1.malformed above))), _, rfl⟩

theorem getLast?_withoutTrailingSlashes (address : String) :
    (withoutTrailingSlashes address).toList.getLast? ≠ some '/' := by
  rw [withoutTrailingSlashes, String.toList_ofList, List.getLast?_reverse]
  intro slash
  have kept := List.head?_dropWhile_not (fun c => decide (c = '/')) address.toList.reverse
  rw [slash] at kept
  simp at kept

end Settings

/-! ## The rhythm of the page poll -/

/-- A page poll stops at its first turn exactly if it has no rhythm. With one it asks for the page,
or waits for a mount. -/
theorem BulkPoll.stops_at_once_iff (interval mounts : Nat) (query : Query) (first : Precedence)
    (now moment : Nat) (store : Store) :
    ((start interval mounts query now).turn first moment store).1.phase = .stopped ↔
      interval = 0 := by
  by_cases still : interval = 0
  · subst still
    exact iff_of_true rfl rfl
  · refine iff_of_false ?_ still
    rw [turn_of_starting rfl still]
    cases mounted : (start interval mounts query now).isMounted with
    | true =>
        rw [resume_of_mounted (by exact mounted),
          watch_of_due ⟨rfl, rfl⟩ (by exact mounted) rfl (by simp)]
        exact nofun
    | false =>
        rw [resume_of_unmounted ⟨rfl, rfl⟩ (by exact mounted)]
        exact nofun

namespace Settings

/-- Settings are made of variables unless one of them is at fault: the tenant is missing or
malformed, or a number that is set is no numeral within its limit. What is made can be used for
requests: the address does not end in a slash, there is no empty token, and pages have a size of
32 bits that is not zero. The page poll can be started as well, unless the variable for its rhythm
holds a zero: that is taken as it is, and the poll stops at its first turn. -/
theorem accepted_settings_can_be_used (setting : Variables) :
    ((∃ error, ofVariables setting = .error error) ↔ Faulty setting) ∧
    ∀ settings, ofVariables setting = .ok settings →
      Describes setting settings ∧
      1 ≤ settings.pageSize ∧ settings.pageSize < 2 ^ 32 ∧
      settings.baseUrl.toList.getLast? ≠ some '/' ∧
      settings.token ≠ some "" ∧
      ∀ mounts query first now moment store,
        ((BulkPoll.start settings.bulkInterval mounts query now).turn first moment store).1.phase =
          .stopped ↔ Holds setting "JOBSYNC_BULK_POLL_MS" 0 := by
  rcases ofVariables_cases setting with
    ⟨flawless, made, accepted, describes⟩ | ⟨faulty, error, refused⟩
  · rw [accepted]
    refine ⟨iff_of_false (by simp) flawless, ?_⟩
    rintro settings ⟨⟩
    obtain ⟨size, -, below, sized⟩ := describes.pageSize
    obtain ⟨interval, givesInterval, paced⟩ := describes.bulkInterval
    refine ⟨describes, ?positive, ?bounded, ?unslashed, ?filled, ?rhythm⟩
    case positive =>
      rw [sized]
      exact Nat.le_max_right _ _
    case bounded =>
      rw [sized]
      exact Nat.max_lt.2 ⟨below, by decide⟩
    case unslashed =>
      rw [describes.baseUrl]
      exact getLast?_withoutTrailingSlashes _
    case filled =>
      rw [describes.token]
      intro empty
      cases (Option.filter_eq_some_iff.1 empty).2
    case rhythm =>
      intro mounts query first now moment store
      rw [BulkPoll.stops_at_once_iff, paced]
      exact givesInterval.getD_eq_zero_iff (by decide)
  · rw [refused]
    refine ⟨iff_of_true ⟨error, rfl⟩ faulty, ?_⟩
    rintro settings ⟨⟩

/-- Variables that name a tenant and set the rhythm of the page poll. -/
def pacedAt (interval : String) : Variables := fun name =>
  if name = "JOBSYNC_TENANT_ID" then some "0192f0c1-2a3b-7c4d-8e5f-0123456789ab"
  else if name = "JOBSYNC_BULK_POLL_MS" then some interval
  else none

theorem hurried_settings_can_be_used :
    ∃ settings, ofVariables (pacedAt " +250\n") = .ok settings ∧ settings.bulkInterval = 250 ∧
      settings.pageSize < 2 ^ 32 ∧
      ((BulkPoll.start settings.bulkInterval 0 .standard 0).turn .query 0 (.initial 0)).1.phase ≠
        .stopped := by
  have paced : Holds (pacedAt " +250\n") "JOBSYNC_BULK_POLL_MS" 250 :=
    ⟨" +250\n", rfl, ['2', '5', '0'], .inr rfl, by decide, by simp, rfl⟩
  obtain ⟨-, -, below, -, -, rhythm⟩ :=
    (accepted_settings_can_be_used (pacedAt " +250\n")).2 _ rfl
  refine ⟨_, rfl, rfl, below, fun stopped => ?_⟩
  exact absurd (paced.unique ((rhythm 0 .standard .query 0 0 (.initial 0)).1 stopped)) (by decide)

/-- A rhythm of zero is accepted, and the page poll stops at its first turn. -/
theorem zero_rhythm_is_accepted :
    ∃ settings, ofVariables (pacedAt "0") = .ok settings ∧ settings.bulkInterval = 0 ∧
      ((BulkPoll.start settings.bulkInterval 0 .standard 0).turn .query 0 (.initial 0)).1.phase =
        .stopped :=
  ⟨_, rfl, rfl, rfl⟩

end Settings

end LiveJobs
