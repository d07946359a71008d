import Axionvera.Http.Retry
import Mathlib.Order.Bounds.Basic

/-! The law of `retry` for a sequence of outcomes: how often the function is called, what comes of
it and how long the waits are. A base delay of zero makes a wait that is no number when the power
of two becomes infinite.
-/

namespace Axionvera.Http

open Axionvera.Errors
open Axionvera.Foundation (JsNumber)

variable {τ : Type*} {config : RetryConfig} {outcomes : Nat → Except Thrown τ}

/-- A function whose calls have the outcomes in turn. It counts its calls. -/
def calling (outcomes : Nat → Except Thrown τ) (calls : Nat) : Except Thrown τ × Nat :=
  (outcomes calls, calls + 1)

/-- The number of retries that are left at first. -/
def RetryConfig.limit (config : RetryConfig) : Nat :=
  if config.enabled then config.maxRetries else 0

/-- The outcome is a success or a failure that is not retried. -/
def isFinal (config : RetryConfig) : Except Thrown τ → Bool
  | .ok _ => true
  | .error thrown => !isRetryableError thrown config

/-- The outcome at a place, counted from zero, is the last one: it is final, or no retry is left. -/
def Decides (config : RetryConfig) (outcomes : Nat → Except Thrown τ) (place : Nat) : Prop :=
  isFinal config (outcomes place) = true ∨ place = config.limit

/-- The wait behind the outcome at a place. -/
def waitAfter (config : RetryConfig) (place : Nat) : JsNumber :=
  calculateDelay (place + 1) config.baseDelayMs config.maxDelayMs

/-- (Normalises thrown error) says that an error of the SDK is passed through, and that a new error
keeps the status code and the value that was thrown.
-/
def Normalises (thrown : Thrown) (error : AxionveraError) : Prop :=
  match thrown with
  | .axionvera original => error = original
  | thrown => error.statusCode = getErrorStatusCode thrown ∧ error.originalError = thrown

/-- (FollowsRetryLaw config outcomes last result) says of a call of `retry` whose last outcome is at
a place what its calls, its result and its waits are. Outcomes behind the last one have no part in
it, so that the sequence may as well end there.
-/
structure FollowsRetryLaw (config : RetryConfig) (outcomes : Nat → Except Thrown τ) (last : Nat)
    (result : RetryResult Nat τ) : Prop where
  calls : result.world = last + 1
  resolved : ∀ value, outcomes last = .ok value → result.outcome = .ok value
  rejected
    : ∀ thrown,
        outcomes last = .error thrown
        → ∃ error, result.outcome = .error error ∧ Normalises thrown error
  waitCount : result.waits.length = last
  ordered : result.waits.Pairwise JsNumber.le
  first : ∀ wait ∈ result.waits.head?, wait = config.baseDelayMs.min config.maxDelayMs
  bounded : ∀ wait ∈ result.waits, wait.le config.maxDelayMs
  determined
    : ∀ others,
        (∀ place ≤ last, others place = outcomes place)
        → retry config (calling others) 0 = result

/-- The normalisation of thrown values is one. -/
theorem normalises_toAxionveraError (thrown : Thrown)
    : Normalises thrown (toAxionveraError thrown) := by
  cases thrown with
  | axionvera error => rfl
  | undefined | value => exact ⟨rfl, rfl⟩

-----------------------------------------------------------------------------------------
-- The result

/-- The result of a call whose outcomes before the last one are retried, by induction on the retries
that are left.
-/
theorem retryFrom_eq {left calls last : Nat} (isBehind : calls ≤ last)
    (isWithin : last ≤ calls + left)
    (areRetried : ∀ place, calls ≤ place → place < last → isFinal config (outcomes place) = false)
    (isLast : isFinal config (outcomes last) = true ∨ last = calls + left)
    : retryFrom config (calling outcomes) left (calls + 1) calls
      = ⟨(outcomes last).mapError toAxionveraError, last + 1,
          (List.range' calls (last - calls)).map (waitAfter config)⟩ := by
  induction left generalizing calls with
  | zero =>
      obtain rfl : calls = last := by omega
      rw [Nat.sub_self, retryFrom, calling]
      cases outcomes calls <;> rfl
  | succ left ih =>
      rcases isBehind.eq_or_lt with rfl | isBefore
      · have notBehind : ¬ calls = calls + (left + 1) := by omega
        have isFinalOutcome := isLast.resolve_right notBehind
        rw [Nat.sub_self, retryFrom, calling]
        cases outcome : outcomes calls with
        | ok value => rfl
        | error thrown =>
            rw [outcome] at isFinalOutcome
            have notRetried : ¬ isRetryableError thrown config = true := by
              simpa [isFinal] using isFinalOutcome
            simp only [if_neg notRetried]
            rfl
      · have isRetried := areRetried calls (Nat.le_refl calls) isBefore
        cases outcome : outcomes calls with
        | ok value =>
            rw [outcome] at isRetried
            cases isRetried
        | error thrown =>
            have retryable : isRetryableError thrown config = true := by
              rw [outcome] at isRetried
              simpa [isFinal] using isRetried
            have later := @ih (calls + 1) isBefore (by omega)
              (fun place isAfter => areRetried place (by omega)) (isLast.imp_right (by omega))
            have split : last - calls = (last - (calls + 1)) + 1 := by omega
            simp only [retryFrom, calling, outcome, if_pos retryable]
            rw [later, split, List.range'_succ, List.map_cons]
            rfl

/-- The result of `retry` for a sequence with its last outcome at a place. -/
theorem retry_eq {last : Nat} (isLast : IsLeast { place | Decides config outcomes place } last)
    : retry config (calling outcomes) 0
      = ⟨(outcomes last).mapError toAxionveraError, last + 1,
          (List.range last).map (waitAfter config)⟩ := by
  obtain ⟨decides, isLeast⟩ := isLast
  have isWithin : last ≤ config.limit := isLeast (.inr rfl)
  have areRetried (place : Nat) (isBefore : place < last)
      : isFinal config (outcomes place) = false := by
    by_contra notRetried
    have isBehind := isLeast (.inl (Bool.eq_true_of_not_eq_false notRetried))
    omega
  have limited
      : retry config (calling outcomes) 0
        = retryFrom config (calling outcomes) config.limit 1 0 := by
    rw [retry, RetryConfig.limit]
    split <;> rfl
  rw [limited, List.range_eq_range']
  exact retryFrom_eq (Nat.zero_le last) (by omega) (fun place _ => areRetried place)
    (decides.imp_right (by omega))

/-- There is a wait behind every outcome but the last one. -/
theorem waitAfter_mem_waits {last place : Nat}
    (isLast : IsLeast { place | Decides config outcomes place } last) (isBefore : place < last)
    : waitAfter config place ∈ (retry config (calling outcomes) 0).waits := by
  rw [retry_eq isLast]
  exact List.mem_map_of_mem (List.mem_range.mpr isBefore)

/-- There is a last outcome. -/
theorem exists_last (config : RetryConfig) (outcomes : Nat → Except Thrown τ)
    : ∃ last, IsLeast { place | Decides config outcomes place } last := by
  classical
  have exists_decides : ∃ place, Decides config outcomes place := ⟨config.limit, .inr rfl⟩
  exact ⟨Nat.find exists_decides, Nat.find_spec exists_decides,
    fun place decides => Nat.find_min' exists_decides decides⟩

-----------------------------------------------------------------------------------------
-- The waits

/-- The delays of a configuration are numbers that are not negative. -/
structure RetryConfig.HasDelays (config : RetryConfig) : Prop where
  base : config.baseDelayMs.isAtLeast 0 = true
  inRange : config.baseDelayMs.IsInRange
  max : config.maxDelayMs.isAtLeast 0 = true

/-- The wait behind an outcome, without the detour over the number of the attempt. -/
theorem waitAfter_eq (config : RetryConfig) (place : Nat)
    : waitAfter config place
      = (config.baseDelayMs.mul (.powTwo place)).min config.maxDelayMs :=
  rfl

/-- The first wait is the base delay, if it is not too long. -/
theorem waitAfter_zero (delays : config.HasDelays)
    : waitAfter config 0 = config.baseDelayMs.min config.maxDelayMs := by
  rw [waitAfter_eq, JsNumber.mul_powTwo_zero delays.inRange]

/-- Waits grow until the power of two is infinite, and after that unless the base delay is zero. -/
theorem waitAfter_le (delays : config.HasDelays) {small great : Nat} (le : small ≤ great)
    (isNumber : config.baseDelayMs ≠ .finite 0 ∨ great < 1024)
    : (waitAfter config small).le (waitAfter config great) := by
  rw [waitAfter_eq, waitAfter_eq]
  exact JsNumber.min_le_min_right (JsNumber.ne_nan_of_isAtLeast delays.max)
    (JsNumber.mul_powTwo_le delays.base le isNumber)

/-- Such a wait is no longer than the longest delay. -/
theorem waitAfter_le_max (delays : config.HasDelays) {place : Nat}
    (isNumber : config.baseDelayMs ≠ .finite 0 ∨ place < 1024)
    : (waitAfter config place).le config.maxDelayMs := by
  have grows := JsNumber.mul_powTwo_le delays.base (Nat.le_refl place) isNumber
  have notNan : config.baseDelayMs.mul (.powTwo place) ≠ .nan := by
    intro isNan
    rw [isNan] at grows
    exact grows
  rw [waitAfter_eq]
  exact JsNumber.min_le_right notNan (JsNumber.ne_nan_of_isAtLeast delays.max)

/-- A wait with a base delay of zero and an infinite power of two is no number. -/
theorem waitAfter_eq_nan (isZero : config.baseDelayMs = .finite 0) {place : Nat}
    (isAbove : 1024 ≤ place)
    : waitAfter config place = .nan := by
  rw [waitAfter_eq, isZero, JsNumber.zero_mul_powTwo, if_neg (not_lt.mpr isAbove)]
  exact if_pos (.inl rfl)

-----------------------------------------------------------------------------------------
-- The law

/-- The base delay is not zero, or an outcome before the 1026th is the last one. -/
def HasSmallPowers (config : RetryConfig) (outcomes : Nat → Except Thrown τ) : Prop :=
  config.baseDelayMs ≠ .finite 0 ∨ ∃ place ≤ 1024, Decides config outcomes place

/-- Without infinite powers of two, the result of `retry` follows the law. -/
theorem followsRetryLaw (delays : config.HasDelays) (small : HasSmallPowers config outcomes)
    {last : Nat} (isLast : IsLeast { place | Decides config outcomes place } last)
    : FollowsRetryLaw config outcomes last (retry config (calling outcomes) 0) := by
  have isNumber (place : Nat) (isBefore : place < last)
      : config.baseDelayMs ≠ .finite 0 ∨ place < 1024 := by
    refine small.imp_right fun ⟨found, isSmall, decides⟩ => ?_
    have isBehind := isLast.2 decides
    omega
  rw [retry_eq isLast]
  refine ⟨rfl, fun value isValue => ?_, fun thrown isThrown => ?_, ?_, ?_, fun wait isFirst => ?_,
    fun wait isWait => ?_, fun others same => ?_⟩
  · rw [isValue]
    rfl
  · refine ⟨toAxionveraError thrown, ?_, normalises_toAxionveraError thrown⟩
    rw [isThrown]
    rfl
  · rw [List.length_map, List.length_range]
  · refine List.pairwise_map.mpr (List.pairwise_lt_range.imp_of_mem fun _ isGreat less => ?_)
    exact waitAfter_le delays less.le (isNumber _ (List.mem_range.mp isGreat))
  · cases last with
    | zero => cases isFirst
    | succ last =>
        rw [List.range_succ_eq_map] at isFirst
        obtain rfl := Option.some.inj isFirst
        exact waitAfter_zero delays
  · obtain ⟨place, isPlace, rfl⟩ := List.mem_map.mp isWait
    exact waitAfter_le_max delays (isNumber place (List.mem_range.mp isPlace))
  · have alsoLast : IsLeast { place | Decides config others place } last := by
      refine ⟨?_, fun place decides => ?_⟩
      · have decides := isLast.1
        rwa [Set.mem_ofPred_eq, Decides, ← same last (Nat.le_refl last)] at decides
      · by_contra isBefore
        have isBefore := Nat.lt_of_not_le isBefore
        rw [Set.mem_ofPred_eq, Decides, same place isBefore.le] at decides
        exact absurd (isLast.2 decides) (not_le.mpr isBefore)
    rw [retry_eq alsoLast, same last (Nat.le_refl last)]

/-- For every configuration with delays that are not negative and every sequence of outcomes, the
calls, the result and the waits of `retry` follow the law, with the least place that decides as the
last one, exactly if the base delay is not zero or the last outcome comes early enough.
-/
theorem retry_follows_law_iff (config : RetryConfig) (delays : config.HasDelays)
    (outcomes : Nat → Except Thrown τ)
    : (∃ last,
          IsLeast { place | Decides config outcomes place } last
          ∧ FollowsRetryLaw config outcomes last (retry config (calling outcomes) 0))
      ↔ HasSmallPowers config outcomes := by
  constructor
  · rintro ⟨last, isLast, follows⟩
    by_contra notSmall
    obtain ⟨isZero, noPlace⟩ := not_or.mp notSmall
    have isLate : 1024 < last := by
      by_contra isEarly
      exact noPlace ⟨last, Nat.le_of_not_lt isEarly, isLast.1⟩
    have bounded := follows.bounded _ (waitAfter_mem_waits isLast isLate)
    rw [waitAfter_eq_nan (not_not.mp isZero) (Nat.le_refl 1024)] at bounded
    exact bounded
  · intro small
    obtain ⟨last, isLast⟩ := exists_last config outcomes
    exact ⟨last, isLast, followsRetryLaw delays small isLast⟩

/-- A server that is not available. -/
def unavailable : Thrown :=
  .value { status := some 503 }

/-- A server that is not available for some calls, and then answers. -/
def recovering (failures place : Nat) : Except Thrown Bool :=
  if place < failures then .error unavailable else .ok true

/-- The default configuration with five retries. -/
def patientRetryConfig : RetryConfig :=
  { defaultRetryConfig with maxRetries := 5 }

/-- The default waits double until they reach the longest delay. -/
theorem waitAfter_patient {place : Nat} (small : place < 1014)
    : waitAfter patientRetryConfig place
      = .finite (if 1000 * 2 ^ place < (8000 : ℚ) then 1000 * 2 ^ place else 8000) := by
  have inRange : (1000 : ℚ) * 2 ^ place < 2 ^ 1024 :=
    calc
      (1000 : ℚ) * 2 ^ place < 2 ^ 10 * 2 ^ place :=
        mul_lt_mul_of_pos_right (by norm_num) (by positivity)
      _ = 2 ^ (10 + place) := (pow_add 2 10 place).symm
      _ ≤ 2 ^ 1024 := pow_le_pow_right₀ one_le_two (by omega)
  have isFinite : place < 1024 ∧ (1000 : ℚ) * 2 ^ place < 2 ^ 1024 := ⟨by omega, inRange⟩
  calc
    waitAfter patientRetryConfig place
      = ((JsNumber.finite 1000).mul (.powTwo place)).min (.finite 8000) := rfl
    _ = (JsNumber.finite (1000 * 2 ^ place)).min (.finite 8000) := by
      rw [JsNumber.finite_mul_powTwo (by norm_num), if_pos isFinite]
    _ = _ := JsNumber.min_finite _ _

/-- With five retries, a server that is not available for five calls is called six times, with
waits of 1, 2, 4, 8 and 8 seconds.
-/
theorem retry_follows_law_fiveRetries
    : (∃ last,
          IsLeast { place | Decides patientRetryConfig (recovering 5) place } last
          ∧ FollowsRetryLaw patientRetryConfig (recovering 5) last
            (retry patientRetryConfig (calling (recovering 5)) 0))
      ∧ retry patientRetryConfig (calling (recovering 5)) 0
        = ⟨.ok true, 6,
            [.finite 1000, .finite 2000, .finite 4000, .finite 8000, .finite 8000]⟩ := by
  have inRange : (JsNumber.finite 1000).IsInRange := by
    have isBelow : (2 : ℚ) ^ 10 ≤ 2 ^ 1024 := pow_le_pow_right₀ one_le_two (by decide)
    rw [JsNumber.IsInRange]
    exact lt_of_lt_of_le (by norm_num) isBelow
  have waits
      : retry patientRetryConfig (calling (recovering 5)) 0
        = ⟨.ok true, 6, (List.range 5).map (waitAfter patientRetryConfig)⟩ := rfl
  refine ⟨?law, ?result⟩
  case law =>
    exact (retry_follows_law_iff patientRetryConfig ⟨by decide, inRange, by decide⟩ _).mpr
      (.inr ⟨5, by decide, .inl rfl⟩)
  case result =>
    rw [waits]
    simp only [List.range_succ, List.range_zero, List.nil_append, List.cons_append,
      List.map_cons, List.map_nil]
    simp (disch := decide) only [waitAfter_patient]
    norm_num

/-- The default configuration without a base delay and with 1025 retries. -/
def hastyRetryConfig : RetryConfig :=
  { defaultRetryConfig with maxRetries := 1025, baseDelayMs := .finite 0 }

/-- Without a base delay, the 1025th wait is the product of zero and an infinite power of two. -/
theorem hasty_retry_breaks_law
    : ¬ ∀ config : RetryConfig,
          config.HasDelays
          → ∀ outcomes : Nat → Except Thrown Bool,
              ∃ last,
                IsLeast { place | Decides config outcomes place } last
                ∧ FollowsRetryLaw config outcomes last (retry config (calling outcomes) 0) := by
  intro always
  have inRange : (JsNumber.finite 0).IsInRange := by
    rw [JsNumber.IsInRange]
    norm_num
  obtain ⟨last, isLast, follows⟩ :=
    always hastyRetryConfig ⟨by decide, inRange, by decide⟩ fun _ => .error unavailable
  have isLate : 1024 < last := by
    rcases isLast.1 with isFinalOutcome | isLimit
    · have isRetried
          : isFinal hastyRetryConfig (.error unavailable : Except Thrown Bool) = false := by
        decide
      rw [isRetried] at isFinalOutcome
      cases isFinalOutcome
    · rw [isLimit]
      decide
  have isNan : waitAfter hastyRetryConfig 1024 = .nan := waitAfter_eq_nan rfl (Nat.le_refl 1024)
  have isWait := waitAfter_mem_waits isLast isLate
  rw [isNan] at isWait
  exact follows.bounded .nan isWait

end Axionvera.Http
