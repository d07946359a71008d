import Axionvera.Foundation.StableSort
import Axionvera.Profiling.ProfilingService
import Mathlib.Order.WithBot

/-! The report of the profiler (`generateReport`): its percentile is the one by the nearest rank,
for as many calls as a list can have, although 95 % is no number.
-/

namespace Axionvera.Profiling

open Axionvera.Foundation

variable {ω ρ : Type}

/-- The statistics of the calls of a type. -/
structure TypeStatistics where
  count : Nat
  averageDurationMs : JsNumber
  maxDurationMs : JsNumber

/-- `ProfilingReport`. -/
structure ProfilingReport (ω : Type) where
  generatedAt : String
  enabled : Bool
  level : ProfilingLevel
  totalCalls : Nat
  successfulCalls : Nat
  failedCalls : Nat
  averageDurationMs : JsNumber
  p95DurationMs : Option JsNumber
  slowestCall : Option (ProfiledCallMetric ω)
  byType : InsertionMap CallType TypeStatistics
  calls : List (ProfiledCallMetric ω)

/-- The literal `0.95`. -/
def ninetyFivePercent : JsNumber := nearestNumber (95 / 100)

/-- `p95Index`. -/
def p95Index (count : Nat) : Int :=
  if count = 0 then -1
  else
    match ((JsNumber.finite count).roundedMul ninetyFivePercent).ceil with
    | .finite rank => ⌊rank⌋ - 1
    | _ => -1

/-- The sorted durations. Rounding a difference does not change its sign. -/
def sortedDurations (durations : List JsNumber) : List JsNumber :=
  durations.mergeSort (fun left right => !(left.sub right).isAbove 0)

/-- The bucket of a type with one more call. -/
def TypeStatistics.add (bucket : TypeStatistics) (durationMs : JsNumber) : TypeStatistics :=
  {
    count := bucket.count + 1
    averageDurationMs := bucket.averageDurationMs.roundedAdd durationMs
    maxDurationMs := bucket.maxDurationMs.max durationMs
  }

/-- The buckets after one more call. -/
def addCall (byType : InsertionMap CallType TypeStatistics) (call : ProfiledCallMetric ω)
    : InsertionMap CallType TypeStatistics :=
  byType.set call.type
    (((byType.get call.type).getD ⟨0, .finite 0, .finite 0⟩).add call.durationMs)

/-- The bucket with the average in place of the sum. -/
def TypeStatistics.averaged (bucket : TypeStatistics) : TypeStatistics :=
  { bucket with
    averageDurationMs :=
      if bucket.count = 0 then .finite 0 else bucket.averageDurationMs.dividedBy bucket.count }

/-- The buckets with averages in place of sums. -/
def averages (byType : InsertionMap CallType TypeStatistics)
    : InsertionMap CallType TypeStatistics :=
  {
    entries := byType.entries.map (fun entry => (entry.1, entry.2.averaged))
    unique := by
      rw [List.map_map]
      exact byType.unique
  }

/-- The slower one of a call and the slowest so far. -/
def slower (slowest : Option (ProfiledCallMetric ω)) (call : ProfiledCallMetric ω)
    : Option (ProfiledCallMetric ω) :=
  match slowest with
  | none => some call
  | some slowest => if slowest.durationMs.lt call.durationMs then some call else some slowest

/-- `generateReport`. -/
def ProfilingService.generateReport (service : ProfilingService ω) (date : String)
    : ProfilingReport ω :=
  let calls := service.metrics
  let durations := sortedDurations (calls.map ProfiledCallMetric.durationMs)
  let totalDuration := durations.foldl JsNumber.roundedAdd (.finite 0)
  let p95Index := p95Index durations.length
  {
    generatedAt := date
    enabled := service.isEnabled
    level := service.level
    totalCalls := calls.length
    successfulCalls := (calls.filter ProfiledCallMetric.success).length
    failedCalls := (calls.filter (fun call => !call.success)).length
    averageDurationMs :=
      if calls.length = 0 then .finite 0 else totalDuration.dividedBy calls.length
    p95DurationMs := if p95Index < 0 then some (.finite 0) else durations[p95Index.toNat]?
    slowestCall := calls.foldl slower none
    byType := averages (calls.foldl addCall .empty)
    calls := calls
  }

-----------------------------------------------------------------------------------------
-- The rank of the percentile
-----------------------------------------------------------------------------------------

/-- The literal is a little less than 95 %. -/
theorem ninetyFivePercent_eq : ninetyFivePercent = .finite (8556839292003942 / 2 ^ 53) := by
  decide +kernel

/-- The product with the literal is rounded to something between the rank before and the rank
itself: the error is smaller than the distance of a twentieth from the rank before.
-/
theorem nearestMultiple_rank {count rank : Nat} (small : count < 2 ^ 32)
    (enough : 19 * count ≤ 20 * rank) (least : 20 * rank < 19 * count + 20)
    : (rank : ℚ) - 1 < nearestMultiple (count * (8556839292003942 / 2 ^ 53))
      ∧ nearestMultiple (count * (8556839292003942 / 2 ^ 53)) ≤ rank := by
  have nonneg : (0 : ℚ) ≤ count * (8556839292003942 / 2 ^ 53) := by positivity
  have castSmall : (count : ℚ) < 2 ^ 32 := by exact_mod_cast small
  have castEnough : 19 * (count : ℚ) ≤ 20 * rank := by exact_mod_cast enough
  have castLeast : 20 * (rank : ℚ) + 1 ≤ 19 * count + 20 := by exact_mod_cast least
  have exact (digits places : Nat) (few : digits < 2 ^ 53) (fine : places ≤ 1074)
      : nearestMultiple (digits / 2 ^ places) = digits / 2 ^ places := by
    have isFew : |(digits : Int)| < 2 ^ 53 := by
      rw [abs_of_nonneg (Int.natCast_nonneg digits)]
      exact_mod_cast few
    have isNumber := nearestNumber_of_places isFew fine
    rw [Int.cast_natCast, nearestNumber_of_nonneg (by positivity)] at isNumber
    split at isNumber
    · cases isNumber
    · exact JsNumber.finite.inj isNumber
  constructor
  · rcases Nat.eq_zero_or_pos rank with rfl | positive
    · have notNegative := nearestMultiple_nonneg nonneg
      rw [Nat.cast_zero]
      linarith
    · have below
          : (((rank - 1) * 32 + 1 : Nat) : ℚ) / 2 ^ 5
            ≤ count * (8556839292003942 / 2 ^ 53) := by
        push_cast [Nat.cast_sub positive]
        linarith
      have rounded := nearestMultiple_mono (by positivity) below
      rw [exact _ 5 (by omega) (by norm_num)] at rounded
      push_cast [Nat.cast_sub positive] at rounded
      linarith
  · have above : (count : ℚ) * (8556839292003942 / 2 ^ 53) ≤ rank / 2 ^ 0 := by
      linarith
    have rounded := nearestMultiple_mono nonneg above
    rw [exact rank 0 (by omega) (by norm_num)] at rounded
    simpa using rounded

/-- The index is one less than the least rank that 95 % of the calls do not exceed. -/
theorem p95Index_eq {count rank : Nat} (positive : 0 < count) (small : count < 2 ^ 32)
    (enough : 19 * count ≤ 20 * rank) (least : 20 * rank < 19 * count + 20)
    : p95Index count = rank - 1 := by
  obtain ⟨below, above⟩ := nearestMultiple_rank small enough least
  have nonneg : (0 : ℚ) ≤ count * (8556839292003942 / 2 ^ 53) := by positivity
  have isRank : ⌈nearestMultiple (count * (8556839292003942 / 2 ^ 53))⌉ = rank := by
    rw [Int.ceil_eq_iff]
    exact_mod_cast And.intro below above
  have finite : ¬ 2 ^ 1024 ≤ nearestMultiple (count * (8556839292003942 / 2 ^ 53)) := by
    have fits : (rank : ℚ) < 2 ^ 33 := by
      have bound : rank < 2 ^ 33 := by omega
      exact_mod_cast bound
    have more : (2 : ℚ) ^ 33 ≤ 2 ^ 1024 := pow_le_pow_right₀ (by norm_num) (by norm_num)
    exact not_le.mpr (above.trans_lt (fits.trans_le more))
  have product
      : ((JsNumber.finite count).roundedMul ninetyFivePercent).ceil = .finite (rank : Int) := by
    rw [ninetyFivePercent_eq, JsNumber.roundedMul, nearestNumber_of_nonneg nonneg, if_neg finite,
      JsNumber.ceil, isRank]
  rw [p95Index, if_neg positive.ne', product]
  simp

-----------------------------------------------------------------------------------------
-- Sorted durations
-----------------------------------------------------------------------------------------

/-- The place of a duration that is not negative in the order of durations. -/
def durationKey : JsNumber → WithTop ℚ
  | .finite value => value
  | _ => ⊤

/-- Durations are compared by their places. -/
theorem lt_iff_durationKey {left right : JsNumber} (isLeft : left.IsNonneg)
    (isRight : right.IsNonneg)
    : left.lt right ↔ durationKey left < durationKey right := by
  rcases isLeft.cases with ⟨value, _, rfl⟩ | rfl
  · rcases isRight.cases with ⟨other, _, rfl⟩ | rfl
    · simp [JsNumber.lt, durationKey]
    · simp [JsNumber.lt, durationKey]
  · rcases isRight.cases with ⟨other, _, rfl⟩ | rfl
    · simp [JsNumber.lt, durationKey]
    · simp [JsNumber.lt, durationKey]

/-- The sort compares them in this order. -/
theorem comparison_eq {left right : JsNumber} (isLeft : left.IsNonneg) (isRight : right.IsNonneg)
    : (!(left.sub right).isAbove 0) = decide (durationKey left ≤ durationKey right) := by
  rw [Bool.eq_iff_iff]
  rcases isLeft.cases with ⟨value, _, rfl⟩ | rfl
  · rcases isRight.cases with ⟨other, _, rfl⟩ | rfl
    · simp [JsNumber.sub, JsNumber.isAbove, durationKey]
    · simp [JsNumber.sub, JsNumber.isAbove, durationKey]
  · rcases isRight.cases with ⟨other, _, rfl⟩ | rfl
    · simp [JsNumber.sub, JsNumber.isAbove, durationKey]
    · simp [JsNumber.sub, JsNumber.isAbove, durationKey]

/-- Sorted durations ascend. -/
theorem sortedDurations_ascending {durations : List JsNumber}
    (nonneg : ∀ duration ∈ durations, duration.IsNonneg)
    : (sortedDurations durations).Pairwise
        (fun left right => durationKey left ≤ durationKey right) := by
  have byKey
      : (durations.mergeSort (fun left right => !(left.sub right).isAbove 0)).map id
        = (durations.map id).mergeSort
            (fun left right => decide (durationKey left ≤ durationKey right)) :=
    List.map_mergeSort fun left isLeft right isRight =>
      comparison_eq (nonneg left isLeft) (nonneg right isRight)
  rw [List.map_id, List.map_id] at byKey
  rw [sortedDurations, byKey]
  have trans (first second third : JsNumber)
      (front : decide (durationKey first ≤ durationKey second) = true)
      (back : decide (durationKey second ≤ durationKey third) = true)
      : decide (durationKey first ≤ durationKey third) = true :=
    decide_eq_true (le_trans (of_decide_eq_true front) (of_decide_eq_true back))
  have total (left right : JsNumber)
      : (decide (durationKey left ≤ durationKey right)
          || decide (durationKey right ≤ durationKey left)) = true := by
    rw [Bool.or_eq_true, decide_eq_true_eq, decide_eq_true_eq]
    exact le_total _ _
  exact (List.pairwise_mergeSort trans total durations).imp of_decide_eq_true

/-- The 95th percentile by the nearest rank: the least duration that at least 95 % of the calls do
not exceed.
-/
structure NearestRank (durations : List JsNumber) (value : JsNumber) : Prop where
  member : value ∈ durations
  enough
    : 19 * durations.length ≤ 20 * durations.countP (fun duration => ¬ value.lt duration)
  least
    : ∀ less : JsNumber,
        less.IsNonneg
        → less.lt value
        → 20 * durations.countP (fun duration => ¬ less.lt duration) < 19 * durations.length

/-- Counting what is not greater is counting by places. -/
theorem countP_not_lt {durations : List JsNumber} {value : JsNumber}
    (nonneg : ∀ duration ∈ durations, duration.IsNonneg) (isValue : value.IsNonneg)
    : durations.countP (fun duration => ¬ value.lt duration)
      = (sortedDurations durations).countP
          (fun duration => durationKey duration ≤ durationKey value) := by
  have perm : (sortedDurations durations).Perm durations := List.mergeSort_perm _ _
  rw [perm.countP_eq]
  refine List.countP_congr fun duration member => ?_
  simp only [decide_eq_true_eq]
  rw [lt_iff_durationKey isValue (nonneg duration member), not_lt]

/-- What the report finds at its index is the percentile by the nearest rank. -/
theorem nearestRank_p95 {durations : List JsNumber}
    (nonneg : ∀ duration ∈ durations, duration.IsNonneg) (nonempty : durations ≠ [])
    (small : durations.length < 2 ^ 32)
    : ∃ value,
        ¬ p95Index durations.length < 0
        ∧ (sortedDurations durations)[(p95Index durations.length).toNat]? = some value
        ∧ NearestRank durations value := by
  have positive : 0 < durations.length := List.length_pos_iff.mpr nonempty
  obtain ⟨rank, isRank⟩ : ∃ rank, rank = (19 * durations.length + 19) / 20 := ⟨_, rfl⟩
  have isIndex : p95Index durations.length = rank - 1 :=
    p95Index_eq positive small (by omega) (by omega)
  have ascending := sortedDurations_ascending nonneg
  have perm : (sortedDurations durations).Perm durations := List.mergeSort_perm _ _
  have below : rank - 1 < (sortedDurations durations).length := by
    rw [perm.length_eq]
    omega
  have member : (sortedDurations durations)[rank - 1] ∈ durations :=
    perm.mem_iff.mp (List.getElem_mem below)
  have isNonneg := nonneg _ member
  refine ⟨(sortedDurations durations)[rank - 1], by omega, ?_, member, ?_, ?_⟩
  · have isNat : (p95Index durations.length).toNat = rank - 1 := by omega
    rw [isNat]
    exact List.getElem?_eq_getElem below
  · rw [countP_not_lt nonneg isNonneg]
    have counted := lt_countP_le_getElem ascending below
    omega
  · intro less isLess isLower
    rw [countP_not_lt nonneg isLess]
    have lower := (lt_iff_durationKey isLess isNonneg).mp isLower
    have counted := countP_le_of_lt_getElem ascending below lower
    omega

-----------------------------------------------------------------------------------------
-- The slowest call, and the calls of a type
-----------------------------------------------------------------------------------------

/-- All durations are numbers that are not negative. -/
def areNonneg (calls : List (ProfiledCallMetric ω)) : Prop :=
  ∀ call ∈ calls, call.durationMs.IsNonneg

/-- The call is the first of those that took longest. -/
structure IsSlowest (calls : List (ProfiledCallMetric ω)) (slowest : ProfiledCallMetric ω) : Prop
    where
  longest : ∀ call ∈ calls, ¬ slowest.durationMs.lt call.durationMs
  first
    : ∃ before after,
        calls = before ++ slowest :: after
        ∧ ∀ call ∈ before, call.durationMs.lt slowest.durationMs

/-- The report finds the first of the slowest calls, by induction on the calls. -/
theorem isSlowest_foldl {calls : List (ProfiledCallMetric ω)} (nonneg : areNonneg calls)
    (nonempty : calls ≠ [])
    : ∃ slowest, calls.foldl slower none = some slowest ∧ IsSlowest calls slowest := by
  induction calls using List.reverseRecOn with
  | nil => exact absurd rfl nonempty
  | append_singleton seen call ih =>
      rw [List.foldl_append, List.foldl_cons, List.foldl_nil]
      have seenNonneg : areNonneg seen :=
        fun other member => nonneg other (List.mem_append_left _ member)
      have callNonneg : call.durationMs.IsNonneg := nonneg call (by simp)
      have irrefl : ¬ call.durationMs.lt call.durationMs := by
        rw [lt_iff_durationKey callNonneg callNonneg]
        exact lt_irrefl _
      rcases eq_or_ne seen [] with rfl | someSeen
      · refine ⟨call, rfl, ?_, [], [], rfl, ?_⟩
        · intro other member
          obtain rfl := List.mem_singleton.mp member
          exact irrefl
        · exact fun other member => absurd member List.not_mem_nil
      · obtain ⟨slowest, isSlowest, longest, before, after, whole, isFirst⟩ :=
          ih seenNonneg someSeen
        have slowestNonneg : slowest.durationMs.IsNonneg := seenNonneg slowest (by simp [whole])
        rw [isSlowest]
        by_cases longer : slowest.durationMs.lt call.durationMs
        · have shorter (other : ProfiledCallMetric ω) (member : other ∈ seen)
              : other.durationMs.lt call.durationMs := by
            have atMost := longest other member
            rw [lt_iff_durationKey slowestNonneg (seenNonneg other member), not_lt] at atMost
            rw [lt_iff_durationKey slowestNonneg callNonneg] at longer
            rw [lt_iff_durationKey (seenNonneg other member) callNonneg]
            exact atMost.trans_lt longer
          refine ⟨call, if_pos longer, ?_, seen, [], rfl, shorter⟩
          intro other member
          rcases List.mem_append.mp member with old | new
          · have isLess := shorter other old
            rw [lt_iff_durationKey (seenNonneg other old) callNonneg] at isLess
            rw [lt_iff_durationKey callNonneg (seenNonneg other old)]
            exact isLess.asymm
          · obtain rfl := List.mem_singleton.mp new
            exact irrefl
        · refine ⟨slowest, if_neg longer, ?_, before, after ++ [call], ?_, isFirst⟩
          · intro other member
            rcases List.mem_append.mp member with old | new
            · exact longest other old
            · obtain rfl := List.mem_singleton.mp new
              exact longer
          · rw [whole, List.append_assoc, List.cons_append]

/-- The bucket counts the calls of the type, and its maximum is the longest duration of them. -/
structure CountsType (calls : List (ProfiledCallMetric ω)) (type : CallType)
    (bucket : TypeStatistics) : Prop where
  count : bucket.count = calls.countP (fun call => call.type = type)
  longest : ∀ call ∈ calls, call.type = type → ¬ bucket.maxDurationMs.lt call.durationMs
  reached : ∃ call ∈ calls, call.type = type ∧ call.durationMs = bucket.maxDurationMs

/-- The larger of two durations. -/
theorem max_durations {left right : JsNumber} (isLeft : left.IsNonneg) (isRight : right.IsNonneg)
    : left.max right = if left.lt right then right else left :=
  if_neg (not_or.mpr ⟨isLeft.ne_nan, isRight.ne_nan⟩)

/-- The maximum of zero and a duration is the duration. -/
theorem zero_max_duration {duration : JsNumber} (nonneg : duration.IsNonneg)
    : (JsNumber.finite 0).max duration = duration := by
  have zero : (JsNumber.finite 0).IsNonneg := le_refl (0 : ℚ)
  rw [max_durations zero nonneg]
  split
  · rfl
  · rename_i notLess
    rcases nonneg.cases with ⟨value, notNegative, rfl⟩ | rfl
    · exact congrArg _ (le_antisymm notNegative (not_lt.mp notLess))
    · exact absurd rfl notLess

/-- The first call of a type makes a bucket of its own. -/
theorem countsType_first {seen : List (ProfiledCallMetric ω)} {call : ProfiledCallMetric ω}
    (nonneg : call.durationMs.IsNonneg) (none : ∀ other ∈ seen, other.type ≠ call.type)
    : CountsType (seen ++ [call]) call.type
        ((⟨0, .finite 0, .finite 0⟩ : TypeStatistics).add call.durationMs) where
  count := by
    have zero : seen.countP (fun other => other.type = call.type) = 0 :=
      List.countP_eq_zero.mpr fun other member => by simpa using none other member
    simp [TypeStatistics.add, List.countP_append, zero]
  longest := by
    intro other member isType
    rcases List.mem_append.mp member with old | new
    · exact absurd isType (none other old)
    · obtain rfl := List.mem_singleton.mp new
      rw [TypeStatistics.add, zero_max_duration nonneg, lt_iff_durationKey nonneg nonneg]
      exact lt_irrefl _
  reached := ⟨call, by simp, rfl, (zero_max_duration nonneg).symm⟩

/-- A later call of the type is added to its bucket. -/
theorem CountsType.add {seen : List (ProfiledCallMetric ω)} {call : ProfiledCallMetric ω}
    {bucket : TypeStatistics} (counts : CountsType seen call.type bucket)
    (seenNonneg : areNonneg seen) (nonneg : call.durationMs.IsNonneg)
    : CountsType (seen ++ [call]) call.type (bucket.add call.durationMs) := by
  obtain ⟨longestCall, isSeen, isType, isLongest⟩ := counts.reached
  have maxNonneg : bucket.maxDurationMs.IsNonneg := isLongest ▸ seenNonneg longestCall isSeen
  have isMax := max_durations maxNonneg nonneg
  constructor
  · simp [TypeStatistics.add, List.countP_append, counts.count]
  · intro other member otherType
    rw [TypeStatistics.add, isMax]
    rcases List.mem_append.mp member with old | new
    · have atMost := counts.longest other old otherType
      have otherNonneg := seenNonneg other old
      split
      · rename_i longer
        rw [lt_iff_durationKey maxNonneg nonneg] at longer
        rw [lt_iff_durationKey maxNonneg otherNonneg, not_lt] at atMost
        rw [lt_iff_durationKey nonneg otherNonneg]
        exact (atMost.trans longer.le).not_gt
      · exact atMost
    · obtain rfl := List.mem_singleton.mp new
      split
      · rw [lt_iff_durationKey nonneg nonneg]
        exact lt_irrefl _
      · assumption
  · rw [TypeStatistics.add, isMax]
    split
    · exact ⟨call, by simp, rfl, rfl⟩
    · exact ⟨longestCall, List.mem_append_left _ isSeen, isType, isLongest⟩

/-- A call of another type leaves the bucket as it is. -/
theorem CountsType.skip {seen : List (ProfiledCallMetric ω)} {call : ProfiledCallMetric ω}
    {type : CallType} {bucket : TypeStatistics} (counts : CountsType seen type bucket)
    (differs : call.type ≠ type)
    : CountsType (seen ++ [call]) type bucket where
  count := by simp [List.countP_append, counts.count, differs]
  longest := by
    intro other member isType
    rcases List.mem_append.mp member with old | new
    · exact counts.longest other old isType
    · obtain rfl := List.mem_singleton.mp new
      exact absurd isType differs
  reached := by
    obtain ⟨longestCall, isSeen, rest⟩ := counts.reached
    exact ⟨longestCall, List.mem_append_left _ isSeen, rest⟩

/-- There is a bucket for each type of which there are calls, by induction on the calls. -/
theorem countsType_foldl {calls : List (ProfiledCallMetric ω)} (nonneg : areNonneg calls)
    (type : CallType)
    : ((calls.foldl addCall .empty).get type = none → ∀ call ∈ calls, call.type ≠ type)
      ∧ ∀ bucket,
          (calls.foldl addCall .empty).get type = some bucket → CountsType calls type bucket := by
  induction calls using List.reverseRecOn with
  | nil =>
      refine ⟨fun _ call member => absurd member List.not_mem_nil, fun bucket found => ?_⟩
      cases found
  | append_singleton seen call ih =>
      have seenNonneg : areNonneg seen :=
        fun other member => nonneg other (List.mem_append_left _ member)
      have callNonneg : call.durationMs.IsNonneg := nonneg call (by simp)
      obtain ⟨absent, counts⟩ := ih seenNonneg
      rw [List.foldl_append, List.foldl_cons, List.foldl_nil, addCall, InsertionMap.get_set]
      by_cases same : type = call.type
      · subst same
        rw [if_pos rfl]
        refine ⟨fun isNone => absurd isNone (Option.some_ne_none _), fun bucket isBucket => ?_⟩
        obtain rfl := Option.some.inj isBucket
        cases found : (seen.foldl addCall .empty).get call.type with
        | none => exact countsType_first callNonneg (absent found)
        | some earlier => exact (counts earlier found).add seenNonneg callNonneg
      · rw [if_neg same]
        refine ⟨fun isNone other member => ?_, fun bucket found => ?_⟩
        · rcases List.mem_append.mp member with old | new
          · exact absent isNone other old
          · obtain rfl := List.mem_singleton.mp new
            exact Ne.symm same
        · exact (counts bucket found).skip (Ne.symm same)

/-- Computing averages changes nothing else. -/
theorem get_averages (byType : InsertionMap CallType TypeStatistics) (type : CallType)
    : (averages byType).get type = (byType.get type).map TypeStatistics.averaged := by
  ext bucket
  rw [InsertionMap.get_eq_some_iff, Option.map_eq_some_iff]
  simp only [averages, List.mem_map, InsertionMap.get_eq_some_iff]
  constructor
  · intro given
    obtain ⟨⟨other, sums⟩, member, isBucket⟩ := given
    obtain ⟨rfl, rfl⟩ := Prod.mk.inj isBucket
    exact ⟨sums, member, rfl⟩
  · intro given
    obtain ⟨sums, member, rfl⟩ := given
    exact ⟨(type, sums), member, rfl⟩

/-- What the report says of the calls that are kept. -/
structure ReportsOn (calls : List (ProfiledCallMetric ω)) (report : ProfilingReport ω) : Prop where
  listed : report.calls = calls
  total : report.totalCalls = calls.length
  parts : report.successfulCalls + report.failedCalls = calls.length
  successful : report.successfulCalls = calls.countP ProfiledCallMetric.success
  percentile
    : calls ≠ []
      → ∃ value,
          report.p95DurationMs = some value
          ∧ NearestRank (calls.map ProfiledCallMetric.durationMs) value
  slowest
    : calls ≠ [] → ∃ slowest, report.slowestCall = some slowest ∧ IsSlowest calls slowest
  types
    : ∀ type,
        (report.byType.get type = none → ∀ call ∈ calls, call.type ≠ type)
        ∧ ∀ bucket, report.byType.get type = some bucket → CountsType calls type bucket

/-- The report of a service whose metrics have durations that are not negative. -/
theorem reportsOn_generateReport {service : ProfilingService ω} (nonneg : areNonneg service.metrics)
    (small : service.metrics.length < 2 ^ 32) (date : String)
    : ReportsOn service.metrics (service.generateReport date) where
  listed := rfl
  total := rfl
  parts := by
    simp only [ProfilingService.generateReport, ← List.countP_eq_length_filter]
    have whole := service.metrics.length_eq_countP_add_countP ProfiledCallMetric.success
    simpa using whole.symm
  successful := List.countP_eq_length_filter.symm
  percentile := by
    intro nonempty
    have durationsNonneg
        : ∀ duration ∈ service.metrics.map ProfiledCallMetric.durationMs, duration.IsNonneg := by
      intro duration member
      obtain ⟨call, isCall, rfl⟩ := List.mem_map.mp member
      exact nonneg call isCall
    have someDurations : service.metrics.map ProfiledCallMetric.durationMs ≠ [] := by
      simpa using nonempty
    obtain ⟨value, isIndex, found, isNearest⟩ :=
      nearestRank_p95 durationsNonneg someDurations (by simpa using small)
    refine ⟨value, ?_, isNearest⟩
    have sameLength
        : (sortedDurations (service.metrics.map ProfiledCallMetric.durationMs)).length
          = (service.metrics.map ProfiledCallMetric.durationMs).length :=
      List.length_mergeSort _
    simp only [ProfilingService.generateReport, sameLength, if_neg isIndex, found]
  slowest := fun nonempty => isSlowest_foldl nonneg nonempty
  types := by
    intro type
    obtain ⟨absent, counts⟩ := countsType_foldl nonneg type
    simp only [ProfilingService.generateReport, get_averages]
    refine ⟨fun isNone => absent (Option.map_eq_none_iff.mp isNone), fun bucket found => ?_⟩
    obtain ⟨sums, isSums, rfl⟩ := Option.map_eq_some_iff.mp found
    obtain ⟨count, longest, reached⟩ := counts sums isSums
    exact ⟨count, longest, reached⟩

-----------------------------------------------------------------------------------------
-- Reports of runs
-----------------------------------------------------------------------------------------

/-- The clock reads a number whenever a call begins or ends. -/
def ProfilingEvent.readsClock : ProfilingEvent ω ρ → Prop
  | .begin _ _ reading | .settle _ _ reading => ∃ now, reading.now = .finite now
  | _ => True

/-- The kept durations are not negative, and the calls that go on began at a number. -/
structure ProfiledRun.Clocked (run : ProfiledRun ω ρ) : Prop where
  durations : areNonneg run.service.metrics
  starts
    : ∀ call ∈ run.calls, ∀ frame, call.frame = some frame → ∃ start, frame.start = .finite start

/-- The difference of two readings is not negative after its maximum with zero is taken. -/
theorem duration_nonneg (now start : ℚ)
    : ((JsNumber.finite 0).max ((JsNumber.finite now).roundedSub (.finite start))).IsNonneg := by
  have isNumber : nearestNumber (now - start) ≠ .nan := by
    rw [nearestNumber_eq]
    split
    · exact fun isNan => JsNumber.noConfusion isNan
    · exact fun isNan => JsNumber.noConfusion isNan
  have zero : (JsNumber.finite 0).IsNonneg := le_refl (0 : ℚ)
  rw [JsNumber.roundedSub, JsNumber.max, if_neg (not_or.mpr ⟨zero.ne_nan, isNumber⟩)]
  split
  · rename_i less
    exact JsNumber.le_of_lt less
  · exact zero

namespace ProfiledRun

/-- Recording a call that began at a number, at a number, keeps durations from being negative. -/
theorem Clocked.record {run : ProfiledRun ω ρ} (clocked : run.Clocked) {frame : ProfileFrame ω}
    {reading : Reading} {now start : ℚ} (isNow : reading.now = .finite now)
    (isStart : frame.start = .finite start) (call : Nat) (success : Bool)
    (message : Option String)
    : (run.record call frame success message reading).Clocked where
  durations := by
    intro metric member
    rcases List.mem_append.mp member with old | new
    · exact clocked.durations metric old
    · obtain rfl := List.mem_singleton.mp new
      rw [ProfilingService.metric, isNow, isStart]
      exact duration_nonneg now start
  starts := clocked.starts

/-- Every event that reads the clock properly does so. -/
theorem Clocked.step {printed : JsNumber → String} {run next : ProfiledRun ω ρ}
    {event : ProfilingEvent ω ρ} (reads : event.readsClock)
    (taken : run.step printed event = some next) (clocked : run.Clocked)
    : next.Clocked := by
  cases event with
  | enable level =>
      obtain rfl := Option.some.inj taken
      exact ⟨clocked.durations, clocked.starts⟩
  | disable =>
      obtain rfl := Option.some.inj taken
      exact ⟨clocked.durations, clocked.starts⟩
  | clear =>
      obtain rfl := Option.some.inj taken
      exact ⟨fun _ member => absurd member List.not_mem_nil, clocked.starts⟩
  | begin name options reading =>
      obtain rfl := Option.some.inj taken
      refine ⟨clocked.durations, fun call member frame isFrame => ?_⟩
      rcases List.mem_append.mp member with old | new
      · exact clocked.starts call old frame isFrame
      · obtain rfl := List.mem_singleton.mp new
        simp only [ProfileCall.frame, ProfilingService.frame] at isFrame
        split at isFrame
        · obtain rfl := Option.some.inj isFrame
          exact reads
        · cases isFrame
  | settle call outcome reading =>
      obtain ⟨now, isNow⟩ := reads
      simp only [ProfiledRun.step] at taken
      cases found : run.calls[call]? with
      | none =>
          rw [found] at taken
          cases taken
      | some current =>
          rw [found] at taken
          cases current with
          | ended frame earlier => cases taken
          | going frame =>
              have going := List.mem_of_getElem? found
              have ended
                  : ({ run with calls := run.calls.set call (.ended frame outcome) }
                      : ProfiledRun ω ρ).Clocked := by
                refine ⟨clocked.durations, fun other member own isFrame => ?_⟩
                rcases List.mem_or_eq_of_mem_set member with old | rfl
                · exact clocked.starts other old own isFrame
                · exact clocked.starts _ going own isFrame
              cases frame with
              | none =>
                  obtain rfl := Option.some.inj taken
                  exact ended
              | some frame =>
                  obtain rfl := Option.some.inj taken
                  obtain ⟨start, isStart⟩ := clocked.starts _ going frame rfl
                  unfold settled
                  split
                  · exact ended.record isNow isStart call true none
                  · split
                    · exact ended.record isNow isStart call false _
                    · exact ended

end ProfiledRun

/-- In every run in which the clock reads numbers, the report of the calls that are kept counts
them in all and by their outcome and type, and gives the longest duration of each type, the first
of the slowest calls and the 95th percentile by the nearest rank.
-/
theorem reports_are_right (printed : JsNumber → String) (enabled : Option Bool)
    (level : Option ProfilingLevel) {events : List (ProfilingEvent ω ρ)} {final : ProfiledRun ω ρ}
    (reads : ∀ event ∈ events, event.readsClock)
    (reached : run (ProfiledRun.step printed) (.new enabled level) events = some final)
    (small : final.service.metrics.length < 2 ^ 32) (date : String)
    : ReportsOn final.service.metrics (final.service.generateReport date) := by
  have start : (ProfiledRun.new enabled level : ProfiledRun ω ρ).Clocked := by
    constructor
    · exact fun _ member => absurd member List.not_mem_nil
    · exact fun _ member => absurd member List.not_mem_nil
  have allRead
      : stepsSatisfy (ProfiledRun.step printed)
          (fun (_ : ProfiledRun ω ρ) event => event.readsClock) (.new enabled level) events :=
    stepsSatisfy_of_forall_mem _ fun event member _ => reads event member
  have clocked := run_preserves_of_stepsSatisfy
    (fun _ _ _ reads taken clocked => clocked.step reads taken) start allRead reached
  exact reportsOn_generateReport clocked.durations small date

/-- Two calls that overlap, the second of which takes longer and fails. -/
def overlappingCalls : List (ProfilingEvent Empty Nat) :=
  [
    .begin "first" ⟨some .rpc, none⟩ ⟨"", .finite 0, none⟩,
    .begin "second" ⟨some .rpc, none⟩ ⟨"", .finite 1, none⟩,
    .settle 0 (.ok 42) ⟨"", .finite 10, none⟩,
    .settle 1 (.error (.text "down")) ⟨"", .finite 40, none⟩
  ]

/-- The report counts them both. -/
theorem reports_are_right_overlapping
    : ∃ final : ProfiledRun Empty Nat,
        run (ProfiledRun.step fun _ => "") (.new (some true) none) overlappingCalls = some final
        ∧ ReportsOn final.service.metrics (final.service.generateReport "")
        ∧ final.service.metrics.length = 2 := by
  obtain ⟨final, reached⟩
      : ∃ final : ProfiledRun Empty Nat,
          run (ProfiledRun.step fun _ => "") (.new (some true) none) overlappingCalls
          = some final :=
    Option.isSome_iff_exists.mp rfl
  have two : final.service.metrics.length = 2 := by
    obtain rfl := Option.some.inj reached
    rfl
  have reads : ∀ event ∈ overlappingCalls, event.readsClock := by
    simp [overlappingCalls, ProfilingEvent.readsClock]
  exact ⟨final, reached, reports_are_right _ _ none reads reached (by omega) "", two⟩

end Axionvera.Profiling
