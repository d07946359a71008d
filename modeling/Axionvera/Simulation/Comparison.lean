import Axionvera.Simulation.CostBreakdown
import Mathlib.Tactic.NormNum

/-! When the comparison of simulated transactions names the best ones that succeed: failures count
as zero, and fees are compared as texts.
-/

namespace Axionvera.Simulation

open Axionvera.Foundation

/-- A transaction and the response of its simulation. -/
abbrev Simulated := Transaction × SimulationResponse

/-- The result at the index is of a success, and at least as good as those of all successes. -/
def IsBestSuccess (atLeastAsGood : DetailedSimulationResult → DetailedSimulationResult → Prop)
    (results : List DetailedSimulationResult) (index : Nat)
    : Prop :=
  ∃ best,
    results[index]? = some best
    ∧ best.success = true
    ∧ ∀ other ∈ results, other.success = true → atLeastAsGood best other

/-- The comparison names successes: one with the least fee, one with the least CPU, and one with the
greatest efficiency.
-/
structure NamesBestSuccesses (simulated : List Simulated) : Prop where
  leastExpensive
    : IsBestSuccess
        (fun best other => best.recommendedFee.toNumber.le other.recommendedFee.toNumber)
        (comparativeSimulation simulated).1 (comparativeSimulation simulated).2.leastExpensive
  fastest
    : IsBestSuccess (fun best other => best.cpuInstructions ≤ other.cpuInstructions)
        (comparativeSimulation simulated).1 (comparativeSimulation simulated).2.fastest
  mostEfficient
    : IsBestSuccess
        (fun best other =>
          other.analysis.overallEfficiency.le best.analysis.overallEfficiency)
        (comparativeSimulation simulated).1 (comparativeSimulation simulated).2.mostEfficient

/-- Some simulation succeeded. -/
def SomeSucceeded (simulated : List Simulated) : Prop :=
  ∃ transaction response, (transaction, SimulationResponse.success response) ∈ simulated

/-- The texts of the two fees, one behind the other. -/
def feeText (transaction : Transaction) (response : SuccessResponse) : List Char :=
  transaction.fee ++ response.minResourceFee

/-- The two fees are zero. -/
def IsFree (transaction : Transaction) (response : SuccessResponse) : Prop :=
  parseDigits (feeText transaction response) = 0

/-- Every failure stands behind a success of some kind. -/
def FailuresBehind (isSuch : Transaction → SuccessResponse → Prop) (simulated : List Simulated)
    : Prop :=
  ∀ (index : Nat) transaction error,
    simulated[index]? = some (transaction, SimulationResponse.failure error)
    → ∃ earlier < index, ∃ other response,
        simulated[earlier]? = some (other, SimulationResponse.success response)
        ∧ isSuch other response

/-- Nothing comes before the text of the fees of some success, and nothing is less as a number. -/
def LeastFeeComesFirst (simulated : List Simulated) : Prop :=
  ∃ transaction response,
    (transaction, SimulationResponse.success response) ∈ simulated
    ∧ ∀ other otherResponse,
        (other, SimulationResponse.success otherResponse) ∈ simulated
        → comesBefore (feeText other otherResponse) (feeText transaction response) = false
          ∧ parseDigits (feeText transaction response)
            ≤ parseDigits (feeText other otherResponse)

/-- No failure is taken for the best: each stands behind a success without CPU and one without a
fee, and the order of texts does not hide the least fee.
-/
structure SuccessesStandOut (simulated : List Simulated) : Prop where
  cpu : FailuresBehind (fun _ response => response.operationCpu.sum = 0) simulated
  fee : FailuresBehind IsFree simulated
  order : LeastFeeComesFirst simulated

/-- The result of a simulation. -/
def resultOf (entry : Simulated) : DetailedSimulationResult :=
  detailedSimulation entry.1 entry.2

-----------------------------------------------------------------------------------------
-- Results
-----------------------------------------------------------------------------------------

/-- The results are those of all entries. -/
theorem comparativeSimulation_results (simulated : List Simulated)
    : (comparativeSimulation simulated).1 = simulated.map resultOf := by
  rfl

/-- A result is of a success if the response is. -/
theorem success_resultOf_iff (entry : Simulated)
    : (resultOf entry).success = true ↔ ∃ response, entry.2 = .success response := by
  obtain ⟨transaction, response | error⟩ := entry
  · exact iff_of_true rfl ⟨response, rfl⟩
  · exact iff_of_false Bool.false_ne_true nofun

/-- The best success among results is the best among the entries that succeed. -/
theorem isBestSuccess_map_iff
    {atLeastAsGood : DetailedSimulationResult → DetailedSimulationResult → Prop}
    {simulated : List Simulated} {index : Nat}
    : IsBestSuccess atLeastAsGood (simulated.map resultOf) index
      ↔ ∃ transaction response,
          simulated[index]? = some (transaction, SimulationResponse.success response)
          ∧ ∀ other otherResponse,
              (other, SimulationResponse.success otherResponse) ∈ simulated
              → atLeastAsGood (resultOf (transaction, .success response))
                  (resultOf (other, .success otherResponse)) := by
  constructor
  · rintro ⟨best, isBest, isSuccess, all⟩
    rw [List.getElem?_map, Option.map_eq_some_iff] at isBest
    obtain ⟨⟨transaction, response⟩, found, rfl⟩ := isBest
    obtain ⟨response, rfl⟩ := (success_resultOf_iff _).mp isSuccess
    exact ⟨transaction, response, found, fun other otherResponse member =>
      all _ (List.mem_map_of_mem member) rfl⟩
  · rintro ⟨transaction, response, found, all⟩
    refine ⟨_, by rw [List.getElem?_map, found]; rfl, rfl, ?_⟩
    intro other member isSuccess
    obtain ⟨⟨otherTransaction, otherResponse⟩, inSimulated, rfl⟩ := List.mem_map.mp member
    obtain ⟨otherResponse, rfl⟩ := (success_resultOf_iff _).mp isSuccess
    exact all otherTransaction otherResponse inSimulated

/-- A success uses the CPU of its operations. -/
theorem cpuInstructions_success (transaction : Transaction) (response : SuccessResponse)
    : (resultOf (transaction, .success response)).cpuInstructions = response.operationCpu.sum :=
  congrArg List.sum (operationsOf_cpu response)

/-- The fee of a success as a number. -/
theorem toNumber_recommendedFee_success (transaction : Transaction) (response : SuccessResponse)
    : (resultOf (transaction, .success response)).recommendedFee.toNumber
      = .finite (parseDigits (feeText transaction response)) := by
  rw [resultOf, recommendedFee_eq]
  exact exactNumber_of_isDigits (isDigits_fees transaction response)

-----------------------------------------------------------------------------------------
-- The fastest
-----------------------------------------------------------------------------------------

/-- If every failure stands behind a success, the first entry is one. -/
theorem FailuresBehind.first {isSuch : Transaction → SuccessResponse → Prop}
    {simulated : List Simulated} (behind : FailuresBehind isSuch simulated) {entry : Simulated}
    (isFirst : simulated[0]? = some entry)
    : ∃ response, entry.2 = .success response := by
  obtain ⟨transaction, response | error⟩ := entry
  · exact ⟨response, rfl⟩
  · obtain ⟨earlier, before, -⟩ := behind 0 transaction error isFirst
    exact absurd before (Nat.not_lt_zero _)

/-- The fastest is the fastest success exactly if failures stand behind a success without CPU. -/
theorem fastest_iff {simulated : List Simulated} (nonempty : simulated ≠ [])
    : IsBestSuccess (fun best other => best.cpuInstructions ≤ other.cpuInstructions)
          (comparativeSimulation simulated).1 (comparativeSimulation simulated).2.fastest
      ↔ FailuresBehind (fun _ response => response.operationCpu.sum = 0) simulated := by
  have isFastest : (comparativeSimulation simulated).2.fastest
      = bestIndex (fun entry other => isFaster (resultOf entry) (resultOf other)) simulated :=
    bestIndex_map isFaster resultOf simulated
  obtain ⟨best, isBest, least, before⟩ :=
    bestIndex_least (fun entry other => isFaster (resultOf entry) (resultOf other))
      (fun entry => (resultOf entry).cpuInstructions) (fun _ _ => decide_eq_true_iff) nonempty
  rw [comparativeSimulation_results, isFastest, isBestSuccess_map_iff]
  constructor
  · rintro ⟨transaction, response, found, -⟩ index failed error isFailure
    obtain rfl := Option.some.inj (found.symm.trans isBest)
    have isZero : (resultOf (transaction, .success response)).cpuInstructions = 0 :=
      Nat.le_zero.mp (least _ (List.mem_of_getElem? isFailure))
    refine ⟨_, ?_, transaction, response, found, ?_⟩
    · refine Nat.lt_of_not_le fun notBefore => ?_
      rcases Nat.lt_or_eq_of_le notBefore with isBefore | isSame
      · exact Nat.not_lt_zero _ (before index _ isBefore isFailure)
      · rw [isSame, found] at isFailure
        cases isFailure
    · exact (cpuInstructions_success transaction response).symm.trans isZero
  · intro behind
    obtain ⟨transaction, response | error⟩ := best
    · refine ⟨transaction, response, isBest, fun other otherResponse member => least _ member⟩
    · obtain ⟨earlier, isEarlier, other, response, found, isZero⟩ :=
        behind _ transaction error isBest
      have less := before earlier _ isEarlier found
      rw [cpuInstructions_success, isZero] at less
      exact absurd less (Nat.not_lt_zero _)

-----------------------------------------------------------------------------------------
-- The least expensive
-----------------------------------------------------------------------------------------

/-- One more entry stands behind the others: a failure needs a success of the kind among them. -/
theorem failuresBehind_concat_iff {isSuch : Transaction → SuccessResponse → Prop}
    {seen : List Simulated} {entry : Simulated}
    : FailuresBehind isSuch (seen ++ [entry])
      ↔ FailuresBehind isSuch seen
        ∧ ∀ error,
            entry.2 = .failure error
            → ∃ transaction response,
                (transaction, SimulationResponse.success response) ∈ seen
                ∧ isSuch transaction response := by
  constructor
  · intro behind
    constructor
    · intro index failed error isFailure
      have inSeen : index < seen.length := (List.getElem?_eq_some_iff.mp isFailure).1
      obtain ⟨earlier, isEarlier, transaction, response, found, isOne⟩ :=
        behind index failed error (by rw [List.getElem?_append_left inSeen, isFailure])
      rw [List.getElem?_append_left (isEarlier.trans inSeen)] at found
      exact ⟨earlier, isEarlier, transaction, response, found, isOne⟩
    · intro error isFailure
      obtain ⟨earlier, isEarlier, transaction, response, found, isOne⟩ :=
        behind seen.length entry.1 error (by rw [← isFailure]; simp)
      rw [List.getElem?_append_left isEarlier] at found
      exact ⟨transaction, response, List.mem_of_getElem? found, isOne⟩
  · rintro ⟨behind, isExcused⟩ index failed error isFailure
    rcases Nat.lt_or_ge index seen.length with inSeen | isLast
    · rw [List.getElem?_append_left inSeen] at isFailure
      obtain ⟨earlier, isEarlier, transaction, response, found, isOne⟩ :=
        behind index failed error isFailure
      refine ⟨earlier, isEarlier, transaction, response, ?_, isOne⟩
      rw [List.getElem?_append_left (isEarlier.trans inSeen), found]
    · rw [List.getElem?_append_right isLast, List.getElem?_singleton,
        Option.ite_none_right_eq_some, Option.some.injEq] at isFailure
      obtain ⟨-, rfl⟩ := isFailure
      obtain ⟨transaction, response, member, isOne⟩ := isExcused error rfl
      obtain ⟨earlier, found⟩ := List.mem_iff_getElem?.mp member
      have inSeen : earlier < seen.length := (List.getElem?_eq_some_iff.mp found).1
      refine ⟨earlier, Nat.lt_of_lt_of_le inSeen isLast, transaction, response, ?_, isOne⟩
      rw [List.getElem?_append_left inSeen, found]

/-- A success stands wherever it likes. -/
theorem failuresBehind_of_success {isSuch : Transaction → SuccessResponse → Prop}
    {seen : List Simulated} {entry : Simulated} {response : SuccessResponse}
    (behind : FailuresBehind isSuch seen) (isSuccess : entry.2 = .success response)
    : FailuresBehind isSuch (seen ++ [entry]) := by
  refine failuresBehind_concat_iff.mpr ⟨behind, fun error isFailure => ?_⟩
  rw [isSuccess] at isFailure
  cases isFailure

/-- What the cheapest entry so far says of those that were seen: a success has a text that comes
after no other, and a failure is not behind a success without a fee.
-/
def IsCheapestSoFar (seen : List Simulated) : Simulated → Prop
  | (transaction, .success response) =>
      FailuresBehind IsFree seen
      ∧ ∀ other otherResponse,
          (other, SimulationResponse.success otherResponse) ∈ seen
          → comesBefore (feeText other otherResponse) (feeText transaction response) = false
  | (_, .failure _) =>
      ¬ FailuresBehind IsFree seen

/-- Successes are compared by the texts of their fees. -/
theorem isLessExpensive_success (transaction other : Transaction)
    (response otherResponse : SuccessResponse)
    : isLessExpensive (resultOf (transaction, .success response))
        (resultOf (other, .success otherResponse))
      = comesBefore (feeText transaction response) (feeText other otherResponse) := by
  rw [isLessExpensive, resultOf, resultOf, recommendedFee_eq, recommendedFee_eq]
  rfl

/-- No success is less expensive than a failure. -/
theorem isLessExpensive_success_failure (transaction other : Transaction)
    (response : SuccessResponse) (error : String)
    : isLessExpensive (resultOf (transaction, .success response))
        (resultOf (other, .failure error))
      = false := by
  have isNumber := toNumber_recommendedFee_success transaction response
  rw [resultOf, recommendedFee_eq] at isNumber
  rw [isLessExpensive, resultOf, recommendedFee_eq]
  change decide ((MixedValue.text _).toNumber.lt (.finite 0)) = false
  rw [isNumber]
  exact decide_eq_false (not_lt.mpr (Nat.cast_nonneg _))

/-- A failure is less expensive than every success with a fee. -/
theorem isLessExpensive_failure_success (transaction other : Transaction)
    (response : SuccessResponse) (error : String)
    : isLessExpensive (resultOf (other, .failure error))
          (resultOf (transaction, .success response))
        = true
      ↔ ¬ IsFree transaction response := by
  have isNumber := toNumber_recommendedFee_success transaction response
  rw [resultOf, recommendedFee_eq] at isNumber
  rw [isLessExpensive, resultOf, resultOf, recommendedFee_eq]
  change decide ((JsNumber.finite 0).lt (MixedValue.text _).toNumber) = true ↔ _
  rw [isNumber, decide_eq_true_iff, IsFree, ← Ne, ← Nat.pos_iff_ne_zero]
  exact Nat.cast_pos

/-- What does not come after a success without a fee in the order of texts has no fee, either. -/
theorem isFree_of_not_comesBefore {transaction other : Transaction}
    {response otherResponse : SuccessResponse} (isFree : IsFree other otherResponse)
    (notBefore
      : comesBefore (feeText other otherResponse) (feeText transaction response) = false)
    : IsFree transaction response := by
  have areDigits := (isDigits_iff.mp (isDigits_fees transaction response)).2
  have otherDigits := (isDigits_iff.mp (isDigits_fees other otherResponse)).2
  rw [IsFree, feeText, parseDigits_eq_zero_iff otherDigits] at isFree
  rw [IsFree, feeText, parseDigits_eq_zero_iff areDigits]
  exact eq_zeros_of_not_comesBefore isFree areDigits notBefore

/-- The first entry is the cheapest so far. -/
theorem isCheapestSoFar_first (entry : Simulated) : IsCheapestSoFar [entry] entry := by
  obtain ⟨transaction, response | error⟩ := entry
  · have noFailure : FailuresBehind IsFree ([] : List Simulated) :=
      fun _ _ _ isFailure => nomatch isFailure
    refine ⟨failuresBehind_of_success noFailure rfl, fun other otherResponse member => ?_⟩
    cases List.mem_singleton.mp member
    exact comesBefore_self _
  · intro behind
    obtain ⟨response, isSuccess⟩ := behind.first rfl
    cases isSuccess

/-- The cheapest entry so far stays it if the next one is not less expensive. -/
theorem IsCheapestSoFar.keep {seen : List Simulated} {best next : Simulated}
    (soFar : IsCheapestSoFar seen best) (isSeen : best ∈ seen)
    (notBetter : isLessExpensive (resultOf next) (resultOf best) = false)
    : IsCheapestSoFar (seen ++ [next]) best := by
  obtain ⟨transaction, response | error⟩ := best
  · obtain ⟨behind, least⟩ := soFar
    obtain ⟨nextTransaction, nextResponse | nextError⟩ := next
    · refine ⟨failuresBehind_of_success behind rfl, fun other otherResponse member => ?_⟩
      rcases List.mem_append.mp member with old | new
      · exact least other otherResponse old
      · cases List.mem_singleton.mp new
        rw [← isLessExpensive_success]
        exact notBetter
    · have isFree : IsFree transaction response := by
        by_contra notFree
        have isBetter :=
          (isLessExpensive_failure_success transaction nextTransaction response nextError).mpr
            notFree
        exact Bool.false_ne_true (notBetter.symm.trans isBetter)
      constructor
      · exact failuresBehind_concat_iff.mpr
          ⟨behind, fun _ _ => ⟨transaction, response, isSeen, isFree⟩⟩
      · intro other otherResponse member
        rcases List.mem_append.mp member with old | new
        · exact least other otherResponse old
        · cases List.mem_singleton.mp new
  · exact fun behind => soFar (failuresBehind_concat_iff.mp behind).1

/-- An entry that is less expensive than the cheapest one so far takes its place. -/
theorem IsCheapestSoFar.replace {seen : List Simulated} {best next : Simulated}
    (soFar : IsCheapestSoFar seen best)
    (isBetter : isLessExpensive (resultOf next) (resultOf best) = true)
    : IsCheapestSoFar (seen ++ [next]) next := by
  obtain ⟨nextTransaction, nextResponse | nextError⟩ := next
  · obtain ⟨transaction, response | error⟩ := best
    · obtain ⟨behind, least⟩ := soFar
      refine ⟨failuresBehind_of_success behind rfl, fun other otherResponse member => ?_⟩
      rw [isLessExpensive_success] at isBetter
      rcases List.mem_append.mp member with old | new
      · refine Bool.eq_false_iff.mpr fun before => ?_
        have still := comesBefore_trans before isBetter
        exact Bool.false_ne_true ((least other otherResponse old).symm.trans still)
      · cases List.mem_singleton.mp new
        exact comesBefore_self _
    · rw [isLessExpensive_success_failure] at isBetter
      cases isBetter
  · intro behind
    obtain ⟨behind, isExcused⟩ := failuresBehind_concat_iff.mp behind
    obtain ⟨transaction, response | error⟩ := best
    · -- A success without a fee among those seen would make the cheapest one so far one, too.
      obtain ⟨other, otherResponse, member, isFree⟩ := isExcused nextError rfl
      have notFree :=
        (isLessExpensive_failure_success transaction nextTransaction response nextError).mp isBetter
      exact notFree (isFree_of_not_comesBefore isFree (soFar.2 other otherResponse member))
    · exact soFar behind

/-- The entry that is named as the least expensive is the cheapest of all, as it is step by step. -/
theorem isCheapestSoFar_leastExpensive {simulated : List Simulated} (nonempty : simulated ≠ [])
    : ∃ best,
        simulated[(comparativeSimulation simulated).2.leastExpensive]? = some best
        ∧ IsCheapestSoFar simulated best := by
  have isIndex : (comparativeSimulation simulated).2.leastExpensive
      = bestIndex (fun entry other => isLessExpensive (resultOf entry) (resultOf other))
          simulated :=
    bestIndex_map isLessExpensive resultOf simulated
  rw [isIndex]
  refine bestIndex_induction _ (fun seen _ best => IsCheapestSoFar seen best)
    isCheapestSoFar_first ?keep ?replace nonempty
  case keep =>
    intro seen index best next isBest soFar notBetter
    exact soFar.keep (List.mem_of_getElem? isBest) notBetter
  case replace => exact fun seen index best next _ soFar isBetter => soFar.replace isBetter

/-- The least expensive is the least expensive success exactly if failures stand behind a success
without a fee, and the least fee comes first in the order of texts.
-/
theorem leastExpensive_iff {simulated : List Simulated} (nonempty : simulated ≠ [])
    : IsBestSuccess
          (fun best other => best.recommendedFee.toNumber.le other.recommendedFee.toNumber)
          (comparativeSimulation simulated).1 (comparativeSimulation simulated).2.leastExpensive
      ↔ FailuresBehind IsFree simulated ∧ LeastFeeComesFirst simulated := by
  obtain ⟨best, isBest, isCheapest⟩ := isCheapestSoFar_leastExpensive nonempty
  have le_iff (transaction other : Transaction) (response otherResponse : SuccessResponse)
      : (resultOf (transaction, .success response)).recommendedFee.toNumber.le
            (resultOf (other, .success otherResponse)).recommendedFee.toNumber
        ↔ parseDigits (feeText transaction response)
          ≤ parseDigits (feeText other otherResponse) := by
    rw [toNumber_recommendedFee_success, toNumber_recommendedFee_success]
    exact Nat.cast_le
  rw [comparativeSimulation_results, isBestSuccess_map_iff]
  constructor
  · rintro ⟨transaction, response, found, all⟩
    obtain rfl := Option.some.inj (found.symm.trans isBest)
    obtain ⟨behind, least⟩ := isCheapest
    refine ⟨behind, transaction, response, List.mem_of_getElem? found, ?_⟩
    intro other otherResponse member
    exact ⟨least other otherResponse member, (le_iff _ _ _ _).mp (all other otherResponse member)⟩
  · rintro ⟨behind, first, firstResponse, isMember, isLeast⟩
    obtain ⟨transaction, response | error⟩ := best
    · have same : feeText transaction response = feeText first firstResponse :=
        eq_of_not_comesBefore (isDigits_iff.mp (isDigits_fees transaction response)).2
          (isDigits_iff.mp (isDigits_fees first firstResponse)).2
          (isLeast transaction response (List.mem_of_getElem? isBest)).1
          (isCheapest.2 first firstResponse isMember)
      refine ⟨transaction, response, isBest, fun other otherResponse member => ?_⟩
      rw [le_iff, same]
      exact (isLeast other otherResponse member).2
    · exact absurd behind isCheapest

/-- With a base fee of 100, a resource fee of 10 comes before one of 9. -/
example : comesBefore "10010".toList "1009".toList = true := by decide

-----------------------------------------------------------------------------------------
-- The most efficient
-----------------------------------------------------------------------------------------

/-- The efficiency of a number against a limit is a number that is not negative. -/
theorem efficiency_finite (used : ℚ) {limit : ℚ} (nonzero : limit ≠ 0)
    : ∃ value, 0 ≤ value ∧ efficiency (.finite used) limit = .finite value := by
  have notNegative (value : ℚ) : 0 ≤ if 0 < value then value else 0 := by
    split
    · rename_i positive
      exact positive.le
    · exact Rat.le_refl
  rw [efficiency, JsNumber.div, if_pos nonzero]
  dsimp only [JsNumber.times, JsNumber.sub]
  rw [JsNumber.min_finite, JsNumber.max_finite]
  exact ⟨_, notNegative _, rfl⟩

/-- The overall efficiency as a fraction. -/
def overallEfficiency (entry : Simulated) : ℚ :=
  match (resultOf entry).analysis.overallEfficiency with
  | .finite value => value
  | .nan | .infinity _ => 0

/-- The overall efficiency is a fraction that is not negative. -/
theorem overallEfficiency_spec (entry : Simulated)
    : (resultOf entry).analysis.overallEfficiency = .finite (overallEfficiency entry)
      ∧ 0 ≤ overallEfficiency entry := by
  have ofFinite {value : ℚ}
      (isFinite : (resultOf entry).analysis.overallEfficiency = .finite value) (nonneg : 0 ≤ value)
      : (resultOf entry).analysis.overallEfficiency = .finite (overallEfficiency entry)
        ∧ 0 ≤ overallEfficiency entry := by
    have same : overallEfficiency entry = value := by rw [overallEfficiency, isFinite]
    rw [same]
    exact ⟨isFinite, nonneg⟩
  obtain ⟨transaction, response | error⟩ := entry
  · obtain ⟨cpu, cpuNonneg, isCpu⟩ :=
      efficiency_finite (totalCpu (operationsOf response)) (by norm_num : (1000000 : ℚ) ≠ 0)
    obtain ⟨memory, memoryNonneg, isMemory⟩ :=
      efficiency_finite (((operationsOf response).map (·.memoryBytes)).sum : Nat)
        (by norm_num : (100000 : ℚ) ≠ 0)
    obtain ⟨fee, feeNonneg, isFee⟩ :=
      efficiency_finite (parseDigits (feeText transaction response))
        (by norm_num : (1000000 : ℚ) ≠ 0)
    have isOverall
        : (resultOf (transaction, .success response)).analysis.overallEfficiency
          = .finite ((cpu + memory + fee) / 3) := by
      change (((efficiency (.finite _) _).add (efficiency (.finite _) _)).add
        (efficiency (resultOf (transaction, .success response)).recommendedFee.toNumber _)).div
          (.finite 3) = _
      rw [toNumber_recommendedFee_success, isCpu, isMemory, isFee]
      dsimp only [JsNumber.add]
      rw [JsNumber.div, if_pos three_ne_zero]
    exact ofFinite isOverall (by positivity)
  · exact ofFinite rfl Rat.le_refl

/-- A result is more efficient by its overall efficiency. -/
theorem isMoreEfficient_iff (entry other : Simulated)
    : isMoreEfficient (resultOf entry) (resultOf other) = true
      ↔ OrderDual.toDual (overallEfficiency entry)
        < OrderDual.toDual (overallEfficiency other) := by
  rw [isMoreEfficient, (overallEfficiency_spec entry).1, (overallEfficiency_spec other).1,
    decide_eq_true_iff, OrderDual.toDual_lt_toDual]
  rfl

/-- A result is at most as efficient as another by its overall efficiency. -/
theorem overallEfficiency_le_iff (entry other : Simulated)
    : (resultOf other).analysis.overallEfficiency.le (resultOf entry).analysis.overallEfficiency
      ↔ overallEfficiency other ≤ overallEfficiency entry := by
  rw [(overallEfficiency_spec entry).1, (overallEfficiency_spec other).1]
  rfl

/-- The most efficient is the most efficient success exactly if the first is a success, or some
success is efficient at all.
-/
theorem mostEfficient_iff {simulated : List Simulated} (nonempty : simulated ≠ [])
    : IsBestSuccess
          (fun best other =>
            other.analysis.overallEfficiency.le best.analysis.overallEfficiency)
          (comparativeSimulation simulated).1 (comparativeSimulation simulated).2.mostEfficient
      ↔ (∃ transaction response,
            simulated[0]? = some (transaction, SimulationResponse.success response))
        ∨ ∃ transaction response,
            (transaction, SimulationResponse.success response) ∈ simulated
            ∧ 0 < overallEfficiency (transaction, .success response) := by
  have isIndex : (comparativeSimulation simulated).2.mostEfficient
      = bestIndex (fun entry other => isMoreEfficient (resultOf entry) (resultOf other))
          simulated :=
    bestIndex_map isMoreEfficient resultOf simulated
  obtain ⟨best, isBest, greatest, before⟩ :=
    bestIndex_least _ (fun entry => OrderDual.toDual (overallEfficiency entry))
      isMoreEfficient_iff nonempty
  simp only [OrderDual.toDual_le_toDual, OrderDual.toDual_lt_toDual] at greatest before
  -- Nothing is less efficient than what is not efficient at all, so that this is the best only if
  -- it is the first.
  have isFirst (inefficient : overallEfficiency best ≤ 0) : simulated[0]? = some best := by
    rcases Nat.eq_zero_or_pos (bestIndex
      (fun entry other => isMoreEfficient (resultOf entry) (resultOf other)) simulated)
      with atStart | behind
    · rwa [atStart] at isBest
    · have found : simulated[0]? = some (simulated.head nonempty) := by
        rw [← List.head?_eq_getElem?, List.head?_eq_some_head]
      have less := before 0 _ behind found
      exact absurd (less.trans_le inefficient) (not_lt.mpr (overallEfficiency_spec _).2)
  rw [comparativeSimulation_results, isIndex, isBestSuccess_map_iff]
  constructor
  · rintro ⟨transaction, response, found, -⟩
    obtain rfl := Option.some.inj (found.symm.trans isBest)
    by_cases isEfficient : 0 < overallEfficiency (transaction, .success response)
    · exact .inr ⟨transaction, response, List.mem_of_getElem? found, isEfficient⟩
    · exact .inl ⟨transaction, response, isFirst (not_lt.mp isEfficient)⟩
  · intro someEfficient
    obtain ⟨transaction, response | error⟩ := best
    · exact ⟨transaction, response, isBest, fun other otherResponse member =>
        (overallEfficiency_le_iff _ _).mpr (greatest _ member)⟩
    · have isZero : overallEfficiency (transaction, .failure error) = 0 := rfl
      rcases someEfficient with ⟨first, response, found⟩ | ⟨other, response, member, efficient⟩
      · have isFailure := isFirst isZero.le
        rw [found] at isFailure
        cases isFailure
      · exact absurd (greatest _ member) (not_le.mpr (isZero ▸ efficient))

-----------------------------------------------------------------------------------------
-- All three
-----------------------------------------------------------------------------------------

/-- If some simulation succeeds, the comparison names the best successes exactly if they stand out
from the failures.
-/
theorem comparison_right_iff (simulated : List Simulated)
    : (SomeSucceeded simulated → NamesBestSuccesses simulated)
      ↔ (SomeSucceeded simulated → SuccessesStandOut simulated) := by
  refine imp_congr_right fun ⟨transaction, response, member⟩ => ?_
  have nonempty : simulated ≠ [] := List.ne_nil_of_mem member
  constructor
  · intro names
    obtain ⟨fee, order⟩ := (leastExpensive_iff nonempty).mp names.leastExpensive
    exact ⟨(fastest_iff nonempty).mp names.fastest, fee, order⟩
  · intro standOut
    refine ⟨?_, (fastest_iff nonempty).mpr standOut.cpu, ?_⟩
    · exact (leastExpensive_iff nonempty).mpr ⟨standOut.fee, standOut.order⟩
    · have isFirst : simulated[0]? = some (simulated.head nonempty) := by
        rw [← List.head?_eq_getElem?, List.head?_eq_some_head]
      obtain ⟨first, isSuccess⟩ := standOut.cpu.first isFirst
      exact (mostEfficient_iff nonempty).mpr
        (.inl ⟨(simulated.head nonempty).1, first, by rw [isFirst, ← isSuccess]⟩)

/-- A failure in front of a success is named as the fastest. -/
theorem failure_is_named_fastest
    : ¬ ∀ simulated : List Simulated, SomeSucceeded simulated → NamesBestSuccesses simulated := by
  intro always
  let response : SuccessResponse :=
    {
      results := some [{ cpuInstructions := some 1 }]
      minResourceFee := "1".toList
      isDecimal := by decide
    }
  obtain ⟨best, isBest, isSuccess, -⟩ :=
    (always [({ amount := 100 }, .failure "trapped"), ({ amount := 100 }, .success response)]
      ⟨_, _, List.mem_cons_of_mem _ List.mem_cons_self⟩).fastest
  cases isBest
  cases isSuccess

end Axionvera.Simulation
