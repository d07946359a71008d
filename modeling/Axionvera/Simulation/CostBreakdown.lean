import Axionvera.Simulation.TransactionSimulator

/-! What the costs of a successful simulation add up to: the fee of the response is a text, which is
put behind the base fee, and shared among operations only if one of them uses CPU.
-/

namespace Axionvera.Simulation

open Axionvera.Foundation

/-- The number that the fee of a response denotes. -/
def SuccessResponse.resourceFee (response : SuccessResponse) : Nat :=
  parseDigits response.minResourceFee

/-- The CPU instructions of each operation of a response. -/
def SuccessResponse.operationCpu (response : SuccessResponse) : List Nat :=
  (response.results.getD []).map (·.cpuInstructions.getD 0)

/-- The fees of the operations are whole numbers. If some operation uses CPU, they are together at
least the resource fee, and exceed it by less than one for each operation.
-/
def FeesAreShared (transaction : Transaction) (response : SuccessResponse) : Prop :=
  ∃ fees : List Nat,
    ((detailedSimulation transaction (.success response)).perOperation.map (·.fee)
      = fees.map fun fee : Nat => .finite fee)
    ∧ ((∃ cpu ∈ response.operationCpu, 0 < cpu)
      → response.resourceFee ≤ fees.sum ∧ fees.sum < response.resourceFee + fees.length)

/-- The total and the recommended fee are the sum of the base fee and the resource fee, which the
operations share.
-/
structure CostsAddUp (transaction : Transaction) (response : SuccessResponse) : Prop where
  total
    : (detailedSimulation transaction (.success response)).costBreakdown.totalFee
      = .whole (transaction.amount.toNat + response.resourceFee : Nat)
  recommended
    : (detailedSimulation transaction (.success response)).recommendedFee
      = .whole (transaction.amount.toNat + response.resourceFee : Nat)
  shared : FeesAreShared transaction response

-----------------------------------------------------------------------------------------
-- The total
-----------------------------------------------------------------------------------------

/-- The fee of a response is not an empty text, so that it takes the place of zero. -/
theorem SuccessResponse.minResourceFee_ne_nil (response : SuccessResponse)
    : response.minResourceFee ≠ [] :=
  (isDigits_iff.mp response.isDecimal).1

/-- The fee of a transaction is read as the number that it was printed from. -/
theorem parseInt_fee (transaction : Transaction)
    : parseInt transaction.fee = .whole transaction.amount.toNat := by
  rw [Transaction.fee, parseInt_of_isDigits (isDigits_toDigits _), parseDigits_toDigits]

/-- The recommended fee is the text of the base fee with that of the resource fee behind it. -/
theorem recommendedFee_eq (transaction : Transaction) (response : SuccessResponse)
    : (detailedSimulation transaction (.success response)).recommendedFee
      = .text (transaction.fee ++ response.minResourceFee) := by
  change (parseInt transaction.fee).add
    (if response.minResourceFee = [] then .whole 0 else .text response.minResourceFee) = _
  rw [if_neg response.minResourceFee_ne_nil, parseInt_fee, Transaction.fee, ← bigintText_natCast]
  rfl

/-- The two fees are digits, also one behind the other. -/
theorem isDigits_fees (transaction : Transaction) (response : SuccessResponse)
    : isDigits (transaction.fee ++ response.minResourceFee) = true :=
  isDigits_append (isDigits_toDigits _) response.isDecimal

/-- Read as a number, the recommended fee is the base fee shifted by the places of the resource fee,
and the sum of the two only if the base fee is zero.
-/
theorem recommendedFee_toNumber_iff (transaction : Transaction) (response : SuccessResponse)
    : (detailedSimulation transaction (.success response)).recommendedFee.toNumber
        = .finite (transaction.amount.toNat + response.resourceFee : Nat)
      ↔ transaction.amount.toNat = 0 := by
  have places : 1 < 10 ^ response.minResourceFee.length :=
    Nat.one_lt_pow (List.length_pos_iff.mpr response.minResourceFee_ne_nil).ne' (by decide)
  rw [recommendedFee_eq]
  change exactNumber (transaction.fee ++ response.minResourceFee) = _ ↔ _
  rw [exactNumber_of_isDigits (isDigits_fees transaction response), parseDigits_append,
    Transaction.fee, parseDigits_toDigits, JsNumber.finite.injEq, Nat.cast_inj,
    ← SuccessResponse.resourceFee, Nat.add_right_cancel_iff]
  constructor
  · intro same
    by_contra nonzero
    have more := Nat.mul_lt_mul_of_pos_left places (Nat.pos_of_ne_zero nonzero)
    omega
  · intro isZero
    rw [isZero, Nat.zero_mul]

-----------------------------------------------------------------------------------------
-- The fees of the operations
-----------------------------------------------------------------------------------------

/-- The operations use the CPU that the response says. -/
theorem operationsOf_cpu (response : SuccessResponse)
    : (operationsOf response).map (·.cpuInstructions) = response.operationCpu := by
  refine List.ext_getElem ?_ fun index _ _ => ?_
  · simp [operationsOf, SuccessResponse.operationCpu]
  · simp [operationsOf, SuccessResponse.operationCpu]

/-- The fee of an operation is its rounded share of the resource fee. -/
theorem operationFee_of_pos (response : SuccessResponse) {total : Nat} (positive : 0 < total)
    (cpu : Nat)
    : operationFee cpu total (.text response.minResourceFee)
      = .finite (roundedShare response.resourceFee total cpu) := by
  have nonzero : (total : ℚ) ≠ 0 := by exact_mod_cast positive.ne'
  have isNumber : (MixedValue.text response.minResourceFee).toNumber
      = .finite response.resourceFee :=
    exactNumber_of_isDigits response.isDecimal
  rw [operationFee, isNumber, JsNumber.div, if_pos nonzero]
  change JsNumber.finite (⌈(cpu / total : ℚ) * response.resourceFee⌉ : Int) = _
  rw [roundedShare, ← Int.natCast_ceil_eq_ceil (by positivity), Int.cast_natCast]

/-- Without CPU in total, the fee of an operation without CPU is not a number. -/
theorem operationFee_zero (resourceFee : MixedValue) : operationFee 0 0 resourceFee = .nan := by
  rfl

/-- Each operation has its fee by its CPU. -/
theorem perOperation_fees (transaction : Transaction) (response : SuccessResponse)
    : (detailedSimulation transaction (.success response)).perOperation.map (·.fee)
      = response.operationCpu.map fun cpu =>
          operationFee cpu response.operationCpu.sum (.text response.minResourceFee) := by
  change ((operationsOf response).map _).map _ = _
  rw [List.map_map, ← operationsOf_cpu, List.map_map, if_neg response.minResourceFee_ne_nil]
  rfl

/-- Fees are shared as they should be if there are no operations or one of them uses CPU, and only
then.
-/
theorem feesAreShared_iff (transaction : Transaction) (response : SuccessResponse)
    : FeesAreShared transaction response
      ↔ response.operationCpu = [] ∨ ∃ cpu ∈ response.operationCpu, 0 < cpu := by
  unfold FeesAreShared
  rw [perOperation_fees]
  rcases Nat.eq_zero_or_pos response.operationCpu.sum with isZero | positive
  · have none : ∀ cpu ∈ response.operationCpu, cpu = 0 := List.sum_eq_zero_iff.mp isZero
    have noneUses : ¬ ∃ cpu ∈ response.operationCpu, 0 < cpu :=
      fun ⟨cpu, member, uses⟩ => uses.ne' (none cpu member)
    rw [or_iff_left noneUses]
    constructor
    · rintro ⟨fees, same, -⟩
      cases operations : response.operationCpu with
      | nil => rfl
      | cons first rest =>
          rw [isZero, operations, none first (operations ▸ List.mem_cons_self), List.map_cons,
            operationFee_zero] at same
          cases fees <;> cases same
    · intro noOperations
      refine ⟨[], ?_, fun uses => absurd uses noneUses⟩
      rw [noOperations]
      rfl
  · have uses : ∃ cpu ∈ response.operationCpu, 0 < cpu := by
      by_contra noneUses
      push Not at noneUses
      have isZero := List.sum_eq_zero_iff.mpr fun cpu member => Nat.le_zero.mp (noneUses cpu member)
      omega
    refine iff_of_true ⟨response.operationCpu.map
      (roundedShare response.resourceFee response.operationCpu.sum), ?_, fun _ => ⟨?_, ?_⟩⟩
      (.inr uses)
    · rw [List.map_map]
      exact List.map_congr_left fun cpu _ => operationFee_of_pos response positive cpu
    · exact le_sum_roundedShares positive response.resourceFee
    · rw [List.length_map]
      exact sum_roundedShares_lt positive response.resourceFee

/-- The costs of a successful simulation never add up: the total is a text, which reads as the sum
only for a base fee of zero. The operations share the resource fee unless all of them are without
CPU.
-/
theorem costs_never_add_up (transaction : Transaction) (response : SuccessResponse)
    : ¬ CostsAddUp transaction response
      ∧ ((detailedSimulation transaction (.success response)).recommendedFee.toNumber
          = .finite (transaction.amount.toNat + response.resourceFee : Nat)
        ↔ transaction.amount.toNat = 0)
      ∧ (FeesAreShared transaction response
        ↔ response.operationCpu = [] ∨ ∃ cpu ∈ response.operationCpu, 0 < cpu) := by
  refine ⟨fun adds => ?_, recommendedFee_toNumber_iff _ _, feesAreShared_iff _ _⟩
  have isText := adds.recommended
  rw [recommendedFee_eq] at isText
  cases isText

/-- A base fee of 100 and a resource fee of 500 are recommended as 100500. -/
theorem fees_are_put_together
    : ¬ CostsAddUp { amount := 100 }
        { results := none, minResourceFee := "500".toList, isDecimal := by decide } := by
  intro adds
  have isText
      : (MixedValue.text "100500".toList) = .whole (100 + 500 : Nat) :=
    adds.recommended
  cases isText

end Axionvera.Simulation
