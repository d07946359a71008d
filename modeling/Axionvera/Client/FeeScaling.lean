import Axionvera.Client.FeeBuffer

/-! Fees are scaled to the exact ceiling: to the least whole number that is not below the product of
the amount and the multiplier, however many digits the multiplier prints with.
-/

namespace Axionvera.Client.FeeBuffer

open Axionvera.Foundation

variable {multiplier : DecimalNumber}

/-- The fraction of a multiplier has a positive denominator and is the number that the multiplier
prints as.
-/
def HasExactFraction (multiplier : DecimalNumber) : Prop :=
  ∃ numerator denominator,
    toFraction multiplier = .ok (numerator, denominator)
    ∧ 0 < denominator
    ∧ (numerator / denominator : ℚ) = multiplier.value

/-- The amount is scaled to the least whole number that is not below its product with the
multiplier, which is no less than the amount, and the amount itself for a multiplier of one.
-/
structure ScalesExactly (multiplier : DecimalNumber) (amount scaled : Nat) : Prop where
  returned : multiplyAndCeil amount multiplier = .ok scaled
  isLeast : IsLeast { whole : Int | (amount : ℚ) * multiplier.value ≤ whole } scaled
  notBelow : amount ≤ scaled
  sameForOne : multiplier.value = 1 → scaled = amount

/-- An amount that is not negative is scaled to the ceiling of the product. -/
theorem multiplyAndCeil_natCast (atLeastOne : 1 ≤ multiplier.value)
    (small : multiplier.value < 10 ^ 21) (amount : Nat)
    : multiplyAndCeil amount multiplier = .ok ⌈(amount : ℚ) * multiplier.value⌉₊ := by
  have exact := multiplyAndCeil_eq atLeastOne small (Int.natCast_nonneg amount)
  rwa [Int.cast_natCast, mul_comm] at exact

/-- The ceiling is the least whole number that is not below. -/
theorem isLeast_ceil {value : ℚ} (nonneg : 0 ≤ value)
    : IsLeast { whole : Int | value ≤ whole } (⌈value⌉₊ : Int) := by
  constructor
  · have above := Nat.le_ceil value
    simpa using above
  · intro whole isAbove
    rw [Int.natCast_ceil_eq_ceil nonneg]
    exact Int.ceil_le.mpr isAbove

/-- Every amount is scaled exactly. -/
theorem scalesExactly (atLeastOne : 1 ≤ multiplier.value) (small : multiplier.value < 10 ^ 21)
    (amount : Nat)
    : ScalesExactly multiplier amount ⌈(amount : ℚ) * multiplier.value⌉₊ where
  returned := multiplyAndCeil_natCast atLeastOne small amount
  isLeast :=
    isLeast_ceil (mul_nonneg (Nat.cast_nonneg amount) (zero_le_one.trans atLeastOne))
  notBelow := by
    have grown : (amount : ℚ) ≤ amount * multiplier.value :=
      le_mul_of_one_le_right (Nat.cast_nonneg amount) atLeastOne
    exact_mod_cast grown.trans (Nat.le_ceil _)
  sameForOne := by
    intro isOne
    rw [isOne, mul_one, Nat.ceil_natCast]

/-- Every multiplier from one up to `10 ^ 21` has an exact fraction and scales every amount exactly,
to no more than a greater amount is scaled to by a greater multiplier.
-/
theorem fee_scaling_exact (multiplier : DecimalNumber) (atLeastOne : 1 ≤ multiplier.value)
    (small : multiplier.value < 10 ^ 21) (amount : Nat)
    : HasExactFraction multiplier
      ∧ ∃ scaled,
          ScalesExactly multiplier amount scaled
          ∧ ∀ (other : DecimalNumber) (more otherScaled : Nat),
              multiplier.value ≤ other.value
              → other.value < 10 ^ 21
              → amount ≤ more
              → multiplyAndCeil more other = .ok otherScaled
              → scaled ≤ otherScaled := by
  constructor
  · obtain ⟨numerator, denominator, isFraction, positive, exact⟩ :=
      toFraction_value atLeastOne small
    exact ⟨numerator, denominator, isFraction, positive, exact.symm⟩
  · refine ⟨_, scalesExactly atLeastOne small amount, ?_⟩
    intro other more otherScaled greater otherSmall isMore isScaled
    rw [multiplyAndCeil_natCast (atLeastOne.trans greater) otherSmall more] at isScaled
    obtain rfl := Except.ok.inj isScaled
    have products : (amount : ℚ) * multiplier.value ≤ more * other.value :=
      mul_le_mul (Nat.cast_le.mpr isMore) greater (zero_le_one.trans atLeastOne)
        (Nat.cast_nonneg more)
    exact Nat.ceil_mono products

/-- The fraction of 1.15, and what it scales 2000 stroops to. -/
theorem fee_scaling_exact_oneFifteen
    : HasExactFraction oneFifteen
      ∧ ∃ scaled,
          ScalesExactly oneFifteen 2000 scaled
          ∧ ∀ (other : DecimalNumber) (more otherScaled : Nat),
              oneFifteen.value ≤ other.value
              → other.value < 10 ^ 21
              → 2000 ≤ more
              → multiplyAndCeil more other = .ok otherScaled
              → scaled ≤ otherScaled :=
  fee_scaling_exact oneFifteen (by norm_num [oneFifteen_value]) (by norm_num [oneFifteen_value])
    2000

end Axionvera.Client.FeeBuffer
