import Axionvera.Foundation.JsNumber
import Mathlib.Algebra.BigOperators.Group.List.Lemmas
import Mathlib.Algebra.BigOperators.Ring.Finset
import Mathlib.Algebra.BigOperators.Ring.List
import Mathlib.Algebra.Order.BigOperators.Group.List
import Mathlib.Algebra.Order.Floor.Semiring
import Mathlib.Data.Rat.Floor
import Mathlib.Tactic.FieldSimp
import Mathlib.Tactic.Positivity

/-! Exact sums, products, quotients and ceilings of JavaScript numbers, and an amount that is shared
in proportion with every share rounded up.
-/

namespace Axionvera.Foundation

namespace JsNumber

/-- `left + right` without a limit. -/
def add : JsNumber → JsNumber → JsNumber
  | .finite left, .finite right => .finite (left + right)
  | .finite _, .infinity negative | .infinity negative, .finite _ => .infinity negative
  | .infinity left, .infinity right => if left = right then .infinity left else .nan
  | .nan, _ | _, .nan => .nan

/-- `left * right` without a limit. -/
def times : JsNumber → JsNumber → JsNumber
  | .finite left, .finite right => .finite (left * right)
  | .finite value, .infinity negative | .infinity negative, .finite value =>
      if value = 0 then .nan else .infinity (negative != decide (value < 0))
  | .infinity left, .infinity right => .infinity (left != right)
  | .nan, _ | _, .nan => .nan

/-- `left / right`. Zero has no sign. -/
def div : JsNumber → JsNumber → JsNumber
  | .finite left, .finite right =>
      if right ≠ 0 then .finite (left / right)
      else if left = 0 then .nan
      else .infinity (left < 0)
  | .finite _, .infinity _ => .finite 0
  | .infinity negative, .finite value => .infinity (negative != decide (value < 0))
  | .infinity _, .infinity _ => .nan
  | .nan, _ | _, .nan => .nan

/-- `Math.ceil(number)`. -/
def ceil : JsNumber → JsNumber
  | .finite value => .finite ⌈value⌉
  | .nan => .nan
  | .infinity negative => .infinity negative

/-- `Math.max(left, right)`. -/
def max (left right : JsNumber) : JsNumber :=
  if left = .nan ∨ right = .nan then .nan
  else if left.lt right then right
  else left

/-- The maximum of fractions is one of them. -/
theorem max_finite (left right : ℚ)
    : (finite left).max (finite right) = finite (if left < right then right else left) := by
  have areNumbers : ¬ (finite left = .nan ∨ finite right = .nan) := by
    rintro (isNan | isNan) <;> cases isNan
  rw [max, if_neg areNumbers, apply_ite finite]
  rfl

end JsNumber

/-- The share of an amount in proportion to a weight, rounded up. -/
def roundedShare (amount total weight : Nat) : Nat :=
  ⌈(weight / total : ℚ) * amount⌉₊

/-- The shares before they are rounded are the whole amount. -/
theorem sum_shares {weights : List Nat} (positive : 0 < weights.sum) (amount : Nat)
    : (weights.map fun weight : Nat => (weight / (weights.sum : Nat) : ℚ) * amount).sum
      = amount := by
  have total : (weights.map fun weight : Nat => (weight : ℚ)).sum = (weights.sum : Nat) := by
    rw [Nat.cast_list_sum]
  have nonzero : ((weights.sum : Nat) : ℚ) ≠ 0 := by exact_mod_cast positive.ne'
  simp only [div_eq_mul_inv, mul_assoc]
  rw [List.sum_map_mul_right, total]
  field_simp

/-- The rounded shares are added as whole numbers. -/
theorem sum_cast_roundedShares (amount total : Nat) (weights : List Nat)
    : (weights.map fun weight => (roundedShare amount total weight : ℚ)).sum
      = ((weights.map (roundedShare amount total)).sum : Nat) := by
  rw [Nat.cast_list_sum, List.map_map]
  rfl

/-- The rounded shares are at least the amount. -/
theorem le_sum_roundedShares {weights : List Nat} (positive : 0 < weights.sum) (amount : Nat)
    : amount ≤ (weights.map (roundedShare amount weights.sum)).sum := by
  have below
      : (weights.map fun weight : Nat => (weight / (weights.sum : Nat) : ℚ) * amount).sum
        ≤ (weights.map fun weight => (roundedShare amount weights.sum weight : ℚ)).sum :=
    List.sum_le_sum fun weight _ => Nat.le_ceil _
  rw [sum_shares positive] at below
  rw [sum_cast_roundedShares] at below
  exact_mod_cast below

/-- Rounding adds less than one to each share. -/
theorem sum_roundedShares_lt {weights : List Nat} (positive : 0 < weights.sum) (amount : Nat)
    : (weights.map (roundedShare amount weights.sum)).sum < amount + weights.length := by
  have nonempty : weights ≠ [] := by
    rintro rfl
    exact Nat.lt_irrefl 0 positive
  have below
      : (weights.map fun weight => (roundedShare amount weights.sum weight : ℚ)).sum
        < (weights.map fun weight : Nat =>
            (weight / (weights.sum : Nat) : ℚ) * amount + 1).sum :=
    List.sum_lt_sum_of_ne_nil nonempty _ _ fun weight _ => Nat.ceil_lt_add_one (by positivity)
  rw [List.sum_map_add, sum_shares positive, List.map_const', List.sum_replicate, nsmul_one]
    at below
  rw [sum_cast_roundedShares] at below
  exact_mod_cast below

end Axionvera.Foundation
