import Axionvera.Foundation.JsNumber
import Mathlib.Algebra.Order.Ring.Abs
import Mathlib.Tactic.Linarith
import Mathlib.Tactic.Positivity

/-! Products, powers of two and minima of JavaScript numbers. What reaches the power of two above
all finite numbers is infinite, and the product of zero and an infinity is no number.
-/

namespace Axionvera.Foundation

namespace JsNumber

/-- The number of an exact value. -/
def ofExact (value : ℚ) : JsNumber :=
  if |value| < 2 ^ 1024 then .finite value else .infinity (value < 0)

/-- The number is infinite or below the limit, as all numbers of the language are. -/
def IsInRange : JsNumber → Prop
  | .finite value => |value| < 2 ^ 1024
  | .nan | .infinity _ => True

/-- `left * right`. -/
def mul : JsNumber → JsNumber → JsNumber
  | .finite left, .finite right => ofExact (left * right)
  | .finite value, .infinity negative | .infinity negative, .finite value =>
      if value = 0 then .nan else .infinity (negative != decide (value < 0))
  | .infinity left, .infinity right => .infinity (left != right)
  | .nan, _ | _, .nan => .nan

/-- `Math.pow(2, exponent)`. -/
def powTwo (exponent : Nat) : JsNumber :=
  ofExact (2 ^ exponent)

/-- `Math.min(left, right)`. -/
def min (left right : JsNumber) : JsNumber :=
  if left = .nan ∨ right = .nan then .nan
  else if left.lt right then left
  else right

/-- `left <= right`. -/
def le : JsNumber → JsNumber → Prop
  | .finite left, .finite right => left ≤ right
  | .finite _, .infinity negative => negative = false
  | .infinity negative, .finite _ => negative = true
  | .infinity left, .infinity right => left = true ∨ right = false
  | .nan, _ | _, .nan => False

/-- What is at least something is a number. -/
theorem ne_nan_of_isAtLeast {number : JsNumber} {low : Int} (atLeast : number.isAtLeast low = true)
    : number ≠ .nan := by
  rintro rfl
  cases atLeast

/-- A number is at most itself. -/
theorem le_refl {number : JsNumber} (isNumber : number ≠ .nan) : number.le number := by
  cases number with
  | finite value => exact Rat.le_refl
  | nan => exact absurd rfl isNumber
  | infinity negative => cases negative <;> simp [le]

/-- Numbers that are not less are at least as great. -/
theorem le_of_not_lt {left right : JsNumber} (isLeft : left ≠ .nan) (isRight : right ≠ .nan)
    (notLess : ¬ left.lt right)
    : right.le left := by
  cases left <;> cases right
  case nan.finite | nan.nan | nan.infinity => exact absurd rfl isLeft
  case finite.nan | infinity.nan => exact absurd rfl isRight
  case finite.finite => exact not_lt.mp notLess
  case finite.infinity | infinity.finite | infinity.infinity =>
    revert notLess
    simp only [lt, le]
    grind

/-- The order is transitive. -/
theorem le_trans {first second third : JsNumber} (before : first.le second)
    (after : second.le third)
    : first.le third := by
  cases first <;> cases second <;> cases third
  case finite.finite.finite => exact LE.le.trans before after
  all_goals
    revert before after
    simp only [le]
    grind

/-- A number is at most every number that it is less than. -/
theorem le_of_lt {left right : JsNumber} (less : left.lt right) : left.le right := by
  cases left <;> cases right
  case finite.finite => exact LT.lt.le less
  all_goals
    revert less
    simp only [lt, le]
    grind

/-- The minimum of numbers is a number. -/
theorem min_eq {left right : JsNumber} (isLeft : left ≠ .nan) (isRight : right ≠ .nan)
    : left.min right = if left.lt right then left else right :=
  if_neg (not_or.mpr ⟨isLeft, isRight⟩)

/-- The minimum of fractions is one of them. -/
theorem min_finite (left right : ℚ)
    : (finite left).min (finite right) = finite (if left < right then left else right) := by
  have areNumbers : finite left ≠ .nan ∧ finite right ≠ .nan := by
    constructor <;>
      · intro isNan
        cases isNan
  rw [min_eq areNumbers.1 areNumbers.2, apply_ite finite]
  rfl

/-- The minimum is at most the second number. -/
theorem min_le_right {left right : JsNumber} (isLeft : left ≠ .nan) (isRight : right ≠ .nan)
    : (left.min right).le right := by
  rw [min_eq isLeft isRight]
  split
  case isTrue less => exact le_of_lt less
  case isFalse => exact le_refl isRight

/-- The minimum with the same number keeps the order. -/
theorem min_le_min_right {left right bound : JsNumber} (isBound : bound ≠ .nan)
    (le : left.le right)
    : (left.min bound).le (right.min bound) := by
  have isLeft : left ≠ .nan := by
    rintro rfl
    cases le
  have isRight : right ≠ .nan := by
    rintro rfl
    cases left <;> cases le
  rw [min_eq isLeft isBound, min_eq isRight isBound]
  split
  case isTrue less =>
    split
    case isTrue => exact le
    case isFalse => exact le_of_lt less
  case isFalse notLess =>
    split
    case isTrue => exact le_trans (le_of_not_lt isLeft isBound notLess) le
    case isFalse => exact le_refl isBound

-----------------------------------------------------------------------------------------
-- Products with powers of two

/-- A power of two below the limit is finite. -/
theorem powTwo_of_lt {exponent : Nat} (isBelow : exponent < 1024)
    : powTwo exponent = .finite (2 ^ exponent) := by
  have positive : (0 : ℚ) < 2 ^ exponent := by positivity
  rw [powTwo, ofExact, abs_of_pos positive]
  exact if_pos (pow_lt_pow_right₀ one_lt_two isBelow)

/-- A power of two from the limit on is infinite. -/
theorem powTwo_of_le {exponent : Nat} (isAbove : 1024 ≤ exponent)
    : powTwo exponent = .infinity false := by
  have positive : (0 : ℚ) < 2 ^ exponent := by positivity
  have notBelow : ¬ (2 : ℚ) ^ exponent < 2 ^ 1024 :=
    not_lt.mpr (pow_le_pow_right₀ one_le_two isAbove)
  rw [powTwo, ofExact, abs_of_pos positive, if_neg notBelow]
  exact congrArg infinity (decide_eq_false (not_lt.mpr positive.le))

/-- The product of zero and a power of two. -/
theorem zero_mul_powTwo (exponent : Nat)
    : (finite 0).mul (powTwo exponent) = if exponent < 1024 then .finite 0 else .nan := by
  split
  case isTrue isBelow =>
    rw [powTwo_of_lt isBelow, mul, zero_mul, ofExact, abs_zero]
    exact if_pos (by positivity)
  case isFalse isAbove =>
    rw [powTwo_of_le (not_lt.mp isAbove)]
    rfl

/-- The product of an infinity and a power of two. -/
theorem infinity_mul_powTwo (exponent : Nat)
    : (infinity false).mul (powTwo exponent) = .infinity false := by
  rcases Nat.lt_or_ge exponent 1024 with isBelow | isAbove
  · have positive : (0 : ℚ) < 2 ^ exponent := by positivity
    rw [powTwo_of_lt isBelow, mul, if_neg positive.ne', decide_eq_false (not_lt.mpr positive.le)]
    rfl
  · rw [powTwo_of_le isAbove]
    rfl

/-- The product of a positive number and a power of two is exact or infinite. -/
theorem finite_mul_powTwo {value : ℚ} (positive : 0 < value) (exponent : Nat)
    : (finite value).mul (powTwo exponent)
      = if exponent < 1024 ∧ value * 2 ^ exponent < 2 ^ 1024 then
          .finite (value * 2 ^ exponent)
        else .infinity false := by
  have productPositive : 0 < value * 2 ^ exponent := by positivity
  rcases Nat.lt_or_ge exponent 1024 with isBelow | isAbove
  · rw [powTwo_of_lt isBelow, mul, ofExact, abs_of_pos productPositive,
      decide_eq_false (not_lt.mpr productPositive.le)]
    simp only [isBelow, true_and]
  · rw [powTwo_of_le isAbove, mul, if_neg positive.ne', decide_eq_false (not_lt.mpr positive.le),
      if_neg fun both => absurd both.1 (not_lt.mpr isAbove)]
    rfl

/-- The product with one is the number itself. -/
theorem mul_powTwo_zero {number : JsNumber} (inRange : number.IsInRange)
    : number.mul (powTwo 0) = number := by
  have isOne : powTwo 0 = .finite 1 := powTwo_of_lt (by decide)
  rw [isOne]
  cases number with
  | finite value =>
      rw [mul, mul_one]
      exact if_pos inRange
  | nan => rfl
  | infinity negative =>
      have notNegative : decide ((1 : ℚ) < 0) = false := by decide
      rw [mul, if_neg one_ne_zero, notNegative, Bool.bne_false]

/-- Products of a number that is not negative with powers of two grow with the exponent, as long as
they are not products of zero and an infinity.
-/
theorem mul_powTwo_le {number : JsNumber} (notNegative : number.isAtLeast 0 = true)
    {small great : Nat} (le : small ≤ great) (isNumber : number ≠ .finite 0 ∨ great < 1024)
    : (number.mul (powTwo small)).le (number.mul (powTwo great)) := by
  cases number with
  | nan => cases notNegative
  | infinity negative =>
      cases negative with
      | true => cases notNegative
      | false =>
          rw [infinity_mul_powTwo, infinity_mul_powTwo]
          exact .inr rfl
  | finite value =>
      have atLeastZero : 0 ≤ value := by simpa [isAtLeast] using notNegative
      rcases atLeastZero.eq_or_lt with rfl | positive
      · have greatBelow : great < 1024 := isNumber.resolve_left fun notZero => notZero rfl
        rw [zero_mul_powTwo, zero_mul_powTwo, if_pos greatBelow,
          if_pos (Nat.lt_of_le_of_lt le greatBelow)]
        exact Rat.le_refl
      · have grows : value * 2 ^ small ≤ value * 2 ^ great :=
          mul_le_mul_of_nonneg_left (pow_le_pow_right₀ one_le_two le) positive.le
        rw [finite_mul_powTwo positive, finite_mul_powTwo positive]
        by_cases greatFinite : great < 1024 ∧ value * 2 ^ great < 2 ^ 1024
        · have smallFinite : small < 1024 ∧ value * 2 ^ small < 2 ^ 1024 :=
            ⟨Nat.lt_of_le_of_lt le greatFinite.1, lt_of_le_of_lt grows greatFinite.2⟩
          rw [if_pos greatFinite, if_pos smallFinite]
          exact grows
        · rw [if_neg greatFinite]
          split
          · rfl
          · exact .inr rfl

end JsNumber

end Axionvera.Foundation
