import Mathlib.Algebra.Order.Ring.Cast
import Mathlib.Algebra.Order.Ring.Rat

/-! JavaScript numbers, with exact fractions in place of rounded ones. -/

namespace Axionvera.Foundation

/-- A JavaScript number. -/
inductive JsNumber where
  | finite (value : ℚ)
  | nan
  | infinity (negative : Bool)
  deriving DecidableEq

namespace JsNumber

/-- The number counts as true in a condition. -/
def isTruthy : JsNumber → Bool
  | .finite value => value ≠ 0
  | .nan => false
  | .infinity _ => true

/-- The number is greater than a whole number. -/
def isAbove (number : JsNumber) (value : Int) : Bool :=
  match number with
  | .finite bound => (value : ℚ) < bound
  | .nan => false
  | .infinity negative => !negative

/-- The number is at most a whole number. -/
def isAtMost (number : JsNumber) (value : Int) : Bool :=
  match number with
  | .finite bound => bound ≤ (value : ℚ)
  | .nan => false
  | .infinity negative => negative

/-- The number is at least a whole number. -/
def isAtLeast (number : JsNumber) (value : Int) : Bool :=
  match number with
  | .finite bound => (value : ℚ) ≤ bound
  | .nan => false
  | .infinity negative => !negative

/-- The number has no fraction. -/
def isWhole : JsNumber → Bool
  | .finite value => value.isInt
  | .nan => false
  | .infinity _ => true

/-- The difference of two numbers, which is NaN between equal infinities. -/
def sub : JsNumber → JsNumber → JsNumber
  | .finite left, .finite right => .finite (left - right)
  | .finite _, .infinity negative => .infinity (!negative)
  | .infinity negative, .finite _ => .infinity negative
  | .infinity left, .infinity right => if left = right then .nan else .infinity left
  | .nan, _ | _, .nan => .nan

/-- The number is less than the other. -/
def lt : JsNumber → JsNumber → Prop
  | .finite left, .finite right => left < right
  | .finite _, .infinity negative => negative = false
  | .infinity negative, .finite _ => negative = true
  | .infinity left, .infinity right => left = true ∧ right = false
  | .nan, _ | _, .nan => False

instance decidableLt : (left right : JsNumber) → Decidable (left.lt right)
  | .finite left, .finite right => inferInstanceAs (Decidable (left < right))
  | .finite _, .infinity negative => inferInstanceAs (Decidable (negative = false))
  | .infinity negative, .finite _ => inferInstanceAs (Decidable (negative = true))
  | .infinity left, .infinity right => inferInstanceAs (Decidable (left = true ∧ right = false))
  | .nan, .finite _ | .nan, .nan | .nan, .infinity _ => .isFalse id
  | .finite _, .nan | .infinity _, .nan => .isFalse id

/-- A number that is less than a finite one is less than every greater one. -/
theorem lt_finite_of_le {number : JsNumber} {low high : ℚ} (less : number.lt (.finite low))
    (le : low ≤ high)
    : number.lt (.finite high) := by
  cases number with
  | finite value => exact lt_of_lt_of_le (show value < low from less) le
  | nan => cases less
  | infinity negative => exact less

/-- A number that is not at most a whole number is not less than it. -/
theorem not_lt_of_isAtMost_eq_false {number : JsNumber} {value : Int}
    (above : number.isAtMost value = false)
    : ¬ number.lt (.finite value) := by
  cases number with
  | finite bound =>
      simp only [isAtMost, decide_eq_false_iff_not] at above
      exact fun less => above (le_of_lt less)
  | nan => exact id
  | infinity negative => simpa [isAtMost, lt] using above

/-- A number that is at least something is more than a whole number, or at most that. -/
theorem finite_lt_of_isAtMost_eq_false {number : JsNumber} {low value : Int}
    (atLeast : number.isAtLeast low = true) (above : number.isAtMost value = false)
    : (finite value).lt number := by
  cases number with
  | finite bound =>
      simp only [isAtMost, decide_eq_false_iff_not, not_le] at above
      exact above
  | nan => cases atLeast
  | infinity negative => exact above

/-- What is less than a number is less than every number that is at least something and not less. -/
theorem finite_lt_of_not_lt {value : ℚ} {number other : JsNumber} {low : Int}
    (less : (finite value).lt number) (atLeast : other.isAtLeast low = true)
    (notLess : ¬ other.lt number)
    : (finite value).lt other := by
  cases number with
  | finite bound =>
      cases other with
      | finite otherBound => exact lt_of_lt_of_le (show value < bound from less) (not_lt.mp notLess)
      | nan => cases atLeast
      | infinity negative => simpa [isAtLeast, lt] using atLeast
  | nan => cases less
  | infinity negative =>
      cases other with
      | finite otherBound => exact absurd less notLess
      | nan => cases atLeast
      | infinity negative => simpa [isAtLeast, lt] using atLeast

/-- A number that is at least a whole number is at least every smaller one. -/
theorem isAtLeast_of_le {number : JsNumber} {low high : Int}
    (atLeast : number.isAtLeast high = true) (le : low ≤ high)
    : number.isAtLeast low = true := by
  cases number with
  | finite bound =>
      simp only [isAtLeast, decide_eq_true_eq] at atLeast ⊢
      exact (Int.cast_le.mpr le).trans atLeast
  | nan => cases atLeast
  | infinity negative => exact atLeast

/-- A number without a fraction that is above a whole number is at least the next one. -/
theorem isAtLeast_succ {number : JsNumber} {value : Int} (whole : number.isWhole = true)
    (atLeast : number.isAtLeast value = true) (differs : number.isAtMost value = false)
    : number.isAtLeast (value + 1) = true := by
  cases number with
  | finite bound =>
      simp only [isAtLeast, isAtMost, isWhole, decide_eq_true_eq, decide_eq_false_iff_not,
        not_le] at atLeast differs whole ⊢
      rw [Rat.eq_num_of_isInt whole] at differs ⊢
      exact_mod_cast Int.add_one_le_of_lt (by exact_mod_cast differs)
  | nan => cases atLeast
  | infinity negative => exact atLeast

/-- A number without a fraction that is not at most a whole number is at least the next one. -/
theorem isAtLeast_succ_of_not_isAtMost {number : JsNumber} {value : Int}
    (whole : number.isWhole = true) (differs : number.isAtMost value = false)
    : number.isAtLeast (value + 1) = true := by
  refine isAtLeast_succ whole ?_ differs
  cases number with
  | finite bound =>
      simp only [isAtLeast, isAtMost, decide_eq_true_eq, decide_eq_false_iff_not, not_le]
        at differs ⊢
      exact differs.le
  | nan => cases whole
  | infinity negative => simpa [isAtLeast, isAtMost] using differs

/-- A number that is not at most a whole number is not at most a smaller one. -/
theorem isAtMost_eq_false_of_le {number : JsNumber} {low high : Int}
    (differs : number.isAtMost high = false) (le : low ≤ high)
    : number.isAtMost low = false := by
  cases number with
  | finite bound =>
      simp only [isAtMost, decide_eq_false_iff_not, not_le] at differs ⊢
      exact (Int.cast_le.mpr le).trans_lt differs
  | nan => rfl
  | infinity negative => exact differs

/-- A number that is at least a whole number is above every smaller one. -/
theorem isAtMost_of_lt {number : JsNumber} {low high : Int}
    (atLeast : number.isAtLeast high = true) (lt : low < high)
    : number.isAtMost low = false := by
  cases number with
  | finite bound =>
      simp only [isAtLeast, isAtMost, decide_eq_true_eq, decide_eq_false_iff_not, not_le]
        at atLeast ⊢
      exact (Int.cast_lt.mpr lt).trans_le atLeast
  | nan => rfl
  | infinity negative => simpa [isAtLeast, isAtMost] using atLeast

end JsNumber

end Axionvera.Foundation
