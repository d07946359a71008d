import Axionvera.Foundation.JsNumber
import Mathlib.Algebra.Order.Field.Power
import Mathlib.Data.Int.Log
import Mathlib.Data.Rat.Floor
import Mathlib.Tactic.Linarith
import Mathlib.Tactic.NormNum
import Mathlib.Tactic.Positivity
import Mathlib.Tactic.Ring

/-! The number of JavaScript that is nearest to a fraction: 53 binary digits, ties to even. -/

namespace Axionvera.Foundation

/-- The nearest integer, the even one of two. -/
def roundHalfEven (value : ℚ) : Int :=
  let below := ⌊value⌋
  let rest := value - below
  if rest < 1 / 2 then below
  else if 1 / 2 < rest then below + 1
  else if below % 2 = 0 then below
  else below + 1

/-- The place of the last binary digit of the number that is nearest to a value. -/
def lastPlace (value : ℚ) : Int :=
  max (Int.log 2 |value| - 52) (-1074)

/-- The nearest number. -/
def nearestNumber (value : ℚ) : JsNumber :=
  let unit : ℚ := 2 ^ lastPlace value
  let nearest := roundHalfEven (value / unit) * unit
  if 2 ^ 1024 ≤ |nearest| then .infinity (decide (nearest < 0)) else .finite nearest

/-- An integer is nearest to itself. -/
theorem roundHalfEven_intCast (value : Int) : roundHalfEven value = value := by
  rw [roundHalfEven, Int.floor_intCast, sub_self, if_pos (by norm_num)]

/-- The nearest integer is the one below or the one above. -/
theorem roundHalfEven_bounds (value : ℚ)
    : ⌊value⌋ ≤ roundHalfEven value ∧ roundHalfEven value ≤ ⌊value⌋ + 1 := by
  unfold roundHalfEven
  dsimp only
  split_ifs <;> omega

/-- Integers of at most 53 binary digits are numbers. -/
theorem nearestNumber_of_lt {value : Int} (small : |value| < 2 ^ 53)
    : nearestNumber value = .finite value := by
  have below : (|(value : ℚ)|) < 2 ^ 53 := by exact_mod_cast small
  have log : Int.log 2 |(value : ℚ)| ≤ 52 := by
    rcases eq_or_ne value 0 with rfl | nonzero
    · simp
    · have positive : 0 < |(value : ℚ)| := abs_pos.mpr (Int.cast_ne_zero.mpr nonzero)
      have less := (Int.lt_zpow_iff_log_lt (b := 2) (x := 53) (by decide) positive).mp
        (by exact_mod_cast below)
      omega
  obtain ⟨places, isPlaces⟩ : ∃ places : Nat, lastPlace value = -(places : Int) := by
    refine ⟨(-lastPlace value).toNat, ?_⟩
    unfold lastPlace
    omega
  have unit : (2 : ℚ) ^ lastPlace value = (2 ^ places)⁻¹ := by
    rw [isPlaces, zpow_neg, zpow_natCast]
  have shifted : (value : ℚ) / 2 ^ lastPlace value = ((value * 2 ^ places : Int) : ℚ) := by
    rw [unit, div_inv_eq_mul]
    push_cast
    rfl
  have nearest : (roundHalfEven ((value : ℚ) / 2 ^ lastPlace value) : ℚ) * 2 ^ lastPlace value
      = value := by
    rw [shifted, roundHalfEven_intCast, unit]
    push_cast
    rw [mul_assoc, mul_inv_cancel₀ (by positivity), mul_one]
  have finite : ¬ (2 : ℚ) ^ 1024 ≤ |(value : ℚ)| := by
    have more : (2 : ℚ) ^ 53 ≤ 2 ^ 1024 := pow_le_pow_right₀ (by norm_num) (by norm_num)
    exact not_le.mpr (below.trans_le more)
  unfold nearestNumber
  dsimp only
  rw [nearest, if_neg finite]

/-- In units of its last place, a longer integer has 53 binary digits before the point. -/
theorem le_abs_div_of_le {value : Int} (large : 2 ^ 53 ≤ |value|)
    : 1 ≤ lastPlace value ∧ 2 ^ 52 ≤ |(value : ℚ)| / 2 ^ lastPlace value := by
  have above : (2 : ℚ) ^ 53 ≤ |(value : ℚ)| := by exact_mod_cast large
  have positive : 0 < |(value : ℚ)| := lt_of_lt_of_le (by norm_num) above
  have log : 53 ≤ Int.log 2 |(value : ℚ)| :=
    (Int.zpow_le_iff_le_log (b := 2) (x := 53) (by decide) positive).mp (by exact_mod_cast above)
  have place : lastPlace value = Int.log 2 |(value : ℚ)| - 52 := by
    unfold lastPlace
    omega
  refine ⟨by omega, ?_⟩
  have digits := Int.zpow_log_le_self (b := 2) (by decide) positive
  rw [le_div_iff₀ (zpow_pos (by norm_num) _), place, ← zpow_natCast, ← zpow_add₀ (by norm_num)]
  calc (2 : ℚ) ^ (((52 : Nat) : Int) + (Int.log 2 |(value : ℚ)| - 52))
      = ((2 : Nat) : ℚ) ^ Int.log 2 |(value : ℚ)| := by
        congr 1
        omega
    _ ≤ |(value : ℚ)| := digits

/-- The nearest integer to a large fraction is large. -/
theorem le_abs_roundHalfEven {value : ℚ} (large : 2 ^ 52 ≤ |value|)
    : 2 ^ 52 - 1 ≤ |roundHalfEven value| := by
  obtain ⟨above, below⟩ := roundHalfEven_bounds value
  rcases le_total 0 value with positive | negative
  · rw [abs_of_nonneg positive] at large
    have floor : (2 ^ 52 : Int) ≤ ⌊value⌋ := Int.le_floor.mpr (by exact_mod_cast large)
    exact le_trans (by omega) (le_abs_self _)
  · rw [abs_of_nonpos negative] at large
    have floor : ⌊value⌋ ≤ -(2 ^ 52 : Int) := by
      have least : (⌊value⌋ : ℚ) ≤ -2 ^ 52 := (Int.floor_le value).trans (by linarith)
      exact_mod_cast least
    exact le_trans (by omega) (neg_le_abs _)

/-- What is nearest to a longer integer is large, too. -/
theorem le_of_nearestNumber_eq {value : Int} {nearest : ℚ} (large : 2 ^ 53 ≤ |value|)
    (isNearest : nearestNumber value = .finite nearest)
    : 2 ^ 52 ≤ |nearest| := by
  obtain ⟨place, scaled⟩ := le_abs_div_of_le large
  have unit : (2 : ℚ) ≤ 2 ^ lastPlace value := by
    calc (2 : ℚ) = 2 ^ (1 : Int) := (zpow_one 2).symm
      _ ≤ 2 ^ lastPlace value := zpow_le_zpow_right₀ (by norm_num) place
  have positive : (0 : ℚ) < 2 ^ lastPlace value := by linarith
  have digits : (2 ^ 52 - 1 : ℚ) ≤ |(roundHalfEven (value / 2 ^ lastPlace value) : ℚ)| := by
    have rounded := le_abs_roundHalfEven
      (by rwa [abs_div, abs_of_pos positive] : 2 ^ 52 ≤ |(value : ℚ) / 2 ^ lastPlace value|)
    exact_mod_cast rounded
  unfold nearestNumber at isNearest
  dsimp only at isNearest
  split_ifs at isNearest
  obtain rfl := JsNumber.finite.inj isNearest
  rw [abs_mul, abs_of_pos positive]
  calc (2 : ℚ) ^ 52 ≤ (2 ^ 52 - 1) * 2 := by norm_num
    _ ≤ |(roundHalfEven (value / 2 ^ lastPlace value) : ℚ)| * 2 ^ lastPlace value :=
        mul_le_mul digits unit (by norm_num) (abs_nonneg _)

/-- The first integer that is no number lies between two that are, and goes to the even one. -/
example : nearestNumber 9007199254740993 = .finite 9007199254740992 := by
  decide +kernel

end Axionvera.Foundation
