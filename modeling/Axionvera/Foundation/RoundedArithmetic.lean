import Axionvera.Foundation.ExactArithmetic
import Axionvera.Foundation.JsArithmetic
import Axionvera.Foundation.NearestNumber

/-! Arithmetic of JavaScript numbers with rounded results. Rounding keeps the order of numbers
that are not negative, and so do the operations.
-/

namespace Axionvera.Foundation

-----------------------------------------------------------------------------------------
-- Rounding
-----------------------------------------------------------------------------------------

/-- Rounding to integers keeps the order. The rests decide only between equal integer parts. -/
theorem roundHalfEven_mono {low high : ℚ} (le : low ≤ high)
    : roundHalfEven low ≤ roundHalfEven high := by
  have below := roundHalfEven_bounds low
  have above := roundHalfEven_bounds high
  have floors : ⌊low⌋ ≤ ⌊high⌋ := Int.floor_mono le
  rcases floors.lt_or_eq with less | same
  · omega
  · unfold roundHalfEven
    dsimp only
    rw [same]
    split_ifs
    all_goals first | omega | linarith

/-- What is at most an integer is rounded to no more. -/
theorem roundHalfEven_le {value : ℚ} {bound : Int} (le : value ≤ bound)
    : roundHalfEven value ≤ bound :=
  (roundHalfEven_mono le).trans_eq (roundHalfEven_intCast bound)

/-- What is at least an integer is rounded to no less. -/
theorem le_roundHalfEven {value : ℚ} {bound : Int} (le : bound ≤ value)
    : bound ≤ roundHalfEven value :=
  (roundHalfEven_intCast bound).symm.trans_le (roundHalfEven_mono le)

/-- The multiple of its last place that is nearest to a value. -/
def nearestMultiple (value : ℚ) : ℚ :=
  roundHalfEven (value / 2 ^ lastPlace value) * 2 ^ lastPlace value

/-- The nearest number is that multiple, if it is not too large. -/
theorem nearestNumber_eq (value : ℚ)
    : nearestNumber value
      = if 2 ^ 1024 ≤ |nearestMultiple value| then
          .infinity (decide (nearestMultiple value < 0))
        else .finite (nearestMultiple value) :=
  rfl

/-- The unit of the last place is positive. -/
theorem lastUnit_pos (value : ℚ) : (0 : ℚ) < 2 ^ lastPlace value :=
  zpow_pos (by norm_num) _

/-- Zero is a number. -/
theorem nearestMultiple_zero : nearestMultiple 0 = 0 := by
  have exact : roundHalfEven 0 = 0 := by exact_mod_cast roundHalfEven_intCast 0
  rw [nearestMultiple, zero_div, exact, Int.cast_zero, zero_mul]

/-- What is not negative is rounded to something that is not negative. -/
theorem nearestMultiple_nonneg {value : ℚ} (nonneg : 0 ≤ value) : 0 ≤ nearestMultiple value := by
  have rounded : 0 ≤ roundHalfEven (value / 2 ^ lastPlace value) :=
    le_roundHalfEven (by simpa using div_nonneg nonneg (lastUnit_pos value).le)
  exact mul_nonneg (by exact_mod_cast rounded) (lastUnit_pos value).le

/-- In units of its last place, a value has at most 53 binary digits before the point. -/
theorem div_lastUnit_le {value : ℚ} (positive : 0 < value)
    : value / 2 ^ lastPlace value ≤ 2 ^ 53 := by
  have less := Int.lt_zpow_succ_log_self (b := 2) (by decide) value
  have place : Int.log 2 value + 1 ≤ (53 : Int) + lastPlace value := by
    unfold lastPlace
    rw [abs_of_pos positive]
    omega
  rw [div_le_iff₀ (lastUnit_pos value)]
  calc value ≤ ((2 : Nat) : ℚ) ^ (Int.log 2 value + 1) := less.le
    _ ≤ (2 : ℚ) ^ ((53 : Int) + lastPlace value) := by
        exact_mod_cast zpow_le_zpow_right₀ (by norm_num : (1 : ℚ) ≤ 2) place
    _ = 2 ^ 53 * 2 ^ lastPlace value := by
        rw [zpow_add₀ (by norm_num)]
        rfl

/-- It has 53 binary digits if its last place is not the least there is. -/
theorem le_div_lastUnit {value : ℚ} (positive : 0 < value) (notLeast : -1074 < lastPlace value)
    : 2 ^ 52 ≤ value / 2 ^ lastPlace value := by
  have digits := Int.zpow_log_le_self (b := 2) (by decide) positive
  have place : (52 : Int) + lastPlace value = Int.log 2 value := by
    unfold lastPlace at notLeast ⊢
    rw [abs_of_pos positive] at notLeast ⊢
    omega
  rw [le_div_iff₀ (lastUnit_pos value)]
  calc (2 : ℚ) ^ 52 * 2 ^ lastPlace value = 2 ^ ((52 : Int) + lastPlace value) := by
        rw [zpow_add₀ (by norm_num)]
        rfl
    _ = ((2 : Nat) : ℚ) ^ Int.log 2 value := by rw [place]; rfl
    _ ≤ value := digits

/-- A greater value has a last place that is at least as high. -/
theorem lastPlace_mono {low high : ℚ} (positive : 0 < low) (le : low ≤ high)
    : lastPlace low ≤ lastPlace high := by
  have logs : Int.log 2 low ≤ Int.log 2 high := Int.log_mono_right positive le
  unfold lastPlace
  rw [abs_of_pos positive, abs_of_pos (positive.trans_le le)]
  omega

/-- Rounding keeps the order of values that are not negative. Values with the same last place are
rounded to multiples of one unit; otherwise a power of two lies between what they are rounded to.
-/
theorem nearestMultiple_mono {low high : ℚ} (nonneg : 0 ≤ low) (le : low ≤ high)
    : nearestMultiple low ≤ nearestMultiple high := by
  rcases nonneg.lt_or_eq with positive | rfl
  · have highPositive := positive.trans_le le
    rcases (lastPlace_mono positive le).lt_or_eq with less | same
    · have least : -1074 ≤ lastPlace low := le_max_right _ _
      have below : ((roundHalfEven (low / 2 ^ lastPlace low) : Int) : ℚ) ≤ 2 ^ 53 := by
        have least : low / 2 ^ lastPlace low ≤ ((2 ^ 53 : Int) : ℚ) := by
          exact_mod_cast div_lastUnit_le positive
        exact_mod_cast roundHalfEven_le least
      have above : (2 : ℚ) ^ 52 ≤ ((roundHalfEven (high / 2 ^ lastPlace high) : Int) : ℚ) := by
        have most : ((2 ^ 52 : Int) : ℚ) ≤ high / 2 ^ lastPlace high := by
          exact_mod_cast le_div_lastUnit highPositive (least.trans_lt less)
        exact_mod_cast le_roundHalfEven most
      have places : (53 : Int) + lastPlace low ≤ 52 + lastPlace high := by omega
      calc nearestMultiple low
          ≤ 2 ^ 53 * 2 ^ lastPlace low :=
            mul_le_mul_of_nonneg_right below (lastUnit_pos low).le
        _ = 2 ^ ((53 : Int) + lastPlace low) := by
            rw [zpow_add₀ (by norm_num)]
            rfl
        _ ≤ 2 ^ ((52 : Int) + lastPlace high) := zpow_le_zpow_right₀ (by norm_num) places
        _ = 2 ^ 52 * 2 ^ lastPlace high := by
            rw [zpow_add₀ (by norm_num)]
            rfl
        _ ≤ nearestMultiple high :=
            mul_le_mul_of_nonneg_right above (lastUnit_pos high).le
    · unfold nearestMultiple
      rw [same]
      have quotients : low / 2 ^ lastPlace high ≤ high / 2 ^ lastPlace high :=
        div_le_div_of_nonneg_right le (lastUnit_pos high).le
      have rounded := roundHalfEven_mono quotients
      exact mul_le_mul_of_nonneg_right (by exact_mod_cast rounded) (lastUnit_pos high).le
  · rw [nearestMultiple_zero]
    exact nearestMultiple_nonneg le

/-- The nearest number to what is not negative. -/
theorem nearestNumber_of_nonneg {value : ℚ} (nonneg : 0 ≤ value)
    : nearestNumber value
      = if 2 ^ 1024 ≤ nearestMultiple value then .infinity false
        else .finite (nearestMultiple value) := by
  have notNegative := nearestMultiple_nonneg nonneg
  rw [nearestNumber_eq, abs_of_nonneg notNegative, decide_eq_false (not_lt.mpr notNegative)]

/-- Nearest numbers are in the order of the values, if these are not negative. -/
theorem nearestNumber_mono {low high : ℚ} (nonneg : 0 ≤ low) (le : low ≤ high)
    : (nearestNumber low).le (nearestNumber high) := by
  have rounded := nearestMultiple_mono nonneg le
  rw [nearestNumber_of_nonneg nonneg, nearestNumber_of_nonneg (nonneg.trans le)]
  split_ifs with lowIsLarge highIsLarge highIsLarge
  · exact .inr rfl
  · exact absurd (lowIsLarge.trans rounded) highIsLarge
  · rfl
  · exact rounded

/-- Fractions of at most 53 binary digits are numbers, unless there are too many places. -/
theorem nearestNumber_of_places {digits : Int} {places : Nat} (few : |digits| < 2 ^ 53)
    (fine : places ≤ 1074)
    : nearestNumber (digits / 2 ^ places) = .finite (digits / 2 ^ places) := by
  set value : ℚ := digits / 2 ^ places with isValue
  have multiple : nearestMultiple value = value := by
    rcases eq_or_ne digits 0 with rfl | nonzero
    · rw [isValue, Int.cast_zero, zero_div, nearestMultiple_zero]
    · have size : |value| = |(digits : ℚ)| / 2 ^ places := by
        rw [isValue, abs_div, abs_of_pos (by positivity : (0 : ℚ) < 2 ^ places)]
      have positive : 0 < |value| := by
        rw [size]
        exact div_pos (abs_pos.mpr (Int.cast_ne_zero.mpr nonzero)) (by positivity)
      have below : |value| < (2 : ℚ) ^ ((53 : Int) - places) := by
        rw [size, div_lt_iff₀ (by positivity), ← zpow_natCast, ← zpow_add₀ (by norm_num)]
        simpa using (by exact_mod_cast few : |(digits : ℚ)| < 2 ^ 53)
      have log : Int.log 2 |value| < 53 - places :=
        (Int.lt_zpow_iff_log_lt (b := 2) (by decide) positive).mp (by exact_mod_cast below)
      obtain ⟨shift, isShift⟩ : ∃ shift : Nat, lastPlace value = -(places : Int) - shift := by
        refine ⟨(-(places : Int) - lastPlace value).toNat, ?_⟩
        unfold lastPlace
        omega
      have whole : value / 2 ^ lastPlace value = ((digits * 2 ^ shift : Int) : ℚ) := by
        rw [isShift, isValue, zpow_sub₀ (by norm_num), zpow_neg, zpow_natCast, zpow_natCast]
        push_cast
        field_simp
      rw [nearestMultiple, whole, roundHalfEven_intCast, ← whole,
        div_mul_cancel₀ _ (lastUnit_pos value).ne']
  have small : ¬ (2 : ℚ) ^ 1024 ≤ |value| := by
    have bound : |value| ≤ |(digits : ℚ)| := by
      rw [isValue, abs_div, abs_of_pos (by positivity : (0 : ℚ) < 2 ^ places)]
      exact div_le_self (abs_nonneg _) (one_le_pow₀ (by norm_num))
    have fits : |(digits : ℚ)| < 2 ^ 53 := by exact_mod_cast few
    have more : (2 : ℚ) ^ 53 ≤ 2 ^ 1024 := pow_le_pow_right₀ (by norm_num) (by norm_num)
    exact not_le.mpr (bound.trans_lt (fits.trans_le more))
  rw [nearestNumber_eq, multiple, if_neg small]

-----------------------------------------------------------------------------------------
-- Operations
-----------------------------------------------------------------------------------------

namespace JsNumber

/-- `left * right`, rounded. -/
def roundedMul : JsNumber → JsNumber → JsNumber
  | .finite left, .finite right => nearestNumber (left * right)
  | left, right => left.mul right

/-- `left + right`, rounded. -/
def roundedAdd : JsNumber → JsNumber → JsNumber
  | .finite left, .finite right => nearestNumber (left + right)
  | left, right => left.add right

/-- `left - right`, rounded. -/
def roundedSub : JsNumber → JsNumber → JsNumber
  | .finite left, .finite right => nearestNumber (left - right)
  | left, right => left.sub right

/-- `number / count`, rounded, for a count that is not zero. -/
def dividedBy (number : JsNumber) (count : Nat) : JsNumber :=
  match number with
  | .finite value => nearestNumber (value / count)
  | other => other

/-- The number is not negative. -/
def IsNonneg (number : JsNumber) : Prop :=
  (finite 0).le number

/-- A number that is not negative is a fraction or infinite. -/
theorem IsNonneg.cases {number : JsNumber} (nonneg : number.IsNonneg)
    : (∃ value, 0 ≤ value ∧ number = .finite value) ∨ number = .infinity false := by
  cases number with
  | finite value => exact .inl ⟨value, nonneg, rfl⟩
  | nan => cases nonneg
  | infinity negative => exact .inr (congrArg infinity nonneg)

/-- It is a number. -/
theorem IsNonneg.ne_nan {number : JsNumber} (nonneg : number.IsNonneg) : number ≠ .nan := by
  rintro rfl
  cases nonneg

/-- What a number that is not negative is at most, is not negative either. -/
theorem IsNonneg.of_le {low high : JsNumber} (nonneg : low.IsNonneg) (le : low.le high)
    : high.IsNonneg :=
  le_trans nonneg le

/-- What no number is less than infinity is infinity. -/
theorem eq_infinity_of_le {number : JsNumber} (le : (infinity false).le number)
    : number = .infinity false := by
  cases number with
  | finite value => cases le
  | nan => cases le
  | infinity negative =>
      rcases le with isNegative | isPositive
      · cases isNegative
      · exact congrArg infinity isPositive

/-- The nearest number to what is not negative is not negative. -/
theorem nearestNumber_nonneg {value : ℚ} (nonneg : 0 ≤ value)
    : (nearestNumber value).IsNonneg := by
  rw [nearestNumber_of_nonneg nonneg]
  split
  · rfl
  · exact nearestMultiple_nonneg nonneg

/-- Products with a positive factor are in the order of the numbers, if these are not negative. -/
theorem roundedMul_mono {low high : JsNumber} {factor : ℚ} (positive : 0 < factor)
    (nonneg : low.IsNonneg) (le : low.le high)
    : (low.roundedMul (.finite factor)).IsNonneg
      ∧ (low.roundedMul (.finite factor)).le (high.roundedMul (.finite factor)) := by
  have infinite : (infinity false).roundedMul (.finite factor) = .infinity false := by
    simp [roundedMul, mul, positive.ne', not_lt.mpr positive.le]
  rcases nonneg.cases with ⟨value, notNegative, rfl⟩ | rfl
  · have product : 0 ≤ value * factor := mul_nonneg notNegative positive.le
    refine ⟨nearestNumber_nonneg product, ?_⟩
    rcases (nonneg.of_le le).cases with ⟨other, _, rfl⟩ | rfl
    · exact nearestNumber_mono product (mul_le_mul_of_nonneg_right le positive.le)
    · rw [infinite]
      rcases (nearestNumber_nonneg product).cases with ⟨rounded, _, isRounded⟩ | isRounded
      · rw [roundedMul, isRounded]
        rfl
      · rw [roundedMul, isRounded]
        exact .inr rfl
  · obtain rfl := eq_infinity_of_le le
    rw [infinite]
    exact ⟨rfl, .inr rfl⟩

/-- A value is itself a number. -/
def IsDouble : JsNumber → Prop
  | .finite value => nearestNumber value = .finite value
  | .nan | .infinity _ => True

/-- A product with a factor from one on is at least the number. -/
theorem le_roundedMul {number : JsNumber} {factor : ℚ} (atLeastOne : 1 ≤ factor)
    (isDouble : number.IsDouble) (nonneg : number.IsNonneg)
    : number.le (number.roundedMul (.finite factor)) := by
  rcases nonneg.cases with ⟨value, notNegative, rfl⟩ | rfl
  · have grown := nearestNumber_mono notNegative (le_mul_of_one_le_right notNegative atLeastOne)
    rwa [isDouble] at grown
  · have positive : 0 < factor := zero_lt_one.trans_le atLeastOne
    simp [roundedMul, mul, positive.ne', not_lt.mpr positive.le, le]

/-- Sums of numbers that are not negative are in the order of the numbers. -/
theorem roundedAdd_mono {low high otherLow otherHigh : JsNumber} (nonneg : low.IsNonneg)
    (otherNonneg : otherLow.IsNonneg) (le : low.le high) (otherLe : otherLow.le otherHigh)
    : (low.roundedAdd otherLow).IsNonneg
      ∧ (low.roundedAdd otherLow).le (high.roundedAdd otherHigh) := by
  have isMost {number : JsNumber} (notNegative : number.IsNonneg)
      : number.le (.infinity false) := by
    rcases notNegative.cases with ⟨value, _, rfl⟩ | rfl
    · rfl
    · exact .inr rfl
  rcases nonneg.cases with ⟨value, notNegative, rfl⟩ | rfl
  · rcases otherNonneg.cases with ⟨other, otherNotNegative, rfl⟩ | rfl
    · have sum : 0 ≤ value + other := add_nonneg notNegative otherNotNegative
      refine ⟨nearestNumber_nonneg sum, ?_⟩
      rcases (nonneg.of_le le).cases with ⟨more, _, rfl⟩ | rfl
      · rcases (otherNonneg.of_le otherLe).cases with ⟨otherMore, _, rfl⟩ | rfl
        · exact nearestNumber_mono sum (add_le_add le otherLe)
        · exact isMost (nearestNumber_nonneg sum)
      · rcases (otherNonneg.of_le otherLe).cases with ⟨otherMore, _, rfl⟩ | rfl
        · exact isMost (nearestNumber_nonneg sum)
        · exact isMost (nearestNumber_nonneg sum)
    · obtain rfl := eq_infinity_of_le otherLe
      rcases (nonneg.of_le le).cases with ⟨more, _, rfl⟩ | rfl
      · exact ⟨rfl, .inr rfl⟩
      · exact ⟨rfl, .inr rfl⟩
  · obtain rfl := eq_infinity_of_le le
    rcases otherNonneg.cases with ⟨other, otherNotNegative, rfl⟩ | rfl
    · rcases (otherNonneg.of_le otherLe).cases with ⟨otherMore, _, rfl⟩ | rfl
      · exact ⟨rfl, .inr rfl⟩
      · exact ⟨rfl, .inr rfl⟩
    · obtain rfl := eq_infinity_of_le otherLe
      exact ⟨rfl, .inr rfl⟩

/-- Ceilings are in the order of the numbers. -/
theorem ceil_mono {low high : JsNumber} (le : low.le high) : low.ceil.le high.ceil := by
  cases low <;> cases high
  case finite.finite below above =>
    have ceilings : (⌈below⌉ : ℚ) ≤ ⌈above⌉ := by exact_mod_cast Int.ceil_mono le
    exact ceilings
  all_goals exact le

/-- The ceiling of what is not negative is not negative. -/
theorem IsNonneg.ceil {number : JsNumber} (nonneg : number.IsNonneg) : number.ceil.IsNonneg := by
  have ceilings := ceil_mono nonneg
  rwa [show (finite 0).ceil = finite 0 by simp [JsNumber.ceil]] at ceilings

/-- A number is at most its ceiling. -/
theorem le_ceil {number : JsNumber} (isNumber : number ≠ .nan) : number.le number.ceil := by
  cases number with
  | finite value => exact Int.le_ceil value
  | nan => exact absurd rfl isNumber
  | infinity negative => exact le_refl isNumber

end JsNumber

end Axionvera.Foundation
