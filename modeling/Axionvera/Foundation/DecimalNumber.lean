import Mathlib.Algebra.Order.Field.Power
import Mathlib.Algebra.Order.Ring.Rat
import Mathlib.Data.Rat.Floor
import Mathlib.Algebra.Order.Floor.Semiring
import Mathlib.Tactic.Ring
import Mathlib.Tactic.FieldSimp
import Mathlib.Tactic.NormNum

/-! Positive numbers given by their decimal digits, the texts in which JavaScript prints them,
and rounding up a fraction in integer arithmetic.
-/

namespace Axionvera.Foundation

/-- The number written by the digits, the most significant one first. -/
def digitsValue (digits : List (Fin 10)) : Nat :=
  digits.foldl (fun value digit => value * 10 + digit.val) 0

/-- Reading digits after a given number, by induction on the digits. -/
private theorem foldl_digits (digits : List (Fin 10)) (start : Nat)
    : digits.foldl (fun value digit => value * 10 + digit.val) start
      = start * 10 ^ digits.length + digitsValue digits := by
  induction digits generalizing start with
  | nil => simp [digitsValue]
  | cons digit rest ih =>
      have later := ih digit
      simp only [digitsValue, List.foldl_cons, Nat.zero_mul, Nat.zero_add, List.length_cons]
      rw [ih, later, pow_succ]
      ring

/-- The digits of a leading part count for as many places as digits follow. -/
theorem digitsValue_append (leading trailing : List (Fin 10))
    : digitsValue (leading ++ trailing)
      = digitsValue leading * 10 ^ trailing.length + digitsValue trailing := by
  rw [digitsValue, List.foldl_append, foldl_digits]
  rfl

/-- Zeros count for nothing, by induction on their number. -/
theorem digitsValue_replicate_zero (count : Nat)
    : digitsValue (List.replicate count 0) = 0 := by
  induction count with
  | zero => rfl
  | succ count ih =>
      rw [List.replicate_succ', digitsValue_append, ih]
      rfl

/-- A number has no more places than digits, by induction on the digits. -/
theorem digitsValue_lt (digits : List (Fin 10)) : digitsValue digits < 10 ^ digits.length := by
  induction digits with
  | nil => simp [digitsValue]
  | cons digit rest ih =>
      have single : digitsValue [digit] = digit := by simp [digitsValue]
      rw [← List.singleton_append, digitsValue_append, single, List.length_append,
        List.length_singleton, pow_add, pow_one]
      have small := digit.isLt
      have most : digit.val * 10 ^ rest.length ≤ 9 * 10 ^ rest.length :=
        Nat.mul_le_mul_right _ (by omega)
      omega

/-- A number with a nonzero first digit uses all its places. -/
theorem le_digitsValue {digit : Fin 10} (rest : List (Fin 10)) (nonzero : digit ≠ 0)
    : 10 ^ rest.length ≤ digitsValue (digit :: rest) := by
  have single : digitsValue [digit] = digit := by simp [digitsValue]
  have positive : 1 ≤ digit.val := by
    have differs : digit.val ≠ 0 := fun zero => nonzero (Fin.ext zero)
    omega
  rw [← List.singleton_append, digitsValue_append, single]
  have grown := Nat.mul_le_mul_right (10 ^ rest.length) positive
  omega

/-- The character of a digit. -/
def digitChar (digit : Fin 10) : Char := Char.ofNat (48 + digit.val)

/-- Different numbers have different digits, which are read back. -/
theorem toDigits_injective : Function.Injective (Nat.toDigits 10) := by
  intro first second same
  have read := congrArg (fun text => Nat.ofDigitChars 10 text 0) same
  simpa [Nat.ofDigitChars_ten_toDigits] using read

/-- The number that a text of digits denotes. -/
def parseDigits (text : List Char) : Nat :=
  text.foldl (fun value c => value * 10 + (c.toNat - 48)) 0

/-- The character codes of digits. -/
theorem digitChar_toNat (digit : Fin 10) : (digitChar digit).toNat = 48 + digit := by
  revert digit
  decide

/-- A printed digit is a digit character, and neither a point nor an exponent mark. -/
theorem digitChar_isDigit (digit : Fin 10)
    : (digitChar digit).isDigit = true ∧ digitChar digit ≠ '.' ∧ digitChar digit ≠ 'e' := by
  revert digit
  decide

/-- Printed digits read back as their number. -/
theorem parseDigits_map (digits : List (Fin 10))
    : parseDigits (digits.map digitChar) = digitsValue digits := by
  simp only [parseDigits, digitsValue, List.foldl_map, digitChar_toNat, Nat.add_sub_cancel_left]

/-- A positive number `0.d₁d₂… · 10 ^ point` in shortest form. -/
structure DecimalNumber where
  digits : List (Fin 10)
  point : Int
  leading : ∃ first ∈ digits.head?, first ≠ 0
  trailing : ∀ last ∈ digits.getLast?, last ≠ 0

namespace DecimalNumber

/-- The number itself. -/
def value (number : DecimalNumber) : ℚ :=
  digitsValue number.digits * 10 ^ (number.point - number.digits.length)

/-- The text of a number, as `Number.prototype.toString` prints it: with an exponent unless the
point lies close enough to the digits.
-/
def toText (number : DecimalNumber) : List Char :=
  let text := number.digits.map digitChar
  if 0 < number.point ∧ number.point ≤ 21 then
    let places := number.point.toNat
    if text.length ≤ places then text ++ List.replicate (places - text.length) '0'
    else text.take places ++ '.' :: text.drop places
  else if -6 < number.point ∧ number.point ≤ 0 then
    '0' :: '.' :: List.replicate (-number.point).toNat '0' ++ text
  else
    let exponent := number.point - 1
    let fraction := if text.length = 1 then [] else '.' :: text.drop 1
    text.take 1 ++ fraction ++ 'e' :: (if exponent < 0 then '-' else '+')
      :: Nat.toDigits 10 exponent.natAbs

/-- `toFixed`: the number rounded to the given places, with halves rounded up; from `10 ^ 21` on
it is printed as by `toText`.
-/
def toFixed (number : DecimalNumber) (places : Nat) : List Char :=
  if 10 ^ 21 ≤ number.value then number.toText
  else
    let digits := Nat.toDigits 10 ⌊number.value * 10 ^ places + 1 / 2⌋₊
    let padded := List.replicate (places + 1 - digits.length) '0' ++ digits
    let whole := padded.length - places
    if places = 0 then digits else padded.take whole ++ '.' :: padded.drop whole

/-- A number lies below the power of ten at its point. -/
theorem value_lt (number : DecimalNumber) : number.value < 10 ^ number.point := by
  have bound : (digitsValue number.digits : ℚ) < 10 ^ number.digits.length := by
    exact_mod_cast digitsValue_lt number.digits
  have scale : (0 : ℚ) < 10 ^ (number.point - number.digits.length) := by positivity
  calc number.value
      < 10 ^ number.digits.length * 10 ^ (number.point - number.digits.length) :=
        mul_lt_mul_of_pos_right bound scale
    _ = 10 ^ number.point := by
        rw [← zpow_natCast, ← zpow_add₀ (by norm_num)]
        congr 1
        ring

/-- A number reaches the power of ten just below its point. -/
theorem le_value (number : DecimalNumber) : 10 ^ (number.point - 1) ≤ number.value := by
  obtain ⟨first, isHead, nonzero⟩ := number.leading
  obtain ⟨rest, whole⟩ : ∃ rest, number.digits = first :: rest := by
    cases shape : number.digits with
    | nil => simp [shape] at isHead
    | cons head rest =>
        obtain rfl : head = first := by simpa [shape] using isHead
        exact ⟨rest, rfl⟩
  have bound : (10 : ℚ) ^ rest.length ≤ digitsValue number.digits := by
    rw [whole]
    exact_mod_cast le_digitsValue rest nonzero
  have scale : (0 : ℚ) ≤ 10 ^ (number.point - number.digits.length) := by positivity
  calc (10 : ℚ) ^ (number.point - 1)
      = 10 ^ rest.length * 10 ^ (number.point - number.digits.length) := by
        rw [← zpow_natCast, ← zpow_add₀ (by norm_num), whole, List.length_cons]
        congr 1
        push_cast
        ring
    _ ≤ number.value := mul_le_mul_of_nonneg_right bound scale

/-- A number of at least one has its point behind its first digit. -/
theorem point_pos {number : DecimalNumber} (atLeastOne : 1 ≤ number.value)
    : 0 < number.point := by
  by_contra notPositive
  have small : (10 : ℚ) ^ number.point ≤ 1 :=
    zpow_le_one_of_nonpos₀ (by norm_num) (not_lt.mp notPositive)
  exact absurd (number.value_lt.trans_le small) (not_lt.mpr atLeastOne)

/-- The point of a number tells on which side of a power of ten it lies. -/
theorem point_le_iff (number : DecimalNumber) (bound : Int)
    : number.point ≤ bound ↔ number.value < 10 ^ bound := by
  constructor
  · intro below
    exact number.value_lt.trans_le (zpow_le_zpow_right₀ (by norm_num) below)
  · intro small
    by_contra beyond
    have power : (10 : ℚ) ^ bound ≤ 10 ^ (number.point - 1) :=
      zpow_le_zpow_right₀ (by norm_num) (by omega)
    exact absurd small (not_lt.mpr (power.trans number.le_value))

/-- A number from one up to `10 ^ 21` is printed as whole digits and, after a point, digits of
a fraction, which together denote it.
-/
theorem toText_plain {number : DecimalNumber} (atLeastOne : 1 ≤ number.value)
    (small : number.value < 10 ^ 21)
    : ∃ whole fraction : List (Fin 10),
        whole ≠ []
        ∧ number.toText
          = whole.map digitChar
            ++ (if fraction = [] then [] else '.' :: fraction.map digitChar)
        ∧ number.value = digitsValue (whole ++ fraction) / 10 ^ fraction.length := by
  have positive := point_pos atLeastOne
  have bounded : number.point ≤ 21 := (number.point_le_iff 21).mpr (by exact_mod_cast small)
  obtain ⟨places, isPoint⟩ : ∃ places : Nat, number.point = places :=
    ⟨number.point.toNat, (Int.toNat_of_nonneg positive.le).symm⟩
  have inRange : 0 < number.point ∧ number.point ≤ 21 := ⟨positive, bounded⟩
  have text : number.toText
      = if number.digits.length ≤ places then
          number.digits.map digitChar
            ++ List.replicate (places - number.digits.length) '0'
        else (number.digits.map digitChar).take places
            ++ '.' :: (number.digits.map digitChar).drop places := by
    simp only [toText, if_pos inRange]
    simp only [isPoint, Int.toNat_natCast, List.length_map]
  have nonempty : number.digits ≠ [] := by
    obtain ⟨first, isHead, _⟩ := number.leading
    intro empty
    simp [empty] at isHead
  by_cases fits : number.digits.length ≤ places
  · refine
      ⟨number.digits ++ List.replicate (places - number.digits.length) 0, [], by simp [nonempty],
      ?_, ?_⟩
    · rw [text, if_pos fits]
      simp [digitChar]
    · rw [List.append_nil, digitsValue_append, digitsValue_replicate_zero, List.length_replicate,
        value, isPoint, List.length_nil, pow_zero, div_one, ← Nat.cast_sub fits, zpow_natCast]
      push_cast
      ring
  · have beyond : places < number.digits.length := not_le.mp fits
    refine ⟨number.digits.take places, number.digits.drop places, ?_, ?_, ?_⟩
    · simp only [ne_eq, List.take_eq_nil_iff, not_or]
      exact ⟨by omega, nonempty⟩
    · have rest : number.digits.drop places ≠ [] := by
        simpa using beyond
      rw [text, if_neg fits, if_neg rest, List.map_take, List.map_drop]
    · rw [List.take_append_drop, List.length_drop, value, isPoint, eq_div_iff (by positivity),
        mul_assoc, ← zpow_natCast, ← zpow_add₀ (by norm_num), Nat.cast_sub beyond.le]
      simp

end DecimalNumber

/-- Adding one less than the denominator before dividing rounds up. -/
theorem div_eq_ceil (numerator denominator : Nat) (positive : 0 < denominator)
    : (numerator + (denominator - 1)) / denominator = ⌈(numerator / denominator : ℚ)⌉₊ := by
  refine eq_of_forall_ge_iff (fun bound => ?_)
  have cast : (0 : ℚ) < denominator := by exact_mod_cast positive
  rw [Nat.ceil_le, div_le_iff₀ cast]
  have divided : (numerator + (denominator - 1)) / denominator ≤ bound
      ↔ numerator ≤ bound * denominator := by
    rw [Nat.div_le_iff_le_mul_add_pred positive]
    rw [Nat.mul_comm]
    omega
  rw [divided]
  exact_mod_cast Iff.rfl

end Axionvera.Foundation
