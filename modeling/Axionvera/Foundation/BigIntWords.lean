import Mathlib.Data.Int.Bitwise

/-! Integers put together from words with shifts and ors, as for two's complement of any width. -/

namespace Axionvera.Foundation

/-- Or-ing a number below a power of two to a multiple of the power adds it, by induction on the
exponent: the last bit is that of the number.
-/
theorem lor_mul_two_pow (high low : Int) (width : Nat) (notNegative : 0 ≤ low)
    (isBelow : low < 2 ^ width)
    : Int.lor (high * 2 ^ width) low = high * 2 ^ width + low := by
  induction width generalizing low with
  | zero =>
      obtain rfl : low = 0 := by omega
      have noBits : Int.lor high 0 = high := by
        cases high with
        | ofNat number => exact congrArg Int.ofNat (Nat.or_zero number)
        | negSucc number =>
            have same : number.ldiff 0 = number :=
              Nat.eq_of_testBit_eq fun place => by simp [Nat.testBit_ldiff]
            exact congrArg Int.negSucc same
      simpa using noBits
  | succ width ih =>
      have halfBelow : low / 2 < 2 ^ width := by
        rw [Int.pow_succ] at isBelow
        omega
      have double : high * 2 ^ (width + 1) = Int.bit false (high * 2 ^ width) := by
        rw [Int.bit_val, Int.pow_succ]
        simp [← Int.mul_assoc, Int.mul_comm]
      have parts : low = Int.bit (low.bodd) (low / 2) := by
        rw [← Int.div2_val, Int.bit_decomp]
      calc Int.lor (high * 2 ^ (width + 1)) low
          = Int.lor (Int.bit false (high * 2 ^ width)) (Int.bit low.bodd (low / 2)) := by
            rw [double, ← parts]
        _ = Int.bit low.bodd (high * 2 ^ width + low / 2) := by
            rw [Int.lor_bit, Bool.false_or, ih (low / 2) (by omega) halfBelow]
        _ = high * 2 ^ (width + 1) + low := by
            rw [double]
            nth_rewrite 3 [parts]
            rw [Int.bit_val, Int.bit_val, Int.bit_val]
            simp only [cond_false]
            omega

/-- The same for a number shifted to the left. -/
theorem lor_shiftLeft (high low : Int) (width : Nat) (notNegative : 0 ≤ low)
    (isBelow : low < 2 ^ width)
    : Int.lor (high <<< width) low = high * 2 ^ width + low := by
  rw [Int.shiftLeft_eq]
  exact lor_mul_two_pow high low width notNegative isBelow

end Axionvera.Foundation
