import Axionvera.Codegen.SectionRoundTrip
import Axionvera.Codegen.SectionTermination

/-! Which numbers `readLEB128` reads back, and when what it reads is not negative: its 32 bits have
a sign.
-/

namespace Axionvera.Codegen

open Axionvera.Foundation

/-- The bytes of the number at the beginning of some bytes: all up to the first one without a mark.
-/
def numberBytes : List UInt8 → List UInt8
  | [] => []
  | byte :: bytes => if byte &&& 0x80 = 0 then [byte] else byte :: numberBytes bytes

/-- A byte at a position of a number has the bit that is placed where 32 bits have their sign. Bits
are placed modulo 32.
-/
def setsSign (position : Nat) (byte : UInt8) : Bool :=
  (byte.toNat % 128).testBit (31 - 7 * position % 32)

/-- (HasNoSign bytes) requires no byte of the number to set the sign. -/
def HasNoSign (bytes : List UInt8) : Prop :=
  ∀ position byte, (numberBytes bytes)[position]? = some byte → setsSign position byte = false

/-- A byte adds the sign to the bits, or leaves it as it was. -/
theorem msb_addBits (result : BitVec 32) (position : Nat) (byte : UInt8)
    : (result ||| (byte &&& 0x7f).toBitVec.setWidth 32 <<< (7 * position % 32)).msb
      = (result.msb || setsSign position byte) := by
  have shift : 7 * position % 32 < 32 := Nat.mod_lt _ (by decide)
  have bits : ((byte &&& 0x7f).toBitVec.setWidth 32).toNat = byte.toNat % 128 := by
    rw [BitVec.toNat_setWidth, UInt8.toNat_toBitVec, toNat_and_bits]
    omega
  have notBefore : ¬ 31 < 7 * position % 32 := by omega
  rw [BitVec.msb_or]
  congr 1
  rw [BitVec.msb_eq_getLsbD_last, BitVec.getLsbD_shiftLeft, setsSign, ← bits]
  simp [notBefore, BitVec.getLsbD]

/-- The loop returns a negative number exactly if the sign is set before it or by a byte that it
reads, by induction on the bytes.
-/
theorem readLEB128Loop_neg_iff (result : BitVec 32) (position bytesRead : Nat) (bytes : List UInt8)
    : (readLEB128Loop result (7 * position) bytesRead bytes).1 < 0
      ↔ result.msb = true
        ∨ ∃ index byte,
            (numberBytes bytes)[index]? = some byte ∧ setsSign (position + index) byte = true := by
  have sign (number : BitVec 32) : number.toInt < 0 ↔ number.msb = true := by
    rw [BitVec.msb_eq_toInt, decide_eq_true_eq]
  induction bytes generalizing result position bytesRead with
  | nil => simp [readLEB128Loop, numberBytes, sign]
  | cons byte bytes ih =>
      rw [readLEB128Loop, numberBytes]
      split
      · rw [sign, msb_addBits, Bool.or_eq_true]
        refine or_congr_right ⟨fun sets => ⟨0, byte, rfl, sets⟩, ?_⟩
        rintro ⟨index, found, isByte, sets⟩
        cases index with
        | zero =>
            obtain rfl := Option.some.inj isByte
            exact sets
        | succ index => cases isByte
      · have onwards : 7 * position + 7 = 7 * (position + 1) := rfl
        rw [onwards]
        refine (ih _ (position + 1) _).trans ?_
        rw [msb_addBits, Bool.or_eq_true, or_assoc]
        refine or_congr_right ⟨?_, ?_⟩
        · rintro (sets | ⟨index, found, isByte, sets⟩)
          · exact ⟨0, byte, rfl, sets⟩
          · exact ⟨index + 1, found, isByte, by rwa [Nat.add_right_comm] at sets⟩
        · rintro ⟨index, found, isByte, sets⟩
          cases index with
          | zero =>
              obtain rfl := Option.some.inj isByte
              exact .inl sets
          | succ index => exact .inr ⟨index, found, isByte, by rwa [Nat.add_right_comm]⟩

/-- What is read is not negative exactly if no byte of the number sets the sign. -/
theorem readLEB128_nonneg_iff (buf : Buffer) (offset : Int)
    : 0 ≤ (readLEB128 buf offset).1 ↔ HasNoSign (buf.bytesFrom offset) := by
  rw [← not_lt, readLEB128, readLEB128Loop_neg_iff 0 0 0]
  simp [HasNoSign]

/-- Behind everything, a number of 32 bits in LEB128 is read back with its length exactly if it is
below `2 ^ 31`; and what is read in a buffer is not negative exactly if no byte of it sets the sign.
-/
theorem number_decoding_iff (n : UInt32) (front rest : List UInt8) (buf : Buffer) (offset : Int)
    : (readLEB128 (front ++ leb128 n.toNat ++ rest) front.length
          = ((n.toNat : Int), (leb128 n.toNat).length)
        ↔ n.toNat < 2 ^ 31)
      ∧ (0 ≤ (readLEB128 buf offset).1 ↔ HasNoSign (buf.bytesFrom offset)) := by
  refine ⟨⟨fun isRead => ?_, fun small => ?_⟩, readLEB128_nonneg_iff buf offset⟩
  · have bounds := readLEB128_bounds (front ++ leb128 n.toNat ++ rest) front.length
    have below : ((n.toNat : Int)) < 2 ^ 31 := by
      rw [isRead] at bounds
      exact bounds.2.2.1
    exact_mod_cast below
  · have found : (front ++ leb128 n.toNat ++ rest).drop front.length = leb128 n.toNat ++ rest := by
      rw [List.append_assoc, List.drop_left]
    exact readLEB128_of_drop found small

/-- The number `2 ^ 31` is read as `-2 ^ 31`. -/
theorem number_decoding_loses_the_sign
    : (¬ ∀ (n : UInt32) (front rest : List UInt8),
          readLEB128 (front ++ leb128 n.toNat ++ rest) front.length
          = ((n.toNat : Int), (leb128 n.toNat).length))
      ∧ ¬ ∀ (buf : Buffer) (offset : Int), 0 ≤ (readLEB128 buf offset).1 := by
  have isNegative : readLEB128 [0x80, 0x80, 0x80, 0x80, 0x08] 0 = (-2147483648, 5) := by decide
  constructor
  · intro always
    have encoded : leb128 2147483648 = [0x80, 0x80, 0x80, 0x80, 0x08] := by
      simp [leb128]
    have isRead := always 2147483648 [] []
    have number : (2147483648 : UInt32).toNat = 2147483648 := rfl
    rw [number, encoded, List.nil_append, List.append_nil, List.length_nil] at isRead
    cases isNegative.symm.trans isRead
  · intro always
    have notNegative := always [0x80, 0x80, 0x80, 0x80, 0x08] 0
    rw [isNegative] at notNegative
    exact absurd notNegative (by decide)

end Axionvera.Codegen
