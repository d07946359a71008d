import Axionvera.Foundation.BigIntWords
import Axionvera.Soroban.SimulationParser

/-! Wide integers are decoded exactly, but for the helper of contracts for `i128`: it calls methods
that the parts of an integer do not have.
-/

namespace Axionvera.Soroban

open Axionvera.Foundation

/-- The native value of an integer: a number for the kinds of 32 bits, else a `BigInt`. -/
def nativeInteger : ScVal → Int → NativeScVal
  | .u32 _, integer | .i32 _, integer => .number integer
  | _, integer => .bigint integer

/-- (DecodesExactly host value integer) requires `decodeScVal` to return the integer, and so the
helpers of contracts for the kind of the value.
-/
structure DecodesExactly (host : SdkHost) (value : ScVal) (integer : Int) : Prop where
  decoded : decodeScVal host value = .ok (nativeInteger value integer)
  asI128 : ∀ hi lo, value = .i128 hi lo → BaseContract.decodeI128 value = .ok integer
  asU128 : ∀ hi lo, value = .u128 hi lo → BaseContract.decodeU128 value = .ok integer
  asU64 : ∀ word, value = .u64 word → BaseContract.decodeU64 value = .ok integer

/-- The value is of the kind `scvI128`. -/
def ScVal.isI128 : ScVal → Bool
  | .i128 _ _ => true
  | _ => false

/-- A word is below the power of two of its width. -/
private theorem word_lt (word : BitVec 64) : (word.toNat : Int) < 2 ^ 64 := by
  have isBelow := word.isLt
  omega

/-- Shifting to the left is multiplying with a power of two. -/
theorem shiftedLeft_eq (value : Int) (places : Nat)
    : shiftedLeft value places = value * 2 ^ places :=
  Int.shiftLeft_eq value places

/-- Two words put together. -/
theorem lor_word (hi : Int) (lo : BitVec 64)
    : Int.lor (shiftedLeft hi 64) lo.toNat = hi * 2 ^ 64 + lo.toNat :=
  lor_shiftLeft hi lo.toNat 64 (Int.natCast_nonneg _) (word_lt lo)

/-- Four words put together: each or adds a number below the last place of those before. -/
theorem joinedWords_eq (hiHi : Int) (hiLo loHi loLo : BitVec 64)
    : joinedWords hiHi hiLo loHi loLo
      = hiHi * 2 ^ 192 + hiLo.toNat * 2 ^ 128 + loHi.toNat * 2 ^ 64 + loLo.toNat := by
  have hiLoBelow := word_lt hiLo
  have loHiBelow := word_lt loHi
  have loLoBelow := word_lt loLo
  have first
      : Int.lor (shiftedLeft hiHi 192) (shiftedLeft hiLo.toNat 128)
        = hiHi * 2 ^ 192 + hiLo.toNat * 2 ^ 128 := by
    rw [shiftedLeft_eq hiLo.toNat]
    exact lor_shiftLeft hiHi _ 192 (by omega) (by omega)
  have second
      : Int.lor (hiHi * 2 ^ 192 + hiLo.toNat * 2 ^ 128) (shiftedLeft loHi.toNat 64)
        = hiHi * 2 ^ 192 + hiLo.toNat * 2 ^ 128 + loHi.toNat * 2 ^ 64 := by
    have multiple
        : hiHi * 2 ^ 192 + hiLo.toNat * 2 ^ 128 = (hiHi * 2 ^ 64 + hiLo.toNat) * 2 ^ 128 := by
      omega
    rw [shiftedLeft_eq, multiple]
    exact lor_mul_two_pow _ _ 128 (by omega) (by omega)
  have multiple
      : hiHi * 2 ^ 192 + hiLo.toNat * 2 ^ 128 + loHi.toNat * 2 ^ 64
        = (hiHi * 2 ^ 128 + hiLo.toNat * 2 ^ 64 + loHi.toNat) * 2 ^ 64 := by
    omega
  rw [joinedWords, first, second, multiple]
  exact lor_mul_two_pow _ _ 64 (by omega) loLoBelow

/-- A word with a sign is below half the power of two of its width. -/
private theorem signedWord_lt (word : BitVec 64) : word.toInt < 2 ^ 63 := by
  have isBelow := BitVec.toInt_lt (x := word)
  omega

/-- The sign of an `i128` needs no correction: its most significant word has one. -/
theorem decodedI128_eq (hi lo : BitVec 64)
    : decodedI128 hi lo = hi.toInt * 2 ^ 64 + lo.toNat := by
  have hiBelow := signedWord_lt hi
  have loBelow := word_lt lo
  rw [decodedI128, lor_word, shiftedLeft_eq, shiftedLeft_eq]
  exact if_neg (by omega)

/-- The sign of an `i256` needs no correction either. -/
theorem decodedI256_eq (hiHi hiLo loHi loLo : BitVec 64)
    : decodedI256 hiHi hiLo loHi loLo
      = hiHi.toInt * 2 ^ 192 + hiLo.toNat * 2 ^ 128 + loHi.toNat * 2 ^ 64 + loLo.toNat := by
  have hiHiBelow := signedWord_lt hiHi
  have hiLoBelow := word_lt hiLo
  have loHiBelow := word_lt loHi
  have loLoBelow := word_lt loLo
  rw [decodedI256, joinedWords_eq, shiftedLeft_eq, shiftedLeft_eq]
  exact if_neg (by omega)

/-- Every value of an integer kind is decoded to its integer, by cases on the kind. -/
theorem decodeScVal_integer (host : SdkHost) {value : ScVal} {integer : Int}
    (isInteger : value.integer = some integer)
    : decodeScVal host value = .ok (nativeInteger value integer) := by
  cases value with
  | u32 | i32 | u64 | i64 =>
      obtain rfl := Option.some.inj isInteger
      rfl
  | u128 hi lo =>
      obtain rfl := Option.some.inj isInteger
      exact congrArg (fun number => Except.ok (NativeScVal.bigint number)) (lor_word hi.toNat lo)
  | i128 hi lo =>
      obtain rfl := Option.some.inj isInteger
      exact congrArg (fun number => Except.ok (NativeScVal.bigint number)) (decodedI128_eq hi lo)
  | u256 hiHi hiLo loHi loLo =>
      obtain rfl := Option.some.inj isInteger
      exact congrArg (fun number => Except.ok (NativeScVal.bigint number))
        (joinedWords_eq hiHi.toNat hiLo loHi loLo)
  | i256 hiHi hiLo loHi loLo =>
      obtain rfl := Option.some.inj isInteger
      exact congrArg (fun number => Except.ok (NativeScVal.bigint number))
        (decodedI256_eq hiHi hiLo loHi loLo)
  | void | bool | symbol | string | bytes | address | vec | absentVec | map | absentMap | other =>
      cases isInteger

/-- The helper for `u128` returns the integer. -/
theorem decodeU128_eq (hi lo : BitVec 64)
    : BaseContract.decodeU128 (.u128 hi lo) = .ok (hi.toNat * 2 ^ 64 + lo.toNat) := by
  have sum
      : (lo.toNat : Int) + shiftedLeft hi.toNat 64 = hi.toNat * 2 ^ 64 + lo.toNat := by
    rw [shiftedLeft_eq]
    omega
  exact congrArg Except.ok sum

/-- The helper for `i128` throws for every `i128`. -/
theorem decodeI128_throws (hi lo : BitVec 64)
    : BaseContract.decodeI128 (.i128 hi lo) = .error (typeError "i.low is not a function") :=
  rfl

/-- Every integer of every kind is decoded exactly, by `decodeScVal` and the helpers of contracts,
exactly if it is no `i128`.
-/
theorem integers_decode_exactly_iff (host : SdkHost) {value : ScVal} {integer : Int}
    (isInteger : value.integer = some integer)
    : DecodesExactly host value integer ↔ value.isI128 = false := by
  constructor
  · intro decodes
    cases value with
    | i128 hi lo =>
        have decoded := decodes.asI128 hi lo rfl
        rw [decodeI128_throws] at decoded
        cases decoded
    | void | bool | u32 | i32 | u64 | i64 | u128 | u256 | i256 | symbol | string | bytes | address
    | vec | absentVec | map | absentMap | other => rfl
  · intro notI128
    refine ⟨decodeScVal_integer host isInteger, ?_, ?_, ?_⟩
    · rintro hi lo rfl
      cases notI128
    · rintro hi lo rfl
      rw [decodeU128_eq]
      exact congrArg Except.ok (Option.some.inj isInteger)
    · rintro word rfl
      exact congrArg Except.ok (Option.some.inj isInteger)

/-- The integer minus one as an `i256` is decoded exactly, from four words of ones. -/
theorem minus_one_decodes_exactly
    : DecodesExactly .ascii (.i256 (-1) (-1) (-1) (-1)) (-1) :=
  (integers_decode_exactly_iff .ascii rfl).mpr rfl

/-- The integer one as an `i128` makes the helper of contracts throw. -/
theorem i128_does_not_decode
    : ¬ ∀ (value : ScVal) (integer : Int),
        value.integer = some integer → DecodesExactly .ascii value integer := by
  intro always
  have decoded := (always (.i128 0 1) 1 rfl).asI128 0 1 rfl
  rw [decodeI128_throws] at decoded
  cases decoded

end Axionvera.Soroban
