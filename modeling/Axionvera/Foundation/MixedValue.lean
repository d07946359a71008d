import Axionvera.Foundation.CodeUnits
import Axionvera.Foundation.NumberText
import Axionvera.Foundation.NumericText

/-! Values that are whole numbers or texts, and what `parseInt`, `+`, `<` and `Number` make of them.
Fractions are exact.
-/

namespace Axionvera.Foundation

/-- A whole number, NaN, or a text. -/
inductive MixedValue where
  | whole (value : Int)
  | nan
  | text (characters : List Char)
  deriving DecidableEq

/-- `Number(text)` without rounding. -/
def exactNumber (text : List Char) : JsNumber :=
  match readNumeric (trimBlanks text) with
  | none => .nan
  | some .blank => .finite 0
  | some (.integer value) => .finite value
  | some (.radix value) => .finite value
  | some (.decimal value) => .finite value
  | some (.infinity negative) => .infinity negative

/-- The digits at the front of a text without a sign, in radix 16 behind its prefix. -/
def leadingInteger (text : List Char) : Option Nat :=
  match text with
  | '0' :: mark :: digits =>
      if mark = 'x' ∨ mark = 'X' then
        readRadix 16 (digits.takeWhile fun digit => (hexDigitValue digit).isSome)
      else some (parseDigits (text.takeWhile Char.isDigit))
  | text =>
      if text.takeWhile Char.isDigit = [] then none
      else some (parseDigits (text.takeWhile Char.isDigit))

/-- `parseInt(text)`, which is NaN if there is no digit at the front. -/
def parseInt (text : List Char) : MixedValue :=
  let (negative, magnitude) := readSign (text.dropWhile isWhiteSpace)
  match leadingInteger magnitude with
  | some value => .whole (if negative then -(value : Int) else value)
  | none => .nan

/-- The units of a text as numbers, by which texts are compared. -/
def unitNumbers (text : List Char) : List Nat :=
  text.flatMap fun character => (unitsOfPoint character.toNat).map UInt16.toNat

/-- `left < right` for texts. -/
def comesBefore (left right : List Char) : Bool :=
  (unitNumbers left).lex (unitNumbers right) fun unit other => decide (unit < other)

namespace MixedValue

/-- `String(value)`, for whole numbers that are printed without an exponent. -/
def toText : MixedValue → List Char
  | .whole value => bigintText value
  | .nan => "NaN".toList
  | .text characters => characters

/-- `Number(value)`. -/
def toNumber : MixedValue → JsNumber
  | .whole value => .finite value
  | .nan => .nan
  | .text characters => exactNumber characters

/-- `left + right`: texts are put together. -/
def add : MixedValue → MixedValue → MixedValue
  | .text characters, right => .text (characters ++ right.toText)
  | left, .text characters => .text (left.toText ++ characters)
  | .whole left, .whole right => .whole (left + right)
  | _, _ => .nan

/-- `left < right`: two texts are compared unit by unit, all else as numbers. -/
def less : MixedValue → MixedValue → Bool
  | .text left, .text right => comesBefore left right
  | left, right => left.toNumber.lt right.toNumber

end MixedValue

-----------------------------------------------------------------------------------------
-- Digits
-----------------------------------------------------------------------------------------

/-- Digits are read as the standard library reads them. -/
theorem parseDigits_eq_ofDigitChars (text : List Char)
    : parseDigits text = Nat.ofDigitChars 10 text 0 := by
  rw [parseDigits, Nat.ofDigitChars_eq_foldl]
  congr 1
  funext value character
  rw [Nat.mul_comm]
  rfl

/-- A printed number reads as itself. -/
theorem parseDigits_toDigits (number : Nat) : parseDigits (Nat.toDigits 10 number) = number := by
  rw [parseDigits_eq_ofDigitChars, Nat.ofDigitChars_ten_toDigits]

/-- A printed number consists of digits. -/
theorem isDigits_toDigits (number : Nat) : isDigits (Nat.toDigits 10 number) = true :=
  isDigits_iff.mpr
    ⟨Nat.toDigits_ne_nil,
      fun _ member => Nat.isDigit_of_mem_toDigits (by decide) (by decide) member⟩

/-- The digits of a leading part count for as many places as digits follow. -/
theorem parseDigits_append (leading trailing : List Char)
    : parseDigits (leading ++ trailing)
      = parseDigits leading * 10 ^ trailing.length + parseDigits trailing := by
  rw [parseDigits_eq_ofDigitChars, Nat.ofDigitChars_append,
    Nat.ofDigitChars_eq_ofDigitChars_zero, ← parseDigits_eq_ofDigitChars,
    ← parseDigits_eq_ofDigitChars, Nat.mul_comm]

/-- Texts of digits can be put together. -/
theorem isDigits_append {leading trailing : List Char} (areDigits : isDigits leading = true)
    (moreDigits : isDigits trailing = true)
    : isDigits (leading ++ trailing) = true := by
  rw [isDigits_iff] at areDigits moreDigits ⊢
  refine ⟨List.append_ne_nil_of_left_ne_nil areDigits.1 _, fun character member => ?_⟩
  exact (List.mem_append.mp member).elim (areDigits.2 character) (moreDigits.2 character)

/-- The least digit is zero. -/
theorem toNat_le_iff {digit : Char} (isDigit : digit.isDigit = true)
    : digit.toNat ≤ 48 ↔ digit = '0' := by
  constructor
  · intro least
    simp only [Char.isDigit, Bool.and_eq_true, decide_eq_true_eq] at isDigit
    exact Char.toNat_inj.mp (Nat.le_antisymm least (UInt32.le_iff_toNat_le.mp isDigit.1))
  · rintro rfl
    exact Nat.le_refl _

/-- Digits are zero exactly if each of them is, by induction along them. -/
theorem parseDigits_eq_zero_iff {text : List Char}
    (areDigits : ∀ character ∈ text, character.isDigit = true)
    : parseDigits text = 0 ↔ ∀ character ∈ text, character = '0' := by
  induction text with
  | nil => exact iff_of_true rfl nofun
  | cons digit rest ih =>
      have isZero : parseDigits [digit] = 0 ↔ digit = '0' := by
        have isDigit := areDigits digit List.mem_cons_self
        rw [← toNat_le_iff isDigit, ← Nat.sub_eq_zero_iff_le]
        simp [parseDigits]
      rw [← List.singleton_append, parseDigits_append, Nat.add_eq_zero_iff, Nat.mul_eq_zero,
        or_iff_left (Nat.pos_iff_ne_zero.mp (Nat.pow_pos (by decide))), isZero,
        ih fun character member => areDigits character (List.mem_cons_of_mem _ member),
        List.singleton_append, List.forall_mem_cons]

/-- Digits have no sign. -/
theorem readSign_of_isDigits {text : List Char} (areDigits : isDigits text = true)
    : readSign text = (false, text) := by
  have noSign : ∀ character ∈ text, character ≠ '-' ∧ character ≠ '+' := by
    intro character member
    have isDigit := (isDigits_iff.mp areDigits).2 character member
    constructor <;>
      · rintro rfl
        cases isDigit
  unfold readSign
  split
  · exact absurd rfl (noSign '-' List.mem_cons_self).1
  · exact absurd rfl (noSign '+' List.mem_cons_self).2
  · rfl

/-- Digits are the number that they denote. -/
theorem exactNumber_of_isDigits {text : List Char} (areDigits : isDigits text = true)
    : exactNumber text = .finite (parseDigits text) := by
  have isInteger : decimalInteger text = some (parseDigits text) := by
    rw [decimalInteger, readSign_of_isDigits areDigits]
    exact if_pos areDigits
  rw [exactNumber, trimBlanks_of_decimalInteger isInteger,
    readNumeric_eq_integer_iff.mpr isInteger]
  exact congrArg JsNumber.finite (Int.cast_natCast _)

/-- All digits are at the front. -/
theorem leadingInteger_of_isDigits {text : List Char} (areDigits : isDigits text = true)
    : leadingInteger text = some (parseDigits text) := by
  obtain ⟨nonempty, digits⟩ := isDigits_iff.mp areDigits
  have whole : text.takeWhile Char.isDigit = text := List.takeWhile_eq_self_iff.mpr digits
  unfold leadingInteger
  split
  · rename_i mark rest
    have noPrefix : ¬ (mark = 'x' ∨ mark = 'X') := by
      have isDigit := digits mark (List.mem_cons_of_mem _ List.mem_cons_self)
      rintro (rfl | rfl) <;> cases isDigit
    rw [if_neg noPrefix, whole]
  · rw [whole, if_neg nonempty]

/-- `parseInt` reads digits as the number that they denote. -/
theorem parseInt_of_isDigits {text : List Char} (areDigits : isDigits text = true)
    : parseInt text = .whole (parseDigits text) := by
  have noBlanks : text.dropWhile isWhiteSpace = text :=
    List.dropWhile_eq_self_iff.mpr fun _ =>
      isWhiteSpace_of_isDigit ((isDigits_iff.mp areDigits).2 _ (List.getElem_mem _))
  rw [parseInt, noBlanks, readSign_of_isDigits areDigits]
  dsimp only
  rw [leadingInteger_of_isDigits areDigits]
  rfl

/-- A whole number that is not negative is printed by its digits. -/
theorem bigintText_natCast (number : Nat) : bigintText number = Nat.toDigits 10 number :=
  if_neg (by omega)

-----------------------------------------------------------------------------------------
-- The order of texts
-----------------------------------------------------------------------------------------

/-- Texts are compared in the lexicographic order of their units. -/
theorem comesBefore_iff {left right : List Char}
    : comesBefore left right = true ↔ unitNumbers left < unitNumbers right :=
  List.lex_eq_true_iff_lt

/-- No text comes before itself. -/
theorem comesBefore_self (text : List Char) : comesBefore text text = false :=
  Bool.eq_false_iff.mpr fun before => List.lt_irrefl _ (comesBefore_iff.mp before)

/-- The order of texts is transitive. -/
theorem comesBefore_trans {first second third : List Char}
    (before : comesBefore first second = true) (after : comesBefore second third = true)
    : comesBefore first third = true :=
  comesBefore_iff.mpr (List.lt_trans (comesBefore_iff.mp before) (comesBefore_iff.mp after))

/-- Digits have one unit each. -/
theorem unitNumbers_of_isDigits {text : List Char}
    (areDigits : ∀ character ∈ text, character.isDigit = true)
    : unitNumbers text = text.map Char.toNat := by
  have single
      : ∀ character ∈ text,
          (unitsOfPoint character.toNat).map UInt16.toNat = [character.toNat] := by
    intro character member
    have ascii : character.toNat < 128 :=
      ascii_of_isAlphanum (by rw [Char.isAlphanum, areDigits character member, Bool.or_true])
    rw [unitsOfPoint, if_pos (by omega)]
    simp only [List.map_cons, List.map_nil, Nat.toUInt16_eq, UInt16.toNat_ofNat']
    rw [Nat.mod_eq_of_lt (by omega)]
  rw [unitNumbers, List.flatMap_congr single, List.map_eq_flatMap]

/-- Texts of digits of which neither comes before the other are the same. -/
theorem eq_of_not_comesBefore {left right : List Char}
    (areDigits : ∀ character ∈ left, character.isDigit = true)
    (moreDigits : ∀ character ∈ right, character.isDigit = true)
    (notBefore : comesBefore left right = false) (notAfter : comesBefore right left = false)
    : left = right := by
  rw [Bool.eq_false_iff, Ne, comesBefore_iff, unitNumbers_of_isDigits areDigits,
    unitNumbers_of_isDigits moreDigits, List.not_lt] at notBefore notAfter
  have same := List.le_antisymm notAfter notBefore
  exact List.map_injective_iff.mpr (fun _ _ => Char.toNat_inj.mp) same

/-- Only zeros do not come after zeros, by induction along them. -/
theorem eq_zeros_of_not_lt {zeros text : List Char}
    (areZeros : ∀ character ∈ zeros, character = '0')
    (areDigits : ∀ character ∈ text, character.isDigit = true)
    (notBefore : ¬ zeros.map Char.toNat < text.map Char.toNat)
    : ∀ character ∈ text, character = '0' := by
  induction text generalizing zeros with
  | nil => exact nofun
  | cons digit rest ih =>
      cases zeros with
      | nil => exact absurd (List.nil_lt_cons _ _) notBefore
      | cons zero zeros =>
          obtain ⟨rfl, restZeros⟩ := List.forall_mem_cons.mp areZeros
          obtain ⟨isDigit, restDigits⟩ := List.forall_mem_cons.mp areDigits
          rw [List.map_cons, List.map_cons, List.cons_lt_cons_iff, not_or] at notBefore
          have isZero : digit = '0' :=
            (toNat_le_iff isDigit).mp (Nat.not_lt.mp notBefore.1)
          refine List.forall_mem_cons.mpr ⟨isZero, ih restZeros restDigits fun before => ?_⟩
          exact notBefore.2 ⟨by rw [isZero], before⟩

/-- Of texts of digits, only zeros do not come after zeros. -/
theorem eq_zeros_of_not_comesBefore {zeros text : List Char}
    (areZeros : ∀ character ∈ zeros, character = '0')
    (areDigits : ∀ character ∈ text, character.isDigit = true)
    (notBefore : comesBefore zeros text = false)
    : ∀ character ∈ text, character = '0' := by
  refine eq_zeros_of_not_lt areZeros areDigits ?_
  rw [Bool.eq_false_iff, Ne, comesBefore_iff, unitNumbers_of_isDigits areDigits,
    unitNumbers_of_isDigits fun character member => by rw [areZeros character member]; rfl]
    at notBefore
  exact notBefore

end Axionvera.Foundation
