import Axionvera.Foundation.AsciiCharacter
import Axionvera.Foundation.DecimalNumber
import Axionvera.Foundation.HexText
import Axionvera.Foundation.NearestNumber
import Mathlib.Data.List.DropRight
import Mathlib.Data.List.TakeWhile

/-! What `Number(text)` and `BigInt(text)` read: texts with blanks around them, nothing but blanks,
integers in other radices, fractions and exponents.
-/

namespace Axionvera.Foundation

/-- The characters that are blank around a number. -/
def isWhiteSpace (character : Char) : Bool :=
  character.toNat ∈ [0x09, 0x0A, 0x0B, 0x0C, 0x0D, 0x20, 0xA0, 0x1680, 0x2028, 0x2029, 0x202F,
    0x205F, 0x3000, 0xFEFF]
  || (0x2000 ≤ character.toNat && character.toNat ≤ 0x200A)

/-- A text without the blanks around it. -/
def trimBlanks (text : List Char) : List Char :=
  (text.dropWhile isWhiteSpace).rdropWhile isWhiteSpace

/-- What a numeric text is: blank, a decimal integer, an integer with the prefix of another radix, a
decimal with a point or an exponent, or the name of an infinity.
-/
inductive NumericText where
  | blank
  | integer (value : Int)
  | radix (value : Nat)
  | decimal (value : ℚ)
  | infinity (negative : Bool)

/-- Read a sign, if there is one: whether it is a minus, and what follows. -/
def readSign : List Char → Bool × List Char
  | '-' :: rest => (true, rest)
  | '+' :: rest => (false, rest)
  | rest => (false, rest)

/-- The text consists of decimal digits. -/
def isDigits (text : List Char) : Bool :=
  text ≠ [] && text.all Char.isDigit

/-- The integer that the whole text denotes: decimal digits behind an optional sign. -/
def decimalInteger (text : List Char) : Option Int :=
  let (negative, digits) := readSign text
  if isDigits digits then
    some (if negative then -(parseDigits digits : Int) else (parseDigits digits : Int))
  else none

/-- The radix of a prefix by its second character. -/
def radixOf (mark : Char) : Option Nat :=
  if mark = 'x' ∨ mark = 'X' then some 16
  else if mark = 'o' ∨ mark = 'O' then some 8
  else if mark = 'b' ∨ mark = 'B' then some 2
  else none

/-- The number of digits in a radix. -/
def readRadix (radix : Nat) (digits : List Char) : Option Nat :=
  if digits ≠ [] ∧ digits.all (fun digit => (hexDigitValue digit).any (· < radix)) then
    some (digits.foldl (fun value digit => value * radix + (hexDigitValue digit).getD 0) 0)
  else none

/-- Read an exponent up to the end of the text: `some none` if there is none. -/
def numericExponent : List Char → Option (Option Int)
  | [] => some none
  | mark :: rest =>
      if mark = 'e' ∨ mark = 'E' then (decimalInteger rest).map some else none

/-- The digits behind a point, if there is one, and what follows. -/
def numericFraction : List Char → Option (List Char) × List Char
  | '.' :: rest => (some (rest.takeWhile Char.isDigit), rest.dropWhile Char.isDigit)
  | rest => (none, rest)

/-- The value of digits before and behind a point, with an exponent. -/
def decimalValue (whole fraction : List Char) (exponent : Int) : ℚ :=
  (parseDigits whole + parseDigits fraction / 10 ^ fraction.length) * 10 ^ exponent

/-- Read a decimal behind its sign. -/
def numericDecimal (negative : Bool) (text : List Char) : Option NumericText :=
  let whole := text.takeWhile Char.isDigit
  let (fraction, rest) := numericFraction (text.dropWhile Char.isDigit)
  if text = "Infinity".toList then some (.infinity negative)
  else if whole = [] ∧ fraction.getD [] = [] then none
  else
    (numericExponent rest).map fun exponent =>
      if fraction = none ∧ exponent = none then
        .integer (if negative then -(parseDigits whole : Int) else (parseDigits whole : Int))
      else
        let value := decimalValue whole (fraction.getD []) (exponent.getD 0)
        .decimal (if negative then -value else value)

/-- Read a numeric text without blanks around it. -/
def readNumeric (text : List Char) : Option NumericText :=
  match text with
  | [] => some .blank
  | '0' :: mark :: digits =>
      match radixOf mark with
      | some radix => (readRadix radix digits).map .radix
      | none => numericDecimal false text
  | _ => numericDecimal (readSign text).1 (readSign text).2

/-- The number that a numeric text is. -/
def NumericText.toNumber : NumericText → JsNumber
  | .blank => .finite 0
  | .integer value => nearestNumber value
  | .radix value => nearestNumber value
  | .decimal value => nearestNumber value
  | .infinity negative => .infinity negative

/-- `Number(text)`. -/
def numberFromText (text : List Char) : JsNumber :=
  match readNumeric (trimBlanks text) with
  | some numeric => numeric.toNumber
  | none => .nan

/-- `BigInt(text)`, which throws for what is no integer. -/
def bigIntFromText (text : List Char) : Option Int :=
  match readNumeric (trimBlanks text) with
  | some .blank => some 0
  | some (.integer value) => some value
  | some (.radix value) => some value
  | some (.decimal _) | some (.infinity _) | none => none

/-- `Number(text)` and `BigInt(text)` of texts with blanks, radices, and exponents. -/
example
    : bigIntFromText " -5\n".toList = some (-5) ∧ bigIntFromText "0x1F".toList = some 31
      ∧ bigIntFromText "".toList = some 0 ∧ bigIntFromText "1e3".toList = none
      ∧ numberFromText ".5e+1".toList = .finite 5 ∧ numberFromText "5 5".toList = .nan := by
  decide +kernel

-----------------------------------------------------------------------------------------
-- Decimal integers
-----------------------------------------------------------------------------------------

/-- Texts of digits are not blank, and have only digits. -/
theorem isDigits_iff {text : List Char}
    : isDigits text = true ↔ text ≠ [] ∧ ∀ character ∈ text, character.isDigit = true := by
  rw [isDigits, Bool.and_eq_true, decide_eq_true_eq, List.all_eq_true]

/-- There is no exponent only at the end of a text. -/
theorem numericExponent_eq_some_none {text : List Char} (none : numericExponent text = some none)
    : text = [] := by
  cases text with
  | nil => rfl
  | cons mark rest =>
      rw [numericExponent] at none
      split at none
      · cases isInteger : decimalInteger rest with
        | none =>
            rw [isInteger] at none
            cases none
        | some exponent =>
            rw [isInteger] at none
            cases none
      · cases none

/-- Without a point nothing is read of a fraction. -/
theorem numericFraction_of_none {text : List Char} (none : (numericFraction text).1 = none)
    : (numericFraction text).2 = text := by
  unfold numericFraction at none ⊢
  split at none
  · cases none
  · rfl

/-- What is read behind the sign is an integer exactly if the text has nothing but digits. -/
theorem numericDecimal_eq_integer_iff {negative : Bool} {text : List Char} {value : Int}
    : numericDecimal negative text = some (.integer value)
      ↔ isDigits text = true
        ∧ (if negative then -(parseDigits text : Int) else (parseDigits text : Int)) = value := by
  rw [isDigits_iff]
  constructor
  · intro read
    unfold numericDecimal at read
    dsimp only at read
    split at read
    · cases read
    · split at read
      · cases read
      · rename_i someDigits
        obtain ⟨exponent, isExponent, isInteger⟩ := Option.map_eq_some_iff.mp read
        split at isInteger
        · rename_i plain
          obtain ⟨noFraction, rfl⟩ := plain
          rw [numericFraction_of_none noFraction] at isExponent
          have nothing := numericExponent_eq_some_none isExponent
          have digits := List.dropWhile_eq_nil_iff.mp nothing
          rw [List.takeWhile_eq_self_iff.mpr digits] at someDigits isInteger
          refine ⟨⟨fun isEmpty => someDigits ⟨isEmpty, by rw [noFraction]; rfl⟩, digits⟩, ?_⟩
          exact NumericText.integer.inj isInteger
        · cases isInteger
  · rintro ⟨⟨some, digits⟩, rfl⟩
    have whole : text.takeWhile Char.isDigit = text := List.takeWhile_eq_self_iff.mpr digits
    have nothing : text.dropWhile Char.isDigit = [] := List.dropWhile_eq_nil_iff.mpr digits
    have noName : text ≠ "Infinity".toList := by
      rintro rfl
      exact absurd (digits 'I' (by decide)) (by decide)
    have noFraction : numericFraction [] = (none, []) := rfl
    rw [numericDecimal, whole, nothing, noFraction]
    dsimp only
    rw [if_neg noName, if_neg fun noDigits => some noDigits.1]
    rfl

/-- A text is read as a decimal integer exactly if it is one. -/
theorem readNumeric_eq_integer_iff {text : List Char} {value : Int}
    : readNumeric text = some (.integer value) ↔ decimalInteger text = some value := by
  have signed
      : numericDecimal (readSign text).1 (readSign text).2 = some (.integer value)
        ↔ decimalInteger text = some value := by
    rw [numericDecimal_eq_integer_iff, decimalInteger]
    dsimp only
    by_cases digits : isDigits (readSign text).2 = true
    · rw [if_pos digits, and_iff_right digits, Option.some.injEq]
    · rw [if_neg digits]
      exact iff_of_false (fun both => digits both.1) nofun
  unfold readNumeric
  split
  · exact iff_of_false nofun nofun
  · rename_i mark digits
    split
    · rename_i radix isRadix
      have noDigit : mark.isDigit = false := by
        unfold radixOf at isRadix
        split_ifs at isRadix with hexadecimal octal binary
        · rcases hexadecimal with rfl | rfl <;> rfl
        · rcases octal with rfl | rfl <;> rfl
        · rcases binary with rfl | rfl <;> rfl
      have noDigits : ¬ isDigits ('0' :: mark :: digits) = true := by
        intro allDigits
        have isDigit := (isDigits_iff.mp allDigits).2 mark (by simp)
        rw [noDigit] at isDigit
        cases isDigit
      refine iff_of_false (fun read => ?_) fun isInteger => ?_
      · cases value : readRadix radix digits <;> rw [value] at read <;> cases read
      · change (if isDigits ('0' :: mark :: digits) then some _ else none) = _ at isInteger
        rw [if_neg noDigits] at isInteger
        cases isInteger
    · exact signed
  · exact signed

/-- Digits are not blank. -/
theorem isWhiteSpace_of_isDigit {character : Char} (isDigit : character.isDigit = true)
    : ¬ isWhiteSpace character = true := by
  have ascii : character.toNat < 128 :=
    ascii_of_isAlphanum (by rw [Char.isAlphanum, isDigit, Bool.or_true])
  have checked := forall_ascii (fun character => !character.isDigit || !isWhiteSpace character)
    (by decide) ascii
  simpa [isDigit] using checked

/-- A decimal integer has no blanks, so that it stays as it is without those around it. -/
theorem trimBlanks_of_decimalInteger {text : List Char} {value : Int}
    (isInteger : decimalInteger text = some value)
    : trimBlanks text = text := by
  have notBlank : ∀ character ∈ text, ¬ isWhiteSpace character = true := by
    have digits : isDigits (readSign text).2 = true := by
      rw [decimalInteger] at isInteger
      dsimp only at isInteger
      split at isInteger
      · assumption
      · cases isInteger
    have ofDigits : ∀ character ∈ (readSign text).2, ¬ isWhiteSpace character = true :=
      fun character member => isWhiteSpace_of_isDigit ((isDigits_iff.mp digits).2 character member)
    unfold readSign at ofDigits
    split at ofDigits
    · exact List.forall_mem_cons.mpr ⟨by decide, ofDigits⟩
    · exact List.forall_mem_cons.mpr ⟨by decide, ofDigits⟩
    · exact ofDigits
  have noneBefore : text.dropWhile isWhiteSpace = text :=
    List.dropWhile_eq_self_iff.mpr fun some => notBlank _ (List.getElem_mem _)
  rw [trimBlanks, noneBefore]
  exact List.rdropWhile_eq_self_iff.mpr fun some => notBlank _ (List.getLast_mem some)

end Axionvera.Foundation
