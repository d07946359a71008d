import Axionvera.Foundation.DecimalNumber

/-! The texts in which JavaScript prints finite numbers and big integers tell them apart. -/

namespace Axionvera.Foundation

/-- A finite number: zero, or a sign and a magnitude. The two zeros are equal and print alike. -/
inductive FiniteNumber where
  | zero
  | signed (negative : Bool) (magnitude : DecimalNumber)

/-- `String(value)` of a finite number. -/
def FiniteNumber.toText : FiniteNumber → List Char
  | .zero => ['0']
  | .signed true magnitude => '-' :: magnitude.toText
  | .signed false magnitude => magnitude.toText

/-- The exponent that is written behind the exponent mark, or zero if there is none. -/
def readExponent : List Char → Int
  | [] => 0
  | sign :: digits =>
      if sign = '-' then -(Nat.ofDigitChars 10 digits 0 : Int) else Nat.ofDigitChars 10 digits 0

/-- The digits of a printed number without zeros around them, and the place of its point. -/
def readDecimal (text : List Char) : List Char × Int :=
  let mantissa := text.takeWhile fun character => character ≠ 'e'
  let whole := mantissa.takeWhile fun character => character ≠ '.'
  let all := whole ++ (mantissa.dropWhile fun character => character ≠ '.').drop 1
  let significant := all.dropWhile fun character => character = '0'
  let exponent := readExponent ((text.dropWhile fun character => character ≠ 'e').drop 1)
  ((significant.reverse.dropWhile fun character => character = '0').reverse,
    whole.length - (all.length - significant.length) + exponent)

/-- Nothing is dropped from a list whose first element stays. -/
theorem dropWhile_of_head {α : Type*} {test : α → Bool} {list : List α}
    (stays : ∀ first ∈ list.head?, test first = false)
    : list.dropWhile test = list := by
  cases list with
  | nil => rfl
  | cons first rest =>
      have notDropped : test first = false := stays first rfl
      rw [List.dropWhile_cons, notDropped]
      rfl

/-- The first part of a list is taken if it passes the test and what follows it does not. -/
theorem takeWhile_append_of_head {α : Type*} {test : α → Bool} {front back : List α}
    (passes : ∀ element ∈ front, test element = true)
    (stops : ∀ first ∈ back.head?, test first = false)
    : (front ++ back).takeWhile test = front ∧ (front ++ back).dropWhile test = back := by
  rw [List.takeWhile_append_of_pos passes, List.dropWhile_append_of_pos passes,
    dropWhile_of_head stops]
  refine ⟨?_, rfl⟩
  cases back with
  | nil => simp
  | cons first rest =>
      have notTaken : test first = false := stops first rfl
      rw [List.takeWhile_cons, notTaken]
      simp

/-- Digits are neither a point nor an exponent mark. -/
theorem digits_plain {digits : List (Fin 10)} {character : Char}
    (member : character ∈ digits.map digitChar)
    : character.isDigit = true ∧ character ≠ '.' ∧ character ≠ 'e' := by
  obtain ⟨digit, _, rfl⟩ := List.mem_map.mp member
  exact digitChar_isDigit digit

/-- Only the digit zero is written as zero. -/
theorem digitChar_eq_zero_iff (digit : Fin 10) : digitChar digit = '0' ↔ digit = 0 := by
  revert digit
  decide

/-- Different digits are written differently. -/
theorem digitChar_injective : Function.Injective digitChar := by
  intro first second same
  have codes := congrArg Char.toNat same
  rw [digitChar_toNat, digitChar_toNat] at codes
  exact Fin.ext (by omega)

namespace DecimalNumber

/-- Digits around a point, with an exponent behind them if there is one. -/
def layout (whole fraction : List (Fin 10)) (exponent : List Char) : List Char :=
  whole.map digitChar ++ (if fraction = [] then [] else '.' :: fraction.map digitChar) ++ exponent

/-- The exponent mark divides a layout. -/
theorem takeWhile_layout (whole fraction : List (Fin 10)) {exponent : List Char}
    (marked : ∀ first ∈ exponent.head?, first = 'e')
    : (layout whole fraction exponent).takeWhile (fun character => character ≠ 'e')
        = whole.map digitChar ++ (if fraction = [] then [] else '.' :: fraction.map digitChar)
      ∧ (layout whole fraction exponent).dropWhile (fun character => character ≠ 'e')
        = exponent := by
  refine takeWhile_append_of_head (fun character member => ?_) fun first isHead => ?_
  · rw [decide_eq_true_eq]
    rcases List.mem_append.mp member with isWhole | isFraction
    · exact (digits_plain isWhole).2.2
    · split at isFraction
      · cases isFraction
      · rcases List.mem_cons.mp isFraction with rfl | isFraction
        · decide
        · exact (digits_plain isFraction).2.2
  · simp [marked first isHead]

/-- The point divides the digits. -/
theorem takeWhile_mantissa (whole fraction : List (Fin 10))
    : (whole.map digitChar
            ++ (if fraction = [] then [] else '.' :: fraction.map digitChar)).takeWhile
          (fun character => character ≠ '.')
        = whole.map digitChar
      ∧ (whole.map digitChar
            ++ (if fraction = [] then [] else '.' :: fraction.map digitChar)).dropWhile
          (fun character => character ≠ '.')
        = if fraction = [] then [] else '.' :: fraction.map digitChar := by
  refine takeWhile_append_of_head (fun character member => ?_) fun first isHead => ?_
  · simpa using (digits_plain member).2.1
  · split at isHead
    · cases isHead
    · obtain rfl := Option.some.inj isHead
      decide

/-- Zeros are zeros. -/
theorem zeros_are_zero (count : Nat)
    : ∀ character ∈ List.replicate count '0', decide (character = '0') = true :=
  fun _ member => by simpa using List.eq_of_mem_replicate member

/-- Zeros in front of the digits of a number are dropped, and no others. -/
theorem dropWhile_zeros_before (number : DecimalNumber) (before after : Nat)
    : (List.replicate before '0'
          ++ (number.digits.map digitChar ++ List.replicate after '0')).dropWhile
        (fun character => character = '0')
      = number.digits.map digitChar ++ List.replicate after '0' := by
  rw [List.dropWhile_append_of_pos (zeros_are_zero before)]
  refine dropWhile_of_head fun first isFirst => ?_
  obtain ⟨digit, isHead, nonzero⟩ := number.leading
  obtain rfl : digitChar digit = first := by
    cases shape : number.digits with
    | nil => simp [shape] at isHead
    | cons head rest => simp_all
  simpa [digitChar_eq_zero_iff] using nonzero

/-- Zeros behind the digits of a number are dropped, and no others. -/
theorem dropWhile_zeros_after (number : DecimalNumber) (after : Nat)
    : ((number.digits.map digitChar ++ List.replicate after '0').reverse.dropWhile
          (fun character => character = '0')).reverse
      = number.digits.map digitChar := by
  rw [List.reverse_append, List.reverse_replicate,
    List.dropWhile_append_of_pos (zeros_are_zero after), dropWhile_of_head, List.reverse_reverse]
  intro first isFirst
  rw [List.head?_reverse, List.getLast?_map] at isFirst
  obtain ⟨last, isLast, rfl⟩ := Option.map_eq_some_iff.mp isFirst
  simpa [digitChar_eq_zero_iff] using number.trailing last isLast

/-- The digits between zeros and the place of the point are read back, by looking for the exponent
mark and for the point.
-/
theorem readDecimal_layout {number : DecimalNumber} {whole fraction : List (Fin 10)}
    {exponent : List Char} {before after : Nat}
    (digits
      : whole ++ fraction
        = List.replicate before 0 ++ number.digits ++ List.replicate after 0)
    (marked : ∀ first ∈ exponent.head?, first = 'e')
    (point : number.point = whole.length - before + readExponent (exponent.drop 1))
    : readDecimal (layout whole fraction exponent)
      = (number.digits.map digitChar, number.point) := by
  obtain ⟨isMantissa, isExponent⟩ := takeWhile_layout whole fraction marked
  obtain ⟨isWhole, isFraction⟩ := takeWhile_mantissa whole fraction
  have all
      : whole.map digitChar
          ++ (if fraction = [] then [] else '.' :: fraction.map digitChar).drop 1
        = List.replicate before '0'
          ++ (number.digits.map digitChar ++ List.replicate after '0') := by
    have written := congrArg (List.map digitChar) digits
    rw [List.map_append, List.map_append, List.map_append, List.map_replicate,
      List.map_replicate] at written
    rw [← List.append_assoc, show '0' = digitChar 0 from rfl, ← written]
    split <;> simp_all
  unfold readDecimal
  simp only [isMantissa, isExponent, isWhole, isFraction, all, dropWhile_zeros_before,
    dropWhile_zeros_after]
  rw [point]
  simp only [List.length_append, List.length_map, List.length_replicate]
  congr 1
  omega

/-- A printed number is a layout of its digits and some zeros, by the cases of `toText`. -/
theorem toText_layout (number : DecimalNumber)
    : ∃ whole fraction exponent before after,
        number.toText = layout whole fraction exponent
        ∧ whole ≠ []
        ∧ whole ++ fraction
            = List.replicate before 0 ++ number.digits ++ List.replicate after 0
        ∧ (∀ first ∈ exponent.head?, first = 'e')
        ∧ (∀ character ∈ exponent.drop 1,
            character.isDigit = true ∨ character = '-' ∨ character = '+')
        ∧ number.point = whole.length - before + readExponent (exponent.drop 1) := by
  have nonempty : number.digits ≠ [] := by
    obtain ⟨first, isHead, _⟩ := number.leading
    intro empty
    simp [empty] at isHead
  by_cases isPlain : 0 < number.point ∧ number.point ≤ 21
  · obtain ⟨places, isPoint⟩ : ∃ places : Nat, number.point = places :=
      ⟨number.point.toNat, (Int.toNat_of_nonneg isPlain.1.le).symm⟩
    have text : number.toText
        = if number.digits.length ≤ places then
            number.digits.map digitChar ++ List.replicate (places - number.digits.length) '0'
          else (number.digits.map digitChar).take places
              ++ '.' :: (number.digits.map digitChar).drop places := by
      simp only [toText, if_pos isPlain]
      simp only [isPoint, Int.toNat_natCast, List.length_map]
    by_cases fits : number.digits.length ≤ places
    · refine ⟨number.digits ++ List.replicate (places - number.digits.length) 0, [], [], 0,
        places - number.digits.length, ?_, by simp [nonempty], by simp, by simp, by simp, ?_⟩
      · rw [text, if_pos fits]
        simp [layout, digitChar]
      · simp only [isPoint, List.length_append, List.length_replicate, List.drop_nil, readExponent]
        omega
    · have beyond : places < number.digits.length := not_le.mp fits
      have rest : number.digits.drop places ≠ [] := by simpa using beyond
      refine ⟨number.digits.take places, number.digits.drop places, [], 0, 0, ?_, ?_, by simp,
        by simp, by simp, ?_⟩
      · rw [text, if_neg fits]
        simp [layout, beyond]
      · simp only [ne_eq, List.take_eq_nil_iff, not_or]
        exact ⟨by omega, nonempty⟩
      · simp only [isPoint, List.length_take, List.drop_nil, readExponent]
        omega
  · by_cases isSmall : -6 < number.point ∧ number.point ≤ 0
    · refine ⟨[0], List.replicate (-number.point).toNat 0 ++ number.digits, [],
        (-number.point).toNat + 1, 0, ?_, by simp, ?_, by simp, by simp, ?_⟩
      · simp [toText, isPlain, isSmall, layout, nonempty, digitChar]
      · simp [List.replicate_succ]
      · simp only [List.length_singleton, List.drop_nil, readExponent]
        omega
    · obtain ⟨first, rest, shape⟩ := List.exists_cons_of_ne_nil nonempty
      refine ⟨[first], rest,
        'e' :: (if number.point - 1 < 0 then '-' else '+')
          :: Nat.toDigits 10 (number.point - 1).natAbs,
        0, 0, ?_, by simp, by simp [shape], by simp, ?_, ?_⟩
      · simp [toText, isPlain, isSmall, layout, shape]
      · intro character member
        rcases List.mem_cons.mp member with rfl | isDigit
        · split <;> simp
        · exact .inl (Nat.isDigit_of_mem_toDigits (by decide) (by decide) isDigit)
      · simp only [List.length_singleton, List.drop_one, List.tail_cons, readExponent,
          Nat.ofDigitChars_ten_toDigits]
        by_cases below : number.point - 1 < 0
        · simp only [if_pos below, if_true]
          omega
        · simp only [if_neg below, show '+' ≠ '-' by decide, if_false]
          omega

/-- A printed number shows its digits and its point, by reading its layout. -/
theorem readDecimal_toText (number : DecimalNumber)
    : readDecimal number.toText = (number.digits.map digitChar, number.point) := by
  obtain ⟨whole, fraction, exponent, before, after, text, _, digits, marked, _, point⟩ :=
    toText_layout number
  rw [text]
  exact readDecimal_layout digits marked point

/-- Different numbers are printed differently. -/
theorem toText_injective : Function.Injective toText := by
  intro first second same
  have read := congrArg readDecimal same
  rw [readDecimal_toText, readDecimal_toText, Prod.mk.injEq] at read
  have digits := List.map_injective_iff.mpr digitChar_injective read.1
  cases first
  cases second
  simp_all

/-- A printed number starts with a digit and consists of digits, a point, an exponent mark and
signs.
-/
theorem toText_characters (number : DecimalNumber)
    : (∃ first ∈ number.toText.head?, first.isDigit = true)
      ∧ ∀ character ∈ number.toText,
          character.isDigit = true ∨ character ∈ ['.', 'e', '-', '+'] := by
  obtain ⟨whole, fraction, exponent, _, _, text, nonempty, _, marked, signed, _⟩ :=
    toText_layout number
  obtain ⟨digit, digits, rfl⟩ := List.exists_cons_of_ne_nil nonempty
  rw [text]
  refine ⟨⟨digitChar digit, rfl, (digitChar_isDigit digit).1⟩, fun character member => ?_⟩
  rcases List.mem_append.mp member with isMantissa | isExponent
  · rcases List.mem_append.mp isMantissa with isWhole | isFraction
    · exact .inl (digits_plain isWhole).1
    · split at isFraction
      · cases isFraction
      · rcases List.mem_cons.mp isFraction with rfl | isDigit
        · exact .inr (by decide)
        · exact .inl (digits_plain isDigit).1
  · cases exponent with
    | nil => cases isExponent
    | cons mark others =>
        obtain rfl := marked mark rfl
        rcases List.mem_cons.mp isExponent with rfl | isOther
        · exact .inr (by decide)
        · rcases signed character isOther with isDigit | rfl | rfl
          · exact .inl isDigit
          · exact .inr (by decide)
          · exact .inr (by decide)

end DecimalNumber

namespace FiniteNumber

/-- A character that can occur in a printed number. -/
def isNumeric (character : Char) : Bool :=
  character.isDigit || character ∈ ['.', 'e', '-', '+']

/-- A printed number starts with a digit or a minus sign. -/
theorem toText_head (number : FiniteNumber)
    : ∃ first ∈ number.toText.head?, first.isDigit = true ∨ first = '-' := by
  match number with
  | .zero => exact ⟨'0', rfl, .inl rfl⟩
  | .signed true magnitude => exact ⟨'-', rfl, .inr rfl⟩
  | .signed false magnitude =>
      obtain ⟨first, isHead, isDigit⟩ := magnitude.toText_characters.1
      exact ⟨first, isHead, .inl isDigit⟩

/-- A printed number consists of characters that can occur in one. -/
theorem toText_numeric (number : FiniteNumber)
    : ∀ character ∈ number.toText, isNumeric character = true := by
  have plain (magnitude : DecimalNumber)
      : ∀ character ∈ magnitude.toText, isNumeric character = true := by
    intro character member
    rcases magnitude.toText_characters.2 character member with isDigit | isOther
    · rw [isNumeric, isDigit, Bool.true_or]
    · rw [isNumeric, decide_eq_true isOther, Bool.or_true]
  match number with
  | .zero => exact fun character member => List.mem_singleton.mp member ▸ rfl
  | .signed true magnitude =>
      intro character member
      rcases List.mem_cons.mp member with rfl | isPlain
      · rfl
      · exact plain magnitude character isPlain
  | .signed false magnitude => exact plain magnitude

/-- A printed magnitude shows a digit that is not zero and no minus sign in front. -/
theorem magnitude_text (magnitude : DecimalNumber)
    : magnitude.toText ≠ ['0'] ∧ ∀ text, magnitude.toText ≠ '-' :: text := by
  constructor
  · intro isZero
    have read := DecimalNumber.readDecimal_toText magnitude
    rw [isZero] at read
    have empty : magnitude.digits.map digitChar = [] := (congrArg Prod.fst read).symm
    obtain ⟨first, isHead, _⟩ := magnitude.leading
    simp_all
  · intro text isNegative
    obtain ⟨first, isHead, isDigit⟩ := magnitude.toText_characters.1
    rw [isNegative] at isHead
    obtain rfl := Option.some.inj isHead
    cases isDigit

/-- Different numbers are printed differently, by cases on their signs. -/
theorem toText_injective : Function.Injective toText := by
  intro first second same
  match first, second with
  | .zero, .zero => rfl
  | .zero, .signed true other => cases same
  | .zero, .signed false other => exact absurd same.symm (magnitude_text other).1
  | .signed true magnitude, .zero => cases same
  | .signed true magnitude, .signed true other =>
      rw [DecimalNumber.toText_injective (List.cons.inj same).2]
  | .signed true magnitude, .signed false other =>
      exact absurd same.symm ((magnitude_text other).2 _)
  | .signed false magnitude, .zero => exact absurd same (magnitude_text magnitude).1
  | .signed false magnitude, .signed true other =>
      exact absurd same ((magnitude_text magnitude).2 _)
  | .signed false magnitude, .signed false other =>
      rw [DecimalNumber.toText_injective same]

end FiniteNumber

/-- `value.toString()` of a big integer. -/
def bigintText (value : Int) : List Char :=
  if value < 0 then '-' :: Nat.toDigits 10 value.natAbs else Nat.toDigits 10 value.natAbs

end Axionvera.Foundation
