import Axionvera.Cli.ArgumentParsing

/-! Which texts of typed arguments mean what they say: what a text denotes as a value of its type,
and which other texts are turned into a value all the same.
-/

namespace Axionvera.Cli

open Axionvera.Codegen (IntegerKind StellarSdk TsArgument bigIntOf utf8Bytes)
open Axionvera.Foundation
open Axionvera.Soroban

/-- The value of an integer in the range of its kind. -/
def integerToScVal (kind : IntegerKind) (value : Int) : Option ScVal :=
  if kind.fits value then some (kind.toScVal value) else none

/-- (RejectsOutOfRange sdk) requires `nativeToScVal` with an integer type to reject what is not in
the range of the type.
-/
def RejectsOutOfRange (sdk : StellarSdk) : Prop :=
  ∀ kind value, kind.fits value = false → sdk.typedInteger kind value = none

/-- The value of a type that a whole text denotes. -/
def denotes (sdk : StellarSdk) (type : ArgumentType) (text : List Char) : Option ScVal :=
  match type with
  | .address => (sdk.addressOf (String.ofList text)).map .address
  | .account =>
      match sdk.addressOf (String.ofList text) with
      | some (.account publicKey) => some (.address (.account publicKey))
      | _ => none
  | .contract =>
      match sdk.addressOf (String.ofList text) with
      | some (.contract id) => some (.address (.contract id))
      | _ => none
  | .bool =>
      if text = "true".toList then some (.bool true)
      else if text = "false".toList then some (.bool false)
      else none
  | .integer kind => (decimalInteger text).bind (integerToScVal kind)
  | .symbol => some (.symbol (utf8Bytes (String.ofList text)))
  | .string => some (.string (utf8Bytes (String.ofList text)))
  | .bytes => (decodeHex text).map .bytes

/-- An argument with a type prefix is the value that its text denotes, or is refused. -/
def meansWhatItSays (sdk : StellarSdk) (type : ArgumentType) (text : List Char) : Prop :=
  ∀ value,
    parseScVal sdk (type.name.toList ++ ':' :: text) = some value
    → denotes sdk type text = some value

/-- The text is a decimal integer without blanks around it, or is no integer of the kind in any
notation: a blank text is zero, an integer in another radix is one if it is in range, and for the
kinds that go through `Number` so is a decimal that is nearest to an integer in range.
-/
def isPlainOrNone (kind : IntegerKind) (text : List Char) : Prop :=
  match readNumeric (trimBlanks text) with
  | none => True
  | some .blank => False
  | some (.integer value) => trimBlanks text = text ∨ kind.fits value = false
  | some (.radix value) => kind.fits value = false
  | some (.decimal value) =>
      isNarrow kind = true
      → ∀ integer : Int, nearestNumber value = .finite integer → kind.fits integer = false
  | some (.infinity _) => True

/-- The text is one that its type does not turn into something else: an address is not of another
class than the type, a truth value is written out, and bytes are hexadecimal digits in pairs.
-/
def isFaithful (sdk : StellarSdk) (type : ArgumentType) (text : List Char) : Prop :=
  match type with
  | .address | .symbol | .string => True
  | .account =>
      ∀ address, sdk.addressOf (String.ofList text) = some address
        → ∃ publicKey, address = .account publicKey
  | .contract =>
      ∀ address, sdk.addressOf (String.ofList text) = some address → ∃ id, address = .contract id
  | .bool => text = "true".toList ∨ text = "false".toList
  | .integer kind => isPlainOrNone kind text
  | .bytes => decodeHex text ≠ none

-----------------------------------------------------------------------------------------
-- Integers
-----------------------------------------------------------------------------------------

/-- The kinds that go through `Number` have at most 32 binary digits. -/
theorem lt_of_fits {kind : IntegerKind} {value : Int} (narrow : isNarrow kind = true)
    (fits : kind.fits value = true)
    : |value| < 2 ^ 32 := by
  rw [isNarrow, Bool.or_eq_true, decide_eq_true_eq, decide_eq_true_eq] at narrow
  rw [abs_lt]
  rcases narrow with rfl | rfl <;>
    simp only [IntegerKind.fits, Bool.and_eq_true, decide_eq_true_eq] at fits <;> omega

/-- `BigInt(number)` is the integer that the number is. -/
theorem bigIntOf_eq_some_iff {number : JsNumber} {value : Int}
    : bigIntOf number = some value ↔ number = .finite value := by
  cases number with
  | nan => exact iff_of_false nofun nofun
  | infinity negative => exact iff_of_false nofun nofun
  | finite fraction =>
      rw [bigIntOf, Option.ite_none_right_eq_some, JsNumber.finite.injEq, Option.some.injEq]
      constructor
      · rintro ⟨isInt, rfl⟩
        exact Rat.eq_num_of_isInt isInt
      · rintro rfl
        exact ⟨rfl, rfl⟩

/-- A library that rejects what is out of range makes of an integer its value. -/
theorem typedInteger_eq {sdk : StellarSdk} (rejects : RejectsOutOfRange sdk) (kind : IntegerKind)
    : sdk.typedInteger kind = integerToScVal kind := by
  funext value
  rw [integerToScVal]
  split_ifs with fits
  · exact sdk.typedInteger_of_fits fits
  · exact rejects kind value (Bool.eq_false_of_not_eq_true fits)

/-- An integer in the range of a kind that goes through `Number` stays what it is. -/
theorem bigIntOf_nearestNumber {kind : IntegerKind} {value : Int} (narrow : isNarrow kind = true)
    (fits : kind.fits value = true)
    : bigIntOf (nearestNumber value) = some value := by
  have small := lt_of_fits narrow fits
  exact bigIntOf_eq_some_iff.mpr (nearestNumber_of_lt (small.trans (by norm_num)))

/-- An integer that goes through `Number` stays what it is, if it is in the range of the kind, and
stays out of it otherwise.
-/
theorem bind_nearestNumber {kind : IntegerKind} (narrow : isNarrow kind = true) (value : Int)
    : (bigIntOf (nearestNumber value)).bind (integerToScVal kind) = integerToScVal kind value := by
  rcases lt_or_ge |value| (2 ^ 53) with small | large
  · rw [bigIntOf_eq_some_iff.mpr (nearestNumber_of_lt small), Option.bind_some]
  · have outside : ∀ other : Int, 2 ^ 52 ≤ |other| → integerToScVal kind other = none := by
      refine fun other beyond => if_neg fun fits => ?_
      have below := lt_of_fits narrow fits
      omega
    rw [outside value (le_trans (by norm_num) large), Option.bind_eq_none_iff]
    intro other isOther
    have still := le_of_nearestNumber_eq large (bigIntOf_eq_some_iff.mp isOther)
    exact outside other (by exact_mod_cast still)

/-- What becomes of an integer argument, by what kind of numeric text it is. -/
def numericToScVal (kind : IntegerKind) : Option NumericText → Option ScVal
  | none | some (.infinity _) => none
  | some .blank => integerToScVal kind 0
  | some (.integer value) => integerToScVal kind value
  | some (.radix value) => integerToScVal kind value
  | some (.decimal value) =>
      if isNarrow kind then (bigIntOf (nearestNumber value)).bind (integerToScVal kind) else none

/-- The two ways to read an integer argument differ only for decimals. -/
theorem coerce_integer {sdk : StellarSdk} (rejects : RejectsOutOfRange sdk) (kind : IntegerKind)
    (text : List Char)
    : coerce sdk (.integer kind) text = numericToScVal kind (readNumeric (trimBlanks text)) := by
  unfold coerce
  dsimp only
  rw [typedInteger_eq rejects]
  split
  · rename_i narrow
    unfold numberFromText
    cases readNumeric (trimBlanks text) with
    | none => rfl
    | some numeric =>
        cases numeric with
        | blank =>
            exact congrArg (Option.bind · (integerToScVal kind)) (bigIntOf_eq_some_iff.mpr rfl)
        | integer value => exact bind_nearestNumber narrow value
        | radix value => exact bind_nearestNumber narrow value
        | decimal value => exact (if_pos narrow).symm
        | infinity negative => rfl
  · rename_i wide
    unfold bigIntFromText
    cases readNumeric (trimBlanks text) with
    | none => rfl
    | some numeric =>
        cases numeric with
        | blank => rfl
        | integer value => rfl
        | radix value => rfl
        | decimal value => exact (if_neg wide).symm
        | infinity negative => rfl

/-- Zero is in the range of every kind. -/
theorem fits_zero (kind : IntegerKind) : kind.fits 0 = true := by
  cases kind <;> decide

/-- An integer is turned into a value exactly if it is in the range of the kind. -/
theorem integerToScVal_eq_none_iff {kind : IntegerKind} {value : Int}
    : integerToScVal kind value = none ↔ kind.fits value = false := by
  unfold integerToScVal
  cases kind.fits value <;> simp

/-- A text that is not read as a decimal integer is none. -/
theorem decimalInteger_eq_none {text : List Char}
    (notInteger : ∀ integer, readNumeric (trimBlanks text) ≠ some (.integer integer))
    : decimalInteger text = none := by
  rw [Option.eq_none_iff_forall_ne_some]
  intro integer isInteger
  refine notInteger integer ?_
  rw [trimBlanks_of_decimalInteger isInteger]
  exact readNumeric_eq_integer_iff.mpr isInteger

/-- A decimal is turned into no value exactly if it goes through `BigInt`, or is nearest to no
integer in the range of the kind.
-/
theorem decimalToScVal_eq_none_iff {kind : IntegerKind} {value : ℚ}
    : numericToScVal kind (some (.decimal value)) = none
      ↔ (isNarrow kind = true
          → ∀ integer : Int,
              nearestNumber value = .finite integer → kind.fits integer = false) := by
  rw [numericToScVal]
  split
  · rename_i narrow
    rw [forall_prop_of_true narrow, Option.bind_eq_none_iff]
    refine forall_congr' fun integer => ?_
    rw [bigIntOf_eq_some_iff, integerToScVal_eq_none_iff]
  · rename_i wide
    exact iff_of_true rfl fun narrow => absurd narrow wide

/-- A decimal integer is turned into the value that it denotes exactly if it has no blanks around
it, or is not in the range of the kind.
-/
theorem integer_means_iff {kind : IntegerKind} {text : List Char} {integer : Int}
    (read : readNumeric (trimBlanks text) = some (.integer integer))
    : (∀ value,
        integerToScVal kind integer = some value
        → (decimalInteger text).bind (integerToScVal kind) = some value)
      ↔ trimBlanks text = text ∨ kind.fits integer = false := by
  constructor
  · intro always
    cases isValue : integerToScVal kind integer with
    | none => exact .inr (integerToScVal_eq_none_iff.mp isValue)
    | some value =>
        obtain ⟨other, isInteger, -⟩ := Option.bind_eq_some_iff.mp (always value isValue)
        exact .inl (trimBlanks_of_decimalInteger isInteger)
  · rintro (trimmed | outside) value isValue
    · rw [trimmed] at read
      rw [readNumeric_eq_integer_iff.mp read]
      exact isValue
    · rw [integerToScVal_eq_none_iff.mpr outside] at isValue
      cases isValue

/-- A numeric text is only turned into the value that it denotes if it is a decimal integer without
blanks around it, or if it is turned into none.
-/
theorem isPlainOrNone_iff (kind : IntegerKind) (text : List Char)
    : (∀ value,
        numericToScVal kind (readNumeric (trimBlanks text)) = some value
        → (decimalInteger text).bind (integerToScVal kind) = some value)
      ↔ isPlainOrNone kind text := by
  -- What is no decimal integer denotes no value, so that it must be turned into none.
  have ofOther (notInteger : ∀ integer, readNumeric (trimBlanks text) ≠ some (.integer integer))
      (outcome : Option ScVal)
      : (∀ value,
          outcome = some value → (decimalInteger text).bind (integerToScVal kind) = some value)
        ↔ outcome = none := by
    rw [decimalInteger_eq_none notInteger, Option.eq_none_iff_forall_ne_some]
    exact forall_congr' fun value => imp_congr_right fun _ => iff_of_false nofun id
  unfold isPlainOrNone
  cases read : readNumeric (trimBlanks text) with
  | none => exact iff_of_true nofun trivial
  | some numeric =>
      rw [read] at ofOther
      cases numeric with
      | blank =>
          refine (ofOther nofun _).trans (iff_of_false (fun isNone => ?_) id)
          have fits := integerToScVal_eq_none_iff.mp isNone
          rw [fits_zero] at fits
          cases fits
      | integer integer => exact integer_means_iff read
      | radix value => exact (ofOther nofun _).trans integerToScVal_eq_none_iff
      | decimal value => exact (ofOther nofun _).trans decimalToScVal_eq_none_iff
      | infinity negative => exact (ofOther nofun _).trans (iff_of_true rfl trivial)

-----------------------------------------------------------------------------------------
-- All types
-----------------------------------------------------------------------------------------

/-- A text of hexadecimal digits in pairs gives its bytes, by induction along it. -/
theorem bufferFromHex_of_decodeHex {text : List Char} {bytes : List UInt8}
    (isHex : decodeHex text = some bytes)
    : bufferFromHex text = bytes := by
  induction text using bufferFromHex.induct generalizing bytes with
  | case1 high low rest byte isByte ih =>
      rw [decodeHex, isByte] at isHex
      cases isRest : decodeHex rest with
      | none =>
          rw [isRest] at isHex
          cases isHex
      | some others =>
          rw [isRest] at isHex
          rw [bufferFromHex, isByte, ← Option.some.inj isHex, ← ih isRest]
  | case2 high low rest noByte =>
      rw [decodeHex, noByte] at isHex
      cases isHex
  | case3 text noPair =>
      rcases text with _ | ⟨high, _ | ⟨low, rest⟩⟩
      · exact Option.some.inj isHex
      · cases isHex
      · exact absurd rfl (noPair high low rest)

/-- For a library that rejects what is out of range, an argument with a type prefix means what it
says exactly if its text is one that its type does not turn into something else.
-/
theorem meansWhatItSays_iff {sdk : StellarSdk} (rejects : RejectsOutOfRange sdk)
    (type : ArgumentType) (text : List Char)
    : meansWhatItSays sdk type text ↔ isFaithful sdk type text := by
  unfold meansWhatItSays parseScVal
  rw [typePrefix_of_name]
  dsimp only
  cases type with
  | address => exact iff_of_true (fun _ isValue => isValue) trivial
  | symbol => exact iff_of_true (fun _ isValue => isValue) trivial
  | string => exact iff_of_true (fun _ isValue => isValue) trivial
  | integer kind =>
      rw [coerce_integer rejects]
      exact isPlainOrNone_iff kind text
  | account | contract =>
      change (∀ value, (sdk.addressOf (String.ofList text)).map ScVal.address = some value → _) ↔ _
      unfold denotes isFaithful
      dsimp only
      cases sdk.addressOf (String.ofList text) with
      | none => exact iff_of_true nofun nofun
      | some address => cases address <;> simp
  | bool =>
      change (∀ value, some (ScVal.bool (text = "true".toList)) = some value → _) ↔ _
      unfold denotes isFaithful
      dsimp only
      by_cases isTrue : text = "true".toList
      · rw [if_pos isTrue, decide_eq_true isTrue]
        exact iff_of_true (fun _ isValue => isValue) (.inl isTrue)
      · rw [if_neg isTrue, decide_eq_false isTrue]
        by_cases isFalse : text = "false".toList
        · rw [if_pos isFalse]
          exact iff_of_true (fun _ isValue => isValue) (.inr isFalse)
        · rw [if_neg isFalse]
          exact iff_of_false (fun always => nomatch always _ rfl) (not_or_intro isTrue isFalse)
  | bytes =>
      change (∀ value, some (ScVal.bytes (bufferFromHex text)) = some value → _) ↔ _
      unfold denotes isFaithful
      dsimp only
      cases isHex : decodeHex text with
      | none => exact iff_of_false (fun always => nomatch always _ rfl) fun some => some rfl
      | some bytes =>
          rw [bufferFromHex_of_decodeHex isHex]
          exact iff_of_true (fun _ isValue => isValue) nofun

/-- A text that denotes a value of a type is turned into this value, also by a library that does not
reject what is out of range.
-/
theorem parseScVal_of_denotes {sdk : StellarSdk} {type : ArgumentType} {text : List Char}
    {value : ScVal} (isDenoted : denotes sdk type text = some value)
    : parseScVal sdk (type.name.toList ++ ':' :: text) = some value := by
  rw [parseScVal, typePrefix_of_name]
  dsimp only
  cases type with
  | address | symbol | string => exact isDenoted
  | integer kind =>
      obtain ⟨integer, isInteger, isValue⟩ := Option.bind_eq_some_iff.mp isDenoted
      obtain ⟨fits, isOwn⟩ := Option.ite_none_right_eq_some.mp isValue
      obtain rfl := Option.some.inj isOwn
      have read : readNumeric (trimBlanks text) = some (.integer integer) := by
        rw [trimBlanks_of_decimalInteger isInteger]
        exact readNumeric_eq_integer_iff.mpr isInteger
      rw [coerce]
      split_ifs with narrow
      · rw [numberFromText, read]
        exact (congrArg (Option.bind · _) (bigIntOf_nearestNumber narrow fits)).trans
          (sdk.typedInteger_of_fits fits)
      · rw [bigIntFromText, read]
        exact sdk.typedInteger_of_fits fits
  | account | contract =>
      rw [denotes] at isDenoted
      rw [coerce]
      cases isAddress : sdk.addressOf (String.ofList text) with
      | none =>
          rw [isAddress] at isDenoted
          cases isDenoted
      | some address =>
          rw [isAddress] at isDenoted
          cases address <;> cases isDenoted
          rfl
  | bool =>
      rw [denotes] at isDenoted
      split_ifs at isDenoted with isTrue isFalse
      · obtain rfl := isTrue
        exact isDenoted
      · obtain rfl := isFalse
        exact isDenoted
  | bytes =>
      obtain ⟨bytes, isHex, rfl⟩ := Option.map_eq_some_iff.mp isDenoted
      rw [coerce, bufferFromHex_of_decodeHex isHex]
      rfl

/-- The library that rejects does so. -/
theorem rejecting_rejectsOutOfRange : RejectsOutOfRange .rejecting := by
  intro kind value beyond
  exact if_neg (Bool.eq_false_iff.mp beyond)

/-- There, the least integer of 128 bits means what it says, and what is hexadecimal does not. -/
theorem meansWhatItSays_least_and_hexadecimal
    : meansWhatItSays .rejecting (.integer .i128)
        "-170141183460469231731687303715884105728".toList
      ∧ ¬ meansWhatItSays .rejecting (.integer .u64) "0x10".toList := by
  rw [meansWhatItSays_iff rejecting_rejectsOutOfRange,
    meansWhatItSays_iff rejecting_rejectsOutOfRange]
  have least
      : readNumeric (trimBlanks "-170141183460469231731687303715884105728".toList)
        = some (.integer (-170141183460469231731687303715884105728)) := rfl
  have hexadecimal : readNumeric (trimBlanks "0x10".toList) = some (.radix 16) := rfl
  simp only [isFaithful, isPlainOrNone, least, hexadecimal]
  decide

/-- An empty text is turned into zero. -/
theorem empty_integer_argument_means_zero
    : ¬ ∀ sdk type text, RejectsOutOfRange sdk → meansWhatItSays sdk type text := by
  intro always
  have means := always .rejecting (.integer .i128) [] rejecting_rejectsOutOfRange
  have isZero
      : parseScVal .rejecting ("i128".toList ++ [':']) = some (IntegerKind.i128.toScVal 0) := rfl
  cases means _ isZero

end Axionvera.Cli
