import Axionvera.Codegen.ArgumentEncoding

/-! Which arguments are encoded as declared and which results are decoded as printed, by the
expressions of `encodeExpr` and `decodeExpr`.
-/

namespace Axionvera.Codegen

open Axionvera.Foundation Axionvera.Soroban

/-- What is built for an argument is of the kind that the type declares. -/
def EncodesAsDeclared (userTypes : UserTypes) (sdk : StellarSdk) (typeDef : ScSpecTypeDef)
    (varName : Text) (value : TsArgument) : Prop :=
  ∃ scVal,
    sdk.encoded value (encodeExpr varName (scSpecTypeToTs typeDef).spec.toList) = some scVal
    ∧ Conforms userTypes typeDef scVal

/-- What is returned for a result is a value of the printed type. -/
def DecodesAsPrinted (userTypes : UserTypes) (host : SdkHost) (typeDef : ScSpecTypeDef)
    (result : ScVal) : Prop :=
  ∃ value,
    decoded host result (decodeExpr resultName (scSpecTypeToTs typeDef).spec.toList) = some value
    ∧ HasType userTypes (readAs typeDef) value

/-- (EncodableArgument userTypes sdk typeDef value) requires of an argument that it is the text of
an address, or a `BigInt` that the library takes for the kind, where a helper converts it. A user
type has no helper, and anything else has to fit what `nativeToScVal` makes of it.
-/
def EncodableArgument (userTypes : UserTypes) (sdk : StellarSdk)
    : ScSpecTypeDef → TsArgument → Prop
  | .simple .address, value => ∃ addr, value = .text addr ∧ (sdk.addressOf addr).isSome
  | .simple .i128, value => ∃ n, value = .bigint n ∧ (sdk.typedInteger .i128 n).isSome
  | .simple .u128, value => ∃ n, value = .bigint n ∧ (sdk.typedInteger .u128 n).isSome
  | .udt _, _ => False
  | typeDef, value => NativeFits userTypes sdk typeDef value

/-- The contract values themselves are values of the type. -/
def hasScVals : TsType → Bool
  | .reference path => path = ["xdr", "ScVal"]
  | .union left right => hasScVals left || hasScVals right
  | .keyword _ | .array _ | .tuple _ | .map _ _ => false

/-- (ReturnsPrintedType typeDef) holds of the types of results that a helper decodes, but for the
one of `i128`, and of those that are printed as contract values.
-/
def ReturnsPrintedType : ScSpecTypeDef → Bool
  | .simple .i128 => false
  | .simple .bool | .simple .string | .simple .symbol | .simple .u128 | .simple .u64
  | .simple .void => true
  | typeDef => hasScVals (readAs typeDef)

-----------------------------------------------------------------------------------------
-- The expressions for types

/-- A helper is called for an argument of the type. -/
def hasEncoder : ScSpecTypeDef → Bool
  | .simple type => type = .address || type = .i128 || type = .u128
  | .udt _ => true
  | .option _ | .result _ _ | .vec _ | .map _ _ | .tuple _ | .bytesN _ => false

/-- A helper is called for a result of the type, or there is nothing to return. -/
def hasDecoder : ScSpecTypeDef → Bool
  | .simple type => type ∈ [.bool, .string, .symbol, .i128, .u128, .u64, .void]
  | .udt _ | .option _ | .result _ _ | .vec _ | .map _ _ | .tuple _ | .bytesN _ => false

/-- An argument of a type without a helper is left to the library. -/
theorem encodeExpr_eq_native {typeDef : ScSpecTypeDef} (noEncoder : hasEncoder typeDef = false)
    (varName : Text)
    : encodeExpr varName (scSpecTypeToTs typeDef).spec.toList = .nativeToScVal varName := by
  cases typeDef with
  | simple type =>
      cases type
      case address | i128 | u128 => cases noEncoder
      all_goals rfl
  | udt name => cases noEncoder
  | option | vec | map | result | bytesN | tuple =>
      simp [encodeExpr, scSpecTypeToTs, List.isPrefixOf]

/-- A result of a type without a helper is returned as it is. -/
theorem decodeExpr_eq_result {typeDef : ScSpecTypeDef} (noDecoder : hasDecoder typeDef = false)
    (resultExpr : Text)
    : decodeExpr resultExpr (scSpecTypeToTs typeDef).spec.toList = .other resultExpr := by
  cases typeDef with
  | simple type =>
      cases type
      case bool | string | symbol | i128 | u128 | u64 | void => cases noDecoder
      all_goals rfl
  | option | vec | map | result | bytesN | tuple | udt => simp [decodeExpr, scSpecTypeToTs]

/-- An argument of a user type is left to a helper that there is not. -/
theorem encodeExpr_udt (varName : Text) (name : String)
    : encodeExpr varName (scSpecTypeToTs (.udt name)).spec.toList
      = .helper "encodeUdt".toList varName := by
  simp [encodeExpr, scSpecTypeToTs, List.isPrefixOf]

variable {userTypes : UserTypes} {sdk : StellarSdk}

-----------------------------------------------------------------------------------------
-- Arguments

/-- An integer is encoded by a helper exactly if the library takes it for the helper's kind. -/
theorem encodeInteger_iff {kind : IntegerKind} {value : TsArgument}
    : (∃ scVal,
          sdk.encodeInteger kind value = some scVal
          ∧ Conforms userTypes (.simple kind.type) scVal)
      ↔ ∃ n, value = .bigint n ∧ (sdk.typedInteger kind n).isSome := by
  constructor
  · rintro ⟨scVal, isEncoded, _⟩
    cases value with
    | bigint n => exact ⟨n, rfl, Option.isSome_iff_exists.mpr ⟨scVal, isEncoded⟩⟩
    | undefined | boolean | number | text | buffer | array | map | record | scVal =>
        cases isEncoded
  · rintro ⟨n, rfl, isTaken⟩
    obtain ⟨scVal, isEncoded⟩ := Option.isSome_iff_exists.mp isTaken
    exact ⟨scVal, isEncoded, .simple (sdk.isOfKind_typedInteger isEncoded)⟩

/-- A text is encoded as an address exactly if it is that of one. -/
theorem encodeAddress_iff {value : TsArgument}
    : (∃ scVal, sdk.encodeAddress value = some scVal ∧ Conforms userTypes (.simple .address) scVal)
      ↔ ∃ addr, value = .text addr ∧ (sdk.addressOf addr).isSome := by
  constructor
  · rintro ⟨scVal, isEncoded, _⟩
    cases value with
    | text addr =>
        obtain ⟨address, isAddress, _⟩ := Option.map_eq_some_iff.mp isEncoded
        exact ⟨addr, rfl, Option.isSome_iff_exists.mpr ⟨address, isAddress⟩⟩
    | undefined | boolean | number | bigint | buffer | array | map | record | scVal =>
        cases isEncoded
  · rintro ⟨addr, rfl, isAddress⟩
    obtain ⟨address, isAddress⟩ := Option.isSome_iff_exists.mp isAddress
    refine ⟨.address address, ?_, .simple rfl⟩
    rw [StellarSdk.encodeAddress, isAddress, Option.map_some]

/-- An argument of a type without a helper is encoded as declared exactly if it fits. -/
theorem encodesAsDeclared_native_iff {typeDef : ScSpecTypeDef}
    (noEncoder : hasEncoder typeDef = false) (varName : Text) (value : TsArgument)
    : EncodesAsDeclared userTypes sdk typeDef varName value
      ↔ NativeFits userTypes sdk typeDef value := by
  rw [EncodesAsDeclared, encodeExpr_eq_native noEncoder]
  constructor
  · rintro ⟨scVal, isConverted, conforms⟩
    exact fits_of_conforms conforms isConverted
  · exact conforms_of_fits

/-- An argument is encoded as declared exactly if it is encodable, by cases on the type. -/
theorem encodesAsDeclared_iff (typeDef : ScSpecTypeDef) (varName : Text) (value : TsArgument)
    : EncodesAsDeclared userTypes sdk typeDef varName value
      ↔ EncodableArgument userTypes sdk typeDef value := by
  cases typeDef with
  | simple type =>
      cases type
      case address => exact encodeAddress_iff
      case i128 => exact encodeInteger_iff
      case u128 => exact encodeInteger_iff
      all_goals exact encodesAsDeclared_native_iff rfl varName value
  | udt name =>
      refine ⟨?_, False.elim⟩
      rintro ⟨scVal, isEncoded, _⟩
      rw [encodeExpr_udt] at isEncoded
      cases isEncoded
  | option | vec | map | result | bytesN | tuple =>
      exact encodesAsDeclared_native_iff rfl varName value

-----------------------------------------------------------------------------------------
-- Results

/-- A contract value has exactly the types that contract values are values of, by induction on the
members of unions.
-/
theorem hasType_scVal_iff (type : TsType) (value : ScVal)
    : HasType userTypes type (.scVal value) ↔ hasScVals type = true := by
  cases type with
  | union left right =>
      rw [hasScVals, Bool.or_eq_true, ← hasType_scVal_iff left value,
        ← hasType_scVal_iff right value]
      constructor
      · intro hasType
        cases hasType with
        | left hasType => exact .inl hasType
        | right hasType => exact .inr hasType
      · rintro (hasType | hasType)
        · exact .left hasType
        · exact .right hasType
  | reference path =>
      constructor
      · intro hasType
        cases hasType
        rfl
      · intro isScVal
        obtain rfl := of_decide_eq_true isScVal
        exact .scVal value
  | keyword | array | tuple | map =>
      refine ⟨fun hasType => ?_, fun isScVal => ?_⟩
      · cases hasType
      · cases isScVal

/-- A result of a type without a helper has the printed type exactly if contract values have. -/
theorem decodesAsPrinted_raw_iff {host : SdkHost} {typeDef : ScSpecTypeDef}
    (noDecoder : hasDecoder typeDef = false) (result : ScVal)
    : DecodesAsPrinted userTypes host typeDef result ↔ hasScVals (readAs typeDef) = true := by
  have isResult : decoded host result (.other resultName) = some (.scVal result) := rfl
  rw [DecodesAsPrinted, decodeExpr_eq_result noDecoder, isResult, ← hasType_scVal_iff]
  constructor
  · rintro ⟨value, isValue, hasType⟩
    obtain rfl := Option.some.inj isValue
    exact hasType
  · exact fun hasType => ⟨_, rfl, hasType⟩

/-- A result is decoded as printed exactly if its type is one that is returned as printed, by cases
on the type.
-/
theorem decodesAsPrinted_iff {host : SdkHost} {typeDef : ScSpecTypeDef} {result : ScVal}
    (conforms : Conforms userTypes typeDef result)
    : DecodesAsPrinted userTypes host typeDef result ↔ ReturnsPrintedType typeDef = true := by
  cases typeDef with
  | simple type =>
      obtain isOf : isOfKind type result = true := by
        cases conforms with
        | simple isOf => exact isOf
      cases type
      case bool =>
        cases result <;> cases isOf
        exact ⟨fun _ => rfl, fun _ => ⟨_, rfl, .boolean _⟩⟩
      case string | symbol =>
        cases result <;> cases isOf
        exact ⟨fun _ => rfl, fun _ => ⟨_, rfl, .text _⟩⟩
      case u128 | u64 =>
        cases result <;> cases isOf
        exact ⟨fun _ => rfl, fun _ => ⟨_, rfl, .bigint _⟩⟩
      case void => exact ⟨fun _ => rfl, fun _ => ⟨_, rfl, .void⟩⟩
      case i128 =>
        -- The helper calls methods that the parts of an integer do not have.
        cases result <;> cases isOf
        refine ⟨?_, fun never => Bool.noConfusion never⟩
        rintro ⟨value, isValue, _⟩
        cases isValue
      all_goals exact decodesAsPrinted_raw_iff rfl result
  | option | vec | map | result | bytesN | tuple | udt => exact decodesAsPrinted_raw_iff rfl result

-----------------------------------------------------------------------------------------
-- Calls

/-- For every type, an argument of the printed type is encoded as declared exactly if it is
encodable, and a result of the declared type is decoded as printed exactly if its type is one that
is returned as printed.
-/
theorem call_types_match_iff (userTypes : UserTypes) (sdk : StellarSdk) (typeDef : ScSpecTypeDef)
    : (∀ varName value,
          HasType userTypes (readAs typeDef) value
          → (EncodesAsDeclared userTypes sdk typeDef varName value
              ↔ EncodableArgument userTypes sdk typeDef value))
      ∧ ∀ result,
          Conforms userTypes typeDef result
          → (DecodesAsPrinted userTypes sdk.toSdkHost typeDef result
              ↔ ReturnsPrintedType typeDef = true) :=
  ⟨fun varName value _ => encodesAsDeclared_iff typeDef varName value,
    fun _ conforms => decodesAsPrinted_iff conforms⟩

/-- The text of an argument that is declared as a symbol is encoded as a string. -/
theorem symbol_is_encoded_as_string
    : ¬ ∀ typeDef,
          (∀ value,
            HasType (fun _ => none) (readAs typeDef) value
            → EncodesAsDeclared (fun _ => none) .wide typeDef "args.id".toList value)
          ∧ ∀ result,
              Conforms (fun _ => none) typeDef result
              → DecodesAsPrinted (fun _ => none) StellarSdk.wide.toSdkHost typeDef result := by
  intro always
  obtain ⟨scVal, isEncoded, conforms⟩ := (always (.simple .symbol)).1 (.text "id") (.text "id")
  obtain rfl := Option.some.inj isEncoded
  cases conforms with
  | simple isOf => cases isOf

end Axionvera.Codegen
