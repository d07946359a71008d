import Axionvera.Codegen.ArgumentValues

/-! Which arguments and results of generated methods are converted as their types say.
`nativeToScVal` is given no type, so a text is no symbol and no address, a `Map` is not converted,
and an integer is of the kind that it fits.
-/

namespace Axionvera.Codegen

open Axionvera.Foundation Axionvera.Soroban

variable {userTypes : UserTypes} {sdk : StellarSdk}

-----------------------------------------------------------------------------------------
-- Arguments that the library converts as their types say

/-- The integer that a number or a `BigInt` is. -/
def integerOf : TsArgument → Option Int
  | .number value => bigIntOf value
  | .bigint n => some n
  | .undefined | .boolean _ | .text _ | .buffer _ | .array _ | .map _ | .record _ | .scVal _ => none

/-- The kind of integers that an integer is converted to. -/
def integerKindOf (sdk : StellarSdk) (value : TsArgument) : Option IntegerKind :=
  (integerOf value).bind sdk.smallestKind

/-- The type of the kind that a value without parts is converted to. -/
def nativeType (sdk : StellarSdk) : TsArgument → Option ScSpecType
  | .undefined => some .void
  | .boolean _ => some .bool
  | .number value => (integerKindOf sdk (.number value)).map (·.type)
  | .bigint n => (integerKindOf sdk (.bigint n)).map (·.type)
  | .text _ => some .string
  | .buffer _ => some .bytes
  | .array _ | .map _ | .record _ | .scVal _ => none

mutual
/-- The value has no `Map` and only numbers that fit a kind of integers. -/
def isConvertible (sdk : StellarSdk) : TsArgument → Bool
  | .number value => (integerKindOf sdk (.number value)).isSome
  | .bigint n => (integerKindOf sdk (.bigint n)).isSome
  | .array items => areConvertible sdk items
  | .record properties => haveConvertible sdk properties
  | .map _ => false
  | .undefined | .boolean _ | .text _ | .buffer _ | .scVal _ => true

/-- The same of the items of an array. -/
def areConvertible (sdk : StellarSdk) : List TsArgument → Bool
  | [] => true
  | item :: items => isConvertible sdk item && areConvertible sdk items

/-- The same of the properties of an object. -/
def haveConvertible (sdk : StellarSdk) : List (String × TsArgument) → Bool
  | [] => true
  | (_, value) :: properties => isConvertible sdk value && haveConvertible sdk properties
end

mutual
/-- (NativeFits userTypes sdk typeDef value) requires of a value what `nativeToScVal` needs to
convert it to the kind of the type: a text is a string, an integer fits no smaller kind, an array
has fitting items and an object texts as keys. No other value is a symbol, an error, an address or
a struct with named fields; a contract value has to be of the kind already.
-/
inductive NativeFits (userTypes : UserTypes) (sdk : StellarSdk)
    : ScSpecTypeDef → TsArgument → Prop where
  | scVal {typeDef : ScSpecTypeDef} {value : ScVal} (conforms : Conforms userTypes typeDef value)
      : NativeFits userTypes sdk typeDef (.scVal value)
  | val {value : TsArgument} (isConvertible : isConvertible sdk value = true)
      : NativeFits userTypes sdk (.simple .val) value
  | simple {type : ScSpecType} {value : TsArgument} (isNative : nativeType sdk value = some type)
      : NativeFits userTypes sdk (.simple type) value
  | absent {valueType : ScSpecTypeDef} : NativeFits userTypes sdk (.option valueType) .undefined
  | present {valueType : ScSpecTypeDef} {value : TsArgument}
      (fits : NativeFits userTypes sdk valueType value)
      : NativeFits userTypes sdk (.option valueType) value
  | ok {okType errorType : ScSpecTypeDef} {value : TsArgument}
      (fits : NativeFits userTypes sdk okType value)
      : NativeFits userTypes sdk (.result okType errorType) value
  | error {okType errorType : ScSpecTypeDef} {value : TsArgument}
      (fits : NativeFits userTypes sdk errorType value)
      : NativeFits userTypes sdk (.result okType errorType) value
  | vec {elementType : ScSpecTypeDef} {items : List TsArgument}
      (fit : ∀ item ∈ items, NativeFits userTypes sdk elementType item)
      : NativeFits userTypes sdk (.vec elementType) (.array items)
  | tuple {valueTypes : List ScSpecTypeDef} {items : List TsArgument}
      (fit : FitAll userTypes sdk valueTypes items)
      : NativeFits userTypes sdk (.tuple valueTypes) (.array items)
  | map {keyType valueType : ScSpecTypeDef} {properties : List (String × TsArgument)}
      (keysFit : ∀ property ∈ properties, NativeFits userTypes sdk keyType (.text property.1))
      (valuesFit : ∀ property ∈ properties, NativeFits userTypes sdk valueType property.2)
      : NativeFits userTypes sdk (.map keyType valueType) (.record properties)
  | bytesN {bytes : List UInt8} : NativeFits userTypes sdk (.bytesN bytes.length) (.buffer bytes)
  | emptyStruct {name : String} (isDeclared : userTypes name = some (.struct []))
      : NativeFits userTypes sdk (.udt name) (.record [])
  | positions {name : String} {fields : List (String × ScSpecTypeDef)} {items : List TsArgument}
      (isDeclared : userTypes name = some (.struct fields)) (notEmpty : fields ≠ [])
      (numbered : ∀ field ∈ fields, isNumeric field.1 = true)
      (fit : FitAll userTypes sdk (fields.map Prod.snd) items)
      : NativeFits userTypes sdk (.udt name) (.array items)
  | enum {name : String} {cases : List (BitVec 32)} {value : TsArgument} {n : Int}
      (isDeclared : userTypes name = some (.enum cases)) (isInteger : integerOf value = some n)
      (isSmall : sdk.smallestKind n = some .u32) (isCase : BitVec.ofInt 32 n ∈ cases)
      : NativeFits userTypes sdk (.udt name) value
  | union {name tag : String} {cases : List (String × List ScSpecTypeDef)}
      {valueTypes : List ScSpecTypeDef} {items : List TsArgument}
      (isDeclared : userTypes name = some (.union cases)) (isCase : (tag, valueTypes) ∈ cases)
      (fit : FitAll userTypes sdk valueTypes items)
      : NativeFits userTypes sdk (.udt name) (.array (.scVal (.symbol (utf8Bytes tag)) :: items))

/-- The values fit the types, one by one. -/
inductive FitAll (userTypes : UserTypes) (sdk : StellarSdk)
    : List ScSpecTypeDef → List TsArgument → Prop where
  | nil : FitAll userTypes sdk [] []
  | cons {typeDef : ScSpecTypeDef} {typeDefs : List ScSpecTypeDef} {item : TsArgument}
      {items : List TsArgument} (first : NativeFits userTypes sdk typeDef item)
      (others : FitAll userTypes sdk typeDefs items)
      : FitAll userTypes sdk (typeDef :: typeDefs) (item :: items)
end

-----------------------------------------------------------------------------------------
-- What values are converted to

/-- How a value is converted: the cases of `nativeToScVal`. -/
inductive ConvertedTo (sdk : StellarSdk) (value : TsArgument) (scVal : ScVal) : Prop where
  | itself (isScVal : value = .scVal scVal)
  | void (isUndefined : value = .undefined) (isVoid : scVal = .void)
  | bool (b : Bool) (isBoolean : value = .boolean b) (isBool : scVal = .bool b)
  | integer (n : Int) (kind : IntegerKind) (isInteger : integerOf value = some n)
      (isSmallest : sdk.smallestKind n = some kind) (isOfKind : scVal = kind.toScVal n)
  | string (text : String) (isText : value = .text text)
      (isString : scVal = .string (utf8Bytes text))
  | bytes (bytes : List UInt8) (isBuffer : value = .buffer bytes) (isBytes : scVal = .bytes bytes)
  | vec (items : List TsArgument) (converted : List ScVal) (isArray : value = .array items)
      (areConverted : sdk.nativeItems items = some converted) (isVec : scVal = .vec converted)
  | map (properties : List (String × TsArgument)) (converted : List (ScVal × ScVal))
      (isRecord : value = .record properties)
      (areConverted : sdk.nativeEntries properties = some converted)
      (isMap : scVal = .map (sdk.sortedEntries converted))

/-- An integer is converted to the smallest kind that it fits. -/
theorem convertedTo_integer {value : TsArgument} {scVal : ScVal} {n : Int}
    (isInteger : integerOf value = some n) (isConverted : sdk.integerToScVal n = some scVal)
    : ConvertedTo sdk value scVal := by
  obtain ⟨kind, isSmallest, isOfKind⟩ := Option.map_eq_some_iff.mp isConverted
  exact .integer n kind isInteger isSmallest isOfKind.symm

/-- A conversion is one of the cases of `nativeToScVal`. -/
theorem convertedTo {value : TsArgument} {scVal : ScVal}
    (isConverted : sdk.nativeToScVal value = some scVal)
    : ConvertedTo sdk value scVal := by
  cases value with
  | undefined => exact .void rfl (Option.some.inj isConverted).symm
  | boolean b => exact .bool b rfl (Option.some.inj isConverted).symm
  | number value =>
      obtain ⟨n, isWhole, isConverted⟩ := Option.bind_eq_some_iff.mp isConverted
      exact convertedTo_integer isWhole isConverted
  | bigint n => exact convertedTo_integer rfl isConverted
  | text text => exact .string text rfl (Option.some.inj isConverted).symm
  | buffer bytes => exact .bytes bytes rfl (Option.some.inj isConverted).symm
  | array items =>
      obtain ⟨converted, areConverted, isVec⟩ := Option.map_eq_some_iff.mp isConverted
      exact .vec items converted rfl areConverted isVec.symm
  | map entries => cases isConverted
  | record properties =>
      obtain ⟨converted, areConverted, isMap⟩ := Option.map_eq_some_iff.mp isConverted
      exact .map properties converted rfl areConverted isMap.symm
  | scVal value => exact .itself (congrArg TsArgument.scVal (Option.some.inj isConverted))

/-- An integer is of its kind, and of no other one. -/
theorem isOfKind_toScVal {type : ScSpecType} (notVal : type ≠ .val) (kind : IntegerKind) (n : Int)
    : isOfKind type (kind.toScVal n) = true ↔ type = kind.type := by
  cases kind
  all_goals
    cases type
    case val => exact absurd rfl notVal
    all_goals simp [IntegerKind.toScVal, IntegerKind.type, isOfKind]

/-- A value that is an integer has the type of its kind. -/
theorem nativeType_integer {value : TsArgument} {n : Int} {kind : IntegerKind}
    (isInteger : integerOf value = some n) (isSmallest : sdk.smallestKind n = some kind)
    : nativeType sdk value = some kind.type := by
  have ofKind : integerKindOf sdk value = some kind := by
    rw [integerKindOf, isInteger, Option.bind_some, isSmallest]
  cases value with
  | number | bigint => exact congrArg (Option.map (·.type)) ofKind
  | undefined | boolean | text | buffer | array | map | record | scVal => cases isInteger

/-- What is converted to the kind of a type without parts has that type. -/
theorem ConvertedTo.nativeType_eq {value : TsArgument} {scVal : ScVal} {type : ScSpecType}
    (isConverted : ConvertedTo sdk value scVal) (notVal : type ≠ .val)
    (isOf : isOfKind type scVal = true)
    : value = .scVal scVal ∨ nativeType sdk value = some type := by
  cases isConverted with
  | itself isScVal => exact .inl isScVal
  | void isUndefined isVoid =>
      subst isUndefined isVoid
      cases type <;> first | exact absurd rfl notVal | exact .inr rfl | cases isOf
  | bool b isBoolean isBool =>
      subst isBoolean isBool
      cases type <;> first | exact absurd rfl notVal | exact .inr rfl | cases isOf
  | integer n kind isInteger isSmallest ofKind =>
      subst ofKind
      rw [(isOfKind_toScVal notVal kind n).mp isOf]
      exact .inr (nativeType_integer isInteger isSmallest)
  | string text isText isString =>
      subst isText isString
      cases type <;> first | exact absurd rfl notVal | exact .inr rfl | cases isOf
  | bytes bytes isBuffer isBytes =>
      subst isBuffer isBytes
      cases type <;> first | exact absurd rfl notVal | exact .inr rfl | cases isOf
  | vec items converted isArray areConverted isVec =>
      subst isVec
      cases type <;> first | exact absurd rfl notVal | cases isOf
  | map properties converted isRecord areConverted isMap =>
      subst isMap
      cases type <;> first | exact absurd rfl notVal | cases isOf

/-- (IsNative sdk value scVal) says which values other than contract values are converted to the
contract value: none to a symbol, an address, an error or an absent list.
-/
def IsNative (sdk : StellarSdk) (value : TsArgument) (scVal : ScVal) : Prop :=
  match scVal with
  | .void => value = .undefined
  | .bool b => value = .boolean b
  | .u32 _ | .i32 _ | .u64 _ | .i64 _ | .u128 .. | .i128 .. | .u256 .. | .i256 .. =>
      ∃ n kind,
        integerOf value = some n ∧ sdk.smallestKind n = some kind ∧ scVal = kind.toScVal n
  | .string bytes => ∃ text, value = .text text ∧ bytes = utf8Bytes text
  | .bytes bytes => value = .buffer bytes
  | .vec converted => ∃ items, value = .array items ∧ sdk.nativeItems items = some converted
  | .map entries =>
      ∃ properties converted,
        value = .record properties
        ∧ sdk.nativeEntries properties = some converted
        ∧ entries.Perm converted
  | .symbol _ | .address _ | .absentVec | .absentMap | .other _ => False

/-- What a value is, from what it is converted to. -/
theorem ConvertedTo.isNative {value : TsArgument} {scVal : ScVal}
    (isConverted : ConvertedTo sdk value scVal)
    : value = .scVal scVal ∨ IsNative sdk value scVal := by
  cases isConverted with
  | itself isScVal => exact .inl isScVal
  | void isUndefined isVoid =>
      subst isVoid
      exact .inr isUndefined
  | bool b isBoolean isBool =>
      subst isBool
      exact .inr isBoolean
  | integer n kind isInteger isSmallest ofKind =>
      refine .inr ?_
      subst ofKind
      cases kind <;> exact ⟨n, _, isInteger, isSmallest, rfl⟩
  | string text isText isString =>
      subst isString
      exact .inr ⟨text, isText, rfl⟩
  | bytes bytes isBuffer isBytes =>
      subst isBytes
      exact .inr isBuffer
  | vec items converted isArray areConverted isVec =>
      subst isVec
      exact .inr ⟨items, isArray, areConverted⟩
  | map properties converted isRecord areConverted isMap =>
      subst isMap
      exact .inr ⟨properties, converted, isRecord, areConverted, sdk.sortedEntries_perm converted⟩

/-- What is converted to a `u32` is an integer of that kind. -/
theorem IsNative.isInteger {value : TsArgument} {word : BitVec 32}
    (isNative : IsNative sdk value (.u32 word))
    : ∃ n,
        integerOf value = some n
        ∧ sdk.smallestKind n = some .u32
        ∧ BitVec.ofInt 32 n = word := by
  obtain ⟨n, kind, isInteger, isSmallest, ofKind⟩ := isNative
  cases kind <;> cases ofKind
  exact ⟨n, isInteger, isSmallest, rfl⟩

/-- The keys of a struct are symbols, by induction on its fields. -/
theorem ConformFields.key_eq {fields : List (String × ScSpecTypeDef)}
    {entries : List (ScVal × ScVal)} (conform : ConformFields userTypes fields entries)
    {entry : ScVal × ScVal} (member : entry ∈ entries)
    : ∃ name, entry.1 = .symbol (utf8Bytes name) := by
  induction fields generalizing entries with
  | nil =>
      cases conform
      cases member
  | cons field fields ih =>
      cases conform with
      | cons first others =>
          rcases List.mem_cons.mp member with rfl | member
          · exact ⟨_, rfl⟩
          · exact ih others member

/-- The items of an array are converted one by one. -/
theorem nativeItems_cons {item : TsArgument} {items : List TsArgument} {converted : List ScVal}
    : sdk.nativeItems (item :: items) = some converted
      ↔ ∃ first others,
          sdk.nativeToScVal item = some first
          ∧ sdk.nativeItems items = some others
          ∧ first :: others = converted := by
  simp [StellarSdk.nativeItems, Option.bind_eq_some_iff]

/-- So are the properties of an object. -/
theorem nativeEntries_cons {name : String} {value : TsArgument}
    {properties : List (String × TsArgument)} {converted : List (ScVal × ScVal)}
    : sdk.nativeEntries ((name, value) :: properties) = some converted
      ↔ ∃ first others,
          sdk.nativeToScVal value = some first
          ∧ sdk.nativeEntries properties = some others
          ∧ (.string (utf8Bytes name), first) :: others = converted := by
  simp [StellarSdk.nativeEntries, Option.bind_eq_some_iff]

/-- Converted items come from items, by induction on them. -/
theorem exists_converted_of_mem {items : List TsArgument} {converted : List ScVal}
    (areConverted : sdk.nativeItems items = some converted)
    : ∀ item ∈ items, ∃ scVal ∈ converted, sdk.nativeToScVal item = some scVal := by
  induction items generalizing converted with
  | nil => exact nofun
  | cons item items ih =>
      obtain ⟨first, others, isFirst, areOthers, rfl⟩ := nativeItems_cons.mp areConverted
      intro found member
      rcases List.mem_cons.mp member with rfl | member
      · exact ⟨first, List.mem_cons_self, isFirst⟩
      · obtain ⟨scVal, isOther, isConverted⟩ := ih areOthers found member
        exact ⟨scVal, List.mem_cons_of_mem _ isOther, isConverted⟩

/-- Converted entries come from properties, by induction on them. -/
theorem exists_entry_of_mem {properties : List (String × TsArgument)}
    {converted : List (ScVal × ScVal)}
    (areConverted : sdk.nativeEntries properties = some converted)
    : ∀ property ∈ properties,
        ∃ entry ∈ converted,
          entry.1 = .string (utf8Bytes property.1)
          ∧ sdk.nativeToScVal property.2 = some entry.2 := by
  induction properties generalizing converted with
  | nil => exact nofun
  | cons property properties ih =>
      obtain ⟨name, value⟩ := property
      obtain ⟨first, others, isFirst, areOthers, rfl⟩ := nativeEntries_cons.mp areConverted
      intro found member
      rcases List.mem_cons.mp member with rfl | member
      · exact ⟨_, List.mem_cons_self, rfl, isFirst⟩
      · obtain ⟨entry, isOther, isConverted⟩ := ih areOthers found member
        exact ⟨entry, List.mem_cons_of_mem _ isOther, isConverted⟩

/-- An integer is converted exactly if it fits a kind. -/
theorem integerToScVal_isSome (n : Int)
    : (sdk.integerToScVal n).isSome = (sdk.smallestKind n).isSome :=
  Option.isSome_map

mutual
/-- What can be converted is converted, by induction on the value. -/
theorem nativeToScVal_isSome (value : TsArgument)
    : (sdk.nativeToScVal value).isSome = isConvertible sdk value := by
  cases value with
  | number value =>
      cases isWhole : bigIntOf value with
      | none => simp [StellarSdk.nativeToScVal, isConvertible, integerKindOf, integerOf, isWhole]
      | some n =>
          simp [StellarSdk.nativeToScVal, isConvertible, integerKindOf, integerOf, isWhole,
            integerToScVal_isSome]
  | bigint n => exact integerToScVal_isSome n
  | array items =>
      rw [StellarSdk.nativeToScVal, isConvertible, Option.isSome_map, nativeItems_isSome items]
  | record properties =>
      rw [StellarSdk.nativeToScVal, isConvertible, Option.isSome_map,
        nativeEntries_isSome properties]
  | undefined | boolean | text | buffer | map | scVal => rfl

/-- The same of the items of an array. -/
theorem nativeItems_isSome (items : List TsArgument)
    : (sdk.nativeItems items).isSome = areConvertible sdk items := by
  match items with
  | [] => rfl
  | item :: items =>
      rw [StellarSdk.nativeItems, areConvertible, ← nativeToScVal_isSome item,
        ← nativeItems_isSome items]
      cases sdk.nativeToScVal item <;> cases sdk.nativeItems items <;> rfl

/-- The same of the properties of an object. -/
theorem nativeEntries_isSome (properties : List (String × TsArgument))
    : (sdk.nativeEntries properties).isSome = haveConvertible sdk properties := by
  match properties with
  | [] => rfl
  | (name, value) :: properties =>
      rw [StellarSdk.nativeEntries, haveConvertible, ← nativeToScVal_isSome value,
        ← nativeEntries_isSome properties]
      cases sdk.nativeToScVal value <;> cases sdk.nativeEntries properties <;> rfl
end

-----------------------------------------------------------------------------------------
-- Conversions to the kind of a type

/-- A value that is converted to the kind of a type without parts fits it. -/
theorem fits_of_simple {type : ScSpecType} {scVal : ScVal} {value : TsArgument}
    (isOf : isOfKind type scVal = true) (isConverted : sdk.nativeToScVal value = some scVal)
    : NativeFits userTypes sdk (.simple type) value := by
  by_cases isVal : type = .val
  · subst isVal
    have isConvertible : _ = isConvertible sdk value := nativeToScVal_isSome value
    rw [isConverted] at isConvertible
    exact .val isConvertible.symm
  · rcases (convertedTo isConverted).nativeType_eq isVal isOf with rfl | isNative
    · exact .scVal (.simple isOf)
    · exact .simple isNative

/-- An object that is converted to a struct with named fields has no properties: an entry has a
string as its key, not the symbol of a field.
-/
theorem fits_of_struct {name : String} {fields : List (String × ScSpecTypeDef)}
    {entries : List (ScVal × ScVal)} {value : TsArgument}
    (isDeclared : userTypes name = some (.struct fields))
    (named : ∀ field ∈ fields, isNumeric field.1 = false)
    (conform : ConformFields userTypes fields entries)
    (isConverted : sdk.nativeToScVal value = some (.map entries))
    : NativeFits userTypes sdk (.udt name) value := by
  have converted := convertedTo isConverted
  rcases converted.isNative with rfl | ⟨properties, found, rfl, areConverted, sorted⟩
  · exact .scVal (.struct isDeclared named conform)
  · cases properties with
    | nil =>
        obtain rfl := Option.some.inj areConverted
        obtain rfl := sorted.eq_nil
        cases conform
        exact .emptyStruct isDeclared
    | cons property properties =>
        obtain ⟨entry, isEntry, isKey, _⟩ :=
          exists_entry_of_mem areConverted property List.mem_cons_self
        obtain ⟨name, isSymbol⟩ := conform.key_eq (sorted.mem_iff.mpr isEntry)
        cases isKey.symm.trans isSymbol

mutual
/-- A value that is converted to the kind of the type fits it, by induction on why the contract
value is of the kind.
-/
theorem fits_of_conforms {typeDef : ScSpecTypeDef} {scVal : ScVal} {value : TsArgument}
    (conforms : Conforms userTypes typeDef scVal)
    (isConverted : sdk.nativeToScVal value = some scVal)
    : NativeFits userTypes sdk typeDef value := by
  have converted := convertedTo isConverted
  match conforms with
  | .simple isOf => exact fits_of_simple isOf isConverted
  | .absent =>
      rcases converted.isNative with rfl | rfl
      · exact .scVal .absent
      · exact .absent
  | .present conforms => exact .present (fits_of_conforms conforms isConverted)
  | .ok conforms => exact .ok (fits_of_conforms conforms isConverted)
  | .error conforms => exact .error (fits_of_conforms conforms isConverted)
  | .vec conform =>
      rcases converted.isNative with rfl | ⟨items, rfl, areConverted⟩
      · exact .scVal (.vec conform)
      · refine .vec fun item member => ?_
        obtain ⟨scVal, isItem, isConverted⟩ := exists_converted_of_mem areConverted item member
        exact fits_of_conforms (conform scVal isItem) isConverted
  | .tuple conform =>
      rcases converted.isNative with rfl | ⟨items, rfl, areConverted⟩
      · exact .scVal (.tuple conform)
      · exact .tuple (fitAll_of_conformAll conform areConverted)
  | .map keysConform valuesConform =>
      rcases converted.isNative with rfl | ⟨properties, entries, rfl, areConverted, sorted⟩
      · exact .scVal (.map keysConform valuesConform)
      · refine .map (fun property member => ?_) fun property member => ?_
        · obtain ⟨entry, isEntry, isKey, _⟩ := exists_entry_of_mem areConverted property member
          have isText : sdk.nativeToScVal (.text property.1) = some entry.1 :=
            congrArg some isKey.symm
          exact fits_of_conforms (keysConform entry (sorted.mem_iff.mpr isEntry)) isText
        · obtain ⟨entry, isEntry, _, isValue⟩ := exists_entry_of_mem areConverted property member
          exact fits_of_conforms (valuesConform entry (sorted.mem_iff.mpr isEntry)) isValue
  | .bytesN =>
      rcases converted.isNative with rfl | rfl
      · exact .scVal .bytesN
      · exact .bytesN
  | .struct isDeclared named conform => exact fits_of_struct isDeclared named conform isConverted
  | .positions isDeclared notEmpty numbered conform =>
      rcases converted.isNative with rfl | ⟨items, rfl, areConverted⟩
      · exact .scVal (.positions isDeclared notEmpty numbered conform)
      · exact .positions isDeclared notEmpty numbered (fitAll_of_conformAll conform areConverted)
  | .enum isDeclared isCase =>
      rcases converted.isNative with rfl | isNative
      · exact .scVal (.enum isDeclared isCase)
      · obtain ⟨n, isInteger, isSmallest, rfl⟩ := isNative.isInteger
        exact .enum isDeclared isInteger isSmallest isCase
  | .union isDeclared isCase conform =>
      rcases converted.isNative with rfl | ⟨items, rfl, areConverted⟩
      · exact .scVal (.union isDeclared isCase conform)
      · cases items with
        | nil => cases areConverted
        | cons item items =>
            obtain ⟨first, others, isFirst, areOthers, isCons⟩ := nativeItems_cons.mp areConverted
            obtain ⟨isTag, isOthers⟩ := List.cons.inj isCons
            rw [isTag] at isFirst
            rw [isOthers] at areOthers
            obtain rfl := (convertedTo isFirst).isNative.resolve_right id
            exact .union isDeclared isCase (fitAll_of_conformAll conform areOthers)
  | .errorEnum isDeclared =>
      obtain rfl := converted.isNative.resolve_right id
      exact .scVal (.errorEnum isDeclared)

/-- The same of several values. -/
theorem fitAll_of_conformAll {typeDefs : List ScSpecTypeDef} {converted : List ScVal}
    {items : List TsArgument} (conform : ConformAll userTypes typeDefs converted)
    (areConverted : sdk.nativeItems items = some converted)
    : FitAll userTypes sdk typeDefs items := by
  match conform with
  | .nil =>
      cases items with
      | nil => exact .nil
      | cons item items =>
          obtain ⟨_, _, _, _, isCons⟩ := nativeItems_cons.mp areConverted
          cases isCons
  | .cons first others =>
      cases items with
      | nil => cases areConverted
      | cons item items =>
          obtain ⟨_, _, isFirst, areOthers, isCons⟩ := nativeItems_cons.mp areConverted
          obtain ⟨sameFirst, sameOthers⟩ := List.cons.inj isCons
          rw [sameFirst] at isFirst
          rw [sameOthers] at areOthers
          exact .cons (fits_of_conforms first isFirst) (fitAll_of_conformAll others areOthers)
end

/-- An integer is converted to the smallest kind that it fits. -/
theorem nativeToScVal_integer {value : TsArgument} {n : Int} {kind : IntegerKind}
    (isInteger : integerOf value = some n) (isSmallest : sdk.smallestKind n = some kind)
    : sdk.nativeToScVal value = some (kind.toScVal n) := by
  have isConverted : sdk.integerToScVal n = some (kind.toScVal n) := by
    rw [StellarSdk.integerToScVal, isSmallest, Option.map_some]
  cases value with
  | number value =>
      have isWhole : bigIntOf value = some n := isInteger
      rw [StellarSdk.nativeToScVal, isWhole, Option.bind_some, isConverted]
  | bigint value =>
      obtain rfl := Option.some.inj isInteger
      exact isConverted
  | undefined | boolean | text | buffer | array | map | record | scVal => cases isInteger

/-- A value without parts is converted to the kind of its type. -/
theorem conforms_of_nativeType {type : ScSpecType} {value : TsArgument}
    (isNative : nativeType sdk value = some type)
    : ∃ scVal,
        sdk.nativeToScVal value = some scVal ∧ Conforms userTypes (.simple type) scVal := by
  have ofInteger (ofKind : (integerKindOf sdk value).map (·.type) = some type)
      : ∃ scVal,
          sdk.nativeToScVal value = some scVal ∧ Conforms userTypes (.simple type) scVal := by
    obtain ⟨kind, isKind, rfl⟩ := Option.map_eq_some_iff.mp ofKind
    obtain ⟨n, isInteger, isSmallest⟩ := Option.bind_eq_some_iff.mp isKind
    have notVal : kind.type ≠ .val := by cases kind <;> exact nofun
    exact ⟨_, nativeToScVal_integer isInteger isSmallest,
      .simple ((isOfKind_toScVal notVal kind n).mpr rfl)⟩
  cases value with
  | number | bigint => exact ofInteger isNative
  | undefined | boolean | text | buffer =>
      obtain rfl := Option.some.inj isNative
      exact ⟨_, rfl, .simple rfl⟩
  | array | map | record | scVal => cases isNative

/-- An array is converted to the vector of its converted items. -/
theorem nativeToScVal_array {items : List TsArgument} {converted : List ScVal}
    (areConverted : sdk.nativeItems items = some converted)
    : sdk.nativeToScVal (.array items) = some (.vec converted) := by
  rw [StellarSdk.nativeToScVal, areConverted, Option.map_some]

/-- An object is converted to the map of its sorted entries. -/
theorem nativeToScVal_record {properties : List (String × TsArgument)}
    {converted : List (ScVal × ScVal)}
    (areConverted : sdk.nativeEntries properties = some converted)
    : sdk.nativeToScVal (.record properties) = some (.map (sdk.sortedEntries converted)) := by
  rw [StellarSdk.nativeToScVal, areConverted, Option.map_some]

/-- Items that are all converted to something are converted to a list of it, by induction on them.
-/
theorem nativeItems_of_forall {items : List TsArgument} {good : ScVal → Prop}
    (each : ∀ item ∈ items, ∃ scVal, sdk.nativeToScVal item = some scVal ∧ good scVal)
    : ∃ converted, sdk.nativeItems items = some converted ∧ ∀ scVal ∈ converted, good scVal := by
  induction items with
  | nil => exact ⟨[], rfl, nofun⟩
  | cons item items ih =>
      obtain ⟨⟨first, isFirst, firstGood⟩, others⟩ := List.forall_mem_cons.mp each
      obtain ⟨converted, areConverted, allGood⟩ := ih others
      exact ⟨first :: converted,
        nativeItems_cons.mpr ⟨first, converted, isFirst, areConverted, rfl⟩,
        List.forall_mem_cons.mpr ⟨firstGood, allGood⟩⟩

/-- The same of the entries of an object. -/
theorem nativeEntries_of_forall {properties : List (String × TsArgument)} {good : ScVal → Prop}
    {goodKey : ScVal → Prop}
    (keys : ∀ property ∈ properties, goodKey (.string (utf8Bytes property.1)))
    (values
      : ∀ property ∈ properties, ∃ scVal, sdk.nativeToScVal property.2 = some scVal ∧ good scVal)
    : ∃ converted,
        sdk.nativeEntries properties = some converted
        ∧ (∀ entry ∈ converted, goodKey entry.1)
        ∧ ∀ entry ∈ converted, good entry.2 := by
  induction properties with
  | nil => exact ⟨[], rfl, nofun, nofun⟩
  | cons property properties ih =>
      obtain ⟨name, value⟩ := property
      obtain ⟨firstKey, otherKeys⟩ := List.forall_mem_cons.mp keys
      obtain ⟨⟨first, isFirst, firstGood⟩, others⟩ := List.forall_mem_cons.mp values
      obtain ⟨converted, areConverted, keysGood, allGood⟩ := ih otherKeys others
      exact ⟨_, nativeEntries_cons.mpr ⟨first, converted, isFirst, areConverted, rfl⟩,
        List.forall_mem_cons.mpr ⟨firstKey, keysGood⟩,
        List.forall_mem_cons.mpr ⟨firstGood, allGood⟩⟩

mutual
/-- A value that fits the type is converted to its kind, by induction on why it fits. -/
theorem conforms_of_fits {typeDef : ScSpecTypeDef} {value : TsArgument}
    (fits : NativeFits userTypes sdk typeDef value)
    : ∃ scVal, sdk.nativeToScVal value = some scVal ∧ Conforms userTypes typeDef scVal := by
  match fits with
  | .scVal conforms => exact ⟨_, rfl, conforms⟩
  | .val isConvertible =>
      rw [← nativeToScVal_isSome] at isConvertible
      obtain ⟨scVal, isConverted⟩ := Option.isSome_iff_exists.mp isConvertible
      exact ⟨scVal, isConverted, .simple rfl⟩
  | .simple isNative => exact conforms_of_nativeType isNative
  | .absent => exact ⟨.void, rfl, .absent⟩
  | .present fits =>
      obtain ⟨scVal, isConverted, conforms⟩ := conforms_of_fits fits
      exact ⟨scVal, isConverted, .present conforms⟩
  | .ok fits =>
      obtain ⟨scVal, isConverted, conforms⟩ := conforms_of_fits fits
      exact ⟨scVal, isConverted, .ok conforms⟩
  | .error fits =>
      obtain ⟨scVal, isConverted, conforms⟩ := conforms_of_fits fits
      exact ⟨scVal, isConverted, .error conforms⟩
  | .vec fit =>
      obtain ⟨converted, areConverted, conform⟩ :=
        nativeItems_of_forall fun item member => conforms_of_fits (fit item member)
      exact ⟨.vec converted, nativeToScVal_array areConverted, .vec conform⟩
  | .tuple fit =>
      obtain ⟨converted, areConverted, conform⟩ := conformAll_of_fitAll fit
      exact ⟨.vec converted, nativeToScVal_array areConverted, .tuple conform⟩
  | @NativeFits.map _ _ keyType _ properties keysFit valuesFit =>
      have keys
          : ∀ property ∈ properties,
              Conforms userTypes keyType (.string (utf8Bytes property.1)) := by
        intro property member
        obtain ⟨scVal, isConverted, conforms⟩ := conforms_of_fits (keysFit property member)
        obtain rfl := Option.some.inj isConverted
        exact conforms
      obtain ⟨converted, areConverted, keysConform, valuesConform⟩ :=
        nativeEntries_of_forall keys fun property member =>
          conforms_of_fits (valuesFit property member)
      have sorted := sdk.sortedEntries_perm converted
      refine ⟨_, nativeToScVal_record areConverted, .map ?_ ?_⟩
      · exact fun entry member => keysConform entry (sorted.mem_iff.mp member)
      · exact fun entry member => valuesConform entry (sorted.mem_iff.mp member)
  | .bytesN => exact ⟨_, rfl, .bytesN⟩
  | .emptyStruct isDeclared =>
      have isMap := nativeToScVal_record (show sdk.nativeEntries [] = some [] from rfl)
      rw [(sdk.sortedEntries_perm []).eq_nil] at isMap
      exact ⟨.map [], isMap, .struct isDeclared nofun .nil⟩
  | .positions isDeclared notEmpty numbered fit =>
      obtain ⟨converted, areConverted, conform⟩ := conformAll_of_fitAll fit
      exact ⟨.vec converted, nativeToScVal_array areConverted,
        .positions isDeclared notEmpty numbered conform⟩
  | .enum isDeclared isInteger isSmallest isCase =>
      exact ⟨_, nativeToScVal_integer isInteger isSmallest, .enum isDeclared isCase⟩
  | @NativeFits.union _ _ _ tag _ _ _ isDeclared isCase fit =>
      obtain ⟨converted, areConverted, conform⟩ := conformAll_of_fitAll fit
      have withTag
          : sdk.nativeItems (.scVal (.symbol (utf8Bytes tag)) :: _)
            = some (.symbol (utf8Bytes tag) :: converted) :=
        nativeItems_cons.mpr ⟨_, _, rfl, areConverted, rfl⟩
      exact ⟨_, nativeToScVal_array withTag, .union isDeclared isCase conform⟩

/-- The same of several values. -/
theorem conformAll_of_fitAll {typeDefs : List ScSpecTypeDef} {items : List TsArgument}
    (fit : FitAll userTypes sdk typeDefs items)
    : ∃ converted,
        sdk.nativeItems items = some converted ∧ ConformAll userTypes typeDefs converted := by
  match fit with
  | .nil => exact ⟨[], rfl, .nil⟩
  | .cons first others =>
      obtain ⟨scVal, isConverted, conforms⟩ := conforms_of_fits first
      obtain ⟨converted, areConverted, conform⟩ := conformAll_of_fitAll others
      exact ⟨scVal :: converted, nativeItems_cons.mpr ⟨_, _, isConverted, areConverted, rfl⟩,
        .cons conforms conform⟩
end

end Axionvera.Codegen
