import Axionvera.Codegen.Generator
import Axionvera.Codegen.TypePrinting
import Axionvera.Foundation.JsNumber
import Axionvera.Soroban.SimulationParser

/-! What the arguments and results of generated methods are: the values of printed types, the
contract values of types of the specification, and how the expressions of `encodeExpr` and
`decodeExpr` are evaluated with the helpers of `contracts/BaseContract.ts`.
-/

namespace Axionvera.Codegen

open Axionvera.Foundation Axionvera.Soroban

/-- A user type of the specification. Unions and error enumerations are not printed. -/
inductive UserType where
  | struct (fields : List (String × ScSpecTypeDef))
  | enum (cases : List (BitVec 32))
  | union (cases : List (String × List ScSpecTypeDef))
  | errorEnum

/-- The user types, by name. -/
abbrev UserTypes := String → Option UserType

/-- A value of TypeScript. -/
inductive TsArgument where
  | undefined
  | boolean (value : Bool)
  | number (value : JsNumber)
  | bigint (value : Int)
  | text (value : String)
  | buffer (bytes : List UInt8)
  | array (items : List TsArgument)
  | map (entries : List (TsArgument × TsArgument))
  | record (properties : List (String × TsArgument))
  | scVal (value : ScVal)

mutual
/-- The value has the type. An interface or enumeration of the name hides `Buffer`. -/
inductive HasType (userTypes : UserTypes) : TsType → TsArgument → Prop where
  | undefined : HasType userTypes (.keyword "undefined") .undefined
  | void : HasType userTypes (.keyword "void") .undefined
  | boolean (value : Bool) : HasType userTypes (.keyword "boolean") (.boolean value)
  | number (value : JsNumber) : HasType userTypes (.keyword "number") (.number value)
  | bigint (value : Int) : HasType userTypes (.keyword "bigint") (.bigint value)
  | text (value : String) : HasType userTypes (.keyword "string") (.text value)
  | scVal (value : ScVal) : HasType userTypes (.reference ["xdr", "ScVal"]) (.scVal value)
  | buffer (bytes : List UInt8) (isGlobal : userTypes "Buffer" = none)
      : HasType userTypes (.reference ["Buffer"]) (.buffer bytes)
  | struct {name : String} {fields : List (String × ScSpecTypeDef)}
      {properties : List (String × TsArgument)}
      (isDeclared : userTypes name = some (.struct fields))
      (haveTypes : HasFields userTypes fields properties)
      : HasType userTypes (.reference [name]) (.record properties)
  | enum {name : String} {cases : List (BitVec 32)} {word : BitVec 32}
      (isDeclared : userTypes name = some (.enum cases)) (isCase : word ∈ cases)
      : HasType userTypes (.reference [name]) (.number (.finite word.toNat))
  | array {element : TsType} {items : List TsArgument}
      (haveType : ∀ item ∈ items, HasType userTypes element item)
      : HasType userTypes (.array element) (.array items)
  | tuple {types : List TsType} {items : List TsArgument}
      (haveTypes : HaveTypes userTypes types items)
      : HasType userTypes (.tuple types) (.array items)
  | map {key value : TsType} {entries : List (TsArgument × TsArgument)}
      (keysHaveType : ∀ entry ∈ entries, HasType userTypes key entry.1)
      (valuesHaveType : ∀ entry ∈ entries, HasType userTypes value entry.2)
      : HasType userTypes (.map key value) (.map entries)
  | left {left right : TsType} {value : TsArgument} (hasType : HasType userTypes left value)
      : HasType userTypes (.union left right) value
  | right {left right : TsType} {value : TsArgument} (hasType : HasType userTypes right value)
      : HasType userTypes (.union left right) value

/-- The values have the types, one by one. -/
inductive HaveTypes (userTypes : UserTypes) : List TsType → List TsArgument → Prop where
  | nil : HaveTypes userTypes [] []
  | cons {type : TsType} {types : List TsType} {item : TsArgument} {items : List TsArgument}
      (first : HasType userTypes type item) (others : HaveTypes userTypes types items)
      : HaveTypes userTypes (type :: types) (item :: items)

/-- The properties contain one of the printed type for every field. -/
inductive HasFields (userTypes : UserTypes)
    : List (String × ScSpecTypeDef) → List (String × TsArgument) → Prop where
  | nil {properties : List (String × TsArgument)} : HasFields userTypes [] properties
  | cons {name : String} {typeDef : ScSpecTypeDef} {fields : List (String × ScSpecTypeDef)}
      {properties : List (String × TsArgument)} {value : TsArgument}
      (isProperty : (name, value) ∈ properties)
      (first : HasType userTypes (readAs typeDef) value)
      (others : HasFields userTypes fields properties)
      : HasFields userTypes ((name, typeDef) :: fields) properties
end

-----------------------------------------------------------------------------------------
-- Contract values
-----------------------------------------------------------------------------------------

/-- The bytes of a text in UTF-8. -/
def utf8Bytes (text : String) : List UInt8 :=
  text.toUTF8.data.toList

/-- The kind of contract values that a type without parts declares. -/
def isOfKind : ScSpecType → ScVal → Bool
  | .val, _ => true
  | .bool, .bool _ => true
  | .void, .void => true
  | .error, .other .error => true
  | .u32, .u32 _ => true
  | .i32, .i32 _ => true
  | .u64, .u64 _ => true
  | .i64, .i64 _ => true
  | .timepoint, .other .timepoint => true
  | .duration, .other .duration => true
  | .u128, .u128 _ _ => true
  | .i128, .i128 _ _ => true
  | .u256, .u256 _ _ _ _ => true
  | .i256, .i256 _ _ _ _ => true
  | .bytes, .bytes _ => true
  | .string, .string _ => true
  | .symbol, .symbol _ => true
  | .address, .address _ => true
  | .muxedAddress, .address _ => true
  | _, _ => false

/-- The name of a field that stands for a place. -/
def isNumeric (name : String) : Bool :=
  name.toList ≠ [] && name.toList.all Char.isDigit

mutual
/-- The contract value is of the kind that the type declares, and so are its parts. A struct with
numbers for names is a vector.
-/
inductive Conforms (userTypes : UserTypes) : ScSpecTypeDef → ScVal → Prop where
  | simple {type : ScSpecType} {value : ScVal} (isOf : isOfKind type value = true)
      : Conforms userTypes (.simple type) value
  | absent {valueType : ScSpecTypeDef} : Conforms userTypes (.option valueType) .void
  | present {valueType : ScSpecTypeDef} {value : ScVal}
      (conforms : Conforms userTypes valueType value)
      : Conforms userTypes (.option valueType) value
  | ok {okType errorType : ScSpecTypeDef} {value : ScVal}
      (conforms : Conforms userTypes okType value)
      : Conforms userTypes (.result okType errorType) value
  | error {okType errorType : ScSpecTypeDef} {value : ScVal}
      (conforms : Conforms userTypes errorType value)
      : Conforms userTypes (.result okType errorType) value
  | vec {elementType : ScSpecTypeDef} {items : List ScVal}
      (conform : ∀ item ∈ items, Conforms userTypes elementType item)
      : Conforms userTypes (.vec elementType) (.vec items)
  | map {keyType valueType : ScSpecTypeDef} {entries : List (ScVal × ScVal)}
      (keysConform : ∀ entry ∈ entries, Conforms userTypes keyType entry.1)
      (valuesConform : ∀ entry ∈ entries, Conforms userTypes valueType entry.2)
      : Conforms userTypes (.map keyType valueType) (.map entries)
  | tuple {valueTypes : List ScSpecTypeDef} {items : List ScVal}
      (conform : ConformAll userTypes valueTypes items)
      : Conforms userTypes (.tuple valueTypes) (.vec items)
  | bytesN {bytes : List UInt8} : Conforms userTypes (.bytesN bytes.length) (.bytes bytes)
  | struct {name : String} {fields : List (String × ScSpecTypeDef)}
      {entries : List (ScVal × ScVal)} (isDeclared : userTypes name = some (.struct fields))
      (named : ∀ field ∈ fields, isNumeric field.1 = false)
      (conform : ConformFields userTypes fields entries)
      : Conforms userTypes (.udt name) (.map entries)
  | positions {name : String} {fields : List (String × ScSpecTypeDef)} {items : List ScVal}
      (isDeclared : userTypes name = some (.struct fields)) (notEmpty : fields ≠ [])
      (numbered : ∀ field ∈ fields, isNumeric field.1 = true)
      (conform : ConformAll userTypes (fields.map Prod.snd) items)
      : Conforms userTypes (.udt name) (.vec items)
  | enum {name : String} {cases : List (BitVec 32)} {word : BitVec 32}
      (isDeclared : userTypes name = some (.enum cases)) (isCase : word ∈ cases)
      : Conforms userTypes (.udt name) (.u32 word)
  | union {name tag : String} {cases : List (String × List ScSpecTypeDef)}
      {valueTypes : List ScSpecTypeDef} {items : List ScVal}
      (isDeclared : userTypes name = some (.union cases)) (isCase : (tag, valueTypes) ∈ cases)
      (conform : ConformAll userTypes valueTypes items)
      : Conforms userTypes (.udt name) (.vec (.symbol (utf8Bytes tag) :: items))
  | errorEnum {name : String} (isDeclared : userTypes name = some .errorEnum)
      : Conforms userTypes (.udt name) (.other .error)

/-- The contract values are of the kinds of the types, one by one. -/
inductive ConformAll (userTypes : UserTypes) : List ScSpecTypeDef → List ScVal → Prop where
  | nil : ConformAll userTypes [] []
  | cons {typeDef : ScSpecTypeDef} {typeDefs : List ScSpecTypeDef} {item : ScVal}
      {items : List ScVal} (first : Conforms userTypes typeDef item)
      (others : ConformAll userTypes typeDefs items)
      : ConformAll userTypes (typeDef :: typeDefs) (item :: items)

/-- The entries are those of a struct: the names as symbols, with values of the types. -/
inductive ConformFields (userTypes : UserTypes)
    : List (String × ScSpecTypeDef) → List (ScVal × ScVal) → Prop where
  | nil : ConformFields userTypes [] []
  | cons {name : String} {typeDef : ScSpecTypeDef} {fields : List (String × ScSpecTypeDef)}
      {value : ScVal} {entries : List (ScVal × ScVal)} (first : Conforms userTypes typeDef value)
      (others : ConformFields userTypes fields entries)
      : ConformFields userTypes ((name, typeDef) :: fields)
          ((.symbol (utf8Bytes name), value) :: entries)
end

-----------------------------------------------------------------------------------------
-- Integers
-----------------------------------------------------------------------------------------

/-- The kinds of integers. -/
inductive IntegerKind where
  | u32
  | i32
  | u64
  | i64
  | u128
  | i128
  | u256
  | i256
  deriving DecidableEq, Repr

/-- The type of a kind. -/
def IntegerKind.type : IntegerKind → ScSpecType
  | .u32 => .u32
  | .i32 => .i32
  | .u64 => .u64
  | .i64 => .i64
  | .u128 => .u128
  | .i128 => .i128
  | .u256 => .u256
  | .i256 => .i256

/-- The integer is in the range of the kind. -/
def IntegerKind.fits (kind : IntegerKind) (n : Int) : Bool :=
  match kind with
  | .u32 => 0 ≤ n && n < 2 ^ 32
  | .i32 => -(2 ^ 31) ≤ n && n < 2 ^ 31
  | .u64 => 0 ≤ n && n < 2 ^ 64
  | .i64 => -(2 ^ 63) ≤ n && n < 2 ^ 63
  | .u128 => 0 ≤ n && n < 2 ^ 128
  | .i128 => -(2 ^ 127) ≤ n && n < 2 ^ 127
  | .u256 => 0 ≤ n && n < 2 ^ 256
  | .i256 => -(2 ^ 255) ≤ n && n < 2 ^ 255

/-- The word of an integer at a place. -/
def wordAt (n : Int) (place : Nat) : BitVec 64 :=
  BitVec.ofInt 64 (n / 2 ^ (64 * place))

/-- The contract value of an integer in the range of the kind. -/
def IntegerKind.toScVal (kind : IntegerKind) (n : Int) : ScVal :=
  match kind with
  | .u32 => .u32 (BitVec.ofInt 32 n)
  | .i32 => .i32 (BitVec.ofInt 32 n)
  | .u64 => .u64 (wordAt n 0)
  | .i64 => .i64 (wordAt n 0)
  | .u128 => .u128 (wordAt n 1) (wordAt n 0)
  | .i128 => .i128 (wordAt n 1) (wordAt n 0)
  | .u256 => .u256 (wordAt n 3) (wordAt n 2) (wordAt n 1) (wordAt n 0)
  | .i256 => .i256 (wordAt n 3) (wordAt n 2) (wordAt n 1) (wordAt n 0)

/-- `BigInt(value)`, which throws for what is no whole number. -/
def bigIntOf : JsNumber → Option Int
  | .finite value => if value.isInt then some value.num else none
  | .nan | .infinity _ => none

-----------------------------------------------------------------------------------------
-- The library
-----------------------------------------------------------------------------------------

/-- What is used of `stellar-sdk`: the addresses that texts stand for, the kinds of integers that
`nativeToScVal` picks from, narrowest first, what it makes of an integer for which it is given the
kind (`none` when it throws, or when that cannot be written), and how it sorts the entries of an
object. Of an integer in the range
of its kind it makes this integer, and of any other one something of the kind, if anything.
-/
structure StellarSdk extends SdkHost where
  addressOf : String → Option ScAddress
  integerKinds : List IntegerKind
  typedInteger : IntegerKind → Int → Option ScVal
  sortedEntries : List (ScVal × ScVal) → List (ScVal × ScVal)
  typedInteger_of_fits
    : ∀ {kind n}, kind.fits n = true → typedInteger kind n = some (kind.toScVal n)
  isOfKind_typedInteger
    : ∀ {kind n value}, typedInteger kind n = some value → isOfKind kind.type value = true
  sortedEntries_perm : ∀ entries, (sortedEntries entries).Perm entries

/-- An integer is of the type of its kind. -/
theorem isOfKind_type_toScVal (kind : IntegerKind) (n : Int)
    : isOfKind kind.type (kind.toScVal n) = true := by
  cases kind <;> rfl

/-- The kind has no negative integers. -/
def IntegerKind.isUnsigned (kind : IntegerKind) : Bool :=
  kind = .u32 || kind = .u64 || kind = .u128 || kind = .u256

/-- An integer with a kind, whose excess bits are dropped, unless it is negative for a kind without
sign or beyond 32 bits.
-/
def wrappedInteger (kind : IntegerKind) (n : Int) : Option ScVal :=
  if kind.fits n then some (kind.toScVal n)
  else if kind = .u32 ∨ kind = .i32 ∨ kind.isUnsigned && n < 0 then none
  else some (kind.toScVal n)

/-- A library without addresses that picks from kinds of 64 bits on, drops excess bits of integers
with a kind, and leaves entries in order.
-/
def StellarSdk.wide : StellarSdk where
  toSdkHost := .ascii
  addressOf _ := none
  integerKinds := [.u64, .i64, .u128, .i128, .u256, .i256]
  typedInteger := wrappedInteger
  sortedEntries entries := entries
  typedInteger_of_fits fits := if_pos fits
  isOfKind_typedInteger {kind n value} isValue := by
    unfold wrappedInteger at isValue
    split_ifs at isValue <;> cases isValue <;> exact isOfKind_type_toScVal kind n
  sortedEntries_perm _ := .rfl

/-- A library that differs in rejecting integers beyond the range of their kind. -/
def StellarSdk.rejecting : StellarSdk :=
  { StellarSdk.wide with
    typedInteger := fun kind n => if kind.fits n then some (kind.toScVal n) else none
    typedInteger_of_fits := fun fits => if_pos fits
    isOfKind_typedInteger := fun {kind n value} isValue => by
      split_ifs at isValue
      obtain rfl := Option.some.inj isValue
      exact isOfKind_type_toScVal kind n }

/-- The smallest kind that fits. -/
def StellarSdk.smallestKind (sdk : StellarSdk) (n : Int) : Option IntegerKind :=
  sdk.integerKinds.find? (·.fits n)

/-- An integer without a type, `none` if it fits no kind. -/
def StellarSdk.integerToScVal (sdk : StellarSdk) (n : Int) : Option ScVal :=
  (sdk.smallestKind n).map (·.toScVal n)

mutual
/-- `nativeToScVal` without a type. It is `none` when it throws, as it does for a `Map`. -/
def StellarSdk.nativeToScVal (sdk : StellarSdk) : TsArgument → Option ScVal
  | .undefined => some .void
  | .boolean value => some (.bool value)
  | .number value => (bigIntOf value).bind sdk.integerToScVal
  | .bigint value => sdk.integerToScVal value
  | .text value => some (.string (utf8Bytes value))
  | .buffer bytes => some (.bytes bytes)
  | .array items => (sdk.nativeItems items).map .vec
  | .map _ => none
  | .record properties =>
      (sdk.nativeEntries properties).map fun entries => .map (sdk.sortedEntries entries)
  | .scVal value => some value

/-- The same of the items of an array. -/
def StellarSdk.nativeItems (sdk : StellarSdk) : List TsArgument → Option (List ScVal)
  | [] => some []
  | item :: items => do
      let first ← sdk.nativeToScVal item
      let others ← sdk.nativeItems items
      return first :: others

/-- The same of the properties of an object, with their names. -/
def StellarSdk.nativeEntries (sdk : StellarSdk)
    : List (String × TsArgument) → Option (List (ScVal × ScVal))
  | [] => some []
  | (name, value) :: properties => do
      let first ← sdk.nativeToScVal value
      let others ← sdk.nativeEntries properties
      return (.string (utf8Bytes name), first) :: others
end

-----------------------------------------------------------------------------------------
-- The expressions of generated methods
-----------------------------------------------------------------------------------------

/-- `encodeAddress` of `BaseContract`, for a value of its parameter's type. -/
def StellarSdk.encodeAddress (sdk : StellarSdk) : TsArgument → Option ScVal
  | .text addr => (sdk.addressOf addr).map .address
  | _ => none

/-- `encodeI128` and `encodeU128`, which give the kind to `nativeToScVal`, for a value of their
parameter's type.
-/
def StellarSdk.encodeInteger (sdk : StellarSdk) (kind : IntegerKind) : TsArgument → Option ScVal
  | .bigint n => sdk.typedInteger kind n
  | _ => none

/-- What an expression of `encodeExpr` is for the value of its argument: `none` when it throws. The
other helpers that it names are no methods of `BaseContract`.
-/
def StellarSdk.encoded (sdk : StellarSdk) (value : TsArgument) : Expression → Option ScVal
  | .helper name _ =>
      if name = "encodeAddress".toList then sdk.encodeAddress value
      else if name = "encodeI128".toList then sdk.encodeInteger .i128 value
      else if name = "encodeU128".toList then sdk.encodeInteger .u128 value
      else none
  | .nativeToScVal _ => sdk.nativeToScVal value
  | .other _ => none

/-- The name of the result in a generated method. -/
def resultName : Text :=
  "_result".toList

/-- What an expression of `decodeExpr` is for a result: `none` when it throws. -/
def decoded (host : SdkHost) (result : ScVal) : Expression → Option TsArgument
  | .helper name _ =>
      if name = "decodeBool".toList then (BaseContract.decodeBool result).toOption.map .boolean
      else if name = "decodeString".toList then
        (BaseContract.decodeString host result).toOption.map .text
      else if name = "decodeI128".toList then
        (BaseContract.decodeI128 result).toOption.map .bigint
      else if name = "decodeU128".toList then
        (BaseContract.decodeU128 result).toOption.map .bigint
      else if name = "decodeU64".toList then (BaseContract.decodeU64 result).toOption.map .bigint
      else none
  | .nativeToScVal _ => none
  | .other text =>
      if text = resultName then some (.scVal result)
      else if text = "undefined".toList then some .undefined
      else none

end Axionvera.Codegen
