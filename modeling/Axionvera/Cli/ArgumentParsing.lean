import Axionvera.Codegen.ArgumentValues
import Axionvera.Foundation.NumericText

/-! The arguments of contract calls on the command line (`bin/commands/shared.js`): how a text is
turned into a value of a contract. Texts are lists of characters.
-/

namespace Axionvera.Cli

open Axionvera.Codegen (IntegerKind StellarSdk TsArgument bigIntOf utf8Bytes)
open Axionvera.Foundation
open Axionvera.Soroban

/-- The types that `TYPE_PREFIX` names. -/
inductive ArgumentType where
  | address
  | account
  | contract
  | bool
  | integer (kind : IntegerKind)
  | symbol
  | string
  | bytes
  deriving DecidableEq

/-- The name of a type. -/
def ArgumentType.name : ArgumentType → String
  | .address => "address"
  | .account => "account"
  | .contract => "contract"
  | .bool => "bool"
  | .integer .u32 => "u32"
  | .integer .i32 => "i32"
  | .integer .u64 => "u64"
  | .integer .i64 => "i64"
  | .integer .u128 => "u128"
  | .integer .i128 => "i128"
  | .integer .u256 => "u256"
  | .integer .i256 => "i256"
  | .symbol => "symbol"
  | .string => "string"
  | .bytes => "bytes"

/-- All types. -/
def argumentTypes : List ArgumentType :=
  [.address, .account, .contract, .bool, .integer .u32, .integer .i32, .integer .u64,
    .integer .i64, .integer .u128, .integer .i128, .integer .u256, .integer .i256, .symbol,
    .string, .bytes]

/-- `TYPE_PREFIX.exec(raw)`: the type and the text behind the first colon. -/
def typePrefix (raw : List Char) : Option (ArgumentType × List Char) :=
  match raw.dropWhile (· ≠ ':') with
  | ':' :: value =>
      (argumentTypes.find? fun type => type.name.toList = raw.takeWhile (· ≠ ':')).map
        fun type => (type, value)
  | _ => none

/-- `Buffer.from(value, "hex")`, which stops before the first two characters that are no byte. -/
def bufferFromHex : List Char → List UInt8
  | high :: low :: rest =>
      match hexByte high low with
      | some byte => byte :: bufferFromHex rest
      | none => []
  | _ => []

/-- Whether an integer type goes through `Number`. -/
def isNarrow (kind : IntegerKind) : Bool :=
  kind = .u32 || kind = .i32

/-- `coerce`. It is `none` when it throws. -/
def coerce (sdk : StellarSdk) (type : ArgumentType) (value : List Char) : Option ScVal :=
  match type with
  | .address | .account | .contract => (sdk.addressOf (String.ofList value)).map .address
  | .bool => sdk.nativeToScVal (.boolean (value = "true".toList))
  | .integer kind =>
      if isNarrow kind then (bigIntOf (numberFromText value)).bind (sdk.typedInteger kind)
      else (bigIntFromText value).bind (sdk.typedInteger kind)
  | .symbol => some (.symbol (utf8Bytes (String.ofList value)))
  | .string => some (.string (utf8Bytes (String.ofList value)))
  | .bytes => sdk.nativeToScVal (.buffer (bufferFromHex value))

/-- `isStellarAddress`: the texts of accounts and contracts. -/
def isStellarAddress (sdk : StellarSdk) (value : List Char) : Bool :=
  match sdk.addressOf (String.ofList value) with
  | some (.account _) | some (.contract _) => true
  | _ => false

/-- `/^-?\d+$/.test(raw)`. -/
def isPlainInteger (raw : List Char) : Bool :=
  match raw with
  | '-' :: digits => isDigits digits
  | digits => isDigits digits

/-- `parseScVal`. It is `none` when it throws. -/
def parseScVal (sdk : StellarSdk) (raw : List Char) : Option ScVal :=
  match typePrefix raw with
  | some (type, value) => coerce sdk type value
  | none =>
      if isStellarAddress sdk raw then (sdk.addressOf (String.ofList raw)).map .address
      else if isPlainInteger raw then (bigIntFromText raw).bind (sdk.typedInteger .i128)
      else if raw = "true".toList ∨ raw = "false".toList then
        sdk.nativeToScVal (.boolean (raw = "true".toList))
      else some (.string (utf8Bytes (String.ofList raw)))

/-- The types are told apart by their names, which have no colon. -/
theorem typePrefix_of_name (type : ArgumentType) (value : List Char)
    : typePrefix (type.name.toList ++ ':' :: value) = some (type, value) := by
  have noColon : ∀ character ∈ type.name.toList, (decide (character ≠ ':')) = true := by
    rcases type with _ | _ | _ | _ | kind | _ | _ | _
    case integer => cases kind <;> exact List.all_eq_true.mp rfl
    all_goals exact List.all_eq_true.mp rfl
  have found
      : (argumentTypes.find? fun other => other.name.toList = type.name.toList) = some type := by
    rcases type with _ | _ | _ | _ | kind | _ | _ | _
    case integer => cases kind <;> rfl
    all_goals rfl
  have front : (type.name.toList ++ ':' :: value).takeWhile (· ≠ ':') = type.name.toList := by
    rw [List.takeWhile_append_of_pos noColon, List.takeWhile_cons_of_neg (by decide),
      List.append_nil]
  have back : (type.name.toList ++ ':' :: value).dropWhile (· ≠ ':') = ':' :: value := by
    rw [List.dropWhile_append_of_pos noColon, List.dropWhile_cons_of_neg (by decide)]
  rw [typePrefix, back, front, found]
  rfl

end Axionvera.Cli
