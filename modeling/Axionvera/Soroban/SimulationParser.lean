import Axionvera.Foundation.ThrownValue
import Axionvera.Soroban.ScVal
import Mathlib.Data.Int.Bitwise

/-! How contract values are decoded: `decodeScVal` of `utils/simulationParser.ts`, and the typed
helpers of `contracts/BaseContract.ts`.
-/

namespace Axionvera.Soroban

open Axionvera.Foundation

/-- `NativeScVal`. An object has its own properties, in the order in which they were made, and a
prototype if an assignment has replaced the ordinary one.
-/
inductive NativeScVal where
  | undefined
  | boolean (value : Bool)
  | number (value : Int)
  | bigint (value : Int)
  | text (value : String)
  | buffer (bytes : List UInt8)
  | array (items : List NativeScVal)
  | object (entries : List (String × NativeScVal)) (prototype : Option NativeScVal)

/-- What is used of the host and of `stellar-sdk`: the text of bytes in UTF-8, the text of an
address, and the text of an object whose prototype was replaced.
-/
structure SdkHost where
  utf8Text : List UInt8 → String
  addressText : ScAddress → Except ThrownValue String
  inheritingText : NativeScVal → Except ThrownValue String

/-- A host for texts in ASCII and values without addresses. -/
def SdkHost.ascii : SdkHost where
  utf8Text bytes := .ofList (bytes.map fun byte => Char.ofNat byte.toNat)
  addressText _ := .error .undefined
  inheritingText _ := .error .undefined

/-- A `TypeError`. -/
def typeError (message : String) : ThrownValue :=
  .error (.ok "TypeError") (.ok message)

/-- An `Error`. -/
def plainError (message : String) : ThrownValue :=
  .error (.ok "Error") (.ok message)

-----------------------------------------------------------------------------------------
-- Property names
-----------------------------------------------------------------------------------------

mutual
/-- `String(value)`. An object has the text of all objects, unless a property of its own hides
the method that gives it.
-/
def NativeScVal.toText (host : SdkHost) : NativeScVal → Except ThrownValue String
  | .undefined => .ok "undefined"
  | .boolean value => .ok (if value then "true" else "false")
  | .number value => .ok (toString value)
  | .bigint value => .ok (toString value)
  | .text value => .ok value
  | .buffer bytes => .ok (host.utf8Text bytes)
  | .array items => do
      let texts ← itemTexts host items
      return ",".intercalate texts
  | .object entries none =>
      if "toString" ∈ entries.map Prod.fst then
        .error (typeError "Cannot convert object to primitive value")
      else .ok "[object Object]"
  | .object entries (some prototype) => host.inheritingText (.object entries (some prototype))

/-- The texts that `join` puts together: `undefined` gives none. -/
def itemTexts (host : SdkHost) : List NativeScVal → Except ThrownValue (List String)
  | [] => .ok []
  | item :: items => do
      let text ← match item with
        | .undefined => .ok ""
        | item => item.toText host
      let texts ← itemTexts host items
      return text :: texts
end

/-- The properties of an object after an assignment: an existing one keeps its place. -/
def assigned {ν : Type} (key : String) (value : ν) : List (String × ν) → List (String × ν)
  | [] => [(key, value)]
  | (other, found) :: entries =>
      if other = key then (other, value) :: entries
      else (other, found) :: assigned key value entries

/-- Whether a value can be a prototype. -/
def NativeScVal.isObject : NativeScVal → Bool
  | .buffer _ | .array _ | .object _ _ => true
  | .undefined | .boolean _ | .number _ | .bigint _ | .text _ => false

/-- `result[key] = value` for an object with its own properties and its prototype: under the name
`__proto__` an object becomes the prototype, and other values are ignored.
-/
def assignProperty (result : List (String × NativeScVal) × Option NativeScVal) (key : String)
    (value : NativeScVal) : List (String × NativeScVal) × Option NativeScVal :=
  if key = "__proto__" then
    if value.isObject then (result.1, some value) else result
  else (assigned key value result.1, result.2)

-----------------------------------------------------------------------------------------
-- Decoding
-----------------------------------------------------------------------------------------

/-- `value << places`, for `BigInt`s. -/
def shiftedLeft (value : Int) (places : Nat) : Int :=
  value <<< places

/-- The branch of `decodeScVal` for `scvU128`. -/
def decodedU128 (hi lo : BitVec 64) : Int :=
  Int.lor (shiftedLeft hi.toNat 64) lo.toNat

/-- The branch of `decodeScVal` for `scvI128`. -/
def decodedI128 (hi lo : BitVec 64) : Int :=
  let raw := Int.lor (shiftedLeft hi.toInt 64) lo.toNat
  let maxI128 := shiftedLeft 1 127 - 1
  if raw > maxI128 then raw - shiftedLeft 1 128 else raw

/-- The words of `scvU256` and `scvI256`, shifted and put together with or. -/
def joinedWords (hiHi : Int) (hiLo loHi loLo : BitVec 64) : Int :=
  Int.lor
    (Int.lor (Int.lor (shiftedLeft hiHi 192) (shiftedLeft hiLo.toNat 128))
      (shiftedLeft loHi.toNat 64))
    loLo.toNat

/-- The branch of `decodeScVal` for `scvU256`. -/
def decodedU256 (hiHi hiLo loHi loLo : BitVec 64) : Int :=
  joinedWords hiHi.toNat hiLo loHi loLo

/-- The branch of `decodeScVal` for `scvI256`. -/
def decodedI256 (hiHi hiLo loHi loLo : BitVec 64) : Int :=
  let raw := joinedWords hiHi.toInt hiLo loHi loLo
  let maxI256 := shiftedLeft 1 255 - 1
  if raw > maxI256 then raw - shiftedLeft 1 256 else raw

mutual
/-- `decodeScVal`. -/
def decodeScVal (host : SdkHost) : ScVal → Except ThrownValue NativeScVal
  | .void => .ok .undefined
  | .bool b => .ok (.boolean b)
  | .u32 word => .ok (.number word.toNat)
  | .i32 word => .ok (.number word.toInt)
  | .u64 word => .ok (.bigint word.toNat)
  | .i64 word => .ok (.bigint word.toInt)
  | .u128 hi lo => .ok (.bigint (decodedU128 hi lo))
  | .i128 hi lo => .ok (.bigint (decodedI128 hi lo))
  | .u256 hiHi hiLo loHi loLo => .ok (.bigint (decodedU256 hiHi hiLo loHi loLo))
  | .i256 hiHi hiLo loHi loLo => .ok (.bigint (decodedI256 hiHi hiLo loHi loLo))
  | .symbol bytes => .ok (.text (host.utf8Text bytes))
  | .string bytes => .ok (.text (host.utf8Text bytes))
  | .bytes bytes => .ok (.buffer bytes)
  | .address address => do return .text (← host.addressText address)
  | .vec items => do return .array (← decodeItems host items)
  | .absentVec => .error (typeError "Cannot read properties of null (reading 'map')")
  | .map entries => do
      let result ← decodeEntries host ([], none) entries
      return .object result.1 result.2
  | .absentMap =>
      .error (typeError "scval.map is not a function or its return value is not iterable")
  | .other type => .error (plainError ("Unsupported scVal type: " ++ type.name))

/-- `scval.vec()!.map(decodeScVal)`. -/
def decodeItems (host : SdkHost) : List ScVal → Except ThrownValue (List NativeScVal)
  | [] => .ok []
  | item :: items => do
      let decoded ← decodeScVal host item
      let others ← decodeItems host items
      return decoded :: others

/-- The loop of `decodeScVal` over the entries of a map. -/
def decodeEntries (host : SdkHost) (result : List (String × NativeScVal) × Option NativeScVal)
    : List (ScVal × ScVal)
      → Except ThrownValue (List (String × NativeScVal) × Option NativeScVal)
  | [] => .ok result
  | (key, val) :: entries => do
      let key ← decodeScVal host key
      let name ← key.toText host
      let value ← decodeScVal host val
      decodeEntries host (assignProperty result name value) entries
end

-----------------------------------------------------------------------------------------
-- The helpers of contracts
-----------------------------------------------------------------------------------------

namespace BaseContract

/-- A call of a method of the parts of a 128-bit integer, whose most significant word is given
first; what it returns is read with `BigInt`. The parts have the methods `hi` and `lo`.
-/
def partsCall (receiver method : String) (hi : Int) (lo : BitVec 64) : Except ThrownValue Int :=
  if method = "hi" then .ok hi
  else if method = "lo" then .ok lo.toNat
  else .error (typeError (receiver ++ "." ++ method ++ " is not a function"))

/-- `decodeI128`. -/
def decodeI128 : ScVal → Except ThrownValue Int
  | .i128 hi lo => do
      let low ← partsCall "i" "low" hi.toInt lo
      let high ← partsCall "i" "high" hi.toInt lo
      return low + shiftedLeft high 64
  | _ => .error (plainError "Expected i128")

/-- `decodeU128`. -/
def decodeU128 : ScVal → Except ThrownValue Int
  | .u128 hi lo => do
      let low ← partsCall "u" "lo" hi.toNat lo
      let high ← partsCall "u" "hi" hi.toNat lo
      return low + shiftedLeft high 64
  | _ => .error (plainError "Expected u128")

/-- `decodeU64`. -/
def decodeU64 : ScVal → Except ThrownValue Int
  | .u64 word => .ok word.toNat
  | _ => .error (plainError "Expected u64")

/-- `decodeBool`. -/
def decodeBool : ScVal → Except ThrownValue Bool
  | .bool b => .ok b
  | _ => .error (plainError "Expected bool")

/-- `decodeString`. -/
def decodeString (host : SdkHost) : ScVal → Except ThrownValue String
  | .string bytes => .ok (host.utf8Text bytes)
  | .symbol bytes => .ok (host.utf8Text bytes)
  | _ => .error (plainError "Expected string or symbol")

end BaseContract

end Axionvera.Soroban
