import Mathlib.Data.List.Basic

/-! The types of a contract's specification and how they are printed (`scSpecTypeToTs` of
`codegen/wasmParser.ts`).
-/

namespace Axionvera.Codegen

/-- The kinds of types without parts. -/
inductive ScSpecType where
  | val
  | bool
  | void
  | error
  | u32
  | i32
  | u64
  | i64
  | timepoint
  | duration
  | u128
  | i128
  | u256
  | i256
  | bytes
  | string
  | symbol
  | address
  | muxedAddress
  deriving DecidableEq, Repr

/-- `xdr.ScSpecTypeDef`. -/
inductive ScSpecTypeDef where
  | simple (type : ScSpecType)
  | option (valueType : ScSpecTypeDef)
  | result (okType errorType : ScSpecTypeDef)
  | vec (elementType : ScSpecTypeDef)
  | map (keyType valueType : ScSpecTypeDef)
  | tuple (valueTypes : List ScSpecTypeDef)
  | bytesN (n : Nat)
  | udt (name : String)

/-- What `scSpecTypeToTs` returns. -/
structure PrintedType where
  ts : String
  spec : String
  deriving DecidableEq, Repr

/-- The branches of `scSpecTypeToTs` for types without parts. -/
def simpleTypeToTs : ScSpecType → PrintedType
  | .bool => ⟨"boolean", "bool"⟩
  | .void => ⟨"void", "void"⟩
  | .error => ⟨"number", "error"⟩
  | .u32 => ⟨"number", "u32"⟩
  | .i32 => ⟨"number", "i32"⟩
  | .u64 => ⟨"bigint", "u64"⟩
  | .i64 => ⟨"bigint", "i64"⟩
  | .u128 => ⟨"bigint", "u128"⟩
  | .i128 => ⟨"bigint", "i128"⟩
  | .u256 => ⟨"bigint", "u256"⟩
  | .i256 => ⟨"bigint", "i256"⟩
  | .bytes => ⟨"Buffer", "bytes"⟩
  | .string => ⟨"string", "string"⟩
  | .symbol => ⟨"string", "symbol"⟩
  | .address => ⟨"string", "address"⟩
  | .val | .timepoint | .duration | .muxedAddress => ⟨"xdr.ScVal", "unknown"⟩

mutual
/-- `scSpecTypeToTs`. -/
def scSpecTypeToTs : ScSpecTypeDef → PrintedType
  | .simple type => simpleTypeToTs type
  | .option valueType =>
      let inner := scSpecTypeToTs valueType
      ⟨inner.ts ++ " | undefined", "option<" ++ inner.spec ++ ">"⟩
  | .vec elementType =>
      let inner := scSpecTypeToTs elementType
      ⟨inner.ts ++ "[]", "vec<" ++ inner.spec ++ ">"⟩
  | .map keyType valueType =>
      let k := scSpecTypeToTs keyType
      let v := scSpecTypeToTs valueType
      ⟨"Map<" ++ k.ts ++ ", " ++ v.ts ++ ">", "map<" ++ k.spec ++ "," ++ v.spec ++ ">"⟩
  | .tuple valueTypes =>
      ⟨"[" ++ ", ".intercalate (valueTypesToTs valueTypes) ++ "]", "tuple"⟩
  | .udt name => ⟨name, "udt:" ++ name⟩
  | .result _ _ | .bytesN _ => ⟨"xdr.ScVal", "unknown"⟩

/-- The texts of the types of a tuple. -/
def valueTypesToTs : List ScSpecTypeDef → List String
  | [] => []
  | valueType :: valueTypes => (scSpecTypeToTs valueType).ts :: valueTypesToTs valueTypes
end

end Axionvera.Codegen
