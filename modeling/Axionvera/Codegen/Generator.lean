import Axionvera.Foundation.AsciiCharacter
import Axionvera.Foundation.NumberText

/-! The generator of contract classes (`codegen/generator.ts`). Texts are lists of characters. -/

namespace Axionvera.Codegen

open Axionvera.Foundation

/-- A text, as its characters. -/
abbrev Text := List Char

/-- `toUpperCase` and `toLowerCase` on one character, which may become several. Beyond ASCII they
follow the tables of Unicode, in which nothing but letters becomes another character.
-/
structure CaseMapping where
  toUpperCase : Char → Text
  toLowerCase : Char → Text
  toUpperCase_ascii
    : ∀ character, character.toNat < 128 → toUpperCase character = [character.toUpper]
  toLowerCase_ascii
    : ∀ character, character.toNat < 128 → toLowerCase character = [character.toLower]
  upperLetters
    : ∀ character, ∀ upper ∈ toUpperCase character,
        upper.toNat < 128 → upper.isAlpha = false → upper = character
  lowerLetters
    : ∀ character, ∀ lower ∈ toLowerCase character,
        lower.toNat < 128 → lower.isAlpha = false → lower = character

/-- A case mapping that leaves everything beyond ASCII as it is. -/
def asciiCase : CaseMapping where
  toUpperCase character := if character.toNat < 128 then [character.toUpper] else [character]
  toLowerCase character := if character.toNat < 128 then [character.toLower] else [character]
  toUpperCase_ascii _ ascii := if_pos ascii
  toLowerCase_ascii _ ascii := if_pos ascii
  upperLetters := by
    intro character upper member _ noLetter
    split at member
    · rename_i ascii
      obtain rfl := List.mem_singleton.mp member
      have letters := forall_ascii (fun character =>
        character.toUpper.isAlpha || character.toUpper == character) (by decide) ascii
      simpa [noLetter] using letters
    · exact List.mem_singleton.mp member
  lowerLetters := by
    intro character lower member _ noLetter
    split at member
    · rename_i ascii
      obtain rfl := List.mem_singleton.mp member
      have letters := forall_ascii (fun character =>
        character.toLower.isAlpha || character.toLower == character) (by decide) ascii
      simpa [noLetter] using letters
    · exact List.mem_singleton.mp member

/-- `SpecParam`. -/
structure SpecParam where
  name : Text
  type : Text
  scSpecType : Text

/-- `SpecFunction`. -/
structure SpecFunction where
  name : Text
  doc : Text
  inputs : List SpecParam
  outputs : List SpecParam
  isReadonly : Bool

/-- `SpecStructField`. -/
structure SpecStructField where
  name : Text
  type : Text

/-- `SpecStruct`. -/
structure SpecStruct where
  name : Text
  doc : Text
  fields : List SpecStructField

/-- `SpecEnumCase`. -/
structure SpecEnumCase where
  name : Text
  value : FiniteNumber

/-- `SpecEnum`. -/
structure SpecEnum where
  name : Text
  doc : Text
  cases : List SpecEnumCase

/-- `ContractSpec`. -/
structure ContractSpec where
  functions : List SpecFunction
  structs : List SpecStruct
  enums : List SpecEnum

-----------------------------------------------------------------------------------------
-- Names
-----------------------------------------------------------------------------------------

/-- What `.` does not match in a pattern. -/
def isLineTerminator (character : Char) : Bool :=
  [0x0a, 0x0d, 0x2028, 0x2029].contains character.toNat

/-- `c.toUpperCase()` of what `(.)` matches, which is half a character beyond the basic plane. -/
def CaseMapping.upper (mapping : CaseMapping) (character : Char) : Text :=
  if character.toNat < 0x10000 then mapping.toUpperCase character else [character]

/-- `s.replace(/[-_](.)/g, (_, c) => c.toUpperCase())`. -/
def joinWords (mapping : CaseMapping) : Text → Text
  | mark :: character :: rest =>
      if (mark = '-' ∨ mark = '_') ∧ isLineTerminator character = false then
        mapping.upper character ++ joinWords mapping rest
      else mark :: joinWords mapping (character :: rest)
  | text => text

/-- `s.replace(/^(.)/, (_, c) => c.toUpperCase())`. -/
def capitalize (mapping : CaseMapping) : Text → Text
  | character :: rest =>
      if isLineTerminator character then character :: rest else mapping.upper character ++ rest
  | [] => []

/-- `toPascalCase`. -/
def toPascalCase (mapping : CaseMapping) (s : Text) : Text :=
  capitalize mapping (joinWords mapping s)

/-- `toCamelCase`. -/
def toCamelCase (mapping : CaseMapping) (s : Text) : Text :=
  match toPascalCase mapping s with
  | [] => []
  | first :: rest =>
      (if first.toNat < 0x10000 then mapping.toLowerCase first else [first]) ++ rest

-----------------------------------------------------------------------------------------
-- Expressions
-----------------------------------------------------------------------------------------

/-- An expression of a generated method: a call of a helper on `this`, a conversion by the library,
or something else.
-/
inductive Expression where
  | helper (name argument : Text)
  | nativeToScVal (argument : Text)
  | other (text : Text)

/-- The text of an expression. -/
def Expression.toText : Expression → Text
  | .helper name argument => "this.".toList ++ name ++ "(".toList ++ argument ++ ")".toList
  | .nativeToScVal argument => "nativeToScVal(".toList ++ argument ++ ")".toList
  | .other text => text

/-- The helper that an expression calls on `this`. -/
def Expression.helper? : Expression → Option Text
  | .helper name _ => some name
  | _ => none

/-- `encodeExpr`. -/
def encodeExpr (varName scSpecType : Text) : Expression :=
  if scSpecType = "address".toList then .helper "encodeAddress".toList varName
  else if scSpecType = "i128".toList then .helper "encodeI128".toList varName
  else if scSpecType = "u128".toList then .helper "encodeU128".toList varName
  else if "udt:".toList.isPrefixOf scSpecType then .helper "encodeUdt".toList varName
  else .nativeToScVal varName

/-- `decodeExpr`. -/
def decodeExpr (resultExpr scSpecType : Text) : Expression :=
  if scSpecType = "bool".toList then .helper "decodeBool".toList resultExpr
  else if scSpecType = "string".toList ∨ scSpecType = "symbol".toList then
    .helper "decodeString".toList resultExpr
  else if scSpecType = "i128".toList then .helper "decodeI128".toList resultExpr
  else if scSpecType = "u128".toList then .helper "decodeU128".toList resultExpr
  else if scSpecType = "u64".toList then .helper "decodeU64".toList resultExpr
  else if scSpecType = "void".toList then .other "undefined".toList
  else .other resultExpr

-----------------------------------------------------------------------------------------
-- Interfaces and enumerations
-----------------------------------------------------------------------------------------

/-- `texts.join(separator)`. -/
def join (separator : Text) (texts : List Text) : Text :=
  separator.intercalate texts

/-- The name of the interface of a function's arguments. -/
def argsInterfaceName (mapping : CaseMapping) (fn : SpecFunction) : Text :=
  toPascalCase mapping fn.name ++ "Args".toList

/-- `generateArgsInterface`. -/
def generateArgsInterface (mapping : CaseMapping) (fn : SpecFunction) : Text :=
  if fn.inputs.length = 0 then []
  else
    "export interface ".toList ++ argsInterfaceName mapping fn ++ " \x7b\n".toList
      ++ join "\n".toList
        (fn.inputs.map fun p => "  ".toList ++ p.name ++ ": ".toList ++ p.type ++ ";".toList)
      ++ "\n\x7d\n".toList

/-- The comment of a struct or an enumeration. -/
def docLine (doc : Text) : Text :=
  if doc = [] then [] else "/** ".toList ++ doc ++ " */\n".toList

/-- `generateStructInterface` without the comment. -/
def structBody (s : SpecStruct) : Text :=
  "export interface ".toList ++ s.name ++ " \x7b\n".toList
    ++ join "\n".toList
      (s.fields.map fun f => "  ".toList ++ f.name ++ ": ".toList ++ f.type ++ ";".toList)
    ++ "\n\x7d\n".toList

/-- `generateStructInterface`. -/
def generateStructInterface (s : SpecStruct) : Text :=
  docLine s.doc ++ structBody s

/-- `generateEnumType` without the comment. -/
def enumBody (e : SpecEnum) : Text :=
  "export enum ".toList ++ e.name ++ " \x7b\n".toList
    ++ join "\n".toList
      (e.cases.map fun c => "  ".toList ++ c.name ++ " = ".toList ++ c.value.toText ++ ",".toList)
    ++ "\n\x7d\n".toList

/-- `generateEnumType`. -/
def generateEnumType (e : SpecEnum) : Text :=
  docLine e.doc ++ enumBody e

-----------------------------------------------------------------------------------------
-- Methods
-----------------------------------------------------------------------------------------

/-- `methodName`. -/
def methodName (mapping : CaseMapping) (fn : SpecFunction) : Text :=
  toCamelCase mapping fn.name

/-- `doc.replace(/\n/g, "\n   * ")`. -/
def indentLines (doc : Text) : Text :=
  doc.flatMap fun character => if character = '\n' then "\n   * ".toList else [character]

/-- The comment of a method. -/
def docBlock (doc : Text) : Text :=
  if doc = [] then [] else "  /**\n   * ".toList ++ indentLines doc ++ "\n   */\n".toList

/-- The expressions that encode the arguments of a method. -/
def encodedArgs (fn : SpecFunction) : List Expression :=
  fn.inputs.map fun p => encodeExpr ("args.".toList ++ p.name) p.scSpecType

/-- `argsArray`. -/
def argsArray (fn : SpecFunction) : Text :=
  if 0 < fn.inputs.length then
    "[\n      ".toList ++ join ",\n      ".toList ((encodedArgs fn).map Expression.toText)
      ++ "\n    ]".toList
  else "[]".toList

/-- The call of the contract: `query` or `invoke`, with the name of the function and its arguments.
-/
def contractCall (fn : SpecFunction) : Expression :=
  .helper (if fn.isReadonly then "query".toList else "invoke".toList)
    ("\"".toList ++ fn.name ++ "\", ".toList ++ argsArray fn)

/-- The expression for the result of a method. -/
def decodedResult (fn : SpecFunction) : Expression :=
  match fn.outputs with
  | output :: _ => decodeExpr "_result".toList output.scSpecType
  | [] => .other "undefined".toList

/-- `returnTs`. -/
def returnTs (fn : SpecFunction) : Text :=
  match fn.outputs with
  | output :: _ => output.type
  | [] => "void".toList

/-- `promiseReturn`. -/
def promiseReturn (fn : SpecFunction) : Text :=
  if fn.isReadonly then "Promise<".toList ++ returnTs fn ++ ">".toList else "Promise<any>".toList

/-- `paramSig`. -/
def paramSig (mapping : CaseMapping) (fn : SpecFunction) : Text :=
  if 0 < fn.inputs.length then "args: ".toList ++ argsInterfaceName mapping fn else []

/-- The first line of a method: its name, its parameter and its type. -/
def methodSignature (mapping : CaseMapping) (fn : SpecFunction) : Text :=
  "  async ".toList ++ methodName mapping fn ++ "(".toList ++ paramSig mapping fn ++ "): ".toList
    ++ promiseReturn fn ++ " \x7b\n".toList

/-- `generateMethod` without the comment. -/
def methodBody (mapping : CaseMapping) (fn : SpecFunction) : Text :=
  if fn.isReadonly then
    methodSignature mapping fn
      ++ ("    const _result = await ".toList ++ (contractCall fn).toText ++ ";\n".toList)
      ++ ("    return ".toList ++ (decodedResult fn).toText ++ ";\n".toList)
      ++ "  \x7d\n".toList
  else
    methodSignature mapping fn
      ++ ("    return ".toList ++ (contractCall fn).toText ++ ";\n".toList)
      ++ "  \x7d\n".toList

/-- `generateMethod`. -/
def generateMethod (mapping : CaseMapping) (fn : SpecFunction) : Text :=
  docBlock fn.doc ++ methodBody mapping fn

-----------------------------------------------------------------------------------------
-- The class
-----------------------------------------------------------------------------------------

/-- The first lines of a generated file. -/
def headerLines (coreImport : Text) : List Text :=
  ["// Auto-generated by axionvera-cli codegen. DO NOT EDIT.".toList,
    "// Re-run \x60axionvera-cli codegen <contract.wasm>\x60 to regenerate.\n".toList,
    "import { nativeToScVal } from \"@stellar/stellar-sdk\";".toList,
    "import { BaseContract, BaseContractConfig } from \"".toList ++ coreImport
      ++ "/contracts/BaseContract\";\n".toList]

/-- The first lines of the class. -/
def classLines (className : Text) : List Text :=
  ["export class ".toList ++ className ++ " extends BaseContract \x7b".toList,
    "  constructor(config: BaseContractConfig) \x7b".toList,
    "    super(config);".toList,
    "  \x7d\n".toList]

/-- `generateContractClass`. -/
def generateContractClass (mapping : CaseMapping) (spec : ContractSpec)
    (className coreImport : Text)
    : Text :=
  join "\n".toList
    (headerLines coreImport
      ++ spec.structs.map generateStructInterface
      ++ spec.enums.map generateEnumType
      ++ (spec.functions.map (generateArgsInterface mapping)).filter (· ≠ [])
      ++ classLines className
      ++ spec.functions.map (generateMethod mapping)
      ++ ["\x7d".toList, []])

end Axionvera.Codegen
