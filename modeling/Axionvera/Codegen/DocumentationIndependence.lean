import Axionvera.Codegen.Generator
import Axionvera.Foundation.CommentReader

/-! The code of a generated class depends on the documentation of the contract exactly if some of it
ends the comment that it is written in.
-/

namespace Axionvera.Codegen

open Axionvera.Foundation
open CommentReader

/-- The contract without its documentation. -/
def ContractSpec.withoutDocs (spec : ContractSpec) : ContractSpec where
  functions := spec.functions.map fun fn => { fn with doc := [] }
  structs := spec.structs.map fun s => { s with doc := [] }
  enums := spec.enums.map fun e => { e with doc := [] }

/-- The names and types of the contract cannot be taken for comments or quotes, and stay within
those that they are written in.
-/
structure HasPlainNames (spec : ContractSpec) (className coreImport : Text) : Prop where
  className : IsPlain className
  coreImport : ∀ character ∈ coreImport, character ∉ ['"', '\\', '\n', '\r']
  functions
    : ∀ fn ∈ spec.functions,
        IsPlain fn.name
        ∧ (∀ character ∈ fn.name, character ∉ ['\n', '\r'])
        ∧ (∀ p ∈ fn.inputs, IsPlain p.name ∧ IsPlain p.type)
        ∧ ∀ output ∈ fn.outputs, IsPlain output.type
  structs : ∀ s ∈ spec.structs, IsPlain s.name ∧ ∀ f ∈ s.fields, IsPlain f.name ∧ IsPlain f.type
  enums : ∀ e ∈ spec.enums, IsPlain e.name ∧ ∀ c ∈ e.cases, IsPlain c.name

/-- The comment of every struct, enumeration and method is nothing but comments and blanks. -/
structure DocsReadAway (spec : ContractSpec) : Prop where
  functions : ∀ fn ∈ spec.functions, ReadsAway (docBlock fn.doc)
  structs : ∀ s ∈ spec.structs, ReadsAway (docLine s.doc)
  enums : ∀ e ∈ spec.enums, ReadsAway (docLine e.doc)

-----------------------------------------------------------------------------------------
-- The parts of a generated file
-----------------------------------------------------------------------------------------

/-- A line of code without a comment. -/
def plainLine (line : Text) : ProgramPart where
  comment := []
  code := line ++ ['\n']

/-- The struct, the enumeration or the method behind its comment. -/
def documentedLine (comment body : Text) : ProgramPart where
  comment := comment
  code := body ++ ['\n']

/-- The parts of a generated file behind its first lines. -/
def generatedParts (mapping : CaseMapping) (spec : ContractSpec) (className : Text)
    : List ProgramPart :=
  (spec.structs.map fun s => documentedLine (docLine s.doc) (structBody s))
    ++ (spec.enums.map fun e => documentedLine (docLine e.doc) (enumBody e))
    ++ ((spec.functions.map (generateArgsInterface mapping)).filter (· ≠ [])).map plainLine
    ++ (classLines className).map plainLine
    ++ (spec.functions.map fun fn => documentedLine (docBlock fn.doc) (methodBody mapping fn))
    ++ [plainLine "\x7d".toList]

/-- The first lines of a generated file, each with its end. -/
def header (coreImport : Text) : Text :=
  (headerLines coreImport).flatMap (· ++ ['\n'])

/-- Lines are joined by their ends, if the last one is empty, by induction on them. -/
theorem join_newline (lines : List Text)
    : join "\n".toList (lines ++ [[]]) = lines.flatMap (· ++ ['\n']) := by
  induction lines with
  | nil => rfl
  | cons line lines ih =>
      have joined (rest : List Text) (some : rest ≠ [])
          : join "\n".toList (line :: rest) = line ++ ['\n'] ++ join "\n".toList rest := by
        obtain ⟨next, others, rfl⟩ := List.exists_cons_of_ne_nil some
        simp [join, List.intercalate]
      rw [List.cons_append, joined _ (by simp), ih, List.flatMap_cons]

/-- A generated file is made of its parts. -/
theorem generateContractClass_eq (mapping : CaseMapping) (spec : ContractSpec)
    (className coreImport : Text)
    : generateContractClass mapping spec className coreImport
      = header coreImport ++ programOf (generatedParts mapping spec className) := by
  have lines
      : generateContractClass mapping spec className coreImport
        = join "\n".toList
          ((headerLines coreImport
            ++ spec.structs.map generateStructInterface
            ++ spec.enums.map generateEnumType
            ++ (spec.functions.map (generateArgsInterface mapping)).filter (· ≠ [])
            ++ classLines className
            ++ spec.functions.map (generateMethod mapping)
            ++ ["\x7d".toList]) ++ [[]]) := by
    simp only [generateContractClass, List.append_assoc, List.cons_append, List.nil_append]
  rw [lines, join_newline]
  simp only [header, programOf, generatedParts, List.flatMap_append, List.flatMap_map,
    List.append_assoc, documentedLine, plainLine, generateStructInterface, generateEnumType,
    generateMethod, List.nil_append, List.flatMap_cons, List.flatMap_nil]

/-- The code of the parts does not depend on the documentation. -/
theorem map_code_generatedParts {mapping : CaseMapping} {spec other : ContractSpec}
    {className : Text}
    (sameExceptDocs : spec.withoutDocs = other.withoutDocs)
    : (generatedParts mapping spec className).map (·.code)
      = (generatedParts mapping other className).map (·.code) := by
  have undocumented (spec : ContractSpec)
      : (generatedParts mapping spec className).map (·.code)
        = (generatedParts mapping spec.withoutDocs className).map (·.code) := by
    simp only [generatedParts, ContractSpec.withoutDocs, List.map_append, List.map_map]
    rfl
  rw [undocumented spec, undocumented other, sameExceptDocs]

-----------------------------------------------------------------------------------------
-- Plain code
-----------------------------------------------------------------------------------------

/-- Plain texts are joined to a plain text, by induction on them. -/
theorem isPlain_join {separator : Text} {texts : List Text} (separatorPlain : IsPlain separator)
    (plain : ∀ text ∈ texts, IsPlain text)
    : IsPlain (join separator texts) := by
  match texts with
  | [] => nofun
  | [text] =>
      have same : join separator [text] = text := by simp [join, List.intercalate]
      rw [same]
      exact plain text List.mem_cons_self
  | text :: next :: rest =>
      obtain ⟨first, others⟩ := List.forall_mem_cons.mp plain
      have same
          : join separator (text :: next :: rest)
            = text ++ separator ++ join separator (next :: rest) := by
        simp [join, List.intercalate]
      rw [same]
      exact (first.append separatorPlain).append (isPlain_join separatorPlain others)

/-- A plain line is self-contained. -/
theorem isSelfContained_of_plain {line : Text} (plain : IsPlain line)
    : IsSelfContained (line ++ ['\n']) := by
  have newline : IsPlain ['\n'] := by decide
  exact ⟨behindBlank_of_newline (mode_of_plain rfl plain), (plain.append newline).noSlash⟩

/-- A line with a text in double quotes leads from code behind a blank. -/
theorem behindBlank_of_quoted {front name back : Text}
    (frontInCode : (behindBlank.read front).1.mode = .code)
    (within : ∀ character ∈ name, character ∉ ['"', '\\', '\n', '\r']) (backPlain : IsPlain back)
    : (behindBlank.read (front ++ ('"' :: (name ++ ['"'])) ++ back ++ ['\n'])).1 = behindBlank := by
  apply behindBlank_of_newline
  rw [read_append, read_append]
  exact mode_of_plain (mode_of_doubleQuoted frontInCode within) backPlain

/-- A plain line with a text in double quotes is self-contained. -/
theorem isSelfContained_of_quoted {front name back : Text} (frontPlain : IsPlain front)
    (namePlain : IsPlain name) (oneLine : ∀ character ∈ name, character ∉ ['\n', '\r'])
    (backPlain : IsPlain back)
    : IsSelfContained (front ++ ('"' :: (name ++ ['"'])) ++ back ++ ['\n']) := by
  have within : ∀ character ∈ name, character ∉ ['"', '\\', '\n', '\r'] := by
    intro character member
    have special := isPlain_iff.mp (namePlain character member)
    have newline := oneLine character member
    simp_all
  constructor
  · exact behindBlank_of_quoted (mode_of_plain rfl frontPlain) within backPlain
  · have quoted
        : ∀ character ∈ '"' :: (name ++ ['"']), character ≠ '/' ∧ character ≠ '\\' := by
      intro character member
      rcases List.mem_cons.mp member with rfl | member
      · decide
      · rcases List.mem_append.mp member with isName | isLast
        · exact namePlain.noSlash character isName
        · obtain rfl := List.mem_singleton.mp isLast
          decide
    have newline : ∀ character ∈ ['\n'], character ≠ '/' ∧ character ≠ '\\' :=
      List.forall_mem_singleton.mpr (by decide)
    simp only [List.forall_mem_append]
    exact ⟨⟨⟨frontPlain.noSlash, quoted⟩, backPlain.noSlash⟩, newline⟩

/-- The fields of an interface are plain lines. -/
theorem isPlain_fields {α : Type*} {fields : List α} {name type : α → Text}
    (plain : ∀ f ∈ fields, IsPlain (name f) ∧ IsPlain (type f))
    : IsPlain
        (join "\n".toList
          (fields.map fun f => "  ".toList ++ name f ++ ": ".toList ++ type f ++ ";".toList)) := by
  apply isPlain_join (by decide)
  intro line member
  obtain ⟨f, isField, rfl⟩ := List.mem_map.mp member
  obtain ⟨namePlain, typePlain⟩ := plain f isField
  repeat' apply IsPlain.append
  all_goals first | assumption | decide

/-- A struct with plain names and types is plain. -/
theorem isPlain_structBody {s : SpecStruct} (name : IsPlain s.name)
    (fields : ∀ f ∈ s.fields, IsPlain f.name ∧ IsPlain f.type)
    : IsPlain (structBody s) := by
  have lines := isPlain_fields fields
  repeat' apply IsPlain.append
  all_goals first | assumption | decide

/-- A number is plain. -/
theorem isPlain_toText (value : FiniteNumber) : IsPlain value.toText := by
  intro character member
  have numeric := value.toText_numeric character member
  have others
      : ∀ special ∈ ['/', '\\', '\'', '"', '\x60'], FiniteNumber.isNumeric special = false :=
    forall_mem_of_all (by decide)
  rw [isPlain_iff]
  intro special
  rw [others character special] at numeric
  cases numeric

/-- An enumeration with plain names is plain. -/
theorem isPlain_enumBody {e : SpecEnum} (name : IsPlain e.name)
    (cases_ : ∀ c ∈ e.cases, IsPlain c.name)
    : IsPlain (enumBody e) := by
  have lines
      : IsPlain
          (join "\n".toList
            (e.cases.map fun c =>
              "  ".toList ++ c.name ++ " = ".toList ++ c.value.toText ++ ",".toList)) := by
    apply isPlain_join (by decide)
    intro line member
    obtain ⟨c, isCase, rfl⟩ := List.mem_map.mp member
    have namePlain := cases_ c isCase
    have valuePlain := isPlain_toText c.value
    repeat' apply IsPlain.append
    all_goals first | assumption | decide
  repeat' apply IsPlain.append
  all_goals first | assumption | decide

/-- Characters that another one becomes are plain if it is, since letters are. -/
theorem isPlain_of_letters {character : Char} {text : Text}
    (plain : isPlainCharacter character = true)
    (letters
      : ∀ other ∈ text, other.toNat < 128 → other.isAlpha = false → other = character)
    : IsPlain text := by
  intro other member
  rw [isPlain_iff] at plain ⊢
  intro special
  have noLetters
      : ∀ special ∈ ['/', '\\', '\'', '"', '\x60'],
          special.toNat < 128 ∧ special.isAlpha = false :=
    forall_mem_of_all (by decide)
  obtain ⟨ascii, noLetter⟩ := noLetters other special
  exact plain (letters other member ascii noLetter ▸ special)

/-- What a plain character becomes in upper case is plain. -/
theorem isPlain_upper (mapping : CaseMapping) {character : Char}
    (plain : isPlainCharacter character = true)
    : IsPlain (mapping.upper character) := by
  rw [CaseMapping.upper]
  split
  · exact isPlain_of_letters plain (mapping.upperLetters character)
  · exact List.forall_mem_singleton.mpr plain

/-- The joined words of a plain name are plain, by the cases of `joinWords`. -/
theorem isPlain_joinWords (mapping : CaseMapping) {name : Text} (plain : IsPlain name)
    : IsPlain (joinWords mapping name) := by
  fun_induction joinWords mapping name with
  | case1 mark character rest isMark ih =>
      obtain ⟨_, others⟩ := List.forall_mem_cons.mp plain
      obtain ⟨letter, others⟩ := List.forall_mem_cons.mp others
      exact (isPlain_upper mapping letter).append (ih others)
  | case2 mark character rest noMark ih =>
      obtain ⟨first, others⟩ := List.forall_mem_cons.mp plain
      exact List.forall_mem_cons.mpr ⟨first, ih others⟩
  | case3 text short => exact plain

/-- A plain name is plain in Pascal case. -/
theorem isPlain_toPascalCase (mapping : CaseMapping) {name : Text} (plain : IsPlain name)
    : IsPlain (toPascalCase mapping name) := by
  have joined := isPlain_joinWords mapping plain
  rw [toPascalCase]
  generalize joinWords mapping name = words at joined ⊢
  cases words with
  | nil => exact joined
  | cons first rest =>
      obtain ⟨firstPlain, restPlain⟩ := List.forall_mem_cons.mp joined
      rw [capitalize]
      split
      · exact joined
      · exact (isPlain_upper mapping firstPlain).append restPlain

/-- A plain name is plain in camel case. -/
theorem isPlain_toCamelCase (mapping : CaseMapping) {name : Text} (plain : IsPlain name)
    : IsPlain (toCamelCase mapping name) := by
  have pascal := isPlain_toPascalCase mapping plain
  rw [toCamelCase]
  generalize toPascalCase mapping name = words at pascal ⊢
  cases words with
  | nil => exact pascal
  | cons first rest =>
      obtain ⟨firstPlain, restPlain⟩ := List.forall_mem_cons.mp pascal
      refine IsPlain.append ?_ restPlain
      split
      · exact isPlain_of_letters firstPlain (mapping.lowerLetters first)
      · exact List.forall_mem_singleton.mpr firstPlain

-----------------------------------------------------------------------------------------
-- The parts with plain names
-----------------------------------------------------------------------------------------

variable {mapping : CaseMapping} {spec other : ContractSpec} {className coreImport : Text}

/-- The interface of plain arguments is plain. -/
theorem isPlain_generateArgsInterface {fn : SpecFunction} (name : IsPlain fn.name)
    (inputs : ∀ p ∈ fn.inputs, IsPlain p.name ∧ IsPlain p.type)
    : IsPlain (generateArgsInterface mapping fn) := by
  have interfaceName := isPlain_toPascalCase mapping name
  have lines := isPlain_fields inputs
  rw [generateArgsInterface]
  split
  · nofun
  · repeat' apply IsPlain.append
    all_goals first | assumption | decide

/-- A call of a helper with a plain argument is plain. -/
theorem isPlain_helper {name argument : Text} (namePlain : IsPlain name)
    (argumentPlain : IsPlain argument)
    : IsPlain (Expression.helper name argument).toText := by
  repeat' apply IsPlain.append
  all_goals first | assumption | decide

/-- The encoded arguments are plain if their names are. -/
theorem isPlain_argsArray {fn : SpecFunction} (inputs : ∀ p ∈ fn.inputs, IsPlain p.name)
    : IsPlain (argsArray fn) := by
  rw [argsArray]
  split
  · have encoded : ∀ text ∈ (encodedArgs fn).map Expression.toText, IsPlain text := by
      intro text member
      obtain ⟨expression, isEncoded, rfl⟩ := List.mem_map.mp member
      obtain ⟨p, isInput, rfl⟩ := List.mem_map.mp isEncoded
      have namePlain := inputs p isInput
      have argument : IsPlain ("args.".toList ++ p.name) :=
        (by decide : IsPlain "args.".toList).append namePlain
      have conversion : IsPlain (Expression.nativeToScVal ("args.".toList ++ p.name)).toText := by
        repeat' apply IsPlain.append
        all_goals first | assumption | decide
      unfold encodeExpr
      split_ifs
      all_goals first | exact conversion | exact isPlain_helper (by decide) argument
    have joined := isPlain_join (by decide : IsPlain ",\n      ".toList) encoded
    repeat' apply IsPlain.append
    all_goals first | assumption | decide
  · decide

/-- The expression for a result is plain. -/
theorem isPlain_decodedResult (fn : SpecFunction) : IsPlain (decodedResult fn).toText := by
  rw [decodedResult]
  split
  · unfold decodeExpr
    split_ifs <;> decide
  · decide

/-- The parameter of a method with a plain name is plain. -/
theorem isPlain_paramSig (mapping : CaseMapping) {fn : SpecFunction} (name : IsPlain fn.name)
    : IsPlain (paramSig mapping fn) := by
  have isInterface := isPlain_toPascalCase mapping name
  rw [paramSig]
  split
  · simp only [argsInterfaceName, isPlain_append, isInterface, true_and]
    decide
  · nofun

/-- The type of a method with plain results is plain. -/
theorem isPlain_promiseReturn {fn : SpecFunction}
    (outputs : ∀ output ∈ fn.outputs, IsPlain output.type)
    : IsPlain (promiseReturn fn) := by
  have result : IsPlain (returnTs fn) := by
    rw [returnTs]
    split
    · rename_i output rest shape
      exact outputs output (shape ▸ List.mem_cons_self)
    · decide
  rw [promiseReturn]
  split
  · simp only [isPlain_append, result, and_true]
    decide
  · decide

/-- The first line of a method with plain names is plain. -/
theorem isPlain_methodSignature (mapping : CaseMapping) {fn : SpecFunction} (name : IsPlain fn.name)
    (outputs : ∀ output ∈ fn.outputs, IsPlain output.type)
    : IsPlain (methodSignature mapping fn) := by
  have isMethod : IsPlain (methodName mapping fn) := isPlain_toCamelCase mapping name
  have params := isPlain_paramSig mapping name
  have result := isPlain_promiseReturn outputs
  unfold methodSignature
  simp only [isPlain_append, isMethod, params, result, and_true]
  decide

/-- The only quotes in the call of the contract are those around the name of the function. -/
theorem contractCall_shape (fn : SpecFunction) (inputs : ∀ p ∈ fn.inputs, IsPlain p.name)
    : ∃ front back,
        IsPlain front
        ∧ IsPlain back
        ∧ (contractCall fn).toText = front ++ ('"' :: (fn.name ++ ['"'])) ++ back := by
  have args := isPlain_argsArray inputs
  have helperPlain : IsPlain (if fn.isReadonly then "query".toList else "invoke".toList) := by
    split <;> decide
  refine
    ⟨"this.".toList ++ (if fn.isReadonly then "query".toList else "invoke".toList) ++ "(".toList,
    ", ".toList ++ argsArray fn ++ ")".toList, ?_, ?_, ?_⟩
  · repeat' apply IsPlain.append
    all_goals first | assumption | decide
  · repeat' apply IsPlain.append
    all_goals first | assumption | decide
  · have quote : "\"".toList = ['"'] := rfl
    have comma : "\", ".toList = ['"'] ++ ", ".toList := rfl
    unfold contractCall Expression.toText
    simp only [quote, comma, List.append_assoc, List.cons_append, List.nil_append]

/-- A line of a method around the call of the contract is self-contained. -/
theorem isSelfContained_of_call {fn : SpecFunction} {front back : Text} (frontPlain : IsPlain front)
    (name : IsPlain fn.name) (oneLine : ∀ character ∈ fn.name, character ∉ ['\n', '\r'])
    (inputs : ∀ p ∈ fn.inputs, IsPlain p.name) (backPlain : IsPlain back)
    : IsSelfContained (front ++ (contractCall fn).toText ++ back ++ ['\n']) := by
  obtain ⟨callFront, callBack, callFrontPlain, callBackPlain, shape⟩ := contractCall_shape fn inputs
  have whole := isSelfContained_of_quoted (frontPlain.append callFrontPlain) name oneLine
    (callBackPlain.append backPlain)
  rw [shape]
  simpa only [List.append_assoc] using whole

/-- A method with plain names is self-contained. -/
theorem isSelfContained_methodBody {fn : SpecFunction} (name : IsPlain fn.name)
    (oneLine : ∀ character ∈ fn.name, character ∉ ['\n', '\r'])
    (inputs : ∀ p ∈ fn.inputs, IsPlain p.name)
    (outputs : ∀ output ∈ fn.outputs, IsPlain output.type)
    : IsSelfContained (methodBody mapping fn ++ ['\n']) := by
  have signature := isPlain_methodSignature mapping name outputs
  have result := isPlain_decodedResult fn
  rw [methodBody]
  split
  · have front : IsPlain (methodSignature mapping fn ++ "    const _result = await ".toList) :=
      signature.append (by decide)
    have back
        : IsPlain
            (";\n".toList
              ++ (("    return ".toList ++ (decodedResult fn).toText ++ ";\n".toList)
                ++ "  \x7d\n".toList)) := by
      simp only [isPlain_append, result, and_true]
      decide
    simpa only [List.append_assoc] using isSelfContained_of_call front name oneLine inputs back
  · have front : IsPlain (methodSignature mapping fn ++ "    return ".toList) :=
      signature.append (by decide)
    have back : IsPlain (";\n".toList ++ "  \x7d\n".toList) := by decide
    simpa only [List.append_assoc] using isSelfContained_of_call front name oneLine inputs back

/-- The lines of the class are plain if its name is. -/
theorem isPlain_classLines (plain : IsPlain className)
    : ∀ line ∈ classLines className, IsPlain line := by
  have first
      : IsPlain ("export class ".toList ++ className ++ " extends BaseContract \x7b".toList) := by
    repeat' apply IsPlain.append
    all_goals first | assumption | decide
  exact List.forall_mem_cons.mpr ⟨first, by decide⟩

/-- The parts of a contract with plain names are self-contained. -/
theorem isSelfContained_generatedParts (mapping : CaseMapping)
    (plain : HasPlainNames spec className coreImport)
    : ∀ part ∈ generatedParts mapping spec className, IsSelfContained part.code := by
  unfold generatedParts
  simp only [List.forall_mem_append, List.forall_mem_map, List.forall_mem_singleton]
  refine ⟨⟨⟨⟨⟨fun s isStruct => ?_, fun e isEnum => ?_⟩, fun line isArgs => ?_⟩,
    fun line isClass => ?_⟩, fun fn isFunction => ?_⟩, ?_⟩
  · obtain ⟨name, fields⟩ := plain.structs s isStruct
    exact isSelfContained_of_plain (isPlain_structBody name fields)
  · obtain ⟨name, cases_⟩ := plain.enums e isEnum
    exact isSelfContained_of_plain (isPlain_enumBody name cases_)
  · obtain ⟨fn, isFunction, rfl⟩ := List.mem_map.mp (List.mem_filter.mp isArgs).1
    obtain ⟨name, _, inputs, _⟩ := plain.functions fn isFunction
    exact isSelfContained_of_plain (isPlain_generateArgsInterface name inputs)
  · exact isSelfContained_of_plain (isPlain_classLines plain.className line isClass)
  · obtain ⟨name, oneLine, inputs, outputs⟩ := plain.functions fn isFunction
    exact isSelfContained_methodBody name oneLine (fun p member => (inputs p member).1) outputs
  · exact isSelfContained_of_plain (by decide)

/-- The comment of a struct or an enumeration is closed. -/
theorem isClosed_docLine (doc : Text) : IsClosed (docLine doc) := by
  rw [docLine]
  split
  · exact .inl rfl
  · exact .inr ⟨_, rfl⟩

/-- The comment of a method is closed. -/
theorem isClosed_docBlock (doc : Text) : IsClosed (docBlock doc) := by
  rw [docBlock]
  split
  · exact .inl rfl
  · refine .inr ⟨"  /**\n   * ".toList ++ indentLines doc ++ "\n  ".toList, ?_⟩
    simp

/-- The comments of all parts are closed. -/
theorem isClosed_generatedParts
    : ∀ part ∈ generatedParts mapping spec className, IsClosed part.comment := by
  unfold generatedParts
  simp only [List.forall_mem_append, List.forall_mem_map, List.forall_mem_singleton]
  exact ⟨⟨⟨⟨⟨fun s _ => isClosed_docLine s.doc, fun e _ => isClosed_docLine e.doc⟩,
    fun _ _ => .inl rfl⟩, fun _ _ => .inl rfl⟩, fun fn _ => isClosed_docBlock fn.doc⟩, .inl rfl⟩

/-- The comments of all parts are read away exactly if those of the documentation are. -/
theorem readsAway_generatedParts_iff
    : (∀ part ∈ generatedParts mapping spec className, ReadsAway part.comment)
      ↔ DocsReadAway spec := by
  unfold generatedParts
  simp only [List.forall_mem_append, List.forall_mem_map, List.forall_mem_singleton]
  constructor
  · rintro ⟨⟨⟨⟨⟨structs, enums⟩, _⟩, _⟩, functions⟩, _⟩
    exact ⟨functions, structs, enums⟩
  · rintro ⟨functions, structs, enums⟩
    exact ⟨⟨⟨⟨⟨structs, enums⟩, fun _ _ => rfl⟩, fun _ _ => rfl⟩, functions⟩, rfl⟩

/-- The first lines of a generated file, up to the path of the last import. -/
def headerFront : Text :=
  "// Auto-generated by axionvera-cli codegen. DO NOT EDIT.".toList ++ ['\n']
    ++ ("// Re-run \x60axionvera-cli codegen <contract.wasm>\x60 to regenerate.\n".toList ++ ['\n'])
    ++ ("import { nativeToScVal } from \"@stellar/stellar-sdk\";".toList ++ ['\n'])
    ++ "import { BaseContract, BaseContractConfig } from ".toList

/-- The first lines of a generated file around the path of the last import. -/
theorem header_eq (coreImport : Text)
    : header coreImport
      = headerFront ++ ('"' :: (coreImport ++ "/contracts/BaseContract".toList ++ ['"']))
        ++ ";\n".toList ++ ['\n'] := by
  have opens
      : "import { BaseContract, BaseContractConfig } from \"".toList
        = "import { BaseContract, BaseContractConfig } from ".toList ++ ['"'] :=
    rfl
  have closes
      : "/contracts/BaseContract\";\n".toList
        = "/contracts/BaseContract".toList ++ ['"'] ++ ";\n".toList :=
    rfl
  unfold header headerLines headerFront
  rw [opens, closes]
  simp only [List.flatMap_cons, List.flatMap_nil, List.append_assoc, List.append_nil,
    List.cons_append, List.nil_append]

/-- The first lines of a generated file lead behind a blank. -/
theorem read_header (within : ∀ character ∈ coreImport, character ∉ ['"', '\\', '\n', '\r'])
    : (behindBlank.read (header coreImport)).1 = behindBlank := by
  have frontInCode : (behindBlank.read headerFront).1.mode = .code := by
    decide +kernel
  have pathWithin
      : ∀ character ∈ coreImport ++ "/contracts/BaseContract".toList,
          character ∉ ['"', '\\', '\n', '\r'] :=
    List.forall_mem_append.mpr ⟨within, forall_mem_of_all (by decide)⟩
  rw [header_eq]
  exact behindBlank_of_quoted frontInCode pathWithin (by decide)

-----------------------------------------------------------------------------------------
-- Documentation without the end of a comment
-----------------------------------------------------------------------------------------

/-- In a comment, text without the end of a comment is read away, also with its lines indented, by
induction on it.
-/
theorem read_inComment {doc : Text} {mode : ReadingMode} (expand : Char → Text)
    (expands
      : ∀ character, expand character = [character]
          ∨ character = '\n' ∧ expand character = "\n   * ".toList)
    (inComment : mode = .blockComment ∨ mode = .star ∧ doc.head? ≠ some '/')
    (noEnd : ¬ ['*', '/'] <:+: doc)
    : ∃ final,
        (final = .blockComment ∨ final = .star)
        ∧ ({ mode, blank := true } : CommentReader).read (doc.flatMap expand)
          = ({ mode := final, blank := true }, []) := by
  induction doc generalizing mode with
  | nil => exact ⟨mode, inComment.imp_right And.left, rfl⟩
  | cons character rest ih =>
      have noEndLater : ¬ ['*', '/'] <:+: rest := fun later => noEnd (List.infix_cons later)
      -- A star is no end if no slash follows it.
      have noSlashNext : character = '*' → rest.head? ≠ some '/' := by
        rintro rfl isSlash
        obtain ⟨others, rfl⟩ : ∃ others, rest = '/' :: others := by
          cases rest with
          | nil => cases isSlash
          | cons next others => exact ⟨others, by rw [Option.some.inj isSlash]⟩
        exact noEnd ⟨[], others, rfl⟩
      have oneStep
          : ∃ next,
              (next = .blockComment ∨ next = .star ∧ rest.head? ≠ some '/')
              ∧ ({ mode, blank := true } : CommentReader).read (expand character)
                = ({ mode := next, blank := true }, []) := by
        rcases expands character with same | ⟨rfl, indented⟩
        · rw [same]
          rcases inComment with rfl | ⟨rfl, noSlash⟩
          · by_cases isStar : character = '*'
            · exact ⟨.star, .inr ⟨rfl, noSlashNext isStar⟩,
                by simp [CommentReader.read, readCharacter, isStar]⟩
            · exact ⟨.blockComment, .inl rfl, by simp [CommentReader.read, readCharacter, isStar]⟩
          · have notSlash : character ≠ '/' := fun isSlash => noSlash (by rw [isSlash]; rfl)
            by_cases isStar : character = '*'
            · exact ⟨.star, .inr ⟨rfl, noSlashNext isStar⟩,
                by simp [CommentReader.read, readCharacter, isStar]⟩
            · exact ⟨.blockComment, .inl rfl,
                by simp [CommentReader.read, readCharacter, isStar, notSlash]⟩
        · rw [indented]
          rcases inComment with rfl | ⟨rfl, _⟩ <;> exact ⟨.blockComment, .inl rfl, by decide⟩
      obtain ⟨next, nextInComment, isRead⟩ := oneStep
      obtain ⟨final, finalInComment, later⟩ := ih nextInComment noEndLater
      refine ⟨final, finalInComment, ?_⟩
      rw [List.flatMap_cons, read_append, isRead, later]
      rfl

/-- Documentation without the end of a comment is read away. -/
theorem docsReadAway_of_noEnd
    (functions : ∀ fn ∈ spec.functions, ¬ ['*', '/'] <:+: fn.doc)
    (structs : ∀ s ∈ spec.structs, ¬ ['*', '/'] <:+: s.doc)
    (enums : ∀ e ∈ spec.enums, ¬ ['*', '/'] <:+: e.doc)
    : DocsReadAway spec := by
  have line {doc : Text} (noEnd : ¬ ['*', '/'] <:+: doc) : ReadsAway (docLine doc) := by
    rw [docLine]
    split
    · rfl
    · obtain ⟨final, inComment, isRead⟩ :=
        read_inComment ([·]) (fun character => .inl rfl) (.inl rfl) noEnd
      rw [List.flatMap_singleton'] at isRead
      have opens
          : behindBlank.read "/** ".toList = ({ mode := .blockComment, blank := true }, []) := by
        decide
      rw [ReadsAway, read_append, read_append, opens, isRead]
      rcases inComment with rfl | rfl <;> decide
  have block {doc : Text} (noEnd : ¬ ['*', '/'] <:+: doc) : ReadsAway (docBlock doc) := by
    rw [docBlock]
    split
    · rfl
    · obtain ⟨final, inComment, isRead⟩ :=
        read_inComment
          (fun character => if character = '\n' then "\n   * ".toList else [character])
          (fun character => by by_cases isLine : character = '\n' <;> simp [isLine])
          (.inl rfl) noEnd
      have opens
          : behindBlank.read "  /**\n   * ".toList
            = ({ mode := .blockComment, blank := true }, []) := by
        decide
      rw [ReadsAway, read_append, read_append, opens, indentLines, isRead]
      rcases inComment with rfl | rfl <;> decide
  exact ⟨fun fn isFunction => block (functions fn isFunction),
    fun s isStruct => line (structs s isStruct), fun e isEnum => line (enums e isEnum)⟩

/-- The sources that are generated for two contracts which differ only in their documentation are
the same without comments, if the documentation of one of them is read away, exactly if that of the
other is.
-/
theorem generateContractClass_documentation_iff (mapping : CaseMapping)
    (spec other : ContractSpec) (className coreImport : Text)
    (sameExceptDocs : spec.withoutDocs = other.withoutDocs)
    (plain : HasPlainNames spec className coreImport) (othersReadAway : DocsReadAway other)
    : removeComments (generateContractClass mapping spec className coreImport)
          = removeComments (generateContractClass mapping other className coreImport)
      ↔ DocsReadAway spec := by
  rw [generateContractClass_eq, generateContractClass_eq]
  exact (removeComments_eq_iff (read_header plain.coreImport)
    (map_code_generatedParts sameExceptDocs) (isSelfContained_generatedParts mapping plain)
    isClosed_generatedParts (readsAway_generatedParts_iff.mpr othersReadAway)).trans
    readsAway_generatedParts_iff

/-- A contract with one struct, which has a documentation. -/
def documentedStruct (doc : Text) : ContractSpec where
  functions := []
  structs := [{ name := "Config".toList, doc, fields := [] }]
  enums := []

/-- A struct with a documentation and one without are generated alike. -/
theorem generateContractClass_documentation_iff_documentedStruct
    : removeComments
          (generateContractClass asciiCase (documentedStruct "The settings.".toList) "Token".toList
            "@axionvera/core".toList)
        = removeComments
          (generateContractClass asciiCase (documentedStruct []) "Token".toList
            "@axionvera/core".toList)
      ↔ DocsReadAway (documentedStruct "The settings.".toList) := by
  apply generateContractClass_documentation_iff
  · rfl
  · exact {
      className := by decide
      coreImport := forall_mem_of_all (by decide)
      functions := nofun
      structs := by simp [documentedStruct]; decide
      enums := nofun
    }
  · exact docsReadAway_of_noEnd nofun (by simp [documentedStruct]) nofun

/-- A documentation that ends its comment adds a statement to the generated code. -/
theorem not_documentationIndependent
    : (documentedStruct "*/ run(); /*".toList).withoutDocs = (documentedStruct []).withoutDocs
      ∧ removeComments
            (generateContractClass asciiCase (documentedStruct "*/ run(); /*".toList) "Token".toList
              "@axionvera/core".toList)
          ≠ removeComments
            (generateContractClass asciiCase (documentedStruct []) "Token".toList
              "@axionvera/core".toList) := by
  refine ⟨rfl, ?_⟩
  decide +kernel

end Axionvera.Codegen
