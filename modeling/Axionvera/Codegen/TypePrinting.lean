import Axionvera.Codegen.SpecTypes
import Axionvera.Foundation.TypeScriptTypes

/-! What the printed types denote. A printed option is a union without parentheses around it, so
the `[]` of a vector of options belongs to `undefined` alone.
-/

namespace Axionvera.Codegen

open Axionvera.Foundation

/-- The type that a type without parts stands for. -/
def simpleTranslation : ScSpecType → TsType
  | .bool => .keyword "boolean"
  | .void => .keyword "void"
  | .error | .u32 | .i32 => .keyword "number"
  | .u64 | .i64 | .u128 | .i128 | .u256 | .i256 => .keyword "bigint"
  | .bytes => .reference ["Buffer"]
  | .string | .symbol | .address => .keyword "string"
  | .val | .timepoint | .duration | .muxedAddress => .reference ["xdr", "ScVal"]

mutual
/-- The compositional translation of a type. -/
def translation : ScSpecTypeDef → TsType
  | .simple type => simpleTranslation type
  | .option valueType => .union (translation valueType) (.keyword "undefined")
  | .vec elementType => .array (translation elementType)
  | .map keyType valueType => .map (translation keyType) (translation valueType)
  | .tuple valueTypes => .tuple (translations valueTypes)
  | .udt name => .reference [name]
  | .result _ _ | .bytesN _ => .reference ["xdr", "ScVal"]

/-- The translations of the types of a tuple. -/
def translations : List ScSpecTypeDef → List TsType
  | [] => []
  | valueType :: valueTypes => translation valueType :: translations valueTypes
end

/-- The type is an option. -/
def ScSpecTypeDef.isOption : ScSpecTypeDef → Bool
  | .option _ => true
  | _ => false

mutual
/-- (HasNoVectorOfOptions typeDef) requires that no vector has options as its elements. (What a
result contains is not printed.)
-/
def HasNoVectorOfOptions : ScSpecTypeDef → Prop
  | .vec elementType => elementType.isOption = false ∧ HasNoVectorOfOptions elementType
  | .option valueType => HasNoVectorOfOptions valueType
  | .map keyType valueType => HasNoVectorOfOptions keyType ∧ HasNoVectorOfOptions valueType
  | .tuple valueTypes => AllHaveNoVectorOfOptions valueTypes
  | .udt _ | .simple _ | .result _ _ | .bytesN _ => True

/-- The same of the types of a tuple. -/
def AllHaveNoVectorOfOptions : List ScSpecTypeDef → Prop
  | [] => True
  | valueType :: valueTypes => HasNoVectorOfOptions valueType ∧ AllHaveNoVectorOfOptions valueTypes
end

mutual
/-- (HasTypeNames characters typeDef) requires the names of user types to be names of types. -/
def HasTypeNames (characters : ScriptCharacters) : ScSpecTypeDef → Prop
  | .vec valueType | .option valueType => HasTypeNames characters valueType
  | .map keyType valueType => HasTypeNames characters keyType ∧ HasTypeNames characters valueType
  | .tuple valueTypes => AllHaveTypeNames characters valueTypes
  | .udt name => characters.isTypeName name = true
  | .simple _ | .result _ _ | .bytesN _ => True

/-- The same of the types of a tuple. -/
def AllHaveTypeNames (characters : ScriptCharacters) : List ScSpecTypeDef → Prop
  | [] => True
  | valueType :: valueTypes =>
      HasTypeNames characters valueType ∧ AllHaveTypeNames characters valueTypes
end

-----------------------------------------------------------------------------------------
-- The tokens of printed types

/-- The token of the text of a type without parts. -/
def simpleToken : ScSpecType → TypeToken
  | .bool => .name ["boolean"]
  | .void => .name ["void"]
  | .error | .u32 | .i32 => .name ["number"]
  | .u64 | .i64 | .u128 | .i128 | .u256 | .i256 => .name ["bigint"]
  | .bytes => .name ["Buffer"]
  | .string | .symbol | .address => .name ["string"]
  | .val | .timepoint | .duration | .muxedAddress => .name ["xdr", "ScVal"]

mutual
/-- The tokens of a printed type. -/
def printedTokens : ScSpecTypeDef → List TypeToken
  | .simple type => [simpleToken type]
  | .option valueType => printedTokens valueType ++ [.bar, .name ["undefined"]]
  | .vec elementType => printedTokens elementType ++ [.openBracket, .closeBracket]
  | .map keyType valueType =>
      [.name ["Map"], .less] ++ printedTokens keyType ++ [.comma] ++ printedTokens valueType
        ++ [.greater]
  | .tuple valueTypes => [.openBracket] ++ printedItems valueTypes ++ [.closeBracket]
  | .udt name => [.name [name]]
  | .result _ _ | .bytesN _ => [.name ["xdr", "ScVal"]]

/-- The tokens of the printed types of a tuple. -/
def printedItems : List ScSpecTypeDef → List TypeToken
  | [] => []
  | valueType :: [] => printedTokens valueType
  | valueType :: other :: valueTypes =>
      printedTokens valueType ++ [.comma] ++ printedItems (other :: valueTypes)
end

variable {characters : ScriptCharacters}

/-- A text that is read as some tokens before any text at which a name ends. -/
def IsReadAs (characters : ScriptCharacters) (text : List Char) (tokens : List TypeToken) : Prop :=
  ∀ rest,
    EndsName characters rest
    → tokenize characters [] [] (text ++ rest)
      = (tokenize characters [] [] rest).map (tokens ++ ·)

/-- A name is read as its token. -/
theorem isReadAs_name {name : String} (isIdentifier : characters.isIdentifier name = true)
    : IsReadAs characters name.toList [.name [name]] :=
  fun _ ends => tokenize_name isIdentifier ends

/-- A name of letters is read as its token. -/
theorem isReadAs_letters {name : String} (notEmpty : name.toList ≠ [])
    (letters : name.toList.all Char.isAlpha = true)
    : IsReadAs characters name.toList [.name [name]] :=
  isReadAs_name
    (ScriptCharacters.isIdentifier_of_isAlpha notEmpty (List.all_eq_true.mp letters))

/-- The type `xdr.ScVal` is read as a qualified name. -/
theorem isReadAs_scVal : IsReadAs characters "xdr.ScVal".toList [.name ["xdr", "ScVal"]] := by
  intro rest ends
  have isXdr : characters.isIdentifier "xdr" = true :=
    ScriptCharacters.isIdentifier_of_isAlpha (by decide) (List.all_eq_true.mp (by decide))
  have isScVal : characters.isIdentifier "ScVal" = true :=
    ScriptCharacters.isIdentifier_of_isAlpha (by decide) (List.all_eq_true.mp (by decide))
  have text : "xdr.ScVal".toList ++ rest = "xdr".toList ++ '.' :: ("ScVal".toList ++ rest) := rfl
  rw [text]
  exact tokenize_qualified isXdr isScVal ends

/-- A text of marks that are read as some tokens before any text. -/
def IsMark (characters : ScriptCharacters) (text : List Char) (tokens : List TypeToken) : Prop :=
  ∀ rest,
    EndsName characters (text ++ rest)
    ∧ tokenize characters [] [] (text ++ rest)
      = (tokenize characters [] [] rest).map (tokens ++ ·)

/-- A punctuation mark is read as its token. -/
theorem isMark_singleton {mark : Char} {tokens : List TypeToken} (ascii : mark.toNat < 128)
    (isOther : (mark.isAlphanum || mark = '_' || mark = '$') = false) (notDot : mark ≠ '.')
    (isRead : punctuation characters mark = some tokens)
    : IsMark characters [mark] tokens :=
  fun _ =>
    have ends : EndsName characters [mark] :=
      ⟨ScriptCharacters.part_eq_false ascii isOther, notDot⟩
    ⟨ends, tokenize_punctuation ends isRead⟩

/-- A blank is read as no token. -/
theorem isMark_blank : IsMark characters [' '] [] :=
  isMark_singleton (by decide) (by decide) (by decide)
    (by simp [punctuation, characters.white_blank])

/-- Tokens before tokens before others. -/
private theorem map_append_map (front back : List TypeToken) (later : Option (List TypeToken))
    : (later.map (back ++ ·)).map (front ++ ·) = later.map (front ++ back ++ ·) := by
  cases later with
  | none => rfl
  | some tokens => exact congrArg some (List.append_assoc front back tokens).symm

/-- Marks behind marks. -/
theorem IsMark.append {first second : List Char} {tokens others : List TypeToken}
    (isFirst : IsMark characters first tokens) (isSecond : IsMark characters second others)
    : IsMark characters (first ++ second) (tokens ++ others) := by
  intro rest
  rw [List.append_assoc]
  refine ⟨(isFirst _).1, ?_⟩
  rw [(isFirst _).2, (isSecond rest).2, map_append_map]

/-- A text behind marks. -/
theorem IsMark.append_text {mark text : List Char} {tokens others : List TypeToken}
    (isMark : IsMark characters mark tokens) (isText : IsReadAs characters text others)
    : IsReadAs characters (mark ++ text) (tokens ++ others) := by
  intro rest ends
  rw [List.append_assoc, (isMark _).2, isText rest ends, map_append_map]

/-- Marks behind a text. -/
theorem IsReadAs.append_mark {text mark : List Char} {tokens others : List TypeToken}
    (isText : IsReadAs characters text tokens) (isMark : IsMark characters mark others)
    : IsReadAs characters (text ++ mark) (tokens ++ others) := by
  intro rest _
  rw [List.append_assoc, isText _ (isMark rest).1, (isMark rest).2, map_append_map]

/-- A text behind another one and marks. -/
theorem IsReadAs.between {first mark second : List Char} {tokens others later : List TypeToken}
    (isFirst : IsReadAs characters first tokens) (isMark : IsMark characters mark others)
    (isSecond : IsReadAs characters second later)
    : IsReadAs characters (first ++ mark ++ second) (tokens ++ others ++ later) := by
  intro rest ends
  rw [List.append_assoc, List.append_assoc, isFirst _ (isMark _).1, ← List.append_assoc,
    isMark.append_text isSecond rest ends, map_append_map, List.append_assoc tokens]

/-- The texts of types without parts are read as their tokens. -/
theorem isReadAs_simple (type : ScSpecType)
    : IsReadAs characters (simpleTypeToTs type).ts.toList [simpleToken type] := by
  cases type
  case val | timepoint | duration | muxedAddress => exact isReadAs_scVal
  all_goals exact isReadAs_letters (by decide) (by decide)

/-- The marks between the parts of printed types are read as their tokens. -/
theorem isMark_printed (characters : ScriptCharacters)
    : IsMark characters " | ".toList [.bar]
      ∧ IsMark characters "[]".toList [.openBracket, .closeBracket]
      ∧ IsMark characters "[".toList [.openBracket]
      ∧ IsMark characters "]".toList [.closeBracket]
      ∧ IsMark characters "<".toList [.less]
      ∧ IsMark characters ">".toList [.greater]
      ∧ IsMark characters ", ".toList [.comma] := by
  have openBracket : IsMark characters ['['] [.openBracket] :=
    isMark_singleton (by decide) (by decide) (by decide) rfl
  have closeBracket : IsMark characters [']'] [.closeBracket] :=
    isMark_singleton (by decide) (by decide) (by decide) rfl
  have less : IsMark characters ['<'] [.less] :=
    isMark_singleton (by decide) (by decide) (by decide) rfl
  have greater : IsMark characters ['>'] [.greater] :=
    isMark_singleton (by decide) (by decide) (by decide) rfl
  have comma : IsMark characters [','] [.comma] :=
    isMark_singleton (by decide) (by decide) (by decide) rfl
  have bar : IsMark characters ['|'] [.bar] :=
    isMark_singleton (by decide) (by decide) (by decide) rfl
  exact
    ⟨(isMark_blank.append bar).append isMark_blank, openBracket.append closeBracket, openBracket,
      closeBracket, less, greater, comma.append isMark_blank⟩

mutual
/-- A printed type is read as its tokens, by induction on the type. -/
theorem isReadAs_printed {typeDef : ScSpecTypeDef} (named : HasTypeNames characters typeDef)
    : IsReadAs characters (scSpecTypeToTs typeDef).ts.toList (printedTokens typeDef) := by
  obtain ⟨bar, brackets, openBracket, closeBracket, less, greater, comma⟩ :=
    isMark_printed characters
  cases typeDef with
  | simple type => exact isReadAs_simple type
  | option valueType =>
      have undefined : IsReadAs characters "undefined".toList [.name ["undefined"]] :=
        isReadAs_letters (by decide) (by decide)
      have inner : HasTypeNames characters valueType := named
      have read := (isReadAs_printed inner).between bar undefined
      simpa [scSpecTypeToTs, printedTokens] using read
  | vec elementType =>
      have element : HasTypeNames characters elementType := named
      have read := (isReadAs_printed element).append_mark brackets
      simpa [scSpecTypeToTs, printedTokens] using read
  | map keyType valueType =>
      have isMap : IsReadAs characters "Map".toList [.name ["Map"]] :=
        isReadAs_letters (by decide) (by decide)
      have key := isMap.between less (isReadAs_printed named.1)
      have read := (key.between comma (isReadAs_printed named.2)).append_mark greater
      simpa [scSpecTypeToTs, printedTokens] using read
  | tuple valueTypes =>
      have read := (openBracket.append_text (isReadAs_items named)).append_mark closeBracket
      simpa [scSpecTypeToTs, printedTokens] using read
  | udt name =>
      have isName : characters.isIdentifier name = true := by
        have parts : characters.isTypeName name = true := named
        simp only [ScriptCharacters.isTypeName, Bool.and_eq_true] at parts
        exact parts.1.1
      exact isReadAs_name isName
  | result okType errorType => exact isReadAs_scVal
  | bytesN n => exact isReadAs_scVal

/-- The printed types of a tuple are read as their tokens, by induction on them. -/
theorem isReadAs_items {valueTypes : List ScSpecTypeDef}
    (named : AllHaveTypeNames characters valueTypes)
    : IsReadAs characters (", ".intercalate (valueTypesToTs valueTypes)).toList
        (printedItems valueTypes) := by
  match valueTypes, named with
  | [], _ =>
      intro rest _
      simp [valueTypesToTs, printedItems]
  | [valueType], named =>
      simpa [valueTypesToTs, printedItems] using isReadAs_printed named.1
  | valueType :: other :: others, named =>
      obtain ⟨_, _, _, _, _, _, comma⟩ := isMark_printed characters
      have read := (isReadAs_printed named.1).between comma (isReadAs_items named.2)
      simpa [valueTypesToTs, printedItems, String.intercalate_cons_cons] using read
end

-----------------------------------------------------------------------------------------
-- How the tokens are read

mutual
/-- What a printed type is read as: union members and the operand behind them. The brackets of a
vector belong to the last operand of its element type.
-/
def readingOf : ScSpecTypeDef → Option TsType × TsType
  | .simple type => (none, simpleTranslation type)
  | .option valueType =>
      (some (joined (readingOf valueType).1 (readingOf valueType).2), .keyword "undefined")
  | .vec elementType => ((readingOf elementType).1, .array (readingOf elementType).2)
  | .map keyType valueType =>
      (none,
        .map (joined (readingOf keyType).1 (readingOf keyType).2)
          (joined (readingOf valueType).1 (readingOf valueType).2))
  | .tuple valueTypes => (none, .tuple (readingsOf valueTypes))
  | .udt name => (none, .reference [name])
  | .result _ _ | .bytesN _ => (none, .reference ["xdr", "ScVal"])

/-- The types that the printed types of a tuple are read as. -/
def readingsOf : List ScSpecTypeDef → List TsType
  | [] => []
  | valueType :: valueTypes =>
      joined (readingOf valueType).1 (readingOf valueType).2 :: readingsOf valueTypes
end

/-- The type that a printed type is read as. -/
def readAs (typeDef : ScSpecTypeDef) : TsType :=
  joined (readingOf typeDef).1 (readingOf typeDef).2

/-- What the token of a name leads to at the beginning of a type. -/
theorem readAll_name {path : List String} {type : TsType}
    (isNamed : typeNamed characters path = some type)
    (outer : List (Option TsType × TypeContext))
    : TypeReader.readAll characters [.name path] (.start outer)
      = some ⟨outer, none, some type⟩ := by
  simp [TypeReader.readAll, TypeReader.read, TypeReader.start, isNamed]

/-- A word that is a type by itself names it. -/
theorem typeNamed_keyword {name : String} (isKeyword : name ∈ keywordTypes)
    : typeNamed characters [name] = some (.keyword name) :=
  if_pos isKeyword

/-- A name of letters that are no word of their own names a declared type. -/
theorem typeNamed_letters {name : String} (notEmpty : name.toList ≠ [])
    (letters : name.toList.all Char.isAlpha = true) (notKeyword : name ∉ keywordTypes)
    (notReserved : name ∉ reservedWords)
    : typeNamed characters [name] = some (.reference [name]) := by
  have isIdentifier : characters.isIdentifier name = true :=
    ScriptCharacters.isIdentifier_of_isAlpha notEmpty (List.all_eq_true.mp letters)
  simp [typeNamed, ScriptCharacters.isTypeName, notKeyword, notReserved, isIdentifier]

/-- The qualified name of `xdr.ScVal` names a declared type. -/
theorem typeNamed_scVal
    : typeNamed characters ["xdr", "ScVal"] = some (.reference ["xdr", "ScVal"]) := by
  have isXdr : characters.isIdentifier "xdr" = true :=
    ScriptCharacters.isIdentifier_of_isAlpha (by decide) (List.all_eq_true.mp (by decide))
  have isScVal : characters.isIdentifier "ScVal" = true :=
    ScriptCharacters.isIdentifier_of_isAlpha (by decide) (List.all_eq_true.mp (by decide))
  simp [typeNamed, isXdr, isScVal]

/-- The tokens of types without parts are read as these. -/
theorem readAll_simple (type : ScSpecType) (outer : List (Option TsType × TypeContext))
    : TypeReader.readAll characters [simpleToken type] (.start outer)
      = some ⟨outer, none, some (simpleTranslation type)⟩ := by
  cases type
  case val | timepoint | duration | muxedAddress => exact readAll_name typeNamed_scVal outer
  case bytes =>
    exact readAll_name (typeNamed_letters (by decide) (by decide) (by decide) (by decide)) outer
  all_goals exact readAll_name (typeNamed_keyword (by decide)) outer

mutual
/-- The tokens of a printed type are read as its reading at the beginning of a type, by induction
on it.
-/
theorem readAll_printed {typeDef : ScSpecTypeDef} (named : HasTypeNames characters typeDef)
    (outer : List (Option TsType × TypeContext))
    : TypeReader.readAll characters (printedTokens typeDef) (.start outer)
      = some ⟨outer, (readingOf typeDef).1, some (readingOf typeDef).2⟩ := by
  cases typeDef with
  | simple type => exact readAll_simple type outer
  | option valueType =>
      have undefined : typeNamed characters ["undefined"] = some (.keyword "undefined") :=
        typeNamed_keyword (by decide)
      have inner : HasTypeNames characters valueType := named
      rw [printedTokens, TypeReader.readAll_append, readAll_printed inner]
      simp [TypeReader.readAll, TypeReader.read, readingOf, undefined]
  | vec elementType =>
      have element : HasTypeNames characters elementType := named
      rw [printedTokens, TypeReader.readAll_append, readAll_printed element]
      simp [TypeReader.readAll, TypeReader.read, TypeReader.start, readingOf]
  | map keyType valueType =>
      have isMap : typeNamed characters ["Map"] = some (.reference ["Map"]) :=
        typeNamed_letters (by decide) (by decide) (by decide) (by decide)
      have opened
          : TypeReader.readAll characters [.name ["Map"], .less] (.start outer)
            = some (.start ((none, .arguments []) :: outer)) := by
        simp [TypeReader.readAll, TypeReader.read, TypeReader.start, isMap]
      rw [printedTokens, TypeReader.readAll_append, TypeReader.readAll_append,
        TypeReader.readAll_append, TypeReader.readAll_append, opened, Option.bind_some,
        readAll_printed named.1, Option.bind_some]
      have parted
          : TypeReader.readAll characters [.comma]
              ⟨(none, .arguments []) :: outer, (readingOf keyType).1, some (readingOf keyType).2⟩
            = some
                (.start
                  ((none, .arguments [joined (readingOf keyType).1 (readingOf keyType).2])
                    :: outer)) := by
        simp [TypeReader.readAll, TypeReader.read]
      rw [parted, Option.bind_some, readAll_printed named.2]
      simp [TypeReader.readAll, TypeReader.read, readingOf]
  | tuple valueTypes =>
      have opened
          : TypeReader.readAll characters [.openBracket] (.start outer)
            = some (.start ((none, .tuple []) :: outer)) := by
        simp [TypeReader.readAll, TypeReader.read, TypeReader.start]
      rw [printedTokens, List.append_assoc, TypeReader.readAll_append, opened, Option.bind_some,
        readAll_items named outer none []]
      rfl
  | udt name =>
      have isName : characters.isTypeName name = true := named
      have notKeyword : name ∉ keywordTypes := by
        simp only [ScriptCharacters.isTypeName, Bool.and_eq_true, decide_eq_true_eq] at isName
        exact isName.1.2
      have isNamed : typeNamed characters [name] = some (.reference [name]) := by
        simp [typeNamed, notKeyword, isName]
      exact readAll_name isNamed outer
  | result okType errorType => exact readAll_name typeNamed_scVal outer
  | bytesN n => exact readAll_name typeNamed_scVal outer

/-- The tokens of the printed types of a tuple are read as items behind those read before, by
induction on them; without any there are none before.
-/
theorem readAll_items {valueTypes : List ScSpecTypeDef}
    (named : AllHaveTypeNames characters valueTypes)
    (outer : List (Option TsType × TypeContext)) (before : Option TsType) (items : List TsType)
    (isOpen : valueTypes = [] → items = [] := by exact fun _ => rfl)
    : TypeReader.readAll characters (printedItems valueTypes ++ [.closeBracket])
        (.start ((before, .tuple items) :: outer))
      = some ⟨outer, before, some (.tuple (items ++ readingsOf valueTypes))⟩ := by
  match valueTypes, named with
  | [], _ =>
      obtain rfl := isOpen rfl
      simp [printedItems, TypeReader.readAll, TypeReader.read, TypeReader.start, readingsOf]
  | [valueType], named =>
      rw [printedItems, TypeReader.readAll_append, readAll_printed named.1]
      simp [TypeReader.readAll, TypeReader.read, readingsOf]
  | valueType :: other :: others, named =>
      have parted
          : TypeReader.readAll characters [.comma]
              ⟨(before, .tuple items) :: outer, (readingOf valueType).1,
                some (readingOf valueType).2⟩
            = some
                (.start
                  ((before,
                      .tuple (items ++ [joined (readingOf valueType).1 (readingOf valueType).2]))
                    :: outer)) := by
        simp [TypeReader.readAll, TypeReader.read]
      rw [printedItems, List.append_assoc, List.append_assoc, TypeReader.readAll_append,
        readAll_printed named.1, Option.bind_some, TypeReader.readAll_append, parted,
        Option.bind_some, readAll_items named.2 outer before _ (fun isNil => nomatch isNil)]
      simp [readingsOf]
end

end Axionvera.Codegen
