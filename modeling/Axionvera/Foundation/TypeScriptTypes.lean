import Axionvera.Foundation.AsciiCharacter
import Mathlib.Data.Set.Basic

/-! The part of TypeScript's grammar of types that has names, arrays, tuples, maps, unions and
parentheses: how a text is read, and which values a type has. A postfix `[]` binds tighter than
`|`.
-/

namespace Axionvera.Foundation

/-- A type. The names of a reference are those of a qualified name. -/
inductive TsType where
  | keyword (name : String)
  | reference (path : List String)
  | array (element : TsType)
  | tuple (items : List TsType)
  | map (key value : TsType)
  | union (left right : TsType)

/-- The names of types that have values of their own. -/
inductive TypeName where
  | keyword (name : String)
  | reference (path : List String)
  deriving DecidableEq

/-- Values, as far as these types tell them apart. -/
inductive TsValue where
  | undefined
  | member (type : TypeName) (which : Nat)
  | array (items : List TsValue)
  | map (keys values : List TsValue)

mutual
/-- The value has the type. -/
def TsType.hasValue : TsType → TsValue → Prop
  | .keyword name, value =>
      if name = "undefined" then value = .undefined
      else ∃ which, value = .member (.keyword name) which
  | .reference path, value => ∃ which, value = .member (.reference path) which
  | .array element, value =>
      ∃ items, value = .array items ∧ ∀ item ∈ items, element.hasValue item
  | .tuple items, value => ∃ values, value = .array values ∧ TsType.haveValues items values
  | .map key value, entries =>
      ∃ keys values,
        entries = .map keys values
        ∧ keys.length = values.length
        ∧ (∀ found ∈ keys, key.hasValue found)
        ∧ ∀ found ∈ values, value.hasValue found
  | .union left right, value => left.hasValue value ∨ right.hasValue value

/-- The values have the types, one by one. -/
def TsType.haveValues : List TsType → List TsValue → Prop
  | [], values => values = []
  | type :: types, values =>
      ∃ value others,
        values = value :: others ∧ type.hasValue value ∧ TsType.haveValues types others
end

/-- The values of a type. -/
def TsType.values (type : TsType) : Set TsValue :=
  { value | type.hasValue value }

-----------------------------------------------------------------------------------------
-- Characters and names

/-- The characters of identifiers, of which the ones of ASCII are known, and white space. -/
structure ScriptCharacters where
  start : Char → Bool
  part : Char → Bool
  white : Char → Bool
  part_of_start : ∀ character, start character = true → part character = true
  start_ascii
    : ∀ character,
        character.toNat < 128
        → start character = (character.isAlpha || character = '_' || character = '$')
  part_ascii
    : ∀ character,
        character.toNat < 128
        → part character = (character.isAlphanum || character = '_' || character = '$')
  white_blank : white ' ' = true

/-- The characters of ASCII, with the blank as the only white space. -/
def ScriptCharacters.ascii : ScriptCharacters where
  start character := character.isAlpha || character = '_' || character = '$'
  part character := character.isAlphanum || character = '_' || character = '$'
  white character := character = ' '
  part_of_start character isStart := by
    simp only [Bool.or_eq_true, Char.isAlphanum] at isStart ⊢
    exact isStart.imp_left (Or.imp_left .inl)
  start_ascii _ _ := rfl
  part_ascii _ _ := rfl
  white_blank := rfl

/-- An identifier. -/
def ScriptCharacters.isIdentifier (characters : ScriptCharacters) (name : String) : Bool :=
  match name.toList with
  | [] => false
  | first :: rest => characters.start first && rest.all characters.part

/-- The words that are types by themselves. -/
def keywordTypes : List String :=
  ["any", "unknown", "never", "void", "undefined", "null", "boolean", "true", "false", "number",
    "bigint", "string", "symbol", "object", "this"]

/-- The words that are no names of types. -/
def reservedWords : List String :=
  ["break", "case", "catch", "class", "const", "continue", "debugger", "default", "delete", "do",
    "else", "enum", "export", "extends", "finally", "for", "function", "if", "import", "in",
    "instanceof", "new", "return", "super", "switch", "throw", "try", "typeof", "var", "while",
    "with", "implements", "interface", "let", "package", "private", "protected", "public", "static",
    "yield", "keyof", "unique", "readonly", "infer"]

/-- A name that a declared type can have. -/
def ScriptCharacters.isTypeName (characters : ScriptCharacters) (name : String) : Bool :=
  characters.isIdentifier name && name ∉ keywordTypes && name ∉ reservedWords

/-- The type of a name. -/
def typeNamed (characters : ScriptCharacters) : List String → Option TsType
  | [name] =>
      if name ∈ keywordTypes then some (.keyword name)
      else if characters.isTypeName name then some (.reference [name])
      else none
  | path => if path.all characters.isIdentifier then some (.reference path) else none

-----------------------------------------------------------------------------------------
-- Tokens

/-- The tokens of types. -/
inductive TypeToken where
  | name (path : List String)
  | openBracket
  | closeBracket
  | openParenthesis
  | closeParenthesis
  | less
  | greater
  | comma
  | bar
  deriving DecidableEq, Repr

/-- The token of a character that is not part of a name; white space has none. -/
def punctuation (characters : ScriptCharacters) (character : Char) : Option (List TypeToken) :=
  if character = '[' then some [.openBracket]
  else if character = ']' then some [.closeBracket]
  else if character = '(' then some [.openParenthesis]
  else if character = ')' then some [.closeParenthesis]
  else if character = '<' then some [.less]
  else if character = '>' then some [.greater]
  else if character = ',' then some [.comma]
  else if character = '|' then some [.bar]
  else if characters.white character then some []
  else none

/-- The token of a name that has been read, if any. -/
def finished (path : List String) (letters : List Char) : List TypeToken :=
  if path = [] ∧ letters = [] then [] else [.name (path ++ [.ofList letters])]

/-- The tokens of a text, behind a part of a name that has been read. -/
def tokenize (characters : ScriptCharacters) (path : List String) (letters : List Char)
    : List Char → Option (List TypeToken)
  | [] => some (finished path letters)
  | character :: rest =>
      if characters.part character then
        tokenize characters path (letters ++ [character]) rest
      else if character = '.' then
        tokenize characters (path ++ [.ofList letters]) [] rest
      else do
        let tokens ← punctuation characters character
        let others ← tokenize characters [] [] rest
        return finished path letters ++ tokens ++ others

-----------------------------------------------------------------------------------------
-- The reader

/-- What is open around a place: brackets behind an element type, a tuple with its first items,
the arguments of `Map`, or parentheses.
-/
inductive TypeContext where
  | suffix (element : TsType)
  | tuple (items : List TsType)
  | arguments (items : List TsType)
  | parentheses

/-- The state of the reader: what is open, each with the union members before it; and the union
members and the operand behind them that have been read since.
-/
structure TypeReader where
  outer : List (Option TsType × TypeContext)
  members : Option TsType
  operand : Option TsType

/-- The reader at the beginning of a type. -/
def TypeReader.start (outer : List (Option TsType × TypeContext)) : TypeReader :=
  ⟨outer, none, none⟩

/-- The union of the members read and the operand behind them. -/
def joined (members : Option TsType) (operand : TsType) : TsType :=
  match members with
  | none => operand
  | some left => .union left operand

/-- Read one token. -/
def TypeReader.read (characters : ScriptCharacters) (state : TypeReader) (token : TypeToken)
    : Option TypeReader :=
  match token, state.members, state.operand, state.outer with
  | .name path, members, none, outer =>
      (typeNamed characters path).map fun type => ⟨outer, members, some type⟩
  | .openBracket, members, none, outer => some (.start ((members, .tuple []) :: outer))
  | .openBracket, members, some element, outer =>
      some (.start ((members, .suffix element) :: outer))
  | .closeBracket, none, none, (before, .suffix element) :: outer =>
      some ⟨outer, before, some (.array element)⟩
  | .closeBracket, none, none, (before, .tuple []) :: outer =>
      some ⟨outer, before, some (.tuple [])⟩
  | .closeBracket, members, some operand, (before, .tuple items) :: outer =>
      some ⟨outer, before, some (.tuple (items ++ [joined members operand]))⟩
  | .comma, members, some operand, (before, .tuple items) :: outer =>
      some (.start ((before, .tuple (items ++ [joined members operand])) :: outer))
  | .less, members, some (.reference path), outer =>
      if path = ["Map"] then some (.start ((members, .arguments []) :: outer)) else none
  | .comma, members, some operand, (before, .arguments items) :: outer =>
      some (.start ((before, .arguments (items ++ [joined members operand])) :: outer))
  | .greater, members, some operand, (before, .arguments [key]) :: outer =>
      some ⟨outer, before, some (.map key (joined members operand))⟩
  | .openParenthesis, members, none, outer => some (.start ((members, .parentheses) :: outer))
  | .closeParenthesis, members, some operand, (before, .parentheses) :: outer =>
      some ⟨outer, before, some (joined members operand)⟩
  | .bar, members, some operand, outer => some ⟨outer, some (joined members operand), none⟩
  | _, _, _, _ => none

/-- Read tokens. -/
def TypeReader.readAll (characters : ScriptCharacters)
    : List TypeToken → TypeReader → Option TypeReader
  | [], state => some state
  | token :: tokens, state => (state.read characters token).bind (readAll characters tokens)

/-- The type that a text is read as. -/
def readType (characters : ScriptCharacters) (text : String) : Option TsType := do
  let tokens ← tokenize characters [] [] text.toList
  match ← TypeReader.readAll characters tokens (.start []) with
  | ⟨[], members, some operand⟩ => some (joined members operand)
  | _ => none

/-- (TextDenotes characters text values) requires the text to be read as a type with these values.
-/
def TextDenotes (characters : ScriptCharacters) (text : String) (values : Set TsValue) : Prop :=
  ∃ type, readType characters text = some type ∧ type.values = values

-----------------------------------------------------------------------------------------
-- Reading tokens of a text

variable {characters : ScriptCharacters}

/-- A character of ASCII that is no letter, digit, underscore or dollar sign is no part of names. -/
theorem ScriptCharacters.part_eq_false {character : Char} (ascii : character.toNat < 128)
    (isOther : (character.isAlphanum || character = '_' || character = '$') = false)
    : characters.part character = false :=
  (characters.part_ascii character ascii).trans isOther

/-- A name of letters is an identifier. -/
theorem ScriptCharacters.isIdentifier_of_isAlpha {name : String} (notEmpty : name.toList ≠ [])
    (letters : ∀ letter ∈ name.toList, letter.isAlpha = true)
    : characters.isIdentifier name = true := by
  unfold isIdentifier
  have starts : ∀ letter ∈ name.toList, characters.start letter = true := by
    intro letter member
    have isAlpha := letters letter member
    have ascii : letter.toNat < 128 :=
      ascii_of_isAlphanum (Bool.or_eq_true_iff.mpr (.inl isAlpha))
    rw [characters.start_ascii letter ascii, isAlpha]
    rfl
  cases isName : name.toList with
  | nil => exact absurd isName notEmpty
  | cons first rest =>
      rw [isName] at starts
      refine Bool.and_eq_true_iff.mpr ⟨starts first List.mem_cons_self, ?_⟩
      refine List.all_eq_true.mpr fun letter member => ?_
      exact characters.part_of_start letter (starts letter (List.mem_cons_of_mem _ member))

/-- An identifier is a nonempty text of parts of names. -/
theorem ScriptCharacters.part_of_isIdentifier {name : String}
    (isIdentifier : characters.isIdentifier name = true)
    : name.toList ≠ [] ∧ ∀ letter ∈ name.toList, characters.part letter = true := by
  unfold ScriptCharacters.isIdentifier at isIdentifier
  cases isName : name.toList with
  | nil =>
      rw [isName] at isIdentifier
      cases isIdentifier
  | cons first rest =>
      rw [isName, Bool.and_eq_true] at isIdentifier
      refine ⟨List.cons_ne_nil _ _, fun letter member => ?_⟩
      rcases List.mem_cons.mp member with rfl | isBehind
      · exact characters.part_of_start letter isIdentifier.1
      · exact List.all_eq_true.mp isIdentifier.2 letter isBehind

/-- (EndsName characters rest) requires a name to end before the text. -/
def EndsName (characters : ScriptCharacters) : List Char → Prop
  | [] => True
  | character :: _ => characters.part character = false ∧ character ≠ '.'

/-- Letters are added to the part of a name that has been read, by induction on them. -/
theorem tokenize_letters {path : List String} {letters word rest : List Char}
    (isWord : ∀ letter ∈ word, characters.part letter = true)
    : tokenize characters path letters (word ++ rest)
      = tokenize characters path (letters ++ word) rest := by
  induction word generalizing letters with
  | nil => rw [List.nil_append, List.append_nil]
  | cons letter others ih =>
      obtain ⟨isPart, areParts⟩ := List.forall_mem_cons.mp isWord
      rw [List.cons_append, tokenize, if_pos isPart, ih areParts, List.append_assoc,
        List.singleton_append]

/-- Where a name ends, its token comes before those of the text behind it. -/
theorem tokenize_finished {path : List String} {letters rest : List Char}
    (ends : EndsName characters rest)
    : tokenize characters path letters rest
      = (tokenize characters [] [] rest).map (finished path letters ++ ·) := by
  have nothing : finished [] [] = [] := rfl
  cases rest with
  | nil => simp [tokenize, nothing]
  | cons character others =>
      obtain ⟨notPart, notDot⟩ := ends
      simp only [tokenize, notPart, notDot, Bool.false_eq_true, if_false, nothing,
        List.nil_append]
      cases punctuation characters character with
      | none => rfl
      | some tokens =>
          cases tokenize characters [] [] others with
          | none => rfl
          | some later => simp

/-- A name is read as its token. -/
theorem tokenize_name {name : String} {rest : List Char}
    (isIdentifier : characters.isIdentifier name = true) (ends : EndsName characters rest)
    : tokenize characters [] [] (name.toList ++ rest)
      = (tokenize characters [] [] rest).map ([.name [name]] ++ ·) := by
  obtain ⟨notEmpty, areParts⟩ := ScriptCharacters.part_of_isIdentifier isIdentifier
  rw [tokenize_letters areParts, tokenize_finished ends]
  simp [finished, notEmpty]

/-- A name and another one behind a dot are read as a qualified name. -/
theorem tokenize_qualified {first second : String} {rest : List Char}
    (firstIs : characters.isIdentifier first = true)
    (secondIs : characters.isIdentifier second = true) (ends : EndsName characters rest)
    : tokenize characters [] [] (first.toList ++ '.' :: (second.toList ++ rest))
      = (tokenize characters [] [] rest).map ([.name [first, second]] ++ ·) := by
  have dot : characters.part '.' = false :=
    ScriptCharacters.part_eq_false (by decide) (by decide)
  rw [tokenize_letters (ScriptCharacters.part_of_isIdentifier firstIs).2, tokenize, dot,
    if_neg Bool.false_ne_true, if_pos rfl,
    tokenize_letters (ScriptCharacters.part_of_isIdentifier secondIs).2, tokenize_finished ends]
  simp [finished]

/-- Another character is read as its token, if it has one. -/
theorem tokenize_punctuation {character : Char} {tokens : List TypeToken} {rest : List Char}
    (ends : EndsName characters [character])
    (isRead : punctuation characters character = some tokens)
    : tokenize characters [] [] (character :: rest)
      = (tokenize characters [] [] rest).map (tokens ++ ·) := by
  obtain ⟨notPart, notDot⟩ := ends
  rw [tokenize, if_neg (by rw [notPart]; exact Bool.false_ne_true), if_neg notDot, isRead]
  cases tokenize characters [] [] rest with
  | none => rfl
  | some others => rfl

/-- Reading tokens goes on with those behind them, by induction on the first ones. -/
theorem TypeReader.readAll_append (front back : List TypeToken) (state : TypeReader)
    : readAll characters (front ++ back) state
      = (readAll characters front state).bind (readAll characters back) := by
  induction front generalizing state with
  | nil => rfl
  | cons token tokens ih =>
      rw [List.cons_append, readAll, readAll, Option.bind_assoc]
      congr
      funext next
      exact ih next

end Axionvera.Foundation
