import Axionvera.Codegen.Generator

/-! A generated class has a method of its own for each function and calls nothing that is missing
exactly if the names of the functions do not run together with each other or with a member of the
base class, and no function is written or takes a value of the contract's own types.
-/

namespace Axionvera.Codegen

open Axionvera.Foundation

/-- The members of `BaseContract`. -/
def baseContractMembers : List Text :=
  ["client", "contractId", "wallet", "signer", "constructor", "invokeMethod", "query", "decodeI128",
    "decodeU128", "decodeU64", "decodeBool", "decodeString", "encodeAddress", "encodeI128",
    "encodeU128"].map String.toList

/-- The expressions of a generated method: the call of the contract, its arguments and, if there is
one, the result.
-/
def methodExpressions (fn : SpecFunction) : List Expression :=
  contractCall fn :: encodedArgs fn ++ if fn.isReadonly then [decodedResult fn] else []

/-- The functions with arguments, for which interfaces are generated. -/
def functionsWithArgs (spec : ContractSpec) : List SpecFunction :=
  spec.functions.filter fun fn => 0 < fn.inputs.length

/-- A generated class declares a method for each function, is closed and is free of collisions. -/
structure IsSoundClass (mapping : CaseMapping) (spec : ContractSpec) (className coreImport : Text)
    : Prop where
  declaresMethods
    : ∃ (before : List Text) (rest : SpecFunction → Text),
        generateContractClass mapping spec className coreImport
        = join "\n".toList
          (before
            ++ spec.functions.map (fun fn =>
              docBlock fn.doc
              ++ ("  async ".toList ++ methodName mapping fn ++ "(".toList ++ rest fn))
            ++ ["\x7d".toList, []])
  methodsDistinct : (spec.functions.map (methodName mapping)).Nodup
  interfacesDistinct : ((functionsWithArgs spec).map (argsInterfaceName mapping)).Nodup
  noMethodIsMember : ∀ fn ∈ spec.functions, methodName mapping fn ∉ baseContractMembers
  noInterfaceIsMember
    : ∀ fn ∈ functionsWithArgs spec, argsInterfaceName mapping fn ∉ baseContractMembers
  closed
    : ∀ fn ∈ spec.functions, ∀ expression ∈ methodExpressions fn, ∀ helper,
        expression.helper? = some helper → helper ∈ baseContractMembers

-----------------------------------------------------------------------------------------
-- Names that run together
-----------------------------------------------------------------------------------------

/-- The characters of symbols. -/
def isSymbolCharacter (character : Char) : Bool :=
  character.isAlphanum || character = '_'

/-- The name is a symbol. -/
def IsSymbol (name : Text) : Prop :=
  ∀ character ∈ name, isSymbolCharacter character = true

/-- It is decidable whether a name is a symbol. -/
instance (name : Text) : Decidable (IsSymbol name) :=
  List.decidableBAll _ name

/-- The letters of a name, each with whether it stands behind an underscore of its own. -/
def letters : Text → List (Bool × Char)
  | '_' :: character :: rest => (true, character) :: letters rest
  | character :: rest => (false, character) :: letters rest
  | [] => []

/-- Two letters are the same, where a letter behind an underscore stands for its capital. -/
def SameLetter : Bool × Char → Bool × Char → Prop
  | (true, first), (true, second) => first.toUpper = second.toUpper
  | (true, first), (false, second) => first.toUpper = second
  | (false, first), (true, second) => first = second.toUpper
  | (false, first), (false, second) => first = second

/-- Two names run together: they have the same letters, up to the case of the first one. -/
def RunTogether (first second : Text) : Prop :=
  match letters first, letters second with
  | [], [] => True
  | initial :: rest, otherInitial :: otherRest =>
      initial.2.toLower = otherInitial.2.toLower ∧ List.Forall₂ SameLetter rest otherRest
  | _, _ => False

/-- No names run together, and all functions are read-only and take no value of the contract's own
types.
-/
structure KeepsApart (spec : ContractSpec) : Prop where
  functions : spec.functions.Pairwise fun fn other => ¬ RunTogether fn.name other.name
  members : ∀ fn ∈ spec.functions, ∀ member ∈ baseContractMembers, ¬ RunTogether fn.name member
  readonly : ∀ fn ∈ spec.functions, fn.isReadonly = true
  noOwnTypes
    : ∀ fn ∈ spec.functions, ∀ p ∈ fn.inputs, "udt:".toList.isPrefixOf p.scSpecType = false

/-- A letter in camel case. -/
def shownLetter : Bool × Char → Char
  | (true, character) => character.toUpper
  | (false, character) => character

/-- A name in camel case, by its letters. -/
def camelCaseOf : List (Bool × Char) → Text
  | [] => []
  | initial :: rest => initial.2.toLower :: rest.map shownLetter

/-- Two letters are the same exactly if they are shown alike. -/
theorem sameLetter_iff (first second : Bool × Char)
    : SameLetter first second ↔ shownLetter first = shownLetter second := by
  obtain ⟨_ | _, first⟩ := first <;> obtain ⟨_ | _, second⟩ := second <;> exact Iff.rfl

/-- Letters are pairwise the same exactly if they are shown alike. -/
theorem sameLetters_iff (letters others : List (Bool × Char))
    : List.Forall₂ SameLetter letters others
      ↔ letters.map shownLetter = others.map shownLetter := by
  induction letters generalizing others with
  | nil => cases others <;> simp
  | cons letter letters ih =>
      cases others with
      | nil => simp
      | cons other others =>
          rw [List.forall₂_cons, ih, sameLetter_iff, List.map_cons, List.map_cons, List.cons.injEq]

/-- Names run together exactly if they are the same in camel case, by their letters. -/
theorem runTogether_iff (first second : Text)
    : RunTogether first second ↔ camelCaseOf (letters first) = camelCaseOf (letters second) := by
  rw [RunTogether]
  cases letters first with
  | nil => cases letters second <;> simp [camelCaseOf]
  | cons initial rest =>
      cases letters second with
      | nil => simp [camelCaseOf]
      | cons otherInitial otherRest =>
          rw [camelCaseOf, camelCaseOf, List.cons.injEq, ← sameLetters_iff]

-----------------------------------------------------------------------------------------
-- Symbols in camel case
-----------------------------------------------------------------------------------------

/-- A character of a symbol is one of ASCII. -/
theorem ascii_of_isSymbolCharacter {character : Char}
    (isSymbol : isSymbolCharacter character = true)
    : character.toNat < 128 := by
  rw [isSymbolCharacter, Bool.or_eq_true, decide_eq_true_eq] at isSymbol
  rcases isSymbol with isAlphanum | rfl
  · exact ascii_of_isAlphanum isAlphanum
  · decide

variable (mapping : CaseMapping)

/-- A letter of ASCII is replaced by its capital. -/
theorem upper_ascii {character : Char} (ascii : character.toNat < 128)
    : mapping.upper character = [character.toUpper] := by
  rw [CaseMapping.upper, if_pos (by omega), mapping.toUpperCase_ascii character ascii]

/-- No character of a symbol ends a line. -/
theorem isLineTerminator_of_isSymbolCharacter {character : Char}
    (isSymbol : isSymbolCharacter character = true)
    : isLineTerminator character = false := by
  have checked := forall_ascii (fun character =>
    !isSymbolCharacter character || !isLineTerminator character) (by decide)
    (ascii_of_isSymbolCharacter isSymbol)
  simpa [isSymbol] using checked

/-- A symbol is written with the characters behind its first one. -/
theorem IsSymbol.tail {character : Char} {rest : Text} (isSymbol : IsSymbol (character :: rest))
    : IsSymbol rest :=
  fun other member => isSymbol other (List.mem_cons_of_mem _ member)

/-- The words of a symbol are joined by its letters. -/
theorem joinWords_symbol (name : Text) (isSymbol : IsSymbol name)
    : joinWords mapping name = (letters name).map shownLetter := by
  fun_induction letters name with
  | case1 character rest ih =>
      have ofName := isSymbol.tail character List.mem_cons_self
      rw [joinWords, if_pos ⟨.inr rfl, isLineTerminator_of_isSymbolCharacter ofName⟩,
        upper_ascii mapping (ascii_of_isSymbolCharacter ofName), ih isSymbol.tail.tail]
      rfl
  | case2 character rest noMark ih =>
      have noDash : character ≠ '-' := by
        rintro rfl
        exact absurd (isSymbol _ List.mem_cons_self) (by decide)
      cases rest with
      | nil => rfl
      | cons next rest =>
          have noUnderscore : character ≠ '_' := fun isMark => noMark next rest isMark rfl
          rw [joinWords, if_neg fun mark => mark.1.elim noDash noUnderscore, ih isSymbol.tail]
          rfl
  | case3 => rfl

/-- The letters of a symbol are characters of symbols. -/
theorem isSymbol_letters (name : Text) (isSymbol : IsSymbol name)
    : ∀ letter ∈ letters name, isSymbolCharacter letter.2 = true := by
  fun_induction letters name with
  | case1 character rest ih =>
      intro letter member
      rcases List.mem_cons.mp member with rfl | member
      · exact isSymbol.tail _ List.mem_cons_self
      · exact ih isSymbol.tail.tail letter member
  | case2 character rest _ ih =>
      intro letter member
      rcases List.mem_cons.mp member with rfl | member
      · exact isSymbol _ List.mem_cons_self
      · exact ih isSymbol.tail letter member
  | case3 => exact fun _ member => absurd member List.not_mem_nil

/-- What is shown for a character of a symbol is such a character, and lower case forgets its case.
-/
theorem shownLetter_symbol (letter : Bool × Char) (isSymbol : isSymbolCharacter letter.2 = true)
    : isSymbolCharacter (shownLetter letter) = true
      ∧ isSymbolCharacter (shownLetter letter).toUpper = true
      ∧ (shownLetter letter).toUpper.toLower = letter.2.toLower := by
  have checked := forall_ascii (fun character =>
    !isSymbolCharacter character
      || (isSymbolCharacter character.toUpper
        && isSymbolCharacter character.toUpper.toUpper
        && character.toUpper.toLower == character.toLower
        && character.toUpper.toUpper.toLower == character.toLower)) (by decide)
    (ascii_of_isSymbolCharacter isSymbol)
  simp only [isSymbol, Bool.not_true, Bool.false_or, Bool.and_eq_true, beq_iff_eq] at checked
  obtain ⟨⟨⟨upper, upperUpper⟩, lower⟩, lowerUpper⟩ := checked
  obtain ⟨_ | _, character⟩ := letter
  · exact ⟨isSymbol, upper, lower⟩
  · exact ⟨upper, upperUpper, lowerUpper⟩

/-- A symbol in Pascal case, by its letters. -/
theorem toPascalCase_symbol (name : Text) (isSymbol : IsSymbol name)
    : toPascalCase mapping name
      = match letters name with
        | [] => []
        | initial :: rest => (shownLetter initial).toUpper :: rest.map shownLetter := by
  have allSymbols := isSymbol_letters name isSymbol
  rw [toPascalCase, joinWords_symbol mapping name isSymbol]
  generalize letters name = all at allSymbols ⊢
  cases all with
  | nil => rfl
  | cons initial rest =>
      obtain ⟨own, -, -⟩ := shownLetter_symbol initial (allSymbols initial List.mem_cons_self)
      rw [List.map_cons, capitalize, isLineTerminator_of_isSymbolCharacter own,
        if_neg Bool.false_ne_true, upper_ascii mapping (ascii_of_isSymbolCharacter own)]
      rfl

/-- A symbol in camel case, by its letters. -/
theorem toCamelCase_symbol (name : Text) (isSymbol : IsSymbol name)
    : toCamelCase mapping name = camelCaseOf (letters name) := by
  have allSymbols := isSymbol_letters name isSymbol
  rw [toCamelCase, toPascalCase_symbol mapping name isSymbol]
  generalize letters name = all at allSymbols ⊢
  cases all with
  | nil => rfl
  | cons initial rest =>
      obtain ⟨-, upper, lower⟩ := shownLetter_symbol initial (allSymbols initial List.mem_cons_self)
      have ascii := ascii_of_isSymbolCharacter upper
      dsimp only
      rw [if_pos (by omega), mapping.toLowerCase_ascii _ ascii, lower]
      rfl

/-- A member of `BaseContract` is its own name in camel case. -/
theorem camelCaseOf_member (member : Text) (isMember : member ∈ baseContractMembers)
    : camelCaseOf (letters member) = member := by
  have all : ∀ member ∈ baseContractMembers, camelCaseOf (letters member) = member := by decide
  exact all member isMember

/-- No member of `BaseContract` is the name of an interface of arguments. -/
theorem argsInterfaceName_notMem (fn : SpecFunction)
    : argsInterfaceName mapping fn ∉ baseContractMembers := by
  intro isMember
  have noSuffix
      : ∀ member ∈ baseContractMembers, "Args".toList.isSuffixOf member = false := by decide
  have suffix : "Args".toList.isSuffixOf (argsInterfaceName mapping fn) = true := by
    rw [List.isSuffixOf_iff_suffix]
    exact List.suffix_append _ _
  rw [noSuffix _ isMember] at suffix
  cases suffix

-----------------------------------------------------------------------------------------
-- Sound classes
-----------------------------------------------------------------------------------------

/-- An expression that encodes an argument calls a member of `BaseContract` or encodes a value of
the contract's own types.
-/
theorem encodeExpr_helper (varName scSpecType : Text)
    : (∀ helper,
        (encodeExpr varName scSpecType).helper? = some helper → helper ∈ baseContractMembers)
      ↔ "udt:".toList.isPrefixOf scSpecType = false := by
  rw [encodeExpr]
  split_ifs with isAddress isI128 isU128 isOwn
  · subst isAddress
    exact iff_of_true (by rintro _ ⟨⟩; decide) (by decide)
  · subst isI128
    exact iff_of_true (by rintro _ ⟨⟩; decide) (by decide)
  · subst isU128
    exact iff_of_true (by rintro _ ⟨⟩; decide) (by decide)
  · refine iff_of_false ?_ (by rw [isOwn]; decide)
    intro isMember
    exact absurd (isMember _ rfl) (by decide)
  · exact iff_of_true (by rintro _ ⟨⟩) (Bool.eq_false_of_not_eq_true isOwn)

/-- An expression for a result calls a member of `BaseContract`, if anything. -/
theorem decodeExpr_helper (resultExpr scSpecType helper : Text)
    (called : (decodeExpr resultExpr scSpecType).helper? = some helper)
    : helper ∈ baseContractMembers := by
  rw [decodeExpr] at called
  split_ifs at called <;> cases called <;> simp [baseContractMembers]

/-- A method calls nothing but members of `BaseContract` exactly if it is read-only and takes no
value of the contract's own types.
-/
theorem methodExpressions_helper (fn : SpecFunction)
    : (∀ expression ∈ methodExpressions fn, ∀ helper,
        expression.helper? = some helper → helper ∈ baseContractMembers)
      ↔ fn.isReadonly = true
        ∧ ∀ p ∈ fn.inputs, "udt:".toList.isPrefixOf p.scSpecType = false := by
  constructor
  · intro closed
    constructor
    · by_contra mutates
      have isMember
          := closed (contractCall fn) (by simp [methodExpressions]) "invoke".toList
            (by rw [contractCall, if_neg mutates, Expression.helper?])
      exact absurd isMember (by decide)
    · intro p isInput
      apply (encodeExpr_helper ("args.".toList ++ p.name) p.scSpecType).mp
      apply closed
      exact List.mem_cons_of_mem _ (List.mem_append_left _ (List.mem_map_of_mem isInput))
  · rintro ⟨readonly, noOwnTypes⟩ expression member helper called
    rw [methodExpressions, if_pos readonly] at member
    rcases List.mem_append.mp member with inCall | isResult
    · rcases List.mem_cons.mp inCall with rfl | isArgument
      · rw [contractCall, if_pos readonly, Expression.helper?, Option.some.injEq] at called
        subst called
        decide
      · obtain ⟨p, isInput, rfl⟩ := List.mem_map.mp isArgument
        exact (encodeExpr_helper _ p.scSpecType).mpr (noOwnTypes p isInput) helper called
    · obtain rfl := List.mem_singleton.mp isResult
      rw [decodedResult] at called
      split at called
      · exact decodeExpr_helper _ _ helper called
      · cases called

/-- A generated class declares a method for each function. -/
theorem declaresMethods_generateContractClass (spec : ContractSpec) (className coreImport : Text)
    : ∃ (before : List Text) (rest : SpecFunction → Text),
        generateContractClass mapping spec className coreImport
        = join "\n".toList
          (before
            ++ spec.functions.map (fun fn =>
              docBlock fn.doc
              ++ ("  async ".toList ++ methodName mapping fn ++ "(".toList ++ rest fn))
            ++ ["\x7d".toList, []]) := by
  have bodies
      : ∀ fn, ∃ rest,
          methodBody mapping fn
          = "  async ".toList ++ methodName mapping fn ++ "(".toList ++ rest := by
    intro fn
    unfold methodBody methodSignature
    split <;> (simp only [List.append_assoc]; exact ⟨_, rfl⟩)
  choose rest isBody using bodies
  have isMethod
      : generateMethod mapping
        = fun fn =>
          docBlock fn.doc
          ++ ("  async ".toList ++ methodName mapping fn ++ "(".toList ++ rest fn) := by
    funext fn
    rw [generateMethod, isBody]
  exact ⟨_, rest, by rw [generateContractClass, isMethod]⟩

/-- Functions have the same method name exactly if their names run together. -/
theorem methodName_eq_iff {fn other : SpecFunction} (isSymbol : IsSymbol fn.name)
    (otherIsSymbol : IsSymbol other.name)
    : methodName mapping fn = methodName mapping other ↔ RunTogether fn.name other.name := by
  rw [methodName, methodName, toCamelCase_symbol mapping _ isSymbol,
    toCamelCase_symbol mapping _ otherIsSymbol, runTogether_iff]

/-- Methods have names of their own exactly if no names of functions run together. -/
theorem methodsDistinct_iff {functions : List SpecFunction}
    (allSymbols : ∀ fn ∈ functions, IsSymbol fn.name)
    : (functions.map (methodName mapping)).Nodup
      ↔ functions.Pairwise fun fn other => ¬ RunTogether fn.name other.name := by
  rw [List.Nodup, List.pairwise_map]
  apply List.Pairwise.iff_of_mem
  intro fn other member otherMember
  exact not_congr (methodName_eq_iff mapping (allSymbols fn member) (allSymbols other otherMember))

/-- A method has the name of a member exactly if the name of its function runs together with one. -/
theorem methodName_mem_iff {fn : SpecFunction} (isSymbol : IsSymbol fn.name)
    : methodName mapping fn ∉ baseContractMembers
      ↔ ∀ member ∈ baseContractMembers, ¬ RunTogether fn.name member := by
  rw [methodName, toCamelCase_symbol mapping _ isSymbol]
  constructor
  · intro noMember member isMember runTogether
    rw [runTogether_iff, camelCaseOf_member member isMember] at runTogether
    exact noMember (runTogether ▸ isMember)
  · intro keepsApart isMember
    apply keepsApart _ isMember
    rw [runTogether_iff, camelCaseOf_member _ isMember]

/-- Interfaces of arguments have names of their own if methods have. -/
theorem interfacesDistinct_of_methodsDistinct {spec : ContractSpec}
    (distinct : (spec.functions.map (methodName mapping)).Nodup)
    : ((functionsWithArgs spec).map (argsInterfaceName mapping)).Nodup := by
  rw [List.Nodup, List.pairwise_map] at *
  refine (distinct.sublist List.filter_sublist).imp ?_
  intro fn other methodsDiffer same
  have samePascal := List.append_cancel_right same
  apply methodsDiffer
  rw [methodName, methodName, toCamelCase, toCamelCase, samePascal]

/-- It is decidable whether names run together. -/
instance (first second : Text) : Decidable (RunTogether first second) :=
  decidable_of_iff _ (runTogether_iff first second).symm

/-- The class for a contract whose functions are symbols has a method of its own for each function
and calls nothing that is missing exactly if no names run together and all functions are read-only
and take no value of the contract's own types.
-/
theorem isSoundClass_iff (spec : ContractSpec) (className coreImport : Text)
    (allSymbols : ∀ fn ∈ spec.functions, IsSymbol fn.name)
    : IsSoundClass mapping spec className coreImport ↔ KeepsApart spec := by
  constructor
  · intro sound
    constructor
    case functions => exact (methodsDistinct_iff mapping allSymbols).mp sound.methodsDistinct
    case members =>
      intro fn member
      exact (methodName_mem_iff mapping (allSymbols fn member)).mp
        (sound.noMethodIsMember fn member)
    case readonly =>
      intro fn member
      exact ((methodExpressions_helper fn).mp (sound.closed fn member)).1
    case noOwnTypes =>
      intro fn member
      exact ((methodExpressions_helper fn).mp (sound.closed fn member)).2
  · intro apart
    have distinct := (methodsDistinct_iff mapping allSymbols).mpr apart.functions
    constructor
    case declaresMethods =>
      exact declaresMethods_generateContractClass mapping spec className coreImport
    case methodsDistinct => exact distinct
    case interfacesDistinct => exact interfacesDistinct_of_methodsDistinct mapping distinct
    case noMethodIsMember =>
      intro fn member
      exact (methodName_mem_iff mapping (allSymbols fn member)).mpr (apart.members fn member)
    case noInterfaceIsMember => exact fun fn _ => argsInterfaceName_notMem mapping fn
    case closed =>
      intro fn member
      exact (methodExpressions_helper fn).mpr ⟨apart.readonly fn member, apart.noOwnTypes fn member⟩

/-- A contract with two functions that only read. -/
def readonlySpec : ContractSpec where
  functions :=
    [{ name := "get_balance".toList, doc := []
       inputs := [{ name := "id".toList, type := "string".toList, scSpecType := "address".toList }]
       outputs := [{ name := [], type := "bigint".toList, scSpecType := "i128".toList }]
       isReadonly := true },
      { name := "total".toList, doc := [], inputs := [], outputs := [], isReadonly := true }]
  structs := []
  enums := []

/-- The class for two functions that only read is sound. -/
theorem isSoundClass_iff_readonlySpec
    : IsSoundClass asciiCase readonlySpec "Vault".toList "core".toList :=
  (isSoundClass_iff asciiCase readonlySpec "Vault".toList "core".toList (by decide)).mpr
    ⟨by decide, by decide, by decide, by decide⟩

/-- A contract with one function that writes. -/
def writingSpec : ContractSpec where
  functions :=
    [{ name := "withdraw".toList, doc := [], inputs := [], outputs := [], isReadonly := false }]
  structs := []
  enums := []

/-- Not every class for distinct symbols is sound: `BaseContract` has no `invoke`. -/
theorem not_isSoundClass
    : ¬ ∀ (mapping : CaseMapping) (spec : ContractSpec) (className coreImport : Text),
        (spec.functions.map SpecFunction.name).Nodup
        → (∀ fn ∈ spec.functions, IsSymbol fn.name)
        → IsSoundClass mapping spec className coreImport := by
  intro allSound
  have sound
      := allSound asciiCase writingSpec "Vault".toList "core".toList (by decide) (by decide)
  have isMember
      := sound.closed _ List.mem_cons_self _ List.mem_cons_self "invoke".toList rfl
  exact absurd isMember (by decide)

end Axionvera.Codegen
