import Axionvera.Cli.CommandLine
import Mathlib.Data.List.TakeWhile

/-! What a command line says: it splits into flags, options and positional arguments in one way, and
`parseArgs` finds of each what was said last, or all that was said.
-/

namespace Axionvera.Cli

open Axionvera.Foundation

/-- What is said on a command line. -/
inductive CommandItem where
  | positional (text : Token)
  | flag (key : Token)
  | option (key value : Token)

/-- What a token is to `parseArgs`. -/
def ArgsSpec.kindOf (spec : ArgsSpec) (token : Token) : TokenKind Token CommandItem :=
  if isOption token then
    if spec.keyOf (nameOf token) ∈ spec.booleans then .item (.flag (spec.keyOf (nameOf token)))
    else
      match inlineValue token with
      | some value => .item (.option (spec.keyOf (nameOf token)) value)
      | none => .awaits (.option (spec.keyOf (nameOf token)))
  else .item (.positional token)

/-- What is parsed after one more item. -/
def ParsedArgs.take (spec : ArgsSpec) (parsed : ParsedArgs) : CommandItem → ParsedArgs
  | .positional text => { parsed with positionals := parsed.positionals ++ [text] }
  | .flag key => parsed.assign key .yes
  | .option key value => parsed.add spec key value

/-- What is parsed of the items. -/
def ArgsSpec.collect (spec : ArgsSpec) (items : List CommandItem) : ParsedArgs :=
  items.foldl (ParsedArgs.take spec) ⟨.empty, []⟩

variable {spec : ArgsSpec} {token : Token} {parsed : ParsedArgs} {rest : List Token}

/-- A token that is an item is taken. -/
theorem parseFrom_item {item : CommandItem} (isItem : spec.kindOf token = .item item)
    : spec.parseFrom parsed (token :: rest) = spec.parseFrom (parsed.take spec item) rest := by
  rw [ArgsSpec.parseFrom.eq_def]
  rw [ArgsSpec.kindOf] at isItem
  simp only
  split_ifs at isItem ⊢ with dashed isBoolean
  · obtain rfl := TokenKind.item.inj isItem
    rfl
  · cases inline : inlineValue token with
    | none =>
        rw [inline] at isItem
        cases isItem
    | some value =>
        rw [inline] at isItem
        obtain rfl := TokenKind.item.inj isItem
        rfl
  · obtain rfl := TokenKind.item.inj isItem
    rfl

/-- A token that awaits a value is an option without one. -/
theorem kindOf_eq_awaits_iff {half : Token → CommandItem}
    : spec.kindOf token = .awaits half
      ↔ isOption token = true
        ∧ spec.keyOf (nameOf token) ∉ spec.booleans
        ∧ inlineValue token = none
        ∧ half = .option (spec.keyOf (nameOf token)) := by
  rw [ArgsSpec.kindOf]
  split_ifs with dashed isBoolean
  · simp [isBoolean]
  · cases inlineValue token <;> simp [dashed, isBoolean, eq_comm]
  · simp [dashed]

/-- The next token is the value of an option without one. -/
theorem parseFrom_half {half : Token → CommandItem} (isHalf : spec.kindOf token = .awaits half)
    (next : Token)
    : spec.parseFrom parsed (token :: next :: rest)
      = spec.parseFrom (parsed.take spec (half next)) rest := by
  obtain ⟨dashed, noBoolean, noInline, rfl⟩ := kindOf_eq_awaits_iff.mp isHalf
  rw [ArgsSpec.parseFrom.eq_def]
  simp only [if_pos dashed, if_neg noBoolean, noInline]
  rfl

/-- There has to be a next token. -/
theorem parseFrom_last {half : Token → CommandItem} (isHalf : spec.kindOf token = .awaits half)
    : spec.parseFrom parsed [token] = .error (missingValue (nameOf token)) := by
  obtain ⟨dashed, noBoolean, noInline, rfl⟩ := kindOf_eq_awaits_iff.mp isHalf
  rw [ArgsSpec.parseFrom.eq_def]
  simp only [if_pos dashed, if_neg noBoolean, noInline]

/-- The loop reads items and takes them one after another. Witness: the recursion of the reader. -/
theorem parseFrom_eq (spec : ArgsSpec) (parsed : ParsedArgs) (argv : List Token)
    : spec.parseFrom parsed argv
      = ((readTokens spec.kindOf argv).map fun items =>
          items.foldl (ParsedArgs.take spec) parsed).mapError
          fun token => missingValue (nameOf token) := by
  induction argv using readTokens.induct spec.kindOf generalizing parsed with
  | case1 => rfl
  | case2 token rest item isItem ih =>
      have read := readTokens_append (.single isItem) rest
      rw [List.singleton_append] at read
      rw [parseFrom_item isItem, ih, read]
      cases readTokens spec.kindOf rest <;> rfl
  | case3 token half isHalf =>
      rw [parseFrom_last isHalf, readTokens, isHalf]
      rfl
  | case4 token half isHalf next rest ih =>
      have read := readTokens_append (.double isHalf next) rest
      rw [List.cons_append, List.singleton_append] at read
      rw [parseFrom_half isHalf, ih, read]
      cases readTokens spec.kindOf rest <;> rfl

-----------------------------------------------------------------------------------------
-- What is found of the items
-----------------------------------------------------------------------------------------

/-- The text of a positional argument. -/
def CommandItem.positional? : CommandItem → Option Token
  | .positional text => some text
  | _ => none

/-- The value that an item gives an option. -/
def CommandItem.valueFor (key : Token) : CommandItem → Option Token
  | .option own value => if own = key then some value else none
  | _ => none

/-- The item sets a flag. -/
def CommandItem.sets (key : Token) : CommandItem → Bool
  | .flag own => own = key
  | _ => false

/-- What is found under a key: whether its flag is set, all values of its option in their order, or
the last one of them. Under the key `__proto__` there is nothing, as an assignment to it makes no
property of the flags.
-/
def ArgsSpec.found (spec : ArgsSpec) (items : List CommandItem) (key : Token)
    : Option FlagValue :=
  if key = protoKey then none
  else if key ∈ spec.booleans then if items.any (·.sets key) then some .yes else none
  else if key ∈ spec.arrays then
    if items.filterMap (·.valueFor key) = [] then none
    else some (.texts (items.filterMap (·.valueFor key)))
  else (items.filterMap (·.valueFor key)).getLast?.map .text

/-- (IsOf spec item) requires the item to have the form that the kind of its key has. -/
def CommandItem.IsOf (spec : ArgsSpec) : CommandItem → Prop
  | .positional _ => True
  | .flag key => key ∈ spec.booleans
  | .option key _ => key ∉ spec.booleans

/-- Items that are read have the form of their keys. -/
theorem isOf_of_isItemOf {item : CommandItem} {tokens : List Token}
    (isItem : IsItemOf spec.kindOf item tokens) : item.IsOf spec := by
  cases isItem with
  | @single token item isItem =>
      rw [ArgsSpec.kindOf] at isItem
      split_ifs at isItem with dashed isBoolean
      · obtain rfl := TokenKind.item.inj isItem
        exact isBoolean
      · cases inline : inlineValue token with
        | none =>
            rw [inline] at isItem
            cases isItem
        | some value =>
            rw [inline] at isItem
            obtain rfl := TokenKind.item.inj isItem
            exact isBoolean
      · obtain rfl := TokenKind.item.inj isItem
        trivial
  | double isHalf next =>
      obtain ⟨_, noBoolean, _, rfl⟩ := kindOf_eq_awaits_iff.mp isHalf
      exact noBoolean

/-- All items that are read have the form of their keys, by induction on them. -/
theorem isOf_of_forall₂ {items : List CommandItem} {parts : List (List Token)}
    (areItems : List.Forall₂ (IsItemOf spec.kindOf) items parts) : ∀ item ∈ items, item.IsOf spec
    := by
  induction areItems with
  | nil => exact List.forall_mem_nil _
  | cons isItem _ ih => exact List.forall_mem_cons.mpr ⟨isOf_of_isItemOf isItem, ih⟩

/-- What is assigned is found under its key, but for the property `__proto__`. -/
theorem get_assign (parsed : ParsedArgs) (own key : Token) (value : FlagValue)
    : (parsed.assign own value).flags.get key
      = if key = own ∧ key ≠ protoKey then some value else parsed.flags.get key := by
  rw [ParsedArgs.assign]
  by_cases isProto : own = protoKey
  · rw [if_pos isProto, if_neg fun both => both.2 (both.1.trans isProto)]
  · rw [if_neg isProto, InsertionMap.get_set]
    by_cases same : key = own
    · rw [if_pos same, if_pos ⟨same, same ▸ isProto⟩]
    · rw [if_neg same, if_neg fun both => same both.1]

/-- What is assigned is no positional argument. -/
theorem positionals_assign (parsed : ParsedArgs) (key : Token) (value : FlagValue)
    : (parsed.assign key value).positionals = parsed.positionals := by
  rw [ParsedArgs.assign]
  split_ifs <;> rfl

/-- The values of an option under one key more, or under another one. -/
theorem valuesFor_append_option (items : List CommandItem) (own key value : Token)
    : (items ++ [CommandItem.option own value]).filterMap (CommandItem.valueFor key)
      = if own = key then items.filterMap (CommandItem.valueFor key) ++ [value]
        else items.filterMap (CommandItem.valueFor key) := by
  rw [List.filterMap_append, List.filterMap_cons, List.filterMap_nil, CommandItem.valueFor.eq_def]
  by_cases same : own = key
  · simp [same]
  · simp [same]

/-- An item with another key changes nothing. -/
theorem found_append_of_ne (items : List CommandItem) (item : CommandItem) {key : Token}
    (noSet : item.sets key = false) (noValue : item.valueFor key = none)
    : spec.found (items ++ [item]) key = spec.found items key := by
  simp [ArgsSpec.found, noSet, noValue]

/-- What is found after one more option is what was found before it, and its value. -/
theorem found_append_option (items : List CommandItem) {own : Token} (value : Token)
    (noBoolean : own ∉ spec.booleans) (noProto : own ≠ protoKey)
    : spec.found (items ++ [.option own value]) own
      = some (if own ∈ spec.arrays then collected value (spec.found items own)
          else .text value) := by
  rw [ArgsSpec.found, if_neg noProto, if_neg noBoolean, ArgsSpec.found, if_neg noProto,
    if_neg noBoolean, valuesFor_append_option, if_pos rfl]
  by_cases isArray : own ∈ spec.arrays
  · simp only [if_pos isArray]
    cases items.filterMap (·.valueFor own) <;> simp [collected]
  · simp only [if_neg isArray, List.getLast?_append, List.getLast?_singleton, Option.some_or,
      Option.map_some]

/-- What is found after one more item, by cases of the item. -/
theorem get_take {items : List CommandItem} {item : CommandItem} (isOf : item.IsOf spec)
    {before : ParsedArgs} (areFound : ∀ key, before.flags.get key = spec.found items key)
    (key : Token)
    : (before.take spec item).flags.get key = spec.found (items ++ [item]) key := by
  cases item with
  | positional text => 
      exact (areFound key).trans (found_append_of_ne items (.positional text) rfl rfl).symm
  | flag own =>
      rw [ParsedArgs.take, get_assign, areFound]
      by_cases same : own = key
      · subst same
        by_cases isProto : own = protoKey
        · rw [if_neg fun both => both.2 isProto, ArgsSpec.found, ArgsSpec.found, if_pos isProto,
            if_pos isProto]
        · have isBoolean : own ∈ spec.booleans := isOf
          simp [ArgsSpec.found, isProto, isBoolean, CommandItem.sets]
      · rw [if_neg fun both => same both.1.symm,
          found_append_of_ne items (.flag own) (decide_eq_false same) rfl]
  | option own value =>
      have added
          : before.take spec (.option own value)
            = before.assign own
                (if own ∈ spec.arrays then collected value (spec.found items own)
                else .text value) := by
        rw [ParsedArgs.take, ParsedArgs.add, areFound]
        split_ifs <;> rfl
      rw [added, get_assign, areFound]
      by_cases same : own = key
      · subst same
        by_cases isProto : own = protoKey
        · rw [if_neg fun both => both.2 isProto, ArgsSpec.found, ArgsSpec.found, if_pos isProto,
            if_pos isProto]
        · rw [if_pos ⟨rfl, isProto⟩, found_append_option items value isOf isProto]
      · rw [if_neg fun both => same both.1.symm,
          found_append_of_ne items (.option own value) rfl (if_neg same)]

/-- Only positional arguments are added to them. -/
theorem positionals_take (before : ParsedArgs) (item : CommandItem)
    : (before.take spec item).positionals = before.positionals ++ item.positional?.toList := by
  cases item with
  | positional text => rfl
  | flag key =>
      rw [ParsedArgs.take, positionals_assign]
      exact (List.append_nil _).symm
  | option key value =>
      rw [ParsedArgs.take, ParsedArgs.add]
      split_ifs <;> rw [positionals_assign] <;> exact (List.append_nil _).symm

/-- What is collected of items is what is found of them, by induction on the items from their end.
-/
theorem collect_eq_found {items : List CommandItem} (areOf : ∀ item ∈ items, item.IsOf spec)
    : (spec.collect items).positionals = items.filterMap (·.positional?)
      ∧ ∀ key, (spec.collect items).flags.get key = spec.found items key := by
  induction items using List.reverseRecOn with
  | nil =>
      refine ⟨rfl, fun key => ?_⟩
      simp [ArgsSpec.collect, ArgsSpec.found, InsertionMap.get_empty]
  | append_singleton items item ih =>
      obtain ⟨areOfBefore, areOfLast⟩ := List.forall_mem_append.mp areOf
      obtain ⟨positionals, areFound⟩ := ih areOfBefore
      have last : spec.collect (items ++ [item]) = (spec.collect items).take spec item := by
        rw [ArgsSpec.collect, List.foldl_append]
        rfl
      rw [last]
      refine ⟨?_, get_take (areOfLast item (List.mem_singleton.mpr rfl)) areFound⟩
      rw [positionals_take, positionals, List.filterMap_append]
      cases item <;> rfl

-----------------------------------------------------------------------------------------
-- The command line as a whole
-----------------------------------------------------------------------------------------

/-- (IsSaid spec item tokens) requires the tokens to say the item: a text without a dash, the name
of a flag with anything behind an `=`, or the name of an option with its value behind an `=` or in
the next token.
-/
def IsSaid (spec : ArgsSpec) (item : CommandItem) (tokens : List Token) : Prop :=
  match item with
  | .positional text => isOption text = false ∧ tokens = [text]
  | .flag key =>
      key ∈ spec.booleans
      ∧ ∃ token, isOption token = true ∧ spec.keyOf (nameOf token) = key ∧ tokens = [token]
  | .option key value =>
      key ∉ spec.booleans
      ∧ ∃ name,
          isOption name = true
          ∧ '=' ∉ name
          ∧ spec.keyOf name = key
          ∧ (tokens = [name ++ '=' :: value] ∨ tokens = [name, value])

/-- What is written behind a name and a `=` is told apart from them. -/
theorem split_inline {name : Token} (noSign : '=' ∉ name) (value : Token)
    : nameOf (name ++ '=' :: value) = name ∧ inlineValue (name ++ '=' :: value) = some value := by
  have plain : ∀ character ∈ name, decide (character ≠ '=') = true := fun character member =>
    decide_eq_true fun same => noSign (same ▸ member)
  constructor
  · rw [nameOf, List.takeWhile_append_of_pos plain, List.takeWhile_cons_of_neg (by decide),
      List.append_nil]
  · rw [inlineValue, List.dropWhile_append_of_pos plain, List.dropWhile_cons_of_neg (by decide)]
    rfl

/-- Without a `=` there is only a name. -/
theorem split_bare (noSign : '=' ∉ token) : nameOf token = token ∧ inlineValue token = none := by
  have plain : ∀ character ∈ token, decide (character ≠ '=') = true := fun character member =>
    decide_eq_true fun same => noSign (same ▸ member)
  constructor
  · exact List.takeWhile_eq_self_iff.mpr plain
  · rw [inlineValue, List.dropWhile_eq_nil_iff.mpr plain]

/-- A name that begins with a dash does so with what follows. -/
theorem isOption_append {name : Token} (dashed : isOption name = true) (rest : Token)
    : isOption (name ++ rest) = true := by
  cases name with
  | nil => cases dashed
  | cons first name => exact dashed

/-- What is in front of a `=` begins like the whole. -/
theorem isOption_of_append {name value : Token}
    (dashed : isOption (name ++ '=' :: value) = true) : isOption name = true := by
  cases name with
  | nil => cases dashed
  | cons first name => exact dashed

/-- A token awaits a value if it is the name of an option and nothing more. -/
theorem isHalf_iff {half : Token → CommandItem}
    : spec.kindOf token = .awaits half
      ↔ isOption token = true
        ∧ '=' ∉ token
        ∧ spec.keyOf token ∉ spec.booleans
        ∧ half = .option (spec.keyOf token) := by
  rw [kindOf_eq_awaits_iff]
  by_cases hasSign : '=' ∈ token
  · obtain ⟨name, value, rfl, noSign⟩ := List.eq_append_cons_of_mem hasSign
    simp [(split_inline noSign value).2]
  · obtain ⟨isName, noInline⟩ := split_bare hasSign
    rw [isName, noInline]
    simp [hasSign]

/-- What says an item is read as it. -/
theorem isItemOf_of_isSaid {item : CommandItem} {tokens : List Token}
    (isSaid : IsSaid spec item tokens) : IsItemOf spec.kindOf item tokens := by
  cases item with
  | positional text =>
      obtain ⟨noDash, rfl⟩ := isSaid
      refine .single ?_
      rw [ArgsSpec.kindOf, if_neg (Bool.not_eq_true _ ▸ noDash)]
  | flag key =>
      obtain ⟨isBoolean, token, dashed, rfl, rfl⟩ := isSaid
      refine .single ?_
      rw [ArgsSpec.kindOf, if_pos dashed, if_pos isBoolean]
  | option key value =>
      obtain ⟨noBoolean, name, dashed, noSign, rfl, rfl | rfl⟩ := isSaid
      · refine .single ?_
        obtain ⟨isName, isInline⟩ := split_inline noSign value
        rw [ArgsSpec.kindOf, if_pos (isOption_append dashed _), isName, if_neg noBoolean, isInline]
      · exact .double (isHalf_iff.mpr ⟨dashed, noSign, noBoolean, rfl⟩) value

/-- What is read as an item says it. -/
theorem isSaid_of_isItemOf {item : CommandItem} {tokens : List Token}
    (isItem : IsItemOf spec.kindOf item tokens) : IsSaid spec item tokens := by
  cases isItem with
  | @single token item isItem =>
      rw [ArgsSpec.kindOf] at isItem
      split_ifs at isItem with dashed isBoolean
      · obtain rfl := TokenKind.item.inj isItem
        exact ⟨isBoolean, token, dashed, rfl, rfl⟩
      · by_cases hasSign : '=' ∈ token
        · obtain ⟨name, value, rfl, noSign⟩ := List.eq_append_cons_of_mem hasSign
          obtain ⟨isName, isInline⟩ := split_inline noSign value
          rw [isName] at isBoolean
          rw [isName, isInline] at isItem
          obtain rfl := TokenKind.item.inj isItem
          exact ⟨isBoolean, name, isOption_of_append dashed, noSign, rfl, .inl rfl⟩
        · rw [(split_bare hasSign).2] at isItem
          cases isItem
      · obtain rfl := TokenKind.item.inj isItem
        exact ⟨Bool.not_eq_true _ ▸ dashed, rfl⟩
  | @double token half isHalf next =>
      obtain ⟨dashed, noSign, noBoolean, rfl⟩ := isHalf_iff.mp isHalf
      exact ⟨noBoolean, token, dashed, noSign, rfl, .inr rfl⟩

/-- Items that are said are collected. -/
theorem parseArgs_flatten {items : List CommandItem} {parts : List (List Token)}
    (areItems : List.Forall₂ (IsItemOf spec.kindOf) items parts)
    : spec.parseArgs parts.flatten = .ok (spec.collect items) := by
  rw [ArgsSpec.parseArgs, parseFrom_eq, readTokens_flatten areItems]
  rfl

/-- The name of an option at the end is refused. -/
theorem parseArgs_half {items : List CommandItem} {parts : List (List Token)}
    (areItems : List.Forall₂ (IsItemOf spec.kindOf) items parts) {name : Token}
    (dashed : isOption name = true) (noSign : '=' ∉ name)
    (noBoolean : spec.keyOf name ∉ spec.booleans)
    : spec.parseArgs (parts.flatten ++ [name]) = .error (missingValue name) := by
  rw [ArgsSpec.parseArgs, parseFrom_eq,
    readTokens_flatten_half areItems (isHalf_iff.mpr ⟨dashed, noSign, noBoolean, rfl⟩)]
  exact congrArg (fun name => Except.error (missingValue name)) (split_bare noSign).1

/-- What is parsed is collected of items. -/
theorem items_of_parseArgs {argv : List Token} (isParsed : spec.parseArgs argv = .ok parsed)
    : ∃ items parts,
        List.Forall₂ (IsItemOf spec.kindOf) items parts
        ∧ argv = parts.flatten
        ∧ parsed = spec.collect items := by
  obtain ⟨items, parts, areItems, rfl | ⟨token, half, isHalf, rfl⟩⟩ :=
    splits_tokens spec.kindOf argv
  · exact ⟨items, parts, areItems, rfl,
      Except.ok.inj (isParsed.symm.trans (parseArgs_flatten areItems))⟩
  · obtain ⟨dashed, noSign, noBoolean, -⟩ := isHalf_iff.mp isHalf
    cases isParsed.symm.trans (parseArgs_half areItems dashed noSign noBoolean)

/-- Every command line says items in one way, and `parseArgs` finds exactly what they say: of a flag
whether it is set, of an option its last value or all its values in their order, and the positional
arguments in their order. The only command lines that it refuses end in an option without a value.
-/
theorem parseArgs_finds_what_is_said (spec : ArgsSpec) (argv : List Token)
    : (∀ items parts,
        List.Forall₂ (IsSaid spec) items parts
        → argv = parts.flatten
        → (∀ others otherParts,
            List.Forall₂ (IsSaid spec) others otherParts
            → argv = otherParts.flatten
            → others = items)
          ∧ ∃ parsed,
              spec.parseArgs argv = .ok parsed
              ∧ parsed.positionals = items.filterMap (·.positional?)
              ∧ ∀ key, parsed.flags.get key = spec.found items key)
      ∧ (∀ parsed,
          spec.parseArgs argv = .ok parsed
          → ∃ items parts, List.Forall₂ (IsSaid spec) items parts ∧ argv = parts.flatten)
      ∧ ∀ message,
          spec.parseArgs argv = .error message
          ↔ ∃ items parts name,
              List.Forall₂ (IsSaid spec) items parts
              ∧ argv = parts.flatten ++ [name]
              ∧ isOption name = true
              ∧ '=' ∉ name
              ∧ spec.keyOf name ∉ spec.booleans
              ∧ message = missingValue name := by
  refine ⟨fun items parts areSaid whole => ?reads, fun parsed isParsed => ?said,
    fun message => ⟨fun isRefused => ?refused, ?half⟩⟩
  case reads =>
    have areItems := areSaid.imp fun _ _ => isItemOf_of_isSaid
    obtain ⟨positionals, areFound⟩ := collect_eq_found (isOf_of_forall₂ areItems)
    refine ⟨fun others otherParts areOthers same => ?_,
      spec.collect items, whole ▸ parseArgs_flatten areItems, positionals, areFound⟩
    have read := readTokens_flatten (areOthers.imp fun _ _ => isItemOf_of_isSaid)
    rw [← same, whole, readTokens_flatten areItems] at read
    exact (Except.ok.inj read).symm
  case said =>
    obtain ⟨items, parts, areItems, whole, -⟩ := items_of_parseArgs isParsed
    exact ⟨items, parts, areItems.imp fun _ _ => isSaid_of_isItemOf, whole⟩
  case refused =>
    obtain ⟨items, parts, areItems, rfl | ⟨token, half, isHalf, rfl⟩⟩ :=
      splits_tokens spec.kindOf argv
    · cases isRefused.symm.trans (parseArgs_flatten areItems)
    · obtain ⟨dashed, noSign, noBoolean, -⟩ := isHalf_iff.mp isHalf
      have isMessage := isRefused.symm.trans (parseArgs_half areItems dashed noSign noBoolean)
      exact ⟨items, parts, token, areItems.imp fun _ _ => isSaid_of_isItemOf, rfl, dashed, noSign,
        noBoolean, Except.error.inj isMessage⟩
  case half =>
    rintro ⟨items, parts, name, areSaid, rfl, dashed, noSign, noBoolean, rfl⟩
    exact parseArgs_half (areSaid.imp fun _ _ => isItemOf_of_isSaid) dashed noSign noBoolean

end Axionvera.Cli
