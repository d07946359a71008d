import Axionvera.Foundation.AsciiCharacter
import Axionvera.Foundation.LastOccurrence
import Axionvera.Foundation.TransitionSystem
import Axionvera.Registry.CapabilityRegistry

/-! Types and contract ids share one map. Lookups agree with the descriptors that were last
registered for their types exactly as long as no type or contract id takes the place of another one
and types keep their contract ids.
-/

namespace Axionvera.Registry

open Axionvera.Foundation

variable {μ : Type}

/-- The descriptor has the text as its type or its contract id. -/
def ContractDescriptor.mentions (descriptor : ContractDescriptor μ) (key : String) : Bool :=
  descriptor.type = key || descriptor.idKey = some key

/-- The descriptor that was last registered for a type. -/
def CapabilityRegistry.current (registry : CapabilityRegistry μ) (type : String)
    : Option (ContractDescriptor μ) :=
  lastWhere (fun descriptor => descriptor.type = type) registry.objects

/-- Lookups find what was last registered: by a type its descriptor, by a contract id a current
descriptor with that id, if there is one, and in the list there is one descriptor for every type.
-/
structure CapabilityRegistry.LookupsAgree (registry : CapabilityRegistry μ) : Prop where
  types
    : ∀ type descriptor,
        registry.current type = some descriptor → registry.lookup type = some descriptor
  ids
    : ∀ id descriptor,
        isContractId id = true
        → registry.lookup id = some descriptor
        → registry.current descriptor.type = some descriptor ∧ descriptor.idKey = some id
  found
    : ∀ id type descriptor,
        registry.current type = some descriptor
        → descriptor.idKey = some id
        → ∃ other, registry.lookup id = some other
  listedOnce : (registry.list.map ContractDescriptor.type).Nodup
  listed
    : ∀ descriptor,
        descriptor ∈ registry.list ↔ registry.current descriptor.type = some descriptor

/-- One call of `register`; one that throws changes nothing. -/
def registryStep (registry : CapabilityRegistry μ) (descriptor : ContractDescriptor μ)
    : Option (CapabilityRegistry μ) :=
  match registry.register descriptor with
  | .ok (_, next) => some next
  | .error _ => some registry

/-- A registered descriptor does not have the type of another one as its contract id, has no type in
the form of a contract id but its own, and keeps the contract id under which its type is found.
-/
structure KeepsKeys (registry : CapabilityRegistry μ) (normalized : ContractDescriptor μ)
    : Prop where
  idIsNoType
    : ∀ id,
        normalized.idKey = some id → id = normalized.type ∨ registry.current id = none
  typeIsNoId
    : isContractId normalized.type = true → normalized.idKey = some normalized.type
  keepsId
    : ∀ old id,
        registry.current normalized.type = some old
        → old.idKey = some id
        → registry.lookup id = some old
        → normalized.idKey = some id

/-- A call of `register` keeps the keys of the registry, or throws. -/
def RegistersKeepingKeys (registry : CapabilityRegistry μ) (descriptor : ContractDescriptor μ)
    : Prop :=
  validate descriptor = [] → KeepsKeys registry (normalize descriptor)

/-- The keys of the map refer to the last objects that mention them, and contract ids have their
form.
-/
structure CapabilityRegistry.IsConsistent (registry : CapabilityRegistry μ) : Prop where
  references
    : ∀ key,
        registry.contracts.get key
        = lastIndex (fun descriptor => descriptor.mentions key) registry.objects
  wellFormed
    : ∀ descriptor ∈ registry.objects, ∀ id,
        descriptor.idKey = some id → isContractId id = true

variable {registry : CapabilityRegistry μ} {normalized : ContractDescriptor μ}

/-- A consistent registry finds the last object that mentions a key. -/
theorem CapabilityRegistry.IsConsistent.lookup_eq (consistent : registry.IsConsistent)
    (key : String)
    : registry.lookup key
      = lastWhere (fun descriptor => descriptor.mentions key) registry.objects := by
  rw [CapabilityRegistry.lookup, consistent.references, lastWhere]

/-- What is found mentions the key. -/
theorem CapabilityRegistry.IsConsistent.mentions_of_lookup (consistent : registry.IsConsistent)
    {key : String} {descriptor : ContractDescriptor μ}
    (found : registry.lookup key = some descriptor)
    : descriptor ∈ registry.objects ∧ descriptor.mentions key = true := by
  rw [consistent.lookup_eq] at found
  exact lastWhere_eq_some found

/-- A registry is consistent after one more object with a contract id of its form. -/
theorem CapabilityRegistry.IsConsistent.add (consistent : registry.IsConsistent)
    (wellFormed : ∀ id, normalized.idKey = some id → isContractId id = true)
    : (registry.add normalized).IsConsistent := by
  constructor
  case references =>
    intro key
    rw [CapabilityRegistry.add, lastIndex_concat]
    dsimp only
    rw [ContractDescriptor.mentions, ← consistent.references]
    cases normalized.idKey with
    | none =>
        by_cases isType : normalized.type = key
        · simp [isType]
        · simp [isType, Ne.symm isType]
    | some id =>
        by_cases isType : normalized.type = key
        · by_cases isId : id = key <;> simp [isType, isId]
        · by_cases isId : id = key
          · simp [isType, isId]
          · simp [isType, isId, Ne.symm isType, Ne.symm isId]
  case wellFormed =>
    intro descriptor member
    rcases List.mem_append.mp member with isOld | isNew
    · exact consistent.wellFormed descriptor isOld
    · obtain rfl := List.mem_singleton.mp isNew
      exact wellFormed

/-- What is current after one more object. -/
theorem current_add (type : String)
    : (registry.add normalized).current type
      = if normalized.type = type then some normalized else registry.current type := by
  rw [CapabilityRegistry.current, CapabilityRegistry.add, lastWhere_concat,
    CapabilityRegistry.current]
  simp only [decide_eq_true_eq]

/-- What is found after one more object. -/
theorem CapabilityRegistry.IsConsistent.lookup_add (consistent : registry.IsConsistent)
    (nextConsistent : (registry.add normalized).IsConsistent) (key : String)
    : (registry.add normalized).lookup key
      = if normalized.mentions key then some normalized else registry.lookup key := by
  rw [nextConsistent.lookup_eq, CapabilityRegistry.add, lastWhere_concat, consistent.lookup_eq]

-----------------------------------------------------------------------------------------
-- The list
-----------------------------------------------------------------------------------------

/-- The list has what is found under some key. -/
theorem mem_list_iff {descriptor : ContractDescriptor μ}
    : descriptor ∈ registry.list ↔ ∃ key, registry.lookup key = some descriptor := by
  simp only [CapabilityRegistry.list, List.mem_filterMap, List.mem_eraseDups, InsertionMap.values,
    List.mem_map, CapabilityRegistry.lookup, Option.bind_eq_some_iff]
  constructor
  · rintro ⟨_, ⟨⟨key, reference⟩, isEntry, rfl⟩, isObject⟩
    exact ⟨key, reference, InsertionMap.get_eq_some_iff.mpr isEntry, isObject⟩
  · rintro ⟨key, reference, isReference, isObject⟩
    exact ⟨reference, ⟨(key, reference), InsertionMap.get_eq_some_iff.mp isReference, rfl⟩,
      isObject⟩

/-- If lookups find what is current, the list has what is current. -/
theorem CapabilityRegistry.IsConsistent.listed (consistent : registry.IsConsistent)
    (types
      : ∀ type descriptor,
          registry.current type = some descriptor → registry.lookup type = some descriptor)
    (ids
      : ∀ id descriptor,
          isContractId id = true
          → registry.lookup id = some descriptor
          → registry.current descriptor.type = some descriptor ∧ descriptor.idKey = some id)
    (descriptor : ContractDescriptor μ)
    : descriptor ∈ registry.list ↔ registry.current descriptor.type = some descriptor := by
  rw [mem_list_iff]
  constructor
  · rintro ⟨key, found⟩
    obtain ⟨member, mentions⟩ := consistent.mentions_of_lookup found
    rw [ContractDescriptor.mentions, Bool.or_eq_true, decide_eq_true_eq, decide_eq_true_eq]
      at mentions
    rcases mentions with rfl | isId
    · obtain ⟨last, isLast⟩
          :=
        exists_lastWhere (fun other => other.type = descriptor.type) member (decide_eq_true rfl)
      have isCurrent : registry.current descriptor.type = some last := isLast
      rw [types _ _ isCurrent] at found
      rw [isCurrent, found]
    · exact (ids key descriptor (consistent.wellFormed descriptor member key isId) found).1
  · intro isCurrent
    exact ⟨descriptor.type, types _ _ isCurrent⟩

/-- If the list has what is current, it has one descriptor for a type: two objects under keys of the
map are told apart by the later one, which would have taken the key of the earlier one.
-/
theorem CapabilityRegistry.IsConsistent.listedOnce (consistent : registry.IsConsistent)
    (listed
      : ∀ descriptor,
          descriptor ∈ registry.list ↔ registry.current descriptor.type = some descriptor)
    : (registry.list.map ContractDescriptor.type).Nodup := by
  have notLater
      : ∀ early late first second,
          early ∈ registry.contracts.values
          → late ∈ registry.contracts.values
          → early < late
          → registry.objects[early]? = some first
          → registry.objects[late]? = some second
          → first.type ≠ second.type := by
    intro early late first second isEarly isLate before isFirst isSecond sameType
    obtain ⟨⟨key, _⟩, isEntry, rfl⟩ := List.mem_map.mp isEarly
    have isLast := InsertionMap.get_eq_some_iff.mpr isEntry
    have isLookup : registry.lookup key = some first := by
      rw [CapabilityRegistry.lookup, isLast]
      exact isFirst
    obtain ⟨⟨otherKey, _⟩, isOther, rfl⟩ := List.mem_map.mp isLate
    have isOtherLookup : registry.lookup otherKey = some second := by
      rw [CapabilityRegistry.lookup, InsertionMap.get_eq_some_iff.mpr isOther]
      exact isSecond
    have firstCurrent := (listed first).mp (mem_list_iff.mpr ⟨key, isLookup⟩)
    have secondCurrent := (listed second).mp (mem_list_iff.mpr ⟨otherKey, isOtherLookup⟩)
    rw [sameType, secondCurrent] at firstCurrent
    obtain rfl := Option.some.inj firstCurrent
    rw [consistent.references] at isLast
    have noMention := (lastIndex_eq_some isLast).2 _ _ before isSecond
    rw [(consistent.mentions_of_lookup isLookup).2] at noMention
    cases noMention
  rw [List.Nodup, List.pairwise_map, CapabilityRegistry.list, List.pairwise_filterMap]
  refine (nodup_eraseDups registry.contracts.values).imp_of_mem ?_
  intro left right isLeft isRight differ first isFirst second isSecond
  rw [List.mem_eraseDups] at isLeft isRight
  rcases Nat.lt_or_gt_of_ne differ with before | behind
  · exact notLater left right first second isLeft isRight before isFirst isSecond
  · exact (notLater right left second first isRight isLeft behind isSecond isFirst).symm

-----------------------------------------------------------------------------------------
-- Steps
-----------------------------------------------------------------------------------------

/-- A contract id of a current descriptor is found. -/
theorem CapabilityRegistry.IsConsistent.found (consistent : registry.IsConsistent)
    {id type : String}
    {descriptor : ContractDescriptor μ} (isCurrent : registry.current type = some descriptor)
    (isId : descriptor.idKey = some id)
    : ∃ other, registry.lookup id = some other := by
  rw [consistent.lookup_eq]
  have mentions : descriptor.mentions id = true := by
    rw [ContractDescriptor.mentions, isId, decide_eq_true rfl, Bool.or_true]
  exact exists_lastWhere (fun other => other.mentions id) (lastWhere_eq_some isCurrent).1 mentions

/-- A current descriptor has the type that it is current for. -/
theorem type_of_current {type : String} {descriptor : ContractDescriptor μ}
    (isCurrent : registry.current type = some descriptor)
    : descriptor.type = type :=
  of_decide_eq_true (lastWhere_eq_some isCurrent).2

/-- A descriptor mentions its type and its contract id. -/
theorem mentions_iff {descriptor : ContractDescriptor μ} {key : String}
    : descriptor.mentions key = true ↔ descriptor.type = key ∨ descriptor.idKey = some key := by
  rw [ContractDescriptor.mentions, Bool.or_eq_true, decide_eq_true_eq, decide_eq_true_eq]

/-- Types are found after one more object that keeps the keys. -/
theorem KeepsKeys.types (keeps : KeepsKeys registry normalized) (consistent : registry.IsConsistent)
    (nextConsistent : (registry.add normalized).IsConsistent) (agree : registry.LookupsAgree)
    {type : String} {descriptor : ContractDescriptor μ}
    (isCurrent : (registry.add normalized).current type = some descriptor)
    : (registry.add normalized).lookup type = some descriptor := by
  rw [current_add] at isCurrent
  rw [consistent.lookup_add nextConsistent]
  split_ifs at isCurrent with isType
  · rw [if_pos (mentions_iff.mpr (.inl isType)), isCurrent]
  · rw [if_neg, agree.types _ _ isCurrent]
    intro mentions
    rcases mentions_iff.mp mentions with isOwn | isId
    · exact isType isOwn
    · rcases keeps.idIsNoType type isId with rfl | isNone
      · exact isType rfl
      · rw [isNone] at isCurrent
        cases isCurrent

/-- What a contract id finds after one more object that keeps the keys is current and has that id.
-/
theorem KeepsKeys.ids (keeps : KeepsKeys registry normalized) (consistent : registry.IsConsistent)
    (nextConsistent : (registry.add normalized).IsConsistent) (agree : registry.LookupsAgree)
    {id : String} {descriptor : ContractDescriptor μ} (isId : isContractId id = true)
    (found : (registry.add normalized).lookup id = some descriptor)
    : (registry.add normalized).current descriptor.type = some descriptor
      ∧ descriptor.idKey = some id := by
  rw [consistent.lookup_add nextConsistent] at found
  split_ifs at found with mentions
  · obtain rfl := Option.some.inj found
    refine ⟨by rw [current_add, if_pos rfl], ?_⟩
    rcases mentions_iff.mp mentions with rfl | isOwn
    · exact keeps.typeIsNoId isId
    · exact isOwn
  · obtain ⟨isCurrent, isOwn⟩ := agree.ids id descriptor isId found
    refine ⟨?_, isOwn⟩
    rw [current_add, if_neg, isCurrent]
    intro sameType
    rw [← sameType] at isCurrent
    exact mentions (mentions_iff.mpr (.inr (keeps.keepsId descriptor id isCurrent isOwn found)))

/-- An object after which lookups agree keeps the keys. -/
theorem keepsKeys_of_lookupsAgree (consistent : registry.IsConsistent)
    (nextConsistent : (registry.add normalized).IsConsistent)
    (nextAgree : (registry.add normalized).LookupsAgree)
    : KeepsKeys registry normalized := by
  have lookupAfter := consistent.lookup_add nextConsistent
  have typeIsNoId
      : isContractId normalized.type = true → normalized.idKey = some normalized.type := by
    intro isId
    refine (nextAgree.ids normalized.type normalized isId ?_).2
    rw [lookupAfter, if_pos (mentions_iff.mpr (.inl rfl))]
  constructor
  case idIsNoType =>
    intro id isOwn
    by_contra isOtherType
    rw [not_or] at isOtherType
    obtain ⟨old, isOld⟩ := Option.ne_none_iff_exists'.mp isOtherType.2
    have isCurrent : (registry.add normalized).current id = some old := by
      rw [current_add, if_neg (Ne.symm isOtherType.1), isOld]
    have found := nextAgree.types id old isCurrent
    rw [lookupAfter, if_pos (mentions_iff.mpr (.inr isOwn)), Option.some.injEq] at found
    exact isOtherType.1 (found ▸ (type_of_current isOld).symm)
  case typeIsNoId => exact typeIsNoId
  case keepsId =>
    intro old id isOld isOwn found
    by_contra isLost
    have isId := consistent.wellFormed old (lastWhere_eq_some isOld).1 id isOwn
    have noMention : ¬ normalized.mentions id = true := by
      intro mentions
      rcases mentions_iff.mp mentions with rfl | isNew
      · exact isLost (typeIsNoId isId)
      · exact isLost isNew
    have foundAfter : (registry.add normalized).lookup id = some old := by
      rw [lookupAfter, if_neg noMention, found]
    have stillCurrent := (nextAgree.ids id old isId foundAfter).1
    rw [current_add, if_pos (type_of_current isOld).symm] at stillCurrent
    exact isLost (Option.some.inj stillCurrent ▸ isOwn)

/-- Lookups agree after one more object exactly if it keeps the keys. -/
theorem keepsKeys_iff (consistent : registry.IsConsistent)
    (nextConsistent : (registry.add normalized).IsConsistent) (agree : registry.LookupsAgree)
    : KeepsKeys registry normalized ↔ (registry.add normalized).LookupsAgree := by
  constructor
  · intro keeps
    have types (type) (descriptor : ContractDescriptor μ)
        (isCurrent : (registry.add normalized).current type = some descriptor)
        : (registry.add normalized).lookup type = some descriptor :=
      keeps.types consistent nextConsistent agree isCurrent
    have ids (id) (descriptor : ContractDescriptor μ) (isId : isContractId id = true)
        (found : (registry.add normalized).lookup id = some descriptor)
        : (registry.add normalized).current descriptor.type = some descriptor
          ∧ descriptor.idKey = some id :=
      keeps.ids consistent nextConsistent agree isId found
    have listed := nextConsistent.listed types ids
    exact ⟨types, ids, fun _ _ _ isCurrent isId => nextConsistent.found isCurrent isId,
      nextConsistent.listedOnce listed, listed⟩
  · exact keepsKeys_of_lookupsAgree consistent nextConsistent

-----------------------------------------------------------------------------------------
-- Valid descriptors
-----------------------------------------------------------------------------------------

/-- Hexadecimal digits are letters or digits. -/
theorem isAlphanum_of_isHexDigit {character : Char} (isHex : isHexDigit character = true)
    : character.isAlphanum = true := by
  have ascii : character.toNat < 128 := by
    simp only [isHexDigit, Bool.or_eq_true, Bool.and_eq_true, decide_eq_true_eq] at isHex
    rcases isHex with (isDigit | ⟨_, less⟩) | ⟨_, less⟩
    · exact ascii_of_isAlphanum (by rw [Char.isAlphanum, isDigit, Bool.or_true])
    · exact lt_of_le_of_lt (UInt32.le_iff_toNat_le.mp less) (by decide)
    · exact lt_of_le_of_lt (UInt32.le_iff_toNat_le.mp less) (by decide)
  have checked := forall_ascii (fun character => !isHexDigit character || character.isAlphanum)
    (by decide) ascii
  simpa [isHex] using checked

/-- Contract ids are made of letters and digits. -/
theorem isAlphanum_of_isContractId {id : String} (isId : isContractId id = true)
    : ∀ character ∈ id.toList, character.isAlphanum = true := by
  simp only [isContractId, Bool.or_eq_true, Bool.and_eq_true, decide_eq_true_eq, List.all_eq_true]
    at isId
  intro character member
  rcases isId with (⟨⟨isMark, _⟩, allHex⟩ | ⟨_, allUpper⟩) | ⟨_, allHex⟩
  · rw [← List.take_append_drop 2 id.toList, isMark] at member
    rcases List.mem_append.mp member with inMark | isBehind
    · have marks : ∀ character ∈ ['0', 'x'], character.isAlphanum = true :=
        forall_mem_of_all (by decide)
      exact marks character inMark
    · exact isAlphanum_of_isHexDigit (allHex character isBehind)
  · rcases allUpper character member with isUpper | isDigit
    · have isAlpha : character.isAlpha = true := Bool.or_eq_true_iff.mpr (.inl isUpper)
      rw [Char.isAlphanum, isAlpha, Bool.true_or]
    · rw [Char.isAlphanum, isDigit, Bool.or_true]
  · exact isAlphanum_of_isHexDigit (allHex character member)

/-- A text of letters and digits is trimmed to itself. -/
theorem trim_of_isAlphanum {text : String}
    (plain : ∀ character ∈ text.toList, character.isAlphanum = true)
    : Session.trim text = text := by
  have dropNothing
      : ∀ characters : List Char,
          (∀ character ∈ characters, character.isAlphanum = true)
          → characters.dropWhile Errors.isTrimmed = characters := by
    intro characters allPlain
    cases characters with
    | nil => rfl
    | cons first rest =>
        have isPlain := allPlain first List.mem_cons_self
        have checked := forall_ascii
          (fun character => !character.isAlphanum || !Errors.isTrimmed character) (by decide)
          (ascii_of_isAlphanum isPlain)
        have kept : Errors.isTrimmed first = false := by simpa [isPlain] using checked
        rw [List.dropWhile_cons_of_neg (by rw [kept]; exact Bool.false_ne_true)]
  rw [Session.trim, dropNothing _ plain, dropNothing _ (by simpa using plain), List.reverse_reverse,
    String.ofList_toList]

/-- The contract id of a valid descriptor has its form. -/
theorem isContractId_of_validate {descriptor : ContractDescriptor μ}
    (valid : validate descriptor = []) {id : String} (isId : (normalize descriptor).idKey = some id)
    : isContractId id = true := by
  rw [ContractDescriptor.idKey, normalize, Option.filter_eq_some_iff, Option.map_eq_some_iff]
    at isId
  obtain ⟨⟨raw, isRaw, rfl⟩, notEmpty⟩ := isId
  simp only [validate, isRaw, List.append_eq_nil_iff] at valid
  have checked := valid.1.1.1.2
  rw [ite_eq_right_iff] at checked
  have isContract : raw = "" ∨ isContractId raw = true := by
    by_contra neither
    rw [not_or] at neither
    refine absurd (checked ?_) (List.cons_ne_nil _ _)
    rw [Option.any_some, eq_false_of_ne_true neither.2, decide_eq_true neither.1]
    rfl
  rcases isContract with rfl | isContract
  · exact absurd notEmpty (by decide)
  · rwa [trim_of_isAlphanum (isAlphanum_of_isContractId isContract)]

-----------------------------------------------------------------------------------------
-- Runs
-----------------------------------------------------------------------------------------

/-- A call of `register` adds the normalized descriptor if it is valid, and otherwise nothing. -/
theorem registryStep_eq (registry : CapabilityRegistry μ) (descriptor : ContractDescriptor μ)
    : registryStep registry descriptor
      = some
        (if validate descriptor = [] then registry.add (normalize descriptor) else registry) := by
  rw [registryStep, CapabilityRegistry.register]
  split_ifs <;> rfl

/-- Every call leaves the registry consistent. -/
theorem CapabilityRegistry.IsConsistent.step (consistent : registry.IsConsistent)
    {descriptor : ContractDescriptor μ} {next : CapabilityRegistry μ}
    (taken : registryStep registry descriptor = some next)
    : next.IsConsistent := by
  rw [registryStep_eq, Option.some.injEq] at taken
  subst taken
  split_ifs with valid
  · exact consistent.add fun _ isId => isContractId_of_validate valid isId
  · exact consistent

/-- Lookups agree after a call exactly if it keeps the keys or throws. -/
theorem registersKeepingKeys_iff {descriptor : ContractDescriptor μ} {next : CapabilityRegistry μ}
    (taken : registryStep registry descriptor = some next) (consistent : registry.IsConsistent)
    (agree : registry.LookupsAgree)
    : RegistersKeepingKeys registry descriptor ↔ next.LookupsAgree := by
  have nextConsistent := consistent.step taken
  rw [registryStep_eq, Option.some.injEq] at taken
  subst taken
  rw [RegistersKeepingKeys]
  split_ifs at nextConsistent ⊢ with valid
  · rw [← keepsKeys_iff consistent nextConsistent agree]
    exact ⟨fun keeps => keeps valid, fun keeps _ => keeps⟩
  · exact iff_of_true (fun isValid => absurd isValid valid) agree

/-- Throughout any sequence of calls of `register` lookups agree with what was last registered
exactly if every call with a valid descriptor keeps the keys.
-/
theorem lookupsAgree_iff {descriptors : List (ContractDescriptor μ)} {final : CapabilityRegistry μ}
    (reached : run registryStep .initial descriptors = some final)
    : (∀ front middle,
          front <+: descriptors
          → run registryStep .initial front = some middle
          → middle.LookupsAgree)
      ↔ stepsSatisfy registryStep RegistersKeepingKeys .initial descriptors := by
  have all
      : stepsSatisfy registryStep (fun _ _ => True) (.initial : CapabilityRegistry μ) descriptors :=
    stepsSatisfy_of_forall_mem _ fun _ _ _ => trivial
  have consistent : (.initial : CapabilityRegistry μ).IsConsistent :=
    ⟨fun _ => rfl, fun _ member => absurd member List.not_mem_nil⟩
  have agree : (.initial : CapabilityRegistry μ).LookupsAgree := by
    constructor
    case types => exact fun _ _ isCurrent => nomatch isCurrent
    case ids => exact fun _ _ _ found => nomatch found
    case found => exact fun _ _ _ isCurrent => nomatch isCurrent
    case listedOnce => exact List.nodup_nil
    case listed => exact fun _ => iff_of_false List.not_mem_nil nofun
  exact forall_prefix_iff_stepsSatisfy
    (fun _ _ _ _ taken consistent _ _ => consistent.step taken)
    (fun _ _ _ _ taken consistent agree => registersKeepingKeys_iff taken consistent agree)
    consistent agree all reached

/-- Whether a descriptor keeps the keys can be computed. -/
instance [DecidableEq μ] (registry : CapabilityRegistry μ) (normalized : ContractDescriptor μ)
    : Decidable (KeepsKeys registry normalized) :=
  decidable_of_iff
    ((∀ id ∈ normalized.idKey, id = normalized.type ∨ registry.current id = none)
      ∧ (isContractId normalized.type = true → normalized.idKey = some normalized.type)
      ∧ ∀ old ∈ registry.current normalized.type, ∀ id ∈ old.idKey,
          registry.lookup id = some old → normalized.idKey = some id)
    ⟨fun ⟨idIsNoType, typeIsNoId, keepsId⟩ =>
        ⟨idIsNoType, typeIsNoId, fun old id isOld isId => keepsId old isOld id isId⟩,
      fun keeps =>
        ⟨keeps.idIsNoType, keeps.typeIsNoId,
          fun old isOld id isId => keeps.keepsId old id isOld isId⟩⟩

instance [DecidableEq μ] (registry : CapabilityRegistry μ)
    : DecidablePred (RegistersKeepingKeys registry) :=
  fun descriptor => inferInstanceAs (Decidable (validate descriptor = [] → KeepsKeys _ _))

/-- A descriptor of a vault. -/
def vaultDescriptor (version : String) (contractId : Option String) : ContractDescriptor Unit where
  type := "vault"
  displayName := "Vault"
  version := version
  contractId := contractId
  capabilities := [.balanceRead]
  methods :=
    [{ name := "balance", capability := .balanceRead, mutability := .view, description := "" }]
  metadata := none

/-- The id of a contract. -/
def vaultId : String := "0x00000000000000000000000000000000000000aa"

/-- A new version of a descriptor with the same contract id is found in both ways. -/
theorem lookupsAgree_iff_newVersion
    : ∃ final,
        run registryStep .initial
            [vaultDescriptor "1" (some vaultId), vaultDescriptor "2" (some vaultId)]
          = some final
        ∧ ∀ front middle,
            front <+: [vaultDescriptor "1" (some vaultId), vaultDescriptor "2" (some vaultId)]
            → run registryStep .initial front = some middle
            → middle.LookupsAgree :=
  ⟨_, rfl, (lookupsAgree_iff rfl).mpr (by decide)⟩

/-- A new version without a contract id leaves the old one behind, which is still found by its id.
-/
theorem not_lookupsAgree
    : validate (vaultDescriptor "1" (some vaultId)) = []
      ∧ validate (vaultDescriptor "2" none) = []
      ∧ ∃ final,
          run registryStep .initial [vaultDescriptor "1" (some vaultId), vaultDescriptor "2" none]
            = some final
          ∧ ¬ final.LookupsAgree := by
  refine ⟨by decide, by decide, _, rfl, ?_⟩
  intro agree
  have stale := (agree.ids vaultId (vaultDescriptor "1" (some vaultId)) (by decide) (by decide)).1
  exact absurd stale (by decide)

end Axionvera.Registry
