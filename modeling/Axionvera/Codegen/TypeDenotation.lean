import Axionvera.Codegen.TypePrinting
import Mathlib.Order.MinMax

/-! When a printed type has the values of its translation. What is read of a vector of options has
arrays of `undefined` instead of arrays of options, and no type around it hides the difference.
-/

namespace Axionvera.Codegen

open Axionvera.Foundation

variable {characters : ScriptCharacters}

/-- The text of a printed type is read as its reading. -/
theorem readType_printed {typeDef : ScSpecTypeDef} (named : HasTypeNames characters typeDef)
    : readType characters (scSpecTypeToTs typeDef).ts = some (readAs typeDef) := by
  have tokens := isReadAs_printed named [] trivial
  rw [List.append_nil, tokenize, Option.map_some] at tokens
  have read := readAll_printed named []
  simp only [readType, tokens, finished, and_self, if_true, List.append_nil, Option.bind_eq_bind,
    Option.bind_some, read, readAs]

/-- The brackets bind tighter than the bar, unless there are parentheses. -/
example
    : readType .ascii "number | undefined[]"
      = some (.union (.keyword "number") (.array (.keyword "undefined"))) :=
  rfl

example
    : readType .ascii "(number | undefined)[]"
      = some (.array (.union (.keyword "number") (.keyword "undefined"))) :=
  rfl

-----------------------------------------------------------------------------------------
-- Types that are read as their translation

/-- Without a vector of options, only an option is read as several union members, by induction on
the elements of vectors.
-/
theorem members_eq_none {typeDef : ScSpecTypeDef} (noVector : HasNoVectorOfOptions typeDef)
    (notOption : typeDef.isOption = false)
    : (readingOf typeDef).1 = none := by
  cases typeDef with
  | vec elementType =>
      have elements : (readingOf elementType).1 = none := members_eq_none noVector.2 noVector.1
      exact elements
  | option valueType => cases notOption
  | simple | map | tuple | udt | result | bytesN => rfl

mutual
/-- Without a vector of options, a printed type is read as its translation, by induction on it. -/
theorem readAs_eq_translation {typeDef : ScSpecTypeDef} (noVector : HasNoVectorOfOptions typeDef)
    : readAs typeDef = translation typeDef := by
  cases typeDef with
  | simple type => rfl
  | option valueType =>
      exact congrArg (TsType.union · (.keyword "undefined")) (readAs_eq_translation noVector)
  | result okType errorType => rfl
  | vec elementType =>
      obtain ⟨notOption, noVector⟩ := noVector
      have element := readAs_eq_translation noVector
      rw [readAs, members_eq_none noVector notOption] at element
      rw [readAs, readingOf, members_eq_none noVector notOption, translation, ← element]
      rfl
  | map keyType valueType =>
      exact congrArg₂ TsType.map (readAs_eq_translation noVector.1)
        (readAs_eq_translation noVector.2)
  | tuple valueTypes => exact congrArg TsType.tuple (readingsOf_eq_translations noVector)
  | bytesN n => rfl
  | udt name => rfl

/-- The same of the types of a tuple, by induction on them. -/
theorem readingsOf_eq_translations {valueTypes : List ScSpecTypeDef}
    (noVector : AllHaveNoVectorOfOptions valueTypes)
    : readingsOf valueTypes = translations valueTypes := by
  match valueTypes, noVector with
  | [], _ => rfl
  | _ :: _, noVector =>
      exact congrArg₂ List.cons (readAs_eq_translation noVector.1)
        (readingsOf_eq_translations noVector.2)
end

-----------------------------------------------------------------------------------------
-- Values of types

/-- The type of `undefined` has this value alone. -/
theorem hasValue_undefined (value : TsValue)
    : (TsType.keyword "undefined").hasValue value ↔ value = .undefined := by
  rw [TsType.hasValue, if_pos rfl]

/-- A keyword other than `undefined` has values of its own. -/
theorem hasValue_keyword {name : String} (notUndefined : name ≠ "undefined") (value : TsValue)
    : (TsType.keyword name).hasValue value ↔ ∃ which, value = .member (.keyword name) which := by
  rw [TsType.hasValue, if_neg notUndefined]

theorem hasValue_union (left right : TsType) (value : TsValue)
    : (TsType.union left right).hasValue value ↔ left.hasValue value ∨ right.hasValue value := by
  rw [TsType.hasValue]

/-- An array of one value has the type of arrays exactly if the value has that of its elements. -/
theorem hasValue_array_singleton (element : TsType) (value : TsValue)
    : (TsType.array element).hasValue (.array [value]) ↔ element.hasValue value := by
  simp [TsType.hasValue]

/-- Values have the types of a tuple exactly if their array has the type of the tuple. -/
theorem hasValue_tuple (items : List TsType) (values : List TsValue)
    : (TsType.tuple items).hasValue (.array values) ↔ TsType.haveValues items values := by
  simp [TsType.hasValue]

/-- A map with one entry has the type of maps exactly if its key and value have theirs. -/
theorem hasValue_map_singleton (key value : TsType) (found other : TsValue)
    : (TsType.map key value).hasValue (.map [found] [other])
      ↔ key.hasValue found ∧ value.hasValue other := by
  simp [TsType.hasValue]

-----------------------------------------------------------------------------------------
-- The depth of values

mutual
/-- How deep arrays and maps are nested in a value. -/
def depth : TsValue → Nat
  | .undefined | .member _ _ => 0
  | .array items => depths items + 1
  | .map keys values => max (depths keys) (depths values) + 1

/-- How deep they are nested in some of the values. -/
def depths : List TsValue → Nat
  | [] => 0
  | value :: values => max (depth value) (depths values)
end

mutual
/-- How deep arrays and maps can be nested in the values of a type's translation. -/
def maxDepth : ScSpecTypeDef → Nat
  | .option valueType => maxDepth valueType
  | .vec elementType => maxDepth elementType + 1
  | .map keyType valueType => max (maxDepth keyType) (maxDepth valueType) + 1
  | .tuple valueTypes => maxDepths valueTypes + 1
  | .simple _ | .result _ _ | .bytesN _ | .udt _ => 0

/-- The same of the types of a tuple. -/
def maxDepths : List ScSpecTypeDef → Nat
  | [] => 0
  | valueType :: valueTypes => max (maxDepth valueType) (maxDepths valueTypes)
end

/-- Values are nested no deeper together than each of them, by induction on them. -/
theorem depths_le_of_forall {values : List TsValue} {bound : Nat}
    (each : ∀ value ∈ values, depth value ≤ bound)
    : depths values ≤ bound := by
  induction values with
  | nil => exact Nat.zero_le bound
  | cons value values ih =>
      obtain ⟨first, others⟩ := List.forall_mem_cons.mp each
      exact Nat.max_le.mpr ⟨first, ih others⟩

/-- (Bounded type bound) requires the values of the type to be nested no deeper than the bound. -/
def Bounded (type : TsType) (bound : Nat) : Prop :=
  ∀ value, type.hasValue value → depth value ≤ bound

/-- Values that are not nested. -/
theorem bounded_simpleTranslation (type : ScSpecType) : Bounded (simpleTranslation type) 0 := by
  intro value has
  cases type
  all_goals
    simp only [simpleTranslation, TsType.hasValue, String.reduceEq, if_false] at has
    obtain ⟨which, rfl⟩ := has
    exact le_rfl

/-- The value of `undefined` is not nested. -/
theorem bounded_undefined (bound : Nat) : Bounded (.keyword "undefined") bound := by
  intro value has
  rw [(hasValue_undefined value).mp has]
  exact Nat.zero_le bound

/-- A union is bounded by a bound of its parts. -/
theorem Bounded.joined {members : Option TsType} {operand : TsType} {bound : Nat}
    (areBounded : ∀ type, members = some type → Bounded type bound)
    (isBounded : Bounded operand bound)
    : Bounded (joined members operand) bound := by
  cases members with
  | none => exact isBounded
  | some left =>
      intro value has
      rcases has with inMembers | inOperand
      · exact areBounded left rfl value inMembers
      · exact isBounded value inOperand

/-- Arrays of a bounded type are nested one deeper. -/
theorem Bounded.array {element : TsType} {bound : Nat} (isBounded : Bounded element bound)
    : Bounded (.array element) (bound + 1) := by
  intro value has
  obtain ⟨items, rfl, each⟩ := has
  exact Nat.succ_le_succ (depths_le_of_forall fun item member => isBounded item (each item member))

/-- A bound can be raised. -/
theorem Bounded.mono {type : TsType} {bound higher : Nat} (isBounded : Bounded type bound)
    (isHigher : bound ≤ higher)
    : Bounded type higher :=
  fun value has => (isBounded value has).trans isHigher

mutual
/-- What a printed type is read as has no deeper values than the type, by induction on it. -/
theorem bounded_reading (typeDef : ScSpecTypeDef)
    : (∀ type, (readingOf typeDef).1 = some type → Bounded type (maxDepth typeDef))
      ∧ Bounded (readingOf typeDef).2 (maxDepth typeDef) := by
  cases typeDef with
  | simple type => exact ⟨nofun, bounded_simpleTranslation type⟩
  | option valueType =>
      obtain ⟨members, operand⟩ := bounded_reading valueType
      refine ⟨fun type isMember => ?_, bounded_undefined _⟩
      obtain rfl := Option.some.inj isMember
      exact Bounded.joined members operand
  | result okType errorType =>
      exact ⟨nofun, bounded_simpleTranslation .val⟩
  | vec elementType =>
      obtain ⟨members, operand⟩ := bounded_reading elementType
      exact ⟨fun type isMember => (members type isMember).mono (Nat.le_succ _), operand.array⟩
  | map keyType valueType =>
      obtain ⟨keyMembers, keyOperand⟩ := bounded_reading keyType
      obtain ⟨valueMembers, valueOperand⟩ := bounded_reading valueType
      refine ⟨nofun, fun value has => ?_⟩
      obtain ⟨keys, values, rfl, _, eachKey, eachValue⟩ := has
      have keysBound : depths keys ≤ maxDepth keyType :=
        depths_le_of_forall fun key member =>
          Bounded.joined keyMembers keyOperand key (eachKey key member)
      have valuesBound : depths values ≤ maxDepth valueType :=
        depths_le_of_forall fun value member =>
          Bounded.joined valueMembers valueOperand value (eachValue value member)
      exact Nat.succ_le_succ (max_le_max keysBound valuesBound)
  | tuple valueTypes =>
      refine ⟨nofun, fun value has => ?_⟩
      obtain ⟨values, rfl, each⟩ := has
      exact Nat.succ_le_succ (bounded_readings valueTypes values each)
  | bytesN n => exact ⟨nofun, bounded_simpleTranslation .val⟩
  | udt name =>
      refine ⟨nofun, fun value has => ?_⟩
      obtain ⟨which, rfl⟩ := has
      exact le_rfl

/-- The same of the types of a tuple, by induction on them. -/
theorem bounded_readings (valueTypes : List ScSpecTypeDef) (values : List TsValue)
    (haveThem : TsType.haveValues (readingsOf valueTypes) values)
    : depths values ≤ maxDepths valueTypes := by
  match valueTypes, haveThem with
  | [], isEmpty =>
      rw [readingsOf, TsType.haveValues] at isEmpty
      rw [isEmpty]
      exact le_rfl
  | valueType :: valueTypes, each =>
      obtain ⟨value, others, rfl, has, haveOthers⟩ := each
      obtain ⟨members, operand⟩ := bounded_reading valueType
      exact max_le_max (Bounded.joined members operand value has)
        (bounded_readings valueTypes others haveOthers)
end

-----------------------------------------------------------------------------------------
-- Deepest values

/-- A type without parts has a value of its own. -/
theorem exists_simpleValue (type : ScSpecType)
    : ∃ name, (simpleTranslation type).hasValue (.member name 0) := by
  cases type
  all_goals
    simp only [simpleTranslation, TsType.hasValue, String.reduceEq, if_false]
    exact ⟨_, 0, rfl⟩

mutual
/-- A type's translation has a value other than `undefined` that is nested as deep as can be, by
induction on the type.
-/
theorem exists_deepest (typeDef : ScSpecTypeDef)
    : ∃ value,
        (translation typeDef).hasValue value
        ∧ value ≠ .undefined
        ∧ depth value = maxDepth typeDef := by
  cases typeDef with
  | simple type =>
      obtain ⟨name, has⟩ := exists_simpleValue type
      exact ⟨_, has, nofun, rfl⟩
  | option valueType =>
      obtain ⟨value, has, notUndefined, deepest⟩ := exists_deepest valueType
      exact ⟨value, .inl has, notUndefined, deepest⟩
  | result okType errorType => exact ⟨.member (.reference ["xdr", "ScVal"]) 0, ⟨0, rfl⟩, nofun, rfl⟩
  | vec elementType =>
      obtain ⟨value, has, _, deepest⟩ := exists_deepest elementType
      refine ⟨.array [value], ⟨[value], rfl, List.forall_mem_singleton.mpr has⟩, nofun, ?_⟩
      rw [depth, depths, depths, deepest, Nat.max_zero, maxDepth]
  | map keyType valueType =>
      obtain ⟨key, hasKey, _, keyDepth⟩ := exists_deepest keyType
      obtain ⟨value, hasValue, _, valueDepth⟩ := exists_deepest valueType
      refine ⟨.map [key] [value], ⟨[key], [value], rfl, rfl, List.forall_mem_singleton.mpr hasKey,
        List.forall_mem_singleton.mpr hasValue⟩, nofun, ?_⟩
      simp only [depth, depths, keyDepth, valueDepth, Nat.max_zero, maxDepth]
  | tuple valueTypes =>
      obtain ⟨values, haveValues, deepest⟩ := exists_deepests valueTypes
      refine ⟨.array values, ⟨values, rfl, haveValues⟩, nofun, ?_⟩
      rw [depth, deepest, maxDepth]
  | bytesN n => exact ⟨.member (.reference ["xdr", "ScVal"]) 0, ⟨0, rfl⟩, nofun, rfl⟩
  | udt name => exact ⟨.member (.reference [name]) 0, ⟨0, rfl⟩, nofun, rfl⟩

/-- The same of the types of a tuple, by induction on them. -/
theorem exists_deepests (valueTypes : List ScSpecTypeDef)
    : ∃ values,
        TsType.haveValues (translations valueTypes) values
        ∧ depths values = maxDepths valueTypes := by
  match valueTypes with
  | [] => exact ⟨[], rfl, rfl⟩
  | valueType :: valueTypes =>
      obtain ⟨value, has, _, deepest⟩ := exists_deepest valueType
      obtain ⟨values, haveValues, deepests⟩ := exists_deepests valueTypes
      refine ⟨value :: values, ⟨value, values, rfl, has, haveValues⟩, ?_⟩
      rw [depths, deepest, deepests, maxDepths]
end

/-- A value of the operand is one of the union. -/
theorem hasValue_joined {members : Option TsType} {operand : TsType} {value : TsValue}
    (has : operand.hasValue value)
    : (joined members operand).hasValue value := by
  cases members with
  | none => exact has
  | some left => exact .inr has

mutual
/-- What a printed type is read as has a value, by induction on the type. -/
theorem exists_readingValue (typeDef : ScSpecTypeDef)
    : ∃ value, (readingOf typeDef).2.hasValue value := by
  cases typeDef with
  | simple type =>
      obtain ⟨name, has⟩ := exists_simpleValue type
      exact ⟨_, has⟩
  | option valueType =>
      exact ⟨.undefined, (hasValue_undefined _).mpr rfl⟩
  | result okType errorType => exact ⟨_, 0, rfl⟩
  | vec elementType => exact ⟨.array [], [], rfl, nofun⟩
  | map keyType valueType => exact ⟨.map [] [], [], [], rfl, rfl, nofun, nofun⟩
  | tuple valueTypes =>
      obtain ⟨values, haveValues⟩ := exists_readingValues valueTypes
      exact ⟨.array values, values, rfl, haveValues⟩
  | bytesN n => exact ⟨_, 0, rfl⟩
  | udt name => exact ⟨_, 0, rfl⟩

/-- The same of the types of a tuple, by induction on them. -/
theorem exists_readingValues (valueTypes : List ScSpecTypeDef)
    : ∃ values, TsType.haveValues (readingsOf valueTypes) values := by
  match valueTypes with
  | [] => exact ⟨[], rfl⟩
  | valueType :: valueTypes =>
      obtain ⟨value, has⟩ := exists_readingValue valueType
      obtain ⟨values, haveValues⟩ := exists_readingValues valueTypes
      exact ⟨value :: values, value, values, rfl, hasValue_joined has, haveValues⟩
end

-----------------------------------------------------------------------------------------
-- Types that are read as others

/-- Where what is read of a type has several union members, the translation has a value beyond
them and the operand behind them, by induction on vectors. (`maxDepth` bounds the members.)
-/
theorem exists_beyond {typeDef : ScSpecTypeDef} {type : TsType}
    (isMember : (readingOf typeDef).1 = some type)
    : Bounded type (maxDepth typeDef)
      ∧ ∃ value,
          (translation typeDef).hasValue value
          ∧ ¬ (readingOf typeDef).2.hasValue value
          ∧ depth value = maxDepth typeDef := by
  refine ⟨(bounded_reading typeDef).1 type isMember, ?_⟩
  cases typeDef with
  | option valueType =>
      obtain ⟨value, has, notUndefined, deepest⟩ := exists_deepest valueType
      have notRead (isRead : (TsType.keyword "undefined").hasValue value) : False :=
        notUndefined ((hasValue_undefined value).mp isRead)
      exact ⟨value, .inl has, notRead, deepest⟩
  | vec elementType =>
      have inElement : (readingOf elementType).1 = some type := isMember
      obtain ⟨_, value, has, notRead, deepest⟩ := exists_beyond inElement
      refine ⟨.array [value], ⟨[value], rfl, List.forall_mem_singleton.mpr has⟩, ?_, ?_⟩
      · intro isRead
        obtain ⟨items, same, each⟩ := isRead
        obtain rfl := TsValue.array.inj same
        exact notRead (each value List.mem_cons_self)
      · rw [depth, depths, depths, deepest, Nat.max_zero, maxDepth]
  | simple | map | tuple | udt | result | bytesN => cases isMember

/-- (Differs typeDef) requires a value other than `undefined` that the translation of the type has
and what it is read as has not, or the other way round.
-/
def Differs (typeDef : ScSpecTypeDef) : Prop :=
  ∃ value,
    value ≠ .undefined
    ∧ ¬((readAs typeDef).hasValue value ↔ (translation typeDef).hasValue value)

/-- A difference in one of two places can be shown with a suitable choice for the other. -/
private theorem exists_differing {β : Type} {isRead has : Prop} {otherRead otherHas : β → Prop}
    (differ : ¬(isRead ↔ has)) (someRead : ∃ other, otherRead other)
    (someHas : ∃ other, otherHas other)
    : ∃ other, ¬(isRead ∧ otherRead other ↔ has ∧ otherHas other) := by
  by_cases reads : isRead
  · obtain ⟨other, isOther⟩ := someRead
    exact ⟨other, fun same => differ ⟨fun _ => (same.mp ⟨reads, isOther⟩).1, fun _ => reads⟩⟩
  · obtain ⟨other, isOther⟩ := someHas
    refine ⟨other, fun same => differ ⟨fun isRead => absurd isRead reads, fun holds => ?_⟩⟩
    exact (same.mpr ⟨holds, isOther⟩).1

/-- What a printed type is read as, and its translation, have values. -/
theorem exists_values (typeDef : ScSpecTypeDef)
    : (∃ value, (readAs typeDef).hasValue value)
      ∧ ∃ value, (translation typeDef).hasValue value := by
  obtain ⟨value, isRead⟩ := exists_readingValue typeDef
  obtain ⟨other, has, _⟩ := exists_deepest typeDef
  exact ⟨⟨value, hasValue_joined isRead⟩, other, has⟩

/-- An option of a type that differs does. -/
theorem Differs.option {valueType : ScSpecTypeDef} (differs : Differs valueType)
    : Differs (.option valueType) := by
  obtain ⟨value, notUndefined, differ⟩ := differs
  have isOther : ¬ (TsType.keyword "undefined").hasValue value :=
    fun isUndefined => notUndefined ((hasValue_undefined value).mp isUndefined)
  refine ⟨value, notUndefined, fun same => differ ⟨fun isRead => ?_, fun has => ?_⟩⟩
  · exact (same.mp (.inl isRead)).resolve_right isOther
  · exact (same.mpr (.inl has)).resolve_right isOther

/-- A vector differs whose elements are read as several union members: the brackets belong to the
last of them, and the others are no arrays that are deep enough.
-/
theorem differs_of_members {elementType : ScSpecTypeDef} {type : TsType}
    (members : (readingOf elementType).1 = some type)
    : Differs (.vec elementType) := by
  obtain ⟨bounded, value, has, notRead, deepest⟩ := exists_beyond members
  refine ⟨.array [value], nofun, fun same => ?_⟩
  have isRead := same.mpr ((hasValue_array_singleton _ value).mpr has)
  rw [readAs, readingOf, members] at isRead
  rcases isRead with inMembers | inOperand
  · have tooDeep := bounded _ inMembers
    rw [depth, depths, depths, deepest, Nat.max_zero] at tooDeep
    omega
  · exact notRead ((hasValue_array_singleton _ value).mp inOperand)

/-- Any other vector differs if its elements do. -/
theorem Differs.vec {elementType : ScSpecTypeDef} (differs : Differs elementType)
    (noMembers : (readingOf elementType).1 = none)
    : Differs (.vec elementType) := by
  obtain ⟨value, _, differ⟩ := differs
  have read : readAs (.vec elementType) = .array (readAs elementType) := by
    rw [readAs, readingOf, readAs, noMembers]
    rfl
  refine ⟨.array [value], nofun, ?_⟩
  rwa [read, translation, hasValue_array_singleton, hasValue_array_singleton]

mutual
/-- A vector of options anywhere in a type gives it other values, by induction on the type. -/
theorem differs_of_vectorOfOptions {typeDef : ScSpecTypeDef}
    (hasOne : ¬ HasNoVectorOfOptions typeDef)
    : Differs typeDef := by
  cases typeDef with
  | simple type => exact absurd trivial hasOne
  | option valueType =>
      have inValue : ¬ HasNoVectorOfOptions valueType := hasOne
      exact (differs_of_vectorOfOptions inValue).option
  | result okType errorType => exact absurd trivial hasOne
  | vec elementType =>
      cases members : (readingOf elementType).1 with
      | some type => exact differs_of_members members
      | none =>
          have isElement : ¬ HasNoVectorOfOptions elementType := by
            refine fun noVector => hasOne ⟨?_, noVector⟩
            cases elementType with
            | option valueType => cases members
            | simple | vec | map | tuple | udt | result | bytesN => rfl
          exact (differs_of_vectorOfOptions isElement).vec members
  | map keyType valueType =>
      have read
          : readAs (.map keyType valueType) = .map (readAs keyType) (readAs valueType) :=
        rfl
      by_cases inValue : HasNoVectorOfOptions valueType
      · have inKey : ¬ HasNoVectorOfOptions keyType := fun inKey => hasOne ⟨inKey, inValue⟩
        obtain ⟨key, _, differ⟩ := differs_of_vectorOfOptions inKey
        obtain ⟨someRead, someHas⟩ := exists_values valueType
        obtain ⟨value, differ⟩ := exists_differing differ someRead someHas
        refine ⟨.map [key] [value], nofun, ?_⟩
        rwa [read, translation, hasValue_map_singleton, hasValue_map_singleton]
      · obtain ⟨value, _, differ⟩ := differs_of_vectorOfOptions inValue
        obtain ⟨someRead, someHas⟩ := exists_values keyType
        obtain ⟨key, differ⟩ := exists_differing differ someRead someHas
        refine ⟨.map [key] [value], nofun, ?_⟩
        rw [read, translation, hasValue_map_singleton, hasValue_map_singleton]
        exact fun same => differ (and_comm.trans (same.trans and_comm))
  | tuple valueTypes =>
      obtain ⟨values, differ⟩ := differs_of_vectorsOfOptions hasOne
      refine ⟨.array values, nofun, ?_⟩
      rwa [readAs, readingOf, joined, translation, hasValue_tuple, hasValue_tuple]
  | bytesN n => exact absurd trivial hasOne
  | udt name => exact absurd trivial hasOne

/-- The same of the types of a tuple, by induction on them. -/
theorem differs_of_vectorsOfOptions {valueTypes : List ScSpecTypeDef}
    (hasOne : ¬ AllHaveNoVectorOfOptions valueTypes)
    : ∃ values,
        ¬(TsType.haveValues (readingsOf valueTypes) values
          ↔ TsType.haveValues (translations valueTypes) values) := by
  match valueTypes, hasOne with
  | [], hasOne => exact absurd trivial hasOne
  | valueType :: valueTypes, hasOne =>
      have cons (type : TsType) (types : List TsType) (value : TsValue) (values : List TsValue)
          : TsType.haveValues (type :: types) (value :: values)
            ↔ type.hasValue value ∧ TsType.haveValues types values := by
        simp [TsType.haveValues]
      by_cases inOthers : AllHaveNoVectorOfOptions valueTypes
      · have inFirst : ¬ HasNoVectorOfOptions valueType := fun inFirst =>
          hasOne ⟨inFirst, inOthers⟩
        obtain ⟨value, _, differ⟩ := differs_of_vectorOfOptions inFirst
        obtain ⟨others, haveOthers, _⟩ := exists_deepests valueTypes
        obtain ⟨values, differ⟩ :=
          exists_differing differ (exists_readingValues valueTypes) ⟨others, haveOthers⟩
        refine ⟨value :: values, ?_⟩
        rwa [readingsOf, translations, cons, cons]
      · obtain ⟨values, differ⟩ := differs_of_vectorsOfOptions inOthers
        obtain ⟨someRead, someHas⟩ := exists_values valueType
        obtain ⟨value, differ⟩ := exists_differing differ someRead someHas
        refine ⟨value :: values, ?_⟩
        rw [readingsOf, translations, cons, cons]
        exact fun same => differ (and_comm.trans (same.trans and_comm))
end

-----------------------------------------------------------------------------------------
-- Names that are read

/-- (IsNamed characters path) requires a simple name to be a name of types. -/
def IsNamed (characters : ScriptCharacters) : List String → Prop
  | [name] => characters.isTypeName name = true
  | _ => True

mutual
/-- (WellNamed characters type) requires the names of a type to be names of types. -/
def WellNamed (characters : ScriptCharacters) : TsType → Prop
  | .keyword _ => True
  | .reference path => IsNamed characters path
  | .array element => WellNamed characters element
  | .tuple items => AllWellNamed characters items
  | .map key value => WellNamed characters key ∧ WellNamed characters value
  | .union left right => WellNamed characters left ∧ WellNamed characters right

/-- The same of several types. -/
def AllWellNamed (characters : ScriptCharacters) : List TsType → Prop
  | [] => True
  | type :: types => WellNamed characters type ∧ AllWellNamed characters types
end

mutual
/-- (NamedValue characters value) requires a value to be built from members of types with names of
types.
-/
def NamedValue (characters : ScriptCharacters) : TsValue → Prop
  | .undefined | .member (.keyword _) _ => True
  | .member (.reference path) _ => IsNamed characters path
  | .array items => NamedValues characters items
  | .map keys values => NamedValues characters keys ∧ NamedValues characters values

/-- The same of several values. -/
def NamedValues (characters : ScriptCharacters) : List TsValue → Prop
  | [] => True
  | value :: values => NamedValue characters value ∧ NamedValues characters values
end

/-- Several values are named if each one is, by induction on them. -/
theorem namedValues_iff {values : List TsValue}
    : NamedValues characters values ↔ ∀ value ∈ values, NamedValue characters value := by
  induction values with
  | nil => exact ⟨fun _ => nofun, fun _ => trivial⟩
  | cons value values ih => rw [NamedValues, ih, List.forall_mem_cons]

mutual
/-- The values of a well-named type are named, by induction on the type. -/
theorem namedValue_of_hasValue {type : TsType} (named : WellNamed characters type)
    {value : TsValue} (has : type.hasValue value)
    : NamedValue characters value := by
  cases type with
  | keyword name =>
      rw [TsType.hasValue] at has
      split at has
      · rw [has]
        trivial
      · obtain ⟨which, rfl⟩ := has
        trivial
  | reference path =>
      obtain ⟨which, rfl⟩ := has
      exact named
  | array element =>
      obtain ⟨items, rfl, each⟩ := has
      have elementNamed : WellNamed characters element := named
      exact namedValues_iff.mpr fun item member =>
        namedValue_of_hasValue elementNamed (each item member)
  | tuple items =>
      obtain ⟨values, rfl, haveValues⟩ := has
      exact namedValues_of_haveValues named haveValues
  | map key value =>
      obtain ⟨keys, values, rfl, _, eachKey, eachValue⟩ := has
      exact ⟨namedValues_iff.mpr fun found member =>
          namedValue_of_hasValue named.1 (eachKey found member),
        namedValues_iff.mpr fun found member =>
          namedValue_of_hasValue named.2 (eachValue found member)⟩
  | union left right =>
      rcases has with inLeft | inRight
      · exact namedValue_of_hasValue named.1 inLeft
      · exact namedValue_of_hasValue named.2 inRight

/-- The same of several types, by induction on them. -/
theorem namedValues_of_haveValues {types : List TsType} (named : AllWellNamed characters types)
    {values : List TsValue} (haveValues : TsType.haveValues types values)
    : NamedValues characters values := by
  match types, named, haveValues with
  | [], _, isEmpty =>
      rw [TsType.haveValues] at isEmpty
      rw [isEmpty]
      trivial
  | _ :: _, named, ⟨value, others, isCons, has, haveOthers⟩ =>
      rw [isCons]
      exact ⟨namedValue_of_hasValue named.1 has, namedValues_of_haveValues named.2 haveOthers⟩
end

mutual
/-- A type whose translation has named values only has type names, by induction on it. -/
theorem hasTypeNames_of_named {typeDef : ScSpecTypeDef}
    (named : ∀ value, (translation typeDef).hasValue value → NamedValue characters value)
    : HasTypeNames characters typeDef := by
  cases typeDef with
  | simple type => trivial
  | option valueType =>
      have inner : HasTypeNames characters valueType :=
        hasTypeNames_of_named fun value has => named value (.inl has)
      exact inner
  | result okType errorType => trivial
  | vec elementType =>
      have element : HasTypeNames characters elementType :=
        hasTypeNames_of_named fun value has =>
          (named (.array [value]) ⟨[value], rfl, List.forall_mem_singleton.mpr has⟩).1
      exact element
  | map keyType valueType =>
      obtain ⟨key, hasKey⟩ := (exists_values keyType).2
      obtain ⟨value, hasValue⟩ := (exists_values valueType).2
      have both {found other : TsValue} (isKey : (translation keyType).hasValue found)
          (isValue : (translation valueType).hasValue other)
          : NamedValues characters [found] ∧ NamedValues characters [other] :=
        named (.map [found] [other])
          ⟨[found], [other], rfl, rfl, List.forall_mem_singleton.mpr isKey,
            List.forall_mem_singleton.mpr isValue⟩
      exact ⟨hasTypeNames_of_named fun found isKey => (both isKey hasValue).1.1,
        hasTypeNames_of_named fun other isValue => (both hasKey isValue).2.1⟩
  | tuple valueTypes =>
      exact allHaveTypeNames_of_named fun values haveValues =>
        named (.array values) ⟨values, rfl, haveValues⟩
  | bytesN n => trivial
  | udt name => exact named (.member (.reference [name]) 0) ⟨0, rfl⟩

/-- The same of the types of a tuple, by induction on them. -/
theorem allHaveTypeNames_of_named {valueTypes : List ScSpecTypeDef}
    (named
      : ∀ values,
          TsType.haveValues (translations valueTypes) values → NamedValues characters values)
    : AllHaveTypeNames characters valueTypes := by
  match valueTypes, named with
  | [], _ => trivial
  | valueType :: valueTypes, named =>
      obtain ⟨value, has⟩ := (exists_values valueType).2
      obtain ⟨others, haveOthers, _⟩ := exists_deepests valueTypes
      exact ⟨hasTypeNames_of_named fun found isFirst =>
          (named (found :: others) ⟨found, others, rfl, isFirst, haveOthers⟩).1,
        allHaveTypeNames_of_named fun values haveValues =>
          (named (value :: values) ⟨value, values, rfl, has, haveValues⟩).2⟩
end

/-- The types that a name stands for are well-named. -/
theorem wellNamed_typeNamed {path : List String} {type : TsType}
    (isNamed : typeNamed characters path = some type)
    : WellNamed characters type := by
  unfold typeNamed at isNamed
  split at isNamed
  · split at isNamed
    · obtain rfl := Option.some.inj isNamed
      trivial
    · split at isNamed
      · rename_i isTypeName
        obtain rfl := Option.some.inj isNamed
        exact isTypeName
      · cases isNamed
  · rename_i notSimple
    split at isNamed
    · obtain rfl := Option.some.inj isNamed
      rw [WellNamed, IsNamed]
      · trivial
      · exact notSimple
    · cases isNamed

/-- A type that has been read, if any, is well-named. -/
def OptionalNamed (characters : ScriptCharacters) : Option TsType → Prop
  | none => True
  | some type => WellNamed characters type

/-- The types of what is open are well-named. -/
def ContextNamed (characters : ScriptCharacters) : TypeContext → Prop
  | .suffix element => WellNamed characters element
  | .tuple items | .arguments items => AllWellNamed characters items
  | .parentheses => True

/-- The types around a place are well-named. -/
def OuterNamed (characters : ScriptCharacters) : List (Option TsType × TypeContext) → Prop
  | [] => True
  | (before, context) :: outer =>
      OptionalNamed characters before ∧ ContextNamed characters context
      ∧ OuterNamed characters outer

/-- The types in the state of a reader are well-named. -/
structure ReaderNamed (characters : ScriptCharacters) (state : TypeReader) : Prop where
  outer : OuterNamed characters state.outer
  members : OptionalNamed characters state.members
  operand : OptionalNamed characters state.operand

/-- The union of well-named types is well-named. -/
theorem wellNamed_joined {members : Option TsType} {operand : TsType}
    (membersNamed : OptionalNamed characters members) (operandNamed : WellNamed characters operand)
    : WellNamed characters (joined members operand) := by
  cases members with
  | none => exact operandNamed
  | some left => exact ⟨membersNamed, operandNamed⟩

/-- A well-named type behind well-named types, by induction on them. -/
theorem allWellNamed_concat {items : List TsType} {item : TsType}
    (itemsNamed : AllWellNamed characters items) (itemNamed : WellNamed characters item)
    : AllWellNamed characters (items ++ [item]) := by
  induction items with
  | nil => exact ⟨itemNamed, trivial⟩
  | cons first others ih => exact ⟨itemsNamed.1, ih itemsNamed.2⟩

/-- Reading a token keeps types well-named, by cases on what is read. -/
theorem ReaderNamed.read {state next : TypeReader} {token : TypeToken}
    (named : ReaderNamed characters state) (taken : state.read characters token = some next)
    : ReaderNamed characters next := by
  obtain ⟨outer, members, operand⟩ := state
  obtain ⟨outerNamed, membersNamed, operandNamed⟩ := named
  unfold TypeReader.read at taken
  dsimp only at taken outerNamed membersNamed operandNamed
  split at taken
  · obtain ⟨type, isNamed, rfl⟩ := Option.map_eq_some_iff.mp taken
    exact ⟨outerNamed, membersNamed, wellNamed_typeNamed isNamed⟩
  · obtain rfl := Option.some.inj taken
    exact ⟨⟨membersNamed, trivial, outerNamed⟩, trivial, trivial⟩
  · obtain rfl := Option.some.inj taken
    exact ⟨⟨membersNamed, operandNamed, outerNamed⟩, trivial, trivial⟩
  · obtain rfl := Option.some.inj taken
    exact ⟨outerNamed.2.2, outerNamed.1, outerNamed.2.1⟩
  · obtain rfl := Option.some.inj taken
    exact ⟨outerNamed.2.2, outerNamed.1, outerNamed.2.1⟩
  · obtain rfl := Option.some.inj taken
    exact ⟨outerNamed.2.2, outerNamed.1,
      allWellNamed_concat outerNamed.2.1 (wellNamed_joined membersNamed operandNamed)⟩
  · obtain rfl := Option.some.inj taken
    exact ⟨⟨outerNamed.1,
      allWellNamed_concat outerNamed.2.1 (wellNamed_joined membersNamed operandNamed),
      outerNamed.2.2⟩, trivial, trivial⟩
  · split at taken
    · obtain rfl := Option.some.inj taken
      exact ⟨⟨membersNamed, trivial, outerNamed⟩, trivial, trivial⟩
    · cases taken
  · obtain rfl := Option.some.inj taken
    exact ⟨⟨outerNamed.1,
      allWellNamed_concat outerNamed.2.1 (wellNamed_joined membersNamed operandNamed),
      outerNamed.2.2⟩, trivial, trivial⟩
  · obtain rfl := Option.some.inj taken
    exact ⟨outerNamed.2.2, outerNamed.1, outerNamed.2.1.1,
      wellNamed_joined membersNamed operandNamed⟩
  · obtain rfl := Option.some.inj taken
    exact ⟨⟨membersNamed, trivial, outerNamed⟩, trivial, trivial⟩
  · obtain rfl := Option.some.inj taken
    exact ⟨outerNamed.2.2, outerNamed.1, wellNamed_joined membersNamed operandNamed⟩
  · obtain rfl := Option.some.inj taken
    exact ⟨outerNamed, wellNamed_joined membersNamed operandNamed, trivial⟩
  · cases taken

/-- Reading tokens keeps types well-named, by induction on the tokens. -/
theorem ReaderNamed.readAll {state next : TypeReader} {tokens : List TypeToken}
    (named : ReaderNamed characters state)
    (taken : TypeReader.readAll characters tokens state = some next)
    : ReaderNamed characters next := by
  induction tokens generalizing state with
  | nil => exact Option.some.inj taken ▸ named
  | cons token tokens ih =>
      obtain ⟨middle, first, later⟩ := Option.bind_eq_some_iff.mp taken
      exact ih (named.read first) later

/-- What a text is read as is well-named. -/
theorem wellNamed_readType {text : String} {type : TsType}
    (isRead : readType characters text = some type)
    : WellNamed characters type := by
  obtain ⟨tokens, _, read⟩ := Option.bind_eq_some_iff.mp isRead
  obtain ⟨state, taken, ended⟩ := Option.bind_eq_some_iff.mp read
  have start : ReaderNamed characters (.start []) := ⟨trivial, trivial, trivial⟩
  have named : ReaderNamed characters state := start.readAll taken
  split at ended
  · obtain rfl := Option.some.inj ended
    exact wellNamed_joined named.members named.operand
  · cases ended

-----------------------------------------------------------------------------------------
-- The denotation of printed types

/-- (PrintsUnambiguously characters typeDef) requires that no vector has options as its elements and
that the names of user types can be names of types.
-/
def PrintsUnambiguously (characters : ScriptCharacters) (typeDef : ScSpecTypeDef) : Prop :=
  HasNoVectorOfOptions typeDef ∧ HasTypeNames characters typeDef

/-- A printed type denotes the values of its translation exactly if it is printed unambiguously. -/
theorem textDenotes_translation_iff (typeDef : ScSpecTypeDef)
    : TextDenotes characters (scSpecTypeToTs typeDef).ts (translation typeDef).values
      ↔ PrintsUnambiguously characters typeDef := by
  constructor
  · intro denotes
    obtain ⟨type, isRead, sameValues⟩ := denotes
    have same (value : TsValue) : type.hasValue value ↔ (translation typeDef).hasValue value :=
      Set.ext_iff.mp sameValues value
    have named : HasTypeNames characters typeDef :=
      hasTypeNames_of_named fun value has =>
        namedValue_of_hasValue (wellNamed_readType isRead) ((same value).mpr has)
    refine ⟨by_contra fun hasOne => ?_, named⟩
    obtain ⟨value, _, differ⟩ := differs_of_vectorOfOptions hasOne
    rw [readType_printed named] at isRead
    obtain rfl := Option.some.inj isRead
    exact differ (same value)
  · intro unambiguous
    refine ⟨translation typeDef, ?_, rfl⟩
    rw [readType_printed unambiguous.2, readAs_eq_translation unambiguous.1]

end Axionvera.Codegen
