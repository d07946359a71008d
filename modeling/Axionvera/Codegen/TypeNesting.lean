import Axionvera.Codegen.TypeDenotation

/-! Which types of a specification have translations with the same values: those with the same
nesting, where an option of an option counts as one option.
-/

namespace Axionvera.Codegen

open Axionvera.Foundation

variable {characters : ScriptCharacters}

/-- A type or `undefined`, which adds nothing to a type that has it already. -/
def orUndefined : TsType → TsType
  | .union left right => .union left right
  | type => .union type (.keyword "undefined")

mutual
/-- The translation of a type, with an option of an option as one option. -/
def nesting : ScSpecTypeDef → TsType
  | .simple type => simpleTranslation type
  | .option valueType => orUndefined (nesting valueType)
  | .vec elementType => .array (nesting elementType)
  | .map keyType valueType => .map (nesting keyType) (nesting valueType)
  | .tuple valueTypes => .tuple (nestings valueTypes)
  | .udt name => .reference [name]
  | .result _ _ | .bytesN _ => .reference ["xdr", "ScVal"]

/-- The same of the types of a tuple. -/
def nestings : List ScSpecTypeDef → List TsType
  | [] => []
  | valueType :: valueTypes => nesting valueType :: nestings valueTypes
end

mutual
/-- (IsFlat type) requires the unions in a type to be of a type that is none with `undefined`. -/
def IsFlat : TsType → Prop
  | .keyword name => name ≠ "undefined"
  | .reference _ => True
  | .array element => IsFlat element
  | .tuple items => AllFlat items
  | .map key value => IsFlat key ∧ IsFlat value
  | .union left right =>
      IsFlat left ∧ right = .keyword "undefined" ∧ ¬ left.hasValue .undefined

/-- The same of several types. -/
def AllFlat : List TsType → Prop
  | [] => True
  | type :: types => IsFlat type ∧ AllFlat types
end

/-- A type or `undefined` has the values of the type and `undefined`. -/
theorem hasValue_orUndefined {type : TsType} (flat : IsFlat type) (value : TsValue)
    : (orUndefined type).hasValue value ↔ type.hasValue value ∨ value = .undefined := by
  cases type with
  | union left right =>
      obtain ⟨_, rfl, _⟩ := flat
      rw [orUndefined, hasValue_union, hasValue_undefined, or_assoc, or_self]
  | keyword | reference | array | tuple | map =>
      exact (hasValue_union _ _ value).trans (or_congr_right (hasValue_undefined value))

/-- A flat type has the value `undefined` exactly if it is a union. -/
theorem isFlat_orUndefined {type : TsType} (flat : IsFlat type) : IsFlat (orUndefined type) := by
  cases type with
  | union left right => exact flat
  | keyword name =>
      refine ⟨flat, rfl, fun isUndefined => ?_⟩
      obtain ⟨_, same⟩ := (hasValue_keyword flat _).mp isUndefined
      cases same
  | reference path =>
      refine ⟨flat, rfl, fun isUndefined => ?_⟩
      obtain ⟨_, same⟩ := isUndefined
      cases same
  | array element =>
      refine ⟨flat, rfl, fun isUndefined => ?_⟩
      obtain ⟨_, same, _⟩ := isUndefined
      cases same
  | tuple items =>
      refine ⟨flat, rfl, fun isUndefined => ?_⟩
      obtain ⟨_, same, _⟩ := isUndefined
      cases same
  | map key value =>
      refine ⟨flat, rfl, fun isUndefined => ?_⟩
      obtain ⟨_, _, same, _⟩ := isUndefined
      cases same

mutual
/-- The nesting of a type is flat and has the values of its translation, by induction on it. -/
theorem nesting_values (typeDef : ScSpecTypeDef)
    : IsFlat (nesting typeDef)
      ∧ ∀ value, (nesting typeDef).hasValue value ↔ (translation typeDef).hasValue value := by
  cases typeDef with
  | simple type =>
      refine ⟨?_, fun _ => Iff.rfl⟩
      cases type
      all_goals simp [nesting, simpleTranslation, IsFlat]
  | option valueType =>
      obtain ⟨flat, same⟩ := nesting_values valueType
      refine ⟨isFlat_orUndefined flat, fun value => ?_⟩
      rw [nesting, hasValue_orUndefined flat, same, translation, hasValue_union,
        hasValue_undefined]
  | result okType errorType => exact ⟨trivial, fun _ => Iff.rfl⟩
  | vec elementType =>
      obtain ⟨flat, same⟩ := nesting_values elementType
      refine ⟨flat, fun value => ?_⟩
      simp only [nesting, translation, TsType.hasValue, same]
  | map keyType valueType =>
      obtain ⟨keyFlat, keySame⟩ := nesting_values keyType
      obtain ⟨valueFlat, valueSame⟩ := nesting_values valueType
      refine ⟨⟨keyFlat, valueFlat⟩, fun value => ?_⟩
      simp only [nesting, translation, TsType.hasValue, keySame, valueSame]
  | tuple valueTypes =>
      obtain ⟨flat, same⟩ := nestings_values valueTypes
      refine ⟨flat, fun value => ?_⟩
      simp only [nesting, translation, TsType.hasValue, same]
  | bytesN n => exact ⟨trivial, fun _ => Iff.rfl⟩
  | udt name => exact ⟨trivial, fun _ => Iff.rfl⟩

/-- The same of the types of a tuple, by induction on them. -/
theorem nestings_values (valueTypes : List ScSpecTypeDef)
    : AllFlat (nestings valueTypes)
      ∧ ∀ values,
          TsType.haveValues (nestings valueTypes) values
          ↔ TsType.haveValues (translations valueTypes) values := by
  match valueTypes with
  | [] => exact ⟨trivial, fun _ => Iff.rfl⟩
  | valueType :: valueTypes =>
      obtain ⟨flat, same⟩ := nesting_values valueType
      obtain ⟨allFlat, allSame⟩ := nestings_values valueTypes
      refine ⟨⟨flat, allFlat⟩, fun values => ?_⟩
      simp only [nestings, translations, TsType.haveValues, same, allSame]
end

mutual
/-- A flat type has a value other than `undefined`, by induction on it. -/
theorem exists_value {type : TsType} (flat : IsFlat type)
    : ∃ value, type.hasValue value ∧ value ≠ .undefined := by
  cases type with
  | keyword name => exact ⟨.member (.keyword name) 0, (hasValue_keyword flat _).mpr ⟨0, rfl⟩, nofun⟩
  | reference path => exact ⟨.member (.reference path) 0, ⟨0, rfl⟩, nofun⟩
  | array element => exact ⟨.array [], ⟨[], rfl, nofun⟩, nofun⟩
  | tuple items =>
      obtain ⟨values, haveValues⟩ := exists_haveValues flat
      exact ⟨.array values, ⟨values, rfl, haveValues⟩, nofun⟩
  | map key value => exact ⟨.map [] [], ⟨[], [], rfl, rfl, nofun, nofun⟩, nofun⟩
  | union left right =>
      obtain ⟨value, has, notUndefined⟩ := exists_value flat.1
      exact ⟨value, .inl has, notUndefined⟩

/-- The same of several types, by induction on them. -/
theorem exists_haveValues {types : List TsType} (flat : AllFlat types)
    : ∃ values, TsType.haveValues types values := by
  match types, flat with
  | [], _ => exact ⟨[], rfl⟩
  | _ :: _, flat =>
      obtain ⟨value, has, _⟩ := exists_value flat.1
      obtain ⟨values, haveValues⟩ := exists_haveValues flat.2
      exact ⟨value :: values, value, values, rfl, has, haveValues⟩
end

/-- The forms of values, and of the types that have them. -/
inductive ValueForm where
  | nothing
  | member (type : TypeName)
  | array
  | map
  deriving DecidableEq

/-- The form of a value. -/
def valueForm : TsValue → ValueForm
  | .undefined => .nothing
  | .member type _ => .member type
  | .array _ => .array
  | .map _ _ => .map

/-- The form of the values of a type that is no union. -/
def typeForm : TsType → ValueForm
  | .keyword name => .member (.keyword name)
  | .reference path => .member (.reference path)
  | .array _ | .tuple _ => .array
  | .map _ _ => .map
  | .union _ _ => .nothing

/-- A flat type that is no union has values of its form only. -/
theorem valueForm_of_hasValue {type : TsType} (flat : IsFlat type)
    (notUnion : typeForm type ≠ .nothing) {value : TsValue} (has : type.hasValue value)
    : valueForm value = typeForm type := by
  cases type with
  | keyword name =>
      obtain ⟨which, rfl⟩ := (hasValue_keyword flat value).mp has
      rfl
  | reference path =>
      obtain ⟨which, rfl⟩ := has
      rfl
  | array element =>
      obtain ⟨items, rfl, _⟩ := has
      rfl
  | tuple items =>
      obtain ⟨values, rfl, _⟩ := has
      rfl
  | map key value =>
      obtain ⟨keys, values, rfl, _⟩ := has
      rfl
  | union left right => exact absurd rfl notUnion

/-- A flat type has the value `undefined` exactly if it is a union. -/
theorem hasUndefined_iff {type : TsType} (flat : IsFlat type)
    : type.hasValue .undefined ↔ typeForm type = .nothing := by
  by_cases isUnion : typeForm type = .nothing
  · refine ⟨fun _ => isUnion, fun _ => ?_⟩
    cases type with
    | union left right =>
        obtain ⟨_, rfl, _⟩ := flat
        exact .inr ((hasValue_undefined _).mpr rfl)
    | keyword | reference | array | tuple | map => cases isUnion
  · exact ⟨fun has => (valueForm_of_hasValue flat isUnion has).symm, fun is => absurd is isUnion⟩

/-- Flat types with the same values have values of the same form. -/
theorem typeForm_eq {left right : TsType} (leftFlat : IsFlat left) (rightFlat : IsFlat right)
    (same : ∀ value, left.hasValue value ↔ right.hasValue value)
    : typeForm left = typeForm right := by
  by_cases isUnion : typeForm left = .nothing
  · have has := (same _).mp ((hasUndefined_iff leftFlat).mpr isUnion)
    exact isUnion.trans ((hasUndefined_iff rightFlat).mp has).symm
  · have notUnion : typeForm right ≠ .nothing := fun isUnion' =>
      isUnion ((hasUndefined_iff leftFlat).mp
        ((same _).mpr ((hasUndefined_iff rightFlat).mpr isUnion')))
    obtain ⟨value, has, _⟩ := exists_value leftFlat
    exact (valueForm_of_hasValue leftFlat isUnion has).symm.trans
      (valueForm_of_hasValue rightFlat notUnion ((same value).mp has))

/-- Values have types one by one. -/
theorem haveValues_cons (type : TsType) (types : List TsType) (value : TsValue)
    (values : List TsValue)
    : TsType.haveValues (type :: types) (value :: values)
      ↔ type.hasValue value ∧ TsType.haveValues types values := by
  simp [TsType.haveValues]

/-- No tuple has the arrays of all lengths. -/
theorem array_ne_tuple {element : TsType} {items : List TsType} (flat : IsFlat element)
    (same : ∀ value, (TsType.array element).hasValue value ↔ (TsType.tuple items).hasValue value)
    : False := by
  obtain ⟨value, has, _⟩ := exists_value flat
  have noItems := (hasValue_tuple items []).mp ((same (.array [])).mp ⟨[], rfl, nofun⟩)
  have one := (hasValue_tuple items [value]).mp
    ((same (.array [value])).mp ((hasValue_array_singleton element value).mpr has))
  cases items with
  | nil => cases one
  | cons first others =>
      obtain ⟨_, _, isCons, _⟩ := noItems
      cases isCons

/-- Maps with the same values have keys and values with the same values, since each has some. -/
theorem same_of_same_map {key value otherKey otherValue : TsType}
    (flat : IsFlat (.map key value))
    (same
      : ∀ found,
          (TsType.map key value).hasValue found ↔ (TsType.map otherKey otherValue).hasValue found)
    : (∀ found, key.hasValue found ↔ otherKey.hasValue found)
      ∧ ∀ found, value.hasValue found ↔ otherValue.hasValue found := by
  have both (found other : TsValue)
      : key.hasValue found ∧ value.hasValue other
        ↔ otherKey.hasValue found ∧ otherValue.hasValue other := by
    rw [← hasValue_map_singleton, ← hasValue_map_singleton]
    exact same _
  obtain ⟨found, isKey, _⟩ := exists_value flat.1
  obtain ⟨other, isValue, _⟩ := exists_value flat.2
  obtain ⟨alsoKey, alsoValue⟩ := (both found other).mp ⟨isKey, isValue⟩
  constructor
  · intro found
    exact ⟨fun has => ((both found other).mp ⟨has, isValue⟩).1,
      fun has => ((both found other).mpr ⟨has, alsoValue⟩).1⟩
  · intro other
    exact ⟨fun has => ((both found other).mp ⟨isKey, has⟩).2,
      fun has => ((both found other).mpr ⟨alsoKey, has⟩).2⟩

/-- Options with the same values are options of types with the same values, if `undefined` is none
of these.
-/
theorem same_of_same_option {inner other : TsType} (innerHas : ¬ inner.hasValue .undefined)
    (otherHas : ¬ other.hasValue .undefined)
    (same
      : ∀ value,
          (TsType.union inner (.keyword "undefined")).hasValue value
          ↔ (TsType.union other (.keyword "undefined")).hasValue value)
    (value : TsValue)
    : inner.hasValue value ↔ other.hasValue value := by
  have both := same value
  rw [hasValue_union, hasValue_union, hasValue_undefined] at both
  by_cases isUndefined : value = .undefined
  · subst isUndefined
    exact ⟨fun has => absurd has innerHas, fun has => absurd has otherHas⟩
  · exact ⟨fun has => (both.mp (.inl has)).resolve_right isUndefined,
      fun has => (both.mpr (.inl has)).resolve_right isUndefined⟩

mutual
/-- Flat types with the same values are the same, by induction on one of them. -/
theorem eq_of_same_values {left right : TsType} (leftFlat : IsFlat left)
    (rightFlat : IsFlat right) (same : ∀ value, left.hasValue value ↔ right.hasValue value)
    : left = right := by
  have form := typeForm_eq leftFlat rightFlat same
  cases left with
  | keyword name =>
      cases right with
      | keyword other => cases form; rfl
      | reference | array | tuple | map | union => cases form
  | reference path =>
      cases right with
      | reference other => cases form; rfl
      | keyword | array | tuple | map | union => cases form
  | array element =>
      have elementFlat : IsFlat element := leftFlat
      cases right with
      | array other =>
          have otherFlat : IsFlat other := rightFlat
          refine congrArg TsType.array (eq_of_same_values elementFlat otherFlat fun value => ?_)
          exact (hasValue_array_singleton element value).symm.trans
            ((same _).trans (hasValue_array_singleton other value))
      | tuple items => exact (array_ne_tuple elementFlat same).elim
      | keyword | reference | map | union => cases form
  | tuple items =>
      cases right with
      | array element =>
          have elementFlat : IsFlat element := rightFlat
          exact (array_ne_tuple elementFlat fun value => (same value).symm).elim
      | tuple others =>
          refine congrArg TsType.tuple (eq_of_same_haveValues leftFlat rightFlat fun values => ?_)
          rw [← hasValue_tuple, ← hasValue_tuple]
          exact same _
      | keyword | reference | map | union => cases form
  | map key value =>
      cases right with
      | map otherKey otherValue =>
          obtain ⟨sameKey, sameValue⟩ := same_of_same_map leftFlat same
          exact congrArg₂ TsType.map (eq_of_same_values leftFlat.1 rightFlat.1 sameKey)
            (eq_of_same_values leftFlat.2 rightFlat.2 sameValue)
      | keyword | reference | array | tuple | union => cases form
  | union inner undefined =>
      cases right with
      | union other another =>
          obtain ⟨innerFlat, rfl, innerHas⟩ := leftFlat
          obtain ⟨otherFlat, rfl, otherHas⟩ := rightFlat
          refine congrArg (TsType.union · _) (eq_of_same_values innerFlat otherFlat fun value => ?_)
          exact same_of_same_option innerHas otherHas same value
      | keyword | reference | array | tuple | map => cases form

/-- The same of several types, by induction on them. -/
theorem eq_of_same_haveValues {left right : List TsType} (leftFlat : AllFlat left)
    (rightFlat : AllFlat right)
    (same : ∀ values, TsType.haveValues left values ↔ TsType.haveValues right values)
    : left = right := by
  match left, right, leftFlat, rightFlat with
  | [], [], _, _ => rfl
  | [], _ :: _, _, _ =>
      obtain ⟨_, _, isCons, _⟩ := (same []).mp rfl
      cases isCons
  | _ :: _, [], _, _ =>
      obtain ⟨_, _, isCons, _⟩ := (same []).mpr rfl
      cases isCons
  | first :: others, second :: more, leftFlat, rightFlat =>
      obtain ⟨value, has, _⟩ := exists_value leftFlat.1
      obtain ⟨values, haveValues⟩ := exists_haveValues leftFlat.2
      have both (value : TsValue) (values : List TsValue)
          : first.hasValue value ∧ TsType.haveValues others values
            ↔ second.hasValue value ∧ TsType.haveValues more values := by
        rw [← haveValues_cons, ← haveValues_cons]
        exact same _
      obtain ⟨alsoHas, alsoHave⟩ := (both value values).mp ⟨has, haveValues⟩
      refine congrArg₂ List.cons
        (eq_of_same_values leftFlat.1 rightFlat.1 fun found => ?_)
        (eq_of_same_haveValues leftFlat.2 rightFlat.2 fun found => ?_)
      · exact ⟨fun is => ((both found values).mp ⟨is, haveValues⟩).1,
          fun is => ((both found values).mpr ⟨is, alsoHave⟩).1⟩
      · exact ⟨fun are => ((both value found).mp ⟨has, are⟩).2,
          fun are => ((both value found).mpr ⟨alsoHas, are⟩).2⟩
end

/-- Translations have the same values exactly for types with the same nesting. -/
theorem translation_values_eq_iff (typeDef other : ScSpecTypeDef)
    : (translation typeDef).values = (translation other).values
      ↔ nesting typeDef = nesting other := by
  obtain ⟨flat, same⟩ := nesting_values typeDef
  obtain ⟨otherFlat, otherSame⟩ := nesting_values other
  constructor
  · intro values
    refine eq_of_same_values flat otherFlat fun value => ?_
    rw [same, otherSame]
    exact Set.ext_iff.mp values value
  · intro sameNesting
    refine Set.ext fun value => ?_
    change (translation typeDef).hasValue value ↔ (translation other).hasValue value
    rw [← same, ← otherSame, sameNesting]

/-- The text of a printed type, read by TypeScript's grammar, denotes the translation of the type
exactly if it has no vector of options and the names of its user types can be names of types.
Two such types print to texts that denote the same only if they have the same nesting.
-/
theorem printed_type_denotes_translation_iff (characters : ScriptCharacters)
    (typeDef : ScSpecTypeDef)
    : (TextDenotes characters (scSpecTypeToTs typeDef).ts (translation typeDef).values
        ↔ PrintsUnambiguously characters typeDef)
      ∧ ∀ other,
          PrintsUnambiguously characters typeDef
          → PrintsUnambiguously characters other
          → (∃ values,
              TextDenotes characters (scSpecTypeToTs typeDef).ts values
              ∧ TextDenotes characters (scSpecTypeToTs other).ts values)
          → nesting typeDef = nesting other := by
  refine ⟨textDenotes_translation_iff typeDef, fun other unambiguous otherUnambiguous given => ?_⟩
  obtain ⟨values, ⟨type, isRead, hasValues⟩, otherType, otherRead, otherValues⟩ := given
  rw [readType_printed unambiguous.2, readAs_eq_translation unambiguous.1] at isRead
  rw [readType_printed otherUnambiguous.2, readAs_eq_translation otherUnambiguous.1] at otherRead
  obtain rfl := Option.some.inj isRead
  obtain rfl := Option.some.inj otherRead
  exact (translation_values_eq_iff typeDef other).mp (hasValues.trans otherValues.symm)

/-- A vector of optional numbers is printed as `number | undefined[]`, which is no type of arrays.
-/
theorem vector_of_options_denotes_something_else
    : ¬ ∀ typeDef,
        HasTypeNames ScriptCharacters.ascii typeDef
        → TextDenotes .ascii (scSpecTypeToTs typeDef).ts (translation typeDef).values := by
  intro always
  have denotes := always (.vec (.option (.simple .u32))) trivial
  have noVector := (textDenotes_translation_iff _).mp denotes
  exact Bool.noConfusion noVector.1.1

end Axionvera.Codegen
