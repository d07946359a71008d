import Axionvera.Soroban.WideIntegers
import Mathlib.Data.List.Forall2
import Mathlib.Data.List.Nodup

/-! What the decoding of maps keeps. Keys become the names of properties, so entries are kept apart
by the texts of their keys, and kinds with the same native values are not told apart.
-/

namespace Axionvera.Soroban

open Axionvera.Foundation

variable {host : SdkHost}

/-- The name that a key of a map becomes. -/
def keyText (host : SdkHost) (key : ScVal) : Except ThrownValue String := do
  let native ← decodeScVal host key
  native.toText host

mutual
/-- (HasDistinctTexts host value) requires the keys of a map to have distinct texts, none of which
is `__proto__`, and so of all maps in its values and in the items of a vector.
-/
def HasDistinctTexts (host : SdkHost) : ScVal → Prop
  | .vec items => AllHaveDistinctTexts host items
  | .map entries =>
      (entries.map fun entry => keyText host entry.1).Nodup
      ∧ (∀ entry ∈ entries, keyText host entry.1 ≠ .ok "__proto__")
      ∧ ValuesHaveDistinctTexts host entries
  | _ => True

/-- The same of the items of a vector. -/
def AllHaveDistinctTexts (host : SdkHost) : List ScVal → Prop
  | [] => True
  | item :: items => HasDistinctTexts host item ∧ AllHaveDistinctTexts host items

/-- The same of the values of a map. -/
def ValuesHaveDistinctTexts (host : SdkHost) : List (ScVal × ScVal) → Prop
  | [] => True
  | (_, value) :: entries => HasDistinctTexts host value ∧ ValuesHaveDistinctTexts host entries
end

mutual
/-- Native values are the same if their parts are, objects regardless of the order of properties. -/
def SameValue : NativeScVal → NativeScVal → Prop
  | .array items, other => ∃ others, other = .array others ∧ SameItems items others
  | .object properties none, other =>
      ∃ others,
        other = .object others none
        ∧ properties.length = others.length
        ∧ SameProperties properties others
  | value, other => value = other

/-- The same of the items of arrays. -/
def SameItems : List NativeScVal → List NativeScVal → Prop
  | [], others => others = []
  | item :: items, others =>
      ∃ first rest, others = first :: rest ∧ SameValue item first ∧ SameItems items rest

/-- Every property has one of its name with the same value. -/
def SameProperties : List (String × NativeScVal) → List (String × NativeScVal) → Prop
  | [], _ => True
  | (name, value) :: properties, others =>
      (∃ found, (name, found) ∈ others ∧ SameValue value found) ∧ SameProperties properties others
end

/-- The native value of a value without parts that is no integer. -/
def plainValue (host : SdkHost) : ScVal → Option NativeScVal
  | .void => some .undefined
  | .bool b => some (.boolean b)
  | .symbol bytes | .string bytes => some (.text (host.utf8Text bytes))
  | .bytes bytes => some (.buffer bytes)
  | .address address => (host.addressText address).toOption.map .text
  | _ => none

/-- The native value of a value without parts: its integer, text, bytes or truth value. -/
def leafValue (host : SdkHost) (value : ScVal) : Option NativeScVal :=
  (value.integer.map (nativeInteger value)).or (plainValue host value)

mutual
/-- Values are alike that differ only in what decoding leaves out: in the kind of a leaf with the
same native value, and in the key of an entry with the same text.
-/
def Alike (host : SdkHost) : ScVal → ScVal → Prop
  | .vec items, other => ∃ others, other = .vec others ∧ AlikeItems host items others
  | .map entries, other =>
      ∃ others,
        other = .map others
        ∧ entries.length = others.length
        ∧ AlikeEntries host entries others
  | value, other =>
      ∃ native, leafValue host value = some native ∧ leafValue host other = some native

/-- The same of the items of vectors. -/
def AlikeItems (host : SdkHost) : List ScVal → List ScVal → Prop
  | [], others => others = []
  | item :: items, others =>
      ∃ first rest, others = first :: rest ∧ Alike host item first ∧ AlikeItems host items rest

/-- Every entry has one whose key has the same text and whose value is alike. -/
def AlikeEntries (host : SdkHost) : List (ScVal × ScVal) → List (ScVal × ScVal) → Prop
  | [], _ => True
  | (key, value) :: entries, others =>
      (∃ entry ∈ others, keyText host key = keyText host entry.1 ∧ Alike host value entry.2)
      ∧ AlikeEntries host entries others
end

-----------------------------------------------------------------------------------------
-- The properties of an object

/-- The property has the text of the entry's key as its name and the entry's decoded value. -/
structure IsProperty (host : SdkHost) (entry : ScVal × ScVal) (property : String × NativeScVal)
    : Prop where
  name : keyText host entry.1 = .ok property.1
  value : decodeScVal host entry.2 = .ok property.2

/-- Items are decoded one by one. -/
theorem decodeItems_cons {item : ScVal} {items : List ScVal} {natives : List NativeScVal}
    : decodeItems host (item :: items) = .ok natives
      ↔ ∃ first others,
          decodeScVal host item = .ok first
          ∧ decodeItems host items = .ok others
          ∧ first :: others = natives := by
  rw [decodeItems]
  cases decodeScVal host item <;> cases decodeItems host items
    <;> simp [bind, Except.bind, pure, Except.pure]

/-- The loop over entries assigns the property of the first one. -/
theorem decodeEntries_cons {key value : ScVal} {entries : List (ScVal × ScVal)}
    {before after : List (String × NativeScVal) × Option NativeScVal}
    : decodeEntries host before ((key, value) :: entries) = .ok after
      ↔ ∃ property,
          IsProperty host (key, value) property
          ∧ decodeEntries host (assignProperty before property.1 property.2) entries
            = .ok after := by
  rw [decodeEntries]
  constructor
  · intro isDecoded
    cases isKey : decodeScVal host key with
    | error thrown => simp [isKey, bind, Except.bind] at isDecoded
    | ok native =>
        cases isName : native.toText host with
        | error thrown => simp [isKey, isName, bind, Except.bind] at isDecoded
        | ok name =>
            cases isValue : decodeScVal host value with
            | error thrown => simp [isKey, isName, isValue, bind, Except.bind] at isDecoded
            | ok found =>
                simp only [isKey, isName, isValue, bind, Except.bind] at isDecoded
                refine ⟨(name, found), ⟨?_, isValue⟩, isDecoded⟩
                simp only [keyText, isKey, bind, Except.bind, isName]
  · rintro ⟨⟨name, found⟩, isProperty, isDecoded⟩
    have isName : keyText host key = .ok name := isProperty.name
    have isValue : decodeScVal host value = .ok found := isProperty.value
    cases isKey : decodeScVal host key with
    | error thrown => simp [keyText, isKey, bind, Except.bind] at isName
    | ok native =>
        have isText : native.toText host = .ok name := by
          simpa only [keyText, isKey, bind, Except.bind] using isName
        simp only [isText, isValue, bind, Except.bind]
        exact isDecoded

/-- A property with a new name is added at the end. -/
theorem assigned_new {key : String} {properties : List (String × NativeScVal)}
    (isNew : ∀ property ∈ properties, property.1 ≠ key) (value : NativeScVal)
    : assigned key value properties = properties ++ [(key, value)] := by
  induction properties with
  | nil => rfl
  | cons property properties ih =>
      obtain ⟨notFirst, notOthers⟩ := List.forall_mem_cons.mp isNew
      rw [assigned, if_neg notFirst, ih notOthers, List.cons_append]

/-- The loop adds a property for every entry whose name is distinct from those before it, by
induction on the entries.
-/
theorem decodeEntries_distinct {entries : List (ScVal × ScVal)}
    {before : List (String × NativeScVal)}
    {after : List (String × NativeScVal) × Option NativeScVal}
    (isDecoded : decodeEntries host (before, none) entries = .ok after)
    (distinct : (entries.map fun entry => keyText host entry.1).Nodup)
    (notProto : ∀ entry ∈ entries, keyText host entry.1 ≠ .ok "__proto__")
    (areNew
      : ∀ entry ∈ entries, ∀ property ∈ before, keyText host entry.1 ≠ .ok property.1)
    : ∃ added,
        List.Forall₂ (IsProperty host) entries added ∧ after = (before ++ added, none) := by
  induction entries generalizing before with
  | nil =>
      obtain rfl := Except.ok.inj isDecoded
      exact ⟨[], .nil, by rw [List.append_nil]⟩
  | cons entry entries ih =>
      obtain ⟨key, value⟩ := entry
      obtain ⟨⟨name, found⟩, isProperty, isDecoded⟩ := decodeEntries_cons.mp isDecoded
      have isName : keyText host key = .ok name := isProperty.name
      obtain ⟨firstNotProto, othersNotProto⟩ := List.forall_mem_cons.mp notProto
      obtain ⟨firstIsNew, othersAreNew⟩ := List.forall_mem_cons.mp areNew
      obtain ⟨notAmong, othersDistinct⟩ := List.nodup_cons.mp distinct
      have nameNotProto : name ≠ "__proto__" := fun isProto =>
        firstNotProto (isName.trans (congrArg Except.ok isProto))
      have nameIsNew : ∀ property ∈ before, property.1 ≠ name := fun property member isSame =>
        firstIsNew property member (isName.trans (congrArg Except.ok isSame.symm))
      simp only [assignProperty, if_neg nameNotProto, assigned_new nameIsNew] at isDecoded
      obtain ⟨added, areProperties, rfl⟩ := ih isDecoded othersDistinct othersNotProto (by
        intro other isEntry property isBefore isSame
        rcases List.mem_append.mp isBefore with isBefore | isFirst
        · exact othersAreNew other isEntry property isBefore isSame
        · obtain rfl := List.mem_singleton.mp isFirst
          exact notAmong (List.mem_map.mpr ⟨other, isEntry, isSame.trans isName.symm⟩))
      exact ⟨(name, found) :: added, .cons isProperty areProperties, by rw [List.append_assoc]; rfl⟩

/-- A map is decoded to an object with a property for every entry, under its name. -/
theorem decodeScVal_map {entries : List (ScVal × ScVal)} {native : NativeScVal}
    (distinct : HasDistinctTexts host (.map entries))
    (isDecoded : decodeScVal host (.map entries) = .ok native)
    : ∃ properties,
        native = .object properties none ∧ List.Forall₂ (IsProperty host) entries properties := by
  obtain ⟨distinct, notProto, _⟩ := distinct
  cases areDecoded : decodeEntries host ([], none) entries with
  | error thrown => simp [decodeScVal, areDecoded, bind, Except.bind] at isDecoded
  | ok after =>
      obtain ⟨properties, areProperties, rfl⟩ :=
        decodeEntries_distinct areDecoded distinct notProto fun _ _ => nofun
      simp only [decodeScVal, areDecoded, bind, Except.bind, pure, Except.pure] at isDecoded
      exact ⟨properties, (Except.ok.inj isDecoded).symm, areProperties⟩

/-- The properties of entries have the texts of the keys as names, by induction on them. -/
theorem map_name_eq {entries : List (ScVal × ScVal)} {properties : List (String × NativeScVal)}
    (areProperties : List.Forall₂ (IsProperty host) entries properties)
    : (entries.map fun entry => keyText host entry.1)
      = properties.map fun property => .ok property.1 := by
  induction areProperties with
  | nil => rfl
  | cons isProperty _ ih => exact congrArg₂ List.cons isProperty.name ih

/-- Entries with distinct texts become properties with distinct names. -/
theorem names_nodup {entries : List (ScVal × ScVal)} {properties : List (String × NativeScVal)}
    (distinct : (entries.map fun entry => keyText host entry.1).Nodup)
    (areProperties : List.Forall₂ (IsProperty host) entries properties)
    : (properties.map Prod.fst).Nodup := by
  rw [map_name_eq areProperties] at distinct
  have asNames
      : (properties.map fun property => (.ok property.1 : Except ThrownValue String))
        = (properties.map Prod.fst).map .ok := by
    rw [List.map_map]
    rfl
  rw [asNames] at distinct
  exact List.Nodup.of_map Except.ok distinct

/-- Every entry has its property, by induction on them. -/
theorem exists_property {entries : List (ScVal × ScVal)} {properties : List (String × NativeScVal)}
    (areProperties : List.Forall₂ (IsProperty host) entries properties)
    {entry : ScVal × ScVal} (isEntry : entry ∈ entries)
    : ∃ property ∈ properties, IsProperty host entry property := by
  induction areProperties with
  | nil => cases isEntry
  | cons isProperty _ ih =>
      rcases List.mem_cons.mp isEntry with rfl | isEntry
      · exact ⟨_, List.mem_cons_self, isProperty⟩
      · obtain ⟨property, member, isProperty⟩ := ih isEntry
        exact ⟨property, List.mem_cons_of_mem _ member, isProperty⟩

/-- Every property has its entry, by induction on them. -/
theorem exists_entry {entries : List (ScVal × ScVal)} {properties : List (String × NativeScVal)}
    (areProperties : List.Forall₂ (IsProperty host) entries properties)
    {property : String × NativeScVal} (member : property ∈ properties)
    : ∃ entry ∈ entries, IsProperty host entry property := by
  induction areProperties with
  | nil => cases member
  | cons isProperty _ ih =>
      rcases List.mem_cons.mp member with rfl | member
      · exact ⟨_, List.mem_cons_self, isProperty⟩
      · obtain ⟨entry, isEntry, isProperty⟩ := ih member
        exact ⟨entry, List.mem_cons_of_mem _ isEntry, isProperty⟩

/-- A property is found under its name if the names are distinct, by induction on the properties. -/
theorem lookup_of_mem {properties : List (String × NativeScVal)}
    (distinct : (properties.map Prod.fst).Nodup) {property : String × NativeScVal}
    (member : property ∈ properties)
    : properties.lookup property.1 = some property.2 := by
  induction properties with
  | nil => cases member
  | cons first others ih =>
      obtain ⟨notAmong, othersDistinct⟩ := List.nodup_cons.mp distinct
      rcases List.mem_cons.mp member with rfl | member
      · exact List.lookup_cons_self
      · have isOther : (property.1 == first.1) = false :=
          beq_false_of_ne fun isSame => notAmong (isSame ▸ List.mem_map_of_mem member)
        rw [List.lookup_cons, isOther]
        exact ih othersDistinct member

-----------------------------------------------------------------------------------------
-- Values that decode to the same

/-- The native value is no array and no object. -/
def NativeScVal.isLeaf : NativeScVal → Bool
  | .array _ | .object _ _ => false
  | .undefined | .boolean _ | .number _ | .bigint _ | .text _ | .buffer _ => true

/-- What a value is decoded to: its leaf value, the array of its items or the object of its
entries.
-/
inductive DecodedTo (host : SdkHost) (value : ScVal) (native : NativeScVal) : Prop where
  | leaf (isLeafValue : leafValue host value = some native) (isLeaf : native.isLeaf = true)
  | array (items : List ScVal) (natives : List NativeScVal) (isVec : value = .vec items)
      (isArray : native = .array natives) (areDecoded : decodeItems host items = .ok natives)
  | object (entries : List (ScVal × ScVal)) (properties : List (String × NativeScVal))
      (isMap : value = .map entries) (isObject : native = .object properties none)
      (areProperties : List.Forall₂ (IsProperty host) entries properties)

/-- An integer is a leaf. -/
theorem decodedTo_integer {value : ScVal} {native : NativeScVal} {integer : Int}
    (isInteger : value.integer = some integer) (isDecoded : decodeScVal host value = .ok native)
    : DecodedTo host value native := by
  rw [decodeScVal_integer host isInteger] at isDecoded
  obtain rfl := Except.ok.inj isDecoded
  refine .leaf ?_ ?_
  · rw [leafValue, isInteger, Option.map_some, Option.some_or]
  · cases value <;> rfl

/-- A value with distinct texts of keys is decoded to one of these, by cases on its kind. -/
theorem decodedTo {value : ScVal} {native : NativeScVal} (distinct : HasDistinctTexts host value)
    (isDecoded : decodeScVal host value = .ok native)
    : DecodedTo host value native := by
  cases value with
  | u32 | i32 | u64 | i64 | u128 | i128 | u256 | i256 => exact decodedTo_integer rfl isDecoded
  | void | bool | symbol | string | bytes =>
      obtain rfl := Except.ok.inj isDecoded
      exact .leaf rfl rfl
  | address address =>
      cases isText : host.addressText address with
      | error thrown => simp [decodeScVal, isText, bind, Except.bind] at isDecoded
      | ok text =>
          simp only [decodeScVal, isText, bind, Except.bind, pure, Except.pure] at isDecoded
          obtain rfl := Except.ok.inj isDecoded
          refine .leaf ?_ rfl
          simp only [leafValue, ScVal.integer, plainValue, isText, Except.toOption,
            Option.map_none, Option.none_or, Option.map_some]
  | vec items =>
      cases areDecoded : decodeItems host items with
      | error thrown => simp [decodeScVal, areDecoded, bind, Except.bind] at isDecoded
      | ok natives =>
          simp only [decodeScVal, areDecoded, bind, Except.bind, pure, Except.pure] at isDecoded
          exact .array items natives rfl (Except.ok.inj isDecoded).symm areDecoded
  | map entries =>
      obtain ⟨properties, isObject, areProperties⟩ := decodeScVal_map distinct isDecoded
      exact .object entries properties rfl isObject areProperties
  | absentVec | absentMap | other => cases isDecoded

/-- A leaf is the same as nothing but itself. -/
theorem sameValue_leaf {native : NativeScVal} (isLeaf : native.isLeaf = true)
    (other : NativeScVal)
    : SameValue native other ↔ native = other := by
  cases native with
  | array | object => cases isLeaf
  | undefined | boolean | number | bigint | text | buffer => exact .rfl

/-- A value with a leaf value is alike to the values with the same one. -/
theorem alike_leaf {value : ScVal} {native : NativeScVal}
    (isLeafValue : leafValue host value = some native) (other : ScVal)
    : Alike host value other ↔ leafValue host other = some native := by
  have sameLeaf
      : (∃ found, leafValue host value = some found ∧ leafValue host other = some found)
        ↔ leafValue host other = some native := by
    rw [isLeafValue]
    constructor
    · rintro ⟨found, isFound, isOther⟩
      rw [isOther, isFound]
    · exact fun isOther => ⟨native, rfl, isOther⟩
  cases value with
  | vec | map => cases isLeafValue
  | _ => exact sameLeaf

/-- The values of entries have distinct texts of keys. -/
theorem valuesHaveDistinctTexts_iff (entries : List (ScVal × ScVal))
    : ValuesHaveDistinctTexts host entries
      ↔ ∀ entry ∈ entries, HasDistinctTexts host entry.2 := by
  induction entries with
  | nil => exact ⟨fun _ => nofun, fun _ => trivial⟩
  | cons entry entries ih => rw [ValuesHaveDistinctTexts, ih, List.forall_mem_cons]

mutual
/-- Values decode to the same exactly if they are alike, by induction on one of them. -/
theorem sameValue_iff {value other : ScVal} {native otherNative : NativeScVal}
    (distinct : HasDistinctTexts host value) (otherDistinct : HasDistinctTexts host other)
    (isDecoded : decodeScVal host value = .ok native)
    (otherDecoded : decodeScVal host other = .ok otherNative)
    : SameValue native otherNative ↔ Alike host value other := by
  have otherCases := decodedTo otherDistinct otherDecoded
  rcases decodedTo distinct isDecoded with
    ⟨isLeafValue, isLeaf⟩ | ⟨items, natives, rfl, rfl, areDecoded⟩
      | ⟨entries, properties, rfl, rfl, areProperties⟩
  · rw [sameValue_leaf isLeaf, alike_leaf isLeafValue]
    rcases otherCases with
      ⟨otherLeafValue, _⟩ | ⟨_, _, rfl, rfl, _⟩ | ⟨_, _, rfl, rfl, _⟩
    · rw [otherLeafValue, Option.some.injEq, eq_comm]
    · refine ⟨?_, nofun⟩
      rintro rfl
      cases isLeaf
    · refine ⟨?_, nofun⟩
      rintro rfl
      cases isLeaf
  · rw [SameValue, Alike]
    rcases otherCases with
      ⟨otherLeafValue, otherLeaf⟩ | ⟨others, otherNatives, rfl, rfl, othersDecoded⟩
        | ⟨_, _, rfl, rfl, _⟩
    · constructor
      · rintro ⟨_, rfl, _⟩
        cases otherLeaf
      · rintro ⟨_, rfl, _⟩
        cases otherLeafValue
    · simp only [NativeScVal.array.injEq, ScVal.vec.injEq, exists_eq_left']
      exact sameItems_iff distinct otherDistinct areDecoded othersDecoded
    · exact ⟨nofun, nofun⟩
  · rw [SameValue, Alike]
    rcases otherCases with
      ⟨otherLeafValue, otherLeaf⟩ | ⟨_, _, rfl, rfl, _⟩
        | ⟨others, otherProperties, rfl, rfl, othersAreProperties⟩
    · constructor
      · rintro ⟨_, rfl, _⟩
        cases otherLeaf
      · rintro ⟨_, rfl, _⟩
        cases otherLeafValue
    · exact ⟨nofun, nofun⟩
    · simp only [NativeScVal.object.injEq, and_true, ScVal.map.injEq, exists_eq_left']
      rw [areProperties.length_eq, othersAreProperties.length_eq]
      have otherValues := (valuesHaveDistinctTexts_iff others).mp otherDistinct.2.2
      exact and_congr_right' (sameProperties_iff distinct.2.2 otherValues areProperties
        othersAreProperties)

/-- The same of the items of vectors. -/
theorem sameItems_iff {items others : List ScVal} {natives otherNatives : List NativeScVal}
    (distinct : AllHaveDistinctTexts host items) (otherDistinct : AllHaveDistinctTexts host others)
    (areDecoded : decodeItems host items = .ok natives)
    (othersDecoded : decodeItems host others = .ok otherNatives)
    : SameItems natives otherNatives ↔ AlikeItems host items others := by
  match items with
  | [] =>
      obtain rfl := Except.ok.inj areDecoded
      rw [SameItems, AlikeItems]
      cases others with
      | nil =>
          obtain rfl := Except.ok.inj othersDecoded
          exact ⟨fun _ => rfl, fun _ => rfl⟩
      | cons other others =>
          obtain ⟨_, _, _, _, rfl⟩ := decodeItems_cons.mp othersDecoded
          exact ⟨nofun, nofun⟩
  | item :: items =>
      obtain ⟨first, rest, isFirst, areRest, rfl⟩ := decodeItems_cons.mp areDecoded
      rw [SameItems, AlikeItems]
      cases others with
      | nil =>
          obtain rfl := Except.ok.inj othersDecoded
          exact ⟨nofun, nofun⟩
      | cons other others =>
          obtain ⟨_, _, isOther, areOthers, rfl⟩ := decodeItems_cons.mp othersDecoded
          have first := sameValue_iff distinct.1 otherDistinct.1 isFirst isOther
          have rest := sameItems_iff distinct.2 otherDistinct.2 areRest areOthers
          constructor
          · rintro ⟨_, _, isCons, same, sameRest⟩
            obtain ⟨rfl, rfl⟩ := List.cons.inj isCons
            exact ⟨other, others, rfl, first.mp same, rest.mp sameRest⟩
          · rintro ⟨_, _, isCons, alike, alikeRest⟩
            obtain ⟨rfl, rfl⟩ := List.cons.inj isCons
            exact ⟨_, _, rfl, first.mpr alike, rest.mpr alikeRest⟩

/-- The same of the entries of maps: a property has the name of its entry's key. -/
theorem sameProperties_iff {entries others : List (ScVal × ScVal)}
    {properties otherProperties : List (String × NativeScVal)}
    (distinct : ValuesHaveDistinctTexts host entries)
    (otherDistinct : ∀ entry ∈ others, HasDistinctTexts host entry.2)
    (areProperties : List.Forall₂ (IsProperty host) entries properties)
    (othersAreProperties : List.Forall₂ (IsProperty host) others otherProperties)
    : SameProperties properties otherProperties ↔ AlikeEntries host entries others := by
  match entries with
  | [] =>
      cases areProperties
      exact .rfl
  | (key, value) :: entries =>
      cases areProperties with
      | @cons _ property _ properties isProperty areProperties =>
          obtain ⟨name, native⟩ := property
          have isName : keyText host key = .ok name := isProperty.name
          rw [SameProperties, AlikeEntries,
            sameProperties_iff distinct.2 otherDistinct areProperties othersAreProperties]
          refine and_congr_left' ⟨?_, ?_⟩
          · rintro ⟨found, member, same⟩
            obtain ⟨entry, isEntry, isOther⟩ := exists_entry othersAreProperties member
            exact ⟨entry, isEntry, isName.trans isOther.name.symm,
              (sameValue_iff distinct.1 (otherDistinct entry isEntry) isProperty.value
                isOther.value).mp same⟩
          · rintro ⟨entry, isEntry, sameText, alike⟩
            obtain ⟨⟨otherName, found⟩, member, isOther⟩ :=
              exists_property othersAreProperties isEntry
            have isSame : name = otherName :=
              Except.ok.inj (isName.symm.trans (sameText.trans isOther.name))
            subst isSame
            exact ⟨found, member,
              (sameValue_iff distinct.1 (otherDistinct entry isEntry) isProperty.value
                isOther.value).mpr alike⟩
end

-----------------------------------------------------------------------------------------
-- Objects of maps

/-- The properties of an object keep the entries of a map: there are as many, with distinct names,
and every entry's decoded value is found under the text of its key.
-/
structure KeepsEntries (host : SdkHost) (entries : List (ScVal × ScVal))
    (properties : List (String × NativeScVal)) : Prop where
  count : properties.length = entries.length
  distinct : (properties.map Prod.fst).Nodup
  found
    : ∀ entry ∈ entries,
        ∃ name value,
          keyText host entry.1 = .ok name
          ∧ decodeScVal host entry.2 = .ok value
          ∧ properties.lookup name = some value

/-- The object of a map whose keys have distinct texts, none of them `__proto__`, keeps the map's
entries. Two such maps, in which this is so at any depth, decode to the same object exactly if they
are alike.
-/
theorem map_decoding_keeps_entries (host : SdkHost) {entries : List (ScVal × ScVal)}
    {native : NativeScVal} (distinct : HasDistinctTexts host (.map entries))
    (isDecoded : decodeScVal host (.map entries) = .ok native)
    : (∃ properties, native = .object properties none ∧ KeepsEntries host entries properties)
      ∧ ∀ others otherNative,
          HasDistinctTexts host (.map others)
          → decodeScVal host (.map others) = .ok otherNative
          → (SameValue native otherNative ↔ Alike host (.map entries) (.map others)) := by
  refine ⟨?_, fun others otherNative otherDistinct otherDecoded =>
    sameValue_iff distinct otherDistinct isDecoded otherDecoded⟩
  obtain ⟨properties, isObject, areProperties⟩ := decodeScVal_map distinct isDecoded
  have namesDistinct := names_nodup distinct.1 areProperties
  refine ⟨properties, isObject, ⟨areProperties.length_eq.symm, namesDistinct, ?_⟩⟩
  intro entry isEntry
  obtain ⟨property, member, isProperty⟩ := exists_property areProperties isEntry
  exact ⟨property.1, property.2, isProperty.name, isProperty.value,
    lookup_of_mem namesDistinct member⟩

/-- A map with the keys `1` and `a`. -/
theorem map_decoding_keeps_two_entries
    : ∃ properties,
        NativeScVal.object [("1", .boolean true), ("a", .undefined)] none = .object properties none
        ∧ KeepsEntries .ascii [(.u32 1#32, .bool true), (.symbol [97], .void)] properties := by
  have distinct
      : HasDistinctTexts .ascii (.map [(.u32 1#32, .bool true), (.symbol [97], .void)]) := by
    have texts : keyText .ascii (.u32 1#32) = .ok "1" ∧ keyText .ascii (.symbol [97]) = .ok "a" :=
      ⟨rfl, rfl⟩
    simp [HasDistinctTexts, ValuesHaveDistinctTexts, texts]
  exact (map_decoding_keeps_entries .ascii distinct rfl).1

/-- The number `1` and the text `1` become the same name, so the second entry replaces the first. -/
theorem map_decoding_loses_an_entry
    : ¬ ∀ host entries native,
          (entries.map Prod.fst).Nodup
          → decodeScVal host (.map entries) = .ok native
          → ∃ properties prototype,
              native = .object properties prototype ∧ properties.length = entries.length := by
  intro always
  have distinct : ([.u32 1#32, .string [49]] : List ScVal).Nodup := by simp
  obtain ⟨properties, _, isObject, sameCount⟩ :=
    always .ascii [(.u32 1#32, .bool true), (.string [49], .bool false)] _ distinct rfl
  obtain ⟨rfl, _⟩ := NativeScVal.object.inj isObject
  cases sameCount

end Axionvera.Soroban
