import Mathlib.Data.List.Basic
import Mathlib.Data.List.Nodup

/-! Finite maps that list their entries in the order in which the keys were first inserted. -/

namespace Axionvera.Foundation

/-- A list of entries with distinct keys. -/
@[ext]
structure InsertionMap (κ ν : Type*) where
  entries : List (κ × ν)
  unique : (entries.map Prod.fst).Nodup

namespace InsertionMap

variable {κ ν : Type*}

/-- The map without entries. -/
def empty : InsertionMap κ ν := ⟨[], List.nodup_nil⟩

/-- The keys in insertion order. -/
def keys (map : InsertionMap κ ν) : List κ :=
  map.entries.map Prod.fst

/-- The values in insertion order of their keys. -/
def values (map : InsertionMap κ ν) : List ν :=
  map.entries.map Prod.snd

/-- Keep the entries that pass a test. -/
def filter (map : InsertionMap κ ν) (test : κ → ν → Bool) : InsertionMap κ ν :=
  {
    entries := map.entries.filter (fun entry => test entry.1 entry.2)
    unique := map.unique.sublist (List.filter_sublist.map _)
  }

/-- Filtering twice keeps what passes both tests. -/
theorem filter_filter (map : InsertionMap κ ν) (first second : κ → ν → Bool)
    : (map.filter first).filter second
      = map.filter (fun key value => first key value && second key value) := by
  ext1
  simp [filter, List.filter_filter, Bool.and_comm]

/-- Filtering changes nothing exactly when every entry passes the test. -/
theorem filter_eq_self_iff {map : InsertionMap κ ν} {test : κ → ν → Bool}
    : map.filter test = map ↔ ∀ entry ∈ map.entries, test entry.1 entry.2 = true := by
  rw [InsertionMap.ext_iff]
  exact List.filter_eq_self

variable [DecidableEq κ]

/-- The value at a key. -/
def get (map : InsertionMap κ ν) (key : κ) : Option ν :=
  (map.entries.find? (fun entry => entry.1 = key)).map Prod.snd

/-- Whether a key has an entry. -/
def has (map : InsertionMap κ ν) (key : κ) : Bool :=
  key ∈ map.keys

/-- Remove the entry of a key, if any. -/
def delete (map : InsertionMap κ ν) (key : κ) : InsertionMap κ ν :=
  map.filter (fun other _ => other ≠ key)

/-- The keys after replacing the values at a key, which stay as they are. -/
private theorem keys_replaced (entries : List (κ × ν)) (key : κ) (value : ν)
    : (entries.map (fun entry => if entry.1 = key then (key, value) else entry)).map Prod.fst
      = entries.map Prod.fst := by
  rw [List.map_map]
  apply List.map_congr_left
  intro entry _
  by_cases same : entry.1 = key <;> simp [same]

/-- Set the value at a key: an existing entry keeps its place, a new one comes last. -/
def set (map : InsertionMap κ ν) (key : κ) (value : ν) : InsertionMap κ ν :=
  if present : key ∈ map.keys then
    {
      entries := map.entries.map (fun entry => if entry.1 = key then (key, value) else entry)
      unique := keys_replaced map.entries key value ▸ map.unique
    }
  else
    {
      entries := map.entries ++ [(key, value)]
      unique := by
        rw [List.map_append, List.map_singleton, ← List.concat_eq_append]
        exact map.unique.concat present
    }

/-- Looking up a key finds exactly its entry, because keys are distinct. -/
theorem get_eq_some_iff {map : InsertionMap κ ν} {key : κ} {value : ν}
    : map.get key = some value ↔ (key, value) ∈ map.entries := by
  unfold get
  rw [Option.map_eq_some_iff]
  constructor
  · intro given
    obtain ⟨⟨other, found⟩, isFirst, rfl⟩ := given
    have same : other = key := by simpa using List.find?_some isFirst
    exact same ▸ List.mem_of_find?_eq_some isFirst
  · intro member
    cases found : map.entries.find? (fun entry => entry.1 = key) with
    | none => simpa using List.find?_eq_none.mp found (key, value) member
    | some entry =>
        have same : entry.1 = key := by simpa using List.find?_some found
        have equal : entry = (key, value) :=
          List.inj_on_of_nodup_map map.unique (List.mem_of_find?_eq_some found) member same
        exact ⟨entry, rfl, by rw [equal]⟩

/-- A key has an entry exactly when looking it up finds a value. -/
theorem has_iff {map : InsertionMap κ ν} {key : κ}
    : map.has key = true ↔ ∃ value, map.get key = some value := by
  simp only [has, keys, decide_eq_true_eq, List.mem_map, get_eq_some_iff]
  constructor
  · intro given
    obtain ⟨⟨_, value⟩, member, rfl⟩ := given
    exact ⟨value, member⟩
  · exact fun ⟨value, member⟩ => ⟨(key, value), member, rfl⟩

/-- A key without an entry has no value. -/
theorem get_eq_none_iff {map : InsertionMap κ ν} {key : κ}
    : map.get key = none ↔ map.has key = false := by
  rw [← Bool.not_eq_true, has_iff]
  cases map.get key <;> simp

@[simp]
theorem get_empty (key : κ) : (empty : InsertionMap κ ν).get key = none := rfl

/-- The entries after setting a value are the new one and those of other keys. -/
theorem mem_set {map : InsertionMap κ ν} {key other : κ} {value found : ν}
    : (other, found) ∈ (map.set key value).entries
      ↔ if other = key then found = value else (other, found) ∈ map.entries := by
  unfold set
  split
  · rename_i present
    simp only [List.mem_map]
    constructor
    · intro given
      obtain ⟨entry, member, replaced⟩ := given
      by_cases same : entry.1 = key
      · obtain ⟨rfl, rfl⟩ : key = other ∧ value = found := by simpa [same] using replaced
        simp
      · obtain rfl : entry = (other, found) := by simpa [same] using replaced
        simpa [same] using member
    · intro described
      by_cases same : other = key
      · obtain ⟨entry, member, isKey⟩ := List.mem_map.mp present
        exact ⟨entry, member, by simp_all⟩
      · exact ⟨(other, found), by simpa [same] using described, by simp [same]⟩
  · rename_i absent
    by_cases same : other = key
    · subst same
      have missing : (other, found) ∉ map.entries :=
        fun member => absent (List.mem_map.mpr ⟨_, member, rfl⟩)
      simp [missing]
    · simp [same]

/-- Setting a value changes what is found at its own key only. -/
@[simp]
theorem get_set (map : InsertionMap κ ν) (key other : κ) (value : ν)
    : (map.set key value).get other = if other = key then some value else map.get other := by
  ext found
  rw [get_eq_some_iff, mem_set]
  by_cases same : other = key
  · simp [same, eq_comm]
  · simp [same, get_eq_some_iff]

/-- Deleting keeps the order of the other keys. -/
theorem keys_delete (map : InsertionMap κ ν) (key : κ)
    : (map.delete key).keys = map.keys.filter (· ≠ key) := by
  simp only [delete, filter, keys, List.filter_map]
  rfl

/-- Deleting removes one entry, if there is one at the key. -/
theorem length_delete (map : InsertionMap κ ν) (key : κ)
    : (map.delete key).entries.length + (if map.has key then 1 else 0) = map.entries.length := by
  have size (map : InsertionMap κ ν) : map.entries.length = map.keys.length :=
    (List.length_map Prod.fst).symm
  have erased : map.keys.filter (· ≠ key) = map.keys.erase key :=
    (List.filter_congr fun other _ => by simp [bne, beq_eq_decide]).trans
      (map.unique.erase_eq_filter key).symm
  rw [size, size, keys_delete, erased]
  by_cases present : key ∈ map.keys
  · have isThere : map.has key = true := decide_eq_true present
    rw [if_pos isThere, List.length_erase_add_one present]
  · have isAbsent : ¬ map.has key = true := fun isThere => present (of_decide_eq_true isThere)
    rw [if_neg isAbsent, List.erase_of_not_mem present, Nat.add_zero]

/-- A new key comes last. -/
theorem keys_set_of_absent {map : InsertionMap κ ν} {key : κ} (absent : key ∉ map.keys) (value : ν)
    : (map.set key value).keys = map.keys ++ [key] := by
  rw [set, dif_neg absent]
  exact List.map_append

/-- A key has a value exactly if it is one of the keys. -/
theorem mem_keys_iff {map : InsertionMap κ ν} {key : κ}
    : key ∈ map.keys ↔ ∃ value, map.get key = some value :=
  decide_eq_true_iff.symm.trans has_iff

/-- A value at a new key comes last. -/
theorem values_set_of_absent {map : InsertionMap κ ν} {key : κ} (absent : map.get key = none)
    (value : ν)
    : (map.set key value).values = map.values ++ [value] := by
  have missing : key ∉ map.keys := by
    intro present
    have found : map.has key = true := decide_eq_true present
    rw [get_eq_none_iff.mp absent] at found
    cases found
  simp [set, missing, values]

/-- Setting a value adds an entry exactly at a new key. -/
theorem length_set (map : InsertionMap κ ν) (key : κ) (value : ν)
    : (map.set key value).entries.length
      = map.entries.length + if map.has key then 0 else 1 := by
  unfold set
  split
  · rename_i present
    have isThere : map.has key = true := decide_eq_true present
    rw [if_pos isThere, List.length_map, Nat.add_zero]
  · rename_i absent
    have isNew : ¬ map.has key = true := fun isThere => absent (of_decide_eq_true isThere)
    rw [if_neg isNew, List.length_append, List.length_singleton]

/-- The value at a key is one of the values. -/
theorem mem_values_of_get {map : InsertionMap κ ν} {key : κ} {value : ν}
    (found : map.get key = some value)
    : value ∈ map.values :=
  List.mem_map.mpr ⟨(key, value), get_eq_some_iff.mp found, rfl⟩

/-- Every value is found at a key. -/
theorem exists_get_of_mem_values {map : InsertionMap κ ν} {value : ν}
    (member : value ∈ map.values)
    : ∃ key, map.get key = some value := by
  obtain ⟨⟨key, _⟩, isEntry, rfl⟩ := List.mem_map.mp member
  exact ⟨key, get_eq_some_iff.mpr isEntry⟩

/-- Filtering keeps what is found at a key when it passes the test. -/
@[simp]
theorem get_filter (map : InsertionMap κ ν) (test : κ → ν → Bool) (key : κ)
    : (map.filter test).get key = (map.get key).filter (test key) := by
  ext found
  rw [get_eq_some_iff, Option.filter_eq_some_iff, get_eq_some_iff]
  simp [filter]

/-- Filtering forgets the value set at a key that no value passes the test with. -/
theorem filter_set_of_rejected (map : InsertionMap κ ν) {test : κ → ν → Bool} {key : κ}
    (rejected : ∀ value, test key value = false) (value : ν)
    : (map.set key value).filter test = map.filter test := by
  ext1
  unfold set filter
  split
  · dsimp only
    induction map.entries with
    | nil => rfl
    | cons entry rest ih =>
        rw [List.map_cons, List.filter_cons, List.filter_cons, ih]
        by_cases same : entry.1 = key
        · simp only [same, rejected, ↓reduceIte, Bool.false_eq_true]
        · rw [if_neg same]
  · simp [List.filter_append, rejected]

/-- Deleting changes what is found at its own key only. -/
@[simp]
theorem get_delete (map : InsertionMap κ ν) (key other : κ)
    : (map.delete key).get other = if other = key then none else map.get other := by
  rw [delete, get_filter]
  by_cases same : other = key
  · simp [same]
  · cases map.get other <;> simp [same]

/-- Setting a value gives an entry to its own key only. -/
theorem has_set (map : InsertionMap κ ν) (key other : κ) (value : ν)
    : (map.set key value).has other = (decide (other = key) || map.has other) := by
  rw [Bool.eq_iff_iff, has_iff, get_set, Bool.or_eq_true, has_iff, decide_eq_true_eq]
  by_cases same : other = key <;> simp [same]

/-- Deleting takes the entry of its own key only. -/
theorem has_delete (map : InsertionMap κ ν) (key other : κ)
    : (map.delete key).has other = (!decide (other = key) && map.has other) := by
  rw [Bool.eq_iff_iff, has_iff, get_delete, Bool.and_eq_true, has_iff]
  by_cases same : other = key <;> simp [same]

end InsertionMap

end Axionvera.Foundation
