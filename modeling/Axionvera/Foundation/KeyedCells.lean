import Axionvera.Foundation.InsertionMap
import Mathlib.Data.List.Induction

/-! Maps that records are added to one after the other: each record changes the value at its own
key, or makes the first one there.
-/

namespace Axionvera.Foundation

variable {κ γ β : Type*} [DecidableEq κ]

/-- Change the value at a key, or make the first one there. -/
def InsertionMap.update (map : InsertionMap κ γ) (key : κ) (adjust : Option γ → γ)
    : InsertionMap κ γ :=
  map.set key (adjust (map.get key))

/-- The map after one more record. Some records have no key in this map. -/
def addRecord (keyOf : β → Option κ) (adjust : β → Option γ → γ) (map : InsertionMap κ γ)
    (record : β)
    : InsertionMap κ γ :=
  match keyOf record with
  | some key => map.update key (adjust record)
  | none => map

/-- The map after the records, which is empty at first. -/
def cells (keyOf : β → Option κ) (adjust : β → Option γ → γ) (records : List β)
    : InsertionMap κ γ :=
  records.foldl (addRecord keyOf adjust) .empty

variable {keyOf : β → Option κ} {adjust : β → Option γ → γ}

/-- A record changes what is found at its own key only. -/
theorem get_addRecord (map : InsertionMap κ γ) (record : β) (key : κ)
    : (addRecord keyOf adjust map record).get key
      = if keyOf record = some key then some (adjust record (map.get key)) else map.get key := by
  unfold addRecord
  cases keyOf record with
  | none => rfl
  | some own =>
      change (map.set own (adjust record (map.get own))).get key = _
      rw [InsertionMap.get_set]
      by_cases same : key = own
      · subst same
        rw [if_pos rfl, if_pos rfl]
      · rw [if_neg same, if_neg fun isKey => same (Option.some.inj isKey).symm]

/-- At a key there is what the records with this key have made, one after the other, by induction on
the records from their end.
-/
theorem get_cells (records : List β) (key : κ)
    : (cells keyOf adjust records).get key
      = (records.filter fun record => keyOf record = some key).foldl
          (fun cell record => some (adjust record cell)) none := by
  induction records using List.reverseRecOn with
  | nil => rfl
  | append_singleton records record ih =>
      rw [cells] at ih ⊢
      rw [List.foldl_append, List.foldl_cons, List.foldl_nil, get_addRecord, ih,
        List.filter_append, List.foldl_append]
      by_cases isKey : keyOf record = some key
      · simp [isKey]
      · simp [isKey]

/-- What is read of a value at a key is read of the records with this key, if each of them adds to
it as it adds to what is read. Witness: induction on the records from their end.
-/
theorem map_foldl_adjust {δ : Type*} {read : γ → δ} (gather : List β → Option δ)
    (first : gather [] = none)
    (next
      : ∀ records record cell,
          gather records = cell.map read
          → gather (records ++ [record]) = some (read (adjust record cell)))
    (records : List β)
    : (records.foldl (fun cell record => some (adjust record cell)) none).map read
      = gather records := by
  induction records using List.reverseRecOn with
  | nil => exact first.symm
  | append_singleton records record ih =>
      rw [List.foldl_append, next records record _ ih.symm]
      rfl

/-- The entries of a map at one key are its value there. -/
theorem InsertionMap.filter_entries_eq (map : InsertionMap κ γ) (key : κ)
    : map.entries.filter (fun entry => entry.1 = key)
      = (map.get key).toList.map (fun value => (key, value)) := by
  cases found : map.get key with
  | none =>
      refine List.filter_eq_nil_iff.mpr fun entry member isKey => ?_
      obtain rfl : entry.1 = key := of_decide_eq_true isKey
      rw [InsertionMap.get_eq_some_iff.mpr member] at found
      cases found
  | some value =>
      have member := InsertionMap.get_eq_some_iff.mp found
      have distinct := (List.Nodup.of_map _ map.unique).filter (fun entry => entry.1 = key)
      refine List.perm_singleton.mp ((List.perm_ext_iff_of_nodup distinct ?_).mpr fun entry => ?_)
      · exact List.nodup_singleton _
      rw [List.mem_filter, List.mem_singleton, decide_eq_true_eq]
      constructor
      · rintro ⟨isEntry, rfl⟩
        have same := (InsertionMap.get_eq_some_iff.mpr isEntry).symm.trans found
        rw [← Option.some.inj same]
      · rintro rfl
        exact ⟨member, rfl⟩

end Axionvera.Foundation
