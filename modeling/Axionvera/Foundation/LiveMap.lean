import Mathlib.Data.List.Basic
import Mathlib.Data.List.Nodup

/-! Maps in insertion order that may be changed while loops run over them. Every entry carries
the stamp of its insertion, and a loop keeps the least stamp that it has not passed, so that it
sees later insertions and no entry twice.
-/

namespace Axionvera.Foundation

/-- An entry, with the stamp of the insertion of its key. -/
@[ext]
structure LiveEntry (κ ν : Type*) where
  stamp : Nat
  key : κ
  value : ν
  deriving DecidableEq

namespace LiveEntry

variable {κ ν : Type*} [DecidableEq κ]

/-- Put a new value into an entry that has the key. -/
def replace (key : κ) (value : ν) (entry : LiveEntry κ ν) : LiveEntry κ ν :=
  if entry.key = key then { entry with value := value } else entry

@[simp]
theorem replace_stamp (key : κ) (value : ν) (entry : LiveEntry κ ν)
    : (replace key value entry).stamp = entry.stamp := by
  unfold replace
  split <;> rfl

@[simp]
theorem replace_key (key : κ) (value : ν) (entry : LiveEntry κ ν)
    : (replace key value entry).key = entry.key := by
  unfold replace
  split <;> rfl

end LiveEntry

/-- Entries with distinct keys, in the order of their stamps. -/
@[ext]
structure LiveMap (κ ν : Type*) where
  entries : List (LiveEntry κ ν)
  nextStamp : Nat
  ascending : entries.Pairwise (fun first second => first.stamp < second.stamp)
  bounded : ∀ entry ∈ entries, entry.stamp < nextStamp
  unique : (entries.map LiveEntry.key).Nodup

namespace LiveMap

variable {κ ν : Type*}

/-- The map without entries. -/
def empty : LiveMap κ ν :=
  {
    entries := []
    nextStamp := 0
    ascending := List.Pairwise.nil
    bounded := by simp
    unique := List.nodup_nil
  }

/-- The next entry of a loop that goes on from a stamp. -/
def next (map : LiveMap κ ν) (cursor : Nat) : Option (LiveEntry κ ν) :=
  map.entries.find? (fun entry => cursor ≤ entry.stamp)

/-- Remove all entries. Their stamps are not given again. -/
def clear (map : LiveMap κ ν) : LiveMap κ ν :=
  { empty with nextStamp := map.nextStamp, bounded := by simp [empty] }

/-- Entries with the same stamp are the same, because stamps ascend. -/
theorem eq_of_stamp {map : LiveMap κ ν} {first second : LiveEntry κ ν}
    (firstMember : first ∈ map.entries) (secondMember : second ∈ map.entries)
    (same : first.stamp = second.stamp)
    : first = second := by
  have distinct : (map.entries.map LiveEntry.stamp).Nodup := by
    rw [List.nodup_iff_pairwise_ne, List.pairwise_map]
    exact map.ascending.imp fun before => Nat.ne_of_lt before
  exact List.inj_on_of_nodup_map distinct firstMember secondMember same

/-- Entries with the same key are the same. -/
theorem eq_of_key {map : LiveMap κ ν} {first second : LiveEntry κ ν}
    (firstMember : first ∈ map.entries) (secondMember : second ∈ map.entries)
    (same : first.key = second.key)
    : first = second :=
  List.inj_on_of_nodup_map map.unique firstMember secondMember same

/-- A loop ends when it has passed all entries. -/
theorem next_eq_none_iff {map : LiveMap κ ν} {cursor : Nat}
    : map.next cursor = none ↔ ∀ entry ∈ map.entries, entry.stamp < cursor := by
  simp [next]

/-- The next entry of a loop is the first one that it has not passed. Witness: the entries before
the one that is found have been passed, the ones behind it have greater stamps.
-/
theorem next_eq_some_iff {map : LiveMap κ ν} {cursor : Nat} {entry : LiveEntry κ ν}
    : map.next cursor = some entry
      ↔ entry ∈ map.entries
        ∧ cursor ≤ entry.stamp
        ∧ ∀ other ∈ map.entries, cursor ≤ other.stamp → entry.stamp ≤ other.stamp := by
  constructor
  · intro found
    obtain ⟨ahead, front, back, split, passed⟩ := List.find?_eq_some_iff_append.mp found
    refine ⟨by simp [split], by simpa using ahead, fun other member isAhead => ?_⟩
    rw [split, List.mem_append, List.mem_cons] at member
    rcases member with before | same | behind
    · exact absurd isAhead (by simpa using passed other before)
    · exact same ▸ Nat.le_refl _
    · have order := map.ascending
      rw [split, List.pairwise_append, List.pairwise_cons] at order
      exact Nat.le_of_lt (order.2.1.1 other behind)
  · intro given
    obtain ⟨member, ahead, least⟩ := given
    cases found : map.next cursor with
    | none => exact absurd ahead (Nat.not_le.mpr (next_eq_none_iff.mp found entry member))
    | some first =>
        have firstMember := List.mem_of_find?_eq_some found
        have firstAhead : cursor ≤ first.stamp := by simpa using List.find?_some found
        obtain ⟨_, front, back, split, passed⟩ := List.find?_eq_some_iff_append.mp found
        have below := least first firstMember firstAhead
        rw [split, List.mem_append, List.mem_cons] at member
        rcases member with before | same | behind
        · exact absurd ahead (by simpa using passed entry before)
        · rw [same]
        · have order := map.ascending
          rw [split, List.pairwise_append, List.pairwise_cons] at order
          have above := order.2.1.1 entry behind
          omega

/-- The entries that a loop has passed when it goes on from a stamp. -/
def before (map : LiveMap κ ν) (cursor : Nat) : List (LiveEntry κ ν) :=
  map.entries.filter (fun entry => entry.stamp < cursor)

/-- A loop passes more entries as it goes on. -/
theorem before_sublist (map : LiveMap κ ν) {cursor further : Nat} (onwards : cursor ≤ further)
    : (map.before cursor).Sublist (map.before further) := by
  refine List.monotone_filter_right _ fun entry passed => ?_
  simp only [decide_eq_true_eq] at passed ⊢
  omega

/-- When a loop passes an entry, this comes behind all that it has passed before. Witness: split the
entries at it, since stamps ascend.
-/
theorem before_succ {map : LiveMap κ ν} {entry : LiveEntry κ ν} (member : entry ∈ map.entries)
    : map.before (entry.stamp + 1) = map.before entry.stamp ++ [entry] := by
  obtain ⟨front, back, split⟩ := List.append_of_mem member
  have order := map.ascending
  rw [split, List.pairwise_append, List.pairwise_cons] at order
  obtain ⟨_, ⟨behind, _⟩, ahead⟩ := order
  have earlier : ∀ other ∈ front, other.stamp < entry.stamp :=
    fun other isFront => ahead other isFront entry List.mem_cons_self
  have wholeFront (bound : Nat) (above : entry.stamp ≤ bound)
      : front.filter (fun other => decide (other.stamp < bound)) = front :=
    List.filter_eq_self.mpr fun other isFront =>
      decide_eq_true (Nat.lt_of_lt_of_le (earlier other isFront) above)
  have noneBehind (bound : Nat) (below : bound ≤ entry.stamp + 1)
      : back.filter (fun other => decide (other.stamp < bound)) = [] := by
    refine List.filter_eq_nil_iff.mpr fun other isBack => ?_
    have above := behind other isBack
    simp only [decide_eq_true_eq]
    omega
  unfold before
  rw [split, List.filter_append, List.filter_append, List.filter_cons, List.filter_cons,
    wholeFront _ (Nat.le_succ _), wholeFront _ (Nat.le_refl _), noneBehind _ (Nat.le_refl _),
    noneBehind _ (Nat.le_succ _)]
  simp

variable [DecidableEq κ]

/-- The entry of a key. -/
def entry? (map : LiveMap κ ν) (key : κ) : Option (LiveEntry κ ν) :=
  map.entries.find? (fun entry => entry.key = key)

/-- The value at a key. -/
def get (map : LiveMap κ ν) (key : κ) : Option ν :=
  (map.entry? key).map LiveEntry.value

/-- Whether a key has an entry. -/
def has (map : LiveMap κ ν) (key : κ) : Bool :=
  key ∈ map.entries.map LiveEntry.key

/-- Remove the entry of a key, if any. -/
def delete (map : LiveMap κ ν) (key : κ) : LiveMap κ ν :=
  {
    entries := map.entries.filter (fun entry => entry.key ≠ key)
    nextStamp := map.nextStamp
    ascending := map.ascending.sublist List.filter_sublist
    bounded := fun entry member => map.bounded entry (List.mem_of_mem_filter member)
    unique := map.unique.sublist (List.filter_sublist.map _)
  }

/-- Set the value at a key: an existing entry keeps its place, a new one comes last. -/
def set (map : LiveMap κ ν) (key : κ) (value : ν) : LiveMap κ ν :=
  if present : key ∈ map.entries.map LiveEntry.key then
    {
      entries := map.entries.map (LiveEntry.replace key value)
      nextStamp := map.nextStamp
      ascending := by
        rw [List.pairwise_map]
        exact map.ascending.imp fun before => by simpa using before
      bounded := by
        intro entry member
        obtain ⟨old, oldMember, rfl⟩ := List.mem_map.mp member
        simpa using map.bounded old oldMember
      unique := by
        have same : LiveEntry.key ∘ LiveEntry.replace key value = LiveEntry.key := by
          funext entry
          simp
        rw [List.map_map, same]
        exact map.unique
    }
  else
    {
      entries := map.entries ++ [⟨map.nextStamp, key, value⟩]
      nextStamp := map.nextStamp + 1
      ascending := by
        rw [List.pairwise_append]
        refine ⟨map.ascending, List.pairwise_singleton _ _, fun entry member last isLast => ?_⟩
        obtain rfl := List.mem_singleton.mp isLast
        exact map.bounded entry member
      bounded := by
        intro entry member
        rcases List.mem_append.mp member with old | isNew
        · exact Nat.lt_succ_of_lt (map.bounded entry old)
        · obtain rfl := List.mem_singleton.mp isNew
          exact Nat.lt_succ_self _
      unique := by
        rw [List.map_append, List.map_singleton, ← List.concat_eq_append]
        exact map.unique.concat present
    }

/-- Looking up a key finds exactly its entry. -/
theorem entry?_eq_some_iff {map : LiveMap κ ν} {key : κ} {entry : LiveEntry κ ν}
    : map.entry? key = some entry ↔ entry ∈ map.entries ∧ entry.key = key := by
  constructor
  · intro found
    exact ⟨List.mem_of_find?_eq_some found, by simpa using List.find?_some found⟩
  · intro given
    obtain ⟨member, rfl⟩ := given
    cases found : map.entry? entry.key with
    | none => simpa using List.find?_eq_none.mp found entry member
    | some other =>
        have same : other.key = entry.key := by simpa using List.find?_some found
        rw [eq_of_key (List.mem_of_find?_eq_some found) member same]

/-- A key has a value exactly when one of the entries holds both. -/
theorem get_eq_some_iff {map : LiveMap κ ν} {key : κ} {value : ν}
    : map.get key = some value
      ↔ ∃ entry ∈ map.entries, entry.key = key ∧ entry.value = value := by
  simp only [get, Option.map_eq_some_iff, entry?_eq_some_iff, and_assoc]

/-- A key without a value has no entry. -/
theorem get_eq_none_iff {map : LiveMap κ ν} {key : κ}
    : map.get key = none ↔ ∀ entry ∈ map.entries, entry.key ≠ key := by
  simp [get, entry?]

/-- The entries that are left after a removal are the other ones. -/
@[simp]
theorem mem_delete {map : LiveMap κ ν} {key : κ} {entry : LiveEntry κ ν}
    : entry ∈ (map.delete key).entries ↔ entry ∈ map.entries ∧ entry.key ≠ key := by
  simp [delete]

@[simp]
theorem delete_nextStamp (map : LiveMap κ ν) (key : κ)
    : (map.delete key).nextStamp = map.nextStamp :=
  rfl

/-- The entries after setting a value at a key that has none are the old ones and a new one. -/
theorem mem_set_of_absent {map : LiveMap κ ν} {key : κ} (absent : map.get key = none) (value : ν)
    {entry : LiveEntry κ ν}
    : entry ∈ (map.set key value).entries
      ↔ entry ∈ map.entries ∨ entry = ⟨map.nextStamp, key, value⟩ := by
  have missing : key ∉ map.entries.map LiveEntry.key := by
    intro present
    obtain ⟨other, member, isKey⟩ := List.mem_map.mp present
    exact get_eq_none_iff.mp absent other member isKey
  simp [set, missing]

/-- The entries after setting a value come from the old ones by replacing the value at the key, or
are a new one with the next stamp.
-/
theorem mem_set {map : LiveMap κ ν} {key : κ} {value : ν} {entry : LiveEntry κ ν}
    (member : entry ∈ (map.set key value).entries)
    : (∃ old ∈ map.entries, entry = LiveEntry.replace key value old)
      ∨ entry = ⟨map.nextStamp, key, value⟩ := by
  unfold set at member
  split at member
  · obtain ⟨old, oldMember, same⟩ := List.mem_map.mp member
    exact .inl ⟨old, oldMember, same.symm⟩
  · rename_i absent
    rcases List.mem_append.mp member with old | isNew
    · refine .inl ⟨entry, old, ?_⟩
      have other : entry.key ≠ key :=
        fun same => absent (List.mem_map.mpr ⟨entry, old, same⟩)
      simp [LiveEntry.replace, other]
    · exact .inr (List.mem_singleton.mp isNew)

/-- Entries of other keys stay when a value is set. -/
theorem mem_set_of_mem {map : LiveMap κ ν} {key : κ} {value : ν} {entry : LiveEntry κ ν}
    (member : entry ∈ map.entries) (other : entry.key ≠ key)
    : entry ∈ (map.set key value).entries := by
  unfold set
  split
  · exact List.mem_map.mpr ⟨entry, member, by simp [LiveEntry.replace, other]⟩
  · exact List.mem_append_left _ member

/-- Every entry keeps its place and its key when a value is set. -/
theorem exists_mem_set {map : LiveMap κ ν} {entry : LiveEntry κ ν} (member : entry ∈ map.entries)
    (key : κ) (value : ν)
    : ∃ kept ∈ (map.set key value).entries, kept.stamp = entry.stamp ∧ kept.key = entry.key := by
  unfold set
  split
  · exact ⟨LiveEntry.replace key value entry, List.mem_map_of_mem member, by simp, by simp⟩
  · exact ⟨entry, List.mem_append_left _ member, rfl, rfl⟩

/-- Replaced entries that a test rejects leave others that it accepts, by induction on the entries.
-/
private theorem filter_replace_sublist (entries : List (LiveEntry κ ν)) {key : κ} {value : ν}
    {test : ν → Bool} (rejected : test value = false)
    : ((entries.map (LiveEntry.replace key value)).filter fun entry => test entry.value).Sublist
        (entries.filter fun entry => test entry.value) := by
  induction entries with
  | nil => exact List.Sublist.slnil
  | cons entry rest ih =>
      rw [List.map_cons, List.filter_cons, List.filter_cons]
      by_cases same : entry.key = key
      · simp only [LiveEntry.replace, if_pos same, rejected, Bool.false_eq_true, if_false]
        split
        · exact ih.cons _
        · exact ih
      · simp only [LiveEntry.replace, if_neg same]
        split
        · exact ih.cons_cons _
        · exact ih

/-- Setting a value that a test rejects adds no entry that it accepts. -/
theorem filter_set_sublist (map : LiveMap κ ν) (key : κ) {value : ν} {test : ν → Bool}
    (rejected : test value = false)
    : ((map.set key value).entries.filter fun entry => test entry.value).Sublist
        (map.entries.filter fun entry => test entry.value) := by
  unfold set
  split
  · exact filter_replace_sublist map.entries rejected
  · simp [rejected]

/-- Setting a value gives no stamp twice. -/
theorem nextStamp_le_set (map : LiveMap κ ν) (key : κ) (value : ν)
    : map.nextStamp ≤ (map.set key value).nextStamp := by
  unfold set
  split
  · exact Nat.le_refl _
  · exact Nat.le_succ _

/-- The value that has been set is found at its key. -/
theorem mem_set_self (map : LiveMap κ ν) (key : κ) (value : ν)
    : ∃ entry ∈ (map.set key value).entries, entry.key = key ∧ entry.value = value := by
  unfold set
  split
  · rename_i present
    obtain ⟨old, member, isKey⟩ := List.mem_map.mp present
    exact ⟨LiveEntry.replace key value old, List.mem_map.mpr ⟨old, member, rfl⟩,
      by simp [isKey], by simp [LiveEntry.replace, isKey]⟩
  · exact ⟨⟨map.nextStamp, key, value⟩, by simp, rfl, rfl⟩

/-- Setting a value changes what is found at its own key only. -/
@[simp]
theorem get_set (map : LiveMap κ ν) (key other : κ) (value : ν)
    : (map.set key value).get other = if other = key then some value else map.get other := by
  by_cases same : other = key
  · subst same
    rw [if_pos rfl, get_eq_some_iff]
    exact mem_set_self map other value
  · rw [if_neg same]
    ext found
    simp only [get_eq_some_iff]
    constructor
    · intro given
      obtain ⟨entry, member, isKey, isValue⟩ := given
      rcases mem_set member with ⟨old, oldMember, replaced⟩ | isNew
      · have untouched : old.key ≠ key := by
          intro isOld
          have keys := congrArg LiveEntry.key replaced
          rw [LiveEntry.replace_key, isKey, isOld] at keys
          exact same keys
        have unchanged : entry = old := by simpa [LiveEntry.replace, untouched] using replaced
        exact ⟨entry, unchanged ▸ oldMember, isKey, isValue⟩
      · exact absurd (isKey.symm.trans (congrArg LiveEntry.key isNew)) same
    · intro given
      obtain ⟨entry, member, isKey, isValue⟩ := given
      exact ⟨entry, mem_set_of_mem member (by rw [isKey]; exact same), isKey, isValue⟩

/-- Deleting changes what is found at its own key only. -/
@[simp]
theorem get_delete (map : LiveMap κ ν) (key other : κ)
    : (map.delete key).get other = if other = key then none else map.get other := by
  by_cases same : other = key
  · rw [if_pos same, get_eq_none_iff]
    intro entry member
    exact same ▸ (mem_delete.mp member).2
  · rw [if_neg same]
    ext found
    simp only [get_eq_some_iff, mem_delete, and_assoc]
    constructor
    · intro given
      obtain ⟨entry, member, _, isKey, isValue⟩ := given
      exact ⟨entry, member, isKey, isValue⟩
    · intro given
      obtain ⟨entry, member, isKey, isValue⟩ := given
      exact ⟨entry, member, by rw [isKey]; exact same, isKey, isValue⟩

end LiveMap

end Axionvera.Foundation
