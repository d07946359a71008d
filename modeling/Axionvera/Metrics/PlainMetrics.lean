import Axionvera.Foundation.SeparatedText
import Axionvera.Metrics.MetricIdentity

/-! Metrics that the collector keeps apart, said of their names and tags: no opening bracket in a
name, no equals sign in the name of a tag, no comma in its value, and names of tags that the locale
tells apart. Without any of these, metrics share a cell or have two.
-/

namespace Axionvera.Metrics

open Axionvera.Foundation

-----------------------------------------------------------------------------------------
-- Plain metrics
-----------------------------------------------------------------------------------------

/-- The locale tells any two different names of tags apart. -/
def ToldApart (collation : Collation) (tags : Tags) : Prop :=
  ∀ tag ∈ tags.keys,
    ∀ other ∈ tags.keys,
      collation.atMost tag other = true → collation.atMost other tag = true → tag = other

/-- A metric without the separators of the key where they would separate, and with tags that have
one order.
-/
structure IsPlain (collation : Collation) (name : String) (tags : Tags) : Prop where
  name : '[' ∉ name.toList
  tagNames : ∀ entry ∈ tags.entries, '=' ∉ entry.1.toList
  tagValues : ∀ entry ∈ tags.entries, ',' ∉ entry.2.toList
  toldApart : ToldApart collation tags

/-- The tags in the order of their names. -/
def sortedTags (collation : Collation) (tags : Tags) : List (String × String) :=
  tags.entries.mergeSort fun left right => collation.atMost left.1 right.1

/-- The characters of a tag. -/
def characters (entry : String × String) : List Char × List Char :=
  (entry.1.toList, entry.2.toList)

variable {collation : Collation} {name otherName : String} {tags otherTags : Tags}

/-- Sorting changes the order of the tags only. -/
theorem perm_sortedTags (collation : Collation) (tags : Tags)
    : (sortedTags collation tags).Perm tags.entries :=
  List.mergeSort_perm _ _

/-- Sorted tags are in order. -/
theorem pairwise_sortedTags (collation : Collation) (tags : Tags)
    : (sortedTags collation tags).Pairwise fun left right =>
        collation.atMost left.1 right.1 = true :=
  List.pairwise_mergeSort (fun first second third => collation.trans first.1 second.1 third.1)
    (fun first second => collation.total first.1 second.1) _

/-- The text of tags joins pairs of texts. -/
theorem toList_tagText (collation : Collation) (tags : Tags)
    : (tagText collation tags).toList
      = [','].intercalate (((sortedTags collation tags).map characters).map (signedPair '=')) := by
  have pair (entry : String × String)
      : (entry.1 ++ "=" ++ entry.2).toList = signedPair '=' (characters entry) := by
    simp [signedPair, characters, String.toList_append]
  simp [tagText, sortedTags, String.toList_intercalate, Function.comp_def, pair]

/-- There is a text of tags exactly if there are tags. -/
theorem tagText_eq_empty_iff : tagText collation tags = "" ↔ tags.entries = [] := by
  have sorted : sortedTags collation tags = [] ↔ tags.entries = [] := by
    rw [← List.length_eq_zero_iff, ← List.length_eq_zero_iff,
      (perm_sortedTags collation tags).length_eq]
  rw [← String.toList_eq_nil_iff, toList_tagText, ← sorted]
  cases sortedTags collation tags with
  | nil => simp
  | cons entry rest =>
      rw [List.map_cons, intercalate_signedPair_cons]
      simp

/-- The key of a metric with tags has the bracket behind the name. -/
theorem toList_key (tagged : tags.entries ≠ [])
    : (key collation name tags).toList
      = name.toList ++ '[' :: ((tagText collation tags).toList ++ [']']) := by
  rw [key, if_neg (mt tagText_eq_empty_iff.mp tagged)]
  simp [String.toList_append]

/-- The key of a metric without tags is its name. -/
theorem key_of_empty (untagged : tags.entries = []) : key collation name tags = name := by
  rw [key, if_pos (tagText_eq_empty_iff.mpr untagged)]

/-- Tags that differ in their order only are sorted alike, if they are told apart. -/
theorem sortedTags_eq_of_perm (toldApart : ToldApart collation tags)
    (same : tags.entries.Perm otherTags.entries)
    : sortedTags collation tags = sortedTags collation otherTags := by
  refine List.Perm.eq_of_pairwise ?_ (pairwise_sortedTags collation tags)
    (pairwise_sortedTags collation otherTags)
    ((perm_sortedTags collation tags).trans
      (same.trans (perm_sortedTags collation otherTags).symm))
  intro first second isFirst isSecond front back
  have isEntry := (perm_sortedTags collation tags).mem_iff.mp isFirst
  have isOther := same.mem_iff.mpr ((perm_sortedTags collation otherTags).mem_iff.mp isSecond)
  have sameName :=
    toldApart first.1 (List.mem_map_of_mem isEntry) second.1 (List.mem_map_of_mem isOther) front
      back
  exact List.inj_on_of_nodup_map tags.unique isEntry isOther sameName

/-- Plain tags can be told from their text. -/
theorem perm_of_tagText_eq (plain : IsPlain collation name tags)
    (plainOther : IsPlain collation otherName otherTags)
    (same : tagText collation tags = tagText collation otherTags)
    : tags.entries.Perm otherTags.entries := by
  have pairs {name : String} {tags : Tags} (plain : IsPlain collation name tags)
      : ∀ pair ∈ (sortedTags collation tags).map characters, '=' ∉ pair.1 ∧ ',' ∉ pair.2 := by
    intro pair member
    obtain ⟨entry, isEntry, rfl⟩ := List.mem_map.mp member
    have isTag := (perm_sortedTags collation tags).mem_iff.mp isEntry
    exact ⟨plain.tagNames entry isTag, plain.tagValues entry isTag⟩
  have sameText := congrArg String.toList same
  rw [toList_tagText, toList_tagText] at sameText
  have sameSorted := intercalate_signedPair_inj (pairs plain) (pairs plainOther) sameText
  have injective : Function.Injective characters := by
    intro first second same
    exact Prod.ext (String.toList_injective (congrArg Prod.fst same))
      (String.toList_injective (congrArg Prod.snd same))
  rw [injective.list_map.eq_iff] at sameSorted
  have sorts := perm_sortedTags collation tags
  rw [sameSorted] at sorts
  exact sorts.symm.trans (perm_sortedTags collation otherTags)

/-- Plain metrics are kept apart: the first bracket of a key is where the name ends. -/
theorem keptApart_of_isPlain (plain : IsPlain collation name tags)
    (plainOther : IsPlain collation otherName otherTags)
    : keptApart collation name tags otherName otherTags := by
  constructor
  · intro sameKey
    have bracket {name : String} {tags : Tags} (tagged : tags.entries ≠ [])
        : '[' ∈ (key collation name tags).toList := by
      rw [toList_key tagged]
      exact List.mem_append_right _ List.mem_cons_self
    by_cases untagged : tags.entries = [] <;> by_cases otherUntagged : otherTags.entries = []
    · rw [key_of_empty untagged, key_of_empty otherUntagged] at sameKey
      exact ⟨sameKey, by rw [untagged, otherUntagged]⟩
    · rw [key_of_empty untagged] at sameKey
      exact absurd (sameKey ▸ bracket otherUntagged) plain.name
    · rw [key_of_empty otherUntagged] at sameKey
      exact absurd (sameKey ▸ bracket untagged) plainOther.name
    · have sameCharacters := congrArg String.toList sameKey
      rw [toList_key untagged, toList_key otherUntagged] at sameCharacters
      obtain ⟨sameName, sameTags⟩ :=
        append_cons_inj_left plain.name plainOther.name sameCharacters
      exact ⟨String.toList_injective sameName,
        perm_of_tagText_eq plain plainOther
          (String.toList_injective (List.append_cancel_right sameTags))⟩
  · rintro ⟨rfl, sameTags⟩
    have sameSorted := sortedTags_eq_of_perm plain.toldApart sameTags
    have sameText : tagText collation tags = tagText collation otherTags := by
      apply String.toList_injective
      rw [toList_tagText, toList_tagText, sameSorted]
    rw [key, key, sameText]

-----------------------------------------------------------------------------------------
-- Metrics that are not plain
-----------------------------------------------------------------------------------------

variable (ν : Type*) [Add ν] [NatCast ν]

/-- After some calls on the two metrics, what the collector says of the second one is wrong. -/
def GoesWrong (collation : Collation) (kind : MetricKind) (otherName : String) (otherTags : Tags)
    (name : String) (tags : Tags)
    : Prop :=
  ∃ calls : List (MetricCall ν),
    (∀ call ∈ calls,
      call.name = otherName ∧ call.tags = otherTags ∨ call.name = name ∧ call.tags = tags)
    ∧ ¬ reportsRight collation kind calls name tags

/-- One tag. -/
def oneTag (tag value : String) : Tags := InsertionMap.empty.set tag value

/-- Two tags, in the order in which they are written. -/
def twoTags (tag value other otherValue : String) : Tags :=
  (oneTag tag value).set other otherValue

/-- What each of the requirements on plain metrics is good for: without it, metrics go wrong. -/
structure RequirementsAreNeeded (collation : Collation) (kind : MetricKind) : Prop where
  name
    : ∀ name tags,
        tags.entries ≠ []
        → GoesWrong ν collation kind (name ++ "[" ++ tagText collation tags ++ "]") .empty name tags
  tagNames
    : ∀ name tag more value,
        GoesWrong ν collation kind name (oneTag (tag ++ "=" ++ more) value) name
          (oneTag tag (more ++ "=" ++ value))
  tagValues
    : ∀ name tag value other otherValue,
        tag ≠ other
        → collation.atMost tag other = true
        → GoesWrong ν collation kind name
            (oneTag tag (value ++ "," ++ other ++ "=" ++ otherValue)) name
            (twoTags tag value other otherValue)
  toldApart
    : ∀ name tag value other otherValue,
        tag ≠ other
        → collation.atMost tag other = true
        → collation.atMost other tag = true
        → '=' ∉ tag.toList
        → '=' ∉ other.toList
        → GoesWrong ν collation kind name (twoTags other otherValue tag value) name
            (twoTags tag value other otherValue)

variable {ν}

/-- Different metrics with one key go wrong. -/
theorem goesWrong_of_key_eq {kind : MetricKind}
    (sameKey : key collation otherName otherTags = key collation name tags)
    (different : ¬ sameMetric otherName otherTags name tags)
    : GoesWrong ν collation kind otherName otherTags name tags :=
  exists_not_reportsRight kind (not_keptApart_iff.mpr (.inl ⟨sameKey, different⟩))

/-- The entry of one tag. -/
theorem entries_oneTag (tag value : String) : (oneTag tag value).entries = [(tag, value)] := by
  simp [oneTag, InsertionMap.set, InsertionMap.empty, InsertionMap.keys]

/-- The entries of two tags. -/
theorem entries_twoTags {tag other : String} (differ : tag ≠ other) (value otherValue : String)
    : (twoTags tag value other otherValue).entries = [(tag, value), (other, otherValue)] := by
  simp [twoTags, oneTag, InsertionMap.set, InsertionMap.empty, InsertionMap.keys, differ.symm]

/-- The text of two tags that are in order. -/
theorem tagText_twoTags {tag other : String} (differ : tag ≠ other)
    (inOrder : collation.atMost tag other = true) (value otherValue : String)
    : tagText collation (twoTags tag value other otherValue)
      = tag ++ "=" ++ value ++ "," ++ (other ++ "=" ++ otherValue) := by
  have sorted
      : [(tag, value), (other, otherValue)].mergeSort
            (fun left right => collation.atMost left.1 right.1)
        = [(tag, value), (other, otherValue)] :=
    List.mergeSort_of_pairwise (by simp [inOrder])
  rw [tagText, entries_twoTags differ, sorted]
  simp [String.intercalate_cons_cons, String.append_assoc]

/-- Each requirement is needed: without it there are different metrics with one key, or one with
two.
-/
theorem requirementsAreNeeded (collation : Collation) (kind : MetricKind)
    : RequirementsAreNeeded ν collation kind where
  name := by
    intro name tags tagged
    refine goesWrong_of_key_eq ?_ ?_
    · rw [key_of_empty rfl, key, if_neg (mt tagText_eq_empty_iff.mp tagged)]
    · rintro ⟨_, sameTags⟩
      exact tagged sameTags.nil_eq.symm
  tagNames := by
    intro name tag more value
    refine goesWrong_of_key_eq ?_ ?_
    · rw [key, key, oneTag, oneTag, tagText_singleton, tagText_singleton]
      simp only [String.append_assoc]
    · rintro ⟨_, sameTags⟩
      rw [entries_oneTag, entries_oneTag, List.singleton_perm_singleton, Prod.mk.injEq] at sameTags
      have lengths := congrArg String.length sameTags.1
      have sign : "=".length = 1 := rfl
      rw [String.length_append, String.length_append] at lengths
      omega
  tagValues := by
    intro name tag value other otherValue differ inOrder
    refine goesWrong_of_key_eq ?_ ?_
    · rw [key, key, tagText_twoTags differ inOrder, oneTag, tagText_singleton]
      simp only [String.append_assoc]
    · rintro ⟨_, sameTags⟩
      have lengths := sameTags.length_eq
      rw [entries_oneTag, entries_twoTags differ] at lengths
      cases lengths
  toldApart := by
    intro name tag value other otherValue differ inOrder reversed plain plainOther
    refine exists_not_reportsRight kind (not_keptApart_iff.mpr (.inr ⟨?_, rfl, ?_⟩))
    · intro sameKey
      have sameCharacters := congrArg String.toList sameKey
      have tagged {tag other : String} (differ : tag ≠ other) (value otherValue : String)
          : (twoTags tag value other otherValue).entries ≠ [] := by
        rw [entries_twoTags differ]
        exact List.cons_ne_nil _ _
      rw [toList_key (tagged differ.symm _ _), toList_key (tagged differ _ _),
        tagText_twoTags differ inOrder, tagText_twoTags differ.symm reversed] at sameCharacters
      simp only [String.toList_append, List.append_assoc, List.append_cancel_left_eq,
        List.cons.injEq, true_and] at sameCharacters
      exact differ
        (String.toList_injective (append_cons_inj_left plainOther plain sameCharacters).1.symm)
    · rw [entries_twoTags differ, entries_twoTags differ.symm]
      exact .swap _ _ _

/-- After every sequence of calls on plain metrics, what the collector says of a plain metric is
what was recorded of it; and each requirement on plain metrics is needed for that.
-/
theorem metrics_right_when_plain (collation : Collation) (kind : MetricKind)
    : (∀ (calls : List (MetricCall ν)) (name : String) (tags : Tags),
        (∀ call ∈ calls, call.kind = kind → IsPlain collation call.name call.tags)
        → IsPlain collation name tags
        → reportsRight collation kind calls name tags)
      ∧ RequirementsAreNeeded ν collation kind := by
  refine ⟨?_, requirementsAreNeeded collation kind⟩
  intro calls name tags plainCalls plain
  exact reportsRight_of_keptApart fun call member isKind =>
    keptApart_of_isPlain (plainCalls call member isKind) plain

end Axionvera.Metrics
