import Mathlib.Data.List.Induction
import Mathlib.Order.Lattice

/-! The index of the best item of a list, by a fold that keeps the index of the best item so far. -/

namespace Axionvera.Foundation

variable {α : Type*}

/-- The index of the best item after one more item was seen. -/
def betterIndex (better : α → α → Bool) (items : List α) (best : Nat) (entry : α × Nat) : Nat :=
  if items[best]?.any (better entry.1) then entry.2 else best

/-- The index stays or moves to the item that is seen. -/
theorem betterIndex_eq {better : α → α → Bool} {items : List α} {best : Nat} {bestItem : α}
    (isBest : items[best]? = some bestItem) (item : α) (index : Nat)
    : betterIndex better items best (item, index)
      = if better item bestItem then index else best := by
  rw [betterIndex, isBest]
  rfl

/-- `items.reduce((best, item, index) => better(item, items[best]) ? index : best, 0)`. -/
def bestIndex (better : α → α → Bool) (items : List α) : Nat :=
  items.zipIdx.foldl (betterIndex better items) 0

/-- The best of images is the best by what it is mapped to. -/
theorem bestIndex_map {β : Type*} (better : β → β → Bool) (image : α → β) (items : List α)
    : bestIndex better (items.map image)
      = bestIndex (fun item other => better (image item) (image other)) items := by
  rw [bestIndex, List.zipIdx_map, List.foldl_map]
  unfold bestIndex betterIndex
  simp only [List.getElem?_map, Option.any_map, Prod.map_fst, Prod.map_snd, id_eq]

/-- What holds of the first item, and is kept when an item is compared with the best one so far,
holds of the best item of a list.
-/
theorem bestIndex_induction (better : α → α → Bool) (holds : List α → Nat → α → Prop)
    (start : ∀ first, holds [first] 0 first)
    (keep
      : ∀ seen best bestItem item,
          seen[best]? = some bestItem
          → holds seen best bestItem
          → better item bestItem = false
          → holds (seen ++ [item]) best bestItem)
    (replace
      : ∀ seen best bestItem item,
          seen[best]? = some bestItem
          → holds seen best bestItem
          → better item bestItem = true
          → holds (seen ++ [item]) seen.length item)
    {items : List α} (nonempty : items ≠ [])
    : ∃ item,
        items[bestIndex better items]? = some item ∧ holds items (bestIndex better items) item := by
  -- By induction on the part of the list that was seen.
  have ofPrefix (seen : List α)
      : ∀ rest,
          items = seen ++ rest
          → seen ≠ []
          → ∃ item,
              seen[seen.zipIdx.foldl (betterIndex better items) 0]? = some item
              ∧ holds seen (seen.zipIdx.foldl (betterIndex better items) 0) item := by
    induction seen using List.reverseRecOn with
    | nil => exact fun _ _ someSeen => absurd rfl someSeen
    | append_singleton seen item ih =>
        intro rest shape _
        rw [List.append_assoc, List.singleton_append] at shape
        rw [List.zipIdx_append, List.foldl_append]
        rcases eq_or_ne seen [] with rfl | someSeen
        · have first : betterIndex better items 0 (item, 0) = 0 := by
            unfold betterIndex
            split <;> rfl
          refine ⟨item, ?_, ?_⟩ <;> simp [first, start]
        · obtain ⟨bestItem, isBest, held⟩ := ih (item :: rest) shape someSeen
          generalize seen.zipIdx.foldl (betterIndex better items) 0 = best at isBest held ⊢
          have below : best < seen.length := (List.getElem?_eq_some_iff.mp isBest).1
          have inItems : items[best]? = some bestItem := by
            rw [shape, List.getElem?_append_left below, isBest]
          rw [List.zipIdx_cons, List.zipIdx_nil, List.foldl_cons, List.foldl_nil, Nat.zero_add,
            betterIndex_eq inItems]
          cases isBetter : better item bestItem with
          | false =>
              refine ⟨bestItem, ?_, keep seen best bestItem item isBest held isBetter⟩
              exact (List.getElem?_append_left below).trans isBest
          | true =>
              refine ⟨item, ?_, replace seen best bestItem item isBest held isBetter⟩
              exact List.getElem?_concat_length
  exact ofPrefix items [] (List.append_nil items).symm nonempty

/-- Where items are better that are smaller by a key, the best item has the least key, and those
before it have greater ones.
-/
theorem bestIndex_least {κ : Type*} [LinearOrder κ] (better : α → α → Bool) (key : α → κ)
    (isLess : ∀ item other, better item other = true ↔ key item < key other)
    {items : List α} (nonempty : items ≠ [])
    : ∃ best,
        items[bestIndex better items]? = some best
        ∧ (∀ item ∈ items, key best ≤ key item)
        ∧ ∀ index item,
            index < bestIndex better items → items[index]? = some item → key best < key item := by
  refine bestIndex_induction better
    (fun seen best bestItem =>
      (∀ item ∈ seen, key bestItem ≤ key item)
      ∧ ∀ index item, index < best → seen[index]? = some item → key bestItem < key item)
    ?start ?keep ?replace nonempty
  case start => exact fun first => ⟨by simp, nofun⟩
  case keep =>
    rintro seen best bestItem item isBest ⟨least, before⟩ notBetter
    have notLess : ¬ key item < key bestItem :=
      fun less => Bool.false_ne_true (notBetter.symm.trans ((isLess _ _).mpr less))
    constructor
    · intro other member
      rcases List.mem_append.mp member with old | new
      · exact least other old
      · rw [List.mem_singleton.mp new]
        exact not_lt.mp notLess
    · intro index other below found
      have inSeen : index < seen.length :=
        Nat.lt_trans below (List.getElem?_eq_some_iff.mp isBest).1
      rw [List.getElem?_append_left inSeen] at found
      exact before index other below found
  case replace =>
    rintro seen best bestItem item isBest ⟨least, -⟩ isBetter
    have less : key item < key bestItem := (isLess _ _).mp isBetter
    constructor
    · intro other member
      rcases List.mem_append.mp member with old | new
      · exact less.le.trans (least other old)
      · rw [List.mem_singleton.mp new]
    · intro index other below found
      rw [List.getElem?_append_left below] at found
      exact less.trans_le (least other (List.mem_of_getElem? found))

end Axionvera.Foundation
