import Mathlib.Data.List.Basic
import Mathlib.Data.List.Infix

/-! Two texts joined by a doubled character, and when the joined text tells them apart. Pairs of
texts, each joined by one character and all by another one, are told apart if the first texts are
free of the one and the second texts of the other.
-/

namespace Axionvera.Foundation

variable {α : Type*}

/-- Two texts with the mark twice between them. -/
def joinedBy (mark : α) (first second : List α) : List α :=
  first ++ mark :: mark :: second

/-- (splitsOnlyThere mark first second) requires the doubled mark between the texts to overlap
with no other doubled mark: neither text followed or led by one mark of it contains another.
-/
def splitsOnlyThere (mark : α) (first second : List α) : Prop :=
  ¬ [mark, mark] <:+: first ++ [mark] ∧ ¬ [mark, mark] <:+: mark :: second

instance [DecidableEq α] (mark : α) (first second : List α)
    : Decidable (splitsOnlyThere mark first second) :=
  inferInstanceAs (Decidable (_ ∧ _))

/-- A joined text whose own mark comes later than another text's has that one's mark in its
first text, by cases on how far apart the two are.
-/
private theorem infix_of_joined_eq {mark : α} {first second between more : List α}
    (notHere : between ≠ [])
    (joined : between ++ mark :: mark :: second = mark :: mark :: more)
    : [mark, mark] <:+: first ++ between ++ [mark] := by
  match between, notHere with
  | [only], _ =>
      obtain ⟨rfl, _⟩ := List.cons.inj joined
      exact ⟨first, [], by simp⟩
  | one :: other :: rest, _ =>
      obtain ⟨isMark, later⟩ := List.cons.inj joined
      obtain ⟨alsoMark, _⟩ := List.cons.inj later
      subst isMark alsoMark
      exact ⟨first, rest ++ [other], by simp⟩

/-- A joined text whose own mark comes earlier than another text's has that one's mark in its
second text, by cases on how far apart the two are.
-/
private theorem infix_of_eq_joined {mark : α} {second between more : List α}
    (notHere : between ≠ [])
    (joined : between ++ mark :: mark :: more = mark :: mark :: second)
    : [mark, mark] <:+: mark :: second := by
  match between, notHere with
  | [only], _ =>
      obtain ⟨_, later⟩ := List.cons.inj joined
      exact ⟨[], more, later⟩
  | one :: other :: rest, _ =>
      obtain ⟨_, later⟩ := List.cons.inj joined
      obtain ⟨_, same⟩ := List.cons.inj later
      exact ⟨mark :: rest, more, by simp [← same]⟩

/-- Two texts can be told from their joined text exactly when it splits nowhere else. Witness:
another doubled mark gives another way to split, and two ways to split are a doubled mark apart.
-/
theorem joinedBy_injective_iff {mark : α} {first second : List α}
    : (∀ other another,
        joinedBy mark other another = joinedBy mark first second
        → other = first ∧ another = second)
      ↔ splitsOnlyThere mark first second := by
  constructor
  · intro injective
    constructor
    · intro given
      obtain ⟨front, back, found⟩ := given
      have joined : joinedBy mark front (back ++ mark :: second) = joinedBy mark first second := by
        have : front ++ [mark, mark] ++ back ++ mark :: second
            = first ++ [mark] ++ mark :: second := by rw [found]
        simpa [joinedBy] using this
      obtain ⟨rfl, _⟩ := injective _ _ joined
      have lengths := congrArg List.length found
      simp only [List.length_append, List.length_cons, List.length_nil] at lengths
      omega
    · intro given
      obtain ⟨front, back, found⟩ := given
      have joined : joinedBy mark (first ++ mark :: front) back = joinedBy mark first second := by
        have : first ++ [mark] ++ (front ++ [mark, mark] ++ back)
            = first ++ [mark] ++ (mark :: second) := by rw [found]
        simpa [joinedBy] using this
      have lengths := congrArg List.length (injective _ _ joined).1
      simp only [List.length_append, List.length_cons] at lengths
      omega
  · intro only other another joined
    obtain ⟨notInFirst, notInSecond⟩ := only
    rcases List.append_eq_append_iff.mp joined with
      ⟨between, isFirst, rest⟩ | ⟨between, isOther, rest⟩
    · by_cases here : between = []
      · subst here
        simp only [List.append_nil, List.nil_append, List.cons.injEq, true_and] at isFirst rest
        exact ⟨isFirst.symm, rest⟩
      · rw [isFirst] at notInFirst
        exact absurd (infix_of_joined_eq here rest.symm) notInFirst
    · by_cases here : between = []
      · subst here
        simp only [List.append_nil, List.nil_append, List.cons.injEq, true_and] at isOther rest
        exact ⟨isOther, rest.symm⟩
      · exact absurd (infix_of_eq_joined here rest.symm) notInSecond

/-- What comes before the first mark, and what comes behind it, can be told from the whole, by
induction on what comes before it.
-/
theorem append_cons_inj_left {mark : α} {front other back otherBack : List α}
    (notInFront : mark ∉ front) (notInOther : mark ∉ other)
    (same : front ++ mark :: back = other ++ mark :: otherBack)
    : front = other ∧ back = otherBack := by
  induction front generalizing other with
  | nil =>
      cases other with
      | nil => exact ⟨rfl, (List.cons.inj same).2⟩
      | cons first other => exact absurd (List.cons.inj same).1 (List.ne_of_not_mem_cons notInOther)
  | cons first front ih =>
      cases other with
      | nil =>
          exact absurd (List.cons.inj same).1.symm (List.ne_of_not_mem_cons notInFront)
      | cons second other =>
          obtain ⟨rfl, later⟩ := List.cons.inj same
          obtain ⟨rfl, behind⟩ :=
            ih (List.not_mem_of_not_mem_cons notInFront) (List.not_mem_of_not_mem_cons notInOther)
              later
          exact ⟨rfl, behind⟩

/-- Two texts with a sign between them. -/
def signedPair (sign : α) (pair : List α × List α) : List α :=
  pair.1 ++ sign :: pair.2

/-- What stands behind the first pair of joined ones: the mark before all others, if there are any.
-/
def furtherPairs (sign mark : α) : List (List α × List α) → List α
  | [] => []
  | pair :: rest => mark :: [mark].intercalate ((pair :: rest).map (signedPair sign))

/-- Joined pairs are a first text, the sign, a second text, and what stands behind them. -/
theorem intercalate_signedPair_cons (sign mark : α) (pair : List α × List α)
    (rest : List (List α × List α))
    : [mark].intercalate ((pair :: rest).map (signedPair sign))
      = pair.1 ++ sign :: (pair.2 ++ furtherPairs sign mark rest) := by
  cases rest with
  | nil => simp [signedPair, furtherPairs]
  | cons next rest => simp [signedPair, furtherPairs, List.intercalate_cons_cons]

/-- Pairs can be told from their joined texts, if no first text has the sign and no second text has
the mark, by induction on the pairs.
-/
theorem intercalate_signedPair_inj {sign mark : α} {pairs others : List (List α × List α)}
    (plain : ∀ pair ∈ pairs, sign ∉ pair.1 ∧ mark ∉ pair.2)
    (plainOthers : ∀ pair ∈ others, sign ∉ pair.1 ∧ mark ∉ pair.2)
    (same
      : [mark].intercalate (pairs.map (signedPair sign))
        = [mark].intercalate (others.map (signedPair sign)))
    : pairs = others := by
  have nonempty (pair : List α × List α) (rest : List (List α × List α))
      : [mark].intercalate ((pair :: rest).map (signedPair sign)) ≠ [] := by
    rw [intercalate_signedPair_cons]
    exact List.append_ne_nil_of_right_ne_nil _ (List.cons_ne_nil _ _)
  induction pairs generalizing others with
  | nil =>
      cases others with
      | nil => rfl
      | cons other others => exact absurd same.symm (nonempty other others)
  | cons pair pairs ih =>
      cases others with
      | nil => exact absurd same (nonempty pair pairs)
      | cons other others =>
          obtain ⟨⟨noSign, noMark⟩, restPlain⟩ := List.forall_mem_cons.mp plain
          obtain ⟨⟨noOtherSign, noOtherMark⟩, othersPlain⟩ := List.forall_mem_cons.mp plainOthers
          rw [intercalate_signedPair_cons, intercalate_signedPair_cons] at same
          obtain ⟨sameFirst, sameBehind⟩ := append_cons_inj_left noSign noOtherSign same
          have sameEnd : pair.2 = other.2 ∧ pairs = others := by
            cases pairs with
            | nil =>
                cases others with
                | nil => exact ⟨by simpa [furtherPairs] using sameBehind, rfl⟩
                | cons next others =>
                    refine absurd ?_ noMark
                    simp only [furtherPairs, List.append_nil] at sameBehind
                    simp [sameBehind]
            | cons following pairs =>
                cases others with
                | nil =>
                    refine absurd ?_ noOtherMark
                    simp only [furtherPairs, List.append_nil] at sameBehind
                    simp [← sameBehind]
                | cons next others =>
                    obtain ⟨sameSecond, sameLater⟩ :=
                      append_cons_inj_left noMark noOtherMark sameBehind
                    exact ⟨sameSecond, ih restPlain othersPlain sameLater⟩
          rw [Prod.ext sameFirst sameEnd.1, sameEnd.2]

end Axionvera.Foundation
