import Axionvera.Logging.Logger
import Mathlib.Data.List.Infix

/-! Texts of which redaction leaves the same, said of what the patterns find in them. The marks of
assignments can be told apart: none of them begins within another one.
-/

namespace Axionvera.Logging

open Axionvera.Foundation

-----------------------------------------------------------------------------------------
-- Marks of assignments
-----------------------------------------------------------------------------------------

/-- The keywords of an assignment, in lower case. -/
def assignmentKeywords : List (List Char) :=
  ["apikey", "api_key", "api-key", "secretkey", "secret_key", "secret-key", "password", "token",
    "privatekey", "private_key", "private-key"].map String.toList

/-- What follows the keyword of an assignment in its mark, in lower case. -/
def markEnd : List Char := ": [redacted]".toList

/-- A word and `key` are taken with a stroke between them or without. -/
theorem keyNamed_eq_some {letters : String} {text : List Char} {count : Nat}
    (fits : keyNamed letters text = some count)
    : ∃ stroke ∈ [[], ['_'], ['-']],
        (text.take count).map Char.toLower = letters.toList ++ (stroke ++ "key".toList) := by
  obtain ⟨front, back, isWord, later, isTaken⟩ := TextPart.followedBy_eq_some fits
  obtain ⟨stroke, last, isStroke, isKey, isRest⟩ := TextPart.followedBy_eq_some later
  rw [isTaken, isRest, List.map_append, List.map_append, TextPart.word_eq_some isWord,
    TextPart.word_eq_some isKey]
  rcases TextPart.optional_eq_some isStroke with isEmpty | ⟨character, isAccepted, isOne⟩
  · exact ⟨[], by simp, by rw [isEmpty]; rfl⟩
  · rw [isOne]
    rw [Bool.or_eq_true, decide_eq_true_eq, decide_eq_true_eq] at isAccepted
    rcases isAccepted with rfl | rfl
    · exact ⟨['_'], by simp, rfl⟩
    · exact ⟨['-'], by simp, rfl⟩

/-- What is found as a keyword of an assignment is one of the keywords, in some case. -/
theorem mem_assignmentKeywords {keyword : List Char}
    (isKeyword : assignmentPattern.IsKeyword keyword)
    : keyword.map Char.toLower ∈ assignmentKeywords := by
  obtain ⟨text, found, isFound, rfl⟩ := isKeyword
  obtain ⟨count, fits, later⟩ := Option.bind_eq_some_iff.mp isFound
  have isTaken : found.keyword = text.take count := by
    obtain ⟨_, _, later⟩ := Option.bind_eq_some_iff.mp later
    obtain ⟨_, _, later⟩ := Option.bind_eq_some_iff.mp later
    obtain ⟨_, _, isResult⟩ := Option.bind_eq_some_iff.mp later
    obtain rfl := Option.some.inj isResult
    rfl
  rw [isTaken]
  obtain ⟨part, isPart, isFit⟩ := List.exists_of_findSome?_eq_some fits
  have named (letters : String) (isFit : keyNamed letters text = some count)
      (listed
        : ∀ stroke ∈ [[], ['_'], ['-']],
            letters.toList ++ (stroke ++ "key".toList) ∈ assignmentKeywords)
      : (text.take count).map Char.toLower ∈ assignmentKeywords := by
    obtain ⟨stroke, isStroke, isWord⟩ := keyNamed_eq_some isFit
    exact isWord ▸ listed stroke isStroke
  simp only [List.mem_cons, List.not_mem_nil, or_false] at isPart
  rcases isPart with rfl | rfl | rfl | rfl | rfl
  · exact named "api" isFit (by decide)
  · exact named "secret" isFit (by decide)
  · rw [TextPart.word_eq_some isFit]
    decide
  · rw [TextPart.word_eq_some isFit]
    decide
  · exact named "private" isFit (by decide)

/-- No mark of an assignment begins within another one. -/
theorem assignmentMarks_apart
    : ∀ keyword ∈ assignmentKeywords,
        ∀ other ∈ assignmentKeywords,
          ∀ back ∈ (keyword ++ markEnd).tails,
            back ≠ []
            → back <+: other ++ markEnd ∨ other ++ markEnd <+: back
            → back = keyword ++ markEnd ∧ keyword = other := by
  decide +kernel

/-- Marks of assignments can be told apart. -/
theorem assignmentPattern_marksApart : assignmentPattern.MarksApart where
  nonempty := fun keyword _ => List.append_ne_nil_of_right_ne_nil keyword (by decide)
  apart := by
    intro keyword other front back rest otherRest isKeyword isOther isSplit nonempty isSame
    change keyword ++ ": [REDACTED]".toList = front ++ back at isSplit
    change back ++ rest = other ++ ": [REDACTED]".toList ++ otherRest at isSame
    change front = [] ∧ keyword ++ ": [REDACTED]".toList = other ++ ": [REDACTED]".toList
    have lowerSplit
        : keyword.map Char.toLower ++ markEnd
          = front.map Char.toLower ++ back.map Char.toLower := by
      have split := congrArg (List.map Char.toLower) isSplit
      rwa [List.map_append, List.map_append] at split
    have lowerSame
        : back.map Char.toLower ++ rest.map Char.toLower
          = other.map Char.toLower ++ markEnd ++ otherRest.map Char.toLower := by
      have same := congrArg (List.map Char.toLower) isSame
      rwa [List.map_append, List.map_append, List.map_append] at same
    obtain ⟨isAll, isOtherToo⟩ :=
      assignmentMarks_apart _ (mem_assignmentKeywords isKeyword) _
        (mem_assignmentKeywords isOther) (back.map Char.toLower)
        ((List.mem_tails _ _).mpr ⟨_, lowerSplit.symm⟩) (by simpa using nonempty)
        (List.prefix_or_prefix_of_prefix (List.prefix_append _ _) ⟨_, lowerSame.symm⟩)
    have isEmpty : front = [] := by
      rw [isAll] at lowerSplit
      exact List.map_eq_nil_iff.mp (List.self_eq_append_left.mp lowerSplit)
    obtain rfl := isEmpty
    obtain rfl := isSplit
    have lengths := congrArg List.length isOtherToo
    rw [List.length_map, List.length_map] at lengths
    rw [List.append_assoc, List.append_assoc] at isSame
    exact ⟨rfl, by rw [List.append_inj_left isSame lengths]⟩

-----------------------------------------------------------------------------------------
-- Texts that are redacted alike
-----------------------------------------------------------------------------------------

/-- Two texts in which, once every bearer token that is found has given way to its mark, the same
characters stay, and values are found behind the same keywords (or one of them reads as the mark
already).
-/
def textsAlike (left right : String) : Prop :=
  ∃ leftOver rightOver,
    bearerPattern.Leaves left.toList leftOver
    ∧ bearerPattern.Leaves right.toList rightOver
    ∧ assignmentPattern.Agree leftOver rightOver

/-- Redaction leaves the same exactly of texts that are alike. -/
theorem redactText_eq_iff {left right : String}
    : redactText left = redactText right ↔ textsAlike left right := by
  have patterns (text : String)
      : redactText text
        = String.ofList (assignmentPattern.replaceAll (bearerPattern.replaceAll text.toList)) :=
    rfl
  rw [patterns, patterns, String.ofList_inj,
    SecretPattern.replaceAll_eq_iff assignmentPattern_marksApart]
  constructor
  · intro agree
    exact ⟨_, _, SecretPattern.leaves_iff.mpr rfl, SecretPattern.leaves_iff.mpr rfl, agree⟩
  · rintro ⟨_, _, isLeft, isRight, agree⟩
    rw [SecretPattern.leaves_iff.mp isLeft, SecretPattern.leaves_iff.mp isRight]
    exact agree

/-- Two stacks that are missing, as an empty one is, or alike. -/
def stacksAlike : Option String → Option String → Prop
  | none, none => True
  | some left, some right => (left = "" ↔ right = "") ∧ (left = "" ∨ textsAlike left right)
  | some stack, none | none, some stack => stack = ""

/-- Redaction leaves the same exactly of stacks that are alike, by cases on both. -/
theorem redactStack_eq_iff {left right : Option String}
    : redactStack left = redactStack right ↔ stacksAlike left right := by
  cases left with
  | none =>
      cases right with
      | none => exact iff_of_true rfl trivial
      | some right => by_cases isEmpty : right = "" <;> simp [redactStack, stacksAlike, isEmpty]
  | some left =>
      cases right with
      | none => by_cases isEmpty : left = "" <;> simp [redactStack, stacksAlike, isEmpty]
      | some right =>
          by_cases isEmpty : left = "" <;> by_cases isOtherEmpty : right = "" <;>
            simp [redactStack, stacksAlike, isEmpty, isOtherEmpty, redactText_eq_iff]

end Axionvera.Logging
