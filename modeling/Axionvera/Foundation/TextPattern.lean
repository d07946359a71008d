import Mathlib.Data.List.Basic

/-! Patterns for secrets in texts. A pattern is a sequence of parts, each of which takes as many
characters as it can and never has to give any back. Everything that is found is replaced, from the
left to the right.
-/

namespace Axionvera.Foundation

/-- How many characters a part of a pattern takes from the beginning of a text, if it fits. -/
abbrev TextPart := List Char → Option Nat

namespace TextPart

/-- Any number of the accepted characters. -/
def any (accepts : Char → Bool) : TextPart :=
  fun text => some (text.takeWhile accepts).length

/-- At least one of the accepted characters. -/
def several (accepts : Char → Bool) : TextPart :=
  fun text =>
    match (text.takeWhile accepts).length with
    | 0 => none
    | count => some count

/-- One of the accepted characters. -/
def single (accepts : Char → Bool) : TextPart :=
  fun text =>
    match text with
    | [] => none
    | first :: _ => if accepts first then some 1 else none

/-- One of the accepted characters, or nothing. -/
def optional (accepts : Char → Bool) : TextPart :=
  fun text => some ((single accepts text).getD 0)

/-- The letters, in any case. -/
def word (letters : String) : TextPart :=
  fun text =>
    if (text.take letters.toList.length).map Char.toLower = letters.toList then
      some letters.toList.length
    else none

/-- One part after the other. -/
def followedBy (first second : TextPart) : TextPart :=
  fun text => do
    let front ← first text
    let back ← second (text.drop front)
    return front + back

/-- The first of the parts that fits. -/
def oneOf (parts : List TextPart) : TextPart :=
  fun text => parts.findSome? fun part => part text

/-- A word takes its letters, in any case. -/
theorem word_eq_some {letters : String} {text : List Char} {count : Nat}
    (fits : word letters text = some count)
    : (text.take count).map Char.toLower = letters.toList := by
  unfold word at fits
  split at fits
  · obtain rfl := Option.some.inj fits
    assumption
  · cases fits

/-- An optional character takes one character or none. -/
theorem optional_eq_some {accepts : Char → Bool} {text : List Char} {count : Nat}
    (fits : optional accepts text = some count)
    : text.take count = []
      ∨ ∃ character, accepts character = true ∧ text.take count = [character] := by
  cases text with
  | nil => exact .inl List.take_nil
  | cons first rest =>
      unfold optional single at fits
      dsimp only at fits
      by_cases accepted : accepts first = true
      · rw [if_pos accepted] at fits
        obtain rfl := Option.some.inj fits
        exact .inr ⟨first, accepted, rfl⟩
      · rw [if_neg accepted] at fits
        obtain rfl := Option.some.inj fits
        exact .inl rfl

/-- One part after the other takes what the first takes and then what the second takes. -/
theorem followedBy_eq_some {first second : TextPart} {text : List Char} {count : Nat}
    (fits : followedBy first second text = some count)
    : ∃ front back,
        first text = some front
        ∧ second (text.drop front) = some back
        ∧ text.take count = text.take front ++ (text.drop front).take back := by
  obtain ⟨front, isFront, later⟩ := Option.bind_eq_some_iff.mp fits
  obtain ⟨back, isBack, isSum⟩ := Option.bind_eq_some_iff.mp later
  obtain rfl := Option.some.inj isSum
  exact ⟨front, back, isFront, isBack, List.take_add⟩

end TextPart

/-- A pattern with a secret: what comes before the secret, the secret, and what comes after it. What
is found is replaced by a text about its keyword.
-/
structure SecretPattern where
  keyword : TextPart
  separator : TextPart
  secret : TextPart
  trailer : TextPart
  replacement : List Char → List Char

/-- Where a pattern has found a secret. -/
structure FoundSecret where
  keyword : List Char
  separator : List Char
  secret : List Char
  trailer : List Char
  deriving DecidableEq

namespace FoundSecret

/-- How much of the text comes before what follows the secret. -/
def throughSecret (found : FoundSecret) : Nat :=
  found.keyword.length + found.separator.length + found.secret.length

/-- How much of the text has been found. -/
def length (found : FoundSecret) : Nat :=
  found.throughSecret + found.trailer.length

end FoundSecret

namespace SecretPattern

/-- What the pattern finds at the beginning of a text. -/
def find (pattern : SecretPattern) (text : List Char) : Option FoundSecret := do
  let keyword ← pattern.keyword text
  let afterKeyword := text.drop keyword
  let separator ← pattern.separator afterKeyword
  let afterSeparator := afterKeyword.drop separator
  let secret ← pattern.secret afterSeparator
  let afterSecret := afterSeparator.drop secret
  let trailer ← pattern.trailer afterSecret
  return {
    keyword := text.take keyword
    separator := afterKeyword.take separator
    secret := afterSeparator.take secret
    trailer := afterSecret.take trailer
  }

/-- Go through a text, of which some characters have been found already. -/
def replaceFrom (pattern : SecretPattern) : Nat → List Char → List Char
  | _, [] => []
  | skipped + 1, _ :: rest => pattern.replaceFrom skipped rest
  | 0, first :: rest =>
      match pattern.find (first :: rest) with
      | some found =>
          pattern.replacement found.keyword ++ pattern.replaceFrom (found.length - 1) rest
      | none => first :: pattern.replaceFrom 0 rest

/-- `replace`, for a pattern with the flag that asks for all places. -/
def replaceAll (pattern : SecretPattern) (text : List Char) : List Char :=
  pattern.replaceFrom 0 text

end SecretPattern

/-- Two texts that differ in secrets only: character by character they are the same, or one of the
patterns finds a secret after the same beginning in both.
-/
inductive SameButSecrets (patterns : List SecretPattern) : List Char → List Char → Prop
  | nil : SameButSecrets patterns [] []
  | same (character : Char) {left right : List Char} (rest : SameButSecrets patterns left right)
      : SameButSecrets patterns (character :: left) (character :: right)
  | secret {pattern : SecretPattern} {left right : List Char} {found other : FoundSecret}
      (known : pattern ∈ patterns) (isFound : pattern.find left = some found)
      (isOther : pattern.find right = some other) (sameKeyword : found.keyword = other.keyword)
      (sameSeparator : found.separator = other.separator)
      (rest
        : SameButSecrets patterns (left.drop found.throughSecret) (right.drop other.throughSecret))
      : SameButSecrets patterns left right

/-- A text is the same as itself, by induction on it. -/
theorem SameButSecrets.refl {patterns : List SecretPattern} (text : List Char)
    : SameButSecrets patterns text text := by
  induction text with
  | nil => exact .nil
  | cons first rest ih => exact .same first ih

namespace SecretPattern

variable {pattern : SecretPattern}

-----------------------------------------------------------------------------------------
-- What a pattern leaves
-----------------------------------------------------------------------------------------

/-- (pattern.Leaves text left) holds if going through the text from the left, what the pattern finds
gives way to its replacement, and the characters at which it finds nothing stay.
-/
inductive Leaves (pattern : SecretPattern) : List Char → List Char → Prop
  | nil : Leaves pattern [] []
  | keeps {first : Char} {rest left : List Char} (isNone : pattern.find (first :: rest) = none)
      (later : Leaves pattern rest left)
      : Leaves pattern (first :: rest) (first :: left)
  | replaces {first : Char} {rest left : List Char} {found : FoundSecret}
      (isFound : pattern.find (first :: rest) = some found)
      (later : Leaves pattern (rest.drop (found.length - 1)) left)
      : Leaves pattern (first :: rest) (pattern.replacement found.keyword ++ left)

/-- Going on behind characters that have been found is going through what follows them, by
induction on the text.
-/
theorem replaceFrom_eq_drop (pattern : SecretPattern) (skipped : Nat) (text : List Char)
    : pattern.replaceFrom skipped text = pattern.replaceAll (text.drop skipped) := by
  induction text generalizing skipped with
  | nil => simp [replaceAll, replaceFrom]
  | cons first rest ih =>
      cases skipped with
      | zero => rfl
      | succ skipped => rw [replaceFrom, ih, List.drop_succ_cons]

/-- A character at which nothing is found stays. -/
theorem replaceAll_of_find_eq_none {first : Char} {rest : List Char}
    (isNone : pattern.find (first :: rest) = none)
    : pattern.replaceAll (first :: rest) = first :: pattern.replaceAll rest := by
  rw [replaceAll, replaceFrom, isNone, replaceAll]

/-- What is found is replaced. -/
theorem replaceAll_of_find_eq_some {first : Char} {rest : List Char} {found : FoundSecret}
    (isFound : pattern.find (first :: rest) = some found)
    : pattern.replaceAll (first :: rest)
      = pattern.replacement found.keyword
        ++ pattern.replaceAll (rest.drop (found.length - 1)) := by
  rw [replaceAll, replaceFrom, isFound]
  exact congrArg _ (replaceFrom_eq_drop pattern _ rest)

/-- A text is left as it is replaced, and in no other way, by strong induction on the length of the
text in the one direction and by induction on what is left in the other.
-/
theorem leaves_iff {text left : List Char}
    : pattern.Leaves text left ↔ pattern.replaceAll text = left := by
  constructor
  · intro leaves
    induction leaves with
    | nil => rfl
    | keeps isNone _ ih => rw [replaceAll_of_find_eq_none isNone, ih]
    | replaces isFound _ ih => rw [replaceAll_of_find_eq_some isFound, ih]
  · rintro rfl
    induction count : text.length using Nat.strongRecOn generalizing text with
    | _ count ih =>
        subst count
        cases text with
        | nil => exact .nil
        | cons first rest =>
            cases isFound : pattern.find (first :: rest) with
            | none =>
                rw [replaceAll_of_find_eq_none isFound]
                exact .keeps isFound (ih _ (by simp) rfl)
            | some found =>
                rw [replaceAll_of_find_eq_some isFound]
                have isShorter
                    : (rest.drop (found.length - 1)).length < (first :: rest).length := by
                  rw [List.length_drop, List.length_cons]
                  omega
                exact .replaces isFound (ih _ isShorter rfl)

-----------------------------------------------------------------------------------------
-- Texts of which the same is left
-----------------------------------------------------------------------------------------

/-- (pattern.Stands mark rest) holds if the pattern finds nothing at the characters of the mark,
where the rest follows it.
-/
def Stands (pattern : SecretPattern) (mark rest : List Char) : Prop :=
  ∀ front back, mark = front ++ back → back ≠ [] → pattern.find (back ++ rest) = none

/-- Two texts that agree from the left to the right: in characters at which the pattern finds
nothing, and where it finds a secret in one, in a secret of the other that gives way to the same
mark, or in the mark itself.
-/
inductive Agree (pattern : SecretPattern) : List Char → List Char → Prop
  | nil : Agree pattern [] []
  | same {first : Char} {left right : List Char}
      (isNone : pattern.find (first :: left) = none)
      (isOtherNone : pattern.find (first :: right) = none) (later : Agree pattern left right)
      : Agree pattern (first :: left) (first :: right)
  | secrets {first other : Char} {left right : List Char} {found otherFound : FoundSecret}
      (isFound : pattern.find (first :: left) = some found)
      (isOther : pattern.find (other :: right) = some otherFound)
      (sameMark
        : pattern.replacement found.keyword = pattern.replacement otherFound.keyword)
      (later
        : Agree pattern (left.drop (found.length - 1)) (right.drop (otherFound.length - 1)))
      : Agree pattern (first :: left) (other :: right)
  | mark {first : Char} {left right : List Char} {found : FoundSecret}
      (isFound : pattern.find (first :: left) = some found)
      (stands : pattern.Stands (pattern.replacement found.keyword) right)
      (later : Agree pattern (left.drop (found.length - 1)) right)
      : Agree pattern (first :: left) (pattern.replacement found.keyword ++ right)
  | otherMark {other : Char} {left right : List Char} {found : FoundSecret}
      (isOther : pattern.find (other :: right) = some found)
      (stands : pattern.Stands (pattern.replacement found.keyword) left)
      (later : Agree pattern left (right.drop (found.length - 1)))
      : Agree pattern (pattern.replacement found.keyword ++ left) (other :: right)

/-- Agreement goes both ways, by induction on it. -/
theorem Agree.symm {left right : List Char} (agree : pattern.Agree left right)
    : pattern.Agree right left := by
  induction agree with
  | nil => exact .nil
  | same isNone isOtherNone _ ih => exact .same isOtherNone isNone ih
  | secrets isFound isOther sameMark _ ih => exact .secrets isOther isFound sameMark.symm ih
  | mark isFound stands _ ih => exact .otherMark isFound stands ih
  | otherMark isOther stands _ ih => exact .mark isOther stands ih

/-- A mark at which nothing is found stays, by induction on it. -/
theorem replaceAll_of_stands {mark rest : List Char} (stands : pattern.Stands mark rest)
    : pattern.replaceAll (mark ++ rest) = mark ++ pattern.replaceAll rest := by
  induction mark with
  | nil => rfl
  | cons first mark ih =>
      have here := stands [] (first :: mark) rfl (List.cons_ne_nil _ _)
      have later : pattern.Stands mark rest := by
        intro front back isSplit nonempty
        exact stands (first :: front) back (by rw [isSplit, List.cons_append]) nonempty
      exact (replaceAll_of_find_eq_none here).trans (congrArg _ (ih later))

/-- Of texts that agree the same is left, by induction on the agreement. -/
theorem Agree.replaceAll_eq {left right : List Char} (agree : pattern.Agree left right)
    : pattern.replaceAll left = pattern.replaceAll right := by
  induction agree with
  | nil => rfl
  | same isNone isOtherNone _ ih =>
      rw [replaceAll_of_find_eq_none isNone, replaceAll_of_find_eq_none isOtherNone, ih]
  | secrets isFound isOther sameMark _ ih =>
      rw [replaceAll_of_find_eq_some isFound, replaceAll_of_find_eq_some isOther, sameMark, ih]
  | mark isFound stands _ ih =>
      rw [replaceAll_of_find_eq_some isFound, replaceAll_of_stands stands, ih]
  | otherMark isOther stands _ ih =>
      rw [replaceAll_of_find_eq_some isOther, replaceAll_of_stands stands, ih]

/-- A keyword that the pattern finds somewhere. -/
def IsKeyword (pattern : SecretPattern) (keyword : List Char) : Prop :=
  ∃ text found, pattern.find text = some found ∧ found.keyword = keyword

/-- Marks can be told apart: none is empty, and one that stands where another one stands or within
it is that one.
-/
structure MarksApart (pattern : SecretPattern) : Prop where
  nonempty : ∀ keyword, pattern.IsKeyword keyword → pattern.replacement keyword ≠ []
  apart
    : ∀ keyword other front back rest otherRest,
        pattern.IsKeyword keyword
        → pattern.IsKeyword other
        → pattern.replacement keyword = front ++ back
        → back ≠ []
        → back ++ rest = pattern.replacement other ++ otherRest
        → front = [] ∧ pattern.replacement keyword = pattern.replacement other

/-- If a mark is left of a text at whose beginning nothing is found, the text begins with it, by
induction on what is left of the mark.
-/
theorem exists_of_replaceAll_eq_mark (marksApart : pattern.MarksApart) {keyword : List Char}
    (isKeyword : pattern.IsKeyword keyword) {front back text rest : List Char}
    (isSplit : pattern.replacement keyword = front ++ back)
    (isLeft : pattern.replaceAll text = back ++ rest)
    (isNone : front = [] → pattern.find text = none)
    : ∃ behind,
        text = back ++ behind
        ∧ pattern.Stands back behind
        ∧ pattern.replaceAll behind = rest := by
  induction back generalizing front text with
  | nil =>
      refine ⟨text, rfl, ?_, isLeft⟩
      intro other end_ isEnd nonempty
      exact absurd (List.append_eq_nil_iff.mp isEnd.symm).2 nonempty
  | cons first back ih =>
      cases text with
      | nil => cases isLeft
      | cons character text =>
          cases isFound : pattern.find (character :: text) with
          | some found =>
              -- A mark within the mark would have to be all of it.
              rw [replaceAll_of_find_eq_some isFound] at isLeft
              obtain ⟨isEmpty, _⟩ :=
                marksApart.apart keyword found.keyword front (first :: back) rest _ isKeyword
                  ⟨_, found, isFound, rfl⟩ isSplit (List.cons_ne_nil _ _) isLeft.symm
              cases isFound.symm.trans (isNone isEmpty)
          | none =>
              rw [replaceAll_of_find_eq_none isFound, List.cons_append, List.cons.injEq] at isLeft
              obtain ⟨rfl, isLater⟩ := isLeft
              obtain ⟨behind, rfl, stands, isRest⟩ :=
                @ih (front ++ [character]) text (by simpa using isSplit) isLater (by simp)
              refine ⟨behind, rfl, ?_, isRest⟩
              intro other end_ isEnd nonempty
              cases other with
              | nil =>
                  obtain rfl := isEnd
                  exact isFound
              | cons head other =>
                  obtain ⟨rfl, isTail⟩ := List.cons.inj isEnd
                  exact stands other end_ isTail nonempty

/-- Of a text that is not empty something is left. -/
theorem replaceAll_ne_nil (marksApart : pattern.MarksApart) (first : Char) (rest : List Char)
    : pattern.replaceAll (first :: rest) ≠ [] := by
  cases isFound : pattern.find (first :: rest) with
  | none =>
      rw [replaceAll_of_find_eq_none isFound]
      exact List.cons_ne_nil _ _
  | some found =>
      rw [replaceAll_of_find_eq_some isFound]
      exact List.append_ne_nil_of_left_ne_nil (marksApart.nonempty _ ⟨_, found, isFound, rfl⟩) _

/-- A text in which a secret is found agrees with one in which none is found at the beginning, if
what follows the secret agrees with what follows its mark.
-/
theorem agree_at_mark (marksApart : pattern.MarksApart) {first : Char} {left right : List Char}
    {found : FoundSecret} (isFound : pattern.find (first :: left) = some found)
    (isNone : pattern.find right = none)
    (same : pattern.replaceAll (first :: left) = pattern.replaceAll right)
    (later
      : ∀ behind,
          behind.length ≤ right.length
          → pattern.replaceAll (left.drop (found.length - 1)) = pattern.replaceAll behind
          → pattern.Agree (left.drop (found.length - 1)) behind)
    : pattern.Agree (first :: left) right := by
  rw [replaceAll_of_find_eq_some isFound] at same
  have isSplit : pattern.replacement found.keyword = [] ++ pattern.replacement found.keyword := rfl
  obtain ⟨behind, rfl, stands, isRest⟩ :=
    exists_of_replaceAll_eq_mark marksApart ⟨_, found, isFound, rfl⟩ isSplit same.symm
      fun _ => isNone
  exact .mark isFound stands (later behind (by simp) isRest.symm)

/-- If marks can be told apart, the same is left exactly of texts that agree, by strong induction on
the lengths of both and by cases of what is found at their beginnings.
-/
theorem replaceAll_eq_iff (marksApart : pattern.MarksApart) {left right : List Char}
    : pattern.replaceAll left = pattern.replaceAll right ↔ pattern.Agree left right := by
  refine ⟨fun same => ?_, Agree.replaceAll_eq⟩
  induction count : left.length + right.length using Nat.strongRecOn
    generalizing left right with
  | _ count ih =>
      subst count
      cases left with
      | nil =>
          cases right with
          | nil => exact .nil
          | cons other right => exact absurd same.symm (replaceAll_ne_nil marksApart other right)
      | cons first left =>
          cases right with
          | nil => exact absurd same (replaceAll_ne_nil marksApart first left)
          | cons other right =>
              have shorter (count : Nat) (rest : List Char)
                  : (rest.drop count).length ≤ rest.length := by
                rw [List.length_drop]
                omega
              cases isFound : pattern.find (first :: left) with
              | none =>
                  cases isOther : pattern.find (other :: right) with
                  | none =>
                      rw [replaceAll_of_find_eq_none isFound, replaceAll_of_find_eq_none isOther,
                        List.cons.injEq] at same
                      obtain ⟨rfl, sameRest⟩ := same
                      exact .same isFound isOther
                        (ih _ (by simp only [List.length_cons]; omega) sameRest rfl)
                  | some otherFound =>
                      refine (agree_at_mark marksApart isOther isFound same.symm ?_).symm
                      intro behind isShorter sameRest
                      have length := shorter (otherFound.length - 1) right
                      refine ih _ ?_ sameRest rfl
                      simp only [List.length_cons] at isShorter ⊢
                      omega
              | some found =>
                  have length := shorter (found.length - 1) left
                  cases isOther : pattern.find (other :: right) with
                  | none =>
                      refine agree_at_mark marksApart isFound isOther same ?_
                      intro behind isShorter sameRest
                      refine ih _ ?_ sameRest rfl
                      simp only [List.length_cons] at isShorter ⊢
                      omega
                  | some otherFound =>
                      have otherLength := shorter (otherFound.length - 1) right
                      rw [replaceAll_of_find_eq_some isFound,
                        replaceAll_of_find_eq_some isOther] at same
                      have isKeyword : pattern.IsKeyword found.keyword := ⟨_, found, isFound, rfl⟩
                      obtain ⟨_, sameMark⟩ :=
                        marksApart.apart _ otherFound.keyword [] _ _ _ isKeyword
                          ⟨_, otherFound, isOther, rfl⟩ rfl
                          (marksApart.nonempty _ isKeyword) same
                      rw [sameMark] at same
                      exact .secrets isFound isOther sameMark
                        (ih _ (by simp only [List.length_cons]; omega)
                          (List.append_cancel_left same) rfl)

end SecretPattern

end Axionvera.Foundation
