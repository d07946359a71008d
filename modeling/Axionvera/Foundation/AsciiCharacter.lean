import Mathlib.Data.List.Basic

/-! The characters of ASCII, for which facts can be checked one by one. -/

namespace Axionvera.Foundation

/-- What is checked for all characters of ASCII. -/
theorem forall_ascii (test : Char → Bool) (all : ∀ code : Fin 128, test (Char.ofNat code) = true)
    {character : Char} (ascii : character.toNat < 128)
    : test character = true := by
  have checked := all ⟨character.toNat, ascii⟩
  rwa [Char.ofNat_toNat] at checked

/-- Letters and digits are characters of ASCII. -/
theorem ascii_of_isAlphanum {character : Char} (isAlphanum : character.isAlphanum = true)
    : character.toNat < 128 := by
  unfold Char.isAlphanum Char.isAlpha Char.isUpper Char.isLower Char.isDigit at isAlphanum
  simp only [Bool.or_eq_true, Bool.and_eq_true, decide_eq_true_eq, ge_iff_le,
    UInt32.le_iff_toNat_le]
    at isAlphanum
  have value : character.toNat = character.val.toNat := rfl
  rcases isAlphanum with (⟨_, less⟩ | ⟨_, less⟩) | ⟨_, less⟩
  all_goals
    simp at less
    omega

/-- What is checked of all characters of a text. -/
theorem forall_mem_of_all {text : List Char} {p : Char → Prop} [DecidablePred p]
    (all : text.all (fun character => p character) = true)
    : ∀ character ∈ text, p character :=
  fun character member => of_decide_eq_true (List.all_eq_true.mp all character member)

end Axionvera.Foundation
