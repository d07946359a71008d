import Mathlib.Data.List.Forall2
import Mathlib.Data.List.Infix

/-! Sequences of tokens in which each token is an item of its own, or the first half of an item that
the next token completes. Every such sequence is read in one way.
-/

namespace Axionvera.Foundation

variable {τ ι : Type*}

/-- What a token is to its reader: an item, or a beginning that takes the next token with it. -/
inductive TokenKind (τ ι : Type*) where
  | item (item : ι)
  | awaits (item : τ → ι)

/-- The items of a sequence of tokens, or the token at its end that is not completed. -/
def readTokens (kindOf : τ → TokenKind τ ι) : List τ → Except τ (List ι)
  | [] => .ok []
  | token :: rest =>
      match kindOf token with
      | .item item => (readTokens kindOf rest).map (item :: ·)
      | .awaits item =>
          match rest with
          | [] => .error token
          | next :: rest => (readTokens kindOf rest).map (item next :: ·)

/-- (IsItemOf kindOf item tokens) requires the tokens to be those of the item. -/
inductive IsItemOf (kindOf : τ → TokenKind τ ι) : ι → List τ → Prop where
  | single {token : τ} {item : ι} (isItem : kindOf token = .item item)
      : IsItemOf kindOf item [token]
  | double {token : τ} {item : τ → ι} (isHalf : kindOf token = .awaits item) (next : τ)
      : IsItemOf kindOf (item next) [token, next]

variable {kindOf : τ → TokenKind τ ι}

/-- An item in front is read first. -/
theorem readTokens_append {item : ι} {tokens : List τ} (isItem : IsItemOf kindOf item tokens)
    (rest : List τ)
    : readTokens kindOf (tokens ++ rest) = (readTokens kindOf rest).map (item :: ·) := by
  cases isItem with
  | single isItem => rw [List.singleton_append, readTokens, isItem]
  | double isHalf => rw [List.cons_append, List.singleton_append, readTokens, isHalf]

/-- Items in front are read first, by induction on them. -/
theorem readTokens_flatten_append {items : List ι} {parts : List (List τ)}
    (areItems : List.Forall₂ (IsItemOf kindOf) items parts) (rest : List τ)
    : readTokens kindOf (parts.flatten ++ rest) = (readTokens kindOf rest).map (items ++ ·) := by
  induction areItems with
  | nil => cases isRead : readTokens kindOf rest <;> simp [isRead, Except.map]
  | cons isItem _ ih =>
      rw [List.flatten_cons, List.append_assoc, readTokens_append isItem, ih]
      cases readTokens kindOf rest <;> rfl

/-- Items are read back from their tokens. -/
theorem readTokens_flatten {items : List ι} {parts : List (List τ)}
    (areItems : List.Forall₂ (IsItemOf kindOf) items parts)
    : readTokens kindOf parts.flatten = .ok items := by
  have read := readTokens_flatten_append areItems []
  rw [List.append_nil] at read
  rw [read]
  simp [readTokens, Except.map]

/-- A beginning at the end is not completed. -/
theorem readTokens_flatten_half {items : List ι} {parts : List (List τ)}
    (areItems : List.Forall₂ (IsItemOf kindOf) items parts) {token : τ} {half : τ → ι}
    (isHalf : kindOf token = .awaits half)
    : readTokens kindOf (parts.flatten ++ [token]) = .error token := by
  rw [readTokens_flatten_append areItems, readTokens, isHalf]
  rfl

/-- (Splits kindOf tokens) requires the tokens to be those of items, with at most the half of one
behind them.
-/
def Splits (kindOf : τ → TokenKind τ ι) (tokens : List τ) : Prop :=
  ∃ items parts,
    List.Forall₂ (IsItemOf kindOf) items parts
    ∧ (tokens = parts.flatten
      ∨ ∃ token half, kindOf token = .awaits half ∧ tokens = parts.flatten ++ [token])

/-- An item may stand in front. -/
theorem Splits.cons {item : ι} {front rest : List τ} (isItem : IsItemOf kindOf item front)
    (splits : Splits kindOf rest) : Splits kindOf (front ++ rest) := by
  obtain ⟨items, parts, areItems, whole | ⟨token, half, isHalf, whole⟩⟩ := splits
  · exact ⟨item :: items, front :: parts, .cons isItem areItems, .inl (by rw [whole]; rfl)⟩
  · refine ⟨item :: items, front :: parts, .cons isItem areItems, .inr ⟨token, half, isHalf, ?_⟩⟩
    rw [whole, List.flatten_cons, List.append_assoc]

/-- Every sequence splits into items. Witness: the recursion of the reader. -/
theorem splits_tokens (kindOf : τ → TokenKind τ ι) (tokens : List τ) : Splits kindOf tokens := by
  induction tokens using readTokens.induct kindOf with
  | case1 => exact ⟨[], [], .nil, .inl rfl⟩
  | case2 token rest item isItem ih => exact ih.cons (.single isItem)
  | case3 token item isHalf => exact ⟨[], [], .nil, .inr ⟨token, item, isHalf, rfl⟩⟩
  | case4 token item isHalf next rest ih => exact ih.cons (.double isHalf next)

end Axionvera.Foundation
