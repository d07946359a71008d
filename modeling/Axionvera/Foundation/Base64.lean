import Axionvera.Foundation.AsciiCharacter

/-! The standard encoding of bytes in base64, and the characters it is made of. -/

namespace Axionvera.Foundation

/-- The character of six bits. -/
def sextetChar (sextet : Nat) : Char :=
  if sextet < 26 then Char.ofNat (65 + sextet)
  else if sextet < 52 then Char.ofNat (71 + sextet)
  else if sextet < 62 then Char.ofNat (sextet - 4)
  else if sextet = 62 then '+'
  else '/'

/-- The encoding of bytes, four characters for every three of them. -/
def encodeBase64 : List UInt8 → List Char
  | first :: second :: third :: rest =>
      sextetChar (first.toNat / 4)
        :: sextetChar (first.toNat % 4 * 16 + second.toNat / 16)
        :: sextetChar (second.toNat % 16 * 4 + third.toNat / 64)
        :: sextetChar (third.toNat % 64)
        :: encodeBase64 rest
  | [first, second] =>
      [sextetChar (first.toNat / 4), sextetChar (first.toNat % 4 * 16 + second.toNat / 16),
        sextetChar (second.toNat % 16 * 4), '=']
  | [first] => [sextetChar (first.toNat / 4), sextetChar (first.toNat % 4 * 16), '=', '=']
  | [] => []

/-- The characters of the encoding, padding apart. -/
def isBase64Character (character : Char) : Bool :=
  character.isAlphanum || character = '+' || character = '/'

/-- Six bits have a character of the encoding. -/
theorem isBase64Character_sextetChar {sextet : Nat} (small : sextet < 64)
    : isBase64Character (sextetChar sextet) = true := by
  have all : ∀ sextet : Fin 64, isBase64Character (sextetChar sextet) = true := by decide
  exact all ⟨sextet, small⟩

/-- The encoding takes four characters for every three bytes begun, by induction on the bytes. -/
theorem length_encodeBase64 (bytes : List UInt8)
    : (encodeBase64 bytes).length = 4 * ((bytes.length + 2) / 3) := by
  fun_induction encodeBase64 bytes with
  | case1 first second third rest ih =>
      simp only [List.length_cons, ih]
      omega
  | case2 => simp only [List.length_cons, List.length_nil, Nat.reduceAdd, Nat.reduceDiv]
  | case3 => simp only [List.length_cons, List.length_nil, Nat.reduceAdd, Nat.reduceDiv]
  | case4 => simp only [List.length_nil, Nat.reduceAdd, Nat.reduceDiv]

/-- The encoding is made of its own characters and at most two of padding, by induction on the
bytes.
-/
theorem encodeBase64_eq (bytes : List UInt8)
    : ∃ body padding,
        encodeBase64 bytes = body ++ List.replicate padding '='
        ∧ (∀ character ∈ body, isBase64Character character = true)
        ∧ padding ≤ 2
        ∧ 4 * bytes.length ≤ 3 * body.length := by
  fun_induction encodeBase64 bytes with
  | case1 first second third rest ih =>
      obtain ⟨body, padding, isEncoding, characters, short, long⟩ := ih
      have firstSmall := first.toNat_lt
      have secondSmall := second.toNat_lt
      have thirdSmall := third.toNat_lt
      refine ⟨_ :: _ :: _ :: _ :: body, padding, by rw [isEncoding]; rfl, ?_, short, ?_⟩
      · simp only [List.forall_mem_cons]
        refine ⟨?_, ?_, ?_, ?_, characters⟩
        all_goals exact isBase64Character_sextetChar (by omega)
      · simp only [List.length_cons]
        omega
  | case2 first second =>
      have firstSmall := first.toNat_lt
      have secondSmall := second.toNat_lt
      refine ⟨[_, _, _], 1, rfl, ?_, by omega, ?_⟩
      · simp only [List.forall_mem_cons]
        refine ⟨?_, ?_, ?_, List.forall_mem_nil _⟩
        all_goals exact isBase64Character_sextetChar (by omega)
      · simp only [List.length_cons, List.length_nil]
        omega
  | case3 first =>
      have firstSmall := first.toNat_lt
      refine ⟨[_, _], 2, rfl, ?_, by omega, ?_⟩
      · simp only [List.forall_mem_cons]
        refine ⟨?_, ?_, List.forall_mem_nil _⟩
        all_goals exact isBase64Character_sextetChar (by omega)
      · simp only [List.length_cons, List.length_nil]
        omega
  | case4 => exact ⟨[], 0, rfl, List.forall_mem_nil _, by omega, Nat.le_refl _⟩

example : encodeBase64 [0x4d, 0x61] = "TWE=".toList := by decide

end Axionvera.Foundation
