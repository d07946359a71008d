import Axionvera.Foundation.HexText
import Mathlib.Data.List.TakeWhile

/-! Names and values as texts for URLs (`application/x-www-form-urlencoded`), and what is read from
such a text, with `+` as a blank or as itself.
-/

namespace Axionvera.Foundation

/-- The byte of a blank. -/
def blankByte : UInt8 := 0x20

/-- The byte of a `+`. -/
def plusByte : UInt8 := 0x2B

/-- A character that stands for itself. -/
def isUnescaped (character : Char) : Bool :=
  character.isAlphanum || character ∈ ['*', '-', '.', '_']

/-- What a byte is written as: a `+`, the character itself, or an escape with two digits. -/
def encodeFormByte (byte : UInt8) : List Char :=
  if byte = blankByte then ['+']
  else if isUnescaped (Char.ofNat byte.toNat) then [Char.ofNat byte.toNat]
  else '%' :: (hexDigits byte).map Char.toUpper

/-- What bytes are written as. -/
def encodeForm (bytes : List UInt8) : List Char :=
  bytes.flatMap encodeFormByte

/-- The bytes of a text with escapes. A `%` without two digits behind it stands for itself. -/
def percentDecode : List Char → List UInt8
  | '%' :: high :: low :: rest =>
      match hexByte high low with
      | some byte => byte :: percentDecode rest
      | none => String.utf8EncodeChar '%' ++ percentDecode (high :: low :: rest)
  | character :: rest => String.utf8EncodeChar character ++ percentDecode rest
  | [] => []

/-- The bytes of a text with escapes in which a `+` stands for a blank. -/
def formDecode (text : List Char) : List UInt8 :=
  percentDecode (text.map fun character => if character = '+' then ' ' else character)

/-- Names with values, as one text. -/
def writeForm (pairs : List (List UInt8 × List UInt8)) : List Char :=
  ['&'].intercalate (pairs.map fun pair => encodeForm pair.1 ++ '=' :: encodeForm pair.2)

/-- The names and values of a text, whose bytes are read by a given function. -/
def readForm (decode : List Char → List UInt8) (text : List Char)
    : List (List UInt8 × List UInt8) :=
  ((text.splitOn '&').filter (· ≠ [])).map fun part =>
    (decode (part.takeWhile (· ≠ '=')), decode (part.dropWhile (· ≠ '=')).tail)

/-- A blank is a `+`, and what is no letter or figure is mostly escaped. -/
example : String.ofList (writeForm [([0x61], [0x31, 0x20, 0x2B]), ([0xC2, 0xA7], [])])
    = "a=1+%2B&%C2%A7=" := by
  decide +kernel

-----------------------------------------------------------------------------------------
-- The characters that are written
-----------------------------------------------------------------------------------------

/-- A character that is written for a byte. -/
def isFormCharacter (character : Char) : Bool :=
  isUnescaped character || character ∈ ['%', '+']

/-- What a byte is written as has no separators. -/
theorem all_encodeFormByte : ∀ byte : UInt8, (encodeFormByte byte).all isFormCharacter = true :=
  forall_byte_of_forall_fin (by decide +kernel)

/-- What bytes are written as has no separators. -/
theorem isFormCharacter_of_mem {bytes : List UInt8} {character : Char}
    (member : character ∈ encodeForm bytes) : isFormCharacter character = true := by
  obtain ⟨byte, -, written⟩ := List.mem_flatMap.mp member
  exact List.all_eq_true.mp (all_encodeFormByte byte) character written

/-- The separator of names and values is not written. -/
theorem equals_notMem_encodeForm (bytes : List UInt8) : '=' ∉ encodeForm bytes := fun member =>
  absurd (isFormCharacter_of_mem member) (by decide)

/-- The separator of pairs is not written. -/
theorem ampersand_notMem_encodeForm (bytes : List UInt8) : '&' ∉ encodeForm bytes := fun member =>
  absurd (isFormCharacter_of_mem member) (by decide)

/-- What joined texts consist of is the mark between them or comes from one of them, by induction on
the texts.
-/
theorem mem_of_mem_intercalate {α : Type*} {mark element : α} {parts : List (List α)}
    (member : element ∈ [mark].intercalate parts)
    : element = mark ∨ ∃ part ∈ parts, element ∈ part := by
  induction parts with
  | nil => exact absurd member List.not_mem_nil
  | cons first rest ih =>
      cases rest with
      | nil =>
          rw [List.intercalate_singleton] at member
          exact .inr ⟨first, List.mem_cons_self, member⟩
      | cons second rest =>
          rw [List.intercalate_cons_cons, List.append_assoc] at member
          rcases List.mem_append.mp member with inFirst | inRest
          · exact .inr ⟨first, List.mem_cons_self, inFirst⟩
          · rcases List.mem_cons.mp inRest with isMark | inLater
            · exact .inl isMark
            · obtain isMark | ⟨part, isPart, inPart⟩ := ih inLater
              · exact .inl isMark
              · exact .inr ⟨part, .tail _ isPart, inPart⟩

/-- A text for a URL has letters, figures and a few signs only. -/
theorem mem_writeForm {pairs : List (List UInt8 × List UInt8)} {character : Char}
    (member : character ∈ writeForm pairs)
    : isFormCharacter character = true ∨ character = '&' ∨ character = '=' := by
  obtain isMark | ⟨part, isPart, inPart⟩ := mem_of_mem_intercalate member
  · exact .inr (.inl isMark)
  · obtain ⟨pair, -, rfl⟩ := List.mem_map.mp isPart
    rcases List.mem_append.mp inPart with inName | inRest
    · exact .inl (isFormCharacter_of_mem inName)
    · rcases List.mem_cons.mp inRest with isSign | inValue
      · exact .inr (.inr isSign)
      · exact .inl (isFormCharacter_of_mem inValue)

-----------------------------------------------------------------------------------------
-- Names and values are read back
-----------------------------------------------------------------------------------------

/-- Bytes with a `+` for each blank. -/
def withPluses (bytes : List UInt8) : List UInt8 :=
  bytes.map fun byte => if byte = blankByte then plusByte else byte

/-- A character that is no `%` stands for itself. -/
theorem percentDecode_cons_of_ne {character : Char} (isOther : character ≠ '%') (rest : List Char)
    : percentDecode (character :: rest) = String.utf8EncodeChar character ++ percentDecode rest :=
  percentDecode.eq_2 _ _ fun _ _ _ isEscape _ => isOther isEscape

/-- An escape is read as its byte. -/
theorem percentDecode_escape (byte : UInt8) (rest : List Char)
    : percentDecode ('%' :: (hexDigits byte).map Char.toUpper ++ rest) = byte :: percentDecode rest
    := by
  have digits
      : ∀ byte : UInt8,
          hexByte (Nat.digitChar (byte.toNat / 16)).toUpper
              (Nat.digitChar (byte.toNat % 16)).toUpper
            = some byte :=
    forall_byte_of_forall_fin (by decide +kernel)
  change percentDecode ('%' :: _ :: _ :: rest) = _
  rw [percentDecode, digits]

/-- What stands for itself is one byte, and neither an escape nor a `+`. -/
theorem unescaped_byte
    : ∀ byte : UInt8, isUnescaped (Char.ofNat byte.toNat) = true →
        Char.ofNat byte.toNat ≠ '%'
        ∧ Char.ofNat byte.toNat ≠ '+'
        ∧ String.utf8EncodeChar (Char.ofNat byte.toNat) = [byte] :=
  forall_byte_of_forall_fin (by decide +kernel)

/-- The digits of an escape are no `+`. -/
theorem plus_notMem_digits : ∀ byte : UInt8, '+' ∉ (hexDigits byte).map Char.toUpper :=
  forall_byte_of_forall_fin (by decide +kernel)

/-- A reader for which a `+` is a `+` finds one for each blank, by induction on the bytes. -/
theorem percentDecode_encodeForm (bytes : List UInt8)
    : percentDecode (encodeForm bytes) = withPluses bytes := by
  induction bytes with
  | nil => rfl
  | cons byte rest ih =>
      rw [encodeForm, List.flatMap_cons, ← encodeForm, withPluses, List.map_cons, ← withPluses,
        ← ih, encodeFormByte]
      split_ifs with isBlank isPlain
      · exact percentDecode_cons_of_ne (by decide) _
      · obtain ⟨noEscape, -, isByte⟩ := unescaped_byte byte isPlain
        rw [List.singleton_append, percentDecode_cons_of_ne noEscape, isByte]
        rfl
      · exact percentDecode_escape byte _

/-- Without a `+`, there is nothing to be read as a blank. -/
theorem map_plus_of_notMem {text : List Char} (noPlus : '+' ∉ text)
    : (text.map fun character => if character = '+' then ' ' else character) = text := by
  refine (List.map_congr_left fun character member => if_neg fun isPlus => ?_).trans
    (List.map_id text)
  exact noPlus (isPlus ▸ member)

/-- Bytes are read back, by induction on them. -/
theorem formDecode_encodeForm (bytes : List UInt8) : formDecode (encodeForm bytes) = bytes := by
  induction bytes with
  | nil => rfl
  | cons byte rest ih =>
      rw [formDecode] at ih ⊢
      rw [encodeForm, List.flatMap_cons, ← encodeForm, List.map_append, encodeFormByte]
      split_ifs with isBlank isPlain
      · rw [List.map_singleton, if_pos rfl, List.singleton_append,
          percentDecode_cons_of_ne (by decide), ih, isBlank]
        rfl
      · obtain ⟨noEscape, noPlus, isByte⟩ := unescaped_byte byte isPlain
        rw [List.map_singleton, if_neg noPlus, List.singleton_append,
          percentDecode_cons_of_ne noEscape, isByte, ih]
        rfl
      · have noPlus : '+' ∉ '%' :: (hexDigits byte).map Char.toUpper :=
          List.not_mem_cons_of_ne_of_not_mem (by decide) (plus_notMem_digits byte)
        rw [map_plus_of_notMem noPlus, percentDecode_escape, ih]

/-- What is written of a pair is split into its name and its value. -/
theorem split_pair (pair : List UInt8 × List UInt8)
    : ((encodeForm pair.1 ++ '=' :: encodeForm pair.2).takeWhile (· ≠ '='),
        ((encodeForm pair.1 ++ '=' :: encodeForm pair.2).dropWhile (· ≠ '=')).tail)
      = (encodeForm pair.1, encodeForm pair.2) := by
  have noSign : ∀ character ∈ encodeForm pair.1, decide (character ≠ '=') = true :=
    fun character member => decide_eq_true fun isSign =>
      equals_notMem_encodeForm pair.1 (isSign ▸ member)
  rw [List.takeWhile_append_of_pos noSign, List.takeWhile_cons_of_neg (by decide),
    List.dropWhile_append_of_pos noSign, List.dropWhile_cons_of_neg (by decide), List.append_nil]
  rfl

/-- A reader finds the names and values, each read as it was written. -/
theorem readForm_writeForm (decode : List Char → List UInt8)
    (pairs : List (List UInt8 × List UInt8))
    : readForm decode (writeForm pairs)
      = pairs.map fun pair => (decode (encodeForm pair.1), decode (encodeForm pair.2)) := by
  have split
      : ((writeForm pairs).splitOn '&').filter (· ≠ [])
        = pairs.map fun pair => encodeForm pair.1 ++ '=' :: encodeForm pair.2 := by
    cases pairs with
    | nil => rfl
    | cons pair rest =>
        rw [writeForm, List.splitOn_intercalate]
        · refine List.filter_eq_self.mpr fun part isPart => decide_eq_true ?_
          obtain ⟨pair, -, rfl⟩ := List.mem_map.mp isPart
          exact List.append_ne_nil_of_right_ne_nil _ (List.cons_ne_nil _ _)
        · intro part isPart inPart
          obtain ⟨pair, -, rfl⟩ := List.mem_map.mp isPart
          rcases List.mem_append.mp inPart with inName | inRest
          · exact ampersand_notMem_encodeForm _ inName
          · rcases List.mem_cons.mp inRest with isSign | inValue
            · exact absurd isSign (by decide)
            · exact ampersand_notMem_encodeForm _ inValue
        · exact List.cons_ne_nil _ _
  rw [readForm, split, List.map_map]
  refine List.map_congr_left fun pair _ => ?_
  have isSplit := Prod.ext_iff.mp (split_pair pair)
  exact congrArg₂ (fun name value => (decode name, decode value)) isSplit.1 isSplit.2

/-- A list is left alone by a function exactly if all its elements are. -/
theorem map_eq_self_iff {α : Type*} {change : α → α} {elements : List α}
    : elements.map change = elements ↔ ∀ element ∈ elements, change element = element := by
  have same := List.map_inj_left (f := change) (g := id) (l := elements)
  rwa [List.map_id] at same

/-- Blanks are all that is read as something else. -/
theorem withPluses_eq_self_iff {bytes : List UInt8}
    : withPluses bytes = bytes ↔ blankByte ∉ bytes := by
  rw [withPluses, map_eq_self_iff]
  constructor
  · intro same isBlank
    exact absurd (same blankByte isBlank) (by decide)
  · intro noBlank byte member
    exact if_neg fun isBlank : byte = blankByte => noBlank (isBlank ▸ member)

end Axionvera.Foundation
