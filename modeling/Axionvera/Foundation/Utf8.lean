import Axionvera.Foundation.CodeUnits

/-! Texts of characters, in which surrogates come in pairs, and their bytes in UTF-8. -/

namespace Axionvera.Foundation

/-- The bytes of a text of characters. -/
def utf8 (text : String) : List UInt8 :=
  text.toList.flatMap String.utf8EncodeChar

/-- The text of bytes, if they have one. -/
def textOfUtf8 (bytes : List UInt8) : Option String :=
  bytes.toByteArray.utf8Decode?.map fun characters => String.ofList characters.toList

/-- The units of a character are read as its code point. -/
theorem codePoints_unitsOfPoint_append (character : Char) (rest : CodeUnits)
    : codePoints (unitsOfPoint character.toNat ++ rest) = character.toNat :: codePoints rest := by
  have range := character.valid
  change character.toNat < 0xD800 ∨ (0xDFFF < character.toNat ∧ character.toNat < 0x110000) at range
  generalize character.toNat = point at range
  unfold unitsOfPoint
  split_ifs with small
  · have isUnit : point.toUInt16.toNat = point := by
      rw [Nat.toUInt16, UInt16.toNat_ofNat']
      omega
    cases rest with
    | nil => exact congrArg (fun point => [point]) isUnit
    | cons next rest =>
        have noPair : isHighSurrogate point.toUInt16 = false := by
          rw [isHighSurrogate, isUnit, Bool.and_eq_false_iff, decide_eq_false_iff_not,
            decide_eq_false_iff_not]
          omega
        rw [List.singleton_append, codePoints, noPair, Bool.false_and, if_neg Bool.false_ne_true,
          isUnit]
  · have high : (0xD800 + (point - 0x10000) / 0x400).toUInt16.toNat
        = 0xD800 + (point - 0x10000) / 0x400 := by
      rw [Nat.toUInt16, UInt16.toNat_ofNat']
      omega
    have low : (0xDC00 + (point - 0x10000) % 0x400).toUInt16.toNat
        = 0xDC00 + (point - 0x10000) % 0x400 := by
      rw [Nat.toUInt16, UInt16.toNat_ofNat']
      omega
    simp only [List.cons_append, List.nil_append]
    rw [codePoints, if_pos, high, low]
    · refine congrArg (· :: codePoints rest) ?_
      omega
    · rw [isHighSurrogate, isLowSurrogate, high, low]
      simp only [Bool.and_eq_true, decide_eq_true_eq]
      omega

/-- A text of characters has their code points, by induction on the characters. -/
theorem codePoints_codeUnits (text : String)
    : codePoints (codeUnits text) = text.toList.map Char.toNat := by
  rw [codeUnits]
  induction text.toList with
  | nil => rfl
  | cons character rest ih =>
      rw [List.flatMap_cons, codePoints_unitsOfPoint_append, ih, List.map_cons]

/-- The bytes of a code point are those of its character. -/
theorem utf8OfPoint_toNat (character : Char)
    : utf8OfPoint character.toNat = String.utf8EncodeChar character := by
  have range := character.valid
  change character.toNat < 0xD800 ∨ (0xDFFF < character.toNat ∧ character.toNat < 0x110000) at range
  unfold utf8OfPoint String.utf8EncodeChar
  have isPoint : character.val.toNat = character.toNat := rfl
  simp only [isPoint, Nat.toUInt8]
  generalize character.toNat = point at range
  split_ifs <;> try omega
  · rfl
  · have first : point / 64 % 0x20 + 0xC0 = 0xC0 + point / 0x40 := by omega
    have second : point % 0x40 + 0x80 = 0x80 + point / 1 % 0x40 := by omega
    rw [first, second]
  · have first : point / 4096 % 0x10 + 0xE0 = 0xE0 + point / 0x1000 := by omega
    have second : point / 64 % 0x40 + 0x80 = 0x80 + point / 0x40 % 0x40 := by omega
    have third : point % 0x40 + 0x80 = 0x80 + point / 1 % 0x40 := by omega
    rw [first, second, third]
  · have first : point / 262144 % 0x08 + 0xF0 = 0xF0 + point / 0x40000 := by omega
    have second : point / 4096 % 0x40 + 0x80 = 0x80 + point / 0x1000 % 0x40 := by omega
    have third : point / 64 % 0x40 + 0x80 = 0x80 + point / 0x40 % 0x40 := by omega
    have fourth : point % 0x40 + 0x80 = 0x80 + point / 1 % 0x40 := by omega
    rw [first, second, third, fourth]

/-- A text of characters is encoded as it is. -/
theorem encodeText_codeUnits (text : String) : encodeText (codeUnits text) = utf8 text := by
  rw [encodeText, codePoints_codeUnits, List.flatMap_map, utf8]
  refine List.flatMap_congr fun character _ => ?_
  have range := character.valid
  change character.toNat < 0xD800 ∨ (0xDFFF < character.toNat ∧ character.toNat < 0x110000) at range
  have noSurrogate : (0xD800 ≤ character.toNat && character.toNat < 0xE000) = false := by
    rw [Bool.and_eq_false_iff, decide_eq_false_iff_not, decide_eq_false_iff_not]
    omega
  rw [noSurrogate, if_neg Bool.false_ne_true, utf8OfPoint_toNat]

/-- A byte of ASCII is a character of its own. -/
theorem toNat_eq_of_mem_utf8EncodeChar {character : Char} {byte : UInt8}
    (member : byte ∈ String.utf8EncodeChar character) (ascii : byte.toNat < 0x80)
    : character.toNat = byte.toNat := by
  have range := character.valid
  change character.toNat < 0xD800 ∨ (0xDFFF < character.toNat ∧ character.toNat < 0x110000) at range
  rw [← utf8OfPoint_toNat] at member
  generalize character.toNat = point at range member
  unfold utf8OfPoint at member
  simp only [Nat.toUInt8] at member
  split_ifs at member
  · obtain rfl := List.mem_singleton.mp member
    rw [UInt8.toNat_ofNat']
    omega
  -- all bytes of a character beyond ASCII are beyond it
  all_goals
    simp only [List.mem_cons, List.not_mem_nil, or_false] at member
    rcases member with rfl | rfl | rfl | rfl <;> rw [UInt8.toNat_ofNat'] at ascii <;> omega

/-- A text of characters is read back from its bytes. -/
theorem textOfUtf8_utf8 (text : String) : textOfUtf8 (utf8 text) = some text := by
  change Option.map _ text.toList.utf8Encode.utf8Decode? = _
  rw [List.utf8Decode?_utf8Encode, Option.map_some, List.toList_toArray, String.ofList_toList]

end Axionvera.Foundation
