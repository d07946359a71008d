import Mathlib.Data.List.Basic

/-! Bytes as texts of two hexadecimal digits each. -/

namespace Axionvera.Foundation

/-- The value of a hexadecimal digit, which may be a capital letter. -/
def hexDigitValue (digit : Char) : Option Nat :=
  let code := digit.toNat
  if '0'.toNat ≤ code && code ≤ '9'.toNat then some (code - '0'.toNat)
  else if 'a'.toNat ≤ code && code ≤ 'f'.toNat then some (code - 'a'.toNat + 10)
  else if 'A'.toNat ≤ code && code ≤ 'F'.toNat then some (code - 'A'.toNat + 10)
  else none

/-- The byte of two digits. -/
def hexByte (high low : Char) : Option UInt8 :=
  match hexDigitValue high, hexDigitValue low with
  | some upper, some lower => some (upper * 16 + lower).toUInt8
  | _, _ => none

/-- The bytes of a text of hexadecimal digits, which come in pairs. -/
def decodeHex : List Char → Option (List UInt8)
  | [] => some []
  | [_] => none
  | high :: low :: rest =>
      match hexByte high low, decodeHex rest with
      | some byte, some bytes => some (byte :: bytes)
      | _, _ => none

/-- The two digits of a byte. -/
def hexDigits (byte : UInt8) : List Char :=
  [Nat.digitChar (byte.toNat / 16), Nat.digitChar (byte.toNat % 16)]

/-- The digits of bytes. -/
def encodeHex (bytes : List UInt8) : List Char :=
  bytes.flatMap hexDigits

/-- What holds of all bytes, by the number of each. -/
theorem forall_byte_of_forall_fin {p : UInt8 → Prop} (all : ∀ number : Fin 256, p (.ofFin number))
    (byte : UInt8)
    : p byte :=
  all byte.toFin

/-- Each byte is read back from its digits. -/
theorem hexByte_hexDigits
    : ∀ byte : UInt8,
        hexByte (Nat.digitChar (byte.toNat / 16)) (Nat.digitChar (byte.toNat % 16))
          = some byte :=
  forall_byte_of_forall_fin (by decide +kernel)

/-- Bytes are read back from their digits, by induction on them. -/
theorem decodeHex_encodeHex (bytes : List UInt8) : decodeHex (encodeHex bytes) = some bytes := by
  induction bytes with
  | nil => rfl
  | cons byte rest ih =>
      change decodeHex (_ :: _ :: encodeHex rest) = _
      rw [decodeHex, hexByte_hexDigits, ih]

/-- Different bytes have different digits. -/
theorem encodeHex_injective : Function.Injective encodeHex := by
  intro first second same
  have readBack := congrArg decodeHex same
  rw [decodeHex_encodeHex, decodeHex_encodeHex] at readBack
  exact Option.some.inj readBack

/-- There are two digits for each byte, by induction on the bytes. -/
theorem length_encodeHex (bytes : List UInt8) : (encodeHex bytes).length = 2 * bytes.length := by
  induction bytes with
  | nil => rfl
  | cons byte rest ih =>
      change (encodeHex rest).length + 2 = _
      rw [ih, List.length_cons, Nat.mul_succ]

/-- The digits are figures and small letters. -/
theorem mem_encodeHex {bytes : List UInt8} {digit : Char} (member : digit ∈ encodeHex bytes)
    : digit ∈ "0123456789abcdef".toList := by
  have ofByte
      : ∀ byte : UInt8,
          (hexDigits byte).all (fun digit => "0123456789abcdef".toList.contains digit) = true :=
    forall_byte_of_forall_fin (by decide +kernel)
  obtain ⟨byte, -, isDigit⟩ := List.mem_flatMap.mp member
  exact List.contains_iff_mem.mp (List.all_eq_true.mp (ofByte byte) digit isDigit)

end Axionvera.Foundation
