import Mathlib.Data.BitVec
import Mathlib.Data.List.Basic
import Mathlib.Data.Nat.Bitwise

/-! Numbers and byte strings in bytes: LEB128, four bytes with the highest first, and byte strings
behind their lengths.
-/

namespace Axionvera.Foundation

-----------------------------------------------------------------------------------------
-- LEB128
-----------------------------------------------------------------------------------------

/-- A number in LEB128: seven bits a byte, the lowest first, and a mark on all bytes but the last.
-/
def leb128 (value : Nat) : List UInt8 :=
  if value < 128 then [value.toUInt8]
  else (value % 128 + 128).toUInt8 :: leb128 (value / 128)

/-- The bits of a byte are its number modulo 128. -/
theorem toNat_and_bits (byte : UInt8) : (byte &&& 0x7f).toNat = byte.toNat % 128 := by
  rw [UInt8.toNat_and]
  exact Nat.and_two_pow_sub_one_eq_mod byte.toNat 7

/-- A byte without a mark is a number below 128. -/
theorem and_mark_eq_zero_iff (byte : UInt8) : byte &&& 0x80 = 0 ↔ byte.toNat < 128 := by
  have marks : ∀ number : Fin 256, number.val &&& 128 = 0 ↔ number.val < 128 := by
    decide +kernel
  rw [← UInt8.toNat_inj, UInt8.toNat_and]
  exact marks ⟨byte.toNat, byte.toNat_lt⟩

/-- Bits that are placed behind those of a smaller number are added to it. -/
theorem toNat_or_shiftLeft {result byte : BitVec 32} {shift : Nat}
    (below : result.toNat < 2 ^ shift)
    (fits : result.toNat + byte.toNat * 2 ^ shift < 2 ^ 32)
    : (result ||| byte <<< shift).toNat = result.toNat + byte.toNat * 2 ^ shift := by
  have shifted : (byte <<< shift).toNat = 2 ^ shift * byte.toNat := by
    rw [BitVec.toNat_shiftLeft, Nat.shiftLeft_eq, Nat.mul_comm]
    apply Nat.mod_eq_of_lt
    rw [Nat.mul_comm]
    omega
  rw [BitVec.toNat_or, shifted, Nat.or_comm, ← Nat.two_pow_add_eq_or_of_lt below]
  rw [Nat.mul_comm, Nat.add_comm]

-----------------------------------------------------------------------------------------
-- Byte strings behind their lengths
-----------------------------------------------------------------------------------------

/-- A number in four bytes, the highest first. -/
def bigEndian (value : Nat) : List UInt8 :=
  [(value / 16777216).toUInt8, (value / 65536).toUInt8, (value / 256).toUInt8, value.toUInt8]

/-- The number in four bytes, the highest first. -/
def bigEndianValue (first second third fourth : UInt8) : Nat :=
  ((first.toNat * 256 + second.toNat) * 256 + third.toNat) * 256 + fourth.toNat

/-- The number in four bytes has 32 bits. -/
theorem bigEndianValue_lt (first second third fourth : UInt8)
    : bigEndianValue first second third fourth < 2 ^ 32 := by
  have bounds := And.intro (And.intro first.toNat_lt second.toNat_lt)
    (And.intro third.toNat_lt fourth.toNat_lt)
  unfold bigEndianValue
  omega

/-- Every four bytes are those of their number. -/
theorem bigEndian_bigEndianValue (first second third fourth : UInt8)
    : bigEndian (bigEndianValue first second third fourth) = [first, second, third, fourth] := by
  have bounds := And.intro (And.intro first.toNat_lt second.toNat_lt)
    (And.intro third.toNat_lt fourth.toNat_lt)
  unfold bigEndian bigEndianValue
  simp only [List.cons.injEq, and_true, ← UInt8.toNat_inj, UInt8.toNat_ofNat', Nat.toUInt8]
  omega

/-- A number of 32 bits is read back from its four bytes. -/
theorem bigEndianValue_of_eq {value : Nat} {first second third fourth : UInt8}
    (bytes : bigEndian value = [first, second, third, fourth]) (fits : value < 2 ^ 32)
    : bigEndianValue first second third fourth = value := by
  unfold bigEndian at bytes
  simp only [List.cons.injEq, and_true] at bytes
  obtain ⟨rfl, rfl, rfl, rfl⟩ := bytes
  simp only [bigEndianValue, UInt8.toNat_ofNat', Nat.toUInt8]
  omega

/-- A byte string behind its length. -/
def frame (content : List UInt8) : List UInt8 :=
  bigEndian content.length ++ content

/-- A byte string is no longer than all behind their lengths, by induction on them. -/
theorem length_le_flatMap_frame {content : List UInt8} {contents : List (List UInt8)}
    (member : content ∈ contents)
    : content.length ≤ (contents.flatMap frame).length := by
  induction contents with
  | nil => cases member
  | cons other others ih =>
      rw [List.flatMap_cons, List.length_append]
      rcases List.mem_cons.mp member with rfl | later
      · rw [frame, List.length_append]
        omega
      · have bound := ih later
        omega

/-- Bytes that consist of byte strings behind their lengths, each of 32 bits. -/
def IsFramed (bytes : List UInt8) : Prop :=
  ∃ contents : List (List UInt8),
    (∀ content ∈ contents, content.length < 2 ^ 32) ∧ bytes = contents.flatMap frame

/-- A length that runs past the end of the bytes, behind byte strings that do not: it is not
written out, or more bytes are announced than follow.
-/
inductive LengthRunsPast : List UInt8 → Prop
  | unfinished {bytes} (some : bytes ≠ []) (few : bytes.length < 4) : LengthRunsPast bytes
  | announcesMore {first second third fourth rest}
    (more : rest.length < bigEndianValue first second third fourth)
    : LengthRunsPast (first :: second :: third :: fourth :: rest)
  | later {content rest} (small : content.length < 2 ^ 32) (past : LengthRunsPast rest)
    : LengthRunsPast (frame content ++ rest)

/-- A byte string behind its length can be told from what follows. -/
theorem frame_append_inj {content other rest later : List UInt8}
    (small : content.length < 2 ^ 32) (alsoSmall : other.length < 2 ^ 32)
    (same : frame content ++ rest = frame other ++ later)
    : content = other ∧ rest = later := by
  have parts
      : bigEndian content.length = bigEndian other.length ∧ content ++ rest = other ++ later := by
    unfold frame at same
    rw [List.append_assoc, List.append_assoc] at same
    exact List.append_inj same rfl
  have length : content.length = other.length := by
    have read := bigEndianValue_of_eq (rfl : bigEndian content.length = _) small
    rw [← read]
    exact bigEndianValue_of_eq parts.1.symm alsoSmall
  exact List.append_inj parts.2 length

/-- Bytes with no length that runs past them are byte strings behind their lengths, by induction on
how many bytes there are.
-/
theorem isFramed_of_not_lengthRunsPast {bytes : List UInt8} (fits : ¬ LengthRunsPast bytes)
    : IsFramed bytes := by
  induction size : bytes.length using Nat.strong_induction_on generalizing bytes with
  | _ size_ ih =>
      match bytes with
      | [] => exact ⟨[], nofun, rfl⟩
      | [_] | [_, _] | [_, _, _] =>
          refine absurd (LengthRunsPast.unfinished (List.cons_ne_nil _ _) ?_) fits
          simp
      | first :: second :: third :: fourth :: rest =>
          by_cases more : rest.length < bigEndianValue first second third fourth
          · exact absurd (.announcesMore more) fits
          · let announced := bigEndianValue first second third fourth
            have length : (rest.take announced).length = announced :=
              List.length_take_of_le (not_lt.mp more)
            have small : (rest.take announced).length < 2 ^ 32 := by
              rw [length]
              exact bigEndianValue_lt first second third fourth
            have shape
                : first :: second :: third :: fourth :: rest
                  = frame (rest.take announced) ++ rest.drop announced := by
              unfold frame
              rw [length, bigEndian_bigEndianValue, List.append_assoc, List.take_append_drop]
              rfl
            have smaller : (rest.drop announced).length < size_ := by
              simp only [List.length_drop, List.length_cons] at size ⊢
              omega
            obtain ⟨contents, allSmall, later⟩ := ih _ smaller
              (fun past => fits (shape ▸ .later small past)) rfl
            refine ⟨rest.take announced :: contents, List.forall_mem_cons.mpr ⟨small, allSmall⟩, ?_⟩
            rw [shape, later, List.flatMap_cons]

/-- No length runs past byte strings behind their lengths, by induction on where it is looked for.
-/
theorem not_lengthRunsPast_of_isFramed {bytes : List UInt8} (framed : IsFramed bytes)
    : ¬ LengthRunsPast bytes := by
  intro past
  obtain ⟨contents, small, shape⟩ := framed
  induction past generalizing contents with
  | unfinished some few =>
      cases contents with
      | nil => exact some shape
      | cons content others =>
          have length := congrArg List.length shape
          simp [frame, bigEndian] at length
          omega
  | @announcesMore first second third fourth rest more =>
      cases contents with
      | nil => cases shape
      | cons content others =>
          have parts
              : bigEndian content.length = [first, second, third, fourth]
                ∧ rest = content ++ others.flatMap frame := by
            simpa [frame, bigEndian, and_assoc, eq_comm] using shape
          rw [bigEndianValue_of_eq parts.1 (small content List.mem_cons_self), parts.2,
            List.length_append] at more
          omega
  | @later content rest isSmall _ ih =>
      cases contents with
      | nil => cases shape
      | cons other others =>
          obtain ⟨otherSmall, othersSmall⟩ := List.forall_mem_cons.mp small
          rw [List.flatMap_cons] at shape
          exact ih others othersSmall (frame_append_inj isSmall otherSmall shape).2

/-- Bytes consist of byte strings behind their lengths exactly if no length runs past them. -/
theorem isFramed_iff {bytes : List UInt8} : IsFramed bytes ↔ ¬ LengthRunsPast bytes :=
  ⟨not_lengthRunsPast_of_isFramed, isFramed_of_not_lengthRunsPast⟩

end Axionvera.Foundation
