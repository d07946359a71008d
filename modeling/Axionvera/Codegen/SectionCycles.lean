import Axionvera.Codegen.NumberDecoding

/-! Where sections stand, said of the bytes of a file: each takes up its id, the bytes of its size,
and as much as the size says in 32 bits with a sign. The reader runs in circles exactly if a section
with the sign set and some that follow it take up nothing together.
-/

namespace Axionvera.Codegen

open Axionvera.Foundation
open Relation

-----------------------------------------------------------------------------------------
-- What stands in the bytes
-----------------------------------------------------------------------------------------

/-- The bits that the bytes of a number set: each byte its lower seven, from seven times its
position on, modulo 32.
-/
def numberBits (position : Nat) : List UInt8 → BitVec 32
  | [] => 0
  | byte :: bytes =>
      (byte &&& 0x7f).toBitVec.setWidth 32 <<< (7 * position % 32)
      ||| numberBits (position + 1) bytes

/-- How many bytes are taken for the number at the beginning of some bytes: those with a mark, and
one without, be it the one behind the last.
-/
def numberLength (bytes : List UInt8) : Nat :=
  (bytes.takeWhile fun byte => byte &&& 0x80 ≠ 0).length + 1

/-- The number that stands at an offset: 32 bits with a sign. -/
def numberAt (wasm : Buffer) (offset : Int) : Int :=
  (numberBits 0 (numberBytes (wasm.bytesFrom offset))).toInt

/-- Behind the number at an offset. -/
def behindNumber (wasm : Buffer) (offset : Int) : Int :=
  offset + numberLength (wasm.bytesFrom offset)

/-- How far the section at an offset takes the reader: over its id, its size, and its content. -/
def sectionExtent (wasm : Buffer) (offset : Int) : Int :=
  1 + numberLength (wasm.bytesFrom (offset + 1)) + numberAt wasm (offset + 1)

/-- Where the name of a custom section begins: behind its id, its size and the length of the name.
-/
def nameBegin (wasm : Buffer) (offset : Int) : Int :=
  behindNumber wasm (behindNumber wasm (offset + 1))

/-- Where the name of a custom section ends, as far as its length says. -/
def nameEnd (wasm : Buffer) (offset : Int) : Int :=
  nameBegin wasm offset + numberAt wasm (behindNumber wasm (offset + 1))

/-- Up to where the section ends, each length of an entry lies in the file. -/
inductive EntriesInFile (wasm : Buffer) (stop : Int) : Int → Prop
  | done {pos : Int} (ended : stop ≤ pos) : EntriesInFile wasm stop pos
  | entry {pos : Int} {entryLen : Nat} (before : pos < stop)
      (read : wasm.readUInt32BE pos = .ok entryLen)
      (later : EntriesInFile wasm stop (pos + 4 + entryLen))
      : EntriesInFile wasm stop pos

/-- The lengths in the section at an offset, if it is a custom one of the name `contractspecv0`, lie
in the file.
-/
def IsReadable (wasm : Buffer) (offset : Int) : Prop :=
  (wasm.bytesFrom offset).head? = some 0
  → wasm.slice (nameBegin wasm offset) (nameEnd wasm offset) = specSectionName
  → EntriesInFile wasm (offset + sectionExtent wasm offset) (nameEnd wasm offset)

/-- (Sections wasm start extents stop) holds if readable sections of these extents begin in the
file, one behind the other, from one offset to the other.
-/
inductive Sections (wasm : Buffer) : Int → List Int → Int → Prop
  | none (offset : Int) : Sections wasm offset [] offset
  | one {offset stop : Int} {extents : List Int} (inFile : offset < wasm.length)
      (readable : IsReadable wasm offset)
      (later : Sections wasm (offset + sectionExtent wasm offset) extents stop)
      : Sections wasm offset (sectionExtent wasm offset :: extents) stop

/-- The section at an offset has a size with the sign set. -/
def HasSign (wasm : Buffer) (offset : Int) : Prop :=
  ¬ HasNoSign (wasm.bytesFrom (offset + 1))

/-- No section with the sign set is reached from the end of the header such that it and some
sections behind it have extents that sum to zero.
-/
def NoneSumToZero (wasm : Buffer) : Prop :=
  ∀ front extents offset stop,
    Sections wasm 8 front offset
    → HasSign wasm offset
    → Sections wasm offset extents stop
    → extents ≠ []
    → extents.sum ≠ 0

variable {wasm : Buffer}

-----------------------------------------------------------------------------------------
-- What the reader makes of the bytes
-----------------------------------------------------------------------------------------

/-- The loop adds the bits and counts the bytes, by induction on the bytes. -/
theorem readLEB128Loop_eq (result : BitVec 32) (position bytesRead : Nat) (bytes : List UInt8)
    : readLEB128Loop result (7 * position) bytesRead bytes
      = ((result ||| numberBits position (numberBytes bytes)).toInt,
          bytesRead + numberLength bytes) := by
  induction bytes generalizing result position bytesRead with
  | nil => simp [readLEB128Loop, numberBytes, numberBits, numberLength]
  | cons byte bytes ih =>
      rw [readLEB128Loop, numberBytes]
      by_cases isLast : byte &&& 0x80 = 0
      · simp [isLast, numberBits, numberLength]
      · have onwards : 7 * position + 7 = 7 * (position + 1) := rfl
        have counts : numberLength (byte :: bytes) = 1 + numberLength bytes := by
          simp [numberLength, isLast, Nat.add_comm]
        simp only [if_neg isLast]
        rw [onwards, ih, numberBits, counts, BitVec.or_assoc, Nat.add_assoc]

/-- The number at an offset, and its length, are those of the bytes there. -/
theorem readLEB128_eq (wasm : Buffer) (offset : Int)
    : readLEB128 wasm offset
      = (numberAt wasm offset, numberLength (wasm.bytesFrom offset)) := by
  have loop := readLEB128Loop_eq 0 0 0 (wasm.bytesFrom offset)
  simpa [readLEB128, numberAt] using loop

/-- The content of a section starts behind its size. -/
theorem contentStart_eq (wasm : Buffer) (offset : Int)
    : contentStart wasm offset = behindNumber wasm (offset + 1) := by
  rw [contentStart, readLEB128_eq, behindNumber]

/-- A section ends where its extent leads. -/
theorem sectionEnd_eq (wasm : Buffer) (offset : Int)
    : sectionEnd wasm offset = offset + sectionExtent wasm offset := by
  rw [sectionEnd, contentStart, readLEB128_eq, sectionExtent]
  ring

/-- A section is readable exactly if its entries are, should it be the one that is looked for. -/
theorem isReadable_iff (wasm : Buffer) (offset : Int)
    : IsReadable wasm offset
      ↔ (IsSpecSection wasm offset
        → EntriesInFile wasm (sectionEnd wasm offset) (payloadStart wasm offset)) := by
  have isBegin : nameStart wasm offset = nameBegin wasm offset := by
    rw [nameStart, contentStart_eq, readLEB128_eq]
    rfl
  have isEnd : payloadStart wasm offset = nameEnd wasm offset := by
    rw [payloadStart, isBegin, contentStart_eq, readLEB128_eq, nameEnd]
  rw [IsReadable, IsSpecSection, IsCustom, isBegin, isEnd, sectionEnd_eq, and_imp]

/-- Without the sign, a section takes the reader forward. -/
theorem sectionExtent_pos {offset : Int} (hasNoSign : ¬ HasSign wasm offset)
    : 0 < sectionExtent wasm offset := by
  have size := (readLEB128_nonneg_iff wasm (offset + 1)).mpr (not_not.mp hasNoSign)
  rw [readLEB128_eq] at size
  rw [sectionExtent]
  omega

/-- Entries are read up to the end exactly if their lengths lie in the file, by the recursion over
the entries.
-/
theorem readEntries_ok_iff (wasm : Buffer) (stop pos : Int)
    : (∃ entries, readEntries wasm stop pos = .ok entries) ↔ EntriesInFile wasm stop pos := by
  induction pos using readEntries.induct wasm stop with
  | case1 pos before error fails =>
      rw [readEntries_of_error before fails]
      refine iff_of_false (by rintro ⟨_, ⟨⟩⟩) ?_
      intro inFile
      cases inFile with
      | done ended => omega
      | entry _ read _ => cases fails.symm.trans read
  | case2 pos before entryLen read ih =>
      have onwards
          : EntriesInFile wasm stop pos ↔ EntriesInFile wasm stop (pos + 4 + entryLen) := by
        refine ⟨fun inFile => ?_, .entry before read⟩
        cases inFile with
        | done ended => omega
        | entry _ isRead later =>
            obtain rfl := Except.ok.inj (read.symm.trans isRead)
            exact later
      rw [readEntries_of_read before read, onwards, ← ih]
      cases readEntries wasm stop (pos + 4 + entryLen) with
      | error error => exact iff_of_false (by rintro ⟨_, ⟨⟩⟩) (by rintro ⟨_, ⟨⟩⟩)
      | ok entries => exact iff_of_true ⟨_, rfl⟩ ⟨_, rfl⟩
  | case3 pos ended =>
      rw [readEntries, if_neg ended]
      exact iff_of_true ⟨[], rfl⟩ (.done (not_lt.mp ended))

/-- The reader goes on from a section in the file that is readable, as far as it extends. -/
theorem leadsTo_iff {offset next : Int}
    : LeadsTo wasm offset next
      ↔ offset < wasm.length
        ∧ IsReadable wasm offset
        ∧ next = offset + sectionExtent wasm offset := by
  refine and_congr_right fun _ => ?_
  rw [← sectionEnd_eq, isReadable_iff]
  by_cases isSpec : IsSpecSection wasm offset
  · rw [readSection_of_isSpecSection isSpec, forall_prop_of_true isSpec, ← readEntries_ok_iff]
    cases readEntries wasm (sectionEnd wasm offset) (payloadStart wasm offset) with
    | error error => simp [Except.map]
    | ok entries => simp [Except.map, eq_comm]
  · rw [readSection_of_not_isSpecSection isSpec]
    simp [isSpec, eq_comm]

-----------------------------------------------------------------------------------------
-- Sections in a row
-----------------------------------------------------------------------------------------

/-- Sections lead as far as their extents sum to, by induction on the sections. -/
theorem Sections.eq_add_sum {start stop : Int} {extents : List Int}
    (sections : Sections wasm start extents stop)
    : stop = start + extents.sum := by
  induction sections with
  | none offset => simp
  | one _ _ _ ih =>
      rw [ih, List.sum_cons]
      ring

/-- Sections may be followed by sections, by induction on the first ones. -/
theorem Sections.append {start middle stop : Int} {front back : List Int}
    (first : Sections wasm start front middle) (second : Sections wasm middle back stop)
    : Sections wasm start (front ++ back) stop := by
  induction first with
  | none offset => exact second
  | one inFile readable _ ih => exact .one inFile readable (ih second)

/-- Sections lead the reader on, by induction on the sections. -/
theorem Sections.reflTransGen {start stop : Int} {extents : List Int}
    (sections : Sections wasm start extents stop)
    : ReflTransGen (LeadsTo wasm) start stop := by
  induction sections with
  | none offset => exact .refl
  | one inFile readable _ ih => exact .head (leadsTo_iff.mpr ⟨inFile, readable, rfl⟩) ih

/-- The reader is led on by sections, by induction on its way. -/
theorem exists_sections {start stop : Int} (leads : ReflTransGen (LeadsTo wasm) start stop)
    : ∃ extents, Sections wasm start extents stop := by
  induction leads using ReflTransGen.head_induction_on with
  | refl => exact ⟨[], .none _⟩
  | head first _ ih =>
      obtain ⟨inFile, readable, rfl⟩ := leadsTo_iff.mp first
      obtain ⟨extents, sections⟩ := ih
      exact ⟨_, .one inFile readable sections⟩

/-- At least one section leads the reader on exactly if it goes at least one way on. -/
theorem transGen_iff {start stop : Int}
    : TransGen (LeadsTo wasm) start stop
      ↔ ∃ extents, Sections wasm start extents stop ∧ extents ≠ [] := by
  constructor
  · intro leads
    obtain ⟨next, first, later⟩ := TransGen.head'_iff.mp leads
    obtain ⟨inFile, readable, rfl⟩ := leadsTo_iff.mp first
    obtain ⟨extents, sections⟩ := exists_sections later
    exact ⟨_, .one inFile readable sections, List.cons_ne_nil _ _⟩
  · rintro ⟨extents, sections, nonempty⟩
    cases sections with
    | none => exact absurd rfl nonempty
    | one inFile readable later =>
        exact .head' (leadsTo_iff.mpr ⟨inFile, readable, rfl⟩) later.reflTransGen

/-- Sections take the reader forward, or one of them has the sign set, by induction on the
sections.
-/
theorem Sections.forward_or_hasSign {start stop : Int} {extents : List Int}
    (sections : Sections wasm start extents stop)
    : 0 ≤ extents.sum ∧ (extents ≠ [] → 0 < extents.sum)
      ∨ ∃ front back offset,
          Sections wasm start front offset
          ∧ HasSign wasm offset
          ∧ Sections wasm offset back stop
          ∧ back ≠ [] := by
  induction sections with
  | none offset => exact .inl ⟨le_rfl, fun nonempty => absurd rfl nonempty⟩
  | @one offset stop extents inFile readable later ih =>
      by_cases hasSign : HasSign wasm offset
      · exact .inr ⟨[], _, offset, .none offset, hasSign, .one inFile readable later,
          List.cons_ne_nil _ _⟩
      · have forward := sectionExtent_pos hasSign
        rcases ih with ⟨notBack, _⟩ | ⟨front, back, middle, first, sign, second, nonempty⟩
        · refine .inl ⟨?_, fun _ => ?_⟩ <;> rw [List.sum_cons] <;> omega
        · exact .inr ⟨_, back, middle, .one inFile readable first, sign, second, nonempty⟩

/-- The reader of a file comes to its end, with entries or an error, exactly if no section with the
sign set in its size is reached that together with sections behind it takes up nothing. Witness:
a section of a circle has the sign set, and the circle can be gone round from there.
-/
theorem terminates_iff_noneSumToZero (wasm : Buffer) : Terminates wasm ↔ NoneSumToZero wasm := by
  rw [terminates_iff_no_cycle]
  constructor
  · intro acyclic front extents offset stop reached _ sections nonempty isZero
    have returns : stop = offset := by rw [sections.eq_add_sum, isZero, add_zero]
    subst returns
    exact acyclic stop reached.reflTransGen (transGen_iff.mpr ⟨extents, sections, nonempty⟩)
  · intro noneSum offset reached cycle
    obtain ⟨way, toOffset⟩ := exists_sections reached
    obtain ⟨extents, circle, nonempty⟩ := transGen_iff.mp cycle
    have isZero : extents.sum = 0 := by
      have returns := circle.eq_add_sum
      omega
    rcases circle.forward_or_hasSign
      with ⟨_, forward⟩ | ⟨front, back, middle, first, hasSign, second, notNone⟩
    · exact (forward nonempty).ne' isZero
    · have around := second.append first
      refine noneSum (way ++ front) (back ++ front) middle middle (toOffset.append first) hasSign
        around (by simp [notNone]) ?_
      have returns := around.eq_add_sum
      omega

end Axionvera.Codegen
