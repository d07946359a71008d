import Axionvera.Codegen.WasmParser
import Axionvera.Foundation.ByteEncoding
import Mathlib.Tactic.Ring

/-! The entries of a compiled contract are read back from its encoding. -/

namespace Axionvera.Codegen

open Axionvera.Foundation

/-- `readSpecSection` returns the entries. -/
def Returns (wasm : Buffer) (entries : List (List UInt8)) : Prop :=
  ∃ turns, run (sectionStep wasm) .initial turns = some (.returned entries)

-----------------------------------------------------------------------------------------
-- Encoding
-----------------------------------------------------------------------------------------

/-- A section: its id, the size of its payload in LEB128, and the payload. -/
def encodeSection (id : UInt8) (payload : List UInt8) : List UInt8 :=
  id :: (leb128 payload.length ++ payload)

/-- The payload of a custom section: its name behind the length of it, and its content. -/
def customPayload (name content : List UInt8) : List UInt8 :=
  leb128 name.length ++ name ++ content

/-- A section that is not the one that is looked for: it is not a custom one, or it has another
name.
-/
inductive OtherSection where
  | standard (id : UInt8) (notCustom : id ≠ 0) (payload : List UInt8)
  | custom (name content : List UInt8) (otherName : name ≠ specSectionName)

/-- The id of a section. -/
def OtherSection.id : OtherSection → UInt8
  | .standard id _ _ => id
  | .custom .. => 0

/-- The payload of a section. -/
def OtherSection.payload : OtherSection → List UInt8
  | .standard _ _ payload => payload
  | .custom name content _ => customPayload name content

/-- Other sections in a row. -/
def encodeOthers (others : List OtherSection) : List UInt8 :=
  others.flatMap fun other => encodeSection other.id other.payload

/-- The payload of the `contractspecv0` section: each entry behind its length. -/
def specPayload (entries : List (List UInt8)) : List UInt8 :=
  customPayload specSectionName (entries.flatMap frame)

/-- A module: eight bytes of header, and the entries in one section among others. -/
def encodeModule (header : Vector UInt8 8) (front : List OtherSection)
    (entries : List (List UInt8)) (back : List OtherSection)
    : Buffer :=
  header.toList ++ encodeOthers front ++ encodeSection 0 (specPayload entries) ++ encodeOthers back

-----------------------------------------------------------------------------------------
-- Numbers
-----------------------------------------------------------------------------------------

/-- A byte adds its bits to a smaller number, behind which they are placed. -/
theorem toNat_addBits {result : BitVec 32} {shift : Nat} {byte : UInt8}
    (below : result.toNat < 2 ^ shift)
    (fits : result.toNat + byte.toNat % 128 * 2 ^ shift < 2 ^ 31) (early : shift < 32)
    : (result ||| (byte &&& 0x7f).toBitVec.setWidth 32 <<< (shift % 32)).toNat
      = result.toNat + byte.toNat % 128 * 2 ^ shift := by
  have bits : ((byte &&& 0x7f).toBitVec.setWidth 32).toNat = byte.toNat % 128 := by
    rw [BitVec.toNat_setWidth, UInt8.toNat_toBitVec, toNat_and_bits]
    omega
  rw [Nat.mod_eq_of_lt early, ← bits]
  apply toNat_or_shiftLeft below
  rw [bits]
  omega

/-- A number below 256 is that of its byte. -/
theorem toNat_toUInt8 {value : Nat} (small : value < 256) : value.toUInt8.toNat = value := by
  rw [Nat.toUInt8, UInt8.toNat_ofNat']
  omega

/-- The loop adds a number in LEB128 to the bits that it has, by strong induction on the number. -/
theorem readLEB128Loop_leb128 {value shift : Nat} {result : BitVec 32} (bytesRead : Nat)
    (rest : List UInt8) (below : result.toNat < 2 ^ shift)
    (fits : result.toNat + value * 2 ^ shift < 2 ^ 31) (early : shift < 32)
    : readLEB128Loop result shift bytesRead (leb128 value ++ rest)
      = (((result.toNat + value * 2 ^ shift : Nat) : Int), bytesRead + (leb128 value).length) := by
  induction value using Nat.strong_induction_on generalizing result shift bytesRead with
  | _ value ih =>
      rw [leb128]
      split
      · rename_i isLast
        have byte : value.toUInt8.toNat = value := toNat_toUInt8 (by omega)
        have low : value.toUInt8.toNat % 128 = value := by
          rw [byte, Nat.mod_eq_of_lt isLast]
        have number := toNat_addBits below (by rw [low]; exact fits) early
        rw [low] at number
        have unmarked : value.toUInt8 &&& 0x80 = 0 := by
          rw [and_mark_eq_zero_iff, byte]
          exact isLast
        rw [List.singleton_append, readLEB128Loop, if_pos unmarked, List.length_singleton,
          BitVec.toInt_eq_toNat_of_lt (by rw [number]; omega), number]
      · rename_i goesOn
        have byte : (value % 128 + 128).toUInt8.toNat = value % 128 + 128 :=
          toNat_toUInt8 (by omega)
        have low : (value % 128 + 128).toUInt8.toNat % 128 = value % 128 := by omega
        have marked : ¬ (value % 128 + 128).toUInt8 &&& 0x80 = 0 := by
          rw [and_mark_eq_zero_iff, byte]
          omega
        have shiftedOn : 2 ^ (shift + 7) = 2 ^ shift * 128 := Nat.pow_add 2 shift 7
        -- The lowest seven bits and the others make up the number.
        have total
            : result.toNat + value * 2 ^ shift
              = result.toNat + value % 128 * 2 ^ shift + value / 128 * 2 ^ (shift + 7) := by
          rw [shiftedOn]
          nth_rewrite 1 [show value = value % 128 + 128 * (value / 128) by omega]
          ring
        have number := toNat_addBits below (by rw [low]; omega) early
        rw [low] at number
        have isBelow : result.toNat + value % 128 * 2 ^ shift < 2 ^ (shift + 7) := by
          have product := Nat.mul_le_mul_right (2 ^ shift) (show value % 128 + 1 ≤ 128 by omega)
          rw [Nat.add_mul] at product
          omega
        have nextEarly : shift + 7 < 31 := by
          have product :=
            Nat.mul_le_mul_right (2 ^ (shift + 7)) (show 1 ≤ value / 128 by omega)
          apply (Nat.pow_lt_pow_iff_right (a := 2) (by decide)).mp
          omega
        rw [List.cons_append, readLEB128Loop, if_neg marked]
        rw [ih (value / 128) (by omega) (bytesRead + 1) (by rw [number]; exact isBelow)
          (by rw [number]; omega) (by omega)]
        rw [number, ← total, List.length_cons]
        congr 1
        omega

-----------------------------------------------------------------------------------------
-- Parts of a file
-----------------------------------------------------------------------------------------

variable {wasm : Buffer}

namespace Buffer

/-- The bytes from an index within the file on. -/
@[simp]
theorem bytesFrom_natCast (buf : Buffer) (index : Nat) : buf.bytesFrom index = buf.drop index := by
  simp [bytesFrom]

/-- The bytes between two indices that do not count from the end. -/
theorem slice_natCast (buf : Buffer) (start stop : Nat)
    : buf.slice start stop = (buf.take stop).drop start := by
  have adjust (index : Nat) : buf.adjustOffset index = min index buf.length := by
    simp [adjustOffset]
  rw [slice, adjust, adjust]
  rcases Nat.le_total start buf.length with within | beyond
  · rw [Nat.min_eq_left within, ← List.take_eq_take_min]
  · rw [Nat.min_eq_right beyond, ← List.take_eq_take_min]
    have nothing {index : Nat} (past : buf.length ≤ index) : (buf.take stop).drop index = [] := by
      apply List.drop_eq_nil_of_le
      rw [List.length_take]
      omega
    rw [nothing le_rfl, nothing beyond]

/-- Bytes that stand at an index are those up to where they end. -/
theorem slice_of_drop {buf : Buffer} {start : Nat} {bytes rest : List UInt8}
    (found : buf.drop start = bytes ++ rest)
    : buf.slice start ((start : Int) + bytes.length) = bytes := by
  rw [← Nat.cast_add, slice_natCast, List.drop_take, found, Nat.add_sub_cancel_left,
    List.take_left]

/-- Four bytes that stand at an index are read. -/
theorem readUInt32BE_of_drop {buf : Buffer} {index : Nat} {value : Nat} {rest : List UInt8}
    (found : buf.drop index = bigEndian value ++ rest) (small : value < 2 ^ 32)
    : buf.readUInt32BE index = .ok value := by
  have read := bigEndianValue_of_eq (rfl : bigEndian value = _) small
  rw [readUInt32BE, bytesFrom_natCast, found]
  exact congrArg Except.ok read

end Buffer

/-- What follows bytes that stand at an index. -/
theorem drop_add_of_drop {buf bytes rest : List UInt8} {index : Nat}
    (found : buf.drop index = bytes ++ rest)
    : buf.drop (index + bytes.length) = rest := by
  rw [← List.drop_drop, found, List.drop_left]

/-- A number in LEB128 that stands at an index is read. -/
theorem readLEB128_of_drop {index value : Nat} {rest : List UInt8}
    (found : wasm.drop index = leb128 value ++ rest) (small : value < 2 ^ 31)
    : readLEB128 wasm index = ((value : Int), (leb128 value).length) := by
  rw [readLEB128, Buffer.bytesFrom_natCast, found,
    readLEB128Loop_leb128 0 rest (by decide) (by simpa using small) (by decide)]
  simp

/-- An entry whose length can be read is read, and then what follows it. -/
theorem readEntries_of_read {sectionEnd pos : Int} {entryLen : Nat} (inSection : pos < sectionEnd)
    (read : wasm.readUInt32BE pos = .ok entryLen)
    : readEntries wasm sectionEnd pos
      = (readEntries wasm sectionEnd (pos + 4 + entryLen)).map
          (wasm.slice (pos + 4) (pos + 4 + entryLen) :: ·) := by
  rw [readEntries, if_pos inSection]
  split
  · rename_i error fails
    rw [read] at fails
    cases fails
  · rename_i found isRead
    obtain rfl := Except.ok.inj (read.symm.trans isRead)
    cases readEntries wasm sectionEnd (pos + 4 + entryLen) <;> rfl

/-- An entry whose length cannot be read is an error. -/
theorem readEntries_of_error {sectionEnd pos : Int} {error : ReadError}
    (inSection : pos < sectionEnd) (fails : wasm.readUInt32BE pos = .error error)
    : readEntries wasm sectionEnd pos = .error error := by
  rw [readEntries, if_pos inSection]
  split
  · rename_i other alsoFails
    rw [fails] at alsoFails
    rw [Except.error.inj alsoFails]
  · rename_i found isRead
    rw [fails] at isRead
    cases isRead

/-- Entries behind their lengths that stand at an index are read, and then what follows them, by
induction on the entries.
-/
theorem readEntries_of_drop {index : Nat} {sectionEnd : Int} {entries : List (List UInt8)}
    {rest : List UInt8} (small : ∀ entry ∈ entries, entry.length < 2 ^ 32)
    (found : wasm.drop index = entries.flatMap frame ++ rest)
    (within : (index : Int) + (entries.flatMap frame).length ≤ sectionEnd)
    : readEntries wasm sectionEnd index
      = (readEntries wasm sectionEnd (index + (entries.flatMap frame).length : Nat)).map
          (entries ++ ·) := by
  induction entries generalizing index with
  | nil =>
      rw [List.flatMap_nil, List.length_nil, Nat.add_zero]
      cases readEntries wasm sectionEnd index <;> rfl
  | cons entry entries ih =>
      obtain ⟨entrySmall, entriesSmall⟩ := List.forall_mem_cons.mp small
      rw [List.flatMap_cons, List.append_assoc] at found
      have length : (frame entry).length = 4 + entry.length := by
        rw [frame, List.length_append]
        rfl
      rw [List.flatMap_cons, List.length_append, length] at within ⊢
      have lengthFirst
          : wasm.drop index
            = bigEndian entry.length ++ (entry ++ (entries.flatMap frame ++ rest)) := by
        rw [found, frame, List.append_assoc]
      have content : wasm.drop (index + 4) = entry ++ (entries.flatMap frame ++ rest) :=
        drop_add_of_drop lengthFirst
      have behind : wasm.drop (index + 4 + entry.length) = entries.flatMap frame ++ rest :=
        drop_add_of_drop content
      have later := ih entriesSmall behind (by push_cast at within ⊢; omega)
      have first := readEntries_of_read (show (index : Int) < sectionEnd by omega)
        (Buffer.readUInt32BE_of_drop lengthFirst entrySmall)
      have slice := Buffer.slice_of_drop content
      push_cast at first slice later ⊢
      rw [first, slice, later]
      rw [show (index : Int) + (4 + entry.length + (entries.flatMap frame).length)
        = index + 4 + entry.length + (entries.flatMap frame).length by omega]
      cases readEntries wasm sectionEnd
        ((index : Int) + 4 + entry.length + (entries.flatMap frame).length) <;> rfl

-----------------------------------------------------------------------------------------
-- Parts of a section
-----------------------------------------------------------------------------------------

/-- Where the content of the section at an offset starts, behind its size. -/
def contentStart (wasm : Buffer) (offset : Int) : Int :=
  offset + 1 + (readLEB128 wasm (offset + 1)).2

/-- Where the section at an offset ends. -/
def sectionEnd (wasm : Buffer) (offset : Int) : Int :=
  contentStart wasm offset + (readLEB128 wasm (offset + 1)).1

/-- Where the name of the custom section at an offset starts, behind its length. -/
def nameStart (wasm : Buffer) (offset : Int) : Int :=
  contentStart wasm offset + (readLEB128 wasm (contentStart wasm offset)).2

/-- Where the payload of the custom section at an offset starts, behind its name. -/
def payloadStart (wasm : Buffer) (offset : Int) : Int :=
  nameStart wasm offset + (readLEB128 wasm (contentStart wasm offset)).1

/-- The section at an offset is a custom one. -/
def IsCustom (wasm : Buffer) (offset : Int) : Prop :=
  (wasm.bytesFrom offset).head? = some 0

/-- The section at an offset is a `contractspecv0` section. -/
def IsSpecSection (wasm : Buffer) (offset : Int) : Prop :=
  IsCustom wasm offset
  ∧ wasm.slice (nameStart wasm offset) (payloadStart wasm offset) = specSectionName

/-- A section without entries is left for the next one. -/
theorem readSection_of_not_isSpecSection {offset : Int} (isOther : ¬ IsSpecSection wasm offset)
    : readSection wasm offset = .ok (sectionEnd wasm offset, []) := by
  unfold readSection
  dsimp only
  split
  · rename_i isCustom
    exact if_neg fun hasName => isOther ⟨isCustom, hasName⟩
  · rfl

/-- The entries of a `contractspecv0` section are read up to where it ends. -/
theorem readSection_of_isSpecSection {offset : Int} (isSpec : IsSpecSection wasm offset)
    : readSection wasm offset
      = (readEntries wasm (sectionEnd wasm offset) (payloadStart wasm offset)).map
          (sectionEnd wasm offset, ·) := by
  obtain ⟨isCustom, hasName⟩ := isSpec
  unfold readSection
  dsimp only
  refine (if_pos isCustom).trans ((if_pos hasName).trans ?_)
  change (readEntries wasm (sectionEnd wasm offset) (payloadStart wasm offset) >>= fun entries =>
      pure (sectionEnd wasm offset, entries)) = _
  cases readEntries wasm (sectionEnd wasm offset) (payloadStart wasm offset) <;> rfl

/-- Where the parts of an encoded section stand. -/
theorem sectionEnd_of_drop {offset : Nat} {id : UInt8} {payload rest : List UInt8}
    (found : wasm.drop offset = encodeSection id payload ++ rest) (small : payload.length < 2 ^ 31)
    : (wasm.bytesFrom offset).head? = some id
      ∧ contentStart wasm offset = (offset + 1 + (leb128 payload.length).length : Nat)
      ∧ sectionEnd wasm offset = (offset + (encodeSection id payload).length : Nat)
      ∧ wasm.drop (offset + 1 + (leb128 payload.length).length) = payload ++ rest := by
  have sizeFirst : wasm.drop (offset + 1) = leb128 payload.length ++ (payload ++ rest) := by
    rw [← List.drop_drop, found, encodeSection, List.cons_append, List.append_assoc]
    rfl
  have size := readLEB128_of_drop sizeFirst small
  have start : contentStart wasm offset = (offset + 1 + (leb128 payload.length).length : Nat) := by
    unfold contentStart
    push_cast at size ⊢
    rw [size]
  refine ⟨?_, start, ?_, drop_add_of_drop sizeFirst⟩
  · rw [Buffer.bytesFrom_natCast, found]
    rfl
  · unfold sectionEnd
    rw [start, encodeSection, List.length_cons, List.length_append]
    push_cast at size ⊢
    rw [size]
    omega

/-- Where the parts of an encoded custom section stand. -/
theorem payloadStart_of_drop {offset : Nat} {name content rest : List UInt8}
    (found : wasm.drop offset = encodeSection 0 (customPayload name content) ++ rest)
    (small : (customPayload name content).length < 2 ^ 31)
    : wasm.slice (nameStart wasm offset) (payloadStart wasm offset) = name
      ∧ ∃ start : Nat,
          payloadStart wasm offset = start
          ∧ wasm.drop start = content ++ rest
          ∧ sectionEnd wasm offset = start + content.length := by
  obtain ⟨_, start, stop, payloadFirst⟩ := sectionEnd_of_drop found small
  have lengthFirst
      : wasm.drop (offset + 1 + (leb128 (customPayload name content).length).length)
        = leb128 name.length ++ (name ++ (content ++ rest)) := by
    rw [payloadFirst, customPayload, List.append_assoc, List.append_assoc]
  have nameSmall : name.length < 2 ^ 31 := by
    rw [customPayload, List.length_append, List.length_append] at small
    omega
  have length := readLEB128_of_drop lengthFirst nameSmall
  have nameFirst := drop_add_of_drop lengthFirst
  have nameStarts
      : nameStart wasm offset
        = (offset + 1 + (leb128 (customPayload name content).length).length
            + (leb128 name.length).length : Nat) := by
    rw [nameStart, start]
    push_cast at length ⊢
    rw [length]
  have payloadStarts : payloadStart wasm offset = nameStart wasm offset + name.length := by
    rw [payloadStart, start]
    push_cast at length ⊢
    rw [length]
  refine ⟨?_, _, ?_, drop_add_of_drop nameFirst, ?_⟩
  · rw [payloadStarts, nameStarts]
    exact Buffer.slice_of_drop nameFirst
  · rw [payloadStarts, nameStarts]
    push_cast
    rfl
  · rw [stop, encodeSection, List.length_cons, List.length_append]
    nth_rewrite 2 [customPayload]
    rw [List.length_append, List.length_append]
    push_cast
    omega

-----------------------------------------------------------------------------------------
-- Reading a module
-----------------------------------------------------------------------------------------

/-- An encoded section is read in one turn, with the entries that are found in it. -/
theorem sectionStep_of_drop {offset : Nat} {id : UInt8} {payload rest : List UInt8}
    {found : List (List UInt8)} (entries : List (List UInt8))
    (starts : wasm.drop offset = encodeSection id payload ++ rest)
    (read
      : readSection wasm offset = .ok ((offset + (encodeSection id payload).length : Nat), found))
    : sectionStep wasm (.reading offset entries) ()
      = some (.reading (offset + (encodeSection id payload).length : Nat) (entries ++ found)) := by
  have inFile : (offset : Int) < wasm.length := by
    have length := congrArg List.length starts
    simp only [encodeSection, List.length_drop, List.cons_append, List.length_cons] at length
    omega
  simp only [sectionStep, if_pos inFile, read]

/-- Nothing is found in other sections. -/
theorem readSection_other {offset : Nat} {other : OtherSection} {rest : List UInt8}
    (starts : wasm.drop offset = encodeSection other.id other.payload ++ rest)
    (small : other.payload.length < 2 ^ 31)
    : readSection wasm offset
      = .ok ((offset + (encodeSection other.id other.payload).length : Nat), []) := by
  obtain ⟨isFirst, _, stop, _⟩ := sectionEnd_of_drop starts small
  rw [← stop]
  apply readSection_of_not_isSpecSection
  rintro ⟨isCustom, hasName⟩
  cases other with
  | standard id notCustom payload =>
      rw [IsCustom, isFirst] at isCustom
      exact notCustom (Option.some.inj isCustom)
  | custom name content otherName =>
      exact otherName ((payloadStart_of_drop starts small).1.symm.trans hasName)

/-- All entries are found in the encoded `contractspecv0` section. -/
theorem readSection_specPayload {offset : Nat} {entries : List (List UInt8)} {rest : List UInt8}
    (starts : wasm.drop offset = encodeSection 0 (specPayload entries) ++ rest)
    (small : (specPayload entries).length < 2 ^ 31)
    : readSection wasm offset
      = .ok ((offset + (encodeSection 0 (specPayload entries)).length : Nat), entries) := by
  obtain ⟨isFirst, _, stop, _⟩ := sectionEnd_of_drop starts small
  obtain ⟨hasName, start, isStart, content, isEnd⟩ := payloadStart_of_drop starts small
  have entriesSmall : ∀ entry ∈ entries, entry.length < 2 ^ 32 := by
    intro entry member
    have part := length_le_flatMap_frame member
    rw [specPayload, customPayload, List.length_append] at small
    omega
  rw [readSection_of_isSpecSection ⟨isFirst, hasName⟩, isStart, ← stop,
    readEntries_of_drop entriesSmall content (by omega), readEntries, if_neg (by omega)]
  simp [Except.map]

/-- Other sections are passed over, one a turn, by induction on them. -/
theorem run_encodeOthers {offset : Nat} {others : List OtherSection} {rest : List UInt8}
    (entries : List (List UInt8)) (starts : wasm.drop offset = encodeOthers others ++ rest)
    (small : ∀ other ∈ others, other.payload.length < 2 ^ 31)
    : ∃ turns,
        run (sectionStep wasm) (.reading offset entries) turns
          = some (.reading (offset + (encodeOthers others).length : Nat) entries) := by
  induction others generalizing offset with
  | nil => exact ⟨[], rfl⟩
  | cons other others ih =>
      obtain ⟨otherSmall, othersSmall⟩ := List.forall_mem_cons.mp small
      rw [encodeOthers, List.flatMap_cons, List.append_assoc] at starts
      have taken := sectionStep_of_drop entries starts
        (readSection_other starts otherSmall)
      rw [List.append_nil] at taken
      obtain ⟨turns, later⟩ := ih (drop_add_of_drop starts) othersSmall
      refine ⟨() :: turns, run_cons_iff.mpr ⟨_, taken, ?_⟩⟩
      rw [later, Nat.add_assoc, ← List.length_append]
      rfl

/-- The entries of a module are read back from its encoding, whatever sections stand around them.
-/
theorem returns_encodeModule {header : Vector UInt8 8} {front back : List OtherSection}
    {entries : List (List UInt8)}
    (small : ∀ other ∈ front ++ back, other.payload.length < 2 ^ 31)
    (specSmall : (specPayload entries).length < 2 ^ 31)
    : Returns (encodeModule header front entries back) entries := by
  have shape
      : encodeModule header front entries back
        = header.toList
          ++ (encodeOthers front
            ++ (encodeSection 0 (specPayload entries) ++ (encodeOthers back ++ []))) := by
    simp only [encodeModule, List.append_assoc, List.append_nil]
  generalize encodeModule header front entries back = wasm at shape ⊢
  have frontStarts : wasm.drop 8
      = encodeOthers front
        ++ (encodeSection 0 (specPayload entries) ++ (encodeOthers back ++ [])) := by
    rw [shape]
    exact List.drop_left' header.length_toList
  have specStarts := drop_add_of_drop frontStarts
  have backStarts := drop_add_of_drop specStarts
  have isEnd := drop_add_of_drop backStarts
  rw [List.drop_eq_nil_iff] at isEnd
  obtain ⟨first, passed⟩ := run_encodeOthers [] frontStarts fun other member =>
    small other (List.mem_append_left _ member)
  have found := sectionStep_of_drop [] specStarts (readSection_specPayload specStarts specSmall)
  obtain ⟨later, passedLater⟩ := run_encodeOthers entries backStarts fun other member =>
    small other (List.mem_append_right _ member)
  refine ⟨first ++ () :: (later ++ [()]), ?_⟩
  rw [SectionReader.initial, run_append]
  push_cast at passed
  rw [passed]
  refine run_cons_iff.mpr ⟨_, found, ?_⟩
  rw [run_append, List.nil_append, passedLater]
  refine run_cons_iff.mpr ⟨_, ?_, rfl⟩
  rw [sectionStep, if_neg (by omega)]

end Axionvera.Codegen
