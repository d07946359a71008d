import Axionvera.Foundation.TransitionSystem

/-! The reader of the `contractspecv0` section of a compiled contract (`codegen/wasmParser.ts`). -/

namespace Axionvera.Codegen

/-- The content of a file. -/
abbrev Buffer := List UInt8

namespace Buffer

/-- The bytes from an index on. There are none before the beginning and beyond the end, where
indexing gives `undefined`.
-/
def bytesFrom (buf : Buffer) (index : Int) : List UInt8 :=
  if index < 0 then [] else buf.drop index.toNat

/-- A bound of `slice`: a negative one counts from the end, and none goes beyond it. -/
def adjustOffset (buf : Buffer) (offset : Int) : Nat :=
  if offset < 0 then (offset + buf.length).toNat else min offset.toNat buf.length

/-- `buf.slice(start, end)`. -/
def slice (buf : Buffer) (start stop : Int) : List UInt8 :=
  (buf.take (buf.adjustOffset stop)).drop (buf.adjustOffset start)

end Buffer

/-- The errors of `readUInt32BE`. -/
inductive ReadError where
  | outsideBufferBounds
  | outOfRange (largest received : Int)
  deriving DecidableEq

/-- `buf.readUInt32BE(offset)`. -/
def Buffer.readUInt32BE (buf : Buffer) (offset : Int) : Except ReadError Nat :=
  match buf.bytesFrom offset with
  | first :: second :: third :: fourth :: _ =>
      .ok (((first.toNat * 256 + second.toNat) * 256 + third.toNat) * 256 + fourth.toNat)
  | _ =>
      if buf.length < 4 then .error .outsideBufferBounds
      else .error (.outOfRange (buf.length - 4) offset)

/-- The loop of `readLEB128` over the bytes from the offset on. `|=` and `<<` work on 32 bits with a
sign, and `<<` takes its right side modulo 32. A byte that is `undefined` counts as zero.
-/
def readLEB128Loop (result : BitVec 32) (shift bytesRead : Nat) : List UInt8 → Int × Nat
  | [] => (result.toInt, bytesRead + 1)
  | byte :: bytes =>
      let result := result ||| (byte &&& 0x7f).toBitVec.setWidth 32 <<< (shift % 32)
      if byte &&& 0x80 = 0 then (result.toInt, bytesRead + 1)
      else readLEB128Loop result (shift + 7) (bytesRead + 1) bytes

/-- `readLEB128`. -/
def readLEB128 (buf : Buffer) (offset : Int) : Int × Nat :=
  readLEB128Loop 0 0 0 (buf.bytesFrom offset)

/-- `SPEC_SECTION_NAME`, as the only bytes that are decoded to it. -/
def specSectionName : List UInt8 :=
  "contractspecv0".toList.map fun character => character.toNat.toUInt8

/-- Four bytes can be read only within the buffer. -/
theorem Buffer.bounds_of_readUInt32BE {buf : Buffer} {offset : Int} {value : Nat}
    (read : buf.readUInt32BE offset = .ok value)
    : 0 ≤ offset ∧ offset + 4 ≤ buf.length := by
  unfold readUInt32BE at read
  split at read
  · rename_i bytes
    unfold bytesFrom at bytes
    split at bytes
    · cases bytes
    · have length := congrArg List.length bytes
      simp only [List.length_drop, List.length_cons] at length
      omega
  · split at read <;> cases read

/-- The loop over the entries of the section, from `pos` on. -/
def readEntries (wasm : Buffer) (sectionEnd pos : Int) : Except ReadError (List (List UInt8)) :=
  if pos < sectionEnd then
    match read : wasm.readUInt32BE pos with
    | .error error => .error error
    | .ok entryLen => do
        let entries ← readEntries wasm sectionEnd (pos + 4 + entryLen)
        return wasm.slice (pos + 4) (pos + 4 + entryLen) :: entries
  else .ok []
termination_by (wasm.length - pos).toNat
decreasing_by
  have bounds := Buffer.bounds_of_readUInt32BE read
  omega

/-- The body of the loop over the sections, at an offset in the file: where the next section is
expected, and the entries that are found.
-/
def readSection (wasm : Buffer) (offset : Int) : Except ReadError (Int × List (List UInt8)) := do
  let sectionId := (wasm.bytesFrom offset).head?
  let offset := offset + 1
  let (sectionSize, sizeLen) := readLEB128 wasm offset
  let offset := offset + sizeLen
  let sectionEnd := offset + sectionSize
  if sectionId = some 0 then
    -- A custom section starts with its name.
    let (nameLen, nameLenBytes) := readLEB128 wasm offset
    let nameStart := offset + nameLenBytes
    let name := wasm.slice nameStart (nameStart + nameLen)
    let payloadStart := nameStart + nameLen
    if name = specSectionName then
      let entries ← readEntries wasm sectionEnd payloadStart
      return (sectionEnd, entries)
    else return (sectionEnd, [])
  else return (sectionEnd, [])

/-- How far `readSpecSection` has come. -/
inductive SectionReader where
  | reading (offset : Int) (entries : List (List UInt8))
  | returned (entries : List (List UInt8))
  | threw (error : ReadError)

/-- One turn of the loop over the sections, or the end. -/
def sectionStep (wasm : Buffer) : SectionReader → Unit → Option SectionReader
  | .reading offset entries, _ =>
      if offset < wasm.length then
        match readSection wasm offset with
        | .ok (sectionEnd, found) => some (.reading sectionEnd (entries ++ found))
        | .error error => some (.threw error)
      else some (.returned entries)
  | .returned _, _ | .threw _, _ => none

/-- `readSpecSection` at its start, behind the magic number and the version. -/
def SectionReader.initial : SectionReader :=
  .reading 8 []

end Axionvera.Codegen
