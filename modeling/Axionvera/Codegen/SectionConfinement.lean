import Axionvera.Codegen.SectionRoundTrip
import Axionvera.Codegen.SectionTermination

/-! Entries come from the payloads of `contractspecv0` sections exactly if no length and no name of
a file runs past its section. The reader takes whatever follows.
-/

namespace Axionvera.Codegen

open Axionvera.Foundation
open Relation

/-- The section at an offset is reached from the first one. -/
def IsReached (wasm : Buffer) (offset : Int) : Prop :=
  ReflTransGen (LeadsTo wasm) 8 offset ∧ offset < wasm.length

/-- The payload of the custom section at an offset, behind its name. -/
def payload (wasm : Buffer) (offset : Int) : List UInt8 :=
  wasm.slice (payloadStart wasm offset) (sectionEnd wasm offset)

/-- The entry stands behind its length in the payload of a `contractspecv0` section. -/
def InSpecPayload (wasm : Buffer) (entry : List UInt8) : Prop :=
  ∃ offset,
    IsReached wasm offset
    ∧ IsSpecSection wasm offset
    ∧ entry.length < 2 ^ 32
    ∧ ∃ pos : Nat,
        payloadStart wasm offset ≤ pos
        ∧ (pos : Int) + (frame entry).length ≤ sectionEnd wasm offset
        ∧ ∃ rest, wasm.drop pos = frame entry ++ rest

/-- The name of the custom section at an offset runs past its end, or has a length that is read as
negative.
-/
def NameRunsPast (wasm : Buffer) (offset : Int) : Prop :=
  payloadStart wasm offset < nameStart wasm offset
  ∨ sectionEnd wasm offset < payloadStart wasm offset

/-- Entries that are returned for a file come from the payloads of its `contractspecv0` sections,
and nothing is returned for a file with a length or a name that runs past its section.
-/
def Confines (wasm : Buffer) (entries : List (List UInt8)) : Prop :=
  (∀ entry ∈ entries, InSpecPayload wasm entry)
  ∧ ∀ offset,
      IsReached wasm offset
      → IsCustom wasm offset
      → ¬ NameRunsPast wasm offset
        ∧ (IsSpecSection wasm offset → ¬ LengthRunsPast (payload wasm offset))

/-- All custom sections hold their names, and the `contractspecv0` sections behind them nothing but
byte strings behind their lengths.
-/
def WellFramed (wasm : Buffer) : Prop :=
  ∀ offset,
    IsReached wasm offset
    → IsCustom wasm offset
    → nameStart wasm offset ≤ payloadStart wasm offset
      ∧ payloadStart wasm offset ≤ sectionEnd wasm offset
      ∧ (IsSpecSection wasm offset → IsFramed (payload wasm offset))

variable {wasm : Buffer}

/-- A custom section does not begin before the file does. -/
theorem nonneg_of_isCustom {offset : Int} (isCustom : IsCustom wasm offset) : 0 ≤ offset := by
  by_contra negative
  rw [IsCustom, Buffer.bytesFrom, if_pos (not_le.mp negative)] at isCustom
  cases isCustom

/-- No four bytes can be read where the file ends. -/
theorem readUInt32BE_of_ended {index : Nat} (ended : wasm.drop index = [])
    : ∃ error, wasm.readUInt32BE index = .error error := by
  rw [Buffer.readUInt32BE, Buffer.bytesFrom_natCast, ended]
  dsimp only
  split <;> exact ⟨_, rfl⟩

/-- The payload between two places in the file is what stands at the first one. -/
theorem drop_of_slice {start stop : Nat} {bytes : List UInt8} (before : start ≤ stop)
    (isPayload : wasm.slice start stop = bytes)
    : (∃ rest, wasm.drop start = bytes ++ rest)
      ∧ (start + bytes.length = stop
          ∨ start + bytes.length < stop ∧ wasm.drop (start + bytes.length) = []) := by
  rw [Buffer.slice_natCast, List.drop_take] at isPayload
  have length := congrArg List.length isPayload
  rw [List.length_take, List.length_drop] at length
  refine ⟨⟨(wasm.drop start).drop (stop - start), ?_⟩, ?_⟩
  · rw [← isPayload, List.take_append_drop]
  · rcases Nat.lt_or_ge (start + bytes.length) stop with less | enough
    · refine .inr ⟨less, List.drop_eq_nil_of_le ?_⟩
      omega
    · exact .inl (by omega)

/-- Entries that are read from a payload of byte strings behind their lengths are these byte
strings.
-/
theorem eq_of_readEntries {start stop : Nat} {contents found : List (List UInt8)}
    (small : ∀ content ∈ contents, content.length < 2 ^ 32) (before : start ≤ stop)
    (isPayload : wasm.slice start stop = contents.flatMap frame)
    (read : readEntries wasm stop start = .ok found)
    : found = contents := by
  obtain ⟨⟨rest, starts⟩, isEnd | ⟨less, ended⟩⟩ := drop_of_slice before isPayload
  · rw [readEntries_of_drop small starts (by omega), readEntries, if_neg (by omega)] at read
    simpa [Except.map, eq_comm] using read
  · obtain ⟨error, fails⟩ := readUInt32BE_of_ended ended
    rw [readEntries_of_drop small starts (by omega),
      readEntries_of_error (by omega) fails] at read
    cases read

/-- What is found in a section that is well framed comes from its payload. -/
theorem inSpecPayload_of_read {offset next : Int} {found : List (List UInt8)}
    (reached : IsReached wasm offset) (framed : WellFramed wasm)
    (read : readSection wasm offset = .ok (next, found))
    : ∀ entry ∈ found, InSpecPayload wasm entry := by
  intro entry member
  by_cases isSpec : IsSpecSection wasm offset
  · obtain ⟨startsBehind, endsBehind, isFramed⟩ := framed offset reached isSpec.1
    obtain ⟨contents, small, isPayload⟩ := isFramed isSpec
    have nameBehind : 0 ≤ nameStart wasm offset := by
      have nonneg := nonneg_of_isCustom isSpec.1
      unfold nameStart contentStart
      omega
    obtain ⟨start, isStart⟩ := Int.eq_ofNat_of_zero_le (nameBehind.trans startsBehind)
    obtain ⟨stop, isStop⟩ :=
      Int.eq_ofNat_of_zero_le (nameBehind.trans (startsBehind.trans endsBehind))
    rw [payload, isStart, isStop] at isPayload
    have before : start ≤ stop := by omega
    rw [readSection_of_isSpecSection isSpec, isStart, isStop] at read
    cases readsAll : readEntries wasm stop start with
    | error error =>
        rw [readsAll] at read
        cases read
    | ok entries =>
        rw [readsAll] at read
        obtain rfl : entries = found := congrArg Prod.snd (Except.ok.inj read)
        obtain rfl := eq_of_readEntries small before isPayload readsAll
        obtain ⟨⟨rest, starts⟩, isEnd⟩ := drop_of_slice before isPayload
        obtain ⟨front, back, rfl⟩ := List.append_of_mem member
        rw [List.flatMap_append, List.flatMap_cons] at starts isEnd
        rw [List.append_assoc, List.append_assoc] at starts
        rw [List.length_append, List.length_append] at isEnd
        refine ⟨offset, reached, isSpec, small entry member,
          start + (front.flatMap frame).length, ?_, ?_, _, drop_add_of_drop starts⟩
        · rw [isStart]
          omega
        · rw [isStop]
          omega
  · rw [readSection_of_not_isSpecSection isSpec] at read
    obtain rfl : [] = found := congrArg Prod.snd (Except.ok.inj read)
    cases member

/-- What is returned was found in sections that are reached, by induction on the turns. -/
theorem mem_of_run {offset : Int} {before entries : List (List UInt8)} {turns : List Unit}
    (reached : ReflTransGen (LeadsTo wasm) 8 offset)
    (returned : run (sectionStep wasm) (.reading offset before) turns = some (.returned entries))
    : ∀ entry ∈ entries,
        entry ∈ before
        ∨ ∃ place next found,
            IsReached wasm place ∧ readSection wasm place = .ok (next, found) ∧ entry ∈ found := by
  induction turns generalizing offset before with
  | nil => cases returned
  | cons turn turns ih =>
      obtain ⟨state, taken, later⟩ := run_cons_iff.mp returned
      simp only [sectionStep] at taken
      by_cases inFile : offset < wasm.length
      · rw [if_pos inFile] at taken
        cases read : readSection wasm offset with
        | error error =>
            rw [read] at taken
            obtain rfl := Option.some.inj taken
            cases turns <;> cases later
        | ok section_ =>
            obtain ⟨next, found⟩ := section_
            rw [read] at taken
            obtain rfl := Option.some.inj taken
            intro entry member
            rcases ih (reached.tail ⟨inFile, found, read⟩) later entry member with known | elsewhere
            · rcases List.mem_append.mp known with known | isFound
              · exact .inl known
              · exact .inr ⟨offset, next, found, ⟨reached, inFile⟩, read, isFound⟩
            · exact .inr elsewhere
      · rw [if_neg inFile] at taken
        obtain rfl := Option.some.inj taken
        cases turns with
        | nil =>
            obtain rfl : before = entries := by simpa [run] using later
            exact fun entry member => .inl member
        | cons _ _ => cases later

/-- What is returned for a file is confined exactly if the file is well framed. -/
theorem confines_iff {entries : List (List UInt8)} (returned : Returns wasm entries)
    : Confines wasm entries ↔ WellFramed wasm := by
  constructor
  · rintro ⟨_, noneRunsPast⟩ offset reached isCustom
    obtain ⟨nameFits, lengthsFit⟩ := noneRunsPast offset reached isCustom
    rw [NameRunsPast, not_or, not_lt, not_lt] at nameFits
    exact ⟨nameFits.1, nameFits.2, fun isSpec => isFramed_iff.mpr (lengthsFit isSpec)⟩
  · intro framed
    refine ⟨fun entry member => ?_, fun offset reached isCustom => ?_⟩
    · obtain ⟨turns, returned⟩ := returned
      rcases mem_of_run .refl returned entry member with nowhere | ⟨_, _, _, reached, read, isFound⟩
      · cases nowhere
      · exact inSpecPayload_of_read reached framed read entry isFound
    · obtain ⟨startsBehind, endsBehind, isFramed⟩ := framed offset reached isCustom
      refine ⟨?_, fun isSpec => isFramed_iff.mp (isFramed isSpec)⟩
      rw [NameRunsPast, not_or, not_lt, not_lt]
      exact ⟨startsBehind, endsBehind⟩

/-- From a file that encodes a module all its entries are returned, and what is returned for any
file is confined exactly if the file is well framed.
-/
theorem readSpecSection_confines_iff (wasm : Buffer)
    : (∀ (header : Vector UInt8 8) (front : List OtherSection) (entries : List (List UInt8))
          (back : List OtherSection),
        wasm = encodeModule header front entries back
        → (∀ other ∈ front ++ back, other.payload.length < 2 ^ 31)
        → (specPayload entries).length < 2 ^ 31
        → Returns wasm entries)
      ∧ ∀ entries, Returns wasm entries → (Confines wasm entries ↔ WellFramed wasm) := by
  constructor
  · rintro header front entries back rfl small specSmall
    exact returns_encodeModule small specSmall
  · intro entries returned
    exact confines_iff returned

/-- The magic number and the version. -/
def wasmHeader : Vector UInt8 8 :=
  #v[0x00, 0x61, 0x73, 0x6d, 0x01, 0x00, 0x00, 0x00]

/-- A module with one entry behind a section of types. -/
def oneEntry : Buffer :=
  encodeModule wasmHeader [.standard 1 (by decide) [0x00]] [[0x07, 0x08]] []

/-- The entry of the module is returned, and confined exactly if the module is well framed. -/
theorem readSpecSection_confines_iff_oneEntry
    : Returns oneEntry [[0x07, 0x08]]
      ∧ (Confines oneEntry [[0x07, 0x08]] ↔ WellFramed oneEntry) := by
  have returned : Returns oneEntry [[0x07, 0x08]] := by
    apply (readSpecSection_confines_iff oneEntry).1 _ _ _ _ rfl
    · intro other isOther
      obtain rfl := List.mem_singleton.mp isOther
      exact (by decide : [(0x00 : UInt8)].length < 2 ^ 31)
    · have name : (leb128 specSectionName.length).length = 1 := by
        rw [leb128, if_pos (by decide)]
        rfl
      rw [specPayload, customPayload, List.length_append, List.length_append, name]
      decide
  exact ⟨returned, (readSpecSection_confines_iff oneEntry).2 _ returned⟩

/-- A file whose `contractspecv0` section ends behind a length of four, with another section behind
it.
-/
def runsPast : Buffer :=
  wasmHeader.toList ++ [0x00, 0x13, 0x0e] ++ specSectionName ++ [0x00, 0x00, 0x00, 0x04]
    ++ [0x01, 0x02, 0xaa, 0xbb]

/-- The section behind it is returned as an entry. -/
theorem not_confines
    : Returns runsPast [[0x01, 0x02, 0xaa, 0xbb]]
      ∧ ¬ Confines runsPast [[0x01, 0x02, 0xaa, 0xbb]] := by
  have isSpec : IsSpecSection runsPast 8 := ⟨by unfold IsCustom; decide, by decide⟩
  have first : readSection runsPast 8 = .ok (29, [[0x01, 0x02, 0xaa, 0xbb]]) := by
    have starts : payloadStart runsPast 8 = 25 := by decide
    have ends : sectionEnd runsPast 8 = 29 := by decide
    have read : runsPast.readUInt32BE 25 = .ok 4 := by decide
    have entry : runsPast.slice (25 + 4) (25 + 4 + (4 : Nat)) = [0x01, 0x02, 0xaa, 0xbb] := by
      decide
    rw [readSection_of_isSpecSection isSpec, starts, ends, readEntries_of_read (by decide) read,
      entry, readEntries, if_neg (by decide)]
    rfl
  have second : readSection runsPast 29 = .ok (33, []) := by decide
  constructor
  · have size : runsPast.length = 33 := by decide
    have starts
        : sectionStep runsPast .initial () = some (.reading 29 [[0x01, 0x02, 0xaa, 0xbb]]) := by
      rw [SectionReader.initial, sectionStep, size, if_pos (by decide), first]
      rfl
    have goesOn
        : sectionStep runsPast (.reading 29 [[0x01, 0x02, 0xaa, 0xbb]]) ()
          = some (.reading 33 [[0x01, 0x02, 0xaa, 0xbb]]) := by
      rw [sectionStep, size, if_pos (by decide), second]
      rfl
    have ends
        : sectionStep runsPast (.reading 33 [[0x01, 0x02, 0xaa, 0xbb]]) ()
          = some (.returned [[0x01, 0x02, 0xaa, 0xbb]]) := by
      rw [sectionStep, size, if_neg (by decide)]
    exact ⟨[(), (), ()], run_cons_iff.mpr ⟨_, starts, run_cons_iff.mpr ⟨_, goesOn,
      run_cons_iff.mpr ⟨_, ends, rfl⟩⟩⟩⟩
  · rintro ⟨_, noneRunsPast⟩
    have reached : IsReached runsPast 8 := ⟨.refl, by decide⟩
    apply (noneRunsPast 8 reached isSpec.1).2 isSpec
    have isPayload : payload runsPast 8 = [0x00, 0x00, 0x00, 0x04] := by decide
    rw [isPayload]
    exact .announcesMore (by decide)

end Axionvera.Codegen
