import Axionvera.Codegen.WasmParser
import Axionvera.Foundation.Termination
import Mathlib.Order.Interval.Finset.Basic
import Mathlib.Order.Interval.Set.Infinite
import Mathlib.Data.Int.Interval

/-! Reading the sections of a file ends exactly if no section that is reached leads back to itself.
Section sizes are read with a sign, so that a section can end before it begins.
-/

namespace Axionvera.Codegen

open Axionvera.Foundation
open Relation

/-- The section at an offset in the file is read without an error and ends at the next offset. -/
def LeadsTo (wasm : Buffer) (offset next : Int) : Prop :=
  offset < wasm.length ∧ ∃ entries, readSection wasm offset = .ok (next, entries)

/-- `readSpecSection` ends: it returns entries or throws. -/
def Terminates (wasm : Buffer) : Prop :=
  ∃ turns,
    (∃ entries, run (sectionStep wasm) .initial turns = some (.returned entries))
    ∨ ∃ error, run (sectionStep wasm) .initial turns = some (.threw error)

variable {wasm : Buffer}

-----------------------------------------------------------------------------------------
-- Offsets that can be reached
-----------------------------------------------------------------------------------------

/-- A size is a number of 32 bits with a sign, and at least one byte and at most one beyond the end
is read for it, by induction on the bytes.
-/
theorem readLEB128Loop_bounds (result : BitVec 32) (shift bytesRead : Nat) (bytes : List UInt8)
    : -2 ^ 31 ≤ (readLEB128Loop result shift bytesRead bytes).1
      ∧ (readLEB128Loop result shift bytesRead bytes).1 < 2 ^ 31
      ∧ bytesRead + 1 ≤ (readLEB128Loop result shift bytesRead bytes).2
      ∧ (readLEB128Loop result shift bytesRead bytes).2 ≤ bytesRead + bytes.length + 1 := by
  have signed (number : BitVec 32) : -2 ^ 31 ≤ number.toInt ∧ number.toInt < 2 ^ 31 :=
    ⟨BitVec.le_toInt number, BitVec.toInt_lt⟩
  induction bytes generalizing result shift bytesRead with
  | nil => exact ⟨(signed result).1, (signed result).2, le_rfl, le_rfl⟩
  | cons byte bytes ih =>
      rw [readLEB128Loop]
      split
      · exact ⟨(signed _).1, (signed _).2, le_rfl, by rw [List.length_cons]; omega⟩
      · obtain ⟨least, most, fewest, longest⟩ := ih
          (result ||| (byte &&& 0x7f).toBitVec.setWidth 32 <<< (shift % 32)) (shift + 7)
          (bytesRead + 1)
        refine ⟨least, most, by omega, ?_⟩
        rw [List.length_cons]
        omega

/-- The size and its length, read at an offset. Before the beginning of the file, the size is zero.
-/
theorem readLEB128_bounds (wasm : Buffer) (offset : Int)
    : (offset < 0 → readLEB128 wasm offset = (0, 1))
      ∧ -2 ^ 31 ≤ (readLEB128 wasm offset).1
      ∧ (readLEB128 wasm offset).1 < 2 ^ 31
      ∧ 1 ≤ (readLEB128 wasm offset).2
      ∧ (readLEB128 wasm offset).2 ≤ wasm.length + 1 := by
  have before (negative : offset < 0) : readLEB128 wasm offset = (0, 1) := by
    rw [readLEB128, Buffer.bytesFrom, if_pos negative]
    rfl
  obtain ⟨least, most, fewest, longest⟩ := readLEB128Loop_bounds 0 0 0 (wasm.bytesFrom offset)
  have within : (wasm.bytesFrom offset).length ≤ wasm.length := by
    unfold Buffer.bytesFrom
    split
    · exact Nat.zero_le _
    · rw [List.length_drop]
      omega
  refine ⟨before, least, most, ?_, ?_⟩ <;> unfold readLEB128 <;> omega

/-- A section ends where its size says. -/
theorem eq_of_leadsTo {offset next : Int} (leads : LeadsTo wasm offset next)
    : next = offset + 1 + (readLEB128 wasm (offset + 1)).2 + (readLEB128 wasm (offset + 1)).1 := by
  obtain ⟨_, entries, read⟩ := leads
  unfold readSection at read
  dsimp only at read
  split at read
  · split at read
    · cases found
        : readEntries wasm
            (offset + 1 + (readLEB128 wasm (offset + 1)).2 + (readLEB128 wasm (offset + 1)).1)
            (offset + 1 + (readLEB128 wasm (offset + 1)).2
              + (readLEB128 wasm (offset + 1 + (readLEB128 wasm (offset + 1)).2)).2
              + (readLEB128 wasm (offset + 1 + (readLEB128 wasm (offset + 1)).2)).1) with
      | error error =>
          rw [found] at read
          cases read
      | ok entries =>
          rw [found] at read
          cases read
          rfl
    · cases read
      rfl
  · cases read
    rfl

/-- Sections reach offsets in a fixed range only, by induction on the way. -/
theorem bounds_of_reflTransGen {offset : Int} (reached : ReflTransGen (LeadsTo wasm) 8 offset)
    : -2 ^ 31 ≤ offset ∧ offset ≤ 2 * wasm.length + 2 ^ 31 + 8 := by
  induction reached with
  | refl => omega
  | @tail before after _ leads ih =>
      have inFile := leads.1
      have isEnd := eq_of_leadsTo leads
      obtain ⟨isZero, least, most, fewest, longest⟩ := readLEB128_bounds wasm (before + 1)
      by_cases negative : before + 1 < 0
      · rw [isZero negative] at isEnd
        dsimp only at isEnd
        omega
      · omega

/-- Sections reach finitely many offsets. -/
theorem finite_reached (wasm : Buffer) : {offset | ReflTransGen (LeadsTo wasm) 8 offset}.Finite :=
  (Set.finite_Icc (-2 ^ 31 : Int) (2 * wasm.length + 2 ^ 31 + 8)).subset fun _ reached =>
    bounds_of_reflTransGen reached

-----------------------------------------------------------------------------------------
-- The run of the reader
-----------------------------------------------------------------------------------------

/-- From an offset from which every way on ends, the reader comes to its end, by induction on the
way.
-/
theorem terminates_of_ends {offset : Int} (ends : Ends (LeadsTo wasm) offset)
    (entries : List (List UInt8))
    : ∃ turns,
        (∃ all, run (sectionStep wasm) (.reading offset entries) turns = some (.returned all))
        ∨ ∃ error,
            run (sectionStep wasm) (.reading offset entries) turns = some (.threw error) := by
  induction ends generalizing entries with
  | intro offset _ ih =>
      by_cases inFile : offset < wasm.length
      · cases read : readSection wasm offset with
        | error error =>
            refine ⟨[()], .inr ⟨error, ?_⟩⟩
            simp [run, sectionStep, inFile, read]
        | ok section_ =>
            obtain ⟨next, found⟩ := section_
            obtain ⟨turns, later⟩ := ih next ⟨inFile, found, read⟩ (entries ++ found)
            have goesOn
                : run (sectionStep wasm) (.reading offset entries) (() :: turns)
                  = run (sectionStep wasm) (.reading next (entries ++ found)) turns := by
              simp [run, sectionStep, inFile, read]
            exact ⟨() :: turns, goesOn ▸ later⟩
      · refine ⟨[()], .inl ⟨entries, ?_⟩⟩
        simp [run, sectionStep, inFile]

/-- If the reader comes to its end from an offset, every way on from there ends, by induction on the
turns.
-/
theorem ends_of_run {offset : Int} {entries : List (List UInt8)} {turns : List Unit}
    {final : SectionReader}
    (reached : run (sectionStep wasm) (.reading offset entries) turns = some final)
    (ended : sectionStep wasm final () = none)
    : Ends (LeadsTo wasm) offset := by
  induction turns generalizing offset entries with
  | nil =>
      obtain rfl := Option.some.inj reached
      simp only [sectionStep] at ended
      split at ended
      · split at ended <;> cases ended
      · cases ended
  | cons turn turns ih =>
      obtain ⟨state, taken, later⟩ := run_cons_iff.mp reached
      refine ⟨_, fun next leads => ?_⟩
      obtain ⟨inFile, found, read⟩ := leads
      simp only [sectionStep, if_pos inFile, read] at taken
      obtain rfl := Option.some.inj taken
      exact ih later

/-- The reader comes to its end exactly if every way on from the first section ends. -/
theorem terminates_iff_ends : Terminates wasm ↔ Ends (LeadsTo wasm) 8 := by
  constructor
  · rintro ⟨turns, ⟨entries, reached⟩ | ⟨error, reached⟩⟩
    · exact ends_of_run reached rfl
    · exact ends_of_run reached rfl
  · exact fun ends => terminates_of_ends ends []

/-- The reader of a file comes to its end, with entries or an error, exactly if no section that is
reached from the first one leads back to itself. Witness: sections reach finitely many offsets.
-/
theorem terminates_iff_no_cycle (wasm : Buffer)
    : Terminates wasm
      ↔ ∀ offset,
          ReflTransGen (LeadsTo wasm) 8 offset → ¬ TransGen (LeadsTo wasm) offset offset :=
  terminates_iff_ends.trans (ends_iff_no_cycle (finite_reached wasm))

/-- A file with one section, whose size is read as minus six. -/
def backwards : Buffer :=
  [0x00, 0x61, 0x73, 0x6d, 0x01, 0x00, 0x00, 0x00, 0x01, 0xfa, 0xff, 0xff, 0xff, 0x0f]

/-- A section of size minus six ends where it begins, and the reader never comes to its end. -/
theorem not_terminates : ¬ Terminates backwards := by
  have leads : LeadsTo backwards 8 8 := ⟨by decide, [], by decide⟩
  exact fun terminates => not_ends_of_cycle (.single leads) (terminates_iff_ends.mp terminates)

end Axionvera.Codegen
