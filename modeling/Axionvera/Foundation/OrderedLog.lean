import Mathlib.Data.List.Nodup
import Mathlib.Data.List.Basic

/-! Logs that are read by rank ranges and by cursors naming the last entry already read. -/

namespace Axionvera.Foundation

/-- A list of entries in ascending rank order, each with a key of its own. -/
structure OrderedLog (ε κ : Type*) where
  entries : List ε
  rank : ε → Nat
  key : ε → κ
  ranked : entries.Pairwise (fun first second => rank first ≤ rank second)
  keyed : (entries.map key).Nodup

namespace OrderedLog

variable {ε κ : Type*} (log : OrderedLog ε κ)

/-- The entries whose rank lies between `low` and `high`. -/
def range (low high : Nat) : List ε :=
  log.entries.filter (fun entry => low ≤ log.rank entry && log.rank entry ≤ high)

/-- Entries of a range are entries of the log with a rank in the range. -/
theorem mem_range {low high : Nat} {entry : ε}
    : entry ∈ log.range low high
      ↔ entry ∈ log.entries ∧ low ≤ log.rank entry ∧ log.rank entry ≤ high := by
  simp [range]

variable [DecidableEq κ]

/-- The entries that follow the one named by the cursor; all of them without a cursor, and
none when no entry has that key.
-/
def after : Option κ → List ε
  | none => log.entries
  | some key => (log.entries.dropWhile (fun entry => log.key entry ≠ key)).tail

/-- The entries of a rank range that follow the cursor. -/
def window (low high : Nat) (cursor : Option κ) : List ε :=
  (log.after cursor).filter (fun entry => low ≤ log.rank entry && log.rank entry ≤ high)

/-- The entry follows the cursor. -/
def isAfter (cursor : Option κ) (entry : ε) : Bool :=
  log.key entry ∈ (log.after cursor).map log.key

/-- What follows a cursor is a suffix of the log, by the definition of `after`. -/
theorem after_suffix (cursor : Option κ) : log.after cursor <:+ log.entries := by
  cases cursor with
  | none => exact List.suffix_rfl
  | some key => exact (List.tail_suffix _).trans (List.dropWhile_suffix _)

/-- Dropping up to an entry stops at it when no earlier entry shares its key. -/
private theorem dropWhile_key {key : ε → κ} {before rest : List ε} {entry : ε}
    (unique : ((before ++ entry :: rest).map key).Nodup)
    : (before ++ entry :: rest).dropWhile (fun other => key other ≠ key entry)
      = entry :: rest := by
  induction before with
  | nil => simp
  | cons head tail ih =>
      simp only [List.cons_append, List.map_cons, List.nodup_cons] at unique
      have differs : key head ≠ key entry := by
        intro same
        exact unique.1 (by simp [same])
      simpa [differs] using ih unique.2

/-- A cursor naming an entry leads to the entries behind it, by uniqueness of keys. -/
theorem after_key {before rest : List ε} {entry : ε}
    (split : log.entries = before ++ entry :: rest)
    : log.after (some (log.key entry)) = rest := by
  have unique := log.keyed
  rw [split] at unique
  simp only [after, split, dropWhile_key unique, List.tail_cons]

/-- Entries behind a cursor still follow it after some of them have been passed. -/
theorem after_of_after {cursor : Option κ} {passed rest : List ε} {entry : ε}
    (split : log.after cursor = passed ++ entry :: rest)
    : log.after (some (log.key entry)) = rest := by
  obtain ⟨before, whole⟩ := log.after_suffix cursor
  have whole : log.entries = (before ++ passed) ++ entry :: rest := by
    rw [← whole, split, List.append_assoc]
  exact log.after_key whole

/-- An entry of the log follows a cursor exactly when it is listed behind it, because keys
identify entries.
-/
theorem isAfter_iff {cursor : Option κ} {entry : ε} (member : entry ∈ log.entries)
    : log.isAfter cursor entry = true ↔ entry ∈ log.after cursor := by
  simp only [isAfter, decide_eq_true_eq, List.mem_map]
  constructor
  · intro given
    obtain ⟨other, follows, same⟩ := given
    have present := (log.after_suffix cursor).subset follows
    exact (List.inj_on_of_nodup_map log.keyed present member same) ▸ follows
  · exact fun follows => ⟨entry, follows, rfl⟩

/-- Every entry of the log follows the empty cursor. -/
theorem isAfter_none {entry : ε} (member : entry ∈ log.entries) : log.isAfter none entry = true :=
  (log.isAfter_iff member).mpr member

/-- The entries of a duplicate-free list that lie in a suffix of it are that suffix. -/
private theorem filter_suffix {whole suffix : List ε} (isSuffix : suffix <:+ whole)
    (unique : whole.Nodup) (test : ε → Bool)
    (exact : ∀ entry ∈ whole, test entry = true ↔ entry ∈ suffix)
    : whole.filter test = suffix := by
  obtain ⟨before, rfl⟩ := isSuffix
  have separate := (List.nodup_append.mp unique).2.2
  have dropped : before.filter test = [] := by
    rw [List.filter_eq_nil_iff]
    intro entry member kept
    have inSuffix := (exact entry (List.mem_append_left _ member)).mp kept
    exact separate entry member entry inSuffix rfl
  have kept : suffix.filter test = suffix := by
    rw [List.filter_eq_self]
    intro entry member
    exact (exact entry (List.mem_append_right _ member)).mpr member
  rw [List.filter_append, dropped, kept, List.nil_append]

/-- A window is the part of its range that follows the cursor. -/
theorem window_eq_filter (low high : Nat) (cursor : Option κ)
    : log.window low high cursor = (log.range low high).filter (log.isAfter cursor) := by
  have whole : log.entries.filter (log.isAfter cursor) = log.after cursor :=
    filter_suffix (log.after_suffix cursor) (List.Nodup.of_map _ log.keyed) _
      (fun _ member => log.isAfter_iff member)
  rw [window, ← whole, range, List.filter_filter, List.filter_filter]
  simp only [Bool.and_comm]

/-- Entries of a window are entries of its range. -/
theorem mem_range_of_mem_window {low high : Nat} {cursor : Option κ} {entry : ε}
    (member : entry ∈ log.window low high cursor)
    : entry ∈ log.range low high := by
  rw [window_eq_filter] at member
  exact List.mem_of_mem_filter member

/-- A filtered list that starts with given entries comes from a list that starts with them
and their rejected neighbours, by induction on the list.
-/
private theorem filter_split {test : ε → Bool} {source page rest : List ε} {last : ε}
    (split : source.filter test = page ++ last :: rest)
    : ∃ passed remaining,
        source = passed ++ last :: remaining ∧ remaining.filter test = rest := by
  obtain ⟨left, right, rfl, _, kept⟩ := List.filter_eq_append_iff.mp split
  obtain ⟨skipped, remaining, rfl, _, _, rest⟩ := List.filter_eq_cons_iff.mp kept
  exact ⟨left ++ skipped, remaining, by simp, rest⟩

/-- Moving the cursor to the last entry of a page leaves the rest of the window. The page
may be one of a narrower window, so the wider window can list other entries before it.
-/
theorem window_advance {low high : Nat} {cursor : Option κ} {page rest : List ε} {last : ε}
    (split : log.window low high cursor = page ++ last :: rest)
    : log.window low high (some (log.key last)) = rest := by
  obtain ⟨passed, remaining, source, rest⟩ := filter_split split
  rw [window, log.after_of_after source, rest]

/-- In a list sorted by rank, the entries up to a middle rank come first, by induction on
the list.
-/
private theorem filter_halves {rank : ε → Nat} {source : List ε} {low middle high : Nat}
    (ranked : source.Pairwise (fun first second => rank first ≤ rank second))
    (lower : low ≤ middle + 1) (upper : middle ≤ high)
    : source.filter (fun entry => low ≤ rank entry && rank entry ≤ high)
      = source.filter (fun entry => low ≤ rank entry && rank entry ≤ middle)
        ++ source.filter (fun entry => middle + 1 ≤ rank entry && rank entry ≤ high) := by
  induction source with
  | nil => rfl
  | cons head tail ih =>
      obtain ⟨first, rest⟩ := List.pairwise_cons.mp ranked
      have halves := ih rest
      by_cases upperHalf : middle + 1 ≤ rank head
      · -- Everything from here on lies above the middle, so the lower half is empty.
        have noLower
            : tail.filter (fun entry => low ≤ rank entry && rank entry ≤ middle) = [] := by
          rw [List.filter_eq_nil_iff]
          intro entry member inside
          have above := first entry member
          simp only [Bool.and_eq_true, decide_eq_true_eq] at inside
          omega
        rw [noLower, List.nil_append] at halves
        have notLower : ¬ rank head ≤ middle := by omega
        have above : low ≤ rank head := by omega
        simp only [List.filter_cons, noLower, notLower, upperHalf, above, halves, decide_true,
          decide_false, Bool.true_and, Bool.and_false, Bool.false_eq_true, ↓reduceIte,
          List.nil_append]
      · have below : rank head ≤ middle := by omega
        have within : rank head ≤ high := by omega
        by_cases inside : low ≤ rank head
          <;> simp only [List.filter_cons, below, within, inside, upperHalf, halves, decide_true,
            decide_false, Bool.and_true, Bool.false_eq_true, ↓reduceIte,
            List.cons_append]

omit [DecidableEq κ] in
/-- A range is its lower half followed by its upper half. -/
theorem range_halves {low middle high : Nat} (lower : low ≤ middle + 1) (upper : middle ≤ high)
    : log.range low high = log.range low middle ++ log.range (middle + 1) high :=
  filter_halves log.ranked lower upper

/-- A window is its lower half followed by its upper half. -/
theorem window_halves {low middle high : Nat} (cursor : Option κ)
    (lower : low ≤ middle + 1) (upper : middle ≤ high)
    : log.window low high cursor
      = log.window low middle cursor ++ log.window (middle + 1) high cursor :=
  filter_halves (log.ranked.sublist (log.after_suffix cursor).sublist) lower upper

end OrderedLog

end Axionvera.Foundation
