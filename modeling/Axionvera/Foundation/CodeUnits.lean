import Mathlib.Data.List.Basic

/-! Texts as JavaScript has them: sequences of units of UTF-16, in which surrogates need not come in
pairs.
-/

namespace Axionvera.Foundation

/-- The units of a text. -/
abbrev CodeUnits := List UInt16

/-- The units of a code point: itself, or two surrogates. -/
def unitsOfPoint (point : Nat) : CodeUnits :=
  if point < 0x10000 then [point.toUInt16]
  else
    let offset := point - 0x10000
    [(0xD800 + offset / 0x400).toUInt16, (0xDC00 + offset % 0x400).toUInt16]

/-- The units of a text of characters. -/
def codeUnits (text : String) : CodeUnits :=
  text.toList.flatMap fun character => unitsOfPoint character.toNat

/-- `character.charCodeAt(0)`, for a character with a single unit. -/
def unitOf (character : Char) : UInt16 :=
  character.toNat.toUInt16

/-- Whether a unit is one of those from one character to another. -/
def isBetween (first last : Char) (unit : UInt16) : Bool :=
  unitOf first ≤ unit && unit ≤ unitOf last

/-- The first of two surrogates. -/
def isHighSurrogate (unit : UInt16) : Bool :=
  0xD800 ≤ unit.toNat && unit.toNat < 0xDC00

/-- The second of two surrogates. -/
def isLowSurrogate (unit : UInt16) : Bool :=
  0xDC00 ≤ unit.toNat && unit.toNat < 0xE000

/-- The code points of a text. A surrogate without its partner counts as one. -/
def codePoints : CodeUnits → List Nat
  | [] => []
  | [unit] => [unit.toNat]
  | unit :: next :: rest =>
      if isHighSurrogate unit && isLowSurrogate next then
        (0x10000 + (unit.toNat - 0xD800) * 0x400 + (next.toNat - 0xDC00)) :: codePoints rest
      else unit.toNat :: codePoints (next :: rest)

/-- A code point in UTF-8. -/
def utf8OfPoint (point : Nat) : List UInt8 :=
  let trailing (place : Nat) : UInt8 := (0x80 + point / place % 0x40).toUInt8
  if point < 0x80 then [point.toUInt8]
  else if point < 0x800 then [(0xC0 + point / 0x40).toUInt8, trailing 1]
  else if point < 0x10000 then [(0xE0 + point / 0x1000).toUInt8, trailing 0x40, trailing 1]
  else [(0xF0 + point / 0x40000).toUInt8, trailing 0x1000, trailing 0x40, trailing 1]

/-- `new TextEncoder().encode(text)`, where a surrogate without its partner is replaced. -/
def encodeText (text : CodeUnits) : List UInt8 :=
  (codePoints text).flatMap fun point =>
    utf8OfPoint (if 0xD800 ≤ point && point < 0xE000 then 0xFFFD else point)

/-- The encoding takes one to four bytes for a character. -/
example
    : encodeText (codeUnits "a§…🂡" ++ [0xD83C])
      = [0x61, 0xC2, 0xA7, 0xE2, 0x80, 0xA6, 0xF0, 0x9F, 0x82, 0xA1, 0xEF, 0xBF, 0xBD] := by
  decide

variable {text : CodeUnits}

/-- If all code points are of ASCII, they are the units, by induction along the text. -/
theorem codePoints_eq_of_ascii (ascii : ∀ unit ∈ text, unit.toNat < 128)
    : codePoints text = text.map UInt16.toNat := by
  induction text using codePoints.induct with
  | case1 => rfl
  | case2 unit => rfl
  | case3 unit next rest isPair _ =>
      have small := ascii unit List.mem_cons_self
      simp only [isHighSurrogate, Bool.and_eq_true, decide_eq_true_eq] at isPair
      omega
  | case4 unit next rest noPair ih =>
      rw [codePoints, if_neg noPair, ih fun other member => ascii other (.tail _ member)]
      rfl

/-- The units are of ASCII if all code points are, by induction along the text. -/
theorem ascii_of_codePoints (ascii : ∀ point ∈ codePoints text, point < 128)
    : ∀ unit ∈ text, unit.toNat < 128 := by
  induction text using codePoints.induct with
  | case1 => nofun
  | case2 unit => simpa [codePoints] using ascii
  | case3 unit next rest isPair _ =>
      rw [codePoints, if_pos isPair] at ascii
      have small := ascii _ List.mem_cons_self
      omega
  | case4 unit next rest noPair ih =>
      rw [codePoints, if_neg noPair] at ascii
      obtain ⟨first, others⟩ := List.forall_mem_cons.mp ascii
      exact List.forall_mem_cons.mpr ⟨first, ih others⟩

/-- A code point of ASCII is its only unit. -/
theorem unitsOfPoint_of_ascii {point : Nat} (ascii : point < 128)
    : unitsOfPoint point = [point.toUInt16] :=
  if_pos (by omega)

/-- A text of ASCII has one unit for each character, by induction on it. -/
theorem codeUnits_of_ascii {characters : List Char}
    (ascii : ∀ character ∈ characters, character.toNat < 128)
    : codeUnits (String.ofList characters) = characters.map unitOf := by
  rw [codeUnits, String.toList_ofList]
  induction characters with
  | nil => rfl
  | cons character rest ih =>
      obtain ⟨first, others⟩ := List.forall_mem_cons.mp ascii
      rw [List.flatMap_cons, unitsOfPoint_of_ascii first, ih others]
      rfl

/-- A code point beyond ASCII has a unit beyond ASCII. -/
theorem exists_mem_unitsOfPoint {point : Nat} (beyond : 128 ≤ point)
    : ∃ unit ∈ unitsOfPoint point, 128 ≤ unit.toNat := by
  unfold unitsOfPoint
  split
  · refine ⟨_, List.mem_singleton_self _, ?_⟩
    rw [Nat.toUInt16, UInt16.toNat_ofNat']
    omega
  -- The second surrogate is large whatever the code point.
  · refine ⟨_, .tail _ (List.mem_singleton_self _), ?_⟩
    rw [Nat.toUInt16, UInt16.toNat_ofNat']
    omega

end Axionvera.Foundation
