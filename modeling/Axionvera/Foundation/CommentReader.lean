import Mathlib.Data.List.Basic
import Mathlib.Tactic.SplitIfs

/-! Programs without their comments, for a language with line comments, block comments and three
kinds of quotes. A comment counts as a blank, and blanks in a row count as one.
-/

namespace Axionvera.Foundation

/-- The quotes around a text. Only templates go on in the next line. -/
inductive Quote where
  | single
  | double
  | template
  deriving DecidableEq

/-- The character of a quote. -/
def Quote.character : Quote → Char
  | .single => '\''
  | .double => '"'
  | .template => '\x60'

/-- The quote of a character. -/
def quote? (character : Char) : Option Quote :=
  if character = '\'' then some .single
  else if character = '"' then some .double
  else if character = '\x60' then some .template
  else none

/-- Where a reader is: in code, behind a slash that may start a comment, in a comment (behind a star
that may end it), or in quotes (behind a backslash).
-/
inductive ReadingMode where
  | code
  | slash
  | lineComment
  | blockComment
  | star
  | quoted (quote : Quote)
  | escaped (quote : Quote)
  deriving DecidableEq

/-- Characters that are blank: the ends of a line, tabulators and spaces of all kinds. -/
def isBlank (character : Char) : Bool :=
  [0x09, 0x0a, 0x0b, 0x0c, 0x0d, 0x20, 0xa0, 0x1680, 0x2000, 0x2001, 0x2002, 0x2003, 0x2004, 0x2005,
    0x2006, 0x2007, 0x2008, 0x2009, 0x200a, 0x2028, 0x2029, 0x202f, 0x205f, 0x3000, 0xfeff].contains
    character.toNat

/-- Characters that end a line, and so a line comment. -/
def endsLine (character : Char) : Bool :=
  [0x0a, 0x0d, 0x2028, 0x2029].contains character.toNat

/-- A reader of a program: where it is, and whether a blank has been left out. -/
structure CommentReader where
  mode : ReadingMode
  blank : Bool
  deriving DecidableEq

namespace CommentReader

/-- The reader in code behind a blank. -/
def behindBlank : CommentReader :=
  { mode := .code, blank := true }

/-- Keep a character of the code, behind one blank for all that have been left out. -/
def keep (reader : CommentReader) (mode : ReadingMode) (character : Char)
    : CommentReader × List Char :=
  ({ mode, blank := false }, if reader.blank then [' ', character] else [character])

/-- Read a character in code. -/
def readCode (reader : CommentReader) (character : Char) : CommentReader × List Char :=
  if isBlank character then (behindBlank, [])
  else if character = '/' then ({ reader with mode := .slash }, [])
  else reader.keep ((quote? character).elim .code .quoted) character

/-- Read a character: where the reader is then, and what it keeps. -/
def readCharacter (reader : CommentReader) (character : Char) : CommentReader × List Char :=
  match reader.mode with
  | .code => reader.readCode character
  | .slash =>
      if character = '/' then ({ reader with mode := .lineComment }, [])
      else if character = '*' then ({ reader with mode := .blockComment }, [])
      else
        let slash := reader.keep .code '/'
        let next := slash.1.readCode character
        (next.1, slash.2 ++ next.2)
  | .lineComment => (if endsLine character then behindBlank else reader, [])
  | .blockComment => ({ reader with mode := if character = '*' then .star else .blockComment }, [])
  | .star =>
      if character = '/' then (behindBlank, [])
      else ({ reader with mode := if character = '*' then .star else .blockComment }, [])
  | .quoted quote =>
      let mode :=
        if character = '\\' then .escaped quote
        else if character = quote.character then .code
        else if (character = '\n' || character = '\r') && quote ≠ .template then .code
        else .quoted quote
      ({ mode, blank := false }, [character])
  | .escaped quote => ({ mode := .quoted quote, blank := false }, [character])

/-- Read a text: where the reader is then, and what it keeps. -/
def read (reader : CommentReader) : List Char → CommentReader × List Char
  | [] => (reader, [])
  | character :: rest =>
      let next := reader.readCharacter character
      let later := next.1.read rest
      (later.1, next.2 ++ later.2)

end CommentReader

/-- A program without its comments, with one blank for comments and blanks in a row. -/
def removeComments (program : List Char) : List Char :=
  (CommentReader.behindBlank.read program).2

/-- How many characters are not blank. -/
def weight (text : List Char) : Nat :=
  (text.filter fun character => !isBlank character).length

namespace CommentReader

variable {reader : CommentReader}

/-- A text is read after another one where this one ends. -/
theorem read_append (front back : List Char)
    : reader.read (front ++ back)
      = (((reader.read front).1.read back).1,
          (reader.read front).2 ++ ((reader.read front).1.read back).2) := by
  induction front generalizing reader with
  | nil => rfl
  | cons character rest ih =>
      rw [List.cons_append, read, read, ih]
      simp only [List.append_assoc]

/-- The reader is in code or in quotes. -/
def IsSettled (reader : CommentReader) : Prop :=
  reader.mode = .code ∨ ∃ quote, reader.mode = .quoted quote

/-- A character that is kept weighs as much as it does with a blank in front of it. -/
theorem weight_keep (mode : ReadingMode) (character : Char)
    : weight (reader.keep mode character).2 = weight [character] := by
  unfold keep
  cases reader.blank <;> rfl

/-- Texts in a row weigh as much as all of them. -/
theorem weight_append (front back : List Char)
    : weight (front ++ back) = weight front + weight back := by
  rw [weight, List.filter_append, List.length_append]
  rfl

/-- A character that starts no comment and escapes nothing is kept in code and in quotes, unless it
is blank.
-/
theorem readCharacter_of_settled {character : Char} (settled : reader.IsSettled)
    (noSlash : character ≠ '/') (noEscape : character ≠ '\\')
    : (reader.readCharacter character).1.IsSettled
      ∧ weight (reader.readCharacter character).2 = weight [character] := by
  rcases settled with inCode | ⟨quote, inQuotes⟩
  · rw [readCharacter, inCode]
    change (reader.readCode character).1.IsSettled ∧ weight (reader.readCode character).2 = _
    rw [readCode]
    split
    · rename_i blank
      refine ⟨.inl rfl, ?_⟩
      simp [weight, blank]
    · refine ⟨?_, weight_keep _ character⟩
      cases quote? character with
      | none => exact .inl rfl
      | some quote => exact .inr ⟨quote, rfl⟩
  · rw [readCharacter, inQuotes]
    refine ⟨?_, rfl⟩
    dsimp only
    rw [if_neg noEscape]
    split
    · exact .inl rfl
    · split
      · exact .inl rfl
      · exact .inr ⟨quote, rfl⟩

/-- A text without slashes and backslashes is kept in code and in quotes up to blanks, by induction
on it.
-/
theorem read_of_settled {text : List Char} (settled : reader.IsSettled)
    (open_ : ∀ character ∈ text, character ≠ '/' ∧ character ≠ '\\')
    : (reader.read text).1.IsSettled ∧ weight (reader.read text).2 = weight text := by
  induction text generalizing reader with
  | nil => exact ⟨settled, rfl⟩
  | cons character rest ih =>
      obtain ⟨first, others⟩ := List.forall_mem_cons.mp open_
      obtain ⟨nextSettled, kept⟩ := readCharacter_of_settled settled first.1 first.2
      obtain ⟨finalSettled, later⟩ := ih nextSettled others
      refine ⟨finalSettled, ?_⟩
      rw [read, weight_append, kept, later, ← weight_append]
      rfl

/-- A comment that is closed in a line of its own leaves the reader in code or in quotes. -/
theorem isSettled_of_closed (front : List Char)
    : (reader.read (front ++ [' ', '*', '/', '\n'])).1.IsSettled := by
  rw [read_append]
  generalize (reader.read front).1 = reader
  obtain ⟨mode, blank⟩ := reader
  cases mode with
  | quoted quote | escaped quote =>
      cases quote with
      | template => exact .inr ⟨.template, rfl⟩
      | single | double => exact .inl rfl
  | code | slash | lineComment | blockComment | star => exact .inl rfl

/-- The reader is in code or in a comment. -/
def IsOutsideQuotes (reader : CommentReader) : Prop :=
  (∀ quote, reader.mode ≠ .quoted quote) ∧ ∀ quote, reader.mode ≠ .escaped quote

/-- A character of the code that weighs nothing is blank or may start a comment. -/
theorem readCode_of_weightless {character : Char}
    (weightless : weight (reader.readCode character).2 = 0)
    : (reader.readCode character).2 = []
      ∧ (reader.readCode character = (behindBlank, [])
          ∨ reader.readCode character = ({ reader with mode := .slash }, [])) := by
  unfold readCode at weightless ⊢
  split at weightless
  · rename_i blank
    rw [if_pos blank]
    exact ⟨rfl, .inl rfl⟩
  · rename_i notBlank
    rw [if_neg notBlank]
    split at weightless
    · rename_i slash
      rw [if_pos slash]
      exact ⟨rfl, .inr rfl⟩
    · rw [weight_keep] at weightless
      simp [weight, notBlank] at weightless

/-- Outside quotes, a character that weighs nothing is not kept, and leads to no quotes. -/
theorem readCharacter_of_weightless {character : Char} (outside : reader.IsOutsideQuotes)
    (behind : reader.blank = true) (weightless : weight (reader.readCharacter character).2 = 0)
    : (reader.readCharacter character).2 = []
      ∧ (reader.readCharacter character).1.IsOutsideQuotes
      ∧ (reader.readCharacter character).1.blank = true := by
  obtain ⟨mode, blank⟩ := reader
  obtain rfl : blank = true := behind
  cases mode with
  | code =>
      change weight (readCode _ character).2 = 0 at weightless
      change (readCode _ character).2 = [] ∧ (readCode _ character).1.IsOutsideQuotes
        ∧ (readCode _ character).1.blank = true
      obtain ⟨nothing, next | next⟩ := readCode_of_weightless weightless
      · rw [next]
        exact ⟨rfl, ⟨nofun, nofun⟩, rfl⟩
      · rw [next]
        exact ⟨rfl, ⟨nofun, nofun⟩, rfl⟩
  | slash =>
      unfold readCharacter at weightless ⊢
      dsimp only at weightless ⊢
      split at weightless
      · rename_i isLine
        rw [if_pos isLine]
        exact ⟨rfl, ⟨nofun, nofun⟩, rfl⟩
      · rename_i notLine
        rw [if_neg notLine]
        split at weightless
        · rename_i isBlock
          rw [if_pos isBlock]
          exact ⟨rfl, ⟨nofun, nofun⟩, rfl⟩
        · -- The slash itself is kept.
          rw [weight_append, weight_keep] at weightless
          have one : weight ['/'] = 1 := rfl
          omega
  | lineComment =>
      unfold readCharacter
      dsimp only
      split <;> exact ⟨rfl, ⟨nofun, nofun⟩, rfl⟩
  | blockComment =>
      unfold readCharacter
      dsimp only
      split <;> exact ⟨rfl, ⟨nofun, nofun⟩, rfl⟩
  | star =>
      unfold readCharacter
      dsimp only
      split
      · exact ⟨rfl, ⟨nofun, nofun⟩, rfl⟩
      · split <;> exact ⟨rfl, ⟨nofun, nofun⟩, rfl⟩
  | quoted quote => exact absurd rfl (outside.1 quote)
  | escaped quote => exact absurd rfl (outside.2 quote)

/-- Outside quotes, a text that weighs nothing is not kept, and leads to no quotes, by induction on
it.
-/
theorem read_of_weightless {text : List Char} (outside : reader.IsOutsideQuotes)
    (behind : reader.blank = true) (weightless : weight (reader.read text).2 = 0)
    : (reader.read text).2 = []
      ∧ (reader.read text).1.IsOutsideQuotes
      ∧ (reader.read text).1.blank = true := by
  induction text generalizing reader with
  | nil => exact ⟨rfl, outside, behind⟩
  | cons character rest ih =>
      rw [read, weight_append] at weightless
      obtain ⟨first, later⟩ := Nat.add_eq_zero_iff.mp weightless
      obtain ⟨nothing, nextOutside, nextBehind⟩ :=
        readCharacter_of_weightless outside behind first
      obtain ⟨nothingLater, finalOutside, finalBehind⟩ := ih nextOutside nextBehind later
      rw [read, nothing, nothingLater]
      exact ⟨rfl, finalOutside, finalBehind⟩

end CommentReader

-----------------------------------------------------------------------------------------
-- Plain texts
-----------------------------------------------------------------------------------------

/-- The character is neither a slash nor a backslash nor a quote. -/
def isPlainCharacter (character : Char) : Bool :=
  character ≠ '/' && character ≠ '\\' && (quote? character).isNone

/-- The text has neither slashes nor backslashes nor quotes. -/
def IsPlain (text : List Char) : Prop :=
  ∀ character ∈ text, isPlainCharacter character = true

/-- Whether a text is plain can be computed. -/
instance (text : List Char) : Decidable (IsPlain text) :=
  List.decidableBAll _ text

/-- The characters that are not plain. -/
theorem isPlain_iff {character : Char}
    : isPlainCharacter character = true ↔ character ∉ ['/', '\\', '\'', '"', '\x60'] := by
  have noQuote : (quote? character).isNone = true ↔ character ∉ ['\'', '"', '\x60'] := by
    rw [quote?]
    split_ifs <;> simp_all
  rw [isPlainCharacter, Bool.and_eq_true, Bool.and_eq_true, noQuote]
  simp [and_assoc]

/-- Texts in a row are plain if all of them are. -/
theorem IsPlain.append {front back : List Char} (frontPlain : IsPlain front)
    (backPlain : IsPlain back)
    : IsPlain (front ++ back) :=
  List.forall_mem_append.mpr ⟨frontPlain, backPlain⟩

/-- Texts in a row are plain exactly if all of them are. -/
theorem isPlain_append {front back : List Char}
    : IsPlain (front ++ back) ↔ IsPlain front ∧ IsPlain back :=
  List.forall_mem_append

/-- A plain text starts no comments and escapes nothing. -/
theorem IsPlain.noSlash {text : List Char} (plain : IsPlain text)
    : ∀ character ∈ text, character ≠ '/' ∧ character ≠ '\\' := by
  intro character member
  have isPlain := plain character member
  simp only [isPlainCharacter, ne_eq, decide_not, Bool.and_eq_true, Bool.not_eq_true',
    decide_eq_false_iff_not] at isPlain
  exact isPlain.1

/-- A plain text in code leads to code, by induction on it. -/
theorem mode_of_plain {reader : CommentReader} {text : List Char} (inCode : reader.mode = .code)
    (plain : IsPlain text)
    : (reader.read text).1.mode = .code := by
  induction text generalizing reader with
  | nil => exact inCode
  | cons character rest ih =>
      obtain ⟨first, others⟩ := List.forall_mem_cons.mp plain
      apply ih ?_ others
      rw [CommentReader.readCharacter, inCode]
      change (reader.readCode character).1.mode = .code
      simp only [isPlainCharacter, ne_eq, decide_not, Bool.and_eq_true, Bool.not_eq_true',
        decide_eq_false_iff_not, Option.isNone_iff_eq_none] at first
      rw [CommentReader.readCode, if_neg first.1.1, first.2]
      split <;> rfl

/-- A text without double quotes, backslashes and ends of lines stays within double quotes, by
induction on it.
-/
theorem mode_of_quoted {reader : CommentReader} {text : List Char}
    (inQuotes : reader.mode = .quoted .double)
    (within : ∀ character ∈ text, character ∉ ['"', '\\', '\n', '\r'])
    : (reader.read text).1.mode = .quoted .double := by
  induction text generalizing reader with
  | nil => exact inQuotes
  | cons character rest ih =>
      obtain ⟨first, others⟩ := List.forall_mem_cons.mp within
      apply ih ?_ others
      simp only [List.mem_cons, List.not_mem_nil, or_false, not_or] at first
      obtain ⟨noQuote, noEscape, noLine, noReturn⟩ := first
      rw [CommentReader.readCharacter, inQuotes]
      dsimp only
      rw [if_neg noEscape, if_neg (show character ≠ Quote.double.character from noQuote), if_neg]
      simp [noLine, noReturn]

/-- A text in double quotes in code leads to code. -/
theorem mode_of_doubleQuoted {reader : CommentReader} {text : List Char}
    (inCode : reader.mode = .code)
    (within : ∀ character ∈ text, character ∉ ['"', '\\', '\n', '\r'])
    : (reader.read ('"' :: (text ++ ['"']))).1.mode = .code := by
  rw [CommentReader.read, CommentReader.read_append]
  have opened : (reader.readCharacter '"').1.mode = .quoted .double := by
    rw [CommentReader.readCharacter, inCode]
    rfl
  have inQuotes := mode_of_quoted opened within
  generalize ((reader.readCharacter '"').1.read text).1 = final at inQuotes ⊢
  dsimp only
  rw [CommentReader.read, CommentReader.read, CommentReader.readCharacter, inQuotes]
  rfl

/-- A blank in code leads behind a blank. -/
theorem behindBlank_of_newline {reader : CommentReader} {text : List Char}
    (inCode : (reader.read text).1.mode = .code)
    : (reader.read (text ++ ['\n'])).1 = CommentReader.behindBlank := by
  rw [CommentReader.read_append]
  generalize (reader.read text).1 = final at inCode ⊢
  dsimp only
  rw [CommentReader.read, CommentReader.read, CommentReader.readCharacter, inCode]
  rfl

-----------------------------------------------------------------------------------------
-- Programs with comments in them
-----------------------------------------------------------------------------------------

open CommentReader

/-- A part of a program: a comment, or what is meant to be one, and the code behind it. -/
structure ProgramPart where
  comment : List Char
  code : List Char

/-- The program of its parts. -/
def programOf (parts : List ProgramPart) : List Char :=
  parts.flatMap fun part => part.comment ++ part.code

/-- Nothing but comments and blanks is read. -/
def ReadsAway (text : List Char) : Prop :=
  behindBlank.read text = (behindBlank, [])

/-- There is no comment, or it is closed at the end of a line. -/
def IsClosed (comment : List Char) : Prop :=
  comment = [] ∨ ∃ front, comment = front ++ [' ', '*', '/', '\n']

/-- The code starts no comments and escapes nothing, and has a blank at its end. -/
def IsSelfContained (code : List Char) : Prop :=
  (behindBlank.read code).1 = behindBlank
  ∧ ∀ character ∈ code, character ≠ '/' ∧ character ≠ '\\'

/-- The weight of the code of parts of a program. -/
def codeWeight (parts : List ProgramPart) : Nat :=
  weight (parts.flatMap (·.code))

variable {reader : CommentReader} {parts others : List ProgramPart}

/-- Nothing but comments and blanks is read exactly if what is kept weighs nothing. -/
theorem readsAway_iff {comment : List Char} (closed : IsClosed comment)
    : ReadsAway comment ↔ weight (behindBlank.read comment).2 = 0 := by
  constructor
  · intro readsAway
    rw [readsAway]
    rfl
  · intro weightless
    rcases closed with rfl | ⟨front, rfl⟩
    · rfl
    · have starts : behindBlank.IsOutsideQuotes := ⟨nofun, nofun⟩
      obtain ⟨nothing, outside, behind⟩ := read_of_weightless starts rfl weightless
      have settled : (behindBlank.read (front ++ [' ', '*', '/', '\n'])).1.IsSettled :=
        isSettled_of_closed front
      refine Prod.ext ?_ nothing
      generalize (behindBlank.read (front ++ [' ', '*', '/', '\n'])).1 = final at *
      obtain ⟨mode, blank⟩ := final
      obtain rfl : blank = true := behind
      rcases settled with inCode | ⟨quote, inQuotes⟩
      · obtain rfl : mode = .code := inCode
        rfl
      · exact absurd inQuotes (outside.1 quote)

/-- What is read of the first part of a program, and then of the others. -/
theorem read_programOf_cons (part : ProgramPart) (parts : List ProgramPart)
    : reader.read (programOf (part :: parts))
      = let commented := reader.read part.comment
        let coded := commented.1.read part.code
        let later := coded.1.read (programOf parts)
        (later.1, commented.2 ++ (coded.2 ++ later.2)) := by
  rw [programOf, List.flatMap_cons, List.append_assoc, read_append, read_append]
  rfl

/-- From code or quotes, a comment leads to code or quotes. -/
theorem isSettled_of_isClosed {comment : List Char} (settled : reader.IsSettled)
    (closed : IsClosed comment)
    : (reader.read comment).1.IsSettled := by
  rcases closed with rfl | ⟨front, rfl⟩
  · exact settled
  · exact isSettled_of_closed front

/-- A program keeps at least its code, by induction on its parts. -/
theorem codeWeight_le (settled : reader.IsSettled) (closed : ∀ part ∈ parts, IsClosed part.comment)
    (selfContained : ∀ part ∈ parts, IsSelfContained part.code)
    : codeWeight parts ≤ weight (reader.read (programOf parts)).2 := by
  induction parts generalizing reader with
  | nil => exact Nat.zero_le _
  | cons part parts ih =>
      obtain ⟨firstClosed, laterClosed⟩ := List.forall_mem_cons.mp closed
      obtain ⟨first, later⟩ := List.forall_mem_cons.mp selfContained
      have commentSettled := isSettled_of_isClosed settled firstClosed
      obtain ⟨codeSettled, kept⟩ := read_of_settled commentSettled first.2
      have rest := ih codeSettled laterClosed later
      rw [read_programOf_cons]
      simp only [weight_append, kept, codeWeight, List.flatMap_cons] at rest ⊢
      omega

/-- Comments that are read away leave the code alone, and so programs with the same code the same,
by induction on the parts.
-/
theorem read_programOf_eq (sameCode : parts.map (·.code) = others.map (·.code))
    (selfContained : ∀ part ∈ parts, IsSelfContained part.code)
    (readAway : ∀ part ∈ parts, ReadsAway part.comment)
    (othersReadAway : ∀ other ∈ others, ReadsAway other.comment)
    : behindBlank.read (programOf parts) = behindBlank.read (programOf others) := by
  induction parts generalizing others with
  | nil =>
      rw [List.map_nil, eq_comm, List.map_eq_nil_iff] at sameCode
      rw [sameCode]
  | cons part parts ih =>
      obtain ⟨other, rest, rfl⟩ := List.exists_cons_of_ne_nil (l := others) (by
        rintro rfl
        cases sameCode)
      obtain ⟨same, sameLater⟩ := List.cons.inj sameCode
      obtain ⟨first, later⟩ := List.forall_mem_cons.mp selfContained
      obtain ⟨firstAway, laterAway⟩ := List.forall_mem_cons.mp readAway
      obtain ⟨otherAway, restAway⟩ := List.forall_mem_cons.mp othersReadAway
      have behind : behindBlank.read part.code = behindBlank.read other.code :=
        congrArg behindBlank.read same
      rw [read_programOf_cons, read_programOf_cons, firstAway, otherAway]
      dsimp only
      rw [← behind, first.1, ih sameLater later laterAway restAway]

/-- A program whose comments are read away keeps its code and no more, by induction on its parts. -/
theorem weight_eq_codeWeight (selfContained : ∀ part ∈ parts, IsSelfContained part.code)
    (readAway : ∀ part ∈ parts, ReadsAway part.comment)
    : weight (behindBlank.read (programOf parts)).2 = codeWeight parts := by
  induction parts with
  | nil => rfl
  | cons part parts ih =>
      obtain ⟨first, later⟩ := List.forall_mem_cons.mp selfContained
      obtain ⟨firstAway, laterAway⟩ := List.forall_mem_cons.mp readAway
      have kept := (read_of_settled (.inl rfl : behindBlank.IsSettled) first.2).2
      rw [read_programOf_cons, firstAway]
      simp only [weight_append, kept, first.1, ih later laterAway, codeWeight, List.flatMap_cons]
      exact Nat.zero_add _

/-- If a program keeps no more than its code, its comments are read away, by induction on its parts:
a comment that is not read away adds to the code, and nothing takes away from it.
-/
theorem readsAway_of_weight_eq (closed : ∀ part ∈ parts, IsClosed part.comment)
    (selfContained : ∀ part ∈ parts, IsSelfContained part.code)
    (noMore : weight (behindBlank.read (programOf parts)).2 = codeWeight parts)
    : ∀ part ∈ parts, ReadsAway part.comment := by
  induction parts with
  | nil => nofun
  | cons part parts ih =>
      obtain ⟨firstClosed, laterClosed⟩ := List.forall_mem_cons.mp closed
      obtain ⟨first, later⟩ := List.forall_mem_cons.mp selfContained
      have commentSettled := isSettled_of_isClosed (.inl rfl : behindBlank.IsSettled) firstClosed
      obtain ⟨codeSettled, kept⟩ := read_of_settled commentSettled first.2
      have rest := codeWeight_le codeSettled laterClosed later
      rw [read_programOf_cons] at noMore
      simp only [weight_append, kept, codeWeight, List.flatMap_cons] at noMore rest
      have readAway : ReadsAway part.comment := (readsAway_iff firstClosed).mpr (by omega)
      refine List.forall_mem_cons.mpr ⟨readAway, ih laterClosed later ?_⟩
      have nothing : weight [] = 0 := rfl
      rw [readAway] at noMore
      dsimp only at noMore
      rw [first.1, nothing] at noMore
      rw [codeWeight]
      omega

/-- Of two programs with the same code, if the comments of one are read away, both are the same
without comments exactly if those of the other are read away as well.
-/
theorem removeComments_eq_iff {front : List Char}
    (starts : (behindBlank.read front).1 = behindBlank)
    (sameCode : parts.map (·.code) = others.map (·.code))
    (selfContained : ∀ part ∈ parts, IsSelfContained part.code)
    (closed : ∀ part ∈ parts, IsClosed part.comment)
    (othersReadAway : ∀ other ∈ others, ReadsAway other.comment)
    : removeComments (front ++ programOf parts) = removeComments (front ++ programOf others)
      ↔ ∀ part ∈ parts, ReadsAway part.comment := by
  rw [removeComments, removeComments, read_append, read_append, starts, List.append_right_inj]
  constructor
  · intro same
    have othersSelfContained : ∀ other ∈ others, IsSelfContained other.code := by
      intro other member
      have isCode : other.code ∈ parts.map (·.code) := by
        rw [sameCode]
        exact List.mem_map_of_mem member
      obtain ⟨part, isPart, isSame⟩ := List.mem_map.mp isCode
      exact isSame ▸ selfContained part isPart
    apply readsAway_of_weight_eq closed selfContained
    rw [same, weight_eq_codeWeight othersSelfContained othersReadAway, codeWeight, codeWeight]
    rw [List.flatMap_def, List.flatMap_def, sameCode]
  · intro readAway
    rw [read_programOf_eq sameCode selfContained readAway othersReadAway]

end Axionvera.Foundation
