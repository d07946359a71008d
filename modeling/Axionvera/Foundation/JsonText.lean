import Axionvera.Foundation.NumberText

/-! JSON values and the texts in which `JSON.stringify` writes them without blanks. A value can be
read back from its text, even if other text follows.
-/

namespace Axionvera.Foundation

/-- A JSON value. An object lists its fields in the order in which they are written. -/
inductive JsonValue where
  | null
  | boolean (value : Bool)
  | number (value : FiniteNumber)
  | text (value : String)
  | array (items : List JsonValue)
  | object (fields : List (String × JsonValue))

-----------------------------------------------------------------------------------------
-- Texts in quotes
-----------------------------------------------------------------------------------------

/-- The characters with an escape of their own, and the letter behind its backslash. -/
def shortEscapes : List (Char × Char) :=
  [('\u0008', 'b'), ('\t', 't'), ('\n', 'n'), ('\u000c', 'f'), ('\r', 'r'), ('"', '"'),
    ('\\', '\\')]

/-- A character within quotes. -/
def escape (character : Char) : List Char :=
  match shortEscapes.lookup character with
  | some letter => ['\\', letter]
  | none =>
      if character.toNat < 0x20 then
        ['\\', 'u', '0', '0', Nat.digitChar (character.toNat / 16),
          Nat.digitChar (character.toNat % 16)]
      else [character]

/-- A text in quotes. -/
def quoted (text : String) : List Char :=
  '"' :: text.toList.flatMap escape ++ ['"']

/-- The number of a hexadecimal digit. -/
def hexValue (digit : Char) : Nat :=
  if digit.isDigit then digit.toNat - '0'.toNat else digit.toNat - 'a'.toNat + 10

/-- Read one character within quotes. -/
def unescape : List Char → Option (Char × List Char)
  | '\\' :: 'u' :: _ :: _ :: high :: low :: rest =>
      some (Char.ofNat (16 * hexValue high + hexValue low), rest)
  | '\\' :: letter :: rest =>
      (shortEscapes.find? fun entry => entry.2 = letter).map fun entry => (entry.1, rest)
  | character :: rest => some (character, rest)
  | [] => none

/-- A character within quotes is read back, by the cases of `escape`. -/
theorem unescape_escape (character : Char) (rest : List Char)
    : unescape (escape character ++ rest) = some (character, rest) := by
  unfold escape
  cases isShort : shortEscapes.lookup character with
  | some letter =>
      have member : (character, letter) ∈ shortEscapes := by
        obtain ⟨front, back, split, _⟩ := List.lookup_eq_some_iff.mp isShort
        simp [split]
      simp only [shortEscapes, List.mem_cons, Prod.mk.injEq, List.not_mem_nil, or_false] at member
      rcases member with ⟨rfl, rfl⟩ | ⟨rfl, rfl⟩ | ⟨rfl, rfl⟩ | ⟨rfl, rfl⟩ | ⟨rfl, rfl⟩ | ⟨rfl, rfl⟩
        | ⟨rfl, rfl⟩ <;> rfl
  | none =>
      dsimp only
      by_cases isControl : character.toNat < 0x20
      · have digits
            : ∀ code < 0x20,
                16 * hexValue (Nat.digitChar (code / 16)) + hexValue (Nat.digitChar (code % 16))
                  = code := by
          decide
        rw [if_pos isControl]
        change some (Char.ofNat (16 * hexValue _ + hexValue _), rest) = _
        rw [digits _ isControl, Char.ofNat_toNat]
      · rw [if_neg isControl]
        have noBackslash : character ≠ '\\' := by
          rintro rfl
          cases isShort
        rw [List.singleton_append, unescape]
        · exact fun _ _ _ _ _ isBackslash => absurd isBackslash noBackslash
        · exact fun _ _ isBackslash => absurd isBackslash noBackslash

/-- Nothing within quotes starts with a quote. -/
theorem escape_head (character : Char) (rest : List Char)
    : ∀ first ∈ (escape character ++ rest).head?, first ≠ '"' := by
  unfold escape
  cases isShort : shortEscapes.lookup character with
  | some letter =>
      rintro first isHead rfl
      cases isHead
  | none =>
      dsimp only
      split
      · rintro first isHead rfl
        cases isHead
      · rintro first isHead rfl
        obtain rfl : character = '"' := by simpa using isHead
        cases isShort

/-- What stands between quotes can be told from what follows, by induction on it. -/
theorem escaped_unique {text other rest more : List Char}
    (same : text.flatMap escape ++ '"' :: rest = other.flatMap escape ++ '"' :: more)
    : text = other ∧ rest = more := by
  induction text generalizing other with
  | nil =>
      cases other with
      | nil => exact ⟨rfl, (List.cons.inj same).2⟩
      | cons first others =>
          rw [List.flatMap_cons, List.append_assoc] at same
          exact absurd rfl (escape_head first _ '"' (by rw [← same]; rfl))
  | cons character text ih =>
      rw [List.flatMap_cons, List.append_assoc] at same
      cases other with
      | nil => exact absurd rfl (escape_head character _ '"' (by rw [same]; rfl))
      | cons first others =>
          rw [List.flatMap_cons, List.append_assoc] at same
          have read := congrArg unescape same
          rw [unescape_escape, unescape_escape, Option.some.injEq, Prod.mk.injEq] at read
          obtain ⟨rfl, later⟩ := read
          obtain ⟨rfl, isRest⟩ := ih later
          exact ⟨rfl, isRest⟩

/-- A text in quotes can be told from what follows. -/
theorem quoted_unique {text other : String} {rest more : List Char}
    (same : quoted text ++ rest = quoted other ++ more)
    : text = other ∧ rest = more := by
  simp only [quoted, List.cons_append, List.append_assoc, List.nil_append, List.cons.injEq,
    true_and] at same
  obtain ⟨characters, isRest⟩ := escaped_unique same
  exact ⟨String.toList_injective characters, isRest⟩

-----------------------------------------------------------------------------------------
-- Values
-----------------------------------------------------------------------------------------

namespace JsonValue

mutual

/-- The text of a value. -/
def toText : JsonValue → List Char
  | .null => "null".toList
  | .boolean value => (if value then "true" else "false").toList
  | .number value => value.toText
  | .text value => quoted value
  | .array [] => ['[', ']']
  | .array (item :: items) => '[' :: toText item ++ itemsText items
  | .object [] => ['{', '}']
  | .object ((key, value) :: fields) =>
      '{' :: quoted key ++ ':' :: toText value ++ fieldsText fields

/-- The text of the items of an array after the first one. -/
def itemsText : List JsonValue → List Char
  | [] => [']']
  | item :: items => ',' :: toText item ++ itemsText items

/-- The text of the fields of an object after the first one. -/
def fieldsText : List (String × JsonValue) → List Char
  | [] => ['}']
  | (key, value) :: fields => ',' :: quoted key ++ ':' :: toText value ++ fieldsText fields

end

/-- The kinds of values that the first character of a text tells apart. -/
inductive Kind where
  | null
  | boolean (value : Bool)
  | number
  | text
  | array
  | object

/-- The kind of a value. -/
def kind : JsonValue → Kind
  | .null => .null
  | .boolean value => .boolean value
  | .number _ => .number
  | .text _ => .text
  | .array _ => .array
  | .object _ => .object

/-- The kind of the value whose text starts with a character. -/
def kindOfHead (first : Char) : Kind :=
  if first = 'n' then .null
  else if first = 't' then .boolean true
  else if first = 'f' then .boolean false
  else if first = '"' then .text
  else if first = '[' then .array
  else if first = '{' then .object
  else .number

/-- The first character of a text tells the kind of the value. -/
theorem kindOfHead_toText (value : JsonValue) (rest : List Char)
    : ∃ first ∈ (value.toText ++ rest).head?, kindOfHead first = value.kind := by
  match value with
  | .null => exact ⟨'n', rfl, rfl⟩
  | .boolean true => exact ⟨'t', rfl, rfl⟩
  | .boolean false => exact ⟨'f', rfl, rfl⟩
  | .number value =>
      obtain ⟨first, isHead, numeric⟩ := value.toText_head
      refine ⟨first, ?_, ?_⟩
      · rw [toText, List.head?_append, Option.mem_def.mp isHead]
        rfl
      · have noOther (other : Char) (isOther : other.isDigit = false ∧ other ≠ '-')
            : first ≠ other := by
          rintro rfl
          simp_all
        rw [kindOfHead, if_neg (noOther _ (by decide)), if_neg (noOther _ (by decide)),
          if_neg (noOther _ (by decide)), if_neg (noOther _ (by decide)),
          if_neg (noOther _ (by decide)), if_neg (noOther _ (by decide))]
        rfl
  | .text value => exact ⟨'"', rfl, rfl⟩
  | .array [] | .array (_ :: _) => exact ⟨'[', rfl, rfl⟩
  | .object [] | .object (_ :: _) => exact ⟨'{', rfl, rfl⟩

/-- No text of a value starts with the end of an array. -/
theorem toText_ne_bracket (value : JsonValue) (rest : List Char)
    : ∀ first ∈ (value.toText ++ rest).head?, first ≠ ']' := by
  rintro first isFirst rfl
  obtain ⟨other, isOther, isKind⟩ := kindOfHead_toText value rest
  obtain rfl := Option.some.inj (isFirst.symm.trans isOther)
  cases value with
  | number value =>
      obtain ⟨head, isHead, numeric⟩ := value.toText_head
      rw [toText, List.head?_append, Option.mem_def.mp isHead] at isFirst
      obtain rfl := Option.some.inj isFirst
      exact absurd numeric (by decide)
  | null | boolean | text | array | object => cases isKind

/-- Texts that are alike belong to values of one kind. -/
theorem kind_eq {value other : JsonValue} {rest more : List Char}
    (same : value.toText ++ rest = other.toText ++ more)
    : value.kind = other.kind := by
  obtain ⟨first, isFirst, isKind⟩ := kindOfHead_toText value rest
  obtain ⟨second, isSecond, alsoKind⟩ := kindOfHead_toText other more
  rw [same] at isFirst
  obtain rfl := Option.some.inj (isFirst.symm.trans isSecond)
  exact isKind.symm.trans alsoKind

/-- What may follow a value: nothing, or a character that no number contains. -/
def Delimited (rest : List Char) : Prop :=
  ∀ first ∈ rest.head?, FiniteNumber.isNumeric first = false

/-- What follows an item is delimited. -/
theorem delimited_itemsText (items : List JsonValue) (rest : List Char)
    : Delimited (itemsText items ++ rest) := by
  cases items <;> exact fun first isHead => Option.some.inj isHead ▸ rfl

/-- What follows a field is delimited. -/
theorem delimited_fieldsText (fields : List (String × JsonValue)) (rest : List Char)
    : Delimited (fieldsText fields ++ rest) := by
  cases fields <;> exact fun first isHead => Option.some.inj isHead ▸ rfl

/-- A number can be told from what follows. -/
theorem number_unique {value other : FiniteNumber} {rest more : List Char}
    (same : value.toText ++ rest = other.toText ++ more) (delimited : Delimited rest)
    (alsoDelimited : Delimited more)
    : value = other ∧ rest = more := by
  obtain ⟨isText, isRest⟩ := takeWhile_append_of_head value.toText_numeric delimited
  obtain ⟨isOther, isMore⟩ := takeWhile_append_of_head other.toText_numeric alsoDelimited
  rw [same] at isText isRest
  exact ⟨FiniteNumber.toText_injective (isText.symm.trans isOther), isRest.symm.trans isMore⟩

mutual

/-- A value can be told from what follows, by induction on it. -/
theorem toText_unique (value other : JsonValue) (rest more : List Char)
    (same : value.toText ++ rest = other.toText ++ more) (delimited : Delimited rest)
    (alsoDelimited : Delimited more)
    : value = other ∧ rest = more := by
  have sameKind := kind_eq same
  match value, other with
  | .null, .null => exact ⟨rfl, List.append_cancel_left same⟩
  | .boolean value, .boolean other =>
      obtain rfl := Kind.boolean.inj sameKind
      exact ⟨rfl, List.append_cancel_left same⟩
  | .number value, .number other =>
      obtain ⟨rfl, isRest⟩ := number_unique same delimited alsoDelimited
      exact ⟨rfl, isRest⟩
  | .text value, .text other =>
      obtain ⟨rfl, isRest⟩ := quoted_unique same
      exact ⟨rfl, isRest⟩
  | .array [], .array [] => exact ⟨rfl, List.append_cancel_left same⟩
  | .array [], .array (item :: items) =>
      simp only [toText, List.cons_append, List.append_assoc, List.cons.injEq, true_and] at same
      exact absurd rfl (toText_ne_bracket item _ ']' (by rw [← same]; rfl))
  | .array (item :: items), .array [] =>
      simp only [toText, List.cons_append, List.append_assoc, List.cons.injEq, true_and] at same
      exact absurd rfl (toText_ne_bracket item _ ']' (by rw [same]; rfl))
  | .array (item :: items), .array (other :: others) =>
      simp only [toText, List.cons_append, List.append_assoc, List.cons.injEq, true_and] at same
      obtain ⟨rfl, later⟩ := toText_unique item other _ _ same (delimited_itemsText _ _)
        (delimited_itemsText _ _)
      obtain ⟨rfl, isRest⟩ := itemsText_unique items others _ _ later
      exact ⟨rfl, isRest⟩
  | .object [], .object [] => exact ⟨rfl, List.append_cancel_left same⟩
  | .object [], .object ((key, value) :: fields) => cases same
  | .object ((key, value) :: fields), .object [] => cases same
  | .object ((key, value) :: fields), .object ((otherKey, other) :: others) =>
      simp only [toText, List.cons_append, List.append_assoc, List.cons.injEq, true_and] at same
      obtain ⟨rfl, afterKey⟩ := quoted_unique same
      obtain ⟨rfl, afterValue⟩ := toText_unique value other _ _ (List.cons.inj afterKey).2
        (delimited_fieldsText _ _) (delimited_fieldsText _ _)
      obtain ⟨rfl, isRest⟩ := fieldsText_unique fields others _ _ afterValue
      exact ⟨rfl, isRest⟩

/-- Items can be told from what follows. -/
theorem itemsText_unique (items others : List JsonValue) (rest more : List Char)
    (same : itemsText items ++ rest = itemsText others ++ more)
    : items = others ∧ rest = more := by
  match items, others with
  | [], [] => exact ⟨rfl, (List.cons.inj same).2⟩
  | [], _ :: _ => cases same
  | _ :: _, [] => cases same
  | item :: items, other :: others =>
      simp only [itemsText, List.cons_append, List.append_assoc, List.cons.injEq, true_and] at same
      obtain ⟨rfl, later⟩ := toText_unique item other _ _ same (delimited_itemsText _ _)
        (delimited_itemsText _ _)
      obtain ⟨rfl, isRest⟩ := itemsText_unique items others _ _ later
      exact ⟨rfl, isRest⟩

/-- Fields can be told from what follows. -/
theorem fieldsText_unique (fields others : List (String × JsonValue)) (rest more : List Char)
    (same : fieldsText fields ++ rest = fieldsText others ++ more)
    : fields = others ∧ rest = more := by
  match fields, others with
  | [], [] => exact ⟨rfl, (List.cons.inj same).2⟩
  | [], _ :: _ => cases same
  | _ :: _, [] => cases same
  | (key, value) :: fields, (otherKey, other) :: others =>
      simp only [fieldsText, List.cons_append, List.append_assoc, List.cons.injEq, true_and]
        at same
      obtain ⟨rfl, afterKey⟩ := quoted_unique same
      obtain ⟨rfl, afterValue⟩ := toText_unique value other _ _ (List.cons.inj afterKey).2
        (delimited_fieldsText _ _) (delimited_fieldsText _ _)
      obtain ⟨rfl, isRest⟩ := fieldsText_unique fields others _ _ afterValue
      exact ⟨rfl, isRest⟩

end

/-- Different values have different texts. -/
theorem toText_injective : Function.Injective toText := by
  intro value other same
  have nothing : Delimited [] := fun first isHead => by cases isHead
  exact (toText_unique value other [] [] (by rw [same]) nothing nothing).1

end JsonValue

end Axionvera.Foundation
