import Axionvera.Client.SerializableValue
import Axionvera.Foundation.JsonText

/-! Results of contract calls and the texts by which they are compared (`replay/validator.ts`).
Which results have the same text is described without the texts.
-/

namespace Axionvera.Replay

open Axionvera.Client.Hydration (DateFormat JsDate)
open Axionvera.Foundation

/-- A result of a call. An object lists its own fields in their order. -/
inductive ResultValue where
  | undefined
  | null
  | boolean (value : Bool)
  | number (value : FiniteNumber)
  | bigint (value : Int)
  | text (value : String)
  | date (value : JsDate)
  | map (entries : List (ResultValue × ResultValue))
  | set (items : List ResultValue)
  | array (items : List ResultValue)
  | object (fields : List (String × ResultValue))

/-- What `replacer` makes of a big integer. -/
def replacer (value : Int) : String :=
  "__bigint__" ++ .ofList (bigintText value)

namespace ResultValue

mutual

/-- The JSON value that `JSON.stringify` writes with the `replacer`: dates are asked for their text
first, maps and sets have no fields of their own, and nothing is written for `undefined`.
-/
def serialize (dates : DateFormat) : ResultValue → Option JsonValue
  | .undefined => none
  | .null => some .null
  | .boolean value => some (.boolean value)
  | .number value => some (.number value)
  | .bigint value => some (.text (replacer value))
  | .text value => some (.text value)
  | .date (some instant) => some (.text (dates.toISOString instant))
  | .date none => some .null
  | .map _ => some (.object [])
  | .set _ => some (.object [])
  | .array items => some (.array (serializeItems dates items))
  | .object fields => some (.object (serializeFields dates fields))

/-- The items of an array, with `null` for those that nothing is written for. -/
def serializeItems (dates : DateFormat) : List ResultValue → List JsonValue
  | [] => []
  | item :: items => (serialize dates item).getD .null :: serializeItems dates items

/-- The fields of an object, without those that nothing is written for. -/
def serializeFields (dates : DateFormat)
    : List (String × ResultValue) → List (String × JsonValue)
  | [] => []
  | (key, value) :: fields =>
      match serialize dates value with
      | none => serializeFields dates fields
      | some written => (key, written) :: serializeFields dates fields

end

/-- `JSON.stringify(value, replacer)`. -/
def stringify (dates : DateFormat) (value : ResultValue) : Option (List Char) :=
  (value.serialize dates).map JsonValue.toText

-----------------------------------------------------------------------------------------
-- Results that look alike
-----------------------------------------------------------------------------------------

/-- The value is `undefined`. -/
def isUndefined : ResultValue → Bool
  | .undefined => true
  | _ => false

/-- The value is `null` or an invalid date. -/
def isNothing : ResultValue → Bool
  | .null | .date none => true
  | _ => false

/-- The text of a text, a date or a big integer. -/
def shownText (dates : DateFormat) : ResultValue → Option String
  | .text value => some value
  | .bigint value => some (replacer value)
  | .date (some instant) => some (dates.toISOString instant)
  | _ => none

/-- The value is a map, a set or an object whose fields are all `undefined`. -/
def isBare : ResultValue → Bool
  | .map _ | .set _ => true
  | .object fields => fields.all fun field => field.2.isUndefined
  | _ => false

mutual

/-- Two results differ at most in what JSON does not tell: an invalid date from `null`, a date or a
big integer from its text, maps and sets from each other and from an empty object, `undefined` items
from `null`, and whether and where fields are `undefined`.
-/
def LooksAlike (dates : DateFormat) : ResultValue → ResultValue → Prop
  | .undefined, other => other = .undefined
  | .null, other => other.isNothing = true
  | .date none, other => other.isNothing = true
  | .boolean value, other => other = .boolean value
  | .number value, other => other = .number value
  | .bigint value, other => other.shownText dates = some (replacer value)
  | .text value, other => other.shownText dates = some value
  | .date (some instant), other => other.shownText dates = some (dates.toISOString instant)
  | .map _, other => other.isBare = true
  | .set _, other => other.isBare = true
  | .array items, other => ∃ others, other = .array others ∧ ItemsAlike dates items others
  | .object fields, other =>
      (ResultValue.isBare (.object fields) = true ∧ other.isBare = true)
      ∨ ∃ others, other = .object others ∧ FieldsAlike dates fields others

/-- Items look alike one by one, where `undefined` looks like `null`. -/
def ItemsAlike (dates : DateFormat) : List ResultValue → List ResultValue → Prop
  | [], others => others = []
  | item :: items, others =>
      ∃ other rest,
        others = other :: rest
        ∧ (LooksAlike dates item other
            ∨ (item.isUndefined || item.isNothing) = true
              ∧ (other.isUndefined || other.isNothing) = true)
        ∧ ItemsAlike dates items rest

/-- Fields look alike one by one, apart from those that are `undefined`. -/
def FieldsAlike (dates : DateFormat)
    : List (String × ResultValue) → List (String × ResultValue) → Prop
  | [], others => (others.all fun field => field.2.isUndefined) = true
  | (key, value) :: fields, others =>
      if value.isUndefined then FieldsAlike dates fields others
      else
        ∃ other rest,
          (others.dropWhile fun field => field.2.isUndefined) = (key, other) :: rest
          ∧ LooksAlike dates value other
          ∧ FieldsAlike dates fields rest

end

variable {dates : DateFormat} {value : ResultValue}

/-- Nothing is written for `undefined` only. -/
theorem serialize_eq_none_iff : value.serialize dates = none ↔ value = .undefined := by
  cases value with
  | date date => cases date <;> simp [serialize]
  | _ => simp [serialize]

/-- Nothing is written for what is `undefined`. -/
theorem isUndefined_iff (dates : DateFormat)
    : value.isUndefined = true ↔ value.serialize dates = none := by
  cases value with
  | date date => cases date <;> simp [serialize, isUndefined]
  | _ => simp [serialize, isUndefined]

/-- `null` is written for `null` and invalid dates. -/
theorem isNothing_iff (dates : DateFormat)
    : value.isNothing = true ↔ value.serialize dates = some .null := by
  cases value with
  | date date => cases date <;> simp [serialize, isNothing]
  | _ => simp [serialize, isNothing]

/-- A text is written for texts, dates and big integers. -/
theorem shownText_iff {text : String}
    : value.shownText dates = some text ↔ value.serialize dates = some (.text text) := by
  cases value with
  | date date => cases date <;> simp [serialize, shownText]
  | _ => simp [serialize, shownText]

/-- No field is written if all are `undefined`, by induction on them. -/
theorem serializeFields_eq_nil_iff (dates : DateFormat) (fields : List (String × ResultValue))
    : serializeFields dates fields = []
      ↔ (fields.all fun field => field.2.isUndefined) = true := by
  induction fields with
  | nil => simp [serializeFields]
  | cons field fields ih =>
      obtain ⟨key, value⟩ := field
      rw [serializeFields, List.all_cons, Bool.and_eq_true, isUndefined_iff dates, ← ih]
      cases value.serialize dates <;> simp

/-- An empty object is written for maps, sets and objects whose fields are all `undefined`. -/
theorem isBare_iff : value.isBare = true ↔ value.serialize dates = some (.object []) := by
  cases value with
  | date date => cases date <;> simp [serialize, isBare]
  | object fields =>
      rw [serialize, Option.some.injEq, JsonValue.object.injEq, serializeFields_eq_nil_iff]
      rfl
  | _ => simp [serialize, isBare]

/-- An array is written for arrays. -/
theorem serialize_eq_array_iff {items : List JsonValue}
    : value.serialize dates = some (.array items)
      ↔ ∃ others, value = .array others ∧ serializeItems dates others = items := by
  cases value with
  | date date => cases date <;> simp [serialize]
  | _ => simp [serialize]

/-- An object is written for objects, and an empty one for whatever is bare. -/
theorem serialize_eq_object_iff {fields : List (String × JsonValue)}
    : value.serialize dates = some (.object fields)
      ↔ (fields = [] ∧ value.isBare = true)
        ∨ ∃ others, value = .object others ∧ serializeFields dates others = fields := by
  constructor
  · intro isWritten
    cases value with
    | object others => exact .inr ⟨others, rfl, by simpa [serialize] using isWritten⟩
    | date date => cases date <;> simp [serialize] at isWritten
    | map entries =>
        obtain rfl : [] = fields := by simpa [serialize] using isWritten
        exact .inl ⟨rfl, rfl⟩
    | set items =>
        obtain rfl : [] = fields := by simpa [serialize] using isWritten
        exact .inl ⟨rfl, rfl⟩
    | _ => simp [serialize] at isWritten
  · rintro (⟨rfl, isBare⟩ | ⟨others, rfl, rfl⟩)
    · exact isBare_iff.mp isBare
    · rfl

/-- Fields that nothing is written for can be left out in front, by induction on them. -/
theorem serializeFields_dropWhile (fields : List (String × ResultValue))
    : serializeFields dates (fields.dropWhile fun field => field.2.isUndefined)
      = serializeFields dates fields := by
  induction fields with
  | nil => rfl
  | cons field fields ih =>
      obtain ⟨key, value⟩ := field
      rw [List.dropWhile_cons]
      split
      · rename_i isUndefined
        rw [ih, serializeFields, (isUndefined_iff dates).mp isUndefined]
      · rfl

/-- An item that is `undefined`, `null` or an invalid date is written as `null`. -/
theorem getD_serialize_eq_null_iff (dates : DateFormat)
    : (value.serialize dates).getD .null = .null
      ↔ (value.isUndefined || value.isNothing) = true := by
  rw [Bool.or_eq_true, isUndefined_iff dates, isNothing_iff dates]
  cases value.serialize dates <;> simp

/-- The first field that is written is the first one that is not `undefined`. -/
theorem serializeFields_eq_cons_iff {fields : List (String × ResultValue)} {key : String}
    {written : JsonValue} {later : List (String × JsonValue)}
    : serializeFields dates fields = (key, written) :: later
      ↔ ∃ other rest,
          (fields.dropWhile fun field => field.2.isUndefined) = (key, other) :: rest
          ∧ other.serialize dates = some written
          ∧ serializeFields dates rest = later := by
  rw [← serializeFields_dropWhile]
  cases shape : fields.dropWhile fun field => field.2.isUndefined with
  | nil => simp [serializeFields]
  | cons field rest =>
      obtain ⟨otherKey, other⟩ := field
      have isDefined : other.isUndefined = false := by
        have first := List.head?_dropWhile_not (fun field : String × ResultValue =>
          field.2.isUndefined) fields
        rw [shape] at first
        simpa using first
      rw [serializeFields]
      cases isWritten : other.serialize dates with
      | none =>
          rw [(isUndefined_iff dates).mpr isWritten] at isDefined
          cases isDefined
      | some found =>
          simp only [List.cons.injEq, Prod.mk.injEq]
          constructor
          · rintro ⟨⟨rfl, rfl⟩, rfl⟩
            exact ⟨other, rest, ⟨⟨rfl, rfl⟩, rfl⟩, isWritten, rfl⟩
          · rintro ⟨_, _, ⟨⟨rfl, rfl⟩, rfl⟩, alsoWritten, rfl⟩
            rw [isWritten, Option.some.injEq] at alsoWritten
            exact ⟨⟨rfl, alsoWritten⟩, rfl⟩

mutual

/-- Results look alike exactly if the same is written for them, by induction on the first one. -/
theorem looksAlike_iff (value other : ResultValue)
    : LooksAlike dates value other ↔ value.serialize dates = other.serialize dates := by
  match value with
  | .undefined =>
      rw [LooksAlike, serialize, eq_comm (a := none), serialize_eq_none_iff]
  | .null | .date none => rw [LooksAlike, serialize, isNothing_iff dates, eq_comm]
  | .boolean value =>
      rw [LooksAlike, serialize]
      cases other with
      | date date => cases date <;> simp [serialize]
      | _ => simp [serialize, eq_comm]
  | .number value =>
      rw [LooksAlike, serialize]
      cases other with
      | date date => cases date <;> simp [serialize]
      | _ => simp [serialize, eq_comm]
  | .bigint value | .text value | .date (some value) =>
      rw [LooksAlike, serialize, shownText_iff, eq_comm]
  | .map _ | .set _ => rw [LooksAlike, serialize, isBare_iff, eq_comm]
  | .array items =>
      rw [LooksAlike, serialize, eq_comm (b := serialize dates other), serialize_eq_array_iff]
      refine exists_congr fun others => and_congr_right fun _ => ?_
      rw [itemsAlike_iff items others, eq_comm]
  | .object fields =>
      rw [LooksAlike, serialize, eq_comm (b := serialize dates other), serialize_eq_object_iff,
        serializeFields_eq_nil_iff]
      refine or_congr Iff.rfl (exists_congr fun others => and_congr_right fun _ => ?_)
      rw [fieldsAlike_iff fields others, eq_comm]

/-- Items look alike exactly if the same is written for them. -/
theorem itemsAlike_iff (items others : List ResultValue)
    : ItemsAlike dates items others
      ↔ serializeItems dates items = serializeItems dates others := by
  match items with
  | [] =>
      rw [ItemsAlike, serializeItems]
      cases others <;> simp [serializeItems]
  | item :: items =>
      rw [ItemsAlike, serializeItems]
      cases others with
      | nil => simp [serializeItems]
      | cons other others =>
          have first
              : (LooksAlike dates item other
                  ∨ (item.isUndefined || item.isNothing) = true
                    ∧ (other.isUndefined || other.isNothing) = true)
                ↔ (item.serialize dates).getD .null = (other.serialize dates).getD .null := by
            rw [looksAlike_iff item other, ← getD_serialize_eq_null_iff dates,
              ← getD_serialize_eq_null_iff dates]
            cases item.serialize dates with
            | none => cases other.serialize dates <;> simp [eq_comm]
            | some written => cases other.serialize dates <;> simp +contextual
          rw [serializeItems, List.cons.injEq, ← first, ← itemsAlike_iff items others]
          constructor
          · rintro ⟨_, _, same, alike⟩
            obtain ⟨rfl, rfl⟩ := List.cons.inj same
            exact alike
          · exact fun alike => ⟨other, others, rfl, alike⟩

/-- Fields look alike exactly if the same is written for them. -/
theorem fieldsAlike_iff (fields others : List (String × ResultValue))
    : FieldsAlike dates fields others
      ↔ serializeFields dates fields = serializeFields dates others := by
  match fields with
  | [] =>
      rw [FieldsAlike, serializeFields, ← serializeFields_eq_nil_iff (dates)]
      exact eq_comm
  | (key, value) :: fields =>
      rw [FieldsAlike, serializeFields]
      cases isWritten : value.serialize dates with
      | none =>
          rw [if_pos ((isUndefined_iff dates).mpr isWritten), fieldsAlike_iff fields others]
      | some written =>
          have isDefined : ¬ value.isUndefined = true := by
            rw [isUndefined_iff dates, isWritten]
            exact nofun
          rw [if_neg isDefined, eq_comm, serializeFields_eq_cons_iff]
          refine exists_congr fun other => exists_congr fun rest => and_congr_right fun _ => ?_
          rw [looksAlike_iff value other, fieldsAlike_iff fields rest, isWritten]
          exact and_congr eq_comm eq_comm

end

end ResultValue

end Axionvera.Replay
