import Axionvera.Client.SerializableValue

/-! Date markers share the objects with the values of callers: a value comes back from its frozen
form unless an object somewhere in it reads as a marker, or has a field that assignments take for
the prototype.
-/

namespace Axionvera.Client.Hydration

open Axionvera.Errors
open Axionvera.Foundation

variable {dates : DateFormat} {P Q : SerializableValue → Prop}

-----------------------------------------------------------------------------------------
-- Values within values
-----------------------------------------------------------------------------------------

/-- The inner value is the outer one, or is nested in it at any depth. -/
inductive IsWithin (inner : SerializableValue) : SerializableValue → Prop where
  | self : IsWithin inner inner
  | item {item : SerializableValue} {items : List SerializableValue} (member : item ∈ items)
      (within : IsWithin inner item)
      : IsWithin inner (.array items)
  | field {key : String} {value : SerializableValue} {fields : List (String × SerializableValue)}
      (member : (key, value) ∈ fields) (within : IsWithin inner value)
      : IsWithin inner (.object fields)

/-- A property holds of a value and of everything that is nested in it. -/
def Everywhere (P : SerializableValue → Prop) (value : SerializableValue) : Prop :=
  ∀ inner, IsWithin inner value → P inner

/-- Two properties hold everywhere together exactly when each does. -/
theorem everywhere_and {value : SerializableValue}
    : Everywhere (fun inner => P inner ∧ Q inner) value
      ↔ Everywhere P value ∧ Everywhere Q value :=
  ⟨fun both =>
      ⟨fun inner within => (both inner within).1, fun inner within => (both inner within).2⟩,
    fun ⟨first, second⟩ inner within => ⟨first inner within, second inner within⟩⟩

/-- In an array, a property holds of the array and everywhere in its items. -/
theorem everywhere_array {items : List SerializableValue}
    : Everywhere P (.array items) ↔ P (.array items) ∧ ∀ item ∈ items, Everywhere P item := by
  constructor
  · intro everywhere
    exact ⟨everywhere _ .self,
      fun item member inner within => everywhere inner (.item member within)⟩
  · intro given inner within
    obtain ⟨here, inItems⟩ := given
    cases within with
    | self => exact here
    | item member within => exact inItems _ member inner within

/-- In an object, a property holds of the object and everywhere in its fields. -/
theorem everywhere_object {fields : List (String × SerializableValue)}
    : Everywhere P (.object fields)
      ↔ P (.object fields) ∧ ∀ field ∈ fields, Everywhere P field.2 := by
  constructor
  · intro everywhere
    exact ⟨everywhere _ .self,
      fun field member inner within => everywhere inner (.field member within)⟩
  · intro given inner within
    obtain ⟨here, inFields⟩ := given
    cases within with
    | self => exact here
    | field member within => exact inFields _ member inner within

/-- The value has no parts. -/
def isLeaf : SerializableValue → Bool
  | .null | .boolean _ | .number _ | .text _ | .date _ => true
  | .array _ | .object _ => false

/-- A value without parts has a property everywhere exactly when it has it itself. -/
theorem everywhere_leaf (value : SerializableValue) (leaf : isLeaf value = true)
    : Everywhere P value ↔ P value := by
  refine ⟨fun everywhere => everywhere value .self, fun here inner within => ?_⟩
  cases within with
  | self => exact here
  | item => cases leaf
  | field => cases leaf

-----------------------------------------------------------------------------------------
-- Values that come back
-----------------------------------------------------------------------------------------

/-- A number is finite, and a date is valid. -/
def IsProper : SerializableValue → Prop
  | .number number => ∃ value, number = .finite value
  | .date date => ∃ instant, date = some instant
  | _ => True

/-- An object is not one field named as the marker with a text that reads as a date, and has no
field named as the prototype.
-/
def IsUnmistakable (dates : DateFormat) : SerializableValue → Prop
  | .object fields =>
      (∀ marker, fields = [(dateMarker, .text marker)] → dates.parse marker = none)
      ∧ ∀ field ∈ fields, field.1 ≠ prototypeKey
  | _ => True

/-- The value itself does not keep what it is part of from coming back. -/
def IsKept (dates : DateFormat) (value : SerializableValue) : Prop :=
  IsProper value ∧ IsUnmistakable dates value

/-- An object is no marked date exactly when its only field is not the marker, or cannot be read. -/
theorem markedDate_isNone_iff {fields : List (String × SerializableValue)}
    : (markedDate dates fields).isNone = true
      ↔ ∀ marker, fields = [(dateMarker, .text marker)] → dates.parse marker = none := by
  rw [Option.isNone_iff_eq_none, Option.eq_none_iff_forall_ne_some]
  constructor
  · intro unmarked marker isMarker
    rw [Option.eq_none_iff_forall_ne_some]
    exact fun instant parsed =>
      unmarked instant (markedDate_eq_some_iff.mpr ⟨marker, isMarker, parsed⟩)
  · intro unreadable instant marked
    obtain ⟨marker, isMarker, parsed⟩ := markedDate_eq_some_iff.mp marked
    rw [unreadable marker isMarker] at parsed
    cases parsed

mutual

/-- A value survives exactly when everything in it is proper and unmistakable, by recursion on it.
-/
theorem survives_iff_everywhere : (value : SerializableValue)
    → (survives dates value = true
        ↔ Everywhere (IsKept dates) value)
  | .null => by simp [survives, everywhere_leaf .null rfl, IsKept, IsProper, IsUnmistakable]
  | .boolean value => by
      simp [survives, everywhere_leaf (.boolean value) rfl, IsKept, IsProper, IsUnmistakable]
  | .text value => by
      simp [survives, everywhere_leaf (.text value) rfl, IsKept, IsProper, IsUnmistakable]
  | .number number => by
      rw [everywhere_leaf (.number number) rfl]
      cases number <;> simp [survives, IsKept, IsProper, IsUnmistakable]
  | .date date => by
      rw [everywhere_leaf (.date date) rfl]
      simp [survives, IsKept, IsProper, IsUnmistakable, Option.isSome_iff_exists]
  | .array items => by
      rw [everywhere_array, survives, itemsSurvive_iff_everywhere items]
      simp [IsKept, IsProper, IsUnmistakable]
  | .object fields => by
      rw [everywhere_object, survives, Bool.and_eq_true, fieldsSurvive_iff_everywhere fields,
        markedDate_isNone_iff]
      simp only [IsKept, IsProper, IsUnmistakable, true_and]
      constructor
      · intro given
        obtain ⟨unmarked, all⟩ := given
        exact ⟨⟨unmarked, fun field member => (all field member).1⟩,
          fun field member => (all field member).2⟩
      · intro given
        obtain ⟨⟨unmarked, noPrototype⟩, all⟩ := given
        exact ⟨unmarked, fun field member => ⟨noPrototype field member, all field member⟩⟩

/-- The items of an array survive exactly when all do. -/
theorem itemsSurvive_iff_everywhere : (items : List SerializableValue)
    → (itemsSurvive dates items = true
        ↔ ∀ item ∈ items, Everywhere (IsKept dates) item)
  | [] => by simp [itemsSurvive]
  | item :: rest => by
      rw [itemsSurvive, Bool.and_eq_true, survives_iff_everywhere item,
        itemsSurvive_iff_everywhere rest, List.forall_mem_cons]

/-- The fields of an object survive exactly when all values do and no key is that of the prototype.
-/
theorem fieldsSurvive_iff_everywhere : (fields : List (String × SerializableValue))
    → (fieldsSurvive dates fields = true
        ↔ ∀ field ∈ fields,
            field.1 ≠ prototypeKey
            ∧ Everywhere (IsKept dates) field.2)
  | [] => by simp [fieldsSurvive]
  | (key, value) :: rest => by
      rw [fieldsSurvive, Bool.and_eq_true, Bool.and_eq_true, survives_iff_everywhere value,
        fieldsSurvive_iff_everywhere rest, List.forall_mem_cons, decide_eq_true_eq]

end

/-- The value is thawed to what it was, behind its way through JSON. -/
def ComesBack (dates : DateFormat) (value : SerializableValue) : Prop :=
  ∃ frozen,
    freezeDates dates value = .ok frozen
    ∧ thawDates dates (jsonRoundTrip dates frozen) = value

/-- A value of finite numbers and valid dates comes back exactly when none of its objects can be
mistaken for a marker or loses a field to the prototype.
-/
theorem comesBack_iff {value : SerializableValue} (proper : Everywhere IsProper value)
    : ComesBack dates value ↔ Everywhere (IsUnmistakable dates) value := by
  rw [ComesBack, thaw_freeze_iff, survives_iff_everywhere]
  exact everywhere_and.trans (and_iff_right proper)

/-- A quote with a date in it, next to fields that look almost like a marker. -/
def quoted : SerializableValue :=
  .array [
    .object [("fetchedAt", .date (some epoch)), ("prices", .array [.number (.finite 1), .null])],
    .object [(dateMarker, .text "soon")],
    .object [(dateMarker, .text "1970-01-01T00:00:00.000Z"), ("note", .text "")]]

/-- The quote comes back. -/
theorem comesBack_quoted : ComesBack sampleFormat quoted := by
  have survivesQuoted : survives sampleFormat quoted = true := by decide
  obtain ⟨proper, unmistakable⟩ :=
    everywhere_and.mp ((survives_iff_everywhere quoted).mp survivesQuoted)
  exact (comesBack_iff proper).mpr unmistakable

/-- An object of the caller that reads as a marker comes back as a date. -/
theorem not_comesBack : ¬ ∀ value, Everywhere IsProper value → ComesBack sampleFormat value := by
  intro claim
  have proper : Everywhere IsProper (.object [(dateMarker, .text "1970-01-01T00:00:00.000Z")]) := by
    refine everywhere_object.mpr ⟨trivial, fun field member => ?_⟩
    obtain rfl := List.mem_singleton.mp member
    exact (everywhere_leaf _ rfl).mpr trivial
  have survivesToo := (thaw_freeze_iff _).mp (claim _ proper)
  exact absurd survivesToo (by decide)

end Axionvera.Client.Hydration
