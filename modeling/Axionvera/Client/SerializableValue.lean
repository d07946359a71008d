import Axionvera.Errors
import Axionvera.Foundation.JsNumber

/-! Values with dates and their way through JSON (`client/stellarClient.ts`): the date markers
that `exportState` writes and `importState` revives.
-/

namespace Axionvera.Client.Hydration

open Axionvera.Errors
open Axionvera.Foundation

/-- A point in time that a `Date` can hold, in milliseconds. -/
structure Instant where
  ms : Int
  inRange : -8640000000000000 ≤ ms ∧ ms ≤ 8640000000000000
  deriving DecidableEq

/-- What a `Date` holds: an instant, or nothing when it is an invalid date. -/
abbrev JsDate := Option Instant

/-- `new Date(ms)`, which is invalid out of range. -/
def newDate (ms : Int) : JsDate :=
  if inRange : -8640000000000000 ≤ ms ∧ ms ≤ 8640000000000000 then some ⟨ms, inRange⟩ else none

/-- `Date.prototype.toISOString` and `new Date(text)`. The latter reads what the former writes;
which other texts it reads is up to the implementation.
-/
structure DateFormat where
  toISOString : Instant → String
  parse : String → JsDate
  parse_toISOString : ∀ instant, parse (toISOString instant) = some instant

/-- The date of an instant is that instant. -/
@[simp]
theorem newDate_ms (instant : Instant) : newDate instant.ms = some instant :=
  dif_pos instant.inRange

/-- Milliseconds in unary, after their sign. -/
def unaryText (ms : Int) : String :=
  String.ofList ((if 0 ≤ ms then '+' else '-') :: List.replicate ms.natAbs 'I')

/-- Read milliseconds in unary. -/
def readUnary (text : String) : JsDate :=
  match text.toList with
  | '+' :: digits => newDate digits.length
  | '-' :: digits => newDate (-digits.length)
  | _ => none

/-- Milliseconds come back from unary, by cases on their sign. -/
theorem readUnary_unaryText (instant : Instant)
    : readUnary (unaryText instant.ms) = some instant := by
  unfold readUnary unaryText
  rw [String.toList_ofList]
  by_cases sign : 0 ≤ instant.ms
  · have size : ((List.replicate instant.ms.natAbs 'I').length : Int) = instant.ms := by
      rw [List.length_replicate]
      omega
    simp only [if_pos sign, size, newDate_ms]
  · have size : -((List.replicate instant.ms.natAbs 'I').length : Int) = instant.ms := by
      rw [List.length_replicate]
      omega
    simp only [if_neg sign, size, newDate_ms]

/-- A date format for examples: it writes the first minute's two ends as they are written, and any
other instant in unary.
-/
def sampleFormat : DateFormat where
  toISOString instant :=
    if instant.ms = 0 then "1970-01-01T00:00:00.000Z"
    else if instant.ms = 60000 then "1970-01-01T00:01:00.000Z"
    else unaryText instant.ms
  parse text :=
    if text = "1970-01-01T00:00:00.000Z" then newDate 0
    else if text = "1970-01-01T00:01:00.000Z" then newDate 60000
    else readUnary text
  parse_toISOString := by
    intro instant
    have unaryHead (text : String) (other : text.toList.head? ∉ [some '+', some '-'])
        : unaryText instant.ms ≠ text := by
      rintro rfl
      apply other
      rw [unaryText, String.toList_ofList]
      split <;> simp
    by_cases isEpoch : instant.ms = 0
    · simp [isEpoch, ← newDate_ms instant]
    · by_cases isMinute : instant.ms = 60000
      · simp [isMinute, ← newDate_ms instant]
      · rw [if_neg isEpoch, if_neg isMinute, if_neg (unaryHead _ (by decide)),
          if_neg (unaryHead _ (by decide)), readUnary_unaryText]

/-- The time from which dates count. -/
def epoch : Instant := ⟨0, by decide⟩

/-- `SerializableValue`. An object lists its own fields in the order of its keys. -/
inductive SerializableValue where
  | null
  | boolean (value : Bool)
  | number (value : JsNumber)
  | text (value : String)
  | date (value : JsDate)
  | array (items : List SerializableValue)
  | object (fields : List (String × SerializableValue))

/-- `DATE_MARKER`. -/
def dateMarker : String := "__date"

/-- The key that an assignment `out[key] = value` on a plain object takes as its prototype. -/
def prototypeKey : String := "__proto__"

/-- Assign a field to an object that is built key by key. -/
def assignField (key : String) (value : SerializableValue)
    (later : List (String × SerializableValue))
    : List (String × SerializableValue) :=
  if key = prototypeKey then later else (key, value) :: later

mutual

/-- `freezeDates`. Writing an invalid date throws. -/
def freezeDates (dates : DateFormat) : SerializableValue → Except Thrown SerializableValue
  | .date (some instant) => .ok (.object [(dateMarker, .text (dates.toISOString instant))])
  | .date none => .error (.value { message := some "Invalid time value" })
  | .array items => do return .array (← freezeItems dates items)
  | .object fields => do return .object (← freezeFields dates fields)
  | .null => .ok .null
  | .boolean value => .ok (.boolean value)
  | .number value => .ok (.number value)
  | .text value => .ok (.text value)

/-- `freezeDates` on the items of an array. -/
def freezeItems (dates : DateFormat)
    : List SerializableValue → Except Thrown (List SerializableValue)
  | [] => .ok []
  | item :: rest => do
      let frozen ← freezeDates dates item
      let later ← freezeItems dates rest
      return frozen :: later

/-- `freezeDates` on the fields of an object. -/
def freezeFields (dates : DateFormat)
    : List (String × SerializableValue) → Except Thrown (List (String × SerializableValue))
  | [] => .ok []
  | (key, value) :: rest => do
      let frozen ← freezeDates dates value
      let later ← freezeFields dates rest
      return assignField key frozen later

end

/-- The date that an object stands for: its only field is the marker with a readable text. -/
def markedDate (dates : DateFormat) (fields : List (String × SerializableValue))
    : Option Instant :=
  match fields.lookup dateMarker with
  | some (.text marker) => if fields.length = 1 then dates.parse marker else none
  | _ => none

mutual

/-- `thawDates`. -/
def thawDates (dates : DateFormat) : SerializableValue → SerializableValue
  | .array items => .array (thawItems dates items)
  | .object fields =>
      match markedDate dates fields with
      | some parsed => .date (some parsed)
      | none => .object (thawFields dates fields)
  | .null => .null
  | .boolean value => .boolean value
  | .number value => .number value
  | .text value => .text value
  | .date value => .date value

/-- `thawDates` on the items of an array. -/
def thawItems (dates : DateFormat) : List SerializableValue → List SerializableValue
  | [] => []
  | item :: rest => thawDates dates item :: thawItems dates rest

/-- `thawDates` on the fields of an object. -/
def thawFields (dates : DateFormat)
    : List (String × SerializableValue) → List (String × SerializableValue)
  | [] => []
  | (key, value) :: rest => assignField key (thawDates dates value) (thawFields dates rest)

end

mutual

/-- `JSON.parse(JSON.stringify(value))`: numbers that are not finite become `null`, and dates
their text.
-/
def jsonRoundTrip (dates : DateFormat) : SerializableValue → SerializableValue
  | .number (.finite value) => .number (.finite value)
  | .number _ => .null
  | .date (some instant) => .text (dates.toISOString instant)
  | .date none => .null
  | .array items => .array (jsonItems dates items)
  | .object fields => .object (jsonFields dates fields)
  | .null => .null
  | .boolean value => .boolean value
  | .text value => .text value

/-- The items of an array after the round trip. -/
def jsonItems (dates : DateFormat) : List SerializableValue → List SerializableValue
  | [] => []
  | item :: rest => jsonRoundTrip dates item :: jsonItems dates rest

/-- The fields of an object after the round trip. -/
def jsonFields (dates : DateFormat)
    : List (String × SerializableValue) → List (String × SerializableValue)
  | [] => []
  | (key, value) :: rest => (key, jsonRoundTrip dates value) :: jsonFields dates rest

end

mutual

/-- The value holds valid dates only. -/
def datesValid : SerializableValue → Bool
  | .date instant => instant.isSome
  | .array items => itemsValid items
  | .object fields => fieldsValid fields
  | _ => true

/-- All items hold valid dates only. -/
def itemsValid : List SerializableValue → Bool
  | [] => true
  | item :: rest => datesValid item && itemsValid rest

/-- All fields hold valid dates only. -/
def fieldsValid : List (String × SerializableValue) → Bool
  | [] => true
  | (_, value) :: rest => datesValid value && fieldsValid rest

end

mutual

/-- The value can be told from its frozen form: its dates are valid and its numbers finite, no
object looks like a marked date, and none has a field named as its prototype.
-/
def survives (dates : DateFormat) : SerializableValue → Bool
  | .number (.finite _) => true
  | .number _ => false
  | .date instant => instant.isSome
  | .array items => itemsSurvive dates items
  | .object fields => (markedDate dates fields).isNone && fieldsSurvive dates fields
  | .null => true
  | .boolean _ => true
  | .text _ => true

/-- All items survive. -/
def itemsSurvive (dates : DateFormat) : List SerializableValue → Bool
  | [] => true
  | item :: rest => survives dates item && itemsSurvive dates rest

/-- All fields survive. -/
def fieldsSurvive (dates : DateFormat) : List (String × SerializableValue) → Bool
  | [] => true
  | (key, value) :: rest =>
      key ≠ prototypeKey && survives dates value && fieldsSurvive dates rest

end

mutual

/-- The value is left alone by JSON: it has no dates, and its numbers are finite. -/
def isPlain : SerializableValue → Bool
  | .number (.finite _) => true
  | .number _ => false
  | .date _ => false
  | .array items => itemsPlain items
  | .object fields => fieldsPlain fields
  | .null => true
  | .boolean _ => true
  | .text _ => true

/-- All items are left alone. -/
def itemsPlain : List SerializableValue → Bool
  | [] => true
  | item :: rest => isPlain item && itemsPlain rest

/-- All fields are left alone. -/
def fieldsPlain : List (String × SerializableValue) → Bool
  | [] => true
  | (_, value) :: rest => isPlain value && fieldsPlain rest

end

variable {dates : DateFormat}

/-- Two steps that may throw succeed exactly when both do. -/
theorem bind_eq_ok {ε τ υ : Type} {first : Except ε τ} {second : τ → Except ε υ} {result : υ}
    : (first >>= second) = .ok result
      ↔ ∃ value, first = .ok value ∧ second value = .ok result := by
  cases first with
  | error error => simp [bind, Except.bind]
  | ok value => simp [bind, Except.bind]

/-- Returning a value succeeds with that value. -/
theorem return_eq_ok {ε τ : Type} {value result : τ}
    : (pure value : Except ε τ) = .ok result ↔ value = result := by
  simp [pure, Except.pure]

mutual

/-- Freezing succeeds exactly on values with valid dates, by recursion on the value. -/
theorem freezeDates_isOk : (value : SerializableValue)
    → ((∃ frozen, freezeDates dates value = .ok frozen) ↔ datesValid value = true)
  | .null | .boolean _ | .number _ | .text _ => by simp [freezeDates, datesValid]
  | .date none => by simp [freezeDates, datesValid]
  | .date (some _) => by simp [freezeDates, datesValid]
  | .array items => by
      simp only [freezeDates, datesValid, bind_eq_ok, ← freezeItems_isOk items]
      exact ⟨fun ⟨_, items, ok, _⟩ => ⟨items, ok⟩, fun ⟨items, ok⟩ => ⟨_, items, ok, rfl⟩⟩
  | .object fields => by
      simp only [freezeDates, datesValid, bind_eq_ok, ← freezeFields_isOk fields]
      exact ⟨fun ⟨_, fields, ok, _⟩ => ⟨fields, ok⟩, fun ⟨fields, ok⟩ => ⟨_, fields, ok, rfl⟩⟩

/-- Freezing the items of an array succeeds exactly when all dates are valid. -/
theorem freezeItems_isOk : (items : List SerializableValue)
    → ((∃ frozen, freezeItems dates items = .ok frozen) ↔ itemsValid items = true)
  | [] => by simp [freezeItems, itemsValid]
  | item :: rest => by
      simp only [freezeItems, itemsValid, bind_eq_ok, Bool.and_eq_true,
        ← freezeDates_isOk item, ← freezeItems_isOk rest]
      exact ⟨fun ⟨_, first, ok, later, restOk, _⟩ => ⟨⟨first, ok⟩, later, restOk⟩,
        fun ⟨⟨first, ok⟩, later, restOk⟩ => ⟨_, first, ok, later, restOk, rfl⟩⟩

/-- Freezing the fields of an object succeeds exactly when all dates are valid. -/
theorem freezeFields_isOk : (fields : List (String × SerializableValue))
    → ((∃ frozen, freezeFields dates fields = .ok frozen) ↔ fieldsValid fields = true)
  | [] => by simp [freezeFields, fieldsValid]
  | (_, value) :: rest => by
      simp only [freezeFields, fieldsValid, bind_eq_ok, Bool.and_eq_true,
        ← freezeDates_isOk value, ← freezeFields_isOk rest]
      exact ⟨fun ⟨_, first, ok, later, restOk, _⟩ => ⟨⟨first, ok⟩, later, restOk⟩,
        fun ⟨⟨first, ok⟩, later, restOk⟩ => ⟨_, first, ok, later, restOk, rfl⟩⟩

end

/-- An object is a marked date exactly when its only field is the marker with a readable text.
-/
theorem markedDate_eq_some_iff {fields : List (String × SerializableValue)} {instant : Instant}
    : markedDate dates fields = some instant
      ↔ ∃ marker, fields = [(dateMarker, .text marker)] ∧ dates.parse marker = some instant := by
  constructor
  · intro marked
    unfold markedDate at marked
    split at marked
    · rename_i marker found
      split at marked
      · rename_i single
        obtain ⟨⟨key, value⟩, rfl⟩ := List.length_eq_one_iff.mp single
        by_cases isMarker : dateMarker = key
        · obtain rfl : value = .text marker := by simpa [isMarker] using found
          exact ⟨marker, by rw [isMarker], marked⟩
        · simp [List.lookup_cons, beq_eq_false_iff_ne.mpr isMarker] at found
      · cases marked
    · cases marked
  · intro given
    obtain ⟨marker, rfl, parsed⟩ := given
    simpa [markedDate] using parsed

/-- Thawing never leaves a field named as the prototype, by induction on the fields. -/
theorem prototypeKey_notMem_thawFields {dates : DateFormat}
    (fields : List (String × SerializableValue))
    : prototypeKey ∉ (thawFields dates fields).map Prod.fst := by
  induction fields with
  | nil => simp [thawFields]
  | cons field rest ih =>
      obtain ⟨key, value⟩ := field
      unfold thawFields assignField
      split
      · exact ih
      · rename_i other
        exact fun member => (List.mem_cons.mp member).elim (Ne.symm other) ih

mutual

/-- A value comes back from its frozen form exactly when it survives, by recursion on it. -/
theorem thaw_freeze_iff : (value : SerializableValue)
    → ((∃ frozen,
            freezeDates dates value = .ok frozen
            ∧ thawDates dates (jsonRoundTrip dates frozen) = value)
        ↔ survives dates value = true)
  | .null | .boolean _ | .text _ => by simp [freezeDates, jsonRoundTrip, thawDates, survives]
  | .number (.finite _) => by simp [freezeDates, jsonRoundTrip, thawDates, survives]
  | .number .nan => by simp [freezeDates, jsonRoundTrip, thawDates, survives]
  | .number (.infinity _) => by simp [freezeDates, jsonRoundTrip, thawDates, survives]
  | .date none => by simp [freezeDates, survives]
  | .date (some instant) => by
      have marked
          : markedDate dates [(dateMarker, .text (dates.toISOString instant))] = some instant :=
        markedDate_eq_some_iff.mpr ⟨_, rfl, dates.parse_toISOString instant⟩
      simp [freezeDates, jsonRoundTrip, jsonFields, thawDates, marked, survives]
  | .array items => by
      simp only [freezeDates, survives, bind_eq_ok, return_eq_ok, ← thaw_freeze_items_iff items]
      constructor
      · intro given
        obtain ⟨_, ⟨frozen, ok, rfl⟩, same⟩ := given
        exact ⟨frozen, ok, SerializableValue.array.inj same⟩
      · intro given
        obtain ⟨frozen, ok, same⟩ := given
        exact ⟨_, ⟨frozen, ok, rfl⟩, congrArg SerializableValue.array same⟩
  | .object fields => by
      simp only [freezeDates, survives, bind_eq_ok, return_eq_ok, Bool.and_eq_true,
        ← thaw_freeze_fields_iff fields]
      constructor
      · intro given
        obtain ⟨_, ⟨frozen, ok, rfl⟩, same⟩ := given
        simp only [jsonRoundTrip, thawDates] at same
        split at same
        · cases same
        · rename_i unmarked
          refine ⟨?_, frozen, ok, SerializableValue.object.inj same⟩
          -- A marked date is frozen and sent as it is, so it would be marked there as well.
          rw [Option.isNone_iff_eq_none]
          cases marked : markedDate dates fields with
          | none => rfl
          | some instant =>
              obtain ⟨marker, rfl, parsed⟩ := markedDate_eq_some_iff.mp marked
              obtain rfl : [(dateMarker, .text marker)] = frozen := Except.ok.inj ok
              have sent := markedDate_eq_some_iff.mpr ⟨marker, rfl, parsed⟩
              cases unmarked.symm.trans sent
      · intro given
        obtain ⟨unmarked, frozen, ok, same⟩ := given
        refine ⟨_, ⟨frozen, ok, rfl⟩, ?_⟩
        simp only [jsonRoundTrip, thawDates]
        split
        · rename_i instant marked
          obtain ⟨marker, sent, parsed⟩ := markedDate_eq_some_iff.mp marked
          rw [sent] at same
          obtain rfl : [(dateMarker, .text marker)] = fields := same
          have back := markedDate_eq_some_iff.mpr ⟨marker, rfl, parsed⟩
          simp [back] at unmarked
        · exact congrArg SerializableValue.object same

/-- The items of an array come back exactly when all survive. -/
theorem thaw_freeze_items_iff : (items : List SerializableValue)
    → ((∃ frozen,
            freezeItems dates items = .ok frozen
            ∧ thawItems dates (jsonItems dates frozen) = items)
        ↔ itemsSurvive dates items = true)
  | [] => by simp [freezeItems, jsonItems, thawItems, itemsSurvive]
  | item :: rest => by
      simp only [freezeItems, itemsSurvive, bind_eq_ok, return_eq_ok, Bool.and_eq_true,
        ← thaw_freeze_iff item, ← thaw_freeze_items_iff rest]
      constructor
      · intro given
        obtain ⟨_, ⟨first, ok, later, restOk, rfl⟩, same⟩ := given
        obtain ⟨sameFirst, sameRest⟩ := List.cons.inj same
        exact ⟨⟨first, ok, sameFirst⟩, later, restOk, sameRest⟩
      · intro given
        obtain ⟨⟨first, ok, sameFirst⟩, later, restOk, sameRest⟩ := given
        refine ⟨_, ⟨first, ok, later, restOk, rfl⟩, ?_⟩
        simp only [jsonItems, thawItems, sameFirst, sameRest]

/-- The fields of an object come back exactly when all survive. -/
theorem thaw_freeze_fields_iff : (fields : List (String × SerializableValue))
    → ((∃ frozen,
            freezeFields dates fields = .ok frozen
            ∧ thawFields dates (jsonFields dates frozen) = fields)
        ↔ fieldsSurvive dates fields = true)
  | [] => by simp [freezeFields, jsonFields, thawFields, fieldsSurvive]
  | (key, value) :: rest => by
      simp only [freezeFields, fieldsSurvive, bind_eq_ok, return_eq_ok, Bool.and_eq_true, ne_eq,
        decide_not, Bool.not_eq_true', decide_eq_false_iff_not,
        ← thaw_freeze_iff value, ← thaw_freeze_fields_iff rest]
      by_cases isPrototype : key = prototypeKey
      · subst isPrototype
        -- A field named as the prototype is assigned to the prototype and so is lost.
        refine iff_of_false ?_ (fun ⟨⟨other, _⟩, _⟩ => other rfl)
        intro given
        obtain ⟨frozen, _, same⟩ := given
        apply prototypeKey_notMem_thawFields (jsonFields dates frozen)
        rw [same]
        exact List.mem_cons_self
      · have assign (frozen : SerializableValue) (later : List (String × SerializableValue))
            : assignField key frozen later = (key, frozen) :: later := if_neg isPrototype
        constructor
        · intro given
          obtain ⟨_, ⟨first, ok, later, restOk, rfl⟩, same⟩ := given
          rw [assign] at same
          simp only [jsonFields, thawFields, assign] at same
          obtain ⟨sameFirst, sameRest⟩ := List.cons.inj same
          exact ⟨⟨isPrototype, first, ok, (Prod.mk.inj sameFirst).2⟩, later, restOk, sameRest⟩
        · intro given
          obtain ⟨⟨_, first, ok, sameFirst⟩, later, restOk, sameRest⟩ := given
          refine ⟨_, ⟨first, ok, later, restOk, rfl⟩, ?_⟩
          rw [assign]
          simp only [jsonFields, thawFields, assign, sameFirst, sameRest]

end

mutual

/-- JSON leaves exactly the plain values alone, by recursion on the value. -/
theorem jsonRoundTrip_eq_self_iff : (value : SerializableValue)
    → (jsonRoundTrip dates value = value ↔ isPlain value = true)
  | .null | .boolean _ | .text _ => by simp [jsonRoundTrip, isPlain]
  | .number (.finite _) => by simp [jsonRoundTrip, isPlain]
  | .number .nan => by simp [jsonRoundTrip, isPlain]
  | .number (.infinity _) => by simp [jsonRoundTrip, isPlain]
  | .date none => by simp [jsonRoundTrip, isPlain]
  | .date (some _) => by simp [jsonRoundTrip, isPlain]
  | .array items => by
      simp only [jsonRoundTrip, isPlain, SerializableValue.array.injEq]
      exact jsonItems_eq_self_iff items
  | .object fields => by
      simp only [jsonRoundTrip, isPlain, SerializableValue.object.injEq]
      exact jsonFields_eq_self_iff fields

/-- JSON leaves exactly the arrays of plain items alone. -/
theorem jsonItems_eq_self_iff : (items : List SerializableValue)
    → (jsonItems dates items = items ↔ itemsPlain items = true)
  | [] => by simp [jsonItems, itemsPlain]
  | item :: rest => by
      simp only [jsonItems, itemsPlain, List.cons.injEq, Bool.and_eq_true,
        jsonRoundTrip_eq_self_iff item, jsonItems_eq_self_iff rest]

/-- JSON leaves exactly the objects with plain fields alone. -/
theorem jsonFields_eq_self_iff : (fields : List (String × SerializableValue))
    → (jsonFields dates fields = fields ↔ fieldsPlain fields = true)
  | [] => by simp [jsonFields, fieldsPlain]
  | (_, value) :: rest => by
      simp only [jsonFields, fieldsPlain, List.cons.injEq, Prod.mk.injEq, true_and,
        Bool.and_eq_true, jsonRoundTrip_eq_self_iff value, jsonFields_eq_self_iff rest]

end

end Axionvera.Client.Hydration
