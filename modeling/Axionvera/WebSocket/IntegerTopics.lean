import Axionvera.Soroban.SimulationParser
import Axionvera.WebSocket.ParsedEvents
import Mathlib.Data.List.Forall2

/-! What is parsed of integers in raw events. `decodeScVal` of `utils/soroban.ts` calls `toNumber`
of an object, or reads its text, and the parts of an integer have neither of their own.
-/

namespace Axionvera.WebSocket

open Axionvera.Foundation
open Axionvera.Events (present)

-----------------------------------------------------------------------------------------
-- Reading values of contracts
-----------------------------------------------------------------------------------------

/-- An object, as far as an integer is read from it: what its method `toNumber` returns, if it has
one, and its text.
-/
structure IntegerObject where
  toNumber : Option JsNumber
  text : String

/-- The text of objects without one of their own. -/
def objectText : String :=
  "[object Object]"

/-- The parts of an integer of 128 or 256 bits, which `value()` returns. -/
def integerParts : IntegerObject where
  toNumber := none
  text := objectText

/-- The number of decimal digits. -/
def digitsValue (digits : List Char) : Nat :=
  digits.foldl (fun value digit => value * 10 + (digit.toNat - '0'.toNat)) 0

/-- `BigInt(text)`, which throws for what is no integer, for texts without blanks around them and
without the prefix of another radix.
-/
def bigIntOfText (text : String) : Option Int :=
  match text.toList with
  | '-' :: first :: digits =>
      if (first :: digits).all Char.isDigit then some (-digitsValue (first :: digits)) else none
  | digits => if digits.all Char.isDigit then some (digitsValue digits) else none

/-- The branches of `decodeScVal` for integers of 128 and 256 bits: what throws is caught. -/
def readInteger (value : IntegerObject) : ScVal :=
  match value.toNumber with
  | some number => .number number
  | none =>
      match bigIntOfText value.text with
      | some integer => .bigint integer
      | none => .unreadable

/-- What `decodeScVal` and `decodeSorobanSymbol` read of a value of a contract, by its arm. The text
of a value of another arm is that of an object. This assumes that `arm()` names the arm of every
value, so that the ones without content are read as `null`; a library whose `arm()` of such a value
is no text would have them read as objects. None of them is an integer.
-/
def readArm (host : Soroban.SdkHost) : Soroban.ScVal → ScVal
  | .symbol bytes | .string bytes => .text (host.utf8Text bytes)
  | .i128 _ _ | .i256 _ _ _ _ => readInteger integerParts
  | .u128 _ _ | .u256 _ _ _ _ => readInteger integerParts
  | .bool b => .boolean b
  | .void | .other .ledgerKeyContractInstance => .void
  | .u32 _ | .i32 _ | .u64 _ | .i64 _ | .bytes _ | .address _ | .vec _ | .absentVec | .map _
  | .absentMap | .other _ => .other objectText

/-- `ScVal.fromXDR`, with what is read of its result. -/
def reading (host : Soroban.SdkHost) (fromXDR : String → Option Soroban.ScVal) (input : String)
    : Option ScVal :=
  (fromXDR input).map (readArm host)

-----------------------------------------------------------------------------------------
-- Reported integers
-----------------------------------------------------------------------------------------

/-- The decoded value is the integer. -/
def DecodedTopic.denotes (integer : Int) : DecodedTopic → Prop
  | .number value => value = .finite integer
  | .bigint value => value = integer
  | .text _ | .boolean _ | .null => False

/-- (ReportsInteger fromXDR encoded decoded) requires the decoded value to be the integer if an
integer is encoded.
-/
def ReportsInteger (fromXDR : String → Option Soroban.ScVal) (encoded : String)
    (decoded : Option DecodedTopic) : Prop :=
  ∀ value integer,
    fromXDR encoded = some value
    → value.integer = some integer
    → ∃ topic, decoded = some topic ∧ topic.denotes integer

/-- A parsed event has as many topics as the raw one, and reports the integers of its topics and
data.
-/
structure ReportsIntegers (fromXDR : String → Option Soroban.ScVal) (event : RawEvent)
    (parsed : ParsedEvent) : Prop where
  topicCount : parsed.topics.length = event.topic.length
  topics
    : ∀ (index : Nat) encoded,
        event.topic[index]? = some encoded
        → ReportsInteger fromXDR encoded parsed.topics[index]?
  data
    : ∀ encoded, present event.data = some encoded → ReportsInteger fromXDR encoded parsed.data

/-- The event is not filtered. -/
def isKept (host : Soroban.SdkHost) (fromXDR : String → Option Soroban.ScVal)
    (options : ParseEventsOptions) (event : RawEvent) : Bool :=
  !(options.filterDiagnostic && isDiagnosticEvent (reading host fromXDR) event)

/-- No topic of the event is an integer, and its data is none. -/
def HasNoIntegers (fromXDR : String → Option Soroban.ScVal) (event : RawEvent) : Prop :=
  ∀ encoded ∈ event.topic ++ (present event.data).toList,
    ∀ value, fromXDR encoded = some value → value.integer = none

variable {host : Soroban.SdkHost} {fromXDR : String → Option Soroban.ScVal}

/-- What is parsed of an event that is not filtered. -/
def parsedEvent (fromXDR : String → Option ScVal) (event : RawEvent) : ParsedEvent where
  topics := decodedTopics fromXDR event
  data := (present event.data).map (decodeOrKeep fromXDR)
  eventName :=
    match (decodedTopics fromXDR event).head? with
    | some (.text name) => some name
    | _ => none
  isDiagnostic := isDiagnosticEvent fromXDR event

/-- The events that are not filtered are parsed in order, by induction on them. -/
theorem parseEvents_eq_map (events : List RawEvent) (options : ParseEventsOptions)
    : parseEvents (reading host fromXDR) events options
      = (events.filter (isKept host fromXDR options)).map (parsedEvent (reading host fromXDR)) := by
  induction events with
  | nil => rfl
  | cons event events ih =>
      cases isFiltered : options.filterDiagnostic && isDiagnosticEvent (reading host fromXDR) event
      · have kept : isKept host fromXDR options event = true := by rw [isKept, isFiltered]; rfl
        rw [List.filter_cons_of_pos kept, List.map_cons, ← ih]
        exact List.filterMap_cons_some (if_neg (Bool.eq_false_iff.mp isFiltered))
      · have notKept : ¬ isKept host fromXDR options event = true := by
          rw [isKept, isFiltered]
          exact Bool.false_ne_true
        rw [List.filter_cons_of_neg notKept, ← ih]
        exact List.filterMap_cons_none (if_pos isFiltered)

/-- The text of an object is no integer. -/
theorem bigIntOfText_objectText : bigIntOfText objectText = none :=
  rfl

/-- So `BigInt` throws for the parts of an integer. -/
theorem readInteger_integerParts : readInteger integerParts = .unreadable := by
  simp only [readInteger, integerParts, bigIntOfText_objectText]

/-- Nothing that is decoded of an integer is the integer. -/
theorem not_denotes {encoded : String} {value : Soroban.ScVal} {integer : Int}
    (isValue : fromXDR encoded = some value) (isInteger : value.integer = some integer)
    : ¬ (decodeOrKeep (reading host fromXDR) encoded).denotes integer := by
  have isRead : reading host fromXDR encoded = some (readArm host value) := by
    rw [reading, isValue, Option.map_some]
  rw [decodeOrKeep, decodeXdrBase64, isRead]
  cases Xdr.isValidXDR (codeUnits encoded) with
  | false => exact id
  | true =>
      cases value with
      | u32 | i32 | u64 | i64 => exact id
      | u128 | i128 | u256 | i256 =>
          simp only [readArm, readInteger_integerParts]
          exact id
      | void | bool | symbol | string | bytes | address | vec | absentVec | map | absentMap
      | other => cases isInteger

/-- What is decoded reports an integer exactly if there is none. -/
theorem reportsInteger_iff (encoded : String)
    : ReportsInteger fromXDR encoded (some (decodeOrKeep (reading host fromXDR) encoded))
      ↔ ∀ value, fromXDR encoded = some value → value.integer = none := by
  constructor
  · intro reports value isValue
    by_contra isInteger
    obtain ⟨integer, isInteger⟩ := Option.ne_none_iff_exists'.mp isInteger
    obtain ⟨topic, isDecoded, denotes⟩ := reports value integer isValue isInteger
    obtain rfl := Option.some.inj isDecoded
    exact not_denotes isValue isInteger denotes
  · intro noInteger value integer isValue isInteger
    rw [noInteger value isValue] at isInteger
    cases isInteger

/-- What is parsed of an event reports its integers exactly if it has none. -/
theorem reportsIntegers_iff (event : RawEvent)
    : ReportsIntegers fromXDR event (parsedEvent (reading host fromXDR) event)
      ↔ HasNoIntegers fromXDR event := by
  constructor
  · intro reports encoded member
    rcases List.mem_append.mp member with isTopic | isData
    · obtain ⟨index, isTopic⟩ := List.mem_iff_getElem?.mp isTopic
      have reported := reports.topics index encoded isTopic
      simp only [parsedEvent, decodedTopics, List.getElem?_map, isTopic, Option.map_some]
        at reported
      exact (reportsInteger_iff encoded).mp reported
    · have isData := Option.mem_toList.mp isData
      have reported := reports.data encoded isData
      simp only [parsedEvent, Option.mem_def.mp isData, Option.map_some] at reported
      exact (reportsInteger_iff encoded).mp reported
  · intro noIntegers
    refine ⟨List.length_map .., fun index encoded isTopic => ?_, fun encoded isData => ?_⟩
    · have member := List.mem_append_left (present event.data).toList
        (List.mem_iff_getElem?.mpr ⟨index, isTopic⟩)
      simp only [parsedEvent, decodedTopics, List.getElem?_map, isTopic, Option.map_some]
      exact (reportsInteger_iff encoded).mpr (noIntegers encoded member)
    · have member := List.mem_append_right event.topic (Option.mem_toList.mpr isData)
      simp only [parsedEvent, isData, Option.map_some]
      exact (reportsInteger_iff encoded).mpr (noIntegers encoded member)

/-- Every event that is not filtered is parsed in order with its topics, and all their integers are
reported exactly if there are none.
-/
theorem parseEvents_reports_integers_iff (host : Soroban.SdkHost)
    (fromXDR : String → Option Soroban.ScVal) (events : List RawEvent)
    (options : ParseEventsOptions)
    : List.Forall₂ (fun event parsed => parsed.topics.length = event.topic.length)
        (events.filter (isKept host fromXDR options))
        (parseEvents (reading host fromXDR) events options)
      ∧ (List.Forall₂ (ReportsIntegers fromXDR) (events.filter (isKept host fromXDR options))
            (parseEvents (reading host fromXDR) events options)
          ↔ ∀ event ∈ events,
              isKept host fromXDR options event = true → HasNoIntegers fromXDR event) := by
  rw [parseEvents_eq_map, List.forall₂_map_right_iff, List.forall₂_map_right_iff,
    List.forall₂_same, List.forall₂_same]
  refine ⟨fun event _ => List.length_map .., ?_⟩
  simp only [reportsIntegers_iff, List.mem_filter, and_imp]

/-- The text of the `i128` 1000. -/
def encodedThousand : String :=
  "AAAACgAAAAAAAAAAAAAAAAAAA+g="

/-- The data of an event with the `i128` 1000 is decoded to nothing. -/
theorem parseEvents_loses_an_integer
    : ¬ ∀ host fromXDR events options,
          List.Forall₂ (ReportsIntegers fromXDR) (events.filter (isKept host fromXDR options))
            (parseEvents (reading host fromXDR) events options) := by
  intro always
  have reported := always .ascii
    (fun encoded => if encoded = encodedThousand then some (.i128 0 1000) else none)
    [{ type := "contract", contractId := "C", topic := [], data := some encodedThousand }] {}
  rw [parseEvents_eq_map, List.forall₂_map_right_iff, List.forall₂_same] at reported
  have ofEvent := reported _ (List.mem_filter.mpr ⟨List.mem_singleton_self _, rfl⟩)
  have noIntegers := (reportsIntegers_iff _).mp ofEvent
  cases noIntegers encodedThousand (List.mem_singleton_self _) _ rfl

end Axionvera.WebSocket
