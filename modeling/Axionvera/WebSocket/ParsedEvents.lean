import Axionvera.Events.EventDispatcher
import Axionvera.Foundation.JsNumber
import Axionvera.Xdr.XdrValidator

/-! How raw events are parsed (`utils/soroban.ts`) and matched with filters
(`client/websocket/websocketManager.ts`).
-/

namespace Axionvera.WebSocket

open Axionvera.Foundation
open Axionvera.Events (SorobanEvent SorobanEventType EventFilter present)

/-- An `xdr.ScVal`, as far as it can be read: `text` stands for the arms `sym` and `str`, `number`
and `bigint` for the wide integers, and `unreadable` for values that lack what is read or throw.
-/
inductive ScVal where
  | text (value : String)
  | number (value : JsNumber)
  | bigint (value : Int)
  | boolean (value : Bool)
  | void
  | other (printed : String)
  | unreadable

/-- `DecodedTopic`, without lists, which are never decoded. -/
inductive DecodedTopic where
  | text (value : String)
  | number (value : JsNumber)
  | bigint (value : Int)
  | boolean (value : Bool)
  | null
  deriving DecidableEq

/-- `decodeSorobanSymbol`. -/
def decodeSorobanSymbol : ScVal → String
  | .text value => value
  | _ => ""

/-- `decodeScVal`. -/
def decodeScVal : ScVal → DecodedTopic
  | .text value => .text value
  | .number value => .number value
  | .bigint value => .bigint value
  | .boolean value => .boolean value
  | .void | .unreadable => .null
  | .other printed => .text printed

/-- `decodeXdrBase64`, which throws for texts that are not valid, or that `ScVal.fromXDR` rejects.
Its cache only saves decoding a text again.
-/
def decodeXdrBase64 (fromXDR : String → Option ScVal) (input : String) : Option ScVal :=
  if Xdr.isValidXDR (codeUnits input) then fromXDR input else none

/-- A raw event with what `parseEvents` and the filters are about. -/
structure RawEvent where
  type : String
  contractId : String
  topic : List String
  data : Option String := none

/-- `ParseEventsOptions`, without `includeRaw`, which adds the raw event to the result. -/
structure ParseEventsOptions where
  filterDiagnostic : Bool := false

/-- `ParsedEvent`. -/
structure ParsedEvent where
  topics : List DecodedTopic
  data : Option DecodedTopic
  eventName : Option String
  isDiagnostic : Bool

/-- `isDiagnosticEvent`. -/
def isDiagnosticEvent (fromXDR : String → Option ScVal) (event : RawEvent) : Bool :=
  event.type = "diagnostic"
  || match event.topic.head? >>= decodeXdrBase64 fromXDR with
    | none => false
    | some decoded =>
        decodeSorobanSymbol decoded = "diagnostic" || (decodeSorobanSymbol decoded).startsWith "_"

/-- A text that cannot be decoded stays as it is. -/
def decodeOrKeep (fromXDR : String → Option ScVal) (encoded : String) : DecodedTopic :=
  match decodeXdrBase64 fromXDR encoded with
  | some decoded => decodeScVal decoded
  | none => .text encoded

/-- The topics of a raw event, decoded. -/
def decodedTopics (fromXDR : String → Option ScVal) (event : RawEvent) : List DecodedTopic :=
  event.topic.map (decodeOrKeep fromXDR)

/-- `parseEvents`. -/
def parseEvents (fromXDR : String → Option ScVal) (events : List RawEvent)
    (options : ParseEventsOptions) : List ParsedEvent :=
  events.filterMap fun event =>
    let isDiagnostic := isDiagnosticEvent fromXDR event
    if options.filterDiagnostic && isDiagnostic then none
    else
      let topics := decodedTopics fromXDR event
      some
        {
          topics := topics
          data := (present event.data).map (decodeOrKeep fromXDR)
          eventName :=
            match topics.head? with
            | some (.text name) => some name
            | _ => none
          isDiagnostic := isDiagnostic
        }

/-- `parseSorobanEvent`, given a generated id and the time. A `ParsedEvent` has no `id`, `type`,
`contractId`, `topic`, `ledger` and `timestamp`, so that these are undefined. Without a parsed
event it throws.
-/
def parseSorobanEvent (fromXDR : String → Option ScVal) (rawEvent : RawEvent) (generatedId : String)
    (now : Int) : Option SorobanEvent :=
  match (parseEvents fromXDR [rawEvent] {}).head? with
  | none => none
  | some parsed =>
      some
        {
          id := generatedId
          type := .contract
          contractId := none
          topic := none
          topics := []
          eventName := parsed.eventName
          ledger := 0
          timestamp := now
        }

/-- `values && wanted && !values.includes(wanted)`. -/
def rejects {α : Type} [DecidableEq α] (values : Option (List α)) (wanted : Option α) : Bool :=
  match values, wanted with
  | some values, some wanted => wanted ∉ values
  | _, _ => false

/-- `eventMatchesFilter`. Unlike in a dispatcher, an empty list matches nothing. -/
def eventMatchesFilter (event : SorobanEvent) (filter : EventFilter) : Bool :=
  if rejects filter.contractIds (present event.contractId) then false
  else if rejects filter.topics (present event.topic) then false
  else !rejects filter.eventTypes (some event.type)

/-- What a filter says about a raw event: its contract id, one of its decoded topics and its type
are in the lists that are given.
-/
def rawMatches (fromXDR : String → Option ScVal) (event : RawEvent) (filter : EventFilter) : Bool :=
  filter.contractIds.all (fun contractIds => event.contractId ∈ contractIds)
  && filter.topics.all (fun topics =>
    topics.any fun topic => .text topic ∈ decodedTopics fromXDR event)
  && filter.eventTypes.all (fun eventTypes =>
    eventTypes.any fun eventType => eventType.text = event.type)

/-- The filter asks for no types, or for contract events among others. -/
def acceptsContract (filter : EventFilter) : Bool :=
  filter.eventTypes.all (fun eventTypes => SorobanEventType.contract ∈ eventTypes)

variable {fromXDR : String → Option ScVal} {rawEvent : RawEvent} {generatedId : String} {now : Int}

/-- Every raw event is parsed. -/
theorem parseSorobanEvent_isSome
    : (parseSorobanEvent fromXDR rawEvent generatedId now).isSome = true := by
  simp [parseSorobanEvent, parseEvents]

/-- A parsed event has lost what the filters look at: only the types of a filter still count, and
all events are contract events.
-/
theorem eventMatchesFilter_parseSorobanEvent {event : SorobanEvent}
    (parsed : parseSorobanEvent fromXDR rawEvent generatedId now = some event)
    (filter : EventFilter)
    : eventMatchesFilter event filter = acceptsContract filter := by
  unfold parseSorobanEvent at parsed
  split at parsed
  · cases parsed
  · obtain rfl := Option.some.inj parsed
    cases types : filter.eventTypes with
    | none => simp [eventMatchesFilter, rejects, present, acceptsContract, types]
    | some eventTypes => simp [eventMatchesFilter, rejects, present, acceptsContract, types]

end Axionvera.WebSocket
