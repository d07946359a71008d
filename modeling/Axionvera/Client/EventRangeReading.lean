import Axionvera.Client.EventFetching
import Axionvera.Foundation.OrderedLog

/-! What a fetch of all pages returns when the server reads a ledger-ordered event store. -/

namespace Axionvera.Client.ContractEvents

open Axionvera.Errors
open Axionvera.Http
open Axionvera.Foundation

variable {ν : Type}

/-- The events of a contract in ledger order, each with its own paging token. -/
structure EventStore (ν : Type) where
  events : List (EventResponse ν)
  ordered : events.Pairwise (fun first second => first.ledger ≤ second.ledger)
  tokened : ∀ event ∈ events, ∃ token, event.pagingToken = some token ∧ token ≠ ""
  unique : (events.map EventResponse.pagingToken).Nodup

namespace EventStore

/-- The store as a log ranked by ledger and keyed by paging token. -/
def toLog (store : EventStore ν) : OrderedLog (EventResponse ν) (Option String) :=
  {
    entries := store.events
    rank := EventResponse.ledger
    key := EventResponse.pagingToken
    ranked := store.ordered
    keyed := store.unique
  }

/-- The events of the ledgers from `low` to `high`. -/
def eventsIn (store : EventStore ν) (low high : Nat) : List (EventResponse ν) :=
  store.toLog.range low high

/-- The events of these ledgers that follow a cursor. -/
def eventsAfter (store : EventStore ν) (low high : Nat) (cursor : Option String)
    : List (EventResponse ν) :=
  store.toLog.window low high (cursor.map some)

/-- The event follows the cursor. -/
def follows (store : EventStore ν) (cursor : Option String) (event : EventResponse ν) : Bool :=
  store.toLog.isAfter (cursor.map some) event

/-- The events a request asks for. -/
def requested (store : EventStore ν) (request : GetEventsRequest)
    : List (EventResponse ν) :=
  store.eventsAfter request.startLedger request.endLedger request.cursor

end EventStore

/-- The page response that lists the given events: its token is that of the last event. -/
def pageOf (page : List (EventResponse ν)) : GetEventsResponse ν :=
  ⟨some page, page.getLast?.bind EventResponse.pagingToken⟩

/-- The answers a server reading the store may give: a payload-too-large error, or the next
events that were asked for. A page is empty only when there are none, and obeys the limit.
-/
inductive StoreAnswers (store : EventStore ν) (request : GetEventsRequest)
    : Except Thrown (GetEventsResponse ν) → Prop
  | tooLarge (error : ErrorLike)
    (status : error.response.bind ErrorResponse.status = some 413)
    (message : error.message = some "Payload Too Large")
    : StoreAnswers store request (.error (.value error))
  | page (page rest : List (EventResponse ν)) (next : store.requested request = page ++ rest)
    (progress : page = [] → rest = [])
    (bounded : ∀ limit, request.limit = some limit → page.length ≤ limit)
    : StoreAnswers store request (.ok (pageOf page))

/-- The server reads the store, whatever it was asked before. -/
def Serves (client : EventsClient ν) (store : EventStore ν) : Prop :=
  ∀ history request, StoreAnswers store request (client.getEvents history request)

/-- The standard 413 message survives normalisation and is recognised there. -/
theorem payloadTooLarge_recognised {error : ErrorLike}
    (message : error.message = some "Payload Too Large")
    : isPayloadTooLarge (.axionvera (toAxionveraError (.value error))) = true := by
  have kept : (toAxionveraError (.value error)).message = "Payload Too Large" := by
    have hasMessage : (some "Payload Too Large").filter hasText = some "Payload Too Large" := by
      decide
    simp [toAxionveraError, getErrorMessage, asErrorLike, message, hasMessage]
  have known : tooLargeMessage "Payload Too Large" = true := by decide
  simp [isPayloadTooLarge, asErrorLike, kept, known]

/-- A page without events ends the loop. -/
theorem nextToken_empty : nextToken (pageOf ([] : List (EventResponse ν))) = none := rfl

/-- A page with events continues the loop at its last event. -/
theorem nextToken_nonempty {page : List (EventResponse ν)} {last : EventResponse ν}
    {token : String} (tokened : last.pagingToken = some token) (text : token ≠ "")
    : nextToken (pageOf (page ++ [last])) = some token := by
  simp [nextToken, pageOf, extractPagingToken, tokened, text]

namespace EventStore

/-- Moving the cursor to the last event of a page leaves the events behind it. -/
theorem eventsAfter_advance {store : EventStore ν} {low high : Nat} {cursor : Option String}
    {page rest : List (EventResponse ν)} {last : EventResponse ν} {token : String}
    (next : store.eventsAfter low high cursor = page ++ last :: rest)
    (tokened : last.pagingToken = some token)
    : store.eventsAfter low high (some token) = rest := by
  have advanced := store.toLog.window_advance next
  rwa [show store.toLog.key last = some token from tokened] at advanced

/-- The events of a range behind a cursor, as a filter. -/
theorem eventsAfter_eq_filter (store : EventStore ν) (low high : Nat) (cursor : Option String)
    : store.eventsAfter low high cursor
      = (store.eventsIn low high).filter (store.follows cursor) :=
  store.toLog.window_eq_filter low high (cursor.map some)

/-- The events of a range of ledgers are those of the store in these ledgers. -/
theorem mem_eventsIn {store : EventStore ν} {low high : Nat} {event : EventResponse ν}
    : event ∈ store.eventsIn low high
      ↔ event ∈ store.events ∧ low ≤ event.ledger ∧ event.ledger ≤ high :=
  store.toLog.mem_range

/-- The events of a range are those of its lower half followed by those of its upper half. -/
theorem eventsIn_halves {store : EventStore ν} {low middle high : Nat}
    (lower : low ≤ middle + 1) (upper : middle ≤ high)
    : store.eventsIn low high
      = store.eventsIn low middle ++ store.eventsIn (middle + 1) high :=
  store.toLog.range_halves lower upper

/-- The requested events lie in the store. -/
theorem mem_events_of_mem_after {store : EventStore ν} {low high : Nat}
    {cursor : Option String} {event : EventResponse ν}
    (member : event ∈ store.eventsAfter low high cursor)
    : event ∈ store.events :=
  (store.toLog.mem_range.mp (store.toLog.mem_range_of_mem_window member)).1

/-- No two requested events share a token. -/
theorem nodup_tokens_after (store : EventStore ν) (low high : Nat) (cursor : Option String)
    : ((store.eventsAfter low high cursor).map EventResponse.pagingToken).Nodup := by
  have within : (store.eventsAfter low high cursor).Sublist store.events :=
    List.filter_sublist.trans (store.toLog.after_suffix _).sublist
  exact store.unique.sublist (within.map _)

end EventStore

/-- How a nonempty or empty page of the server relates to the requested events: either
nothing was left, or the page ends in an event whose token leads to the events behind it.
-/
theorem StoreAnswers.page_cases {store : EventStore ν} {params : RangeParams}
    {cursor : Option String} {response : GetEventsResponse ν}
    (answers : StoreAnswers store (buildGetEventsRequest params cursor) (.ok response))
    : ∃ page,
        response.events = some page
        ∧ ((page = []
              ∧ nextToken response = none
              ∧ store.eventsAfter params.startLedger params.endLedger cursor = [])
          ∨ ∃ front last token rest,
              page = front ++ [last]
              ∧ last.pagingToken = some token
              ∧ nextToken response = some token
              ∧ store.eventsAfter params.startLedger params.endLedger cursor
                = page ++ rest
              ∧ store.eventsAfter params.startLedger params.endLedger (some token)
                = rest) := by
  cases answers with
  | page page rest next progress bounded =>
      have next : store.eventsAfter params.startLedger params.endLedger cursor = page ++ rest := by
        simpa [EventStore.requested] using next
      refine ⟨page, rfl, ?_⟩
      rcases List.eq_nil_or_concat' page with empty | ⟨front, last, whole⟩
      · subst empty
        exact .inl ⟨rfl, rfl, by simpa [progress rfl] using next⟩
      · subst whole
        have member : last ∈ store.events := EventStore.mem_events_of_mem_after
          (show last ∈ store.eventsAfter params.startLedger params.endLedger cursor by simp [next])
        obtain ⟨token, tokened, text⟩ := store.tokened last member
        refine .inr ⟨front, last, token, rest, rfl, tokened,
          nextToken_nonempty tokened text, next, ?_⟩
        exact EventStore.eventsAfter_advance (by simpa using next) tokened

/-- The last of the given requests that asks for the given ledger. -/
def lastCovering (requests : List GetEventsRequest) (ledger : Nat)
    : Option GetEventsRequest :=
  (requests.filter (fun request => request.covers ledger)).getLast?

/-- The event is still read after the request was given up: it lies in the upper half, which
is read from its beginning, or behind the cursor at which the lower half is resumed.
-/
def EventStore.survives (store : EventStore ν) (request : GetEventsRequest)
    (event : EventResponse ν) : Bool :=
  midpoint request.startLedger request.endLedger < event.ledger
    || store.follows request.cursor event

/-- The event is read by a fetch that started at the cursor and gave up these requests. -/
def EventStore.isRead (store : EventStore ν) (givenUp : List GetEventsRequest)
    (cursor : Option String) (event : EventResponse ν) : Bool :=
  match lastCovering givenUp event.ledger with
  | none => store.follows cursor event
  | some request => store.survives request event

/-- The last covering request of two lists is one of the second, if any. -/
theorem lastCovering_append (first second : List GetEventsRequest) (ledger : Nat)
    : lastCovering (first ++ second) ledger
      = (lastCovering second ledger).or (lastCovering first ledger) := by
  simp [lastCovering, List.getLast?_append]

/-- Requests on other ledgers do not count. -/
theorem lastCovering_eq_none {requests : List GetEventsRequest} {ledger : Nat}
    (elsewhere : ∀ request ∈ requests, request.covers ledger = false)
    : lastCovering requests ledger = none := by
  have none : requests.filter (fun request => request.covers ledger) = [] := by
    rw [List.filter_eq_nil_iff]
    exact fun request member => by simp [elsewhere request member]
  simp [lastCovering, none]

/-- A single covering request is the last one. -/
theorem lastCovering_singleton {request : GetEventsRequest} {ledger : Nat}
    (covers : request.covers ledger = true)
    : lastCovering [request] ledger = some request := by
  simp [lastCovering, covers]

/-- A covered ledger has a last covering request. -/
theorem lastCovering_isSome {requests : List GetEventsRequest} {request : GetEventsRequest}
    {ledger : Nat} (member : request ∈ requests) (covers : request.covers ledger = true)
    : (lastCovering requests ledger).isSome = true := by
  have kept : request ∈ requests.filter (fun request => request.covers ledger) :=
    List.mem_filter.mpr ⟨member, covers⟩
  exact List.getLast?_isSome.mpr (List.ne_nil_of_mem kept)

namespace EventStore

variable {store : EventStore ν}

/-- Without given-up requests the events behind the cursor are read. -/
theorem filter_isRead_nil (store : EventStore ν) (low high : Nat) (cursor : Option String)
    : (store.eventsIn low high).filter (store.isRead [] cursor)
      = store.eventsAfter low high cursor := by
  rw [eventsAfter_eq_filter]
  rfl

/-- Once a request covers the event, the cursor at which the fetch started is irrelevant. -/
theorem isRead_of_covered {givenUp : List GetEventsRequest} {request : GetEventsRequest}
    {event : EventResponse ν} (member : request ∈ givenUp)
    (covers : request.covers event.ledger = true) (cursor other : Option String)
    : store.isRead givenUp cursor event = store.isRead givenUp other event := by
  obtain ⟨last, found⟩ := Option.isSome_iff_exists.mp (lastCovering_isSome member covers)
  simp [isRead, found]

/-- Events of the lower half are read as by a fetch of the lower half from the cursor of
the request that was given up.
-/
theorem isRead_lower {request : GetEventsRequest} {lower upper : List GetEventsRequest}
    {event : EventResponse ν} (cursor : Option String)
    (covers : request.covers event.ledger = true)
    (below : event.ledger ≤ midpoint request.startLedger request.endLedger)
    (elsewhere : ∀ other ∈ upper, other.covers event.ledger = false)
    : store.isRead (request :: (lower ++ upper)) cursor event
      = store.isRead lower request.cursor event := by
  have last
      : lastCovering (request :: (lower ++ upper)) event.ledger
        = (lastCovering lower event.ledger).or (some request) := by
    rw [← List.singleton_append, ← List.append_assoc, lastCovering_append, lastCovering_append,
      lastCovering_eq_none elsewhere, lastCovering_singleton covers, Option.none_or]
  cases found : lastCovering lower event.ledger with
  | none => simp [isRead, last, found, survives, Nat.not_lt.mpr below]
  | some other => simp [isRead, last, found]

/-- Events of the upper half are read as by a fetch of the upper half from its beginning. -/
theorem isRead_upper {request : GetEventsRequest} {lower upper : List GetEventsRequest}
    {event : EventResponse ν} (cursor : Option String) (present : event ∈ store.events)
    (covers : request.covers event.ledger = true)
    (above : midpoint request.startLedger request.endLedger < event.ledger)
    (elsewhere : ∀ other ∈ lower, other.covers event.ledger = false)
    : store.isRead (request :: (lower ++ upper)) cursor event
      = store.isRead upper none event := by
  have last
      : lastCovering (request :: (lower ++ upper)) event.ledger
        = (lastCovering upper event.ledger).or (some request) := by
    rw [← List.singleton_append, ← List.append_assoc, lastCovering_append, lastCovering_append,
      lastCovering_eq_none elsewhere, lastCovering_singleton covers, Option.none_or]
  cases found : lastCovering upper event.ledger with
  | none =>
      have follows : store.follows none event = true := store.toLog.isAfter_none present
      simp [isRead, last, found, survives, above, follows]
  | some other => simp [isRead, last, found]

end EventStore

/-- What a resolved fetch did: which exchanges it appended, and which events it returns. The
events collected before are lost as soon as some request of the loop is given up.
-/
structure Reads (client : EventsClient ν) (store : EventStore ν) (params : RangeParams)
    (cursor : Option String) (events : List (ContractEventResult ν))
    (exchanges : List (Exchange ν)) (result : GetContractEventsResult ν)
    : Prop where
  givenUp
    : givenUpRequests exchanges = []
      ∨ ∃ request ∈ givenUpRequests exchanges,
          request.startLedger = params.startLedger ∧ request.endLedger = params.endLedger
  returned
    : result.events
      = (if givenUpRequests exchanges = [] then events else [])
        ++ ((store.eventsIn params.startLedger params.endLedger).filter
              (store.isRead (givenUpRequests exchanges) cursor)).map
            (decodeContractEvent client.scValToNative)

/-- A turn of the loop reads one page and continues behind it. -/
theorem Reads.turn {client : EventsClient ν} {store : EventStore ν} {params : RangeParams}
    {cursor : Option String} {events : List (ContractEventResult ν)}
    {response : GetEventsResponse ν} {page rest : List (EventResponse ν)} {token : String}
    {failures later : List (Exchange ν)} {result : GetContractEventsResult ν}
    (own
      : ∀ exchange ∈ failures, exchange.request = buildGetEventsRequest params cursor)
    (events_eq : response.events = some page)
    (next
      : store.eventsAfter params.startLedger params.endLedger cursor = page ++ rest)
    (behind
      : store.eventsAfter params.startLedger params.endLedger (some token) = rest)
    (reads
      : Reads client store params (some token) (collect client events response) later result)
    : Reads client store params cursor events
        (failures ++ ⟨buildGetEventsRequest params cursor, .ok response⟩ :: later) result := by
  have same : givenUpRequests
        (failures ++ ⟨buildGetEventsRequest params cursor, .ok response⟩ :: later)
      = givenUpRequests later :=
    congrArg (List.map _) (givenUp_resolved response later own)
  refine ⟨by rw [same]; exact reads.givenUp, ?_⟩
  rw [same, reads.returned]
  rcases reads.givenUp with none | ⟨request, member, start, stop⟩
  · -- No request was given up, so the page and the events behind it make up the rest.
    simp [none, EventStore.filter_isRead_nil, next, behind, collect, events_eq]
  · have nonempty : givenUpRequests later ≠ [] := List.ne_nil_of_mem member
    simp only [nonempty, ↓reduceIte, List.nil_append]
    congr 1
    refine List.filter_congr (fun event inRange => ?_)
    have within := (EventStore.mem_eventsIn.mp inRange).2
    -- A given-up request of the whole range hides where this page started.
    refine EventStore.isRead_of_covered member ?_ _ _
    simpa [GetEventsRequest.covers, start, stop] using within

/-- Halving a range reads both halves, and nothing of what was collected before. -/
theorem Reads.halve {client : EventsClient ν} {store : EventStore ν} {params : RangeParams}
    {cursor : Option String} {events : List (ContractEventResult ν)}
    {failures lower upper : List (Exchange ν)} {thrown : Thrown}
    {firstHalf secondHalf : GetContractEventsResult ν} {pagingToken : Option String}
    (wide : params.startLedger < params.endLedger)
    (own
      : ∀ exchange ∈ failures, exchange.request = buildGetEventsRequest params cursor)
    (lowerWithin
      : ∀ exchange ∈ lower,
          exchange.request.Within params.startLedger
            (midpoint params.startLedger params.endLedger))
    (upperWithin
      : ∀ exchange ∈ upper,
          exchange.request.Within (midpoint params.startLedger params.endLedger + 1)
            params.endLedger)
    (readsLower : Reads client store (params.lower cursor) cursor [] lower firstHalf)
    (readsUpper : Reads client store params.upper none [] upper secondHalf)
    : Reads client store params cursor events
        (failures
          ++ ⟨buildGetEventsRequest params cursor, .error thrown⟩ :: (lower ++ upper))
        ⟨firstHalf.events ++ secondHalf.events, pagingToken⟩ := by
  have between := midpoint_between wide
  have different
      : ∀ exchange ∈ lower ++ upper,
          exchange.request ≠ buildGetEventsRequest params cursor := by
    intro exchange member
    refine request_ne_of_halves wide ?_
    exact (List.mem_append.mp member).imp (lowerWithin exchange) (upperWithin exchange)
  -- No request of the lower half continues one of the upper half, so given-up ones add up.
  have apart : ∀ left ∈ lower, ∀ right ∈ upper, right.request ≠ left.request := by
    intro left inLower right inUpper same
    have upperBound := (lowerWithin left inLower).upper
    have nonempty := (lowerWithin left inLower).nonempty
    have lowerBound := (upperWithin right inUpper).lower
    rw [same] at lowerBound
    omega
  have givenUp
      : givenUpRequests
            (failures
              ++ ⟨buildGetEventsRequest params cursor, .error thrown⟩ :: (lower ++ upper))
        = buildGetEventsRequest params cursor
          :: (givenUpRequests lower ++ givenUpRequests upper) := by
    simp only [givenUpRequests, givenUp_failed own different, givenUp_append_of_different apart,
      List.map_cons, List.map_append]
  refine ⟨.inr ⟨_, by rw [givenUp]; exact List.mem_cons_self, rfl, rfl⟩, ?_⟩
  have covers {event : EventResponse ν}
      (lowest : params.startLedger ≤ event.ledger) (highest : event.ledger ≤ params.endLedger)
      : (buildGetEventsRequest params cursor).covers event.ledger = true := by
    simp [GetEventsRequest.covers, lowest, highest]
  rw [givenUp, if_neg (by simp), List.nil_append,
    EventStore.eventsIn_halves (between.1.trans (Nat.le_succ _)) between.2.le,
    List.filter_append, List.map_append, readsLower.returned, readsUpper.returned]
  simp only [ite_self, List.nil_append]
  congr 2
  · refine List.filter_congr (fun event inRange => ?_)
    obtain ⟨_, lowest, highest⟩
        : event ∈ store.events
          ∧ params.startLedger ≤ event.ledger
          ∧ event.ledger ≤ midpoint params.startLedger params.endLedger :=
      EventStore.mem_eventsIn.mp inRange
    rw [EventStore.isRead_lower cursor (covers lowest (highest.trans between.2.le)) highest,
      buildGetEventsRequest_cursor]
    intro other member
    obtain ⟨exchange, inUpper, rfl⟩ := List.mem_map.mp member
    have inUpper := mem_of_mem_givenUp inUpper
    have lowerBound := (upperWithin exchange inUpper).lower
    simp only [GetEventsRequest.covers, Bool.and_eq_false_iff, decide_eq_false_iff_not]
    omega
  · refine List.filter_congr (fun event inRange => ?_)
    obtain ⟨present, lowest, highest⟩
        : event ∈ store.events
          ∧ midpoint params.startLedger params.endLedger + 1 ≤ event.ledger
          ∧ event.ledger ≤ params.endLedger :=
      EventStore.mem_eventsIn.mp inRange
    rw [EventStore.isRead_upper cursor present (covers (by omega) highest)
      (Nat.lt_of_succ_le lowest)]
    intro other member
    obtain ⟨exchange, inLower, rfl⟩ := List.mem_map.mp member
    have inLower := mem_of_mem_givenUp inLower
    have upperBound := (lowerWithin exchange inLower).upper
    simp only [GetEventsRequest.covers, Bool.and_eq_false_iff, decide_eq_false_iff_not]
    omega

/-- Every resolved fetch of all pages reads its range as `Reads` says. Witness: induction on
the fetch, where the events behind the cursor carry none of the seen tokens, so the loop
never stops at a repeated one.
-/
theorem Fetches.reads {client : EventsClient ν} {store : EventStore ν} {params : RangeParams}
    {cursor : Option String} {events : List (ContractEventResult ν)} {seen : List String}
    {log after : List (Exchange ν)}
    {outcome : Except AxionveraError (GetContractEventsResult ν)}
    {result : GetContractEventsResult ν}
    (serves : Serves client store)
    (fetches : Fetches client params cursor events seen log outcome after)
    (resolved : outcome = .ok result) (fetchAll : params.fetchAll = true)
    (ordered : params.startLedger ≤ params.endLedger)
    (unseen
      : ∀ event ∈ store.eventsAfter params.startLedger params.endLedger cursor,
          ∀ token ∈ seen, event.pagingToken ≠ some token)
    : ∃ exchanges,
        after = log ++ exchanges ∧ Reads client store params cursor events exchanges result := by
  induction fetches generalizing result with
  | @finished params cursor events seen log response after asked lastPage =>
      obtain ⟨failures, history, whole, failed, answered⟩ := asked.resolved
      have own := fun exchange member => (failed exchange member).request_eq
      obtain ⟨page, events_eq, empty | ⟨_, _, token, _, _, _, next, _⟩⟩ :=
        (answered ▸ serves history _).page_cases
      · have none : givenUp (failures ++ [⟨buildGetEventsRequest params cursor, .ok response⟩])
            = [] := givenUp_resolved response [] own
        refine ⟨_, whole, .inl (by simp [givenUpRequests, none]), ?_⟩
        cases resolved
        simp [givenUpRequests, none, EventStore.filter_isRead_nil, empty.2.2, collect, events_eq,
          empty.1]
      · simp [next] at lastPage
  | @stopped params cursor events seen log response token after asked morePages stops =>
      obtain ⟨failures, history, whole, failed, answered⟩ := asked.resolved
      have own := fun exchange member => (failed exchange member).request_eq
      obtain ⟨page, _, empty | ⟨front, last, other, rest, page_eq, tokened, next, split, _⟩⟩ :=
        (answered ▸ serves history _).page_cases
      · simp [empty.2.1] at morePages
      · have same : other = token := Option.some.inj (next.symm.trans morePages)
        subst same
        -- With all pages wanted only a repeated token stops here, but tokens never repeat.
        have repeated := stops.resolve_left (by simp [fetchAll])
        exact (unseen last (by simp [split, page_eq]) other repeated tokened).elim
  | @turned params cursor events seen log response token middle outcome after asked morePages
      _ fresh later ih =>
      obtain ⟨failures, history, rfl, failed, answered⟩ := asked.resolved
      have own := fun exchange member => (failed exchange member).request_eq
      obtain ⟨page, events_eq, empty | ⟨front, last, other, rest, page_eq, tokened, next, split,
        behind⟩⟩ := (answered ▸ serves history _).page_cases
      · simp [empty.2.1] at morePages
      · have same : other = token := Option.some.inj (next.symm.trans morePages)
        subst same
        have stillUnseen
            : ∀ event ∈ store.eventsAfter params.startLedger params.endLedger (some other),
                ∀ token ∈ other :: seen, event.pagingToken ≠ some token := by
          intro event member token inSeen
          rw [behind] at member
          rcases List.mem_cons.mp inSeen with rfl | earlier
          · have unique := store.nodup_tokens_after params.startLedger params.endLedger cursor
            simp only [split, page_eq, List.append_assoc, List.map_append,
              List.nodup_append] at unique
            intro same
            exact unique.2.1.2.2 _ (List.mem_map_of_mem List.mem_cons_self) _
              (List.mem_map_of_mem member) (tokened.trans same.symm)
          · exact unseen event (by simp [split, member]) token earlier
        obtain ⟨exchanges, rfl, reads⟩ := ih resolved fetchAll ordered stillUnseen
        exact ⟨_, by simp, reads.turn own events_eq split behind⟩
  | failed _ _ => cases resolved
  | lowerFailed _ _ _ _ => cases resolved
  | lowerOnly _ _ onePage _ _ => simp [fetchAll] at onePage
  | upperFailed _ _ _ _ _ _ _ => cases resolved
  | @halved params cursor events seen log error middle firstHalf between secondHalf after asked
      splits _ lower upper ihLower ihUpper =>
      cases resolved
      obtain ⟨failures, history, thrown, rfl, failed, answered, _⟩ := asked.rejected
      have own := fun exchange member => (failed exchange member).request_eq
      have mid := midpoint_between splits.2
      obtain ⟨first, rest, lowerWhole, _, lowerWithin⟩ := lower.exchanges mid.1
      obtain ⟨next, others, upperWhole, _, upperWithin⟩ := upper.exchanges mid.2
      obtain ⟨lowerExchanges, rfl, readsLower⟩ := ihLower rfl fetchAll mid.1 (by simp)
      obtain ⟨upperExchanges, rfl, readsUpper⟩ := ihUpper rfl fetchAll mid.2 (by simp)
      -- Both descriptions of a half's exchanges are about the same ones.
      rw [List.append_cancel_left lowerWhole] at readsLower ⊢
      rw [List.append_cancel_left upperWhole] at readsUpper ⊢
      refine ⟨
        failures
          ++ ⟨buildGetEventsRequest params cursor, .error thrown⟩
            :: (first :: rest ++ next :: others),
        by simp,
        Reads.halve splits.2 own lowerWithin upperWithin readsLower readsUpper
      ⟩

end Axionvera.Client.ContractEvents
