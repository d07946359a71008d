import Axionvera.Client.EventRangeReading
import Axionvera.Client.EventRangeCall

/-! When `getContractEvents` with `fetchAll` returns every event of its range exactly once. -/

namespace Axionvera.Client.ContractEvents

open Axionvera.Errors
open Axionvera.Http
open Axionvera.Foundation

variable {ν : Type}

/-- No event of the range is lost: if requests on an event's ledger were given up, the last of
them has the event in its upper half or behind its cursor.
-/
def EventStore.NoneLost (store : EventStore ν) (range : LedgerRange)
    (exchanges : List (Exchange ν))
    : Prop :=
  ∀ event ∈ store.eventsIn range.first range.last,
    ∀ request,
      lastCovering (givenUpRequests exchanges) event.ledger = some request
      → store.survives request event = true

/-- A call without a cursor reads an event unless a given-up request lost it. -/
theorem EventStore.isRead_iff {store : EventStore ν} {givenUp : List GetEventsRequest}
    {event : EventResponse ν} (present : event ∈ store.events)
    : store.isRead givenUp none event = true
      ↔ ∀ request,
          lastCovering givenUp event.ledger = some request
          → store.survives request event = true := by
  cases found : lastCovering givenUp event.ledger with
  | none =>
      have follows : store.follows none event = true := store.toLog.isAfter_none present
      simp [isRead, found, follows]
  | some request => simp [isRead, found]

/-- A resolved call with `fetchAll` returns the events of the range in ledger order, each
exactly once, if and only if no given-up request lost one. Witness: it returns the events
that are read, which are all of them just when the filter drops none.
-/
theorem getContractEvents_exact_iff (client : EventsClient ν) (store : EventStore ν)
    (serves : Serves client store) (fuel : Nat) (nowMs : Int) (contractId : String)
    (topicFilters : Option (List (List String))) (range : LedgerRange) (limit : Option Nat)
    (result : GetContractEventsResult ν) (log : List (Exchange ν))
    (returned
      : getContractEvents client fuel nowMs contractId topicFilters
            (range.options limit none true) []
        = some (.ok result, log))
    : result.events
          = (store.eventsIn range.first range.last).map
              (decodeContractEvent client.scValToNative)
      ↔ store.NoneLost range log := by
  obtain ⟨exchanges, whole, reads⟩ :=
    (getContractEvents_resolved returned).reads serves rfl rfl range.ordered (by simp)
  have events_eq := reads.returned
  rw [List.nil_append] at whole
  simp only [ite_self, List.nil_append, ← whole] at events_eq
  have readAll
      : store.NoneLost range log
        ↔ ∀ event ∈ store.eventsIn range.first range.last,
            store.isRead (givenUpRequests log) none event = true := by
    refine forall₂_congr (fun event member => ?_)
    exact (EventStore.isRead_iff (EventStore.mem_eventsIn.mp member).1).symm
  rw [readAll, events_eq, ← List.filter_eq_self]
  constructor
  · intro same
    have sameLength := congrArg List.length same
    rw [List.length_map, List.length_map] at sameLength
    exact List.filter_eq_self.mpr (List.length_filter_eq_length_iff.mp sameLength)
  · exact fun same => congrArg (List.map _) same

/-- The answer of a server that reads the store with full pages and finds a request too
large when the given test says so. A limit of zero leaves it no page to send.
-/
def storeAnswer (store : EventStore ν) (tooLarge : List (Exchange ν) → GetEventsRequest → Bool)
    (history : List (Exchange ν)) (request : GetEventsRequest)
    : Except Thrown (GetEventsResponse ν) :=
  if tooLarge history request || request.limit = some 0 then
    .error
      (.value { message := some "Payload Too Large", response := some { status := some 413 } })
  else
    let page := match request.limit with
      | some limit => (store.requested request).take limit
      | none => store.requested request
    .ok (pageOf page)

/-- These are answers of a server reading the store, by cases on the limit. -/
theorem storeAnswer_answers (store : EventStore ν)
    (tooLarge : List (Exchange ν) → GetEventsRequest → Bool) (history : List (Exchange ν))
    (request : GetEventsRequest)
    : StoreAnswers store request (storeAnswer store tooLarge history request) := by
  unfold storeAnswer
  split
  · exact .tooLarge _ rfl rfl
  · rename_i fits
    cases bound : request.limit with
    | none => exact .page _ [] (by simp) (fun _ => rfl) (by simp [bound])
    | some limit =>
        refine .page _ ((store.requested request).drop limit) (by simp) ?_ ?_
        · intro empty
          have positive : limit ≠ 0 := by
            rintro rfl
            simp [bound] at fits
          have none := (List.take_eq_nil_iff.mp empty).resolve_left positive
          simp [none]
        · intro other same
          rw [bound, Option.some.injEq] at same
          simp [← same]

/-- A client of such a server, with the default retry configuration and values that are
never encoded.
-/
def storeClient (store : EventStore Unit)
    (tooLarge : List (Exchange Unit) → GetEventsRequest → Bool) : EventsClient Unit :=
  {
    getEvents := storeAnswer store tooLarge
    latestLedger := .ok none
    retryConfig := defaultRetryConfig
    scValToNative := fun _ => none
    parseDate := fun _ => none
  }

/-- One event in each of the ledgers 1 and 2. -/
def twoEvents : EventStore Unit :=
  {
    events := [⟨"first", 1, some "a", none, .native ()⟩, ⟨"second", 2, some "b", none, .native ()⟩]
    ordered := by decide
    tokened := by decide
    unique := by decide
  }

/-- The ledgers 1 and 2. -/
def twoLedgers : LedgerRange := ⟨1, 2, le_rfl, by decide⟩

/-- The server finds only the second request too large, which asks for the second page. -/
def secondTooLarge : EventsClient Unit :=
  storeClient twoEvents (fun history _ => history.length = 1)

/-- With pages of one event the event of ledger 1 is collected, then a 413 answer halves the
range, and only the event of ledger 2 is returned.
-/
theorem getContractEvents_loses_page
    : Serves secondTooLarge twoEvents
      ∧ ∃ result log,
          getContractEvents secondTooLarge 9 0 "C" none
              (twoLedgers.options (some 1) none true) []
            = some (.ok result, log)
          ∧ result.events.map ContractEventResult.id = ["second"]
          ∧ result.events
            ≠ (twoEvents.eventsIn twoLedgers.first twoLedgers.last).map
                (decodeContractEvent secondTooLarge.scValToNative) :=
  ⟨storeAnswer_answers twoEvents _, _, _, rfl, by decide, by decide⟩

/-- The equivalence at the run that loses a page. -/
theorem getContractEvents_exact_iff_secondTooLarge
    : ∃ result log,
        getContractEvents secondTooLarge 9 0 "C" none (twoLedgers.options (some 1) none true) []
          = some (.ok result, log)
        ∧ (result.events
              = (twoEvents.eventsIn twoLedgers.first twoLedgers.last).map
                  (decodeContractEvent secondTooLarge.scValToNative)
            ↔ twoEvents.NoneLost twoLedgers log) :=
  ⟨
    _,
    _,
    rfl,
    getContractEvents_exact_iff secondTooLarge twoEvents (storeAnswer_answers twoEvents _) 9 0
      "C" none twoLedgers (some 1) _ _ rfl
  ⟩

end Axionvera.Client.ContractEvents
