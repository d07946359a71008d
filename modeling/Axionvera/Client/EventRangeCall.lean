import Axionvera.Client.EventFetching

/-! Calls of `getContractEvents` over a given range of ledgers. -/

namespace Axionvera.Client.ContractEvents

open Axionvera.Errors
open Axionvera.Http

variable {ν : Type}

/-- A range of ledgers; ledger numbers start at one. -/
structure LedgerRange where
  first : Nat
  last : Nat
  positive : 1 ≤ first
  ordered : first ≤ last

/-- The options of a call over a given range. -/
def LedgerRange.options (range : LedgerRange) (limit : Option Nat) (cursor : Option String)
    (fetchAll : Bool)
    : GetContractEventsOptions :=
  {
    startLedger := some range.first
    endLedger := some range.last
    limit := limit
    cursor := cursor
    fetchAll := some fetchAll
  }

/-- The parameters that `getContractEvents` passes on for such a call. -/
def LedgerRange.params (range : LedgerRange) (contractId : String)
    (topicFilters : Option (List (List String))) (limit : Option Nat)
    (cursor : Option String) (fetchAll : Bool)
    : RangeParams :=
  {
    contractId := contractId
    topicFilters := topicFilters
    startLedger := range.first
    endLedger := range.last
    limit := limit
    cursor := cursor
    fetchAll := fetchAll
  }

/-- A call over a given range fetches that range, with errors wrapped: neither end is moved,
because ledgers start at one, and they are not swapped.
-/
theorem getContractEvents_range (client : EventsClient ν) (fuel : Nat) (nowMs : Int)
    (contractId : String) (topicFilters : Option (List (List String))) (range : LedgerRange)
    (limit : Option Nat) (cursor : Option String) (fetchAll : Bool) (log : List (Exchange ν))
    : getContractEvents client fuel nowMs contractId topicFilters
          (range.options limit cursor fetchAll) log
      = (fetchContractEventsRange client fuel
            (range.params contractId topicFilters limit cursor fetchAll) log).map
          fun (outcome, log) => (outcome.mapError getEventsError, log) := by
  have first := max_eq_right range.positive
  have last := max_eq_right (range.positive.trans range.ordered)
  simp only [getContractEvents, LedgerRange.options, resolveEndLedger, resolveStartLedger, first,
    last, bind, Except.bind, pure, Except.pure, min_eq_left range.ordered,
    max_eq_right range.ordered]
  rfl

/-- A resolved call over a given range is a resolved fetch of it. -/
theorem getContractEvents_resolved {client : EventsClient ν} {fuel : Nat} {nowMs : Int}
    {contractId : String} {topicFilters : Option (List (List String))} {range : LedgerRange}
    {limit : Option Nat} {cursor : Option String} {fetchAll : Bool}
    {log after : List (Exchange ν)} {result : GetContractEventsResult ν}
    (returned
      : getContractEvents client fuel nowMs contractId topicFilters
            (range.options limit cursor fetchAll) log
        = some (.ok result, after))
    : Fetches client (range.params contractId topicFilters limit cursor fetchAll) cursor [] []
        log (.ok result) after := by
  rw [getContractEvents_range, Option.map_eq_some_iff] at returned
  obtain ⟨⟨outcome, reached⟩, evaluated, mapped⟩ := returned
  simp only [Prod.mk.injEq] at mapped
  obtain ⟨resolved, rfl⟩ := mapped
  rw [mapError_eq_ok.mp resolved.symm] at evaluated
  exact fetchLoop_fetches evaluated

end Axionvera.Client.ContractEvents
