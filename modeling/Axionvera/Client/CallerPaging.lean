import Axionvera.Client.EventFetchTermination
import Axionvera.Client.EventRangeExactness

/-! Paging by the caller: calls without `fetchAll`, each continuing at the token of the one
before, and when they deliver the whole range.
-/

namespace Axionvera.Client.ContractEvents

open Axionvera.Errors
open Axionvera.Http
open Axionvera.Foundation

variable {ν : Type}

/-- A caller that feeds each returned token back as its cursor and stops without one. It
comes to the received events or to the error of a rejected call. The fuel bounds the calls
and the work of each of them; `none` is running out of it.
-/
def pageThrough (client : EventsClient ν) (nowMs : Int) (contractId : String)
    (topicFilters : Option (List (List String))) (range : LedgerRange) (limit : Option Nat)
    : (fuel : Nat) → (cursor : Option String) → (received : List (ContractEventResult ν))
      → (log : List (Exchange ν))
      → Option (Except AxionveraError (List (ContractEventResult ν)) × List (Exchange ν))
  | 0, _, _, _ => none
  | fuel + 1, cursor, received, log =>
      match getContractEvents client fuel nowMs contractId topicFilters
          (range.options limit cursor false) log with
      | none => none
      | some (.error error, log) => some (.error error, log)
      | some (.ok result, log) =>
          match result.pagingToken with
          | none => some (.ok (received ++ result.events), log)
          | some token =>
              pageThrough client nowMs contractId topicFilters range limit fuel (some token)
                (received ++ result.events) log

/-- The lower half of the request holds no event behind its cursor. -/
def EventStore.LowerHalfRead (store : EventStore ν) (request : GetEventsRequest) : Prop :=
  store.eventsAfter request.startLedger (midpoint request.startLedger request.endLedger)
      request.cursor
    = []

/-- What a resolved call without `fetchAll` did: it returns one page of the unread events,
which is empty only if nothing was left or a given-up request had a lower half without
unread events.
-/
structure ReadsPage (client : EventsClient ν) (store : EventStore ν) (low high : Nat)
    (cursor : Option String) (exchanges : List (Exchange ν))
    (result : GetContractEventsResult ν) (page rest : List (EventResponse ν))
    : Prop where
  sameCursor : ∀ exchange ∈ exchanges, exchange.request.cursor = cursor
  answered : ∀ last ∈ exchanges.getLast?, last.threw = false
  next : store.eventsAfter low high cursor = page ++ rest
  returned
    : result = ⟨page.map (decodeContractEvent client.scValToNative), nextToken (pageOf page)⟩
  halved : ∀ request ∈ givenUpRequests exchanges, request.startLedger < request.endLedger
  empty_iff
    : page = []
      ↔ store.eventsAfter low high cursor = []
        ∨ ∃ request ∈ givenUpRequests exchanges, store.LowerHalfRead request

/-- A page that answers the request is the page the call returns. -/
theorem ReadsPage.of_answer (client : EventsClient ν) {store : EventStore ν}
    {params : RangeParams} {cursor : Option String} {failures : List (Exchange ν)}
    {response : GetEventsResponse ν}
    (answers : StoreAnswers store (buildGetEventsRequest params cursor) (.ok response))
    (own : ∀ exchange ∈ failures, exchange.request = buildGetEventsRequest params cursor)
    : ∃ page rest,
        ReadsPage client store params.startLedger params.endLedger cursor
          (failures ++ [⟨buildGetEventsRequest params cursor, .ok response⟩])
          ⟨collect client [] response, nextToken response⟩ page rest := by
  have none
      : givenUp (failures ++ [⟨buildGetEventsRequest params cursor, .ok response⟩]) = [] :=
    givenUp_resolved response [] own
  cases answers with
  | page page rest next progress bounded =>
      have next : store.eventsAfter params.startLedger params.endLedger cursor = page ++ rest := by
        simpa [EventStore.requested] using next
      refine ⟨page, rest, ?_, ?_, next, ?_, by simp [givenUpRequests, none], ?_⟩
      · intro exchange member
        rcases List.mem_append.mp member with failed | last
        · rw [own exchange failed, buildGetEventsRequest_cursor]
        · rw [List.mem_singleton.mp last, buildGetEventsRequest_cursor]
      · intro last isLast
        rw [List.getLast?_concat, Option.mem_some_iff] at isLast
        exact isLast ▸ rfl
      · simp [collect, pageOf]
      · have emptied : page = [] ↔ page = [] ∧ rest = [] :=
          ⟨fun empty => ⟨empty, progress empty⟩, fun both => both.1⟩
        simp only [givenUpRequests, none, List.map_nil, List.not_mem_nil, false_and,
          exists_false, or_false, next, List.append_eq_nil_iff]
        exact emptied

/-- The page of the lower half is the page of the whole range: the unread events of the range
start with those of its lower half.
-/
theorem ReadsPage.of_lower {client : EventsClient ν} {store : EventStore ν}
    {params : RangeParams} {cursor : Option String} {failures lower : List (Exchange ν)}
    {result : GetContractEventsResult ν} {page rest : List (EventResponse ν)}
    (thrown : Thrown) (wide : params.startLedger < params.endLedger)
    (own : ∀ exchange ∈ failures, exchange.request = buildGetEventsRequest params cursor)
    (asked : lower ≠ [])
    (within
      : ∀ exchange ∈ lower,
          exchange.request.Within params.startLedger
            (midpoint params.startLedger params.endLedger))
    (reads
      : ReadsPage client store params.startLedger
          (midpoint params.startLedger params.endLedger) cursor lower result page rest)
    : ∃ rest,
        ReadsPage client store params.startLedger params.endLedger cursor
          (failures ++ ⟨buildGetEventsRequest params cursor, .error thrown⟩ :: lower)
          result page rest := by
  have between := midpoint_between wide
  have halves
      : store.eventsAfter params.startLedger params.endLedger cursor
        = store.eventsAfter params.startLedger (midpoint params.startLedger params.endLedger)
            cursor
          ++ store.eventsAfter (midpoint params.startLedger params.endLedger + 1)
            params.endLedger cursor :=
    store.toLog.window_halves _ (between.1.trans (Nat.le_succ _)) between.2.le
  have different
      : ∀ exchange ∈ lower, exchange.request ≠ buildGetEventsRequest params cursor :=
    fun exchange member => request_ne_of_halves wide (.inl (within exchange member))
  have givenUp_eq
      : givenUpRequests
            (failures ++ ⟨buildGetEventsRequest params cursor, .error thrown⟩ :: lower)
          = buildGetEventsRequest params cursor :: givenUpRequests lower :=
    congrArg (List.map _) (givenUp_failed own different)
  refine ⟨_, ?_, ?_, by rw [halves, reads.next, List.append_assoc], reads.returned, ?_, ?_⟩
  · intro exchange member
    rcases List.mem_append.mp member with failed | later
    · rw [own exchange failed, buildGetEventsRequest_cursor]
    · rcases List.mem_cons.mp later with rfl | inLower
      · exact buildGetEventsRequest_cursor params cursor
      · exact reads.sameCursor exchange inLower
  · intro last isLast
    refine reads.answered last ?_
    rw [List.getLast?_append_of_ne_nil _ (List.cons_ne_nil _ _),
      List.getLast?_cons_of_ne_nil asked] at isLast
    exact isLast
  · rw [givenUp_eq]
    exact List.forall_mem_cons.mpr ⟨wide, reads.halved⟩
  · have lowerHalf
        : store.LowerHalfRead (buildGetEventsRequest params cursor)
          ↔ store.eventsAfter params.startLedger
                (midpoint params.startLedger params.endLedger) cursor
              = [] := by
      simp [EventStore.LowerHalfRead]
    rw [givenUp_eq, List.exists_mem_cons_iff, lowerHalf, halves, List.append_eq_nil_iff,
      reads.empty_iff]
    tauto

/-- Every resolved call without `fetchAll` reads a page as `ReadsPage` says, by induction on
the fetch: it goes down into lower halves until a request is answered.
-/
theorem Fetches.readsPage {client : EventsClient ν} {store : EventStore ν}
    {params : RangeParams} {cursor : Option String} {seen : List String}
    {events : List (ContractEventResult ν)} {log after : List (Exchange ν)}
    {outcome : Except AxionveraError (GetContractEventsResult ν)}
    {result : GetContractEventsResult ν}
    (serves : Serves client store)
    (fetches : Fetches client params cursor events seen log outcome after)
    (resolved : outcome = .ok result) (onePage : params.fetchAll = false)
    (start : events = [])
    : ∃ exchanges page rest,
        after = log ++ exchanges
        ∧ ReadsPage client store params.startLedger params.endLedger cursor exchanges result
            page rest := by
  induction fetches generalizing result with
  | finished asked lastPage =>
      cases resolved
      subst start
      obtain ⟨failures, history, whole, failed, answered⟩ := asked.resolved
      obtain ⟨page, rest, reads⟩ := ReadsPage.of_answer client (answered ▸ serves history _)
        (fun exchange member => (failed exchange member).request_eq)
      exact ⟨_, page, rest, whole, lastPage ▸ reads⟩
  | stopped asked morePages _ =>
      cases resolved
      subst start
      obtain ⟨failures, history, whole, failed, answered⟩ := asked.resolved
      obtain ⟨page, rest, reads⟩ := ReadsPage.of_answer client (answered ▸ serves history _)
        (fun exchange member => (failed exchange member).request_eq)
      exact ⟨_, page, rest, whole, morePages ▸ reads⟩
  | lowerOnly asked splits _ lower ih =>
      obtain ⟨failures, history, thrown, rfl, failed, _, _⟩ := asked.rejected
      obtain ⟨first, others, lowerWhole, _, within⟩ :=
        lower.exchanges (midpoint_between splits.2).1
      obtain ⟨exchanges, page, rest, rfl, reads⟩ := ih resolved onePage rfl
      rw [List.append_cancel_left lowerWhole] at reads ⊢
      obtain ⟨rest, reads⟩ := ReadsPage.of_lower thrown splits.2
        (fun exchange member => (failed exchange member).request_eq) (List.cons_ne_nil _ _) within
        reads
      exact ⟨_, page, rest, by simp, reads⟩
  | turned _ _ fetchAll _ _ _ => simp [onePage] at fetchAll
  | failed _ _ => cases resolved
  | lowerFailed _ _ _ _ => cases resolved
  | upperFailed _ _ _ _ _ _ _ => cases resolved
  | halved _ _ fetchAll _ _ _ _ => simp [onePage] at fetchAll

/-- A call without `fetchAll` is rejected only after a request for a single ledger was given
up, by induction on the fetch: every error of the server is a recognised 413.
-/
theorem Fetches.rejected {client : EventsClient ν} {store : EventStore ν}
    {params : RangeParams} {cursor : Option String} {seen : List String}
    {events : List (ContractEventResult ν)} {log after : List (Exchange ν)}
    {outcome : Except AxionveraError (GetContractEventsResult ν)} {error : AxionveraError}
    (serves : Serves client store)
    (fetches : Fetches client params cursor events seen log outcome after)
    (rejected : outcome = .error error) (onePage : params.fetchAll = false)
    : ∃ exchanges,
        after = log ++ exchanges
        ∧ ∃ request ∈ givenUpRequests exchanges, ¬ request.startLedger < request.endLedger := by
  induction fetches with
  | @failed params cursor events seen log thrown after asked rethrown =>
      obtain ⟨failures, history, raw, whole, failed, answered, normalised⟩ := asked.rejected
      -- The error is a recognised 413, so only a range of one ledger keeps it from being halved.
      have recognised : isPayloadTooLarge (.axionvera thrown) = true := by
        have answers := answered ▸ serves history (buildGetEventsRequest params cursor)
        cases answers with
        | tooLarge _ _ message => exact normalised ▸ payloadTooLarge_recognised message
      refine ⟨_, whole, buildGetEventsRequest params cursor, ?_,
        fun wide => rethrown ⟨recognised, wide⟩⟩
      have own := fun exchange member => (failed exchange member).request_eq
      have none : ∀ exchange ∈ ([] : List (Exchange ν)),
          exchange.request ≠ buildGetEventsRequest params cursor := by simp
      simp [givenUpRequests, givenUp_failed own none]
  | @lowerFailed params cursor events seen log thrown middle lowerError after asked splits lower
      ih =>
      obtain ⟨failures, history, raw, rfl, failed, _, _⟩ := asked.rejected
      obtain ⟨first, others, lowerWhole, _, within⟩ :=
        lower.exchanges (midpoint_between splits.2).1
      obtain ⟨exchanges, rfl, request, member, single⟩ := ih rejected onePage
      have own := fun exchange member => (failed exchange member).request_eq
      refine ⟨
        failures ++ ⟨buildGetEventsRequest params cursor, .error raw⟩ :: exchanges,
        by simp, request, ?_, single⟩
      rw [givenUpRequests, givenUp_failed own, List.map_cons]
      · exact List.mem_cons_of_mem _ member
      · rw [List.append_cancel_left lowerWhole]
        exact fun exchange member =>
          request_ne_of_halves splits.2 (.inl (within exchange member))
  | finished _ _ => cases rejected
  | stopped _ _ _ => cases rejected
  | turned _ _ fetchAll _ _ _ => simp [onePage] at fetchAll
  | lowerOnly _ _ _ _ _ => cases rejected
  | upperFailed _ _ fetchAll _ _ _ _ => simp [onePage] at fetchAll
  | halved _ _ fetchAll _ _ _ _ => simp [onePage] at fetchAll

/-- A server reading the store continues at tokens of the store's events. -/
theorem Serves.tokensFrom {client : EventsClient ν} {store : EventStore ν}
    (serves : Serves client store)
    : TokensFrom client (store.events.filterMap EventResponse.pagingToken) := by
  intro history request response token answered continues
  have answers := answered ▸ serves history request
  cases answers with
  | page page rest next _ _ =>
      rcases List.eq_nil_or_concat' page with rfl | ⟨front, last, rfl⟩
      · simp [nextToken_empty] at continues
      · have member : last ∈ store.events := EventStore.mem_events_of_mem_after
          (show last ∈ store.requested request by simp [next])
        obtain ⟨own, tokened, text⟩ := store.tokened last member
        rw [nextToken_nonempty tokened text, Option.some.injEq] at continues
        exact List.mem_filterMap.mpr ⟨last, member, continues ▸ tokened⟩

/-- No page is empty too early: where a request is given up whose lower half holds no unread
event, nothing of the whole range is unread.
-/
def EventStore.NoneCutShort (store : EventStore ν) (range : LedgerRange)
    (exchanges : List (Exchange ν))
    : Prop :=
  ∀ request ∈ givenUpRequests exchanges,
    store.LowerHalfRead request
    → store.eventsAfter range.first range.last request.cursor = []

/-- No request for a single ledger is given up: such a range has no halves to fall back on. -/
def NoneSingle (exchanges : List (Exchange ν)) : Prop :=
  ∀ request ∈ givenUpRequests exchanges, request.startLedger < request.endLedger

/-- From a cursor and the events received before, the calls deliver all unread events exactly
when no 413 stood in their way.
-/
def PagesThrough (client : EventsClient ν) (store : EventStore ν) (range : LedgerRange)
    (cursor : Option String) (received : List (ContractEventResult ν))
    (exchanges : List (Exchange ν))
    (outcome : Except AxionveraError (List (ContractEventResult ν)))
    : Prop :=
  outcome
        = .ok
            (received
              ++ (store.eventsAfter range.first range.last cursor).map
                  (decodeContractEvent client.scValToNative))
    ↔ NoneSingle exchanges ∧ store.NoneCutShort range exchanges

variable {client : EventsClient ν} {store : EventStore ν} {range : LedgerRange}
  {cursor : Option String} {received : List (ContractEventResult ν)}
  {exchanges : List (Exchange ν)} {result : GetContractEventsResult ν}
  {page rest : List (EventResponse ν)}

/-- Whether a call's own requests cut the reading short depends on what it left unread. -/
theorem ReadsPage.noneCutShort_iff
    (reads : ReadsPage client store range.first range.last cursor exchanges result page rest)
    : store.NoneCutShort range exchanges
      ↔ page ≠ [] ∨ store.eventsAfter range.first range.last cursor = [] := by
  -- All requests of a call without `fetchAll` carry the cursor of the call.
  have ownCursor : ∀ request ∈ givenUpRequests exchanges, request.cursor = cursor := by
    intro request member
    obtain ⟨exchange, given, rfl⟩ := List.mem_map.mp member
    exact reads.sameCursor exchange (mem_of_mem_givenUp given)
  constructor
  · intro none
    by_contra neither
    obtain ⟨empty, unread⟩ := not_or.mp neither
    obtain read | ⟨request, member, lower⟩ := reads.empty_iff.mp (not_not.mp empty)
    · exact unread read
    · exact unread (ownCursor request member ▸ none request member lower)
  · intro either request member lower
    rw [ownCursor request member]
    refine either.resolve_left (fun nonempty => nonempty ?_)
    exact reads.empty_iff.mpr (.inr ⟨request, member, lower⟩)

/-- An empty page ends the calls. -/
theorem PagesThrough.of_empty
    (reads : ReadsPage client store range.first range.last cursor exchanges result [] rest)
    : PagesThrough client store range cursor received exchanges
        (.ok (received ++ result.events)) := by
  have noEvents : result.events = [] := by simp [reads.returned]
  have single : NoneSingle exchanges := reads.halved
  rw [PagesThrough, reads.noneCutShort_iff, noEvents]
  simp [single]

/-- A page with events is followed by calls for the events behind it. -/
theorem PagesThrough.of_page {front : List (EventResponse ν)} {last : EventResponse ν}
    {token : String} {later : List (Exchange ν)}
    {outcome : Except AxionveraError (List (ContractEventResult ν))}
    (reads
      : ReadsPage client store range.first range.last cursor exchanges result
          (front ++ [last]) rest)
    (tokened : last.pagingToken = some token)
    (continued
      : PagesThrough client store range (some token) (received ++ result.events) later outcome)
    : PagesThrough client store range cursor received (exchanges ++ later) outcome := by
  have givenUp_eq
      : givenUpRequests (exchanges ++ later)
        = givenUpRequests exchanges ++ givenUpRequests later := by
    -- The call was answered last, so its exchanges do not merge with later ones.
    have apart : givenUp (exchanges ++ later) = givenUp exchanges ++ givenUp later :=
      givenUp_append fun left isLast threw => by simp [reads.answered left isLast] at threw
    rw [givenUpRequests, apart, List.map_append]
    rfl
  have behind : store.eventsAfter range.first range.last (some token) = rest :=
    EventStore.eventsAfter_advance (by simpa using reads.next) tokened
  have uncut : store.NoneCutShort range exchanges :=
    reads.noneCutShort_iff.mpr (.inl (by simp))
  have split
      : NoneSingle (exchanges ++ later) ∧ store.NoneCutShort range (exchanges ++ later)
        ↔ NoneSingle later ∧ store.NoneCutShort range later := by
    simp only [NoneSingle, EventStore.NoneCutShort, givenUp_eq, List.forall_mem_append]
    exact ⟨fun both => ⟨both.1.2, both.2.2⟩,
      fun both => ⟨⟨reads.halved, both.1⟩, ⟨uncut, both.2⟩⟩⟩
  unfold PagesThrough at continued ⊢
  rw [split, ← continued, behind, reads.next, reads.returned]
  simp

/-- The calls come to an outcome and deliver the unread events as `PagesThrough` says, by
induction on the number of unread events, of which every page with a token takes some.
-/
theorem pageThrough_outcome (serves : Serves client store) (nowMs : Int) (contractId : String)
    (topicFilters : Option (List (List String))) (limit : Option Nat) (bound : Nat)
    (few : (store.eventsAfter range.first range.last cursor).length < bound)
    (log : List (Exchange ν))
    : ∃ enough outcome exchanges,
        (∀ fuel ≥ enough,
          pageThrough client nowMs contractId topicFilters range limit fuel cursor received log
            = some (outcome, log ++ exchanges))
        ∧ PagesThrough client store range cursor received exchanges outcome := by
  induction bound generalizing cursor received log with
  | zero => omega
  | succ bound ih =>
      let tokens := store.events.filterMap EventResponse.pagingToken
      let callFuel := fuelBound tokens.length (range.last - range.first) tokens.length
      obtain ⟨⟨fetched, after⟩, evaluated⟩ :=
        fetchLoop_total serves.tokensFrom callFuel
          (range.params contractId topicFilters limit cursor false) cursor [] [] log
          List.nodup_nil (List.nil_subset _) le_rfl
      have called
          : ∀ fuel ≥ callFuel,
              getContractEvents client fuel nowMs contractId topicFilters
                  (range.options limit cursor false) log
                = some (fetched.mapError getEventsError, after) := by
        intro fuel enough
        rw [getContractEvents_range]
        exact congrArg (Option.map _) (fetchLoop_mono enough evaluated)
      have fetches := fetchLoop_fetches evaluated
      cases fetched with
      | error error =>
          obtain ⟨exchanges, rfl, request, member, single⟩ := fetches.rejected serves rfl rfl
          refine ⟨callFuel + 1, .error (getEventsError error), exchanges, fun fuel enough => ?_,
            iff_of_false (by simp) (fun both => single (both.1 request member))⟩
          obtain ⟨fuel, rfl⟩ : ∃ less, fuel = less + 1 := ⟨fuel - 1, by omega⟩
          simp only [pageThrough, called fuel (by omega), Except.mapError]
      | ok result =>
          obtain ⟨exchanges, page, rest, rfl, reads⟩
              : ∃ exchanges page rest,
                  after = log ++ exchanges
                  ∧ ReadsPage client store range.first range.last cursor exchanges result page
                      rest :=
            fetches.readsPage serves rfl rfl rfl
          have token_eq : result.pagingToken = nextToken (pageOf page) := by rw [reads.returned]
          -- An empty page has no token and ends the calls; any other one takes unread events.
          rcases List.eq_nil_or_concat' page with rfl | ⟨front, last, rfl⟩
          · rw [nextToken_empty] at token_eq
            refine ⟨callFuel + 1, .ok (received ++ result.events), exchanges,
              fun fuel enough => ?_, .of_empty reads⟩
            obtain ⟨fuel, rfl⟩ : ∃ less, fuel = less + 1 := ⟨fuel - 1, by omega⟩
            simp only [pageThrough, called fuel (by omega), Except.mapError, token_eq]
          · have member : last ∈ store.events := EventStore.mem_events_of_mem_after
              (show last ∈ store.eventsAfter range.first range.last cursor by simp [reads.next])
            obtain ⟨token, tokened, text⟩ := store.tokened last member
            have behind : store.eventsAfter range.first range.last (some token) = rest :=
              EventStore.eventsAfter_advance (by simpa using reads.next) tokened
            rw [nextToken_nonempty tokened text] at token_eq
            rw [reads.next, List.length_append, List.length_append, List.length_singleton] at few
            have fewer
                : (store.eventsAfter range.first range.last (some token)).length < bound := by
              rw [behind]
              omega
            obtain ⟨enough, outcome, later, runs, through⟩ := ih fewer (log ++ exchanges)
            refine ⟨callFuel + enough + 1, outcome, exchanges ++ later, fun fuel more => ?_,
              .of_page reads tokened through⟩
            obtain ⟨fuel, rfl⟩ : ∃ less, fuel = less + 1 := ⟨fuel - 1, by omega⟩
            simp only [pageThrough, called fuel (by omega), Except.mapError, token_eq,
              runs fuel (by omega), List.append_assoc]

/-- The calls come to the same outcome with every sufficient fuel. They deliver every event of
the range in ledger order, each exactly once, if and only if no 413 is given up on a single
ledger, nor on a request whose lower half holds no unread event while the range still does.
-/
theorem pageThrough_complete_iff (client : EventsClient ν) (store : EventStore ν)
    (serves : Serves client store) (nowMs : Int) (contractId : String)
    (topicFilters : Option (List (List String))) (range : LedgerRange) (limit : Option Nat)
    : ∃ enough outcome log,
        (∀ fuel ≥ enough,
          pageThrough client nowMs contractId topicFilters range limit fuel none [] []
            = some (outcome, log))
        ∧ (outcome
              = .ok
                  ((store.eventsIn range.first range.last).map
                    (decodeContractEvent client.scValToNative))
            ↔ NoneSingle log ∧ store.NoneCutShort range log) := by
  obtain ⟨enough, outcome, log, runs, through⟩ :=
    pageThrough_outcome serves nowMs contractId topicFilters limit _ (Nat.lt_succ_self _) []
  exact ⟨enough, outcome, log, runs, through⟩

/-- The server finds every request for more than one ledger too large. -/
def wideTooLarge : EventsClient Unit :=
  storeClient twoEvents (fun _ request => request.startLedger < request.endLedger)

/-- The first call returns the event of ledger 1. The second falls back to ledger 1 behind that
event, finds nothing and returns no token, so the caller never sees the event of ledger 2.
-/
theorem pageThrough_stops_early
    : Serves wideTooLarge twoEvents
      ∧ ∃ received log,
          pageThrough wideTooLarge 0 "C" none twoLedgers (some 1) 9 none [] []
            = some (.ok received, log)
          ∧ received.map ContractEventResult.id = ["first"]
          ∧ received
            ≠ (twoEvents.eventsIn twoLedgers.first twoLedgers.last).map
                (decodeContractEvent wideTooLarge.scValToNative) :=
  ⟨storeAnswer_answers twoEvents _, _, _, rfl, by decide, by decide⟩

/-- The equivalence for the caller that stops early. -/
theorem pageThrough_complete_iff_wideTooLarge
    : ∃ enough outcome log,
        (∀ fuel ≥ enough,
          pageThrough wideTooLarge 0 "C" none twoLedgers (some 1) fuel none [] []
            = some (outcome, log))
        ∧ (outcome
              = .ok
                  ((twoEvents.eventsIn twoLedgers.first twoLedgers.last).map
                    (decodeContractEvent wideTooLarge.scValToNative))
            ↔ NoneSingle log ∧ twoEvents.NoneCutShort twoLedgers log) :=
  pageThrough_complete_iff wideTooLarge twoEvents (storeAnswer_answers twoEvents _) 0 "C" none
    twoLedgers (some 1)

end Axionvera.Client.ContractEvents
