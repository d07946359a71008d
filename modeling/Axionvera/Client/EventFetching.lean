import Axionvera.Client.ContractEvents

/-! What a fetch of a ledger range can do, as a relation between its start and its outcome.
Later modules argue about fetches by induction on this relation, not on the fuel.
-/

namespace Axionvera.Client.ContractEvents

open Axionvera.Errors
open Axionvera.Http

variable {ν : Type}

/-- The exchange is an attempt on the request at which the server threw. -/
def FailedAttempt (client : EventsClient ν) (request : GetEventsRequest)
    (exchange : Exchange ν)
    : Prop :=
  ∃ history thrown,
    exchange = ⟨request, .error thrown⟩ ∧ client.getEvents history request = .error thrown

/-- A failed attempt is one on its request. -/
theorem FailedAttempt.request_eq {client : EventsClient ν} {request : GetEventsRequest}
    {exchange : Exchange ν} (failed : FailedAttempt client request exchange)
    : exchange.request = request := by
  obtain ⟨_, _, rfl, _⟩ := failed
  rfl

/-- (Asked client request log outcome after) describes a retried call: some failed attempts
on the request, then the attempt that decides the outcome, all recorded in order.
-/
inductive Asked (client : EventsClient ν) (request : GetEventsRequest)
    (log : List (Exchange ν))
    : Except AxionveraError (GetEventsResponse ν) → List (Exchange ν) → Prop
  | decided (failures last : List (Exchange ν)) (answer : Except Thrown (GetEventsResponse ν))
    (repeated : ∀ exchange ∈ failures, FailedAttempt client request exchange)
    (asked : last = log ++ failures)
    (answered : client.getEvents last request = answer)
    : Asked client request log (answer.mapError toAxionveraError)
        (last ++ [⟨request, answer⟩])

/-- Failed attempts on a request only append their exchanges, by induction on the attempts. -/
theorem attempts_askServer {client : EventsClient ν} {request : GetEventsRequest}
    {log last : List (Exchange ν)} {failures : List Thrown}
    (attempts : Attempts (askServer client request) log failures last)
    : ∃ exchanges,
        last = log ++ exchanges
        ∧ ∀ exchange ∈ exchanges, FailedAttempt client request exchange := by
  induction attempts with
  | none log => exact ⟨[], by simp, by simp⟩
  | @more log middle last thrown rest failed _ ih =>
      obtain ⟨exchanges, whole, known⟩ := ih
      simp only [askServer, Prod.mk.injEq] at failed
      obtain ⟨answered, appended⟩ := failed
      refine ⟨⟨request, .error thrown⟩ :: exchanges, ?_, ?_⟩
      · rw [whole, ← appended, answered, List.append_assoc, List.singleton_append]
      · intro exchange member
        rcases List.mem_cons.mp member with rfl | later
        · exact ⟨log, thrown, rfl, answered⟩
        · exact known exchange later

/-- Every retried call is described by `Asked`, through `retry_decided`. -/
theorem callGetEvents_asked (client : EventsClient ν) (request : GetEventsRequest)
    (log : List (Exchange ν))
    : Asked client request log (callGetEvents client request log).outcome
        (callGetEvents client request log).world := by
  obtain ⟨failures, last, attempts, outcome, reached⟩ :=
    retry_decided client.retryConfig (askServer client request) log
  obtain ⟨exchanges, whole, known⟩ := attempts_askServer attempts
  rw [callGetEvents, outcome, reached]
  exact .decided exchanges last (client.getEvents last request) known whole rfl

/-- The range that is fetched first after a too large request. -/
def RangeParams.lower (params : RangeParams) (cursor : Option String) : RangeParams :=
  { params with
    endLedger := midpoint params.startLedger params.endLedger
    cursor := cursor }

/-- The range that is fetched second after a too large request. -/
def RangeParams.upper (params : RangeParams) : RangeParams :=
  { params with
    startLedger := midpoint params.startLedger params.endLedger + 1
    cursor := none }

/-- The collected events after one more page. -/
def collect (client : EventsClient ν) (events : List (ContractEventResult ν))
    (response : GetEventsResponse ν)
    : List (ContractEventResult ν) :=
  events ++ (response.events.getD []).map (decodeContractEvent client.scValToNative)

/-- The token by which the loop continues after a page. -/
def nextToken (response : GetEventsResponse ν) : Option String :=
  extractPagingToken response (response.events.getD [])

/-- The catch block halves the range instead of rethrowing the error. -/
def Splits (params : RangeParams) (error : AxionveraError) : Prop :=
  isPayloadTooLarge (.axionvera error) = true ∧ params.startLedger < params.endLedger

/-- (Fetches client params cursor events seen log outcome after) describes one whole
evaluation of the loop, with one constructor for each way through it.
-/
inductive Fetches (client : EventsClient ν)
    : RangeParams → Option String → List (ContractEventResult ν) → List String
      → List (Exchange ν) → Except AxionveraError (GetContractEventsResult ν)
      → List (Exchange ν) → Prop
  | finished {params cursor events seen log response after}
    (asked : Asked client (buildGetEventsRequest params cursor) log (.ok response) after)
    (lastPage : nextToken response = none)
    : Fetches client params cursor events seen log
        (.ok ⟨collect client events response, none⟩) after
  | stopped {params cursor events seen log response token after}
    (asked : Asked client (buildGetEventsRequest params cursor) log (.ok response) after)
    (morePages : nextToken response = some token)
    (stops : params.fetchAll = false ∨ token ∈ seen)
    : Fetches client params cursor events seen log
        (.ok ⟨collect client events response, some token⟩) after
  | turned {params cursor events seen log response token middle outcome after}
    (asked : Asked client (buildGetEventsRequest params cursor) log (.ok response) middle)
    (morePages : nextToken response = some token)
    (fetchAll : params.fetchAll = true) (fresh : token ∉ seen)
    (later
      : Fetches client params (some token) (collect client events response)
          (token :: seen) middle outcome after)
    : Fetches client params cursor events seen log outcome after
  | failed {params cursor events seen log error after}
    (asked : Asked client (buildGetEventsRequest params cursor) log (.error error) after)
    (rethrown : ¬ Splits params error)
    : Fetches client params cursor events seen log (.error error) after
  | lowerFailed {params cursor events seen log error middle thrown after}
    (asked : Asked client (buildGetEventsRequest params cursor) log (.error error) middle)
    (splits : Splits params error)
    (lower
      : Fetches client (params.lower cursor) cursor [] [] middle (.error thrown) after)
    : Fetches client params cursor events seen log (.error thrown) after
  | lowerOnly {params cursor events seen log error middle firstHalf after}
    (asked : Asked client (buildGetEventsRequest params cursor) log (.error error) middle)
    (splits : Splits params error) (onePage : params.fetchAll = false)
    (lower
      : Fetches client (params.lower cursor) cursor [] [] middle (.ok firstHalf) after)
    : Fetches client params cursor events seen log (.ok firstHalf) after
  | upperFailed {params cursor events seen log error middle firstHalf between thrown after}
    (asked : Asked client (buildGetEventsRequest params cursor) log (.error error) middle)
    (splits : Splits params error) (fetchAll : params.fetchAll = true)
    (lower
      : Fetches client (params.lower cursor) cursor [] [] middle (.ok firstHalf) between)
    (upper : Fetches client params.upper none [] [] between (.error thrown) after)
    : Fetches client params cursor events seen log (.error thrown) after
  | halved
    {params cursor events seen log error middle firstHalf between secondHalf after}
    (asked : Asked client (buildGetEventsRequest params cursor) log (.error error) middle)
    (splits : Splits params error) (fetchAll : params.fetchAll = true)
    (lower
      : Fetches client (params.lower cursor) cursor [] [] middle (.ok firstHalf) between)
    (upper : Fetches client params.upper none [] [] between (.ok secondHalf) after)
    : Fetches client params cursor events seen log
        (.ok
          {
            events := firstHalf.events ++ secondHalf.events
            pagingToken := secondHalf.pagingToken <|> firstHalf.pagingToken
          })
        after

/-- The loop only does what the relation describes. Witness: induction on the fuel and the
case distinctions of the loop body, in its own order.
-/
theorem fetchLoop_fetches {client : EventsClient ν} {fuel : Nat} {params : RangeParams}
    {cursor : Option String} {events : List (ContractEventResult ν)} {seen : List String}
    {log after : List (Exchange ν)}
    {outcome : Except AxionveraError (GetContractEventsResult ν)}
    (evaluated : fetchLoop client fuel params cursor events seen log = some (outcome, after))
    : Fetches client params cursor events seen log outcome after := by
  induction fuel generalizing params cursor events seen log outcome after with
  | zero => simp [fetchLoop] at evaluated
  | succ fuel ih =>
      have asked := callGetEvents_asked client (buildGetEventsRequest params cursor) log
      simp only [fetchLoop] at evaluated
      generalize callGetEvents client (buildGetEventsRequest params cursor) log = call
        at evaluated asked
      obtain ⟨called, world, waits⟩ := call
      simp only at evaluated asked
      cases called with
      | ok response =>
          simp only at evaluated
          split at evaluated
          · rename_i lastPage
            simp only [Option.some.injEq, Prod.mk.injEq] at evaluated
            obtain ⟨rfl, rfl⟩ := evaluated
            exact .finished asked lastPage
          · rename_i token morePages
            split at evaluated
            · rename_i stops
              simp only [Option.some.injEq, Prod.mk.injEq] at evaluated
              obtain ⟨rfl, rfl⟩ := evaluated
              exact .stopped asked morePages (by simpa using stops)
            · rename_i continues
              have continues : params.fetchAll = true ∧ token ∉ seen := by
                simpa using continues
              exact .turned asked morePages continues.1 continues.2 (ih evaluated)
      | error error =>
          simp only at evaluated
          split at evaluated
          · rename_i splits
            have splits : Splits params error := by simpa [Splits] using splits
            split at evaluated
            · rename_i firstHalf middle lower
              split at evaluated
              · rename_i onePage
                simp only [Option.some.injEq, Prod.mk.injEq] at evaluated
                obtain ⟨rfl, rfl⟩ := evaluated
                exact .lowerOnly asked splits (by simpa using onePage) (ih lower)
              · rename_i fetchAll
                have fetchAll : params.fetchAll = true := by simpa using fetchAll
                split at evaluated
                · rename_i secondHalf last upper
                  simp only [Option.some.injEq, Prod.mk.injEq] at evaluated
                  obtain ⟨rfl, rfl⟩ := evaluated
                  exact .halved asked splits fetchAll (ih lower) (ih upper)
                -- What is passed on is an error, since a page of the second half was excluded.
                · rename_i notOk
                  cases outcome with
                  | ok secondHalf => exact (notOk _ _ evaluated).elim
                  | error thrown =>
                      exact .upperFailed asked splits fetchAll (ih lower) (ih evaluated)
            · rename_i notOk
              cases outcome with
              | ok firstHalf => exact (notOk _ _ evaluated).elim
              | error thrown => exact .lowerFailed asked splits (ih evaluated)
          · rename_i rethrown
            simp only [Option.some.injEq, Prod.mk.injEq] at evaluated
            obtain ⟨rfl, rfl⟩ := evaluated
            exact .failed asked (by simpa [Splits] using rethrown)

@[simp]
theorem buildGetEventsRequest_startLedger (params : RangeParams) (cursor : Option String)
    : (buildGetEventsRequest params cursor).startLedger = params.startLedger :=
  rfl

@[simp]
theorem buildGetEventsRequest_endLedger (params : RangeParams) (cursor : Option String)
    : (buildGetEventsRequest params cursor).endLedger = params.endLedger :=
  rfl

/-- A request carries exactly the cursor it was built with. -/
@[simp]
theorem buildGetEventsRequest_cursor (params : RangeParams) (cursor : Option String)
    : (buildGetEventsRequest params cursor).cursor = cursor := by
  unfold buildGetEventsRequest GetEventsRequest.cursor
  cases cursor <;> cases params.limit <;> rfl

/-- A retried call appends exchanges on its own request only, the last of which decides it.
-/
theorem Asked.exchanges {client : EventsClient ν} {request : GetEventsRequest}
    {log after : List (Exchange ν)} {outcome : Except AxionveraError (GetEventsResponse ν)}
    (asked : Asked client request log outcome after)
    : ∃ failures answer,
        after = log ++ (failures ++ [⟨request, answer⟩])
        ∧ (∀ exchange ∈ failures, FailedAttempt client request exchange)
        ∧ (∃ history, client.getEvents history request = answer)
        ∧ outcome = answer.mapError toAxionveraError := by
  cases asked with
  | decided failures last answer repeated asked answered =>
      exact ⟨failures, answer, by rw [asked, List.append_assoc], repeated, ⟨last, answered⟩, rfl⟩

/-- A retried call that got a page. -/
theorem Asked.resolved {client : EventsClient ν} {request : GetEventsRequest}
    {log after : List (Exchange ν)} {response : GetEventsResponse ν}
    (asked : Asked client request log (.ok response) after)
    : ∃ failures history,
        after = log ++ (failures ++ [⟨request, .ok response⟩])
        ∧ (∀ exchange ∈ failures, FailedAttempt client request exchange)
        ∧ client.getEvents history request = .ok response := by
  obtain ⟨failures, answer, whole, own, ⟨history, answered⟩, outcome⟩ := asked.exchanges
  rw [mapError_eq_ok.mp outcome] at whole answered
  exact ⟨failures, history, whole, own, answered⟩

/-- A retried call that failed in the end. -/
theorem Asked.rejected {client : EventsClient ν} {request : GetEventsRequest}
    {log after : List (Exchange ν)} {error : AxionveraError}
    (asked : Asked client request log (.error error) after)
    : ∃ failures history thrown,
        after = log ++ (failures ++ [⟨request, .error thrown⟩])
        ∧ (∀ exchange ∈ failures, FailedAttempt client request exchange)
        ∧ client.getEvents history request = .error thrown
        ∧ toAxionveraError thrown = error := by
  obtain ⟨failures, answer, whole, own, ⟨history, answered⟩, outcome⟩ := asked.exchanges
  obtain ⟨thrown, failed, normalised⟩ := mapError_eq_error.mp outcome
  rw [failed] at whole answered
  exact ⟨failures, history, thrown, whole, own, answered, normalised⟩

/-- Halving a range of at least two ledgers gives a nonempty lower part and a nonempty
upper part.
-/
theorem midpoint_between {low high : Nat} (wide : low < high)
    : low ≤ midpoint low high ∧ midpoint low high < high := by
  simp only [midpoint]
  omega

/-- The request asks for a nonempty part of the ledgers from `low` to `high`. -/
structure GetEventsRequest.Within (request : GetEventsRequest) (low high : Nat) : Prop where
  lower : low ≤ request.startLedger
  nonempty : request.startLedger ≤ request.endLedger
  upper : request.endLedger ≤ high

/-- A request stays within every wider range of ledgers. -/
theorem GetEventsRequest.Within.mono {request : GetEventsRequest} {low high low' high' : Nat}
    (within : request.Within low high) (lower : low' ≤ low) (upper : high ≤ high')
    : request.Within low' high' :=
  ⟨lower.trans within.lower, within.nonempty, within.upper.trans upper⟩

/-- Requests of the two halves are not the request for the whole range. -/
theorem request_ne_of_halves {params : RangeParams} {cursor : Option String}
    {exchange : Exchange ν} (wide : params.startLedger < params.endLedger)
    (within
      : exchange.request.Within params.startLedger
            (midpoint params.startLedger params.endLedger)
        ∨ exchange.request.Within (midpoint params.startLedger params.endLedger + 1)
            params.endLedger)
    : exchange.request ≠ buildGetEventsRequest params cursor := by
  have between := midpoint_between wide
  intro same
  rcases within with lower | upper
  · have bound := lower.upper
    rw [same, buildGetEventsRequest_endLedger] at bound
    omega
  · have bound := upper.lower
    rw [same, buildGetEventsRequest_startLedger] at bound
    omega

/-- A request within either half of a range is within the range. -/
theorem GetEventsRequest.Within.of_half {request : GetEventsRequest} {low high : Nat}
    (wide : low < high)
    (within
      : request.Within low (midpoint low high) ∨ request.Within (midpoint low high + 1) high)
    : request.Within low high := by
  have between := midpoint_between wide
  rcases within with lower | upper
  · exact lower.mono le_rfl between.2.le
  · exact upper.mono (between.1.trans (Nat.le_succ _)) le_rfl

/-- A retried call starts with its own request, and stays within the range of its request when the
exchanges after it do.
-/
theorem Asked.first_exchange {client : EventsClient ν} {params : RangeParams}
    {cursor : Option String} {log middle later : List (Exchange ν)}
    {outcome : Except AxionveraError (GetEventsResponse ν)}
    (asked : Asked client (buildGetEventsRequest params cursor) log outcome middle)
    (ordered : params.startLedger ≤ params.endLedger)
    (within
      : ∀ exchange ∈ later, exchange.request.Within params.startLedger params.endLedger)
    : ∃ first rest,
        middle ++ later = log ++ first :: rest
        ∧ first.request = buildGetEventsRequest params cursor
        ∧ ∀ exchange ∈ first :: rest,
            exchange.request.Within params.startLedger params.endLedger := by
  obtain ⟨failures, answer, whole, own, _, _⟩ := asked.exchanges
  -- Retries ask the same again, so the first exchange has the request whether it failed or not.
  have ownRequest
      : ∀ exchange ∈ failures ++ [⟨buildGetEventsRequest params cursor, answer⟩],
          exchange.request = buildGetEventsRequest params cursor := by
    intro exchange member
    rcases List.mem_append.mp member with failed | last
    · exact (own exchange failed).request_eq
    · rw [List.mem_singleton.mp last]
  cases start : failures ++ [⟨buildGetEventsRequest params cursor, answer⟩] with
  | nil => simp at start
  | cons first rest =>
      rw [start] at ownRequest whole
      refine ⟨first, rest ++ later, by simp [whole], ownRequest first (by simp), ?_⟩
      intro exchange member
      rcases List.mem_append.mp (List.cons_append ▸ member) with own | later
      · rw [ownRequest exchange own]
        exact ⟨le_rfl, ordered, le_rfl⟩
      · exact within exchange later

/-- A fetch appends exchanges that start with its own first request and stay within its
range. Witness: induction on the fetch; both halves of a range lie within it.
-/
theorem Fetches.exchanges {client : EventsClient ν} {params : RangeParams}
    {cursor : Option String} {events : List (ContractEventResult ν)} {seen : List String}
    {log after : List (Exchange ν)}
    {outcome : Except AxionveraError (GetContractEventsResult ν)}
    (fetches : Fetches client params cursor events seen log outcome after)
    (ordered : params.startLedger ≤ params.endLedger)
    : ∃ first rest,
        after = log ++ first :: rest
        ∧ first.request = buildGetEventsRequest params cursor
        ∧ ∀ exchange ∈ first :: rest,
            exchange.request.Within params.startLedger params.endLedger := by
  induction fetches with
  | finished asked _
  | stopped asked _ _
  | failed asked _ =>
      simpa only [List.append_nil] using
        asked.first_exchange ordered (fun _ member => (List.not_mem_nil member).elim)
  | turned asked _ _ _ _ ih =>
      obtain ⟨_, _, rfl, _, within⟩ := ih ordered
      exact asked.first_exchange ordered within
  | lowerFailed asked splits _ ih
  | lowerOnly asked splits _ _ ih =>
      have between := midpoint_between splits.2
      obtain ⟨_, _, rfl, _, within⟩ := ih between.1
      exact asked.first_exchange ordered
        (fun exchange member => .of_half splits.2 (.inl (within exchange member)))
  | upperFailed asked splits _ _ _ ihLower ihUpper
  | halved asked splits _ _ _ ihLower ihUpper =>
      have between := midpoint_between splits.2
      obtain ⟨_, _, rfl, _, lowerWithin⟩ := ihLower between.1
      obtain ⟨_, _, rfl, _, upperWithin⟩ := ihUpper between.2
      rw [List.append_assoc]
      apply asked.first_exchange ordered
      intro exchange member
      apply GetEventsRequest.Within.of_half splits.2
      rcases List.mem_append.mp member with lower | upper
      · exact .inl (lowerWithin exchange lower)
      · exact .inr (upperWithin exchange upper)

/-- The request asks for the given ledger. -/
def GetEventsRequest.covers (request : GetEventsRequest) (ledger : Nat) : Bool :=
  request.startLedger ≤ ledger && ledger ≤ request.endLedger

/-- A request covers the ledgers between its two ends. -/
theorem GetEventsRequest.covers_iff {request : GetEventsRequest} {ledger : Nat}
    : request.covers ledger = true
      ↔ request.startLedger ≤ ledger ∧ ledger ≤ request.endLedger := by
  simp [covers]

/-- The number of ledgers a request asks for. -/
def GetEventsRequest.width (request : GetEventsRequest) : Nat :=
  request.endLedger + 1 - request.startLedger

/-- The server threw. -/
def Exchange.threw (exchange : Exchange ν) : Bool :=
  match exchange.answer with
  | .error _ => true
  | .ok _ => false

/-- The exchanges on which the client gave up: the server threw and the retry wrapper did not
ask the same again.
-/
def givenUp : List (Exchange ν) → List (Exchange ν)
  | [] => []
  | exchange :: rest =>
      if exchange.threw && rest.head?.map Exchange.request ≠ some exchange.request then
        exchange :: givenUp rest
      else givenUp rest

/-- Given-up exchanges took place, by induction on the exchanges. -/
theorem mem_of_mem_givenUp {exchanges : List (Exchange ν)} {exchange : Exchange ν}
    (member : exchange ∈ givenUp exchanges)
    : exchange ∈ exchanges := by
  induction exchanges with
  | nil => simp [givenUp] at member
  | cons head rest ih =>
      unfold givenUp at member
      split at member
      · rcases List.mem_cons.mp member with rfl | later
        · exact List.mem_cons_self
        · exact List.mem_cons_of_mem _ (ih later)
      · exact List.mem_cons_of_mem _ (ih member)

/-- Two stretches of exchanges do not merge when the first ends with an answer or with a
request other than the next one, by induction on the first.
-/
theorem givenUp_append {first second : List (Exchange ν)}
    (seam
      : ∀ left ∈ first.getLast?,
          left.threw = true → ∀ right ∈ second.head?, right.request ≠ left.request)
    : givenUp (first ++ second) = givenUp first ++ givenUp second := by
  induction first with
  | nil => rfl
  | cons exchange rest ih =>
      cases rest with
      | nil =>
          cases threw : exchange.threw with
          | false => simp [givenUp, threw]
          | true =>
              -- Only the last exchange of the first stretch looks across the seam.
              have differs := seam exchange rfl threw
              cases second with
              | nil => simp [givenUp]
              | cons next _ => simp [givenUp, threw, differs next rfl]
      | cons next others =>
          have tail := ih (fun left last => seam left (by simpa using last))
          have unfolded (more : List (Exchange ν))
              : givenUp (exchange :: next :: more)
                = (if exchange.threw && next.request ≠ exchange.request then [exchange] else [])
                  ++ givenUp (next :: more) := by
            rw [givenUp]
            by_cases given : exchange.threw = true ∧ next.request ≠ exchange.request
              <;> simp [given]
          rw [List.cons_append, List.cons_append, unfolded, unfolded, ← List.cons_append, tail,
            List.append_assoc]

/-- Exchanges on different requests do not merge. -/
theorem givenUp_append_of_different {first second : List (Exchange ν)}
    (different : ∀ left ∈ first, ∀ right ∈ second, right.request ≠ left.request)
    : givenUp (first ++ second) = givenUp first ++ givenUp second :=
  givenUp_append fun left last _ right next =>
    different left (List.mem_of_getLast? last) right (List.mem_of_head? next)

/-- A retried call that got a page gives nothing up, by induction on its failures. -/
theorem givenUp_resolved {request : GetEventsRequest} {failures : List (Exchange ν)}
    (response : GetEventsResponse ν) (later : List (Exchange ν))
    (own : ∀ exchange ∈ failures, exchange.request = request)
    : givenUp (failures ++ ⟨request, .ok response⟩ :: later) = givenUp later := by
  induction failures with
  | nil => simp [givenUp, Exchange.threw]
  | cons exchange rest ih =>
      have same := own exchange (by simp)
      have rest_eq := ih (fun exchange member => own exchange (by simp [member]))
      cases rest with
      | nil => simp [givenUp, Exchange.threw, same]
      | cons next _ => simpa [givenUp, own next (by simp), same] using rest_eq

/-- A retried call that failed gives its last attempt up, unless the same is asked again. -/
theorem givenUp_failed {request : GetEventsRequest} {failures later : List (Exchange ν)}
    {thrown : Thrown} (own : ∀ exchange ∈ failures, exchange.request = request)
    (different : ∀ exchange ∈ later, exchange.request ≠ request)
    : givenUp (failures ++ ⟨request, .error thrown⟩ :: later)
      = ⟨request, .error thrown⟩ :: givenUp later := by
  induction failures with
  | nil =>
      cases later with
      | nil => simp [givenUp, Exchange.threw]
      | cons next _ => simp [givenUp, Exchange.threw, different next (by simp)]
  | cons exchange rest ih =>
      have same := own exchange (by simp)
      have rest_eq := ih (fun exchange member => own exchange (by simp [member]))
      cases rest with
      | nil => simpa [givenUp, Exchange.threw, same] using rest_eq
      | cons next _ => simpa [givenUp, own next (by simp), same] using rest_eq

/-- The requests on which the client gave up. -/
def givenUpRequests (exchanges : List (Exchange ν)) : List GetEventsRequest :=
  (givenUp exchanges).map Exchange.request

end Axionvera.Client.ContractEvents
