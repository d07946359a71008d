import Axionvera.Http.Retry

/-! Contract event retrieval of `StellarClient` (`client/stellarClient.ts`): cursor pagination
over a ledger range that is halved when the server finds a request too large.
-/

namespace Axionvera.Client.ContractEvents

open Axionvera.Errors
open Axionvera.Http

/-- The one filter that `buildGetEventsRequest` puts into a request. -/
structure EventFilter where
  type : String
  contractIds : List String
  topics : Option (List (List String))
  deriving DecidableEq

/-- The optional pagination part of a request. -/
structure Pagination where
  limit : Option Nat
  cursor : Option String
  deriving DecidableEq

/-- A `getEvents` request. -/
structure GetEventsRequest where
  startLedger : Nat
  endLedger : Nat
  filters : List EventFilter
  pagination : Option Pagination
  deriving DecidableEq

/-- The cursor that a request carries. -/
def GetEventsRequest.cursor (request : GetEventsRequest) : Option String :=
  request.pagination.bind Pagination.cursor

/-- The page limit that a request carries. -/
def GetEventsRequest.limit (request : GetEventsRequest) : Option Nat :=
  request.pagination.bind Pagination.limit

/-- An event's `value` as the server sends it. -/
inductive RawValue (ν : Type) where
  | encoded (text : String)
  | native (value : ν)
  deriving DecidableEq

/-- A decoded value, or the encoded text where decoding failed. -/
inductive DecodedValue (ν : Type) where
  | native (value : ν)
  | undecoded (text : String)
  deriving DecidableEq

/-- An event as the server sends it; `topic` is `none` when it is no array. -/
structure EventResponse (ν : Type) where
  id : String
  ledger : Nat
  pagingToken : Option String
  topic : Option (List String)
  value : RawValue ν
  deriving DecidableEq

/-- `ContractEventResult`: the event with topics and value decoded. -/
structure ContractEventResult (ν : Type) where
  id : String
  ledger : Nat
  pagingToken : Option String
  topic : List (DecodedValue ν)
  value : DecodedValue ν
  deriving DecidableEq

/-- A page of events; `events` is `none` when the response has no such array. -/
structure GetEventsResponse (ν : Type) where
  events : Option (List (EventResponse ν))
  pagingToken : Option String
  deriving DecidableEq

/-- `GetContractEventsResult`. -/
structure GetContractEventsResult (ν : Type) where
  events : List (ContractEventResult ν)
  pagingToken : Option String
  deriving DecidableEq

/-- One request with the server's answer to it. -/
structure Exchange (ν : Type) where
  request : GetEventsRequest
  answer : Except Thrown (GetEventsResponse ν)

/-- The collaborators of the client. An answer of the server may depend on everything that
was asked before. `latestLedger` is what `getLatestLedger` comes to, with the sequence
where it is a positive finite number; `scValToNative` and `parseDate` fail with `none`.
-/
structure EventsClient (ν : Type) where
  getEvents : List (Exchange ν) → GetEventsRequest → Except Thrown (GetEventsResponse ν)
  latestLedger : Except AxionveraError (Option Nat)
  retryConfig : RetryConfig
  scValToNative : String → Option ν
  parseDate : String → Option Int

variable {ν : Type}

/-- The parameters of `fetchContractEventsRange`. -/
structure RangeParams where
  contractId : String
  topicFilters : Option (List (List String))
  startLedger : Nat
  endLedger : Nat
  limit : Option Nat
  cursor : Option String
  fetchAll : Bool
  deriving DecidableEq

/-- `buildGetEventsRequest`. -/
def buildGetEventsRequest (params : RangeParams) (cursor : Option String)
    : GetEventsRequest :=
  {
    startLedger := params.startLedger
    endLedger := params.endLedger
    filters :=
      [{
        type := "contract"
        contractIds := [params.contractId]
        topics := params.topicFilters.filter (fun topics => !topics.isEmpty)
      }]
    pagination :=
      if params.limit.isSome || cursor.isSome then some ⟨params.limit, cursor⟩ else none
  }

/-- `decodeScVal`. -/
def decodeScVal (scValToNative : String → Option ν) (encodedScVal : String)
    : DecodedValue ν :=
  match scValToNative encodedScVal with
  | some value => .native value
  | none => .undecoded encodedScVal

/-- `decodeContractEvent`. -/
def decodeContractEvent (scValToNative : String → Option ν) (event : EventResponse ν)
    : ContractEventResult ν :=
  {
    id := event.id
    ledger := event.ledger
    pagingToken := event.pagingToken
    topic := (event.topic.getD []).map (decodeScVal scValToNative)
    value := match event.value with
      | .encoded text => decodeScVal scValToNative text
      | .native value => .native value
  }

/-- `extractPagingToken`: the response's own token, else that of its last event. The empty
string counts as no token.
-/
def extractPagingToken (response : GetEventsResponse ν) (events : List (EventResponse ν))
    : Option String :=
  (response.pagingToken.filter (fun token => token ≠ ""))
    <|> (events.getLast?.bind EventResponse.pagingToken).filter (fun token => token ≠ "")

/-- The texts by which `isPayloadTooLarge` recognises a message, in any letter case. -/
def tooLargeMessage (message : String) : Bool :=
  let text := toLowerCase message
  includesText text "payload too large".toList
    || includesText text "request entity too large".toList
    || includesText text "413".toList

/-- `isPayloadTooLarge`. An `AxionveraError` has neither a `response` nor a `status` field,
only a `statusCode`, so its message alone decides.
-/
def isPayloadTooLarge (thrown : Thrown) : Bool :=
  let errorLike := asErrorLike thrown
  let statusCode := (errorLike.response.bind ErrorResponse.status) <|> errorLike.status
  statusCode = some 413 || tooLargeMessage (errorLike.message.getD "")

/-- Ask the server once and record the exchange. -/
def askServer (client : EventsClient ν) (request : GetEventsRequest) (log : List (Exchange ν))
    : Except Thrown (GetEventsResponse ν) × List (Exchange ν) :=
  let answer := client.getEvents log request
  (answer, log ++ [⟨request, answer⟩])

/-- The retried `getEvents` call of one loop iteration. -/
def callGetEvents (client : EventsClient ν) (request : GetEventsRequest)
    (log : List (Exchange ν))
    : RetryResult (List (Exchange ν)) (GetEventsResponse ν) :=
  retry client.retryConfig (askServer client request) log

/-- `Math.floor((startLedger + endLedger) / 2)`. -/
def midpoint (startLedger endLedger : Nat) : Nat :=
  (startLedger + endLedger) / 2

/-- The outcome of a fetch together with the exchanges up to then. -/
abbrev FetchOutcome (ν : Type) :=
  Except AxionveraError (GetContractEventsResult ν) × List (Exchange ν)

/-- The `while (true)` loop of `fetchContractEventsRange`, from an iteration with the given
cursor, collected events and seen tokens. The fuel bounds iterations and nested ranges
together; `none` is running out of it.
-/
def fetchLoop (client : EventsClient ν)
    : (fuel : Nat) → RangeParams → (cursor : Option String)
      → (events : List (ContractEventResult ν)) → (seenPagingTokens : List String)
      → (log : List (Exchange ν)) → Option (FetchOutcome ν)
  | 0, _, _, _, _, _ => none
  | fuel + 1, params, cursor, events, seenPagingTokens, log =>
      let call := callGetEvents client (buildGetEventsRequest params cursor) log
      match call.outcome with
      | .ok response =>
          let pageEvents := response.events.getD []
          let events := events ++ pageEvents.map (decodeContractEvent client.scValToNative)
          match extractPagingToken response pageEvents with
          | none => some (.ok ⟨events, none⟩, call.world)
          | some pagingToken =>
              -- A token seen before ends the loop, so that a repeating server cannot hold it.
              if !params.fetchAll || pagingToken ∈ seenPagingTokens then
                some (.ok ⟨events, some pagingToken⟩, call.world)
              else
                fetchLoop client fuel params (some pagingToken) events
                  (pagingToken :: seenPagingTokens) call.world
      | .error error =>
          if isPayloadTooLarge (.axionvera error)
              && params.startLedger < params.endLedger then
            let middle := midpoint params.startLedger params.endLedger
            -- The events collected so far are in scope here, but no branch uses them.
            let firstParams := { params with endLedger := middle, cursor := cursor }
            match fetchLoop client fuel firstParams cursor [] [] call.world with
            | some (.ok firstHalf, log) =>
                if !params.fetchAll then some (.ok firstHalf, log)
                else
                  let secondParams :=
                    { params with startLedger := middle + 1, cursor := none }
                  match fetchLoop client fuel secondParams none [] [] log with
                  | some (.ok secondHalf, log) =>
                      some
                        (.ok
                          {
                            events := firstHalf.events ++ secondHalf.events
                            pagingToken := secondHalf.pagingToken <|> firstHalf.pagingToken
                          },
                        log)
                  -- The events of the first half are lost with the second one.
                  | stopped => stopped
            | stopped => stopped
          else some (.error error, call.world)

/-- `fetchContractEventsRange`. -/
def fetchContractEventsRange (client : EventsClient ν) (fuel : Nat) (params : RangeParams)
    (log : List (Exchange ν))
    : Option (FetchOutcome ν) :=
  fetchLoop client fuel params params.cursor [] [] log

/-- The accepted kinds of `startTime`, in milliseconds where it is a number or a date. -/
inductive StartTime where
  | last24Hours
  | date (ms : Int)
  | number (ms : Int)
  | text (text : String)
  deriving DecidableEq

/-- `GetContractEventsOptions`. -/
structure GetContractEventsOptions where
  startLedger : Option Nat := none
  endLedger : Option Nat := none
  limit : Option Nat := none
  cursor : Option String := none
  fetchAll : Option Bool := none
  startTime : Option StartTime := none
  deriving DecidableEq

/-- `resolveEndLedger`. -/
def resolveEndLedger (client : EventsClient ν) (providedEndLedger : Option Nat)
    : Except AxionveraError Nat :=
  match providedEndLedger with
  | some endLedger => .ok (max 1 endLedger)
  | none => client.latestLedger.map (fun sequence => sequence.getD 1)

/-- `resolveStartTimeMs`. -/
def resolveStartTimeMs (client : EventsClient ν) (startTime : StartTime) (nowMs : Int)
    : Except AxionveraError Int :=
  match startTime with
  | .last24Hours => .ok (nowMs - 24 * 60 * 60 * 1000)
  | .date ms => .ok ms
  | .number ms => .ok ms
  | .text text =>
      match client.parseDate text with
      | some ms => .ok ms
      | none =>
          .error
            {
              name := .axionveraError
              message := "Invalid startTime value: " ++ text
              statusCode := none
              requestId := none
              rpcMethod := none
              originalError := .undefined
            }

/-- `resolveStartLedger`, with one ledger for every five seconds to rewind. -/
def resolveStartLedger (client : EventsClient ν) (options : GetContractEventsOptions)
    (endLedger : Nat) (nowMs : Int)
    : Except AxionveraError Nat :=
  match options.startLedger with
  | some startLedger => .ok (max 1 startLedger)
  | none =>
      match options.startTime with
      | none => .ok endLedger
      | some startTime =>
          (resolveStartTimeMs client startTime nowMs).map fun timestampMs =>
            let elapsedMs := (max 0 (nowMs - timestampMs)).toNat
            let ledgersToRewind := (elapsedMs + 4999) / 5000
            max 1 (endLedger - ledgersToRewind)

/-- The `AxionveraRPCError` that `getContractEvents` rejects with. -/
def getEventsError (error : AxionveraError) : AxionveraError :=
  {
    name := .axionveraRPCError
    message := error.message
    statusCode := none
    requestId := none
    rpcMethod := some "getEvents"
    originalError := .axionvera error
  }

/-- `getContractEvents`, called at time `nowMs`. -/
def getContractEvents (client : EventsClient ν) (fuel : Nat) (nowMs : Int)
    (contractId : String) (topicFilters : Option (List (List String)))
    (options : GetContractEventsOptions) (log : List (Exchange ν))
    : Option (FetchOutcome ν) :=
  let resolved := do
    let endLedger ← resolveEndLedger client options.endLedger
    let startLedger ← resolveStartLedger client options endLedger nowMs
    return (startLedger, endLedger)
  match resolved with
  | .error error => some (.error (getEventsError error), log)
  | .ok (startLedger, endLedger) =>
      let fetched :=
        fetchContractEventsRange client fuel
          {
            contractId := contractId
            topicFilters := topicFilters
            startLedger := min startLedger endLedger
            endLedger := max startLedger endLedger
            limit := options.limit
            cursor := options.cursor
            fetchAll := options.fetchAll.getD false
          }
          log
      fetched.map fun (outcome, log) => (outcome.mapError getEventsError, log)

end Axionvera.Client.ContractEvents
