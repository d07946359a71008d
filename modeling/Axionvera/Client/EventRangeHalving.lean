import Axionvera.Client.EventFetchTermination
import Axionvera.Client.EventRangeCall

/-! Halving against a server that rejects wide ranges: it makes progress whenever the client
recognises the server's 413 errors.
-/

namespace Axionvera.Client.ContractEvents

open Axionvera.Errors
open Axionvera.Http

variable {ν : Type}

/-- The server answers with an error of status 413 exactly when the range is wider than
`width` ledgers, and otherwise with a page that continues at one of the listed tokens.
-/
structure LimitsWidth (client : EventsClient ν) (width : Nat) (tokens : List String)
    : Prop where
  positive : 1 ≤ width
  wide
    : ∀ history request,
        width < request.width
        → ∃ thrown,
            client.getEvents history request = .error thrown
            ∧ getErrorStatusCode thrown = some 413
  narrow
    : ∀ history request,
        request.width ≤ width
        → ∃ response,
            client.getEvents history request = .ok response
            ∧ ∀ token, nextToken response = some token → token ∈ tokens

/-- Such a server draws its tokens from the list. -/
theorem LimitsWidth.tokensFrom {client : EventsClient ν} {width : Nat} {tokens : List String}
    (limits : LimitsWidth client width tokens)
    : TokensFrom client tokens := by
  intro history request response token answered next
  rcases Nat.lt_or_ge width request.width with wide | narrow
  · obtain ⟨thrown, failed, _⟩ := limits.wide history request wide
    simp [failed] at answered
  · obtain ⟨page, resolved, known⟩ := limits.narrow history request narrow
    rw [resolved, Except.ok.injEq] at answered
    exact known token (answered ▸ next)

/-- A request the server resolves is narrow. -/
theorem LimitsWidth.narrow_of_ok {client : EventsClient ν} {width : Nat}
    {tokens : List String} (limits : LimitsWidth client width tokens)
    {history : List (Exchange ν)} {request : GetEventsRequest}
    {response : GetEventsResponse ν}
    (answered : client.getEvents history request = .ok response)
    : request.width ≤ width := by
  by_contra wide
  obtain ⟨thrown, failed, _⟩ := limits.wide history request (Nat.lt_of_not_le wide)
  simp [failed] at answered

/-- A request the server rejects is wide. -/
theorem LimitsWidth.wide_of_error {client : EventsClient ν} {width : Nat}
    {tokens : List String} (limits : LimitsWidth client width tokens)
    {history : List (Exchange ν)} {request : GetEventsRequest} {thrown : Thrown}
    (answered : client.getEvents history request = .error thrown)
    : width < request.width := by
  by_contra narrow
  obtain ⟨response, resolved, _⟩ := limits.narrow history request (Nat.le_of_not_lt narrow)
  simp [resolved] at answered

/-- Together the later requests ask for every ledger of this one, each for fewer ledgers and
for none beside them.
-/
def FollowedByParts (request : GetEventsRequest) (later : List (Exchange ν)) : Prop :=
  ∀ ledger,
    request.covers ledger = true
    → ∃ next ∈ later,
        next.request.covers ledger = true
        ∧ next.request.Within request.startLedger request.endLedger
        ∧ next.request.width < request.width

/-- Every request that the server rejected is followed by its parts. -/
def Progresses : List (Exchange ν) → Prop
  | [] => True
  | exchange :: later =>
      (exchange.threw = true → FollowedByParts exchange.request later) ∧ Progresses later

/-- Further exchanges do not undo that a request is followed by its parts. -/
theorem FollowedByParts.mono {request : GetEventsRequest} {later more : List (Exchange ν)}
    (parts : FollowedByParts request later) (subset : later ⊆ more)
    : FollowedByParts request more := by
  intro ledger covers
  obtain ⟨next, member, rest⟩ := parts ledger covers
  exact ⟨next, subset member, rest⟩

/-- Progress composes, by induction on the first exchanges. -/
theorem Progresses.append {first second : List (Exchange ν)} (left : Progresses first)
    (right : Progresses second)
    : Progresses (first ++ second) := by
  induction first with
  | nil => exact right
  | cons exchange rest ih =>
      exact ⟨fun threw => (left.1 threw).mono (List.subset_append_left _ _), ih left.2⟩

/-- A retried call progresses when its request is followed by its parts, by induction on the
failed attempts before the deciding one.
-/
theorem Progresses.retried {request : GetEventsRequest} {failures later : List (Exchange ν)}
    {answer : Except Thrown (GetEventsResponse ν)}
    (own : ∀ exchange ∈ failures, exchange.request = request)
    (parts : FollowedByParts request later) (progresses : Progresses later)
    : Progresses (failures ++ ⟨request, answer⟩ :: later) := by
  induction failures with
  | nil => exact ⟨fun _ => parts, progresses⟩
  | cons exchange rest ih =>
      refine ⟨fun _ => ?_, ih (fun exchange member => own exchange (by simp [member]))⟩
      rw [own exchange (by simp)]
      refine parts.mono (fun next member => ?_)
      simp [member]

/-- Halving a wide range follows its request by two parts that cover it. -/
theorem followedByParts_halves {params : RangeParams} {cursor : Option String}
    {lowerFirst upperFirst : Exchange ν} {later : List (Exchange ν)}
    (wide : params.startLedger < params.endLedger)
    (lower : lowerFirst.request = buildGetEventsRequest (params.lower cursor) cursor)
    (upper : upperFirst.request = buildGetEventsRequest params.upper none)
    (lowerAsked : lowerFirst ∈ later) (upperAsked : upperFirst ∈ later)
    : FollowedByParts (buildGetEventsRequest params cursor) later := by
  have between := midpoint_between wide
  intro ledger covers
  have inside := GetEventsRequest.covers_iff.mp covers
  simp only [buildGetEventsRequest_startLedger, buildGetEventsRequest_endLedger] at inside
  rcases Nat.lt_or_ge (midpoint params.startLedger params.endLedger) ledger with above | below
  · have start : upperFirst.request.startLedger
        = midpoint params.startLedger params.endLedger + 1 := by simp [upper, RangeParams.upper]
    have stop : upperFirst.request.endLedger = params.endLedger := by
      simp [upper, RangeParams.upper]
    refine ⟨upperFirst, upperAsked, GetEventsRequest.covers_iff.mpr ?_, ⟨?_, ?_, ?_⟩, ?_⟩
    all_goals
      simp only [GetEventsRequest.width, buildGetEventsRequest_startLedger,
        buildGetEventsRequest_endLedger, start, stop]
      omega
  · have start : lowerFirst.request.startLedger = params.startLedger := by
      simp [lower, RangeParams.lower]
    have stop : lowerFirst.request.endLedger
        = midpoint params.startLedger params.endLedger := by simp [lower, RangeParams.lower]
    refine ⟨lowerFirst, lowerAsked, GetEventsRequest.covers_iff.mpr ?_, ⟨?_, ?_, ?_⟩, ?_⟩
    all_goals
      simp only [GetEventsRequest.width, buildGetEventsRequest_startLedger,
        buildGetEventsRequest_endLedger, start, stop]
      omega

/-- The server's errors in these exchanges carry a recognised text once they are normalised.
-/
def AllRecognised (exchanges : List (Exchange ν)) : Prop :=
  ∀ exchange ∈ exchanges,
    ∀ thrown,
      exchange.answer = .error thrown
      → tooLargeMessage (toAxionveraError thrown).message = true

/-- The catch block sees a normalised error, which it recognises by its message only. -/
theorem isPayloadTooLarge_normalised (error : AxionveraError)
    : isPayloadTooLarge (.axionvera error) = tooLargeMessage error.message := by
  simp [isPayloadTooLarge, asErrorLike]

/-- Recognition of the errors of two lists is recognition of those of each. -/
theorem allRecognised_append {first second : List (Exchange ν)}
    : AllRecognised (first ++ second) ↔ AllRecognised first ∧ AllRecognised second := by
  simp only [AllRecognised, List.mem_append]
  constructor
  · exact fun all => ⟨fun exchange member => all exchange (.inl member),
      fun exchange member => all exchange (.inr member)⟩
  · rintro ⟨left, right⟩ exchange (member | member)
    · exact left exchange member
    · exact right exchange member

/-- Recognition of a rejected request and of later errors. -/
theorem allRecognised_cons {request : GetEventsRequest} {thrown : Thrown}
    {later : List (Exchange ν)}
    : AllRecognised (⟨request, .error thrown⟩ :: later)
      ↔ tooLargeMessage (toAxionveraError thrown).message = true ∧ AllRecognised later := by
  simp [AllRecognised]

/-- What a fetch did against a server that limits the width of a range: it resolves just when
it recognised the errors it gave up on, and then it made progress.
-/
structure Halves (exchanges : List (Exchange ν))
    (outcome : Except AxionveraError (GetContractEventsResult ν)) : Prop where
  recognised : (∃ result, outcome = .ok result) ↔ AllRecognised (givenUp exchanges)
  progresses : ∀ result, outcome = .ok result → Progresses exchanges

/-- Narrow requests are resolved at once: no attempt on them fails. -/
theorem LimitsWidth.asked_ok {client : EventsClient ν} {width : Nat} {tokens : List String}
    (limits : LimitsWidth client width tokens) {request : GetEventsRequest}
    {log after : List (Exchange ν)} {response : GetEventsResponse ν}
    (asked : Asked client request log (.ok response) after)
    : after = log ++ [⟨request, .ok response⟩] := by
  obtain ⟨failures, history, whole, failed, answered⟩ := asked.resolved
  cases failures with
  | nil => exact whole
  | cons exchange rest =>
      obtain ⟨earlier, thrown, _, rejected⟩ := failed exchange (by simp)
      -- The same request cannot be both rejected and answered.
      have narrow := limits.narrow_of_ok answered
      have wide := limits.wide_of_error rejected
      omega

/-- A rejected request that is not split is not recognised: the server allows single ledgers,
so a rejected range can be halved.
-/
theorem LimitsWidth.unrecognised {client : EventsClient ν} {width : Nat}
    {tokens : List String} (limits : LimitsWidth client width tokens)
    {params : RangeParams} {cursor : Option String} {history : List (Exchange ν)}
    {thrown : Thrown}
    (answered
      : client.getEvents history (buildGetEventsRequest params cursor) = .error thrown)
    (rethrown : ¬ Splits params (toAxionveraError thrown))
    : tooLargeMessage (toAxionveraError thrown).message = false := by
  have wide := limits.wide_of_error answered
  have positive := limits.positive
  simp only [GetEventsRequest.width, buildGetEventsRequest_startLedger,
    buildGetEventsRequest_endLedger] at wide
  rw [Splits, isPayloadTooLarge_normalised, not_and] at rethrown
  exact Bool.eq_false_iff.mpr (fun recognised => rethrown recognised (by omega))

/-- A rejected first half decides the fetch. -/
theorem Halves.lowerFailed {params : RangeParams} {cursor : Option String}
    {failures lower : List (Exchange ν)} {thrown : Thrown} {error : AxionveraError}
    (wide : params.startLedger < params.endLedger)
    (own
      : ∀ exchange ∈ failures, exchange.request = buildGetEventsRequest params cursor)
    (recognised : tooLargeMessage (toAxionveraError thrown).message = true)
    (lowerWithin
      : ∀ exchange ∈ lower,
          exchange.request.Within params.startLedger
            (midpoint params.startLedger params.endLedger))
    (halves : Halves lower (.error error))
    : Halves (failures ++ ⟨buildGetEventsRequest params cursor, .error thrown⟩ :: lower)
        (.error error) := by
  refine ⟨?_, by simp⟩
  rw [givenUp_failed own (fun exchange member =>
    request_ne_of_halves wide (.inl (lowerWithin exchange member))), allRecognised_cons]
  simpa [recognised] using halves.recognised

/-- Both halves decide the fetch together. -/
theorem Halves.both {params : RangeParams} {cursor : Option String}
    {failures lower upper : List (Exchange ν)} {thrown : Thrown}
    {firstHalf : GetContractEventsResult ν}
    {outcome merged : Except AxionveraError (GetContractEventsResult ν)}
    (wide : params.startLedger < params.endLedger)
    (own
      : ∀ exchange ∈ failures, exchange.request = buildGetEventsRequest params cursor)
    (recognised : tooLargeMessage (toAxionveraError thrown).message = true)
    (lowerFetch
      : ∃ first rest,
          lower = first :: rest
          ∧ first.request = buildGetEventsRequest (params.lower cursor) cursor
          ∧ ∀ exchange ∈ lower,
              exchange.request.Within params.startLedger
                (midpoint params.startLedger params.endLedger))
    (upperFetch
      : ∃ first rest,
          upper = first :: rest
          ∧ first.request = buildGetEventsRequest params.upper none
          ∧ ∀ exchange ∈ upper,
              exchange.request.Within (midpoint params.startLedger params.endLedger + 1)
                params.endLedger)
    (halvesLower : Halves lower (.ok firstHalf)) (halvesUpper : Halves upper outcome)
    (same : (∃ result, merged = .ok result) ↔ ∃ result, outcome = .ok result)
    : Halves
        (failures
          ++ ⟨buildGetEventsRequest params cursor, .error thrown⟩ :: (lower ++ upper))
        merged := by
  obtain ⟨lowerFirst, lowerRest, rfl, lowerRequest, lowerWithin⟩ := lowerFetch
  obtain ⟨upperFirst, upperRest, rfl, upperRequest, upperWithin⟩ := upperFetch
  have different
      : ∀ exchange ∈ (lowerFirst :: lowerRest) ++ (upperFirst :: upperRest),
          exchange.request ≠ buildGetEventsRequest params cursor := by
    intro exchange member
    refine request_ne_of_halves wide ?_
    exact (List.mem_append.mp member).imp (lowerWithin exchange) (upperWithin exchange)
  have apart
      : ∀ left ∈ lowerFirst :: lowerRest,
          ∀ right ∈ upperFirst :: upperRest, right.request ≠ left.request := by
    intro left inLower right inUpper equal
    have upperBound := (lowerWithin left inLower).upper
    have nonempty := (lowerWithin left inLower).nonempty
    have lowerBound := (upperWithin right inUpper).lower
    rw [equal] at lowerBound
    omega
  -- The first half resolved, so only the errors of the second one are open.
  have lowerOk : AllRecognised (givenUp (lowerFirst :: lowerRest)) :=
    halvesLower.recognised.mp ⟨_, rfl⟩
  refine ⟨?_, fun result resolved => ?_⟩
  · rw [givenUp_failed own different, allRecognised_cons, givenUp_append_of_different apart,
      allRecognised_append, same, halvesUpper.recognised]
    simp [recognised, lowerOk]
  · obtain ⟨second, resolvedUpper⟩ := same.mp ⟨result, resolved⟩
    refine Progresses.retried own ?_
      ((halvesLower.progresses _ rfl).append (halvesUpper.progresses _ resolvedUpper))
    exact followedByParts_halves wide lowerRequest upperRequest (by simp) (by simp)

/-- Exchanges after a retried call, seen from before the call. -/
private theorem append_exchanges (log failures later : List (Exchange ν))
    (exchange : Exchange ν)
    : log ++ (failures ++ [exchange]) ++ later = log ++ (failures ++ exchange :: later) := by
  simp

/-- Every fetch of all pages against such a server halves as `Halves` says. Witness: induction
on the fetch; narrow requests are resolved, and wide ones give up one error each.
-/
theorem Fetches.halves {client : EventsClient ν} {width : Nat} {tokens : List String}
    {params : RangeParams} {cursor : Option String} {events : List (ContractEventResult ν)}
    {seen : List String} {log after : List (Exchange ν)}
    {outcome : Except AxionveraError (GetContractEventsResult ν)}
    (limits : LimitsWidth client width tokens)
    (fetches : Fetches client params cursor events seen log outcome after)
    (fetchAll : params.fetchAll = true) (ordered : params.startLedger ≤ params.endLedger)
    : ∃ exchanges, after = log ++ exchanges ∧ Halves exchanges outcome := by
  induction fetches with
  | finished asked _ | stopped asked _ _ =>
      exact ⟨_, limits.asked_ok asked, by simp [givenUp, Exchange.threw, AllRecognised],
        fun _ _ => by simp [Progresses, Exchange.threw]⟩
  | turned asked _ _ _ _ ih =>
      have whole := limits.asked_ok asked
      subst whole
      obtain ⟨later, rfl, halves⟩ := ih fetchAll ordered
      refine ⟨_, List.append_assoc _ _ _, ?_, fun result resolved => ?_⟩
      · simpa [givenUp, Exchange.threw] using halves.recognised
      · exact ⟨by simp [Exchange.threw], halves.progresses result resolved⟩
  | @failed params cursor events seen log error after asked rethrown =>
      obtain ⟨failures, history, thrown, whole, failed, answered, rfl⟩ := asked.rejected
      have own := fun exchange member => (failed exchange member).request_eq
      refine ⟨_, whole, ?_, by simp⟩
      rw [givenUp_failed own (by simp), allRecognised_cons]
      simp [limits.unrecognised answered rethrown]
  | @lowerFailed params cursor events seen log error middle thrown' after asked splits lower ih =>
      obtain ⟨failures, history, thrown, rfl, failed, answered, rfl⟩ := asked.rejected
      have own := fun exchange member => (failed exchange member).request_eq
      have between := midpoint_between splits.2
      obtain ⟨exchanges, rfl, halves⟩ := ih fetchAll between.1
      obtain ⟨first, rest, whole, _, within⟩ := lower.exchanges between.1
      rw [← List.append_cancel_left whole] at within
      refine ⟨_, append_exchanges _ _ _ _, ?_⟩
      exact .lowerFailed splits.2 own (isPayloadTooLarge_normalised _ ▸ splits.1) within halves
  | lowerOnly _ _ onePage _ _ => simp [fetchAll] at onePage
  | upperFailed asked splits _ lower upper ihLower ihUpper
  | halved asked splits _ lower upper ihLower ihUpper =>
      obtain ⟨failures, history, thrown, rfl, failed, answered, rfl⟩ := asked.rejected
      have own := fun exchange member => (failed exchange member).request_eq
      have between := midpoint_between splits.2
      obtain ⟨lowerExchanges, rfl, halvesLower⟩ := ihLower fetchAll between.1
      obtain ⟨upperExchanges, rfl, halvesUpper⟩ := ihUpper fetchAll between.2
      obtain ⟨first, rest, whole, request, within⟩ := lower.exchanges between.1
      obtain ⟨next, others, upperWhole, upperRequest, upperWithin⟩ := upper.exchanges between.2
      have lowerEq := List.append_cancel_left whole
      have upperEq := List.append_cancel_left upperWhole
      refine ⟨_, (List.append_assoc _ _ _).trans (append_exchanges _ _ _ _), ?_⟩
      exact .both splits.2 own (isPayloadTooLarge_normalised _ ▸ splits.1)
        ⟨first, rest, lowerEq, request, lowerEq ▸ within⟩
        ⟨next, others, upperEq, upperRequest, upperEq ▸ upperWithin⟩ halvesLower halvesUpper
        (by simp)

/-- A call with `fetchAll` comes to the same outcome with every sufficient fuel. It resolves,
asks only for parts of its range and follows every rejected request by smaller parts that
cover it, if and only if every error on which the retry wrapper gives up is recognised.
-/
theorem getContractEvents_halves_iff (client : EventsClient ν) (width : Nat)
    (tokens : List String) (limits : LimitsWidth client width tokens) (nowMs : Int)
    (contractId : String) (topicFilters : Option (List (List String))) (range : LedgerRange)
    (limit : Option Nat) (cursor : Option String)
    : ∃ enough outcome log,
        (∀ fuel ≥ enough,
          getContractEvents client fuel nowMs contractId topicFilters
              (range.options limit cursor true) []
            = some (outcome, log))
        ∧ ((∃ result, outcome = .ok result)
              ∧ (∀ exchange ∈ log, exchange.request.Within range.first range.last)
              ∧ Progresses log
            ↔ AllRecognised (givenUp log)) := by
  let sufficient := fuelBound tokens.length (range.last - range.first) tokens.length
  obtain ⟨⟨outcome, log⟩, evaluated⟩ :=
    fetchLoop_total limits.tokensFrom sufficient
      (range.params contractId topicFilters limit cursor true) cursor [] [] [] List.nodup_nil
      (List.nil_subset _) le_rfl
  have fetches := fetchLoop_fetches evaluated
  obtain ⟨exchanges, whole, halves⟩ := fetches.halves limits rfl range.ordered
  obtain ⟨first, rest, asked, _, within⟩ := fetches.exchanges range.ordered
  rw [List.nil_append] at whole asked
  subst whole
  rw [← asked] at within
  refine ⟨sufficient, outcome.mapError getEventsError, log, fun fuel enough => ?_, ?_⟩
  -- More fuel changes nothing, since the loop has come to an outcome.
  · rw [getContractEvents_range]
    exact congrArg (Option.map _) (fetchLoop_mono enough evaluated)
  · have resolved
        : (∃ result, outcome.mapError getEventsError = .ok result)
          ↔ ∃ result, outcome = .ok result := by
      cases outcome <;> simp [Except.mapError]
    rw [resolved, ← halves.recognised]
    constructor
    · exact fun all => all.1
    · exact fun ⟨result, ok⟩ => ⟨⟨result, ok⟩, within, halves.progresses result ok⟩

/-- A server that allows single ledgers only, and rejects wider ranges with an error of status
413 and the given message.
-/
def strictClient (text : String) : EventsClient Unit :=
  {
    getEvents := fun _ request =>
      if 1 < request.width then
        .error (.value { message := some text, response := some { status := some 413 } })
      else .ok ⟨some [], none⟩
    latestLedger := .ok none
    retryConfig := defaultRetryConfig
    scValToNative := fun _ => none
    parseDate := fun _ => none
  }

/-- The strict server limits the width of a range to one ledger, whatever its text. -/
theorem strictClient_limitsWidth (text : String) : LimitsWidth (strictClient text) 1 [] where
  positive := le_rfl
  wide := fun _ request wide =>
    ⟨.value { message := some text, response := some { status := some 413 } },
      by simp only [strictClient, if_pos wide], rfl⟩
  narrow := fun _ request narrow =>
    ⟨⟨some [], none⟩, by simp only [strictClient, if_neg (Nat.not_lt.mpr narrow)],
      by simp [nextToken, extractPagingToken]⟩

/-- The ledgers 100 to 200. -/
def hundredLedgers : LedgerRange := ⟨100, 200, by decide, by decide⟩

/-- A 413 error whose text names neither the status nor the usual phrases is rethrown: the
call rejects after its first request and never narrows its range.
-/
theorem getContractEvents_rethrows_413
    : LimitsWidth (strictClient "range limit exceeded") 1 []
      ∧ ∃ error exchange,
          getContractEvents (strictClient "range limit exceeded") 9 0 "C" none
              (hundredLedgers.options none none true) []
            = some (.error error, [exchange])
          ∧ exchange.threw = true
          ∧ exchange.request.width = 101 :=
  ⟨strictClient_limitsWidth _, _, _, rfl, rfl, rfl⟩

/-- The equivalence at the strict server with a text it recognises. -/
theorem getContractEvents_halves_iff_strictClient
    : ∃ enough outcome log,
        (∀ fuel ≥ enough,
          getContractEvents (strictClient "Request Entity Too Large") fuel 0 "C" none
              (hundredLedgers.options none none true) []
            = some (outcome, log))
        ∧ ((∃ result, outcome = .ok result)
              ∧ (∀ exchange ∈ log,
                  exchange.request.Within hundredLedgers.first hundredLedgers.last)
              ∧ Progresses log
            ↔ AllRecognised (givenUp log)) :=
  getContractEvents_halves_iff _ 1 [] (strictClient_limitsWidth _) 0 "C" none hundredLedgers
    none none

end Axionvera.Client.ContractEvents
