import Axionvera.Client.SerializableValue
import Axionvera.Foundation.InsertionMap

/-! Tracking pending transactions (`client/stellarClient.ts`): the registry, the polling loops,
and the steps of a client whose calls, timers and answers interleave. One step is one piece of
code that runs without awaiting.
-/

namespace Axionvera.Client.Tracking

open Axionvera.Errors
open Axionvera.Foundation
open Axionvera.Client.Hydration

/-- `PendingTransaction`. -/
structure PendingTransaction where
  hash : String
  simulationContext : Option SerializableValue
  submittedAt : Instant
  intervalMs : JsNumber
  deadline : JsDate
  label : Option SerializableValue

/-- An entry of `pendingTransactions`. Its promise and its cancel handle belong to the polling
loop of the given number.
-/
structure TrackedTransaction extends PendingTransaction where
  loop : Nat

/-- `TrackTransactionOptions`. -/
structure TrackTransactionOptions where
  hash : String
  simulationContext : Option SerializableValue := none
  intervalMs : Option JsNumber := none
  timeoutMs : Option JsNumber := none
  deadline : Option JsDate := none
  label : Option SerializableValue := none

/-- The statuses that a validated `getTransaction` response can have. -/
inductive TransactionStatus where
  | success
  | failed
  | notFound
  deriving DecidableEq

/-- A validated `getTransaction` response. -/
structure GetTransactionResponse where
  status : TransactionStatus
  latestLedger : Nat
  deriving DecidableEq

/-- A polling loop either waits for `getTransaction` or for its interval timer. -/
inductive LoopPhase where
  | asking
  | sleeping
  deriving DecidableEq

/-- A polling loop that has started and not finished, with what its closure holds and the time
of its last poll.
-/
structure PollingLoop where
  hash : String
  submittedAt : Instant
  deadline : JsDate
  cancelled : Bool
  phase : LoopPhase
  polledAt : Instant

/-- How a polling loop ends. -/
inductive PollOutcome where
  | resolved (response : GetTransactionResponse)
  | failed (error : Thrown)
  | cancelled
  | timedOut (time : Instant)

/-- The error a loop's promise is rejected with, if any. -/
def PollOutcome.error (loop : PollingLoop) : PollOutcome → Option Thrown
  | .resolved _ => none
  | .failed error => some error
  | .cancelled =>
      some
        (.axionvera
          (newError .axionveraError ("Transaction tracking cancelled for " ++ loop.hash)))
  | .timedOut _ =>
      let waited := match loop.deadline with
        | some deadline => toString (deadline.ms - loop.submittedAt.ms)
        | none => "NaN"
      some
        (.axionvera
          (newError .timeoutError
            ("Timed out waiting for transaction " ++ loop.hash ++ " after " ++ waited ++ "ms")))

/-- A `pollTransaction` call: its own deadline, the loop whose promise it returned, and the
number of final answers reported before it.
-/
structure Waiter where
  hash : String
  deadline : JsDate
  loop : Nat
  since : Nat

/-- A final answer that `getTransaction` gave for a hash, to a poll at the given time. -/
structure Report where
  hash : String
  response : GetTransactionResponse
  polledAt : Instant

/-- A client with its registry and its polling loops. Settled promises, calls and reports are
recorded, the latter two newest first.
-/
structure TrackingState where
  now : Instant
  pendingTransactions : InsertionMap String TrackedTransaction
  loops : InsertionMap Nat PollingLoop
  nextLoop : Nat
  settled : InsertionMap Nat PollOutcome
  waiters : List Waiter
  reports : List Report

/-- A client that has just been created. -/
def TrackingState.initial (now : Instant) : TrackingState :=
  ⟨now, .empty, .empty, 0, .empty, [], []⟩

/-- `now < deadline.getTime()`, which is false for an invalid date. -/
def isBefore (now : Instant) (deadline : JsDate) : Bool :=
  match deadline with
  | some deadline => now.ms < deadline.ms
  | none => false

/-- `new Date(submittedAt.getTime() + timeoutMs)`, which drops the fraction of the sum. -/
def timeoutDeadline (submittedAt : Instant) (timeoutMs : JsNumber) : JsDate :=
  match timeoutMs with
  | .finite timeoutMs =>
      newDate ((submittedAt.ms * timeoutMs.den + timeoutMs.num).tdiv timeoutMs.den)
  | _ => none

/-- The end of a polling loop: its promise is settled and the `finally` clause deletes the
entry of its hash.
-/
def TrackingState.endLoop (state : TrackingState) (id : Nat) (hash : String)
    (outcome : PollOutcome)
    : TrackingState :=
  { state with
    pendingTransactions := state.pendingTransactions.delete hash
    loops := state.loops.delete id
    settled := state.settled.set id outcome }

/-- The head of the loop: ask for the transaction, or end. -/
def TrackingState.continueLoop (state : TrackingState) (id : Nat) (loop : PollingLoop)
    : TrackingState :=
  if !loop.cancelled && isBefore state.now loop.deadline then
    { state with
      loops := state.loops.set id { loop with phase := .asking, polledAt := state.now } }
  -- After the loop the cancel flag is checked before the deadline counts.
  else if loop.cancelled then state.endLoop id loop.hash .cancelled
  else state.endLoop id loop.hash (.timedOut state.now)

/-- The entry that `trackTransaction` makes for a new hash. -/
def newTracked (options : TrackTransactionOptions) (submittedAt : Instant) (loop : Nat)
    : TrackedTransaction :=
  {
    hash := options.hash
    simulationContext := options.simulationContext
    submittedAt := submittedAt
    intervalMs := options.intervalMs.getD (.finite 1000)
    deadline :=
      options.deadline.getD
        (timeoutDeadline submittedAt (options.timeoutMs.getD (.finite 30000)))
    label := options.label
    loop := loop
  }

/-- `trackTransaction`. The new loop runs up to its first `await` within the call, so that it
may end there when its deadline has passed.
-/
def trackTransaction (state : TrackingState) (options : TrackTransactionOptions)
    : TrackedTransaction × TrackingState :=
  match state.pendingTransactions.get options.hash with
  | some existing => (existing, state)
  | none =>
      let tracked := newTracked options state.now state.nextLoop
      -- The entry is set before the loop starts, so that a loop that ends at once deletes it.
      let registered :=
        { state with
          pendingTransactions := state.pendingTransactions.set options.hash tracked
          nextLoop := state.nextLoop + 1 }
      let loop :=
        ⟨tracked.hash, tracked.submittedAt, tracked.deadline, false, .asking, state.now⟩
      (tracked, registered.continueLoop state.nextLoop loop)

/-- `pollTransaction`, whose call waits for the promise of the tracked entry. -/
def pollTransaction (state : TrackingState) (hash : String)
    (timeoutMs intervalMs : Option JsNumber)
    : TrackingState :=
  let (tracked, next) :=
    trackTransaction state { hash := hash, intervalMs := intervalMs, timeoutMs := timeoutMs }
  -- A joined loop may have another deadline than the one asked for here.
  let deadline := timeoutDeadline state.now (timeoutMs.getD (.finite 30000))
  { next with waiters := ⟨hash, deadline, tracked.loop, state.reports.length⟩ :: next.waiters }

/-- `waitForTransaction`. -/
def waitForTransaction := pollTransaction

/-- The value counts as true in a condition. -/
def isTruthy : SerializableValue → Bool
  | .null => false
  | .boolean value => value
  | .number (.finite value) => value ≠ 0
  | .number .nan => false
  | .text value => value ≠ ""
  | _ => true

/-- `thawContext`. -/
def thawContext (dates : DateFormat) (context : Option SerializableValue)
    : Option SerializableValue :=
  (context.filter isTruthy).map (thawDates dates)

/-- The interval of an imported entry: a positive number, or one second. -/
def importedInterval (intervalMs : Option SerializableValue) : JsNumber :=
  match intervalMs with
  | some (.number (.finite value)) => if 0 < value then .finite value else .finite 1000
  | some (.number (.infinity false)) => .infinity false
  | _ => .finite 1000

/-- The deadline of an imported entry: a text read as a date, or an invalid date. -/
def importedDeadline (dates : DateFormat) (deadline : Option SerializableValue) : JsDate :=
  match deadline with
  | some (.text deadline) => dates.parse deadline
  | _ => none

/-- What `importState` passes to `trackTransaction` for an entry. -/
def importedOptions (dates : DateFormat) (hash : String)
    (fields : List (String × SerializableValue))
    : TrackTransactionOptions :=
  {
    hash := hash
    simulationContext := thawContext dates (fields.lookup "simulationContext")
    intervalMs := some (importedInterval (fields.lookup "intervalMs"))
    deadline := some (importedDeadline dates (fields.lookup "deadline"))
    label := fields.lookup "label"
  }

/-- One turn of the loop in `importState`, with the entry it restores, if any. -/
def importEntry (dates : DateFormat) (state : TrackingState) (candidate : SerializableValue)
    : Option TrackedTransaction × TrackingState :=
  match candidate with
  | .object fields =>
      match fields.lookup "hash" with
      | some (.text hash) =>
          if hash = "" then (none, state)
          else
            match state.pendingTransactions.get hash with
            -- An entry that is tracked already is returned as it is.
            | some existing => (some existing, state)
            | none =>
                if isBefore state.now (importedDeadline dates (fields.lookup "deadline")) then
                  let (tracked, next) :=
                    trackTransaction state (importedOptions dates hash fields)
                  (some tracked, next)
                else (none, state)
      | _ => (none, state)
  | _ => (none, state)

/-- The loop of `importState`. -/
def importEntries (dates : DateFormat)
    : TrackingState → List SerializableValue → List TrackedTransaction × TrackingState
  | state, [] => ([], state)
  | state, candidate :: rest =>
      let (restored, next) := importEntry dates state candidate
      let (others, final) := importEntries dates next rest
      (restored.toList ++ others, final)

/-- The errors that `importState` throws on a state it cannot read. -/
inductive ImportError where
  | notAnObject
  | unsupportedVersion (version : Option SerializableValue)
  | pendingNotAnArray

/-- What `importState` throws, given the version as `String` prints it. -/
def ImportError.thrown (version : String) : ImportError → Thrown
  | .notAnObject =>
      .axionvera
        (newError .axionveraError "Invalid hydration state: expected object or JSON string")
  | .unsupportedVersion _ =>
      .axionvera
        (newError .axionveraError
          ("Unsupported hydration state version: " ++ version ++ " (expected 1)"))
  | .pendingNotAnArray =>
      .axionvera
        (newError .axionveraError "Invalid hydration state: `pending` must be an array")

/-- `importState`, on a state that has been parsed from its text. -/
def importState (dates : DateFormat) (state : TrackingState) (exported : SerializableValue)
    : Except ImportError (List TrackedTransaction × TrackingState) :=
  let fields := match exported with
    | .object fields => some fields
    | .array _ => some []
    | .date _ => some []
    | _ => none
  match fields with
  | none => .error .notAnObject
  | some fields =>
      match fields.lookup "version" with
      | some (.number (.finite 1)) =>
          match fields.lookup "pending" with
          | some (.array pending) => .ok (importEntries dates state pending)
          | _ => .error .pendingNotAnArray
      | version => .error (.unsupportedVersion version)

/-- Everything that can happen next. -/
inductive TrackingAction where
  | elapse (later : Instant)
  | trackTransaction (options : TrackTransactionOptions)
  | pollTransaction (hash : String) (timeoutMs intervalMs : Option JsNumber)
  | importState (exported : SerializableValue)
  | cancel (loop : Nat)
  | answer (loop : Nat) (answer : Except Thrown GetTransactionResponse)
  | timer (loop : Nat)

/-- The continuation of a loop that was answered. -/
def TrackingState.answered (state : TrackingState) (id : Nat) (loop : PollingLoop)
    (answer : Except Thrown GetTransactionResponse)
    : TrackingState :=
  match answer with
  | .error error => state.endLoop id loop.hash (.failed error)
  | .ok response =>
      -- Neither the cancel flag nor the deadline is checked before a final answer is returned.
      if response.status = .notFound then
        { state with loops := state.loops.set id { loop with phase := .sleeping } }
      else
        let ended := state.endLoop id loop.hash (.resolved response)
        { ended with reports := ⟨loop.hash, response, loop.polledAt⟩ :: state.reports }

/-- One step. A loop is answered only while it asks, and woken only while it sleeps; a cancel
handle outlives its loop, but then does nothing.
-/
def trackingStep (dates : DateFormat) (state : TrackingState)
    : TrackingAction → Option TrackingState
  | .elapse later => if state.now.ms ≤ later.ms then some { state with now := later } else none
  | .trackTransaction options => some (trackTransaction state options).2
  | .pollTransaction hash timeoutMs intervalMs =>
      some (pollTransaction state hash timeoutMs intervalMs)
  | .importState exported =>
      match importState dates state exported with
      | .ok (_, next) => some next
      -- The version and the array are checked before the first entry is restored.
      | .error _ => some state
  | .cancel id =>
      match state.loops.get id with
      | some loop =>
          some { state with loops := state.loops.set id { loop with cancelled := true } }
      | none => some state
  | .answer id answer =>
      match state.loops.get id with
      | some loop =>
          if loop.phase = .asking then some (state.answered id loop answer) else none
      | none => none
  | .timer id =>
      match state.loops.get id with
      | some loop => if loop.phase = .sleeping then some (state.continueLoop id loop) else none
      | none => none

end Axionvera.Client.Tracking
