import Axionvera.Errors
import Axionvera.Foundation.InsertionMap
import Axionvera.Foundation.JsNumber

/-! `ConcurrencyQueue` (`utils/concurrencyQueue.ts`) as a machine of small steps. Code that runs
within one call keeps its place on a stack, since a request function may use the queue again
before it returns.
-/

namespace Axionvera.Queue

open Axionvera.Errors
open Axionvera.Foundation

/-- `ConcurrencyConfig`. A number that is undefined counts as NaN, as it does wherever one is
used.
-/
structure ConcurrencyConfig where
  maxConcurrentRequests : JsNumber
  queueTimeout : JsNumber := .finite 30000
  enableThrottling : Bool := false
  throttleRate : JsNumber := .finite 10
  throttleInterval : JsNumber := .finite 1000

/-- `QueuedRequest`. The number tells requests apart, in the order of their submission; it stands
for the request function, the promise of the caller, and the timer of the request.
-/
structure QueuedRequest where
  number : Nat
  id : String
  timestamp : Int
  hasTimeout : Bool
  deriving DecidableEq

/-- How the promise of a caller is settled. -/
inductive Settlement (τ : Type) where
  | own (outcome : Except Thrown τ)
  | timedOut (queueTimeout : JsNumber)
  | cancelled

/-- The error that a promise is rejected with, if any, given how numbers are printed. -/
def Settlement.error {τ : Type} (printed : JsNumber → String) : Settlement τ → Option Thrown
  | .own (.ok _) => none
  | .own (.error error) => some error
  | .timedOut queueTimeout =>
      some
        (.value
          {
            message := some
              ("Request timed out in queue after " ++ printed queueTimeout ++ "ms")
          })
  | .cancelled => some (.value { message := some "Request cancelled due to queue clearance" })

/-- What is left to do of the running call: the loop of `processQueue`, or a request function. -/
inductive Frame where
  | drain
  | request (number : Nat)
  deriving DecidableEq

/-- The request function a frame runs, if any. -/
def Frame.call : Frame → Option Nat
  | .drain => none
  | .request number => some number

/-- A queue, with its live timers and the running call. Recorded are the calls of request
functions, the latest first, their outcomes, and the settled promises.
-/
structure QueueState (τ : Type) where
  config : ConcurrencyConfig
  now : Int
  activeRequests : Int
  queue : List QueuedRequest
  throttleTimer : Bool
  requestsInCurrentInterval : Int
  lastThrottleReset : Int
  nextNumber : Nat
  timeouts : InsertionMap Nat String
  stack : List Frame
  awaiting : List Nat
  calls : List Nat
  outcomes : InsertionMap Nat (Except Thrown τ)
  settled : InsertionMap Nat (Settlement τ)

variable {τ : Type}

/-- A queue that has just been created. -/
def QueueState.initial (config : ConcurrencyConfig) (now : Int) : QueueState τ :=
  {
    config := config
    now := now
    activeRequests := 0
    queue := []
    throttleTimer := false
    requestsInCurrentInterval := 0
    lastThrottleReset := now
    nextNumber := 0
    timeouts := .empty
    stack := []
    awaiting := []
    calls := []
    outcomes := .empty
    settled := .empty
  }

/-- Settle a promise, unless it has been settled before. -/
def QueueState.settle (state : QueueState τ) (number : Nat) (settlement : Settlement τ)
    : QueueState τ :=
  match state.settled.get number with
  | none => { state with settled := state.settled.set number settlement }
  | some _ => state

/-- Clear the timer of a request, if it has one. -/
def QueueState.clearTimeout (state : QueueState τ) (request : QueuedRequest) : QueueState τ :=
  if request.hasTimeout then { state with timeouts := state.timeouts.delete request.number }
  else state

/-- `isThrottled`, which starts a new interval when one has passed. -/
def isThrottled (state : QueueState τ) : Bool × QueueState τ :=
  if state.config.throttleInterval.isAtMost (state.now - state.lastThrottleReset) then
    (false, { state with requestsInCurrentInterval := 0, lastThrottleReset := state.now })
  else (state.config.throttleRate.isAtMost state.requestsInCurrentInterval, state)

/-- `scheduleNextProcess`, which replaces a throttle timer that is set. -/
def scheduleNextProcess (state : QueueState τ) : QueueState τ :=
  { state with throttleTimer := true }

/-- `processQueue` up to its loop. -/
def processQueue (state : QueueState τ) : QueueState τ :=
  if state.config.enableThrottling then
    let (throttled, checked) := isThrottled state
    -- Requests that are queued now wait for the throttle timer.
    if throttled then scheduleNextProcess checked
    else { checked with stack := .drain :: checked.stack }
  else { state with stack := .drain :: state.stack }

/-- `execute`, with the id that is generated for the request. -/
def execute (state : QueueState τ) (id : String) : QueueState τ :=
  let request := ⟨state.nextNumber, id, state.now, state.config.queueTimeout.isTruthy⟩
  processQueue
    { state with
      nextNumber := state.nextNumber + 1
      timeouts :=
        if request.hasTimeout then state.timeouts.set request.number id else state.timeouts
      queue := state.queue ++ [request] }

/-- The loop of `processQueue` starts a request: its function is called. -/
def startRequest (state : QueueState τ) (request : QueuedRequest) (others : List QueuedRequest)
    : QueueState τ :=
  -- A request that has left the queue cannot time out any more.
  let started := { state with queue := others }.clearTimeout request
  { started with
    activeRequests := state.activeRequests + 1
    requestsInCurrentInterval := state.requestsInCurrentInterval + 1
    stack := .request request.number :: state.stack
    calls := request.number :: state.calls }

/-- The end of `executeRequest`: the outcome of the request function settles the promise, and the
queue is processed again.
-/
def finishRequest (state : QueueState τ) (number : Nat) (outcome : Except Thrown τ)
    : QueueState τ :=
  let finished := { state with outcomes := state.outcomes.set number outcome }
  let settled := finished.settle number (.own outcome)
  processQueue { settled with activeRequests := settled.activeRequests - 1 }

/-- `removeFromQueue`, which removes the first request with the id. -/
def removeFromQueue (state : QueueState τ) (id : String) : QueueState τ :=
  match state.queue.find? (fun request => request.id = id) with
  | some removed =>
      { state with
        queue := state.queue.eraseP (fun request => request.id = id) }.clearTimeout removed
  | none => state

/-- Cancel a request of the queue. -/
def cancelRequest (state : QueueState τ) (request : QueuedRequest) : QueueState τ :=
  (state.clearTimeout request).settle request.number .cancelled

/-- `clearQueue`. -/
def clearQueue (state : QueueState τ) : QueueState τ :=
  { state.queue.foldl cancelRequest { state with throttleTimer := false } with queue := [] }

/-- `destroy`. -/
def destroy (state : QueueState τ) : QueueState τ :=
  { clearQueue state with throttleTimer := false }

/-- `getQueueStatus`, as far as it changes the queue. -/
def getQueueStatus (state : QueueState τ) : QueueState τ :=
  if state.config.enableThrottling then (isThrottled state).2 else state

/-- Everything that can happen next. -/
inductive QueueAction (τ : Type) where
  | clock (now : Int)
  | execute (id : String)
  | clearQueue
  | destroy
  | getQueueStatus
  | updateConfig (config : ConcurrencyConfig)
  | advance
  | returns
  | throws (error : Thrown)
  | completes (number : Nat) (outcome : Except Thrown τ)
  | queueTimeout (number : Nat)
  | throttleTimer

/-- Code outside the queue may run: no call is running, or a request function is. -/
def QueueState.yields (state : QueueState τ) : Bool :=
  match state.stack with
  | .drain :: _ => false
  | _ => true

/-- One step. The loop of `processQueue` advances, and a request function returns or throws, when
it is on top of the stack; outcomes and timers wait until no call is running.
-/
def queueStep (state : QueueState τ) : QueueAction τ → Option (QueueState τ)
  | .clock now => some { state with now := now }
  | .execute id => if state.yields then some (execute state id) else none
  | .clearQueue => if state.yields then some (clearQueue state) else none
  | .destroy => if state.yields then some (destroy state) else none
  | .getQueueStatus => if state.yields then some (getQueueStatus state) else none
  | .updateConfig config => if state.yields then some { state with config := config } else none
  | .advance =>
      match state.stack, state.queue with
      | .drain :: callers, request :: others =>
          if state.config.maxConcurrentRequests.isAbove state.activeRequests then
            some (startRequest state request others)
          else some { state with stack := callers }
      | .drain :: callers, [] => some { state with stack := callers }
      | _, _ => none
  | .returns =>
      match state.stack with
      | .request number :: callers =>
          some { state with stack := callers, awaiting := number :: state.awaiting }
      | _ => none
  | .throws error =>
      match state.stack with
      | .request number :: callers =>
          -- The error is caught within the same call: the caller's loop goes on afterwards.
          some (finishRequest { state with stack := callers } number (.error error))
      | _ => none
  | .completes number outcome =>
      if state.stack = [] ∧ number ∈ state.awaiting then
        some
          (finishRequest { state with awaiting := state.awaiting.erase number } number outcome)
      else none
  | .queueTimeout number =>
      match state.stack, state.timeouts.get number with
      | [], some id =>
          -- The id is looked up in the queue, where an earlier request may have the same one.
          let removed :=
            removeFromQueue { state with timeouts := state.timeouts.delete number } id
          some (removed.settle number (.timedOut state.config.queueTimeout))
      | _, _ => none
  | .throttleTimer =>
      if state.stack = [] ∧ state.throttleTimer = true then
        some (processQueue { state with throttleTimer := false })
      else none

end Axionvera.Queue
