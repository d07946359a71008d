import Axionvera.Events.EventDispatching
import Axionvera.Foundation.InsertionMap
import Axionvera.WebSocket.ParsedEvents
import Axionvera.WebSocket.WebSocketManager

/-! `SubscriptionService` (`subscriptions/subscriptionService.ts`): the machines of its dispatcher
and of its connection, joined by the messages that come in, and the timers of its subscriptions. The
reconnection manager does nothing here but call `connect`; when it does is left open.
-/

namespace Axionvera.Subscriptions

open Axionvera.Foundation
open Axionvera.Events (DispatcherState EventDispatcher EventFilter EventSubscription dispatcherStep)
open Axionvera.WebSocket (ConnectionAction RawEvent ScVal WebSocketManager connectionStep
  parseSorobanEvent)

/-- `SubscriptionOptions`. -/
structure SubscriptionOptions where
  maxEvents : Option JsNumber := none
  timeout : Option JsNumber := none
  once : Bool := false

/-- A subscription that was made through the service, with its number in the dispatcher. If it comes
from `subscribeOnce`, its callback is wrapped, and `fired` belongs to the wrapper. Recorded are how
often the callback was called, whether the timeout or the handle has ended the subscription, and
how many calls came after that or after `stop`.
-/
structure SubscriptionHandle where
  number : Nat
  id : String
  options : SubscriptionOptions
  wrapped : Bool
  fired : Bool := false
  ended : Bool := false
  calls : Nat := 0
  late : Nat := 0

/-- The callback is called. -/
def SubscriptionHandle.called (handle : SubscriptionHandle) (stopped : Bool) : SubscriptionHandle :=
  { handle with
    calls := handle.calls + 1
    late := if handle.ended || stopped then handle.late + 1 else handle.late }

/-- A timer that is set, and the subscription whose id it will unsubscribe. -/
structure CleanupTimer where
  timer : Nat
  number : Nat
  id : String

/-- A service with its handles and the timers that are set. Calls of `stop` that have yet to clear
the timers are counted.
-/
structure SubscriptionService where
  dispatcher : DispatcherState
  wsManager : WebSocketManager
  cleanupTimers : InsertionMap String Nat
  timers : List CleanupTimer
  nextTimer : Nat
  handles : List SubscriptionHandle
  stopping : Nat
  stopped : Bool

namespace SubscriptionService

/-- A service that has just been created. -/
def initial (sub__ : Option String) : SubscriptionService :=
  {
    dispatcher := .initial sub__
    wsManager := .initial {}
    cleanupTimers := .empty
    timers := []
    nextTimer := 0
    handles := []
    stopping := 0
    stopped := false
  }

/-- Change what belongs to one subscription. -/
def modifyHandle (service : SubscriptionService) (number : Nat)
    (change : SubscriptionHandle → SubscriptionHandle) : SubscriptionService :=
  { service with
    handles :=
      service.handles.map fun handle => if handle.number = number then change handle else handle }

/-- `dispatcher.unsubscribe`. -/
def unsubscribe (service : SubscriptionService) (id : String) : SubscriptionService :=
  { service with
    dispatcher :=
      { service.dispatcher with dispatcher := service.dispatcher.dispatcher.unsubscribe id } }

/-- `scheduleCleanup`, which looks at the timeout only. -/
def scheduleCleanup (service : SubscriptionService) (number : Nat) (id : String)
    (options : SubscriptionOptions) : SubscriptionService :=
  if options.timeout.any JsNumber.isTruthy then
    { service with
      cleanupTimers := service.cleanupTimers.set id service.nextTimer
      timers := service.timers ++ [⟨service.nextTimer, number, id⟩]
      nextTimer := service.nextTimer + 1 }
  else service

/-- `subscribe`, and with a wrapped callback `subscribeOnce`. If no id can be generated, it throws.
-/
def subscribe (service : SubscriptionService) (filter : EventFilter) (callback : Nat)
    (options : SubscriptionOptions) (wrapped : Bool) : SubscriptionService :=
  let number := service.dispatcher.dispatcher.nextNumber
  let subscribed :=
    { service with dispatcher := service.dispatcher.subscribe none filter callback }
  match EventDispatcher.generateId service.dispatcher.sub__ with
  | .error _ => subscribed
  | .ok id =>
      let handle : SubscriptionHandle :=
        { number := number, id := id, options := options, wrapped := wrapped }
      let handled := { subscribed with handles := service.handles ++ [handle] }
      if options.maxEvents.any JsNumber.isTruthy || options.timeout.any JsNumber.isTruthy then
        handled.scheduleCleanup number id options
      else handled

/-- `stop`, up to the call of `reconnection.reset`, which tells its listeners. -/
def stop (service : SubscriptionService) : SubscriptionService :=
  { service with
    wsManager := service.wsManager.disconnect
    stopping := service.stopping + 1
    stopped := true }

/-- The end of `stop`, which clears the timers. -/
def clearTimers (service : SubscriptionService) : SubscriptionService :=
  { service with
    timers := service.timers.filter fun timer => timer.timer ∉ service.cleanupTimers.values
    cleanupTimers := .empty
    stopping := service.stopping - 1 }

/-- The callback of a subscription is called: the one that was passed, or its wrapper, which
unsubscribes before it calls the one that was passed.
-/
def call (service : SubscriptionService) (handle : SubscriptionHandle) : SubscriptionService :=
  if handle.wrapped then
    (service.unsubscribe handle.id).modifyHandle handle.number fun handle =>
      { handle with fired := true }.called service.stopped
  else service.modifyHandle handle.number fun handle => handle.called service.stopped

/-- The subscription whose callback is called in the next turn of the running loop. -/
def nextCall (service : SubscriptionService) : Option EventSubscription :=
  match service.dispatcher.stack with
  | [] => none
  | frame :: _ =>
      ((service.dispatcher.dispatcher.subscriptions.next frame.cursor).map LiveEntry.value).filter
        fun subscription => frame.calling.isNone && subscription.wants frame.event

/-- The handle of a subscription. -/
def handle? (service : SubscriptionService) (number : Nat) : Option SubscriptionHandle :=
  service.handles.find? fun handle => handle.number = number

/-- The running loop has taken a turn and called a callback, if any. A wrapper that has fired
returns at once.
-/
def turned (service : SubscriptionService) (called : Option EventSubscription)
    : Option SubscriptionService :=
  match called with
  | none => some service
  | some subscription =>
      match service.handle? subscription.number with
      | none => some service
      | some handle =>
          if handle.wrapped && handle.fired then
            (dispatcherStep service.dispatcher .returns).map fun dispatcher =>
              { service with dispatcher := dispatcher }
          else some (service.call handle)

/-- No `dispatch` and no `stop` is under way. -/
def quiet (service : SubscriptionService) : Bool :=
  service.dispatcher.stack.isEmpty && service.stopping = 0

end SubscriptionService

/-- Everything that can happen next. `connect` comes from `start` or from the reconnection manager.
-/
inductive ServiceAction where
  | connect (succeeds : Bool)
  | subscribe (filter : EventFilter) (callback : Nat) (options : SubscriptionOptions)
  | subscribeOnce (filter : EventFilter) (callback : Nat)
  | unsubscribe (number : Nat)
  | stop
  | clearTimers
  | connection (action : ConnectionAction)
  | message (socket : Nat) (rawEvent : RawEvent) (generatedId : String) (now : Int)
  | advance
  | returns
  | throws
  | timer (id : Nat)

/-- One step of the machine. Handles are known by the numbers of their subscriptions. Only an open
socket delivers messages, and sockets and timers wait until the running code has come to its end.
-/
def serviceStep (fromXDR : String → Option ScVal) (service : SubscriptionService)
    : ServiceAction → Option SubscriptionService
  | .connect succeeds => some { service with wsManager := service.wsManager.connect succeeds }
  | .subscribe filter callback options =>
      if service.dispatcher.hostRuns then some (service.subscribe filter callback options false)
      else none
  | .subscribeOnce filter callback =>
      if service.dispatcher.hostRuns then some (service.subscribe filter callback {} true)
      else none
  | .unsubscribe number =>
      match service.handle? number with
      | none => none
      | some handle =>
          if service.dispatcher.hostRuns then
            some
              ((service.unsubscribe handle.id).modifyHandle number fun handle =>
                { handle with ended := true })
          else none
  | .stop => if service.dispatcher.hostRuns then some service.stop else none
  | .clearTimers => if service.stopping = 0 then none else some service.clearTimers
  | .connection action =>
      match action with
      | .connect _ | .disconnect => none
      | .opens _ | .closes _ | .fails _ | .returns | .throws | .timer _ _ =>
          if service.quiet then
            (connectionStep service.wsManager action).map fun wsManager =>
              { service with wsManager := wsManager }
          else none
  | .message socket rawEvent generatedId now =>
      if service.quiet && service.wsManager.notifying.isNone
          && service.wsManager.sockets[socket]? = some .opened then
        match parseSorobanEvent fromXDR rawEvent generatedId now with
        | none => some service
        | some event =>
            (dispatcherStep service.dispatcher (.dispatch event)).map fun dispatcher =>
              { service with dispatcher := dispatcher }
      else none
  | .advance =>
      if service.stopping = 0 then
        (dispatcherStep service.dispatcher .advance).bind fun dispatcher =>
          { service with dispatcher := dispatcher }.turned service.nextCall
      else none
  | .returns =>
      if service.stopping = 0 then
        (dispatcherStep service.dispatcher .returns).map fun dispatcher =>
          { service with dispatcher := dispatcher }
      else none
  | .throws =>
      if service.stopping = 0 then
        (dispatcherStep service.dispatcher .throws).map fun dispatcher =>
          { service with dispatcher := dispatcher }
      else none
  | .timer id =>
      match service.timers.find? fun timer => timer.timer = id with
      | none => none
      | some timer =>
          if service.quiet && service.wsManager.notifying.isNone then
            some
              ({ service.unsubscribe timer.id with
                  timers := service.timers.filter fun other => other.timer ≠ id
                  cleanupTimers := service.cleanupTimers.delete timer.id
                  }.modifyHandle timer.number fun handle => { handle with ended := true })
          else none

end Axionvera.Subscriptions
