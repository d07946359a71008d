import Axionvera.Subscriptions.SubscriptionService
import Axionvera.WebSocket.SingleConnection

/-! The options of subscriptions. Timeouts, handles and `subscribeOnce` do what they say; that the
other options are honoured depends on what comes in, since nothing counts the calls of a callback,
and `stop` neither ends a running dispatch nor closes superseded sockets.
-/

namespace Axionvera.Subscriptions

open Axionvera.Foundation
open Axionvera.Events (DispatcherState DispatcherAction EventDispatcher EventFilter
  EventSubscription DispatcherEffect dispatcherStep dispatcherStep_effect)
open Axionvera.WebSocket (ScVal ShutDown WebSocketManager ReadyState connectionStep)

/-- The callback was called no more often than the options allow, and never after the end of its
subscription or after `stop`.
-/
structure HonoursOptions (handle : SubscriptionHandle) : Prop where
  limited
    : ∀ maxEvents,
        handle.options.maxEvents = some maxEvents
        → handle.calls = 0 ∨ maxEvents.isAtLeast handle.calls = true
  once : handle.options.once = true ∨ handle.wrapped = true → handle.calls ≤ 1
  timely : handle.late = 0

/-- All sockets that are connecting or open are the one that the manager knows. -/
def knowsLiveSockets (manager : WebSocketManager) : Prop :=
  ∀ socket < manager.sockets.length,
    manager.sockets[socket]?.any ReadyState.isLive = true → manager.ws = some socket

/-- A loop comes to a matching subscription only as long as its options let it be called again, and
`stop` is called while no dispatch is running and no superseded socket is connecting or open.
-/
def staysWithinOptions (service : SubscriptionService) : ServiceAction → Prop
  | .advance =>
      ∀ subscription ∈ service.nextCall,
        ∀ handle ∈ service.handles,
          handle.number = subscription.number
          → handle.options.maxEvents.all (fun maxEvents => maxEvents.isAtLeast (handle.calls + 1))
              = true
            ∧ (handle.options.once = true → handle.calls = 0)
  | .stop => service.dispatcher.stack = [] ∧ knowsLiveSockets service.wsManager
  | _ => True

instance (service : SubscriptionService) : DecidablePred (staysWithinOptions service)
  | .advance => inferInstanceAs (Decidable (∀ _ ∈ service.nextCall, _))
  | .stop =>
      inferInstanceAs
        (Decidable
          (_ = [] ∧ ∀ socket < service.wsManager.sockets.length, _ = true → _ = some socket))
  | .connect _ | .subscribe .. | .subscribeOnce .. | .unsubscribe _ | .clearTimers
  | .connection _ | .message .. | .returns | .throws | .timer _ =>
      .isTrue trivial

-----------------------------------------------------------------------------------------
-- Handles and the subscriptions of the dispatcher
-----------------------------------------------------------------------------------------

/-- The handles follow the subscriptions of the dispatcher: their numbers are distinct and were
given by it, a registered subscription has the id of its handle, and one that has ended or whose
wrapper has fired is not registered.
-/
structure HandlesFollow (handles : List SubscriptionHandle)
    (entries : List (LiveEntry String EventSubscription)) (nextNumber : Nat) : Prop where
  distinct : (handles.map SubscriptionHandle.number).Nodup
  below : ∀ handle ∈ handles, handle.number < nextNumber
  named
    : ∀ handle ∈ handles,
        ∀ entry ∈ entries, entry.value.number = handle.number → entry.key = handle.id
  gone
    : ∀ handle ∈ handles,
        handle.ended = true ∨ handle.fired = true
        → ∀ entry ∈ entries, entry.value.number ≠ handle.number

variable {handles : List SubscriptionHandle} {entries : List (LiveEntry String EventSubscription)}
  {nextNumber : Nat}

/-- Handles are the same if their numbers are. -/
theorem HandlesFollow.eq_of_number (follow : HandlesFollow handles entries nextNumber)
    {first second : SubscriptionHandle} (isFirst : first ∈ handles) (isSecond : second ∈ handles)
    (same : first.number = second.number)
    : first = second :=
  List.inj_on_of_nodup_map follow.distinct isFirst isSecond same

/-- A change that keeps numbers and ids keeps the list of numbers. -/
theorem map_number_changed (handles : List SubscriptionHandle) (number : Nat)
    {change : SubscriptionHandle → SubscriptionHandle}
    (sameNumber : ∀ handle, (change handle).number = handle.number)
    : (handles.map fun handle =>
        if handle.number = number then change handle else handle).map SubscriptionHandle.number
      = handles.map SubscriptionHandle.number := by
  rw [List.map_map]
  refine List.map_congr_left fun handle _ => ?_
  by_cases isNumber : handle.number = number
  · simp [isNumber, sameNumber]
  · simp [isNumber]

/-- A handle that is left after a change was there before, changed or not. -/
theorem mem_changed {number : Nat} {change : SubscriptionHandle → SubscriptionHandle}
    {handle : SubscriptionHandle}
    (member : handle ∈ handles.map fun handle =>
      if handle.number = number then change handle else handle)
    : ∃ old ∈ handles,
        old.number = number ∧ handle = change old ∨ old.number ≠ number ∧ handle = old := by
  obtain ⟨old, isOld, rfl⟩ := List.mem_map.mp member
  refine ⟨old, isOld, ?_⟩
  by_cases isNumber : old.number = number
  · exact .inl ⟨isNumber, if_pos isNumber⟩
  · exact .inr ⟨isNumber, if_neg isNumber⟩

/-- A change of one handle that keeps its number and id keeps the handles in line if it keeps
whether the subscription is over, or the subscription is not registered any more.
-/
theorem HandlesFollow.change (follow : HandlesFollow handles entries nextNumber) (number : Nat)
    {change : SubscriptionHandle → SubscriptionHandle}
    (sameNumber : ∀ handle, (change handle).number = handle.number)
    (sameId : ∀ handle, (change handle).id = handle.id)
    (isOver
      : (∀ handle, (change handle).ended = handle.ended ∧ (change handle).fired = handle.fired)
        ∨ ∀ entry ∈ entries, entry.value.number ≠ number)
    : HandlesFollow
        (handles.map fun handle => if handle.number = number then change handle else handle) entries
        nextNumber := by
  refine ⟨?_, ?_, ?_, ?_⟩
  · rw [map_number_changed handles number sameNumber]
    exact follow.distinct
  · intro handle member
    obtain ⟨old, isOld, ⟨-, rfl⟩ | ⟨-, rfl⟩⟩ := mem_changed member
    · rw [sameNumber]
      exact follow.below old isOld
    · exact follow.below handle isOld
  · intro handle member
    obtain ⟨old, isOld, ⟨-, rfl⟩ | ⟨-, rfl⟩⟩ := mem_changed member
    · rw [sameNumber, sameId]
      exact follow.named old isOld
    · exact follow.named handle isOld
  · intro handle member
    obtain ⟨old, isOld, ⟨isNumber, rfl⟩ | ⟨-, rfl⟩⟩ := mem_changed member
    · rw [sameNumber]
      rcases isOver with same | removed
      · rw [(same old).1, (same old).2]
        exact follow.gone old isOld
      · exact fun _ => isNumber ▸ removed
    · exact follow.gone handle isOld

/-- Fewer registered subscriptions keep the handles in line. -/
theorem HandlesFollow.fewer (follow : HandlesFollow handles entries nextNumber)
    {left : List (LiveEntry String EventSubscription)} (subset : left ⊆ entries)
    : HandlesFollow handles left nextNumber :=
  ⟨follow.distinct, follow.below,
    fun handle member entry isLeft => follow.named handle member entry (subset isLeft),
    fun handle member isOver entry isLeft => follow.gone handle member isOver entry (subset isLeft)⟩

/-- Unsubscribing the id of a handle removes its subscription, which may then be over. -/
theorem HandlesFollow.unsubscribe {dispatcher : EventDispatcher}
    (follow : HandlesFollow handles dispatcher.subscriptions.entries nextNumber)
    {handle : SubscriptionHandle} (member : handle ∈ handles)
    {change : SubscriptionHandle → SubscriptionHandle}
    (sameNumber : ∀ handle, (change handle).number = handle.number)
    (sameId : ∀ handle, (change handle).id = handle.id)
    : HandlesFollow
        (handles.map fun other => if other.number = handle.number then change other else other)
        (dispatcher.unsubscribe handle.id).subscriptions.entries nextNumber := by
  have fewer : HandlesFollow handles (dispatcher.unsubscribe handle.id).subscriptions.entries
      nextNumber :=
    follow.fewer fun entry left => (LiveMap.mem_delete.mp left).1
  refine fewer.change handle.number sameNumber sameId (.inr fun entry left isNumber => ?_)
  obtain ⟨registered, otherId⟩ := LiveMap.mem_delete.mp left
  exact otherId (follow.named handle member entry registered isNumber)

/-- A new subscription is in line with its new handle. -/
theorem HandlesFollow.subscribe {dispatcher : EventDispatcher}
    (follow : HandlesFollow handles dispatcher.subscriptions.entries dispatcher.nextNumber)
    (filter : EventFilter) (callback : Nat) {handle : SubscriptionHandle}
    (isNew : handle.number = dispatcher.nextNumber) (running : handle.ended = false)
    (unfired : handle.fired = false)
    : HandlesFollow (handles ++ [handle])
        (dispatcher.subscribe handle.id filter callback).subscriptions.entries
        (dispatcher.subscribe handle.id filter callback).nextNumber := by
  have split {entry : LiveEntry String EventSubscription}
      (member
        : entry ∈ (dispatcher.subscribe handle.id filter callback).subscriptions.entries)
      : entry ∈ dispatcher.subscriptions.entries ∧ entry.value.number < dispatcher.nextNumber
        ∨ entry.key = handle.id ∧ entry.value.number = dispatcher.nextNumber := by
    rcases EventDispatcher.mem_set_subscription member with ⟨old, -⟩ | ⟨isKey, isValue⟩
    · exact .inl ⟨old, dispatcher.numbered entry old⟩
    · exact .inr ⟨isKey, by rw [isValue]⟩
  refine ⟨?_, ?_, ?_, ?_⟩
  · rw [List.map_append, List.map_singleton, ← List.concat_eq_append]
    refine follow.distinct.concat fun present => ?_
    obtain ⟨old, isOld, same⟩ := List.mem_map.mp present
    have below := follow.below old isOld
    omega
  · intro other member
    have bound : (dispatcher.subscribe handle.id filter callback).nextNumber
        = dispatcher.nextNumber + 1 :=
      rfl
    rcases List.mem_append.mp member with old | isLast
    · have below := follow.below other old
      omega
    · obtain rfl := List.mem_singleton.mp isLast
      omega
  · intro other member entry isEntry isNumber
    rcases List.mem_append.mp member with old | isLast
    · rcases split isEntry with ⟨registered, -⟩ | ⟨-, newest⟩
      · exact follow.named other old entry registered isNumber
      · have below := follow.below other old
        omega
    · obtain rfl := List.mem_singleton.mp isLast
      rcases split isEntry with ⟨-, older⟩ | ⟨isKey, -⟩
      · omega
      · exact isKey
  · intro other member isOver entry isEntry isNumber
    rcases List.mem_append.mp member with old | isLast
    · rcases split isEntry with ⟨registered, -⟩ | ⟨-, newest⟩
      · exact follow.gone other old isOver entry registered isNumber
      · have below := follow.below other old
        omega
    · obtain rfl := List.mem_singleton.mp isLast
      rw [running, unfired] at isOver
      simp at isOver

-----------------------------------------------------------------------------------------
-- The steps of the service
-----------------------------------------------------------------------------------------

/-- What holds while calls stay within the options: the options are honoured so far, and once `stop`
has been called the connection is shut down and no dispatch is running.
-/
structure KeepsOptions (service : SubscriptionService) : Prop where
  follow
    : HandlesFollow service.handles service.dispatcher.dispatcher.subscriptions.entries
        service.dispatcher.dispatcher.nextNumber
  timed
    : ∀ timer ∈ service.timers,
        ∃ handle ∈ service.handles, handle.number = timer.number ∧ handle.id = timer.id
  unfired
    : ∀ handle ∈ service.handles,
        handle.wrapped = true → handle.fired = false → handle.calls = 0
  honoured : ∀ handle ∈ service.handles, HonoursOptions handle
  stopped
    : service.stopped = true → ShutDown service.wsManager ∧ service.dispatcher.stack = []

variable {fromXDR : String → Option ScVal} {service next : SubscriptionService}

/-- The connection does not matter, as long as it stays shut down. -/
theorem KeepsOptions.connection (keeps : KeepsOptions service) {wsManager : WebSocketManager}
    (shutDown : ShutDown service.wsManager → ShutDown wsManager)
    : KeepsOptions { service with wsManager := wsManager } :=
  ⟨keeps.follow, keeps.timed, keeps.unfired, keeps.honoured,
    fun stopped => (keeps.stopped stopped).imp_left shutDown⟩

/-- The loops of the dispatcher do not matter, as long as none runs after `stop`. -/
theorem KeepsOptions.loops (keeps : KeepsOptions service) {dispatcher : DispatcherState}
    (subscriptions
      : dispatcher.dispatcher.subscriptions = service.dispatcher.dispatcher.subscriptions)
    (nextNumber : dispatcher.dispatcher.nextNumber = service.dispatcher.dispatcher.nextNumber)
    (stopped : service.stopped = true → dispatcher.stack = [])
    : KeepsOptions { service with dispatcher := dispatcher } := by
  refine ⟨?_, keeps.timed, keeps.unfired, keeps.honoured,
    fun isStopped => ⟨(keeps.stopped isStopped).1, stopped isStopped⟩⟩
  dsimp only
  rw [subscriptions, nextNumber]
  exact keeps.follow

/-- A loop that runs can go on, since none does after `stop`. -/
theorem KeepsOptions.loopGoesOn (keeps : KeepsOptions service) {dispatcher : DispatcherState}
    (subscriptions
      : dispatcher.dispatcher.subscriptions = service.dispatcher.dispatcher.subscriptions)
    (nextNumber : dispatcher.dispatcher.nextNumber = service.dispatcher.dispatcher.nextNumber)
    (running : service.dispatcher.stack ≠ [])
    : KeepsOptions { service with dispatcher := dispatcher } :=
  keeps.loops subscriptions nextNumber fun stopped => absurd (keeps.stopped stopped).2 running

/-- `stop` shuts the connection down if the manager knows all live sockets. -/
theorem KeepsOptions.stop (keeps : KeepsOptions service) (noLoop : service.dispatcher.stack = [])
    (known : knowsLiveSockets service.wsManager)
    : KeepsOptions service.stop := by
  have shutDown : ShutDown service.wsManager.disconnect := by
    refine WebSocket.shutDown_disconnect fun socket state found live => ?_
    obtain ⟨inside, -⟩ := List.getElem?_eq_some_iff.mp found
    exact known socket inside (by rw [found]; exact live)
  exact ⟨keeps.follow, keeps.timed, keeps.unfired, keeps.honoured, fun _ => ⟨shutDown, noLoop⟩⟩

/-- Fewer timers do no harm. -/
theorem KeepsOptions.fewerTimers (keeps : KeepsOptions service) {timers : List CleanupTimer}
    (fewer : timers ⊆ service.timers) (cleanupTimers : InsertionMap String Nat) (stopping : Nat)
    : KeepsOptions
        { service with timers := timers, cleanupTimers := cleanupTimers, stopping := stopping } :=
  ⟨keeps.follow, fun timer isSet => keeps.timed timer (fewer isSet), keeps.unfired,
    keeps.honoured, keeps.stopped⟩

/-- Timers keep the handles that they belong to when a handle changes. -/
theorem KeepsOptions.timed_changed (keeps : KeepsOptions service) (number : Nat)
    {change : SubscriptionHandle → SubscriptionHandle}
    (sameNumber : ∀ handle, (change handle).number = handle.number)
    (sameId : ∀ handle, (change handle).id = handle.id)
    : ∀ timer ∈ service.timers,
        ∃ handle
          ∈ service.handles.map (fun handle =>
              if handle.number = number then change handle else handle),
          handle.number = timer.number ∧ handle.id = timer.id := by
  intro timer isSet
  obtain ⟨handle, member, isNumber, isId⟩ := keeps.timed timer isSet
  refine ⟨_, List.mem_map_of_mem member, ?_⟩
  split
  · exact ⟨(sameNumber handle).trans isNumber, (sameId handle).trans isId⟩
  · exact ⟨isNumber, isId⟩

/-- A subscription that its handle or its timer has ended is not called any more. -/
theorem KeepsOptions.endSubscription (keeps : KeepsOptions service) {handle : SubscriptionHandle}
    (member : handle ∈ service.handles)
    : KeepsOptions
        ((service.unsubscribe handle.id).modifyHandle handle.number fun handle =>
          { handle with ended := true }) := by
  refine ⟨?_, ?_, fun other isOther => ?_, fun other isOther => ?_, keeps.stopped⟩
  · exact keeps.follow.unsubscribe member (fun _ => rfl) fun _ => rfl
  · exact keeps.timed_changed handle.number (fun _ => rfl) fun _ => rfl
  · obtain ⟨old, isOld, ⟨-, rfl⟩ | ⟨-, rfl⟩⟩ := mem_changed isOther
    · exact keeps.unfired old isOld
    · exact keeps.unfired other isOld
  · obtain ⟨old, isOld, ⟨-, rfl⟩ | ⟨-, rfl⟩⟩ := mem_changed isOther
    · have honoured := keeps.honoured old isOld
      exact ⟨honoured.limited, honoured.once, honoured.timely⟩
    · exact keeps.honoured other isOld

/-- A timer that is set for a handle belongs to it. -/
theorem KeepsOptions.scheduleCleanup (keeps : KeepsOptions service) {handle : SubscriptionHandle}
    (member : handle ∈ service.handles) (options : SubscriptionOptions)
    : KeepsOptions (service.scheduleCleanup handle.number handle.id options) := by
  unfold SubscriptionService.scheduleCleanup
  split
  · refine ⟨keeps.follow, fun timer isSet => ?_, keeps.unfired, keeps.honoured, keeps.stopped⟩
    rcases List.mem_append.mp isSet with old | isNew
    · exact keeps.timed timer old
    · obtain rfl := List.mem_singleton.mp isNew
      exact ⟨handle, member, rfl, rfl⟩
  · exact keeps

/-- A new subscription has not been called. -/
theorem KeepsOptions.subscribe (keeps : KeepsOptions service) (filter : EventFilter)
    (callback : Nat) (options : SubscriptionOptions) (wrapped : Bool)
    : KeepsOptions (service.subscribe filter callback options wrapped) := by
  unfold SubscriptionService.subscribe DispatcherState.subscribe
  cases EventDispatcher.generateId service.dispatcher.sub__ with
  | error thrown => exact keeps.loops rfl rfl fun stopped => (keeps.stopped stopped).2
  | ok id =>
      let handle : SubscriptionHandle :=
        {
          number := service.dispatcher.dispatcher.nextNumber
          id := id
          options := options
          wrapped := wrapped
        }
      have isLast : handle ∈ service.handles ++ [handle] := by simp
      have added {P : SubscriptionHandle → Prop} (old : ∀ other ∈ service.handles, P other)
          (new : P handle)
          : ∀ other ∈ service.handles ++ [handle], P other := by
        intro other member
        rcases List.mem_append.mp member with isOld | isNew
        · exact old other isOld
        · exact List.mem_singleton.mp isNew ▸ new
      have handled
          : KeepsOptions
              { service with
                dispatcher :=
                  { service.dispatcher with
                    dispatcher := service.dispatcher.dispatcher.subscribe id filter callback
                    generations :=
                      ⟨.ok id,
                        service.dispatcher.dispatcher.subscriptions.entries.map LiveEntry.key⟩
                      :: service.dispatcher.generations }
                handles := service.handles ++ [handle] } := by
        refine ⟨?_, fun timer isSet => ?_, ?_, ?_, keeps.stopped⟩
        · exact keeps.follow.subscribe filter callback (show handle.number = _ from rfl) rfl rfl
        · obtain ⟨old, member, isTimed⟩ := keeps.timed timer isSet
          exact ⟨old, List.mem_append_left _ member, isTimed⟩
        · exact added keeps.unfired fun _ _ => rfl
        · exact added keeps.honoured ⟨fun _ _ => .inl rfl, fun _ => Nat.zero_le _, rfl⟩
      dsimp only
      split
      · exact handled.scheduleCleanup isLast options
      · exact handled

/-- A call that stays within the options of its subscription. -/
theorem HonoursOptions.called {handle : SubscriptionHandle} (honours : HonoursOptions handle)
    (running : handle.ended = false)
    (within
      : handle.options.maxEvents.all (fun maxEvents => maxEvents.isAtLeast (handle.calls + 1))
        = true)
    (first : handle.options.once = true ∨ handle.wrapped = true → handle.calls = 0)
    : HonoursOptions (handle.called false) := by
  refine ⟨fun maxEvents isMost => .inr ?_, fun once => ?_, ?_⟩
  · rw [show handle.options.maxEvents = some maxEvents from isMost] at within
    exact_mod_cast within
  · exact Nat.le_of_eq (congrArg (fun calls => calls + 1) (first once))
  · simp [SubscriptionHandle.called, running, honours.timely]

/-- A callback is called within the options of its subscription, and a wrapped one fires. -/
theorem KeepsOptions.call (keeps : KeepsOptions service) {handle : SubscriptionHandle}
    (member : handle ∈ service.handles) (running : handle.ended = false)
    (unfired : handle.fired = false) (notStopped : service.stopped = false)
    (within
      : handle.options.maxEvents.all (fun maxEvents => maxEvents.isAtLeast (handle.calls + 1))
        = true)
    (first : handle.options.once = true → handle.calls = 0)
    : KeepsOptions (service.call handle) := by
  have same {old : SubscriptionHandle} (isOld : old ∈ service.handles)
      (isNumber : old.number = handle.number)
      : old = handle :=
    keeps.follow.eq_of_number isOld member isNumber
  have firstCall (isFirst : handle.options.once = true ∨ handle.wrapped = true)
      : handle.calls = 0 :=
    isFirst.elim first fun wrapped => keeps.unfired handle member wrapped unfired
  unfold SubscriptionService.call
  rw [notStopped]
  split
  · rename_i wrapped
    refine ⟨?_, ?_, fun other isOther => ?_, fun other isOther => ?_, ?_⟩
    · exact keeps.follow.unsubscribe member (fun _ => rfl) fun _ => rfl
    · exact keeps.timed_changed handle.number (fun _ => rfl) fun _ => rfl
    · obtain ⟨old, isOld, ⟨-, rfl⟩ | ⟨-, rfl⟩⟩ := mem_changed isOther
      · exact fun _ notFired => by cases notFired
      · exact keeps.unfired other isOld
    · obtain ⟨old, isOld, ⟨isNumber, rfl⟩ | ⟨-, rfl⟩⟩ := mem_changed isOther
      · obtain rfl := same isOld isNumber
        have honoured := keeps.honoured old isOld
        have fired : HonoursOptions { old with fired := true } :=
          ⟨honoured.limited, honoured.once, honoured.timely⟩
        exact fired.called running within firstCall
      · exact keeps.honoured other isOld
    · exact keeps.stopped
  · rename_i notWrapped
    refine ⟨?_, ?_, fun other isOther => ?_, fun other isOther => ?_, ?_⟩
    · exact keeps.follow.change handle.number (fun _ => rfl) (fun _ => rfl)
        (.inl fun _ => ⟨rfl, rfl⟩)
    · exact keeps.timed_changed handle.number (fun _ => rfl) fun _ => rfl
    · obtain ⟨old, isOld, ⟨isNumber, rfl⟩ | ⟨-, rfl⟩⟩ := mem_changed isOther
      · obtain rfl := same isOld isNumber
        exact fun wrapped => absurd wrapped notWrapped
      · exact keeps.unfired other isOld
    · obtain ⟨old, isOld, ⟨isNumber, rfl⟩ | ⟨-, rfl⟩⟩ := mem_changed isOther
      · obtain rfl := same isOld isNumber
        exact (keeps.honoured old isOld).called running within firstCall
      · exact keeps.honoured other isOld
    · exact keeps.stopped

/-- The subscription that is called next is registered, and a loop is running. -/
theorem nextCall_registered {subscription : EventSubscription}
    (isNext : service.nextCall = some subscription)
    : (∃ entry ∈ service.dispatcher.dispatcher.subscriptions.entries, entry.value = subscription)
      ∧ service.dispatcher.stack ≠ [] := by
  unfold SubscriptionService.nextCall at isNext
  split at isNext
  · cases isNext
  · rename_i frame others running
    obtain ⟨found, -⟩ := Option.filter_eq_some_iff.mp isNext
    obtain ⟨entry, ahead, isValue⟩ := Option.map_eq_some_iff.mp found
    obtain ⟨member, -⟩ := LiveMap.next_eq_some_iff.mp ahead
    exact ⟨⟨entry, member, isValue⟩, by rw [running]; exact List.cons_ne_nil _ _⟩

/-- A turn of a loop that stays within the options of the subscription that it calls. -/
theorem KeepsOptions.advance (keeps : KeepsOptions service) {dispatcher : DispatcherState}
    (taken : dispatcherStep service.dispatcher .advance = some dispatcher)
    (within : staysWithinOptions service .advance)
    (turned : { service with dispatcher := dispatcher }.turned service.nextCall = some next)
    : KeepsOptions next := by
  have running : service.dispatcher.stack ≠ [] := by
    intro none
    simp [dispatcherStep, none] at taken
  have notStopped : service.stopped = false :=
    Bool.eq_false_iff.mpr fun stopped => running (keeps.stopped stopped).2
  have onwards : KeepsOptions { service with dispatcher := dispatcher } := by
    have idle (isStopped : service.stopped = true) : dispatcher.stack = [] := by
      rw [notStopped] at isStopped
      cases isStopped
    cases dispatcherStep_effect taken with
    | visited isRunning waits ahead =>
        refine keeps.loops ?_ ?_ idle
        · unfold DispatcherState.visit
          split <;> rfl
        · unfold DispatcherState.visit
          split <;> rfl
    | finished isRunning waits passed => exact keeps.loops rfl rfl idle
  unfold SubscriptionService.turned at turned
  split at turned
  · exact Option.some.inj turned ▸ onwards
  · rename_i subscription isNext
    split at turned
    · exact Option.some.inj turned ▸ onwards
    · rename_i handle found
      have member : handle ∈ service.handles := List.mem_of_find?_eq_some found
      have isNumber : handle.number = subscription.number := by
        simpa using List.find?_some found
      obtain ⟨⟨entry, registered, isValue⟩, -⟩ := nextCall_registered isNext
      have notOver (isOver : handle.ended = true ∨ handle.fired = true) : False :=
        keeps.follow.gone handle member isOver entry registered (by rw [isValue, isNumber])
      have unfired : handle.fired = false :=
        Bool.eq_false_iff.mpr fun fired => notOver (.inr fired)
      split at turned
      · rename_i hasFired
        simp [unfired] at hasFired
      · obtain rfl := Option.some.inj turned
        obtain ⟨limited, first⟩ := within subscription isNext handle member isNumber
        exact onwards.call member (Bool.eq_false_iff.mpr fun ended => notOver (.inl ended)) unfired
          notStopped limited first

/-- Every step that stays within the options keeps them, by cases on the action. -/
theorem keepsOptions_step (service : SubscriptionService) (action : ServiceAction)
    (next : SubscriptionService) (within : staysWithinOptions service action)
    (taken : serviceStep fromXDR service action = some next) (keeps : KeepsOptions service)
    : KeepsOptions next := by
  cases action with
  | connect succeeds =>
      obtain rfl := Option.some.inj taken
      exact keeps.connection fun shutDown => (shutDown.connect succeeds).symm ▸ shutDown
  | subscribe filter callback options =>
      simp only [serviceStep] at taken
      split at taken
      · exact Option.some.inj taken ▸ keeps.subscribe filter callback options false
      · cases taken
  | subscribeOnce filter callback =>
      simp only [serviceStep] at taken
      split at taken
      · exact Option.some.inj taken ▸ keeps.subscribe filter callback {} true
      · cases taken
  | unsubscribe number =>
      simp only [serviceStep] at taken
      split at taken
      · cases taken
      · rename_i handle found
        split at taken
        · have isNumber : handle.number = number := by simpa using List.find?_some found
          exact Option.some.inj taken
            ▸ isNumber ▸ keeps.endSubscription (List.mem_of_find?_eq_some found)
        · cases taken
  | stop =>
      simp only [serviceStep] at taken
      split at taken
      · exact Option.some.inj taken ▸ keeps.stop within.1 within.2
      · cases taken
  | clearTimers =>
      simp only [serviceStep] at taken
      split at taken
      · cases taken
      · exact Option.some.inj taken ▸ keeps.fewerTimers (List.filter_subset_self _) _ _
  | connection action =>
      have changed
          (taken
            : (if service.quiet then
                (connectionStep service.wsManager action).map fun wsManager =>
                  { service with wsManager := wsManager }
              else none)
              = some next)
          : KeepsOptions next := by
        split at taken
        · obtain ⟨wsManager, stepped, rfl⟩ := Option.map_eq_some_iff.mp taken
          exact keeps.connection (WebSocket.shutDown_step stepped)
        · cases taken
      cases action with
      | connect succeeds => cases taken
      | disconnect => cases taken
      | opens socket => exact changed taken
      | closes socket => exact changed taken
      | fails socket => exact changed taken
      | returns => exact changed taken
      | throws => exact changed taken
      | timer id succeeds => exact changed taken
  | message socket rawEvent generatedId now =>
      simp only [serviceStep] at taken
      split at taken
      · rename_i delivers
        split at taken
        · exact Option.some.inj taken ▸ keeps
        · obtain ⟨dispatcher, stepped, rfl⟩ := Option.map_eq_some_iff.mp taken
          have isOpen : service.wsManager.sockets[socket]? = some .opened := by
            simpa using (Bool.and_eq_true_iff.mp delivers).2
          cases dispatcherStep_effect stepped with
          | dispatches event host =>
              refine keeps.loops rfl rfl fun stopped => ?_
              cases (keeps.stopped stopped).1.dead socket _ isOpen
      · cases taken
  | advance =>
      simp only [serviceStep] at taken
      split at taken
      · obtain ⟨dispatcher, stepped, turned⟩ := Option.bind_eq_some_iff.mp taken
        exact keeps.advance stepped within turned
      · cases taken
  | returns =>
      simp only [serviceStep] at taken
      split at taken
      · obtain ⟨dispatcher, stepped, rfl⟩ := Option.map_eq_some_iff.mp taken
        cases dispatcherStep_effect stepped with
        | returned running busy =>
            exact keeps.loopGoesOn rfl rfl (List.ne_nil_of_mem (running ▸ List.mem_cons_self))
      · cases taken
  | throws =>
      simp only [serviceStep] at taken
      split at taken
      · obtain ⟨dispatcher, stepped, rfl⟩ := Option.map_eq_some_iff.mp taken
        cases dispatcherStep_effect stepped with
        | threw running busy =>
            exact keeps.loopGoesOn rfl rfl (List.ne_nil_of_mem (running ▸ List.mem_cons_self))
      · cases taken
  | timer id =>
      simp only [serviceStep] at taken
      split at taken
      · cases taken
      · rename_i timer found
        split at taken
        · obtain rfl := Option.some.inj taken
          obtain ⟨handle, member, isNumber, isId⟩ :=
            keeps.timed timer (List.mem_of_find?_eq_some found)
          have ended := keeps.endSubscription member
          rw [isNumber, isId] at ended
          exact ended.fewerTimers (List.filter_subset_self _) _ _
        · cases taken

/-- In every run that stays within the options, every callback is called at most as often as the
options of its subscription allow, once if it was passed to `subscribeOnce`, and never after its
timeout has fired, its handle has unsubscribed it, or `stop` has been called. Witness: what has
ended or fired is not registered any more, and after `stop` there is neither a running dispatch
nor an open socket that could start one.
-/
theorem options_honoured (fromXDR : String → Option ScVal) (sub__ : Option String)
    (actions : List ServiceAction)
    (within : stepsSatisfy (serviceStep fromXDR) staysWithinOptions (.initial sub__) actions)
    (front : List ServiceAction) (service : SubscriptionService) (isPrefix : front <+: actions)
    (reached : run (serviceStep fromXDR) (.initial sub__) front = some service)
    : ∀ handle ∈ service.handles, HonoursOptions handle := by
  have initial : KeepsOptions (.initial sub__) :=
    ⟨⟨List.nodup_nil, fun _ member => (by cases member), fun _ member => (by cases member),
        fun _ member => (by cases member)⟩,
      fun _ member => (by cases member), fun _ member => (by cases member),
      fun _ member => (by cases member), fun stopped => (by cases stopped)⟩
  have keeps := run_preserves_of_stepsSatisfy keepsOptions_step initial
    (stepsSatisfy_of_isPrefix isPrefix within) reached
  exact keeps.honoured

/-- The socket is open. -/
private def startedUp : List ServiceAction :=
  [.connect true, .connection (.opens 0), .connection .returns]

/-- A contract event comes in. -/
private def contractEvent : ServiceAction :=
  .message 0 { type := "contract", contractId := "CA", topic := [] } "evt" 0

/-- An event comes in and the callback of the only subscription returns; then the next one comes in.
-/
private def deliveredTwice : List ServiceAction :=
  [contractEvent, .advance, .returns, .advance, contractEvent, .advance]

/-- Callbacks are called twice in spite of `maxEvents` and `once`, and after `stop` because a socket
is still open that was superseded before.
-/
theorem options_not_honoured
    : (∃ final,
        run (serviceStep fun _ => none) (.initial (some "s"))
            (startedUp ++ [.subscribe {} 0 { maxEvents := some (.finite 1) }] ++ deliveredTwice)
          = some final
        ∧ final.handles.map SubscriptionHandle.calls = [2]
        ∧ ¬ ∀ handle ∈ final.handles, HonoursOptions handle)
      ∧ (∃ final,
          run (serviceStep fun _ => none) (.initial (some "s"))
              (startedUp ++ [.subscribe {} 0 { once := true }] ++ deliveredTwice)
            = some final
          ∧ final.handles.map SubscriptionHandle.calls = [2]
          ∧ ¬ ∀ handle ∈ final.handles, HonoursOptions handle)
      ∧ ∃ final,
          run (serviceStep fun _ => none) (.initial (some "s"))
              (startedUp
                ++ [.connect true, .subscribe {} 0 {}, .stop, .clearTimers, contractEvent,
                  .advance])
            = some final
          ∧ final.handles.map SubscriptionHandle.late = [1]
          ∧ ¬ ∀ handle ∈ final.handles, HonoursOptions handle := by
  refine ⟨⟨_, rfl, rfl, fun honoured => ?_⟩, ⟨_, rfl, rfl, fun honoured => ?_⟩,
    ⟨_, rfl, rfl, fun honoured => ?_⟩⟩
  · exact absurd ((honoured _ (.head _)).limited (.finite 1) rfl) (by decide)
  · exact absurd ((honoured _ (.head _)).once (.inl rfl)) (by decide)
  · exact absurd (honoured _ (.head _)).timely (by decide)

/-- A subscription is called once and then ended by its timeout, another one is made by
`subscribeOnce` and its callback throws, and a third is called until its handle ends it; then the
service stops.
-/
private def usedUp : List ServiceAction :=
  startedUp
  ++ [.subscribe {} 0 { maxEvents := some (.finite 1), timeout := some (.finite 100) },
    contractEvent, .advance, .returns, .advance, .timer 0, contractEvent, .advance,
    .subscribeOnce {} 1, contractEvent, .advance, .throws, .advance, contractEvent, .advance,
    .subscribe {} 2 {}, contractEvent, .advance, .unsubscribe 2, .returns, .advance, contractEvent,
    .advance, .stop, .clearTimers]

/-- Each callback is called once. -/
theorem options_honoured_usedUp
    : ∃ final,
        run (serviceStep fun _ => none) (.initial (some "s")) usedUp = some final
        ∧ final.handles.map SubscriptionHandle.calls = [1, 1, 1]
        ∧ ∀ handle ∈ final.handles, HonoursOptions handle := by
  refine ⟨_, rfl, rfl, ?_⟩
  exact options_honoured (fun _ => none) (some "s") usedUp (by decide) usedUp _ List.prefix_rfl rfl

end Axionvera.Subscriptions
