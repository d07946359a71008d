import Axionvera.Events.Dispatch

/-! A dispatcher in use, as a machine of small steps: callbacks can subscribe, unsubscribe and
dispatch again before they return, so that loops of `dispatch` are kept on a stack.
-/

namespace Axionvera.Events

open Axionvera.Foundation

/-- The loop of a `dispatch` call. While a callback runs, the loop waits for it. -/
structure DispatchFrame where
  event : SorobanEvent
  cursor : Nat := 0
  dispatched : Nat := 0
  calling : Option EventSubscription := none
  deriving DecidableEq

/-- How `generateId` answered a `subscribe` call without an id, and the ids live at that time. -/
structure Generation where
  result : Except ThrownValue String
  live : List String

/-- A dispatcher with its running loops, and the global variable `sub__` of the program. Recorded
are the answers of `generateId`, the subscriptions whose callbacks were called, and those of them
that returned normally, by their numbers and the latest first.
-/
structure DispatcherState where
  sub__ : Option String
  dispatcher : EventDispatcher
  stack : List DispatchFrame
  generations : List Generation
  called : List Nat
  returned : List Nat

namespace DispatcherState

/-- A dispatcher that has just been created. -/
def initial (sub__ : Option String) : DispatcherState :=
  {
    sub__ := sub__
    dispatcher := .empty
    stack := []
    generations := []
    called := []
    returned := []
  }

/-- Code outside the dispatcher runs: no loop is running, or it waits for a callback. -/
def hostRuns (state : DispatcherState) : Bool :=
  match state.stack with
  | [] => true
  | frame :: _ => frame.calling.isSome

/-- `subscribe`. Without an id, one is generated. -/
def subscribe (state : DispatcherState) (id : Option String) (filter : EventFilter)
    (callback : Nat) : DispatcherState :=
  match id with
  | some id => { state with dispatcher := state.dispatcher.subscribe id filter callback }
  | none =>
      let result := EventDispatcher.generateId state.sub__
      let live := state.dispatcher.subscriptions.entries.map LiveEntry.key
      let recorded := { state with generations := ⟨result, live⟩ :: state.generations }
      match result with
      | .error _ => recorded
      | .ok id => { recorded with dispatcher := state.dispatcher.subscribe id filter callback }

/-- The running loop comes to a subscription and calls its callback if it wants the event. -/
def visit (state : DispatcherState) (frame : DispatchFrame) (others : List DispatchFrame)
    (entry : LiveEntry String EventSubscription) : DispatcherState :=
  if entry.value.wants frame.event then
    { state with
      stack := { frame with cursor := entry.stamp + 1, calling := some entry.value } :: others
      called := entry.value.number :: state.called }
  else { state with stack := { frame with cursor := entry.stamp + 1 } :: others }

/-- The callback of a subscription returns to the loop that has called it. -/
def callbackReturns (state : DispatcherState) (frame : DispatchFrame) (others : List DispatchFrame)
    (subscription : EventSubscription) : DispatcherState :=
  { state with
    dispatcher := state.dispatcher.incrementCount subscription.id
    stack := { frame with dispatched := frame.dispatched + 1, calling := none } :: others
    returned := subscription.number :: state.returned }

end DispatcherState

/-- Everything that can happen next. -/
inductive DispatcherAction where
  | subscribe (id : Option String) (filter : EventFilter) (callback : Nat)
  | unsubscribe (id : String)
  | dispatch (event : SorobanEvent)
  | advance
  | returns
  | throws

/-- One step of the machine. Calls come from code outside the dispatcher; the loop of `dispatch`
goes on when no callback runs, and swallows what one throws.
-/
def dispatcherStep (state : DispatcherState) : DispatcherAction → Option DispatcherState
  | .subscribe id filter callback =>
      if state.hostRuns then some (state.subscribe id filter callback) else none
  | .unsubscribe id =>
      if state.hostRuns then some { state with dispatcher := state.dispatcher.unsubscribe id }
      else none
  | .dispatch event =>
      if state.hostRuns then some { state with stack := { event := event } :: state.stack }
      else none
  | .advance =>
      match state.stack with
      | [] => none
      | frame :: others =>
          match frame.calling with
          | some _ => none
          | none =>
              match state.dispatcher.subscriptions.next frame.cursor with
              | some entry => some (state.visit frame others entry)
              | none => some { state with stack := others }
  | .returns =>
      match state.stack with
      | [] => none
      | frame :: others =>
          match frame.calling with
          | some subscription => some (state.callbackReturns frame others subscription)
          | none => none
  | .throws =>
      match state.stack with
      | [] => none
      | frame :: others =>
          match frame.calling with
          | some _ => some { state with stack := { frame with calling := none } :: others }
          | none => none

variable {state next : DispatcherState}

/-- (DispatcherEffect state action next) lists what a step can do. -/
inductive DispatcherEffect (state : DispatcherState) : DispatcherAction → DispatcherState → Prop
  | subscribed (id : Option String) (filter : EventFilter) (callback : Nat)
    (host : state.hostRuns = true)
    : DispatcherEffect state (.subscribe id filter callback) (state.subscribe id filter callback)
  | unsubscribed (id : String) (host : state.hostRuns = true)
    : DispatcherEffect state (.unsubscribe id)
        { state with dispatcher := state.dispatcher.unsubscribe id }
  | dispatches (event : SorobanEvent) (host : state.hostRuns = true)
    : DispatcherEffect state (.dispatch event)
        { state with stack := { event := event } :: state.stack }
  | visited {frame : DispatchFrame} {others : List DispatchFrame}
    {entry : LiveEntry String EventSubscription} (running : state.stack = frame :: others)
    (idle : frame.calling = none)
    (ahead : state.dispatcher.subscriptions.next frame.cursor = some entry)
    : DispatcherEffect state .advance (state.visit frame others entry)
  | finished {frame : DispatchFrame} {others : List DispatchFrame}
    (running : state.stack = frame :: others) (idle : frame.calling = none)
    (passed : state.dispatcher.subscriptions.next frame.cursor = none)
    : DispatcherEffect state .advance { state with stack := others }
  | returned {frame : DispatchFrame} {others : List DispatchFrame}
    {subscription : EventSubscription} (running : state.stack = frame :: others)
    (busy : frame.calling = some subscription)
    : DispatcherEffect state .returns (state.callbackReturns frame others subscription)
  | threw {frame : DispatchFrame} {others : List DispatchFrame} {subscription : EventSubscription}
    (running : state.stack = frame :: others) (busy : frame.calling = some subscription)
    : DispatcherEffect state .throws
        { state with stack := { frame with calling := none } :: others }

/-- Every step has one of the effects, by cases on the action and the running loop. -/
theorem dispatcherStep_effect {action : DispatcherAction}
    (taken : dispatcherStep state action = some next)
    : DispatcherEffect state action next := by
  have called {result : DispatcherState}
      (taken : (if state.hostRuns then some result else none) = some next)
      : state.hostRuns = true ∧ result = next := by
    split at taken
    · rename_i host
      exact ⟨host, Option.some.inj taken⟩
    · cases taken
  cases action with
  | subscribe id filter callback =>
      obtain ⟨host, rfl⟩ := called taken
      exact .subscribed id filter callback host
  | unsubscribe id =>
      obtain ⟨host, rfl⟩ := called taken
      exact .unsubscribed id host
  | dispatch event =>
      obtain ⟨host, rfl⟩ := called taken
      exact .dispatches event host
  | advance =>
      simp only [dispatcherStep] at taken
      split at taken
      · cases taken
      · rename_i frame others running
        split at taken
        · cases taken
        · rename_i idle
          split at taken
          · rename_i entry ahead
            obtain rfl := Option.some.inj taken
            exact .visited running idle ahead
          · rename_i passed
            obtain rfl := Option.some.inj taken
            exact .finished running idle passed
  | returns =>
      simp only [dispatcherStep] at taken
      split at taken
      · cases taken
      · rename_i frame others running
        split at taken
        · rename_i subscription busy
          obtain rfl := Option.some.inj taken
          exact .returned running busy
        · cases taken
  | throws =>
      simp only [dispatcherStep] at taken
      split at taken
      · cases taken
      · rename_i frame others running
        split at taken
        · rename_i subscription busy
          obtain rfl := Option.some.inj taken
          exact .threw running busy
        · cases taken

-----------------------------------------------------------------------------------------
-- Callbacks that are given in advance
-----------------------------------------------------------------------------------------

/-- What a callback calls on the dispatcher, as an action. -/
def DispatcherCall.action : DispatcherCall → DispatcherAction
  | .subscribe id filter callback => .subscribe (some id) filter callback
  | .unsubscribe id => .unsubscribe id

/-- The frame of a loop between the calls of callbacks. -/
def DispatchLoop.frame {ω : Type} (event : SorobanEvent) (loop : DispatchLoop ω) : DispatchFrame :=
  { event := event, cursor := loop.cursor, dispatched := loop.dispatched }

/-- The calls of a callback change the dispatcher as they are made, by induction on them. -/
theorem run_calls (calls : List DispatcherCall) (host : state.hostRuns = true)
    : ∃ final,
        run dispatcherStep state (calls.map DispatcherCall.action) = some final
        ∧ final.dispatcher = calls.foldl DispatcherCall.apply state.dispatcher
        ∧ final.stack = state.stack := by
  induction calls generalizing state with
  | nil => exact ⟨state, rfl, rfl, rfl⟩
  | cons call rest ih =>
      have made
          : dispatcherStep state call.action
            = some { state with dispatcher := call.apply state.dispatcher } := by
        cases call <;> simp [dispatcherStep, DispatcherCall.action, host, DispatcherCall.apply,
          DispatcherState.subscribe]
      have still
          : ({ state with dispatcher := call.apply state.dispatcher } : DispatcherState).hostRuns
            = true :=
        host
      obtain ⟨final, reached, dispatcher, stack⟩ := ih still
      exact ⟨final, run_cons_iff.mpr ⟨_, made, reached⟩, dispatcher, stack⟩

/-- A turn of a loop with given callbacks is a run of the machine: the loop comes to a subscription,
its callback makes its calls, and then returns or throws.
-/
theorem dispatchTurn_simulated {ω : Type} {callbacks : Callbacks ω} {event : SorobanEvent}
    {loop after : DispatchLoop ω} {tick : Unit} {others : List DispatchFrame}
    (taken : dispatchTurn callbacks event loop tick = some after)
    (dispatcher : state.dispatcher = loop.dispatcher)
    (stack : state.stack = loop.frame event :: others)
    : ∃ actions final,
        run dispatcherStep state actions = some final
        ∧ final.dispatcher = after.dispatcher
        ∧ final.stack = after.frame event :: others := by
  unfold dispatchTurn at taken
  split at taken
  · cases taken
  · rename_i entry ahead
    have advanced
        : dispatcherStep state .advance = some (state.visit (loop.frame event) others entry) := by
      simp only [dispatcherStep, stack, dispatcher, DispatchLoop.frame, ahead]
    dsimp only at taken
    split at taken
    · rename_i wanted
      obtain rfl := Option.some.inj taken
      let called : DispatcherState :=
        { state with
          stack :=
            { loop.frame event with cursor := entry.stamp + 1, calling := some entry.value }
              :: others
          called := entry.value.number :: state.called }
      have visited : state.visit (loop.frame event) others entry = called := if_pos wanted
      let reaction := callbacks loop.world loop.dispatcher entry.value.callback event
      have host : called.hostRuns = true := rfl
      obtain ⟨middle, walked, changed, sameStack⟩ := run_calls reaction.calls host
      have startsWith {last : DispatcherAction} {final : DispatcherState}
          (ends : dispatcherStep middle last = some final)
          : run dispatcherStep state
              (.advance :: (reaction.calls.map DispatcherCall.action ++ [last]))
            = some final := by
        rw [run_cons_iff]
        refine ⟨called, visited ▸ advanced, ?_⟩
        rw [run_append, walked]
        exact run_cons_iff.mpr ⟨final, ends, rfl⟩
      rw [show called.dispatcher = loop.dispatcher from dispatcher] at changed
      unfold DispatchLoop.call
      dsimp only
      cases throws : reaction.throws with
      | true =>
          have ends
              : dispatcherStep middle .throws
                = some
                    { middle with
                      stack := { loop.frame event with cursor := entry.stamp + 1 } :: others } := by
            simp only [dispatcherStep, sameStack]
            rfl
          exact ⟨_, _, startsWith ends, changed, rfl⟩
      | false =>
          have ends
              : dispatcherStep middle .returns
                = some
                    (middle.callbackReturns
                      { loop.frame event with
                        cursor := entry.stamp + 1, calling := some entry.value }
                      others entry.value) := by
            simp only [dispatcherStep, sameStack]
            rfl
          have counted :=
            congrArg (fun changed => changed.incrementCount entry.value.id) changed
          exact ⟨_, _, startsWith ends, counted, rfl⟩
    · rename_i unwanted
      obtain rfl := Option.some.inj taken
      have visited
          : state.visit (loop.frame event) others entry
            = { state with
                stack := { loop.frame event with cursor := entry.stamp + 1 } :: others } :=
        if_neg unwanted
      refine ⟨[.advance], _, run_cons_iff.mpr ⟨_, advanced, rfl⟩, ?_, ?_⟩
      · rw [visited]
        exact dispatcher
      · rw [visited]
        rfl

/-- Turns of a loop with given callbacks are a run of the machine, by induction on the turns. -/
theorem dispatch_simulated {ω : Type} {callbacks : Callbacks ω} {event : SorobanEvent}
    {loop final : DispatchLoop ω} {turns : List Unit} {others : List DispatchFrame}
    (reached : run (dispatchTurn callbacks event) loop turns = some final)
    (dispatcher : state.dispatcher = loop.dispatcher)
    (stack : state.stack = loop.frame event :: others)
    : ∃ actions after,
        run dispatcherStep state actions = some after
        ∧ after.dispatcher = final.dispatcher
        ∧ after.stack = final.frame event :: others := by
  induction turns generalizing state loop with
  | nil =>
      obtain rfl := Option.some.inj reached
      exact ⟨[], state, rfl, dispatcher, stack⟩
  | cons tick rest ih =>
      obtain ⟨next, taken, later⟩ := run_cons_iff.mp reached
      obtain ⟨front, middle, walked, changed, running⟩ :=
        dispatchTurn_simulated taken dispatcher stack
      obtain ⟨back, after, onwards, isFinal, isFrame⟩ := ih later changed running
      exact ⟨front ++ back, after, by rw [run_append, walked]; exact onwards, isFinal, isFrame⟩

end Axionvera.Events
