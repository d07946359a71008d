import Axionvera.Foundation.LiveMap
import Axionvera.Foundation.TransitionSystem
import Axionvera.Lifecycle.TransactionRecords

/-! `TransactionLifecycleManager` and `LifecycleEventEmitter`
(`transactions/transactionLifecycleManager.ts`, `events/lifecycleEvents.ts`) as a machine of small
steps. A call that notifies listeners keeps its loop on a stack, since a listener may use the
manager again before it returns.
-/

namespace Axionvera.Lifecycle

open Axionvera.Foundation

/-- `LifecycleEventType`. -/
inductive LifecycleEventType where
  | created
  | transition
  | completed
  | failed
  deriving DecidableEq

/-- `LifecycleEvent`. -/
structure LifecycleEvent where
  type : LifecycleEventType
  transactionId : String
  previousState : Option TransactionLifecycleState
  state : TransactionLifecycleState
  timestamp : Int
  details : Option Details := none
  error : Option ErrorInfo := none

/-- `LifecycleEventFilter`. -/
structure LifecycleEventFilter where
  transactionId : Option String := none
  types : Option (List LifecycleEventType) := none

/-- `matchesFilter`, in which an empty id and an empty list match everything. -/
def matchesFilter (transactionId : String) (type : LifecycleEventType)
    : Option LifecycleEventFilter → Bool
  | none => true
  | some filter =>
      (match filter.transactionId with
        | none => true
        | some wanted => wanted = "" || wanted = transactionId)
      && match filter.types with
        | none => true
        | some types => types = [] || type ∈ types

/-- The type of the event for a move into a state. -/
def transitionType : TransactionLifecycleState → LifecycleEventType
  | .failed => .failed
  | .completed => .completed
  | _ => .transition

/-- `LifecycleEventEmitter`. A listener is known by the number of its id `lifecycle-sub-n`, and no
number above the last one has been given.
-/
structure LifecycleEventEmitter where
  listeners : LiveMap Nat (Option LifecycleEventFilter)
  nextId : Nat
  issued : ∀ entry ∈ listeners.entries, entry.key ≤ nextId

namespace LifecycleEventEmitter

/-- An emitter without listeners. -/
def empty : LifecycleEventEmitter :=
  { listeners := .empty, nextId := 0, issued := fun entry member => by cases member }

/-- The text of the id that `subscribe` returns. -/
def subscriptionId (number : Nat) : String :=
  "lifecycle-sub-" ++ toString number

/-- A number that has not been given has no listener. -/
theorem get_nextId (emitter : LifecycleEventEmitter)
    : emitter.listeners.get (emitter.nextId + 1) = none := by
  rw [LiveMap.get_eq_none_iff]
  intro entry member
  exact Nat.ne_of_lt (Nat.lt_succ_of_le (emitter.issued entry member))

/-- `subscribe`. -/
def subscribe (emitter : LifecycleEventEmitter) (filter : Option LifecycleEventFilter)
    : LifecycleEventEmitter :=
  {
    listeners := emitter.listeners.set (emitter.nextId + 1) filter
    nextId := emitter.nextId + 1
    issued := by
      intro entry member
      rcases (LiveMap.mem_set_of_absent emitter.get_nextId filter).mp member with old | isNew
      · exact Nat.le_succ_of_le (emitter.issued entry old)
      · rw [isNew]
  }

/-- `unsubscribe`. -/
def unsubscribe (emitter : LifecycleEventEmitter) (number : Nat) : LifecycleEventEmitter :=
  {
    listeners := emitter.listeners.delete number
    nextId := emitter.nextId
    issued := fun entry member => emitter.issued entry (LiveMap.mem_delete.mp member).1
  }

/-- After a subscription there are the old listeners and a new one. -/
@[simp]
theorem mem_subscribe {emitter : LifecycleEventEmitter} {filter : Option LifecycleEventFilter}
    {entry : LiveEntry Nat (Option LifecycleEventFilter)}
    : entry ∈ (emitter.subscribe filter).listeners.entries
      ↔ entry ∈ emitter.listeners.entries
        ∨ entry = ⟨emitter.listeners.nextStamp, emitter.nextId + 1, filter⟩ :=
  LiveMap.mem_set_of_absent emitter.get_nextId filter

/-- After a removal there are the other listeners. -/
@[simp]
theorem mem_unsubscribe {emitter : LifecycleEventEmitter} {number : Nat}
    {entry : LiveEntry Nat (Option LifecycleEventFilter)}
    : entry ∈ (emitter.unsubscribe number).listeners.entries
      ↔ entry ∈ emitter.listeners.entries ∧ entry.key ≠ number :=
  LiveMap.mem_delete

end LifecycleEventEmitter

/-- The loop of an `emit` call over the listeners, for the record at a place. While a listener
runs, the loop waits for it.
-/
structure EmitFrame where
  place : Nat
  event : LifecycleEvent
  cursor : Nat := 0
  calling : Bool := false

/-- One call of a listener. -/
structure Delivery where
  listener : Nat
  place : Nat
  event : LifecycleEvent

/-- A manager with its emitter, and the calls of it that are running. Recorded are the calls of
listeners, in their order, and how the last `create` or `transition` call ended.
-/
structure LifecycleManager where
  records : TrackedRecords
  emitter : LifecycleEventEmitter
  stack : List EmitFrame
  deliveries : List Delivery
  outcome : Option (Except LifecycleError TransactionLifecycleRecord)

namespace LifecycleManager

/-- A manager that has just been created. -/
def initial : LifecycleManager :=
  {
    records := .empty
    emitter := .empty
    stack := []
    deliveries := []
    outcome := none
  }

/-- A call throws before anybody is notified. -/
def reject (manager : LifecycleManager) (error : LifecycleError) : LifecycleManager :=
  { manager with outcome := some (.error error) }

/-- The loop of `emit` starts. -/
def emit (manager : LifecycleManager) (place : Nat) (event : LifecycleEvent) : LifecycleManager :=
  { manager with stack := { place := place, event := event } :: manager.stack }

/-- The event of a `create` call that has tracked a record. -/
def creationEvent (id : String) (now : Int) : LifecycleEvent :=
  {
    type := .created
    transactionId := id
    previousState := none
    state := .created
    timestamp := now
  }

/-- `create`, with the id that `uid` generates. -/
def create (manager : LifecycleManager) (id : Option String) (uid : String)
    (metadata : Option Details) (now : Int) : LifecycleManager :=
  let id := id.getD uid
  if manager.records.has id then manager.reject (.alreadyTracked id)
  else
    match spreadDetails .empty metadata with
    | .error thrown => manager.reject (.thrown thrown)
    | .ok metadata =>
        let record := TransactionLifecycleRecord.initial id now metadata
        { manager with records := manager.records.track record }.emit
          manager.records.objects.length (creationEvent id now)

/-- The event of a `transition` call that has changed a record. -/
def transitionEvent (id : String) (source target : TransactionLifecycleState)
    (details : Option Details) (now : Int) (error : Option ErrorInfo) : LifecycleEvent :=
  {
    type := transitionType target
    transactionId := id
    previousState := some source
    state := target
    timestamp := now
    details := details
    error := error
  }

/-- `transition`, given how numbers are printed. -/
def transition (printed : JsNumber → String) (manager : LifecycleManager) (id : String)
    (target : TransactionLifecycleState) (details : Option Details) (now : Int)
    : LifecycleManager :=
  match manager.records.find id with
  | none => manager.reject (.transactionNotTracked id)
  | some (place, record) =>
      match assertTransition record.state target with
      | .error error => manager.reject error
      | .ok () =>
          let (changed, read) := record.move printed target details now
          -- The record is changed in place, also when reading the details throws.
          let moved := { manager with records := manager.records.update place changed }
          match read with
          | .error thrown => moved.reject (.thrown thrown)
          | .ok () =>
              moved.emit place
                (transitionEvent id record.state target details now changed.error)

/-- `{ ...details, error }`, once the details have been read. -/
def failureDetails (fields : Metadata) (error : ThrownValue) : Details :=
  {
    entries := (fields.set "error" error).entries.map fun field => (field.1, .ok field.2)
    unique := by simpa [Function.comp_def] using (fields.set "error" error).unique
  }

/-- `fail`, which moves to `failed` with the error among the details. -/
def fail (printed : JsNumber → String) (manager : LifecycleManager) (id : String)
    (error : ThrownValue) (details : Option Details) (now : Int) : LifecycleManager :=
  match spreadDetails .empty details with
  | .error thrown => manager.reject (.thrown thrown)
  | .ok fields => transition printed manager id .failed (some (failureDetails fields error)) now

/-- Code outside the manager runs: no call is running, or a listener is. -/
def hostRuns (manager : LifecycleManager) : Bool :=
  match manager.stack with
  | [] => true
  | frame :: _ => frame.calling

/-- The running loop comes to a listener and calls it if its filter matches. -/
def visit (manager : LifecycleManager) (frame : EmitFrame) (others : List EmitFrame)
    (entry : LiveEntry Nat (Option LifecycleEventFilter)) : LifecycleManager :=
  if matchesFilter frame.event.transactionId frame.event.type entry.value then
    { manager with
      stack := { frame with cursor := entry.stamp + 1, calling := true } :: others
      deliveries := manager.deliveries ++ [⟨entry.key, frame.place, frame.event⟩] }
  else { manager with stack := { frame with cursor := entry.stamp + 1 } :: others }

/-- The running loop has passed all listeners: the call returns a copy of its record. -/
def finish (manager : LifecycleManager) (frame : EmitFrame) (others : List EmitFrame)
    : LifecycleManager :=
  { manager with
    stack := others
    outcome := manager.records.objects[frame.place]?.map .ok }

end LifecycleManager

/-- Everything that can happen next. -/
inductive LifecycleAction where
  | create (id : Option String) (uid : String) (metadata : Option Details) (now : Int)
  | transition (id : String) (target : TransactionLifecycleState) (details : Option Details)
      (now : Int)
  | fail (id : String) (error : ThrownValue) (details : Option Details) (now : Int)
  | remove (id : String)
  | clear
  | onEvent (filter : Option LifecycleEventFilter)
  | offEvent (number : Nat)
  | advance
  | returns
  | throws (error : ThrownValue)

namespace LifecycleAction

/-- `markSimulating`. -/
def markSimulating (id : String) : Option Details → Int → LifecycleAction :=
  .transition id .simulating

/-- `markSimulated`. -/
def markSimulated (id : String) : Option Details → Int → LifecycleAction :=
  .transition id .simulated

/-- `markSigning`. -/
def markSigning (id : String) : Option Details → Int → LifecycleAction :=
  .transition id .signing

/-- `markSigned`. -/
def markSigned (id : String) : Option Details → Int → LifecycleAction :=
  .transition id .signed

/-- `markSubmitting`. -/
def markSubmitting (id : String) : Option Details → Int → LifecycleAction :=
  .transition id .submitting

/-- `markSubmitted`. -/
def markSubmitted (id : String) : Option Details → Int → LifecycleAction :=
  .transition id .submitted

/-- `markConfirming`. -/
def markConfirming (id : String) : Option Details → Int → LifecycleAction :=
  .transition id .confirming

/-- `markConfirmed`. -/
def markConfirmed (id : String) : Option Details → Int → LifecycleAction :=
  .transition id .confirmed

/-- `markCompleted`. -/
def markCompleted (id : String) : Option Details → Int → LifecycleAction :=
  .transition id .completed

end LifecycleAction

open LifecycleManager in
/-- One step of the machine. Calls come from code outside the manager; the loop of `emit` goes on
when no listener runs; and a listener that throws ends the call that notifies it.
-/
def lifecycleStep (printed : JsNumber → String) (manager : LifecycleManager)
    : LifecycleAction → Option LifecycleManager
  | .create id uid metadata now =>
      if manager.hostRuns then some (manager.create id uid metadata now) else none
  | .transition id target details now =>
      if manager.hostRuns then some (transition printed manager id target details now) else none
  | .fail id error details now =>
      if manager.hostRuns then some (fail printed manager id error details now) else none
  | .remove id =>
      if manager.hostRuns then some { manager with records := manager.records.untrack id }
      else none
  | .clear =>
      if manager.hostRuns then some { manager with records := manager.records.clear } else none
  | .onEvent filter =>
      if manager.hostRuns then some { manager with emitter := manager.emitter.subscribe filter }
      else none
  | .offEvent number =>
      if manager.hostRuns then some { manager with emitter := manager.emitter.unsubscribe number }
      else none
  | .advance =>
      match manager.stack with
      | [] => none
      | frame :: others =>
          if frame.calling then none
          else
            match manager.emitter.listeners.next frame.cursor with
            | some entry => some (manager.visit frame others entry)
            | none => some (manager.finish frame others)
  | .returns =>
      match manager.stack with
      | [] => none
      | frame :: others =>
          if frame.calling then
            some { manager with stack := { frame with calling := false } :: others }
          else none
  | .throws error =>
      match manager.stack with
      | [] => none
      | frame :: others =>
          if frame.calling then
            some { manager with stack := others, outcome := some (.error (.thrown error)) }
          else none

end Axionvera.Lifecycle
