import Axionvera.Lifecycle.TransactionLifecycleManager

/-! What each step of the lifecycle manager does. -/

namespace Axionvera.Lifecycle

open Axionvera.Foundation

variable {printed : JsNumber → String} {manager next : LifecycleManager}

/-- The action is an operation of the manager, which code outside it calls. -/
def LifecycleAction.isOperation : LifecycleAction → Bool
  | .advance | .returns | .throws _ => false
  | _ => true

/-- The arguments of a `transition` call. -/
structure TransitionCall where
  id : String
  target : TransactionLifecycleState
  details : Option Details
  now : Int

/-- The `transition` call that an action makes, also by way of `fail`. -/
def LifecycleAction.transitionCall : LifecycleAction → Option TransitionCall
  | .transition id target details now => some ⟨id, target, details, now⟩
  | .fail id error details now =>
      match spreadDetails .empty details with
      | .error _ => none
      | .ok fields => some ⟨id, .failed, some (LifecycleManager.failureDetails fields error), now⟩
  | _ => none

/-- An action that makes a `transition` call is an operation. -/
theorem LifecycleAction.isOperation_of_transitionCall {action : LifecycleAction}
    {call : TransitionCall} (calls : action.transitionCall = some call)
    : action.isOperation = true := by
  cases action with
  | transition | fail => rfl
  | create | remove | clear | onEvent | offEvent | advance | returns | throws => cases calls

/-- (LifecycleEffect printed manager action next) lists what a step can do. Operations that only
remove records are one case, and `fail` is a `transition` once its details have been read.
-/
inductive LifecycleEffect (printed : JsNumber → String) (manager : LifecycleManager)
    : LifecycleAction → LifecycleManager → Prop
  | rejected {action : LifecycleAction} (error : LifecycleError)
    (operation : action.isOperation = true) (host : manager.hostRuns = true)
    : LifecycleEffect printed manager action (manager.reject error)
  | created {action : LifecycleAction} (id : String) (metadata : Metadata) (now : Int)
    (operation : action.isOperation = true) (host : manager.hostRuns = true)
    (isNew : manager.records.has id = false)
    : LifecycleEffect printed manager action
        ({ manager with
            records :=
              manager.records.track
                (TransactionLifecycleRecord.initial id now metadata) }.emit
          manager.records.objects.length (LifecycleManager.creationEvent id now))
  | unread {action : LifecycleAction} {place : Nat} {record : TransactionLifecycleRecord}
    {target : TransactionLifecycleState} {details : Option Details} {now : Int}
    {thrown : ThrownValue}
    (calls : action.transitionCall = some ⟨record.id, target, details, now⟩)
    (host : manager.hostRuns = true)
    (found : manager.records.find record.id = some (place, record))
    (allowed : canTransition record.state target = true)
    (failed : (record.move printed target details now).2 = .error thrown)
    : LifecycleEffect printed manager action
        ({ manager with
            records :=
              manager.records.update place
                (record.move printed target details now).1 }.reject (.thrown thrown))
  | moved {action : LifecycleAction} {place : Nat} {record : TransactionLifecycleRecord}
    {target : TransactionLifecycleState} {details : Option Details} {now : Int}
    (calls : action.transitionCall = some ⟨record.id, target, details, now⟩)
    (host : manager.hostRuns = true)
    (found : manager.records.find record.id = some (place, record))
    (allowed : canTransition record.state target = true)
    (read : (record.move printed target details now).2 = .ok ())
    : LifecycleEffect printed manager action
        ({ manager with
            records :=
              manager.records.update place
                (record.move printed target details now).1 }.emit place
          (LifecycleManager.transitionEvent record.id record.state target details now
            (record.move printed target details now).1.error))
  | untracked {action : LifecycleAction} (records : TrackedRecords)
    (operation : action.isOperation = true) (host : manager.hostRuns = true)
    (same : records.objects = manager.records.objects)
    : LifecycleEffect printed manager action { manager with records := records }
  | subscribed (filter : Option LifecycleEventFilter) (host : manager.hostRuns = true)
    : LifecycleEffect printed manager (.onEvent filter)
        { manager with emitter := manager.emitter.subscribe filter }
  | unsubscribed (number : Nat) (host : manager.hostRuns = true)
    : LifecycleEffect printed manager (.offEvent number)
        { manager with emitter := manager.emitter.unsubscribe number }
  | visited {frame : EmitFrame} {others : List EmitFrame}
    {entry : LiveEntry Nat (Option LifecycleEventFilter)}
    (running : manager.stack = frame :: others) (idle : frame.calling = false)
    (ahead : manager.emitter.listeners.next frame.cursor = some entry)
    : LifecycleEffect printed manager .advance (manager.visit frame others entry)
  | finished {frame : EmitFrame} {others : List EmitFrame}
    (running : manager.stack = frame :: others) (idle : frame.calling = false)
    (passed : manager.emitter.listeners.next frame.cursor = none)
    : LifecycleEffect printed manager .advance (manager.finish frame others)
  | returned {frame : EmitFrame} {others : List EmitFrame}
    (running : manager.stack = frame :: others) (busy : frame.calling = true)
    : LifecycleEffect printed manager .returns
        { manager with stack := { frame with calling := false } :: others }
  | threw {frame : EmitFrame} {others : List EmitFrame} (error : ThrownValue)
    (running : manager.stack = frame :: others) (busy : frame.calling = true)
    : LifecycleEffect printed manager (.throws error)
        { manager with stack := others, outcome := some (.error (.thrown error)) }

/-- A `transition` call is rejected, or changes its record and then throws because the details
cannot be read, or changes it and goes on to notify the listeners.
-/
theorem transition_cases (printed : JsNumber → String) (manager : LifecycleManager) (id : String)
    (target : TransactionLifecycleState) (details : Option Details) (now : Int)
    : (∃ error,
        LifecycleManager.transition printed manager id target details now = manager.reject error
        ∧ ∀ place record,
            manager.records.find id = some (place, record)
            → canTransition record.state target = false)
      ∨ ∃ place record,
          manager.records.find id = some (place, record)
          ∧ record.id = id
          ∧ canTransition record.state target = true
          ∧ ((∃ thrown,
                (record.move printed target details now).2 = .error thrown
                ∧ LifecycleManager.transition printed manager id target details now
                  = { manager with
                        records :=
                          manager.records.update place
                            (record.move printed target details now).1 }.reject (.thrown thrown))
            ∨ (record.move printed target details now).2 = .ok ()
              ∧ LifecycleManager.transition printed manager id target details now
                = { manager with
                      records :=
                        manager.records.update place
                          (record.move printed target details now).1 }.emit place
                    (LifecycleManager.transitionEvent id record.state target details now
                      (record.move printed target details now).1.error)) := by
  unfold LifecycleManager.transition
  split
  · rename_i missing
    exact .inl ⟨_, rfl, fun place record found => by rw [missing] at found; cases found⟩
  · rename_i place record found
    unfold assertTransition
    by_cases allowed : canTransition record.state target = true
    · refine .inr ⟨place, record, found, (TrackedRecords.find_eq_some found).2.2, allowed, ?_⟩
      rw [if_pos allowed]
      dsimp only
      split
      · rename_i thrown failed
        exact .inl ⟨thrown, failed, rfl⟩
      · rename_i read
        exact .inr ⟨read, rfl⟩
    · rw [if_neg allowed]
      refine .inl ⟨_, rfl, fun other otherRecord isFound => ?_⟩
      obtain ⟨rfl, rfl⟩ : place = other ∧ record = otherRecord := by simpa [found] using isFound
      exact Bool.not_eq_true _ ▸ allowed

/-- What a `transition` call does. -/
theorem transition_effect {action : LifecycleAction} {call : TransitionCall}
    (calls : action.transitionCall = some call) (host : manager.hostRuns = true)
    : LifecycleEffect printed manager action
        (LifecycleManager.transition printed manager call.id call.target call.details
          call.now) := by
  obtain ⟨id, target, details, now⟩ := call
  rcases transition_cases printed manager id target details now with given | given
  · obtain ⟨error, result, _⟩ := given
    dsimp only
    rw [result]
    exact .rejected error (LifecycleAction.isOperation_of_transitionCall calls) host
  · obtain ⟨place, record, found, rfl, allowed, ⟨thrown, failed, result⟩ | ⟨read, result⟩⟩ := given
    · dsimp only
      rw [result]
      exact .unread calls host found allowed failed
    · dsimp only
      rw [result]
      exact .moved calls host found allowed read

/-- A `create` call is rejected, or tracks a record and goes on to notify the listeners. -/
theorem create_cases (manager : LifecycleManager) (id : Option String) (uid : String)
    (metadata : Option Details) (now : Int)
    : (∃ error, manager.create id uid metadata now = manager.reject error)
      ∨ ∃ fields,
          manager.records.has (id.getD uid) = false
          ∧ manager.create id uid metadata now
            = { manager with
                  records :=
                    manager.records.track
                      (TransactionLifecycleRecord.initial (id.getD uid) now fields) }.emit
                manager.records.objects.length
                (LifecycleManager.creationEvent (id.getD uid) now) := by
  unfold LifecycleManager.create
  dsimp only
  split
  · exact .inl ⟨_, rfl⟩
  · rename_i isNew
    split
    · exact .inl ⟨_, rfl⟩
    · exact .inr ⟨_, Bool.not_eq_true _ ▸ isNew, rfl⟩

/-- Every step has one of the effects, by cases on the action. -/
theorem lifecycleStep_effect {action : LifecycleAction}
    (taken : lifecycleStep printed manager action = some next)
    : LifecycleEffect printed manager action next := by
  have called {result : LifecycleManager}
      (taken : (if manager.hostRuns then some result else none) = some next)
      : manager.hostRuns = true ∧ result = next := by
    split at taken
    · rename_i host
      exact ⟨host, Option.some.inj taken⟩
    · cases taken
  cases action with
  | create id uid metadata now =>
      obtain ⟨host, rfl⟩ := called taken
      rcases create_cases manager id uid metadata now with given | given
      · obtain ⟨error, result⟩ := given
        rw [result]
        exact .rejected error rfl host
      · obtain ⟨fields, isNew, result⟩ := given
        rw [result]
        exact .created _ fields now rfl host isNew
  | transition id target details now =>
      obtain ⟨host, rfl⟩ := called taken
      have calls
          : (LifecycleAction.transition id target details now).transitionCall
            = some ⟨id, target, details, now⟩ :=
        rfl
      exact transition_effect calls host
  | fail id error details now =>
      obtain ⟨host, rfl⟩ := called taken
      unfold LifecycleManager.fail
      split
      · exact .rejected _ rfl host
      · rename_i fields spread
        have calls
            : (LifecycleAction.fail id error details now).transitionCall
              = some ⟨id, .failed, some (LifecycleManager.failureDetails fields error), now⟩ := by
          simp only [LifecycleAction.transitionCall, spread]
        exact transition_effect calls host
  | remove id =>
      obtain ⟨host, rfl⟩ := called taken
      exact .untracked _ rfl host rfl
  | clear =>
      obtain ⟨host, rfl⟩ := called taken
      exact .untracked _ rfl host rfl
  | onEvent filter =>
      obtain ⟨host, rfl⟩ := called taken
      exact .subscribed filter host
  | offEvent number =>
      obtain ⟨host, rfl⟩ := called taken
      exact .unsubscribed number host
  | advance =>
      cases running : manager.stack with
      | nil => simp [lifecycleStep, running] at taken
      | cons frame others =>
          cases idle : frame.calling with
          | true => simp [lifecycleStep, running, idle] at taken
          | false =>
              cases ahead : manager.emitter.listeners.next frame.cursor with
              | none =>
                  simp only [lifecycleStep, running, idle, ahead, Bool.false_eq_true, if_false,
                    Option.some.injEq] at taken
                  exact taken ▸ .finished running idle ahead
              | some entry =>
                  simp only [lifecycleStep, running, idle, ahead, Bool.false_eq_true, if_false,
                    Option.some.injEq] at taken
                  exact taken ▸ .visited running idle ahead
  | returns =>
      cases running : manager.stack with
      | nil => simp [lifecycleStep, running] at taken
      | cons frame others =>
          cases busy : frame.calling with
          | false => simp [lifecycleStep, running, busy] at taken
          | true =>
              simp only [lifecycleStep, running, busy, if_true, Option.some.injEq] at taken
              exact taken ▸ .returned running busy
  | throws error =>
      cases running : manager.stack with
      | nil => simp [lifecycleStep, running] at taken
      | cons frame others =>
          cases busy : frame.calling with
          | false => simp [lifecycleStep, running, busy] at taken
          | true =>
              simp only [lifecycleStep, running, busy, if_true, Option.some.injEq] at taken
              exact taken ▸ .threw error running busy

@[simp]
theorem visit_emitter (frame : EmitFrame) (others : List EmitFrame)
    (entry : LiveEntry Nat (Option LifecycleEventFilter))
    : (manager.visit frame others entry).emitter = manager.emitter := by
  unfold LifecycleManager.visit
  split <;> rfl

@[simp]
theorem visit_records (frame : EmitFrame) (others : List EmitFrame)
    (entry : LiveEntry Nat (Option LifecycleEventFilter))
    : (manager.visit frame others entry).records = manager.records := by
  unfold LifecycleManager.visit
  split <;> rfl

/-- Coming to a listener moves the loop on, and leaves the others as they are. -/
theorem visit_stack (manager : LifecycleManager) (frame : EmitFrame) (others : List EmitFrame)
    (entry : LiveEntry Nat (Option LifecycleEventFilter))
    : ∃ calling,
        (manager.visit frame others entry).stack
        = { frame with cursor := entry.stamp + 1, calling := calling } :: others := by
  unfold LifecycleManager.visit
  split
  · exact ⟨true, rfl⟩
  · exact ⟨frame.calling, rfl⟩

/-- A listener stays until it is unsubscribed. -/
theorem LifecycleEffect.mem_listeners_of_mem {action : LifecycleAction}
    (effect : LifecycleEffect printed manager action next)
    {entry : LiveEntry Nat (Option LifecycleEventFilter)}
    (member : entry ∈ manager.emitter.listeners.entries) (stays : action ≠ .offEvent entry.key)
    : entry ∈ next.emitter.listeners.entries := by
  cases effect with
  | subscribed filter host => exact LifecycleEventEmitter.mem_subscribe.mpr (.inl member)
  | unsubscribed number host =>
      refine LifecycleEventEmitter.mem_unsubscribe.mpr ⟨member, ?_⟩
      intro same
      exact stays (same ▸ rfl)
  | visited running idle ahead => simpa using member
  | rejected | created | unread | moved | untracked | finished | returned | threw => exact member

/-- What a loop over the listeners relies on from one state to a later one: new listeners come
behind all others, stamps are not given twice, and what listeners have received stays recorded.
-/
structure Onwards (manager next : LifecycleManager) : Prop where
  listeners
    : ∀ entry ∈ next.emitter.listeners.entries,
        entry ∈ manager.emitter.listeners.entries
        ∨ entry.stamp = manager.emitter.listeners.nextStamp
  nextStamp : manager.emitter.listeners.nextStamp ≤ next.emitter.listeners.nextStamp
  deliveries : manager.deliveries <+: next.deliveries

/-- Every step goes onwards, by cases on its effect. -/
theorem LifecycleEffect.onwards {action : LifecycleAction}
    (effect : LifecycleEffect printed manager action next)
    : Onwards manager next := by
  cases effect with
  | subscribed filter host =>
      refine ⟨fun entry member => ?_, LiveMap.nextStamp_le_set _ _ _, List.prefix_rfl⟩
      rcases LifecycleEventEmitter.mem_subscribe.mp member with old | isNew
      · exact .inl old
      · exact .inr (congrArg LiveEntry.stamp isNew)
  | unsubscribed number host =>
      refine ⟨fun entry member => .inl ?_, Nat.le_refl _, List.prefix_rfl⟩
      exact (LifecycleEventEmitter.mem_unsubscribe.mp member).1
  | visited running idle ahead =>
      refine ⟨fun entry member => .inl (by simpa using member), by simp, ?_⟩
      unfold LifecycleManager.visit
      split
      · exact List.prefix_append _ _
      · exact List.prefix_rfl
  | rejected | created | unread | moved | untracked | finished | returned | threw =>
      exact ⟨fun entry member => .inl member, Nat.le_refl _, List.prefix_rfl⟩

end Axionvera.Lifecycle
