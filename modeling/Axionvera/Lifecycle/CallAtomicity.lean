import Axionvera.Lifecycle.LifecycleSteps

/-! A `create` or `transition` call changes its record before it notifies the listeners, so that it
is atomic exactly when nothing throws afterwards.
-/

namespace Axionvera.Lifecycle

open Axionvera.Foundation

variable {printed : JsNumber → String} {manager begun final : LifecycleManager}

/-- The action is one of the calls that notify listeners. -/
def LifecycleAction.isCall : LifecycleAction → Bool
  | .create _ _ _ _ | .transition _ _ _ _ => true
  | _ => false

/-- The last call threw. -/
def LifecycleManager.threw (manager : LifecycleManager) : Bool :=
  match manager.outcome with
  | some (.error _) => true
  | _ => false

/-- The actions lead from a state in which a call made at the depth has started to the first state
in which it has ended.
-/
structure CallEnds (printed : JsNumber → String) (depth : Nat) (begun : LifecycleManager)
    (actions : List LifecycleAction) (final : LifecycleManager) : Prop where
  reached : run (lifecycleStep printed) begun actions = some final
  running
    : stepsSatisfy (lifecycleStep printed) (fun state _ => depth < state.stack.length) begun actions
  ended : final.stack.length = depth

/-- Every listener whose filter matches has received the event of the frame since the call was
made in `manager`, unless it was unsubscribed.
-/
def allReceived (manager final : LifecycleManager) (frame : EmitFrame) : Prop :=
  ∀ entry ∈ final.emitter.listeners.entries,
    matchesFilter frame.event.transactionId frame.event.type entry.value = true
    → ⟨entry.key, frame.place, frame.event⟩ ∈ final.deliveries.drop manager.deliveries.length

/-- A call made in `manager` is atomic: it leaves the tracked records as they were or notifies all
listeners, and one that has been committed is neither rejected nor hidden from a listener.
-/
structure AtomicCall (manager begun final : LifecycleManager) : Prop where
  unchanged : final.threw = true → ∀ id, final.records.get id = manager.records.get id
  received
    : final.threw = false
      → ∀ frame, begun.stack = frame :: manager.stack → allReceived manager final frame
  accepted : ∀ frame, begun.stack = frame :: manager.stack → final.threw = false
  shown : ∀ frame, begun.stack = frame :: manager.stack → allReceived manager final frame

/-- The details of a `transition` call that is allowed can be read. -/
def callReadable (printed : JsNumber → String) (manager : LifecycleManager)
    : LifecycleAction → Prop
  | .transition id target details _ =>
      ∀ place record,
        manager.records.find id = some (place, record)
        → canTransition record.state target = true
        → detailsReadable printed target details = true
  | _ => True

/-- The action is not that a listener throws which a call made at the depth has called. -/
def listenersReturn (depth : Nat) (manager : LifecycleManager) : LifecycleAction → Prop
  | .throws _ => manager.stack.length ≠ depth + 1
  | _ => True

instance (depth : Nat) (manager : LifecycleManager) : DecidablePred (listenersReturn depth manager)
  | .throws _ => inferInstanceAs (Decidable (_ ≠ _))
  | .create _ _ _ _ | .transition _ _ _ _ | .fail _ _ _ _ | .remove _ | .clear | .onEvent _
  | .offEvent _ | .advance | .returns => .isTrue trivial

-----------------------------------------------------------------------------------------
-- While a call notifies the listeners
-----------------------------------------------------------------------------------------

/-- The call made in `manager` is still notifying listeners of the frame: its loop is `current`,
behind the loops of calls that its listeners have made, and every listener it has passed has
received the event.
-/
structure InCall (manager : LifecycleManager) (frame : EmitFrame) (inner : List EmitFrame)
    (current : EmitFrame) (state : LifecycleManager) : Prop where
  stack : state.stack = inner ++ current :: manager.stack
  place : current.place = frame.place
  event : current.event = frame.event
  waiting : inner ≠ [] → current.calling = true
  cursor : current.cursor ≤ state.emitter.listeners.nextStamp
  recorded : manager.deliveries.length ≤ state.deliveries.length
  passed
    : ∀ entry ∈ state.emitter.listeners.entries,
        entry.stamp < current.cursor
        → matchesFilter frame.event.transactionId frame.event.type entry.value = true
        → ⟨entry.key, frame.place, frame.event⟩ ∈ state.deliveries.drop manager.deliveries.length

variable {frame current : EmitFrame} {inner : List EmitFrame} {state next : LifecycleManager}
  {action : LifecycleAction}

/-- Code outside the manager runs only while the loop of the call waits for a listener. -/
theorem InCall.calling (inCall : InCall manager frame inner current state)
    (host : state.hostRuns = true)
    : current.calling = true := by
  cases inner with
  | nil =>
      have running := inCall.stack
      simpa [LifecycleManager.hostRuns, running] using host
  | cons first others => exact inCall.waiting (by simp)

/-- A step that leaves the loop of the call alone keeps it going. -/
theorem InCall.keep {after : List EmitFrame} (inCall : InCall manager frame inner current state)
    (onwards : Onwards state next) (stack : next.stack = after ++ current :: manager.stack)
    (waiting : after ≠ [] → current.calling = true)
    : InCall manager frame after current next where
  stack := stack
  place := inCall.place
  event := inCall.event
  waiting := waiting
  cursor := inCall.cursor.trans onwards.nextStamp
  recorded := inCall.recorded.trans onwards.deliveries.length_le
  passed := by
    intro entry member behind matching
    rcases onwards.listeners entry member with old | isNew
    · have received := inCall.passed entry old behind matching
      obtain ⟨more, grown⟩ := onwards.deliveries
      rw [← grown, List.drop_append_of_le_length inCall.recorded]
      exact List.mem_append_left _ received
    · -- A listener that has just subscribed is behind all that the loop has passed.
      have ahead := inCall.cursor
      omega

/-- The loop of the call comes to a listener, and calls it if its filter matches. -/
theorem InCall.visit {entry : LiveEntry Nat (Option LifecycleEventFilter)}
    (inCall : InCall manager frame [] current state)
    (ahead : state.emitter.listeners.next current.cursor = some entry)
    : ∃ after, InCall manager frame [] after (state.visit current manager.stack entry) := by
  obtain ⟨isListener, notPassed, least⟩ := LiveMap.next_eq_some_iff.mp ahead
  have bounded := state.emitter.listeners.bounded entry isListener
  have passedBefore {other : LiveEntry Nat (Option LifecycleEventFilter)}
      (member : other ∈ state.emitter.listeners.entries) (behind : other.stamp < entry.stamp + 1)
      : other.stamp < current.cursor ∨ other = entry := by
    by_cases earlier : other.stamp < current.cursor
    · exact .inl earlier
    · have above := least other member (Nat.le_of_not_lt earlier)
      exact .inr (LiveMap.eq_of_stamp member isListener (by omega))
  unfold LifecycleManager.visit
  rw [inCall.place, inCall.event]
  split
  · refine ⟨_, rfl, rfl, rfl, by simp, bounded, ?_, ?_⟩
    · exact inCall.recorded.trans (by simp)
    · intro other member behind matching
      rw [List.drop_append_of_le_length inCall.recorded, List.mem_append]
      rcases passedBefore member behind with earlier | rfl
      · exact .inl (inCall.passed other member earlier matching)
      · exact .inr (List.mem_singleton.mpr rfl)
  · rename_i unmatched
    refine ⟨_, rfl, rfl, rfl, by simp, bounded, inCall.recorded, ?_⟩
    intro other member behind matching
    rcases passedBefore member behind with earlier | rfl
    · exact inCall.passed other member earlier matching
    · exact absurd matching unmatched

/-- (AfterStep manager frame state action next) tells how a call goes on: its loop is still running,
has passed all listeners, or is ended because a listener that it has called throws.
-/
inductive AfterStep (manager : LifecycleManager) (frame : EmitFrame) (state : LifecycleManager)
    : LifecycleAction → LifecycleManager → Prop
  | goesOn {action : LifecycleAction} {next : LifecycleManager} (inner : List EmitFrame)
    (current : EmitFrame) (inCall : InCall manager frame inner current next)
    (quiet : listenersReturn manager.stack.length state action)
    : AfterStep manager frame state action next
  | completes {next : LifecycleManager} (ended : next.stack = manager.stack)
    (returned : next.threw = false) (received : allReceived manager next frame)
    : AfterStep manager frame state .advance next
  | fails {next : LifecycleManager} {error : ThrownValue} (ended : next.stack = manager.stack)
    (threw : next.threw = true) (own : state.stack.length = manager.stack.length + 1)
    : AfterStep manager frame state (.throws error) next

/-- Operations are not what a listener throws. -/
theorem listenersReturn_of_isOperation {depth : Nat} (operation : action.isOperation = true)
    : listenersReturn depth state action := by
  cases action with
  | throws error => cases operation
  | _ => trivial

/-- An operation that a listener calls leaves the loop of the call waiting, also when it starts a
loop of its own.
-/
theorem InCall.operate (inCall : InCall manager frame inner current state)
    (onwards : Onwards state next) (operation : action.isOperation = true)
    (host : state.hostRuns = true) (started : List EmitFrame)
    (stack : next.stack = started ++ state.stack)
    : AfterStep manager frame state action next := by
  refine .goesOn (started ++ inner) current ?_ (listenersReturn_of_isOperation operation)
  refine inCall.keep onwards ?_ fun _ => inCall.calling host
  rw [stack, inCall.stack, List.append_assoc]

/-- A step of a loop inside the call replaces what is left of that loop. -/
theorem InCall.inside {first top : EmitFrame} {rest others : List EmitFrame}
    (inCall : InCall manager frame (first :: rest) current state) (onwards : Onwards state next)
    (running : state.stack = top :: others) (after : List EmitFrame)
    (stack : next.stack = after ++ others)
    : AfterStep manager frame state action next := by
  have inStack := inCall.stack
  rw [running] at inStack
  obtain ⟨rfl, rfl⟩ : top = first ∧ others = rest ++ current :: manager.stack := by
    simpa using inStack
  refine .goesOn (after ++ rest) current ?_ ?_
  · refine inCall.keep onwards ?_ fun _ => inCall.waiting (by simp)
    rw [stack, List.append_assoc]
  · cases action with
    | throws error =>
        simp only [listenersReturn, running, List.length_cons, List.length_append]
        omega
    | _ => trivial

/-- What a step does while a call is running, by cases on its effect, and on whether the running
loop is that of the call or one inside it.
-/
theorem InCall.step (inCall : InCall manager frame inner current state)
    (effect : LifecycleEffect printed state action next)
    : AfterStep manager frame state action next := by
  have onwards := effect.onwards
  have outermost {top : EmitFrame} {others : List EmitFrame} (isCall : inner = [])
      (running : state.stack = top :: others)
      : top = current ∧ others = manager.stack := by
    have inStack := inCall.stack
    rw [running, isCall] at inStack
    simpa using inStack
  cases effect with
  | rejected error operation host => exact inCall.operate onwards operation host [] rfl
  | created id metadata now operation host isNew =>
      exact inCall.operate onwards operation host [_] rfl
  | unread calls host found allowed failed =>
      exact inCall.operate onwards (LifecycleAction.isOperation_of_transitionCall calls) host [] rfl
  | moved calls host found allowed read =>
      have operation := LifecycleAction.isOperation_of_transitionCall calls
      exact inCall.operate onwards operation host [_] rfl
  | untracked records operation host same => exact inCall.operate onwards operation host [] rfl
  | subscribed filter host => exact inCall.operate onwards rfl host [] rfl
  | unsubscribed number host => exact inCall.operate onwards rfl host [] rfl
  | @visited top others entry running idle ahead =>
      cases inner with
      | nil =>
          obtain ⟨rfl, rfl⟩ := outermost rfl running
          obtain ⟨after, still⟩ := inCall.visit ahead
          exact .goesOn [] after still trivial
      | cons first rest =>
          obtain ⟨calling, stack⟩ := visit_stack state top others entry
          exact inCall.inside onwards running [_] stack
  | @finished top others running idle passed =>
      cases inner with
      | nil =>
          obtain ⟨rfl, rfl⟩ := outermost rfl running
          refine .completes rfl ?_ ?_
          · unfold LifecycleManager.threw LifecycleManager.finish
            cases state.records.objects[top.place]? <;> rfl
          · intro entry member matching
            have behind := LiveMap.next_eq_none_iff.mp passed entry member
            exact inCall.passed entry member behind matching
      | cons first rest =>
          exact inCall.inside onwards running [] rfl
  | @returned top others running busy =>
      cases inner with
      | nil =>
          obtain ⟨rfl, rfl⟩ := outermost rfl running
          refine .goesOn [] { top with calling := false } ?_ trivial
          exact ⟨rfl, inCall.place, inCall.event, by simp, inCall.cursor, inCall.recorded,
            inCall.passed⟩
      | cons first rest =>
          exact inCall.inside onwards running [_] rfl
  | @threw top others error running busy =>
      cases inner with
      | nil =>
          obtain ⟨rfl, rfl⟩ := outermost rfl running
          exact .fails rfl rfl (by simp [running])
      | cons first rest =>
          exact inCall.inside onwards running [] rfl

/-- A call that is notifying listeners throws exactly when one of those that it calls does, and
otherwise all have received its event, by induction on the actions.
-/
theorem InCall.ends {actions : List LifecycleAction}
    (inCall : InCall manager frame inner current state)
    (ends : CallEnds printed manager.stack.length state actions final)
    : (stepsSatisfy (lifecycleStep printed) (listenersReturn manager.stack.length) state actions
        ↔ final.threw = false)
      ∧ (final.threw = false → allReceived manager final frame) := by
  induction actions generalizing state inner current with
  | nil =>
      obtain rfl := Option.some.inj ends.reached
      have ended := ends.ended
      rw [inCall.stack, List.length_append, List.length_cons] at ended
      omega
  | cons action rest ih =>
      obtain ⟨next, taken, later⟩ := run_cons_iff.mp ends.reached
      have running := ends.running.2 next taken
      have last (ended : next.stack = manager.stack) : rest = [] := by
        cases rest with
        | nil => rfl
        | cons first others =>
            have deeper : manager.stack.length < next.stack.length := running.1
            rw [ended] at deeper
            exact absurd deeper (Nat.lt_irrefl _)
      cases inCall.step (lifecycleStep_effect taken) with
      | goesOn _ _ still quiet =>
          obtain ⟨throws, received⟩ := ih still ⟨later, running, ends.ended⟩
          refine ⟨?_, received⟩
          rw [← throws]
          constructor
          · intro all
            exact all.2 next taken
          · intro all
            refine ⟨quiet, fun other same => ?_⟩
            obtain rfl := Option.some.inj (taken.symm.trans same)
            exact all
      | completes ended returned received =>
          obtain rfl := last ended
          obtain rfl := Option.some.inj later
          exact ⟨⟨fun _ => returned, fun _ => ⟨trivial, fun _ _ => trivial⟩⟩, fun _ => received⟩
      | fails ended threw own =>
          obtain rfl := last ended
          obtain rfl := Option.some.inj later
          refine ⟨⟨fun quiet => absurd own quiet.1, fun returned => ?_⟩, fun returned => ?_⟩
          · rw [threw] at returned
            cases returned
          · rw [threw] at returned
            cases returned

-----------------------------------------------------------------------------------------
-- The whole call
-----------------------------------------------------------------------------------------

/-- A call that has started to notify listeners is atomic exactly when none that it calls throws. -/
theorem atomicCall_iff_of_notifies {actions : List LifecycleAction}
    (ends : CallEnds printed manager.stack.length begun actions final)
    (inCall : InCall manager frame [] frame begun)
    : AtomicCall manager begun final
      ↔ stepsSatisfy (lifecycleStep printed) (listenersReturn manager.stack.length) begun
          actions := by
  obtain ⟨throws, received⟩ := inCall.ends ends
  have isFrame {other : EmitFrame} (running : begun.stack = other :: manager.stack)
      : other = frame := by
    have started := inCall.stack
    rw [running] at started
    simpa using started
  rw [throws]
  constructor
  · intro atomic
    exact atomic.accepted frame inCall.stack
  · intro returned
    refine ⟨fun threw => ?_, ?_, fun _ _ => returned, ?_⟩
    · rw [returned] at threw
      cases threw
    · intro _ other running
      exact isFrame running ▸ received returned
    · intro other running
      exact isFrame running ▸ received returned

/-- A call that throws before it notifies anybody ends at once. -/
theorem callEnds_of_rejected {actions : List LifecycleAction}
    (ends : CallEnds printed manager.stack.length begun actions final)
    (silent : begun.stack = manager.stack)
    : actions = [] ∧ final = begun := by
  cases actions with
  | nil => exact ⟨rfl, (Option.some.inj ends.reached).symm⟩
  | cons action rest =>
      have deeper : manager.stack.length < begun.stack.length := ends.running.1
      rw [silent] at deeper
      exact absurd deeper (Nat.lt_irrefl _)

/-- A call that throws before it notifies anybody is atomic exactly when it leaves the records as
they are.
-/
theorem atomicCall_iff_of_rejected (manager : LifecycleManager) (records : TrackedRecords)
    (error : LifecycleError)
    : AtomicCall manager ({ manager with records := records }.reject error)
        ({ manager with records := records }.reject error)
      ↔ ∀ id, records.get id = manager.records.get id := by
  have noFrame {frame : EmitFrame} : manager.stack ≠ frame :: manager.stack := by
    intro running
    have lengths := congrArg List.length running
    simp at lengths
  constructor
  · intro atomic
    exact atomic.unchanged rfl
  · intro same
    exact ⟨fun _ => same, fun _ _ running => absurd running noFrame,
      fun _ running => absurd running noFrame, fun _ running => absurd running noFrame⟩

/-- A record that has been moved is not as it was: its history is longer. -/
theorem get_update_move_ne {records : TrackedRecords} {id : String} {place : Nat}
    {record : TransactionLifecycleRecord} {target : TransactionLifecycleState}
    {details : Option Details} {now : Int} (found : records.find id = some (place, record))
    : (records.update place (record.move printed target details now).1).get id
      ≠ records.get id := by
  have moved : TransactionLifecycleRecord.Moved record target details now
      (record.move printed target details now).1 :=
    TransactionLifecycleRecord.move_moved
  have before : records.get id = some record := by rw [TrackedRecords.get, found]; rfl
  rw [TrackedRecords.get_update found moved.id, before]
  intro same
  have longer := congrArg List.length moved.history
  rw [Option.some.inj same] at longer
  simp at longer

/-- The loop of a call starts with its frame, before which no listener has been passed. -/
theorem inCall_emit (records : TrackedRecords) (place : Nat) (event : LifecycleEvent)
    : InCall manager { place := place, event := event } [] { place := place, event := event }
        ({ manager with records := records }.emit place event) :=
  ⟨rfl, rfl, rfl, by simp, Nat.zero_le _, Nat.le_refl _, fun _ _ behind => absurd behind (by simp)⟩

/-- A `create` or `transition` call, which listeners may interrupt with calls of their own, is
atomic exactly when its details can be read and no listener that it calls throws. Witness: cases
on how the call starts, and what is kept while it notifies the listeners.
-/
theorem call_atomic_iff {printed : JsNumber → String} {manager begun final : LifecycleManager}
    {call : LifecycleAction} {actions : List LifecycleAction} (isCall : call.isCall = true)
    (started : lifecycleStep printed manager call = some begun)
    (ends : CallEnds printed manager.stack.length begun actions final)
    : AtomicCall manager begun final
      ↔ callReadable printed manager call
        ∧ stepsSatisfy (lifecycleStep printed) (listenersReturn manager.stack.length) begun
            actions := by
  have result {called : LifecycleManager}
      (started : (if manager.hostRuns then some called else none) = some begun)
      : called = begun := by
    split at started
    · exact Option.some.inj started
    · cases started
  cases call with
  | create id uid metadata now =>
      obtain rfl := result started
      have readable : callReadable printed manager (.create id uid metadata now) := trivial
      rw [and_iff_right readable]
      rcases create_cases manager id uid metadata now with given | given
      · obtain ⟨error, rejected⟩ := given
        rw [rejected] at ends ⊢
        obtain ⟨rfl, rfl⟩ := callEnds_of_rejected ends rfl
        refine (atomicCall_iff_of_rejected manager manager.records error).trans ?_
        exact ⟨fun _ => trivial, fun _ _ => rfl⟩
      · obtain ⟨fields, isNew, created⟩ := given
        rw [created] at ends ⊢
        exact atomicCall_iff_of_notifies ends (inCall_emit _ _ _)
  | transition id target details now =>
      obtain rfl := result started
      rcases transition_cases printed manager id target details now with given | given
      · obtain ⟨error, rejected, refused⟩ := given
        rw [rejected] at ends ⊢
        obtain ⟨rfl, rfl⟩ := callEnds_of_rejected ends rfl
        refine (atomicCall_iff_of_rejected manager manager.records error).trans ?_
        refine ⟨fun _ => ⟨fun place record found allowed => ?_, trivial⟩, fun _ _ => rfl⟩
        rw [refused place record found] at allowed
        cases allowed
      · obtain ⟨place, record, found, isId, allowed, notified⟩ := given
        rcases notified with ⟨thrown, failed, moved⟩ | ⟨read, moved⟩
        · rw [moved] at ends ⊢
          obtain ⟨rfl, rfl⟩ := callEnds_of_rejected ends rfl
          refine (atomicCall_iff_of_rejected manager _ _).trans ?_
          constructor
          · intro same
            exact absurd (same id) (get_update_move_ne found)
          · intro given
            have readable := given.1 place record found allowed
            have read :=
              (TransactionLifecycleRecord.move_eq_ok_iff record target details now).mpr readable
            rw [failed] at read
            cases read
        · rw [moved] at ends ⊢
          refine (atomicCall_iff_of_notifies ends (inCall_emit _ _ _)).trans ?_
          refine (and_iff_right ?_).symm
          intro other otherRecord isFound _
          obtain ⟨rfl, rfl⟩ : place = other ∧ record = otherRecord := by
            simpa [found] using isFound
          exact (TransactionLifecycleRecord.move_eq_ok_iff record target details now).mp read
  | fail | remove | clear | onEvent | offEvent | advance | returns | throws => cases isCall

/-- Two listeners, the first of which moves a transaction on as soon as it is created. -/
private def movedWhenCreated : List LifecycleAction :=
  [.advance, .markSimulating "tx" none 1, .advance, .returns, .advance, .returns, .advance,
    .returns, .advance, .returns, .advance]

/-- The creation of a transaction whose listeners use the manager again but do not throw. -/
theorem call_atomic_iff_movedWhenCreated
    : ∃ manager begun final,
        run (lifecycleStep fun _ => "") .initial [.onEvent none, .onEvent none] = some manager
        ∧ lifecycleStep (fun _ => "") manager (.create (some "tx") "" none 0) = some begun
        ∧ CallEnds (fun _ => "") manager.stack.length begun movedWhenCreated final
        ∧ AtomicCall manager begun final := by
  refine ⟨_, _, _, rfl, rfl, ⟨rfl, by decide, rfl⟩, ?_⟩
  have isCall : (LifecycleAction.create (some "tx") "" none 0).isCall = true := rfl
  refine Iff.mpr
    (call_atomic_iff isCall
      (show lifecycleStep (fun _ => "") _ _ = _ from rfl)
      (show CallEnds _ _ _ movedWhenCreated _ from ⟨rfl, by decide, rfl⟩))
    ⟨trivial, by decide⟩

/-- Two listeners, the first of which throws: the creation looks rejected although the transaction
is tracked, and the second listener does not see it.
-/
theorem call_not_atomic_throwing
    : ∃ manager begun final,
        run (lifecycleStep fun _ => "") .initial [.onEvent none, .onEvent none] = some manager
        ∧ lifecycleStep (fun _ => "") manager (.create (some "tx") "" none 0) = some begun
        ∧ CallEnds (fun _ => "") manager.stack.length begun [.advance, .throws .undefined] final
        ∧ final.threw = true
        ∧ (final.records.get "tx").isSome = true
        ∧ final.deliveries.map Delivery.listener = [1]
        ∧ ¬ AtomicCall manager begun final := by
  refine ⟨_, _, _, rfl, rfl, ⟨rfl, by decide, rfl⟩, rfl, rfl, rfl, fun atomic => ?_⟩
  have same := congrArg Option.isSome (atomic.unchanged rfl "tx")
  exact Bool.noConfusion same

end Axionvera.Lifecycle
