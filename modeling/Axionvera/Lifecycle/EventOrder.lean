import Axionvera.Lifecycle.LifecycleSteps

/-! Listeners receive the events of a transaction in the order of its history, unless a listener
moves the transaction on before others have seen the last event.
-/

namespace Axionvera.Lifecycle

open Axionvera.Foundation

/-- The history entry that an event reports. -/
def LifecycleEvent.entry (event : LifecycleEvent) : LifecycleTransitionRecord :=
  ⟨event.previousState, event.state, event.timestamp, event.details⟩

/-- The type of the event that reports a history entry. -/
def LifecycleTransitionRecord.type (entry : LifecycleTransitionRecord) : LifecycleEventType :=
  match entry.source with
  | none => .created
  | some _ => transitionType entry.target

/-- The events of the transaction at a place that a listener has received since the start. -/
def receivedSince (start manager : LifecycleManager)
    (listener : LiveEntry Nat (Option LifecycleEventFilter)) (place : Nat)
    : List LifecycleEvent :=
  ((manager.deliveries.drop start.deliveries.length).filter fun delivery =>
    delivery.listener = listener.key && delivery.place = place).map Delivery.event

/-- The length of the history of the transaction at a place, if there is one. -/
def historyLength (manager : LifecycleManager) (place : Nat) : Nat :=
  match manager.records.objects[place]? with
  | none => 0
  | some record => record.history.length

/-- The history of the transaction at a place since the start, as far as it matches the filter of a
listener.
-/
def happenedSince (start manager : LifecycleManager)
    (listener : LiveEntry Nat (Option LifecycleEventFilter)) (place : Nat)
    : List LifecycleTransitionRecord :=
  match manager.records.objects[place]? with
  | none => []
  | some record =>
      (record.history.drop (historyLength start place)).filter fun entry =>
        matchesFilter record.id entry.type listener.value

/-- A listener has received the matching events of every transaction exactly once and in the order
of its history.
-/
def receivesInOrder (start manager : LifecycleManager)
    (listener : LiveEntry Nat (Option LifecycleEventFilter)) : Prop :=
  ∀ place,
    (receivedSince start manager listener place).map LifecycleEvent.entry
    = happenedSince start manager listener place

/-- The loop has yet to come to a listener, for an event of the transaction at the place. -/
def EmitFrame.awaits (frame : EmitFrame) (listener : LiveEntry Nat (Option LifecycleEventFilter))
    (place : Nat) : Bool :=
  frame.place = place
  && frame.cursor ≤ listener.stamp
  && matchesFilter frame.event.transactionId frame.event.type listener.value

/-- The events of the transaction at a place that a listener has yet to receive. -/
def pendingEvents (stack : List EmitFrame)
    (listener : LiveEntry Nat (Option LifecycleEventFilter)) (place : Nat)
    : List LifecycleEvent :=
  (stack.filter fun frame => frame.awaits listener place).map EmitFrame.event

/-- The action neither unsubscribes the listener nor is what a listener throws. -/
def keepsListener (listener : LiveEntry Nat (Option LifecycleEventFilter))
    : LifecycleAction → Bool
  | .offEvent number => number ≠ listener.key
  | .throws _ => false
  | _ => true

/-- An action that moves a transaction on does so with details that can be read, and not before the
listener has received the last event of the transaction, if both events are for it.
-/
def movesInTurn (printed : JsNumber → String)
    (listener : LiveEntry Nat (Option LifecycleEventFilter)) (manager : LifecycleManager)
    (action : LifecycleAction) : Prop :=
  ∀ call ∈ action.transitionCall, ∀ found ∈ manager.records.find call.id,
    canTransition found.2.state call.target = true
    → detailsReadable printed call.target call.details = true
      ∧ (matchesFilter call.id (transitionType call.target) listener.value = true
        → pendingEvents manager.stack listener found.1 = [])

instance (printed : JsNumber → String) (listener : LiveEntry Nat (Option LifecycleEventFilter))
    (manager : LifecycleManager) : DecidablePred (movesInTurn printed listener manager) :=
  fun action =>
    inferInstanceAs (Decidable (∀ call ∈ action.transitionCall, ∀ found ∈ _, _ → _ ∧ (_ → _ = _)))

variable {printed : JsNumber → String} {start manager next : LifecycleManager}
  {listener : LiveEntry Nat (Option LifecycleEventFilter)} {place : Nat}

/-- What a running loop adds to the events that are pending. -/
theorem pendingEvents_cons (frame : EmitFrame) (others : List EmitFrame)
    : pendingEvents (frame :: others) listener place
      = if frame.awaits listener place then frame.event :: pendingEvents others listener place
        else pendingEvents others listener place := by
  unfold pendingEvents
  rw [List.filter_cons]
  split <;> rfl

/-- What the listener has received and what it has yet to receive are together what has happened,
and it waits for one event of a transaction at most.
-/
structure InOrder (start : LifecycleManager)
    (listener : LiveEntry Nat (Option LifecycleEventFilter)) (place : Nat)
    (manager : LifecycleManager) : Prop where
  subscribed : listener ∈ manager.emitter.listeners.entries
  recorded : start.deliveries.length ≤ manager.deliveries.length
  grown : historyLength start place ≤ historyLength manager place
  known : ∀ frame ∈ manager.stack, frame.place < manager.records.objects.length
  order
    : (receivedSince start manager listener place
        ++ pendingEvents manager.stack listener place).map LifecycleEvent.entry
      = happenedSince start manager listener place
  single : (pendingEvents manager.stack listener place).length ≤ 1

/-- What the listener has received does not depend on anything but the record of it. -/
theorem receivedSince_congr (same : next.deliveries = manager.deliveries)
    : receivedSince start next listener place = receivedSince start manager listener place := by
  unfold receivedSince
  rw [same]

/-- What has happened depends on the record at the place only. -/
theorem happenedSince_congr
    (same : next.records.objects[place]? = manager.records.objects[place]?)
    : happenedSince start next listener place = happenedSince start manager listener place := by
  unfold happenedSince
  rw [same]

/-- The length of a history depends on the record at the place only. -/
theorem historyLength_congr
    (same : next.records.objects[place]? = manager.records.objects[place]?)
    : historyLength next place = historyLength manager place := by
  unfold historyLength
  rw [same]

/-- The order is kept when only loops go on that do not concern the listener. -/
theorem InOrder.keep (inOrder : InOrder start listener place manager)
    (subscribed : listener ∈ next.emitter.listeners.entries)
    (deliveries : next.deliveries = manager.deliveries)
    (objects : next.records.objects = manager.records.objects)
    (known : ∀ frame ∈ next.stack, frame.place < manager.records.objects.length)
    (pending
      : pendingEvents next.stack listener place = pendingEvents manager.stack listener place)
    : InOrder start listener place next where
  subscribed := subscribed
  recorded := by rw [deliveries]; exact inOrder.recorded
  grown := by
    rw [historyLength_congr (congrArg (fun list => list[place]?) objects)]
    exact inOrder.grown
  known := by rw [objects]; exact known
  order := by
    rw [receivedSince_congr deliveries, pending,
      happenedSince_congr (congrArg (fun list => list[place]?) objects)]
    exact inOrder.order
  single := by rw [pending]; exact inOrder.single

/-- A delivery adds to what the listener has received if it is to it and about the transaction. -/
theorem receivedSince_append {delivery : Delivery}
    (recorded : start.deliveries.length ≤ manager.deliveries.length)
    (delivered : next.deliveries = manager.deliveries ++ [delivery])
    : receivedSince start next listener place
      = receivedSince start manager listener place
        ++ if delivery.listener = listener.key ∧ delivery.place = place then [delivery.event]
          else [] := by
  unfold receivedSince
  rw [delivered, List.drop_append_of_le_length recorded, List.filter_append, List.map_append]
  congr 1
  by_cases isIts : delivery.listener = listener.key ∧ delivery.place = place
  · simp [isIts]
  · rw [if_neg isIts]
    simpa using isIts

/-- A loop comes to the listener itself: it receives the event that was pending, if the event is one
of the transaction and matches.
-/
private theorem InOrder.visit_self {frame : EmitFrame} {others : List EmitFrame}
    (inOrder : InOrder start listener place manager) (running : manager.stack = frame :: others)
    (ahead : frame.cursor ≤ listener.stamp)
    : InOrder start listener place (manager.visit frame others listener) := by
  have before := inOrder.order
  have single := inOrder.single
  have known := inOrder.known
  rw [running, pendingEvents_cons] at before single
  rw [running, List.forall_mem_cons] at known
  have passed (calling : Bool)
      : pendingEvents ({ frame with cursor := listener.stamp + 1, calling := calling } :: others)
          listener place
        = pendingEvents others listener place := by
    rw [pendingEvents_cons, if_neg]
    simp [EmitFrame.awaits]
  by_cases matching
      : matchesFilter frame.event.transactionId frame.event.type listener.value = true
  · have awaited : frame.awaits listener place = true ↔ frame.place = place := by
      simp [EmitFrame.awaits, ahead, matching]
    unfold LifecycleManager.visit
    rw [if_pos matching]
    refine ⟨inOrder.subscribed, inOrder.recorded.trans (by simp), inOrder.grown,
      List.forall_mem_cons.mpr known, ?_, ?_⟩
    · dsimp only
      rw [passed, receivedSince_append inOrder.recorded rfl]
      by_cases here : frame.place = place
      · rw [if_pos (awaited.mpr here)] at before single
        have none : pendingEvents others listener place = [] := by
          have short : (pendingEvents others listener place).length ≤ 0 := by simpa using single
          exact List.length_eq_zero_iff.mp (Nat.le_zero.mp short)
        rw [none] at before ⊢
        rw [if_pos ⟨rfl, here⟩, List.append_nil]
        exact before
      · rw [if_neg (mt awaited.mp here)] at before
        rw [if_neg (fun isIts => here isIts.2), List.append_nil]
        exact before
    · dsimp only
      rw [passed]
      split at single
      · exact Nat.le_of_succ_le single
      · exact single
  · have notAwaited : ¬ frame.awaits listener place = true := by
      simp [EmitFrame.awaits, matching]
    unfold LifecycleManager.visit
    rw [if_neg matching]
    refine inOrder.keep inOrder.subscribed rfl rfl (List.forall_mem_cons.mpr known) ?_
    rw [passed frame.calling, running, pendingEvents_cons, if_neg notAwaited]

/-- A loop comes to another listener, which changes nothing for this one. -/
private theorem InOrder.visit_other {frame : EmitFrame} {others : List EmitFrame}
    {entry : LiveEntry Nat (Option LifecycleEventFilter)}
    (inOrder : InOrder start listener place manager) (running : manager.stack = frame :: others)
    (ahead : manager.emitter.listeners.next frame.cursor = some entry)
    (other : entry.stamp ≠ listener.stamp)
    : InOrder start listener place (manager.visit frame others entry) := by
  obtain ⟨isListener, notPassed, least⟩ := LiveMap.next_eq_some_iff.mp ahead
  have known := inOrder.known
  rw [running, List.forall_mem_cons] at known
  have otherKey : entry.key ≠ listener.key := by
    intro same
    exact other (congrArg LiveEntry.stamp (LiveMap.eq_of_key isListener inOrder.subscribed same))
  have stillAhead : entry.stamp + 1 ≤ listener.stamp ↔ frame.cursor ≤ listener.stamp := by
    have below := least listener inOrder.subscribed
    omega
  have pending (calling : Bool)
      : pendingEvents ({ frame with cursor := entry.stamp + 1, calling := calling } :: others)
          listener place
        = pendingEvents manager.stack listener place := by
    have same
        : ({ frame with cursor := entry.stamp + 1, calling := calling } : EmitFrame).awaits
            listener place
          = frame.awaits listener place := by
      unfold EmitFrame.awaits
      rw [decide_eq_decide.mpr stillAhead]
    rw [running, pendingEvents_cons, pendingEvents_cons, same]
  unfold LifecycleManager.visit
  split
  · refine ⟨inOrder.subscribed, inOrder.recorded.trans (by simp), inOrder.grown,
      List.forall_mem_cons.mpr known, ?_, ?_⟩
    · dsimp only
      rw [pending, receivedSince_append inOrder.recorded rfl,
        if_neg (fun isIts => otherKey isIts.1), List.append_nil]
      exact inOrder.order
    · dsimp only
      rw [pending]
      exact inOrder.single
  · exact inOrder.keep inOrder.subscribed rfl rfl (List.forall_mem_cons.mpr known) (pending _)

/-- A loop that has passed all listeners leaves nothing pending. -/
private theorem InOrder.finish {frame : EmitFrame} {others : List EmitFrame}
    (inOrder : InOrder start listener place manager) (running : manager.stack = frame :: others)
    (passed : manager.emitter.listeners.next frame.cursor = none)
    : InOrder start listener place (manager.finish frame others) := by
  have behind := LiveMap.next_eq_none_iff.mp passed listener inOrder.subscribed
  have known := inOrder.known
  rw [running, List.forall_mem_cons] at known
  refine inOrder.keep inOrder.subscribed rfl rfl known.2 ?_
  rw [running, pendingEvents_cons, if_neg]
  · rfl
  · simp only [EmitFrame.awaits, Bool.and_eq_true, decide_eq_true_eq]
    omega

/-- An operation that notifies the listeners of a new history entry keeps the order, if the listener
has nothing else to receive when the event is for it.
-/
private theorem InOrder.notify {records : TrackedRecords} {position : Nat} {event : LifecycleEvent}
    (inOrder : InOrder start listener place manager) (inside : position < records.objects.length)
    (longer : manager.records.objects.length ≤ records.objects.length)
    (elsewhere
      : position ≠ place → records.objects[place]? = manager.records.objects[place]?)
    (grown
      : position = place
        → historyLength manager place ≤ historyLength { manager with records := records } place)
    (happened
      : position = place
        → happenedSince start { manager with records := records } listener place
          = happenedSince start manager listener place
            ++ if matchesFilter event.transactionId event.type listener.value then [event.entry]
              else [])
    (inTurn
      : position = place
        → matchesFilter event.transactionId event.type listener.value = true
        → pendingEvents manager.stack listener place = [])
    : InOrder start listener place ({ manager with records := records }.emit position event) := by
  have known : ∀ frame ∈ manager.stack, frame.place < records.objects.length :=
    fun frame member => Nat.lt_of_lt_of_le (inOrder.known frame member) longer
  have awaited
      : (EmitFrame.mk position event 0 false).awaits listener place = true
        ↔ position = place
          ∧ matchesFilter event.transactionId event.type listener.value = true := by
    simp [EmitFrame.awaits]
  have stack
      : ({ manager with records := records }.emit position event).stack
        = EmitFrame.mk position event 0 false :: manager.stack :=
    rfl
  have received
      : receivedSince start ({ manager with records := records }.emit position event) listener place
        = receivedSince start manager listener place :=
    receivedSince_congr rfl
  by_cases here : position = place
  · refine ⟨inOrder.subscribed, inOrder.recorded, inOrder.grown.trans (grown here),
      List.forall_mem_cons.mpr ⟨inside, known⟩, ?_, ?_⟩
    · have order := inOrder.order
      rw [stack, pendingEvents_cons, received]
      refine Eq.trans ?_ (happened here).symm
      by_cases matching : matchesFilter event.transactionId event.type listener.value = true
      · rw [inTurn here matching] at order ⊢
        rw [if_pos (awaited.mpr ⟨here, matching⟩), if_pos matching, ← order]
        simp
      · rw [if_neg (fun isIts => matching (awaited.mp isIts).2), if_neg matching, List.append_nil]
        exact order
    · rw [stack, pendingEvents_cons]
      split
      · rename_i isIts
        rw [inTurn here (awaited.mp isIts).2]
        exact Nat.le_refl _
      · exact inOrder.single
  · have sameObject
        : ({ manager with records := records }.emit position event).records.objects[place]?
          = manager.records.objects[place]? :=
      elsewhere here
    have notIts : ¬ (EmitFrame.mk position event 0 false).awaits listener place = true :=
      fun isIts => here (awaited.mp isIts).1
    refine ⟨inOrder.subscribed, inOrder.recorded, ?_, List.forall_mem_cons.mpr ⟨inside, known⟩, ?_,
      ?_⟩
    · rw [historyLength_congr sameObject]
      exact inOrder.grown
    · rw [stack, pendingEvents_cons, if_neg notIts, received, happenedSince_congr sameObject]
      exact inOrder.order
    · rw [stack, pendingEvents_cons, if_neg notIts]
      exact inOrder.single

/-- A transaction that has just been created happens to have its first entry. -/
private theorem InOrder.create {id : String} {metadata : Metadata} {now : Int}
    (inOrder : InOrder start listener place manager)
    : InOrder start listener place
        ({ manager with
            records :=
              manager.records.track
                (TransactionLifecycleRecord.initial id now metadata) }.emit
          manager.records.objects.length (LifecycleManager.creationEvent id now)) := by
  have nothing (here : manager.records.objects.length = place)
      : manager.records.objects[place]? = none := by
    rw [← here]
    simp
  have silent (here : manager.records.objects.length = place)
      : pendingEvents manager.stack listener place = [] := by
    have order := inOrder.order
    unfold happenedSince at order
    rw [nothing here] at order
    exact (List.append_eq_nil_iff.mp (List.map_eq_nil_iff.mp order)).2
  refine inOrder.notify (by simp [TrackedRecords.track]) (by simp [TrackedRecords.track]) ?_ ?_ ?_
    fun here _ => silent here
  · intro elsewhere
    simp only [TrackedRecords.track, List.getElem?_append]
    split
    · rfl
    · rename_i outside
      have beyond : manager.records.objects.length < place := by omega
      rw [List.getElem?_eq_none (by simp; omega), List.getElem?_eq_none (by omega)]
  · intro here
    rw [historyLength, nothing here]
    exact Nat.zero_le _
  · intro here
    have fresh : historyLength start place = 0 := by
      have grown := inOrder.grown
      rw [historyLength, historyLength, nothing here] at grown
      exact Nat.le_zero.mp grown
    unfold happenedSince
    rw [nothing here, fresh]
    simp [TrackedRecords.track, ← here, TransactionLifecycleRecord.initial,
      LifecycleManager.creationEvent, LifecycleTransitionRecord.type, LifecycleEvent.entry,
      List.filter_cons]
    rfl

/-- A transaction that has been moved on happens to have one more entry. -/
private theorem InOrder.move {position : Nat} {record changed : TransactionLifecycleRecord}
    {target : TransactionLifecycleState} {details : Option Details} {now : Int}
    (inOrder : InOrder start listener place manager)
    (found : manager.records.find record.id = some (position, record))
    (moved : TransactionLifecycleRecord.Moved record target details now changed)
    (inTurn
      : position = place
        → matchesFilter record.id (transitionType target) listener.value = true
        → pendingEvents manager.stack listener place = [])
    : InOrder start listener place
        ({ manager with records := manager.records.update position changed }.emit position
          (LifecycleManager.transitionEvent record.id record.state target details now
            changed.error)) := by
  obtain ⟨_, present, _⟩ := TrackedRecords.find_eq_some found
  obtain ⟨inside, _⟩ := List.getElem?_eq_some_iff.mp present
  have length
      : (manager.records.update position changed).objects.length
        = manager.records.objects.length := by
    simp [TrackedRecords.update]
  have updated := TrackedRecords.getElem?_update present moved.id place
  refine inOrder.notify (length ▸ inside) (Nat.le_of_eq length.symm) ?_ ?_ ?_ inTurn
  · intro elsewhere
    rw [updated, if_neg elsewhere]
  · intro here
    rw [historyLength, historyLength, updated, if_pos here, ← here, present]
    simp [moved.history]
  · intro here
    have grown := inOrder.grown
    rw [historyLength.eq_def manager, ← here, present] at grown
    unfold happenedSince
    rw [updated, if_pos here, ← here, present]
    dsimp only
    rw [moved.history, moved.id, List.drop_append_of_le_length grown, List.filter_append]
    congr 1
    rw [List.filter_cons, List.filter_nil]
    rfl

/-- Every step that keeps listeners and moves in turn keeps the order, by cases on its effect. -/
theorem inOrder_step (manager : LifecycleManager) (action : LifecycleAction)
    (next : LifecycleManager)
    (allowed
      : movesInTurn printed listener manager action ∧ keepsListener listener action = true)
    (taken : lifecycleStep printed manager action = some next)
    (inOrder : ∀ place, InOrder start listener place manager)
    : ∀ place, InOrder start listener place next := by
  obtain ⟨inTurn, keeps⟩ := allowed
  have stays : action ≠ .offEvent listener.key := by
    intro same
    simp [same, keepsListener] at keeps
  intro place
  have inOrder := inOrder place
  have effect := lifecycleStep_effect taken
  have subscribed := effect.mem_listeners_of_mem inOrder.subscribed stays
  cases effect with
  | rejected error operation host => exact inOrder.keep subscribed rfl rfl inOrder.known rfl
  | created id metadata now operation host isNew => exact inOrder.create
  | unread calls host found canMove failed =>
      -- Details that can be read do not make a transition throw.
      have readable := (inTurn _ calls _ found canMove).1
      rw [(TransactionLifecycleRecord.move_eq_ok_iff _ _ _ _).mpr readable] at failed
      cases failed
  | @moved _ position record target details now calls host found canMove read =>
      refine inOrder.move found TransactionLifecycleRecord.move_moved ?_
      intro here
      exact here ▸ (inTurn _ calls _ found canMove).2
  | untracked records operation host same =>
      exact inOrder.keep subscribed rfl same inOrder.known rfl
  | subscribed filter host => exact inOrder.keep subscribed rfl rfl inOrder.known rfl
  | unsubscribed number host => exact inOrder.keep subscribed rfl rfl inOrder.known rfl
  | @visited frame others entry running idle ahead =>
      obtain ⟨isListener, notPassed, _⟩ := LiveMap.next_eq_some_iff.mp ahead
      by_cases itself : entry.stamp = listener.stamp
      · obtain rfl := LiveMap.eq_of_stamp isListener inOrder.subscribed itself
        exact inOrder.visit_self running notPassed
      · exact inOrder.visit_other running ahead itself
  | finished running idle passed => exact inOrder.finish running passed
  | @returned frame others running busy =>
      have known := inOrder.known
      rw [running, List.forall_mem_cons] at known
      refine inOrder.keep subscribed rfl rfl (List.forall_mem_cons.mpr known) ?_
      rw [running, pendingEvents_cons, pendingEvents_cons]
      rfl
  | threw error running busy => cases keeps

/-- When a run starts between the calls, nothing has happened and nothing is pending yet. -/
theorem inOrder_start (quiet : start.stack = [])
    (subscribed : listener ∈ start.emitter.listeners.entries) (place : Nat)
    : InOrder start listener place start where
  subscribed := subscribed
  recorded := Nat.le_refl _
  grown := Nat.le_refl _
  known := by simp [quiet]
  order := by
    unfold happenedSince historyLength
    cases start.records.objects[place]? <;> simp [receivedSince, pendingEvents, quiet]
  single := by simp [pendingEvents, quiet]

/-- In every run in which no listener throws and transactions are moved on in turn, a listener that
stays subscribed receives a transaction's matching events exactly once and in the order of its
history; while calls are running, the last events can be pending. Witness: what has been received
and what is pending are together what has happened, at every step.
-/
theorem events_arrive_in_order {printed : JsNumber → String} {start final : LifecycleManager}
    {listener : LiveEntry Nat (Option LifecycleEventFilter)} {actions : List LifecycleAction}
    (quiet : start.stack = []) (subscribed : listener ∈ start.emitter.listeners.entries)
    (keeps : ∀ action ∈ actions, keepsListener listener action = true)
    (inTurn : stepsSatisfy (lifecycleStep printed) (movesInTurn printed listener) start actions)
    (reached : run (lifecycleStep printed) start actions = some final)
    : (∀ place,
        (receivedSince start final listener place).map LifecycleEvent.entry
        <+: happenedSince start final listener place)
      ∧ (final.stack = [] → receivesInOrder start final listener) := by
  have allowed := stepsSatisfy_and inTurn
    (stepsSatisfy_of_forall_mem start fun action member _ => keeps action member)
  have inOrder := run_preserves_of_stepsSatisfy inOrder_step (inOrder_start quiet subscribed)
    allowed reached
  constructor
  · intro place
    rw [← (inOrder place).order, List.map_append]
    exact List.prefix_append _ _
  · intro ended place
    rw [← (inOrder place).order, ended]
    simp [pendingEvents]

/-- A listener that moves a transaction on when it has started to be simulated. -/
private def movedWhileNotifying : List LifecycleAction :=
  [.create (some "tx") "" none 0, .advance, .returns, .advance, .returns, .advance,
    .markSimulating "tx" none 1, .advance, .markSimulated "tx" none 2, .advance, .returns,
    .advance, .returns, .advance, .returns, .advance, .returns, .advance]

/-- The listener that moves the transaction on receives its events in order, being the first. -/
theorem events_arrive_in_order_first
    : ∃ start final listener,
        run (lifecycleStep fun _ => "") .initial [.onEvent none, .onEvent none] = some start
        ∧ listener ∈ start.emitter.listeners.entries
        ∧ run (lifecycleStep fun _ => "") start movedWhileNotifying = some final
        ∧ receivesInOrder start final listener := by
  refine ⟨_, _, ⟨0, 1, none⟩, rfl, .head _, rfl, ?_⟩
  refine And.right
    (events_arrive_in_order rfl (.head _) (by decide) ?_
      (show run (lifecycleStep fun _ => "") _ movedWhileNotifying = _ from rfl)) rfl
  decide

/-- The other listener receives the event of the later move before that of the earlier one. -/
theorem events_out_of_order_second
    : ∃ start final listener,
        run (lifecycleStep fun _ => "") .initial [.onEvent none, .onEvent none] = some start
        ∧ listener ∈ start.emitter.listeners.entries
        ∧ (∀ action ∈ movedWhileNotifying, keepsListener listener action = true)
        ∧ run (lifecycleStep fun _ => "") start movedWhileNotifying = some final
        ∧ final.stack = []
        ∧ ¬ receivesInOrder start final listener := by
  refine ⟨_, _, ⟨1, 2, none⟩, rfl, .tail _ (.head _), by decide, rfl, rfl, fun inOrder => ?_⟩
  have states := congrArg (List.map LifecycleTransitionRecord.target) (inOrder 0)
  revert states
  decide

end Axionvera.Lifecycle
