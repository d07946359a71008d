import Axionvera.Events.EventDispatching

/-! Ids and counts of subscriptions: the two maps of the dispatcher stay in step as long as ids are
not taken over, and no callback outlives its subscription.
-/

namespace Axionvera.Events

open Axionvera.Foundation

/-- Ids that were generated were not live, counts belong to live subscriptions, and the count of a
live subscription is the number of its callback invocations that returned normally.
-/
structure CountsExact (state : DispatcherState) : Prop where
  generated
    : ∀ generation ∈ state.generations,
        ∃ id, generation.result = .ok id ∧ id ∉ generation.live
  live
    : ∀ id count,
        state.dispatcher.eventCounts.get id = some count
        → ∃ subscription, state.dispatcher.getSubscription id = some subscription
  counted
    : ∀ id subscription,
        state.dispatcher.getSubscription id = some subscription
        → state.dispatcher.getEventCount id = state.returned.count subscription.number

/-- An id is taken over from no subscription that has been counted, one can be generated that is not
live, and a callback that returns still has its subscription.
-/
def keepsIdentity (state : DispatcherState) : DispatcherAction → Prop
  | .subscribe (some id) _ _ => state.dispatcher.getEventCount id = 0
  | .subscribe none _ _ =>
      ∃ id ∈ state.sub__, state.dispatcher.getSubscription id = none
  | .returns =>
      ∀ frame ∈ state.stack.head?, ∀ subscription ∈ frame.calling,
        state.dispatcher.getSubscription subscription.id = some subscription
  | _ => True

instance (state : DispatcherState) : DecidablePred (keepsIdentity state)
  | .subscribe (some _) _ _ => inferInstanceAs (Decidable (_ = 0))
  | .subscribe none _ _ => inferInstanceAs (Decidable (∃ id ∈ state.sub__, _))
  | .returns => inferInstanceAs (Decidable (∀ frame ∈ state.stack.head?, ∀ s ∈ frame.calling, _))
  | .unsubscribe _ | .dispatch _ | .advance | .throws => .isTrue trivial

/-- Numbers identify subscriptions, also those that are called but not registered any more. -/
structure Numbered (state : DispatcherState) : Prop where
  distinct
    : ∀ first ∈ state.dispatcher.subscriptions.entries,
        ∀ second ∈ state.dispatcher.subscriptions.entries,
          first.value.number = second.value.number → first.value = second.value
  calling
    : ∀ frame ∈ state.stack, ∀ subscription ∈ frame.calling,
        subscription.number < state.dispatcher.nextNumber
        ∧ ∀ entry ∈ state.dispatcher.subscriptions.entries,
            entry.value.number = subscription.number → entry.value = subscription
  returned : ∀ number ∈ state.returned, number < state.dispatcher.nextNumber

variable {state next : DispatcherState} {action : DispatcherAction}

/-- A live subscription is the value of an entry, whose key is its id. -/
theorem getSubscription_eq_some {dispatcher : EventDispatcher} {id : String}
    {subscription : EventSubscription}
    (found : dispatcher.getSubscription id = some subscription)
    : ∃ entry ∈ dispatcher.subscriptions.entries,
        entry.key = id ∧ entry.value = subscription ∧ subscription.id = id := by
  obtain ⟨entry, member, rfl, rfl⟩ := LiveMap.get_eq_some_iff.mp found
  exact ⟨entry, member, rfl, rfl, dispatcher.named entry member⟩

/-- What `getSubscription` finds after a subscription. -/
@[simp]
theorem getSubscription_subscribe (dispatcher : EventDispatcher) (id other : String)
    (filter : EventFilter) (callback : Nat)
    : (dispatcher.subscribe id filter callback).getSubscription other
      = if other = id then
          some
            {
              number := dispatcher.nextNumber
              id := id
              filter := filter
              callback := callback
            }
        else dispatcher.getSubscription other :=
  LiveMap.get_set _ _ _ _

/-- What `getSubscription` finds after a removal. -/
@[simp]
theorem getSubscription_unsubscribe (dispatcher : EventDispatcher) (id other : String)
    : (dispatcher.unsubscribe id).getSubscription other
      = if other = id then none else dispatcher.getSubscription other :=
  LiveMap.get_delete _ _ _

/-- What `getEventCount` returns after an increment. -/
@[simp]
theorem getEventCount_incrementCount (dispatcher : EventDispatcher) (id other : String)
    : (dispatcher.incrementCount id).getEventCount other
      = dispatcher.getEventCount other + if other = id then 1 else 0 := by
  unfold EventDispatcher.incrementCount EventDispatcher.getEventCount
  rw [InsertionMap.get_set]
  split
  · rename_i same
    rw [same]
    rfl
  · rfl

/-- Numbers identify subscriptions after one more. -/
theorem Numbered.subscribe (numbered : Numbered state) (id : String) (filter : EventFilter)
    (callback : Nat) (generations : List Generation)
    : Numbered
        { state with
          dispatcher := state.dispatcher.subscribe id filter callback
          generations := generations } where
  distinct := by
    intro first isFirst second isSecond same
    have numbers := state.dispatcher.numbered
    rcases EventDispatcher.mem_set_subscription isFirst with ⟨oldFirst, _⟩ | ⟨_, newFirst⟩
      <;> rcases EventDispatcher.mem_set_subscription isSecond with ⟨oldSecond, _⟩ | ⟨_, newSecond⟩
    · exact numbered.distinct first oldFirst second oldSecond same
    · have below := numbers first oldFirst
      rw [same, newSecond] at below
      exact absurd below (Nat.lt_irrefl _)
    · have below := numbers second oldSecond
      rw [← same, newFirst] at below
      exact absurd below (Nat.lt_irrefl _)
    · rw [newFirst, newSecond]
  calling := by
    intro frame running subscription busy
    obtain ⟨below, unique⟩ := numbered.calling frame running subscription busy
    refine ⟨Nat.lt_succ_of_lt below, fun entry member same => ?_⟩
    rcases EventDispatcher.mem_set_subscription member with ⟨old, _⟩ | ⟨_, isNew⟩
    · exact unique entry old same
    · rw [isNew] at same
      exact absurd same (Nat.ne_of_gt below)
  returned := fun number member => Nat.lt_succ_of_lt (numbered.returned number member)

/-- Every step keeps numbers apart, by cases on its effect. -/
theorem numbered_step (state : DispatcherState) (action : DispatcherAction)
    (next : DispatcherState) (taken : dispatcherStep state action = some next)
    (numbered : Numbered state)
    : Numbered next := by
  cases dispatcherStep_effect taken with
  | subscribed id filter callback host =>
      unfold DispatcherState.subscribe
      split
      · exact numbered.subscribe _ filter callback state.generations
      · dsimp only
        split
        · exact ⟨numbered.distinct, numbered.calling, numbered.returned⟩
        · exact numbered.subscribe _ filter callback _
  | unsubscribed id host =>
      refine ⟨fun first isFirst second isSecond => ?_, fun frame running subscription busy => ?_,
        numbered.returned⟩
      · exact numbered.distinct first (LiveMap.mem_delete.mp isFirst).1 second
          (LiveMap.mem_delete.mp isSecond).1
      · obtain ⟨below, unique⟩ := numbered.calling frame running subscription busy
        exact ⟨below, fun entry member => unique entry (LiveMap.mem_delete.mp member).1⟩
  | dispatches event host =>
      refine ⟨numbered.distinct, List.forall_mem_cons.mpr ⟨?_, numbered.calling⟩, numbered.returned⟩
      intro subscription busy
      cases busy
  | @visited frame others entry running idle ahead =>
      have calling := numbered.calling
      rw [running, List.forall_mem_cons] at calling
      have member := (LiveMap.next_eq_some_iff.mp ahead).1
      unfold DispatcherState.visit
      split
      · refine ⟨numbered.distinct, List.forall_mem_cons.mpr ⟨?_, calling.2⟩, numbered.returned⟩
        intro subscription busy
        obtain rfl := Option.some.inj busy
        exact ⟨state.dispatcher.numbered entry member,
          fun other isOther => numbered.distinct other isOther entry member⟩
      · exact ⟨numbered.distinct, List.forall_mem_cons.mpr calling, numbered.returned⟩
  | finished running idle passed =>
      have calling := numbered.calling
      rw [running, List.forall_mem_cons] at calling
      exact ⟨numbered.distinct, calling.2, numbered.returned⟩
  | @returned frame others subscription running busy =>
      have calling := numbered.calling
      rw [running, List.forall_mem_cons] at calling
      refine ⟨numbered.distinct, List.forall_mem_cons.mpr ⟨?_, calling.2⟩,
        List.forall_mem_cons.mpr ⟨(calling.1 subscription busy).1, numbered.returned⟩⟩
      intro none isCalling
      cases isCalling
  | threw running busy =>
      have calling := numbered.calling
      rw [running, List.forall_mem_cons] at calling
      refine ⟨numbered.distinct, List.forall_mem_cons.mpr ⟨?_, calling.2⟩, numbered.returned⟩
      intro none isCalling
      cases isCalling

/-- A number that has not been given has no invocation that returned. -/
theorem Numbered.count_nextNumber (numbered : Numbered state)
    : state.returned.count state.dispatcher.nextNumber = 0 :=
  List.count_eq_zero.mpr fun member => Nat.lt_irrefl _ (numbered.returned _ member)

/-- A subscription keeps the counts exact exactly when its id has not been counted. -/
theorem countsExact_subscribe_iff (numbered : Numbered state) (exact : CountsExact state)
    (id : String) (filter : EventFilter) (callback : Nat) {generations : List Generation}
    (generated
      : ∀ generation ∈ generations, ∃ id, generation.result = .ok id ∧ id ∉ generation.live)
    : CountsExact
        { state with
          dispatcher := state.dispatcher.subscribe id filter callback
          generations := generations }
      ↔ state.dispatcher.getEventCount id = 0 := by
  have fresh := numbered.count_nextNumber
  constructor
  · intro after
    have counted := after.counted id _ (by rw [getSubscription_subscribe, if_pos rfl])
    exact counted.trans fresh
  · intro uncounted
    refine ⟨generated, fun other count found => ?_, fun other subscription found => ?_⟩
    · dsimp only
      rw [getSubscription_subscribe]
      split
      · exact ⟨_, rfl⟩
      · exact exact.live other count found
    · dsimp only at found
      rw [getSubscription_subscribe] at found
      split at found
      · rename_i same
        obtain rfl := Option.some.inj found
        rw [same]
        exact uncounted.trans fresh.symm
      · exact exact.counted other subscription found

/-- An id that is not live has not been counted. -/
theorem CountsExact.uncounted (exact : CountsExact state) {id : String}
    (dead : state.dispatcher.getSubscription id = none)
    : state.dispatcher.getEventCount id = 0 := by
  unfold EventDispatcher.getEventCount
  cases found : state.dispatcher.eventCounts.get id with
  | none => rfl
  | some count =>
      obtain ⟨subscription, live⟩ := exact.live id count found
      rw [dead] at live
      cases live

/-- An id is live exactly when it is among the keys. -/
theorem mem_keys_iff {dispatcher : EventDispatcher} {id : String}
    : id ∈ dispatcher.subscriptions.entries.map LiveEntry.key
      ↔ ¬ dispatcher.getSubscription id = none := by
  rw [EventDispatcher.getSubscription, LiveMap.get_eq_none_iff, List.mem_map]
  simp

/-- A subscription without an id keeps the counts exact exactly when the generated id is not live.
-/
theorem countsExact_generate_iff (numbered : Numbered state) (exact : CountsExact state)
    (filter : EventFilter) (callback : Nat)
    : CountsExact (state.subscribe none filter callback)
      ↔ ∃ id ∈ state.sub__, state.dispatcher.getSubscription id = none := by
  unfold DispatcherState.subscribe
  cases isGlobal : state.sub__ with
  | none =>
      refine iff_of_false (fun after => ?_) (by simp)
      obtain ⟨id, generated, _⟩ := after.generated _ List.mem_cons_self
      cases generated
  | some id =>
      have simple
          : (∃ other ∈ some id, state.dispatcher.getSubscription other = none)
            ↔ state.dispatcher.getSubscription id = none := by
        simp
      rw [simple]
      dsimp only [EventDispatcher.generateId]
      constructor
      · intro after
        obtain ⟨other, same, notLive⟩ := after.generated _ List.mem_cons_self
        obtain rfl : id = other := by simpa using same
        exact Decidable.of_not_not fun live => notLive (mem_keys_iff.mpr live)
      · intro dead
        have notLive : id ∉ state.dispatcher.subscriptions.entries.map LiveEntry.key :=
          fun live => mem_keys_iff.mp live dead
        let generation : Generation :=
          ⟨.ok id, state.dispatcher.subscriptions.entries.map LiveEntry.key⟩
        have fresh : ∃ other, generation.result = .ok other ∧ other ∉ generation.live :=
          ⟨id, rfl, notLive⟩
        have kept :=
          (countsExact_subscribe_iff numbered exact id filter callback
            (List.forall_mem_cons.mpr ⟨fresh, exact.generated⟩)).mpr
            (exact.uncounted dead)
        rw [isGlobal] at kept
        exact kept

/-- A callback that returns keeps the counts exact exactly when its subscription is still
registered. Witness: another one under its id would be counted for it, and a dead id would get a
count.
-/
theorem countsExact_returns_iff {frame : DispatchFrame} {others : List DispatchFrame}
    {subscription : EventSubscription} (numbered : Numbered state) (exact : CountsExact state)
    (running : state.stack = frame :: others) (busy : frame.calling = some subscription)
    : CountsExact (state.callbackReturns frame others subscription)
      ↔ state.dispatcher.getSubscription subscription.id = some subscription := by
  have calling := numbered.calling
  rw [running, List.forall_mem_cons] at calling
  obtain ⟨_, unique⟩ := calling.1 subscription busy
  have identified {id : String} {other : EventSubscription}
      (found : state.dispatcher.getSubscription id = some other)
      (same : other.number = subscription.number)
      : other = subscription ∧ id = subscription.id := by
    obtain ⟨entry, member, _, rfl, isId⟩ := getSubscription_eq_some found
    have equal := unique entry member same
    exact ⟨equal, by rw [← isId, equal]⟩
  unfold DispatcherState.callbackReturns
  constructor
  · intro after
    have hasCount
        : (state.dispatcher.incrementCount subscription.id).eventCounts.get subscription.id
          = some (state.dispatcher.getEventCount subscription.id + 1) := by
      simp [EventDispatcher.incrementCount]
    obtain ⟨other, found⟩ := after.live subscription.id _ hasCount
    have counted := after.counted subscription.id other found
    rw [getEventCount_incrementCount, if_pos rfl, exact.counted subscription.id other found,
      List.count_cons] at counted
    by_cases same : other.number = subscription.number
    · exact (identified found same).1 ▸ found
    · have noMatch : (subscription.number == other.number) = false := by
        simpa using fun equal => same (Eq.symm equal)
      rw [noMatch] at counted
      simp at counted
  · intro registered
    refine ⟨exact.generated, fun id count found => ?_, fun id other found => ?_⟩
    · dsimp only [EventDispatcher.incrementCount] at found
      rw [InsertionMap.get_set] at found
      split at found
      · rename_i same
        exact ⟨subscription, same ▸ registered⟩
      · exact exact.live id count found
    · have isOther : state.dispatcher.getSubscription id = some other := found
      rw [getEventCount_incrementCount, exact.counted id other isOther, List.count_cons]
      by_cases same : id = subscription.id
      · rw [same, registered] at isOther
        obtain rfl := Option.some.inj isOther
        simp [same]
      · have noMatch : (subscription.number == other.number) = false := by
          simpa using fun equal => same (identified isOther (Eq.symm equal)).2
        rw [if_neg same, noMatch]
        rfl

/-- A step keeps the counts exact exactly when it keeps identities, by cases on its effect. -/
theorem keepsIdentity_iff (taken : dispatcherStep state action = some next)
    (numbered : Numbered state) (exact : CountsExact state)
    : keepsIdentity state action ↔ CountsExact next := by
  cases dispatcherStep_effect taken with
  | subscribed id filter callback host =>
      cases id with
      | some id =>
          exact (countsExact_subscribe_iff numbered exact id filter callback exact.generated).symm
      | none => exact (countsExact_generate_iff numbered exact filter callback).symm
  | unsubscribed id host =>
      refine iff_of_true trivial ⟨exact.generated, fun other count found => ?_,
        fun other subscription found => ?_⟩
      · dsimp only [EventDispatcher.unsubscribe] at found
        rw [InsertionMap.get_delete] at found
        dsimp only
        rw [getSubscription_unsubscribe]
        split at found
        · cases found
        · rename_i different
          rw [if_neg different]
          exact exact.live other count found
      · dsimp only at found ⊢
        rw [getSubscription_unsubscribe] at found
        split at found
        · cases found
        · rename_i different
          rw [← exact.counted other subscription found, EventDispatcher.getEventCount,
            EventDispatcher.getEventCount]
          simp [EventDispatcher.unsubscribe, different]
  | dispatches event host => exact iff_of_true trivial ⟨exact.generated, exact.live, exact.counted⟩
  | visited running idle ahead =>
      refine iff_of_true trivial ?_
      unfold DispatcherState.visit
      split <;> exact ⟨exact.generated, exact.live, exact.counted⟩
  | finished running idle passed =>
      exact iff_of_true trivial ⟨exact.generated, exact.live, exact.counted⟩
  | returned running busy =>
      refine Iff.trans ?_ (countsExact_returns_iff numbered exact running busy).symm
      simp [keepsIdentity, running, busy]
  | threw running busy => exact iff_of_true trivial ⟨exact.generated, exact.live, exact.counted⟩

/-- In every run, ids and counts are exact exactly when no id is taken over from a subscription that
has been counted, generated ids are not live, and callbacks that return still have their
subscription. Witness: `keepsIdentity_iff` along the run.
-/
theorem countsExact_iff_keepsIdentity (sub__ : Option String) (actions : List DispatcherAction)
    (final : DispatcherState) (reached : run dispatcherStep (.initial sub__) actions = some final)
    : (∀ front state,
        front <+: actions
        → run dispatcherStep (.initial sub__) front = some state
        → CountsExact state)
      ↔ stepsSatisfy dispatcherStep keepsIdentity (.initial sub__) actions := by
  have all : stepsSatisfy dispatcherStep (fun _ _ => True) (.initial sub__) actions :=
    stepsSatisfy_of_forall_mem _ fun _ _ _ => trivial
  have numbered : Numbered (.initial sub__) :=
    ⟨fun _ isFirst => (by cases isFirst), fun _ running => (by cases running),
      fun _ member => (by cases member)⟩
  have exact : CountsExact (.initial sub__) :=
    ⟨fun _ member => (by cases member), fun _ _ found => (by cases found),
      fun _ _ found => (by cases found)⟩
  exact forall_prefix_iff_stepsSatisfy
    (fun _ _ _ _ taken numbered _ _ => numbered_step _ _ _ taken numbered)
    (fun _ _ _ _ taken => keepsIdentity_iff taken) numbered exact all reached

/-- The callback of a subscription removes it before it returns. -/
private def removedInCallback : List DispatcherAction :=
  [.subscribe (some "s") {} 0, .dispatch { id := "e", type := .contract }, .advance,
    .unsubscribe "s", .returns]

/-- Without a global variable `sub__`, a subscription without an id throws; and a subscription that
is removed by its own callback leaves a count behind.
-/
theorem counts_not_exact
    : (∃ final,
        run dispatcherStep (.initial none) [.subscribe none {} 0] = some final
        ∧ final.dispatcher.subscriptions.entries = []
        ∧ ¬ CountsExact final)
      ∧ ∃ final,
          run dispatcherStep (.initial none) removedInCallback = some final
          ∧ final.dispatcher.getSubscription "s" = none
          ∧ final.dispatcher.getEventCount "s" = 1
          ∧ ¬ CountsExact final := by
  refine ⟨⟨_, rfl, rfl, fun exact => ?_⟩, ⟨_, rfl, rfl, rfl, fun exact => ?_⟩⟩
  · obtain ⟨id, generated, _⟩ := exact.generated _ List.mem_cons_self
    cases generated
  · obtain ⟨subscription, live⟩ := exact.live "s" 1 rfl
    cases live

/-- A callback that is called again by its own dispatch, and removes its subscription in the end. -/
private def dispatchedAgain : List DispatcherAction :=
  [.subscribe none {} 0, .dispatch { id := "e", type := .contract }, .advance,
    .dispatch { id := "f", type := .contract }, .advance, .returns, .advance, .returns, .advance,
    .unsubscribe "x", .subscribe none {} 1]

/-- With a global variable `sub__`, ids and counts are exact in a run with one subscription at a
time and a nested dispatch.
-/
theorem countsExact_dispatchedAgain
    : ∃ final,
        run dispatcherStep (.initial (some "x")) dispatchedAgain = some final
        ∧ ∀ front state,
            front <+: dispatchedAgain
            → run dispatcherStep (.initial (some "x")) front = some state
            → CountsExact state := by
  refine ⟨_, rfl, ?_⟩
  exact (countsExact_iff_keepsIdentity (some "x") dispatchedAgain _ rfl).mpr (by decide)

end Axionvera.Events
