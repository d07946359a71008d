import Axionvera.Events.EventDispatcher
import Axionvera.Foundation.TransitionSystem

/-! The loop of `dispatch` runs over the live map of subscriptions, so that it is exact as long as
no callback puts a new matching subscription in front of it.
-/

namespace Axionvera.Events

open Axionvera.Foundation

/-- What a callback calls on the dispatcher. -/
inductive DispatcherCall where
  | subscribe (id : String) (filter : EventFilter) (callback : Nat)
  | unsubscribe (id : String)

/-- The effect of a call. -/
def DispatcherCall.apply (dispatcher : EventDispatcher) : DispatcherCall → EventDispatcher
  | .subscribe id filter callback => dispatcher.subscribe id filter callback
  | .unsubscribe id => dispatcher.unsubscribe id

/-- What a callback does: its calls, whether it throws in the end, and the rest of the world. -/
structure Reaction (ω : Type) where
  calls : List DispatcherCall
  throws : Bool
  world : ω

/-- The callbacks, which can depend on the state of the world and of the dispatcher. -/
abbrev Callbacks (ω : Type) :=
  ω → EventDispatcher → Nat → SorobanEvent → Reaction ω

/-- A call of a callback, and whether it returned normally. -/
structure Invocation where
  subscription : EventSubscription
  returned : Bool

/-- The loop of `dispatch`, with its count. Recorded are the calls of callbacks. -/
structure DispatchLoop (ω : Type) where
  world : ω
  dispatcher : EventDispatcher
  cursor : Nat := 0
  dispatched : Nat := 0
  invocations : List Invocation := []

variable {ω : Type}

/-- The loop calls the callback of a subscription. -/
def DispatchLoop.call (callbacks : Callbacks ω) (event : SorobanEvent) (loop : DispatchLoop ω)
    (subscription : EventSubscription) : DispatchLoop ω :=
  let reaction := callbacks loop.world loop.dispatcher subscription.callback event
  let changed := reaction.calls.foldl DispatcherCall.apply loop.dispatcher
  if reaction.throws then
    { loop with
      world := reaction.world
      dispatcher := changed
      invocations := loop.invocations ++ [⟨subscription, false⟩] }
  else
    { loop with
      world := reaction.world
      dispatcher := changed.incrementCount subscription.id
      dispatched := loop.dispatched + 1
      invocations := loop.invocations ++ [⟨subscription, true⟩] }

/-- One turn of the loop of `dispatch`, unless it has passed all subscriptions. -/
def dispatchTurn (callbacks : Callbacks ω) (event : SorobanEvent) (loop : DispatchLoop ω) (_ : Unit)
    : Option (DispatchLoop ω) :=
  match loop.dispatcher.subscriptions.next loop.cursor with
  | none => none
  | some entry =>
      let passed := { loop with cursor := entry.stamp + 1 }
      if entry.value.wants event then some (passed.call callbacks event entry.value)
      else some passed

/-- The state in which `dispatch` starts its loop. -/
def dispatch (world : ω) (dispatcher : EventDispatcher) : DispatchLoop ω :=
  { world := world, dispatcher := dispatcher }

/-- The subscription was removed while the loop had yet to come to its place. -/
def removedMeanwhile (callbacks : Callbacks ω) (event : SorobanEvent) (loop : DispatchLoop ω)
    (turns : List Unit) (entry : LiveEntry String EventSubscription) : Prop :=
  ∃ front middle,
    front <+: turns
    ∧ run (dispatchTurn callbacks event) loop front = some middle
    ∧ middle.cursor ≤ entry.stamp
    ∧ entry ∉ middle.dispatcher.subscriptions.entries

/-- A dispatch ends after the turns, and its loop has called the callbacks of the subscriptions that
were registered before and want the event, each once and in their order, except those removed
before it came to them.
-/
structure ExactDispatch (callbacks : Callbacks ω) (event : SorobanEvent) (world : ω)
    (dispatcher : EventDispatcher) (turns : List Unit) (final : DispatchLoop ω) : Prop where
  reached : run (dispatchTurn callbacks event) (dispatch world dispatcher) turns = some final
  ended : dispatchTurn callbacks event final () = none
  called
    : (final.invocations.map Invocation.subscription).Sublist
        ((dispatcher.subscriptions.entries.filter fun entry => entry.value.wants event).map
          LiveEntry.value)
  complete
    : ∀ entry ∈ dispatcher.subscriptions.entries,
        entry.value.wants event = true
        → entry.value ∈ final.invocations.map Invocation.subscription
          ∨ removedMeanwhile callbacks event (dispatch world dispatcher) turns entry
  count : final.dispatched = (final.invocations.filter Invocation.returned).length

/-- Every turn of the loop that calls a callback comes to a subscription that was registered before
the dispatch.
-/
def meetsNoNewcomer (callbacks : Callbacks ω) (event : SorobanEvent) (world : ω)
    (dispatcher : EventDispatcher) : Prop :=
  ∀ turns loop,
    run (dispatchTurn callbacks event) (dispatch world dispatcher) turns = some loop
    → ∀ entry,
        loop.dispatcher.subscriptions.next loop.cursor = some entry
        → entry.value.wants event = true
        → entry.value.number < dispatcher.nextNumber

-----------------------------------------------------------------------------------------
-- What callbacks do to the subscriptions registered before
-----------------------------------------------------------------------------------------

/-- The subscriptions with a number below the bound. -/
def EventDispatcher.olderThan (dispatcher : EventDispatcher) (bound : Nat)
    : List (LiveEntry String EventSubscription) :=
  dispatcher.subscriptions.entries.filter fun entry => entry.value.number < bound

/-- All subscriptions have numbers that have been given. -/
theorem olderThan_nextNumber (dispatcher : EventDispatcher)
    : dispatcher.olderThan dispatcher.nextNumber = dispatcher.subscriptions.entries :=
  List.filter_eq_self.mpr fun entry member => decide_eq_true (dispatcher.numbered entry member)

/-- Older subscriptions are subscriptions. -/
theorem mem_olderThan {dispatcher : EventDispatcher} {bound : Nat}
    {entry : LiveEntry String EventSubscription}
    : entry ∈ dispatcher.olderThan bound
      ↔ entry ∈ dispatcher.subscriptions.entries ∧ entry.value.number < bound := by
  simp [EventDispatcher.olderThan]

/-- A new subscription leaves of the older ones those with another id. -/
theorem olderThan_subscribe {dispatcher : EventDispatcher} {bound : Nat}
    (old : bound ≤ dispatcher.nextNumber) (id : String) (filter : EventFilter) (callback : Nat)
    : ((dispatcher.subscribe id filter callback).olderThan bound).Sublist
        (dispatcher.olderThan bound) := by
  let isOlder (subscription : EventSubscription) : Bool := subscription.number < bound
  let added : EventSubscription :=
    { number := dispatcher.nextNumber, id := id, filter := filter, callback := callback }
  have isNew : isOlder added = false := decide_eq_false (Nat.not_lt.mpr old)
  exact dispatcher.subscriptions.filter_set_sublist id isNew

/-- A removal leaves of the older ones those with another id. -/
theorem olderThan_unsubscribe (dispatcher : EventDispatcher) (bound : Nat) (id : String)
    : ((dispatcher.unsubscribe id).olderThan bound).Sublist (dispatcher.olderThan bound) := by
  unfold EventDispatcher.olderThan EventDispatcher.unsubscribe LiveMap.delete
  exact List.filter_sublist.filter _

/-- The calls of a callback add none of the older subscriptions, by induction on the calls. -/
theorem olderThan_calls (calls : List DispatcherCall) {dispatcher : EventDispatcher} {bound : Nat}
    (old : bound ≤ dispatcher.nextNumber)
    : bound ≤ (calls.foldl DispatcherCall.apply dispatcher).nextNumber
      ∧ ((calls.foldl DispatcherCall.apply dispatcher).olderThan bound).Sublist
          (dispatcher.olderThan bound) := by
  induction calls generalizing dispatcher with
  | nil => exact ⟨old, List.Sublist.refl _⟩
  | cons call rest ih =>
      cases call with
      | subscribe id filter callback =>
          have stillOld : bound ≤ (dispatcher.subscribe id filter callback).nextNumber :=
            Nat.le_succ_of_le old
          obtain ⟨later, fewer⟩ := ih stillOld
          exact ⟨later, fewer.trans (olderThan_subscribe old id filter callback)⟩
      | unsubscribe id =>
          have stillOld : bound ≤ (dispatcher.unsubscribe id).nextNumber := old
          obtain ⟨later, fewer⟩ := ih stillOld
          exact ⟨later, fewer.trans (olderThan_unsubscribe dispatcher bound id)⟩

-----------------------------------------------------------------------------------------
-- One turn and a run of them
-----------------------------------------------------------------------------------------

variable {callbacks : Callbacks ω} {event : SorobanEvent} {loop next final : DispatchLoop ω}

/-- What a turn does: the loop comes to the next subscription, and calls its callback if the
subscription wants the event.
-/
inductive TurnEffect (event : SorobanEvent) (loop next : DispatchLoop ω) : Prop
  | skipped (entry : LiveEntry String EventSubscription)
    (ahead : loop.dispatcher.subscriptions.next loop.cursor = some entry)
    (unwanted : entry.value.wants event = false)
    (result : next = { loop with cursor := entry.stamp + 1 })
  | called (entry : LiveEntry String EventSubscription) (returned : Bool)
    (ahead : loop.dispatcher.subscriptions.next loop.cursor = some entry)
    (wanted : entry.value.wants event = true) (cursor : next.cursor = entry.stamp + 1)
    (invocations : next.invocations = loop.invocations ++ [⟨entry.value, returned⟩])
    (dispatched : next.dispatched = loop.dispatched + if returned then 1 else 0)
    (numbers
      : ∀ bound,
          bound ≤ loop.dispatcher.nextNumber
          → bound ≤ next.dispatcher.nextNumber
            ∧ (next.dispatcher.olderThan bound).Sublist (loop.dispatcher.olderThan bound))

/-- Every turn has one of the effects. -/
theorem dispatchTurn_effect {tick : Unit}
    (taken : dispatchTurn callbacks event loop tick = some next)
    : TurnEffect event loop next := by
  unfold dispatchTurn at taken
  split at taken
  · cases taken
  · rename_i entry ahead
    dsimp only at taken
    split at taken
    · rename_i wanted
      obtain rfl := Option.some.inj taken
      unfold DispatchLoop.call
      dsimp only
      split
      · exact .called entry false ahead wanted rfl rfl rfl fun _ old => olderThan_calls _ old
      · exact .called entry true ahead wanted rfl rfl rfl fun _ old => olderThan_calls _ old
    · rename_i unwanted
      obtain rfl := Option.some.inj taken
      exact .skipped entry ahead (Bool.not_eq_true _ ▸ unwanted) rfl

/-- A loop that can take another turn has a subscription ahead. -/
theorem dispatchTurn_isSome {tick : Unit} {entry : LiveEntry String EventSubscription}
    (ahead : loop.dispatcher.subscriptions.next loop.cursor = some entry)
    : ∃ next, dispatchTurn callbacks event loop tick = some next := by
  unfold dispatchTurn
  rw [ahead]
  dsimp only
  split
  · exact ⟨_, rfl⟩
  · exact ⟨_, rfl⟩

/-- A loop that cannot take another turn has passed all subscriptions. -/
theorem passed_of_dispatchTurn_eq_none {tick : Unit}
    (ended : dispatchTurn callbacks event loop tick = none)
    : loop.dispatcher.subscriptions.next loop.cursor = none := by
  cases ahead : loop.dispatcher.subscriptions.next loop.cursor with
  | none => rfl
  | some entry =>
      have goesOn : ∃ next, dispatchTurn callbacks event loop tick = some next :=
        dispatchTurn_isSome ahead
      obtain ⟨next, taken⟩ := goesOn
      rw [ended] at taken
      cases taken

/-- Invocations stay recorded along the turns, by induction on them. -/
theorem invocations_isPrefix {turns : List Unit}
    (reached : run (dispatchTurn callbacks event) loop turns = some final)
    : loop.invocations <+: final.invocations := by
  induction turns generalizing loop with
  | nil =>
      obtain rfl := Option.some.inj reached
      exact List.prefix_rfl
  | cons tick rest ih =>
      obtain ⟨next, taken, later⟩ := run_cons_iff.mp reached
      refine List.IsPrefix.trans ?_ (ih later)
      cases dispatchTurn_effect taken with
      | skipped entry ahead unwanted result =>
          rw [result]
      | called entry returned ahead wanted cursor invocations dispatched numbers =>
          rw [invocations]
          exact List.prefix_append _ _

/-- A subscription that the loop has yet to come to is called when the loop has passed it, unless it
is removed before, by induction on the turns.
-/
theorem called_or_removed {turns : List Unit} {entry : LiveEntry String EventSubscription}
    (reached : run (dispatchTurn callbacks event) loop turns = some final)
    (ahead : loop.cursor ≤ entry.stamp) (wanted : entry.value.wants event = true)
    : final.cursor ≤ entry.stamp
      ∨ entry.value ∈ final.invocations.map Invocation.subscription
      ∨ removedMeanwhile callbacks event loop turns entry := by
  induction turns generalizing loop with
  | nil =>
      obtain rfl := Option.some.inj reached
      exact .inl ahead
  | cons tick rest ih =>
      obtain ⟨next, taken, later⟩ := run_cons_iff.mp reached
      by_cases registered : entry ∈ loop.dispatcher.subscriptions.entries
      · have onwards (stillAhead : next.cursor ≤ entry.stamp)
            : final.cursor ≤ entry.stamp
              ∨ entry.value ∈ final.invocations.map Invocation.subscription
              ∨ removedMeanwhile callbacks event loop (tick :: rest) entry := by
          rcases ih later stillAhead with still | called | removed
          · exact .inl still
          · exact .inr (.inl called)
          · obtain ⟨front, middle, isPrefix, walked, notPassed, isRemoved⟩ := removed
            refine .inr (.inr ⟨tick :: front, middle, ?_, ?_, notPassed, isRemoved⟩)
            · exact List.cons_prefix_cons.mpr ⟨rfl, isPrefix⟩
            · exact run_cons_iff.mpr ⟨next, taken, walked⟩
        have comesTo {other : LiveEntry String EventSubscription}
            (isNext : loop.dispatcher.subscriptions.next loop.cursor = some other)
            : other = entry ∨ other.stamp + 1 ≤ entry.stamp := by
          obtain ⟨isEntry, _, least⟩ := LiveMap.next_eq_some_iff.mp isNext
          rcases Nat.lt_or_eq_of_le (least entry registered ahead) with earlier | same
          · exact .inr earlier
          · exact .inl (LiveMap.eq_of_stamp isEntry registered same)
        cases dispatchTurn_effect taken with
        | skipped other isNext unwanted result =>
            rcases comesTo isNext with same | earlier
            · rw [same, wanted] at unwanted
              cases unwanted
            · exact onwards (result ▸ earlier)
        | called other returned isNext wanted cursor invocations dispatched numbers =>
            rcases comesTo isNext with same | earlier
            · refine .inr (.inl ?_)
              have recorded := (invocations_isPrefix later).subset
              rw [invocations, same] at recorded
              exact List.mem_map.mpr ⟨⟨entry.value, returned⟩, recorded (by simp), rfl⟩
            · exact onwards (cursor ▸ earlier)
      · exact .inr (.inr ⟨[], loop, List.nil_prefix, rfl, ahead, registered⟩)

-----------------------------------------------------------------------------------------
-- Termination
-----------------------------------------------------------------------------------------

/-- The subscriptions that the loop has yet to come to, and those of them below the bound. -/
def DispatchLoop.ahead (loop : DispatchLoop ω) : List (LiveEntry String EventSubscription) :=
  loop.dispatcher.subscriptions.entries.filter fun entry => loop.cursor ≤ entry.stamp

/-- The older subscriptions that the loop has yet to come to. -/
def DispatchLoop.oldAhead (loop : DispatchLoop ω) (bound : Nat)
    : List (LiveEntry String EventSubscription) :=
  (loop.dispatcher.olderThan bound).filter fun entry => loop.cursor ≤ entry.stamp

/-- Passing an entry leaves fewer entries ahead. -/
theorem length_ahead_lt {entries : List (LiveEntry String EventSubscription)} {cursor : Nat}
    {entry : LiveEntry String EventSubscription} (member : entry ∈ entries)
    (ahead : cursor ≤ entry.stamp)
    : (entries.filter fun other => decide (entry.stamp + 1 ≤ other.stamp)).length
      < (entries.filter fun other => decide (cursor ≤ other.stamp)).length := by
  have narrower
      : (entries.filter fun other => decide (entry.stamp + 1 ≤ other.stamp)).Sublist
          (entries.filter fun other => decide (cursor ≤ other.stamp)) := by
    refine List.monotone_filter_right _ fun other beyond => ?_
    simp only [decide_eq_true_eq] at beyond ⊢
    omega
  refine Nat.lt_of_le_of_ne narrower.length_le fun same => ?_
  have equal := narrower.eq_of_length same
  have isAhead : entry ∈ entries.filter fun other => decide (cursor ≤ other.stamp) :=
    List.mem_filter.mpr ⟨member, decide_eq_true ahead⟩
  rw [← equal, List.mem_filter, decide_eq_true_eq] at isAhead
  exact absurd isAhead.2 (Nat.not_succ_le_self _)

/-- A loop that calls older subscriptions only ends, by induction on those ahead of it and, between
its calls, on all that are ahead.
-/
theorem dispatch_ends {bound : Nat} (old : bound ≤ loop.dispatcher.nextNumber)
    (noNewcomer
      : ∀ turns middle,
          run (dispatchTurn callbacks event) loop turns = some middle
          → ∀ entry,
              middle.dispatcher.subscriptions.next middle.cursor = some entry
              → entry.value.wants event = true
              → entry.value.number < bound)
    : ∃ turns final,
        run (dispatchTurn callbacks event) loop turns = some final
        ∧ dispatchTurn callbacks event final () = none := by
  generalize someOld : (loop.oldAhead bound).length = oldCount
  induction oldCount using Nat.strong_induction_on generalizing loop with
  | _ oldCount fewerOld =>
      generalize someAhead : loop.ahead.length = aheadCount
      induction aheadCount using Nat.strong_induction_on generalizing loop with
      | _ aheadCount fewerAhead =>
          cases taken : dispatchTurn callbacks event loop () with
          | none => exact ⟨[], loop, rfl, taken⟩
          | some next =>
              have later
                  (ends
                    : ∃ turns final,
                        run (dispatchTurn callbacks event) next turns = some final
                        ∧ dispatchTurn callbacks event final () = none)
                  : ∃ turns final,
                      run (dispatchTurn callbacks event) loop turns = some final
                      ∧ dispatchTurn callbacks event final () = none := by
                obtain ⟨turns, final, reached, ended⟩ := ends
                exact ⟨() :: turns, final, run_cons_iff.mpr ⟨next, taken, reached⟩, ended⟩
              have stillNone (turns : List Unit) (middle : DispatchLoop ω)
                  (walked : run (dispatchTurn callbacks event) next turns = some middle) :=
                noNewcomer (() :: turns) middle (run_cons_iff.mpr ⟨next, taken, walked⟩)
              cases dispatchTurn_effect taken with
              | skipped entry isNext unwanted result =>
                  obtain ⟨member, notPassed, _⟩ := LiveMap.next_eq_some_iff.mp isNext
                  have fewer : next.ahead.length < aheadCount := by
                    rw [← someAhead, result]
                    exact length_ahead_lt member notPassed
                  have noMoreOld : (next.oldAhead bound).length ≤ oldCount := by
                    rw [← someOld, result]
                    refine (List.monotone_filter_right _ fun other beyond => ?_).length_le
                    simp only [decide_eq_true_eq] at beyond ⊢
                    omega
                  have sameOld : bound ≤ next.dispatcher.nextNumber := by rw [result]; exact old
                  apply later
                  rcases Nat.lt_or_eq_of_le noMoreOld with less | same
                  · exact fewerOld _ less sameOld stillNone rfl
                  · exact fewerAhead _ fewer sameOld stillNone same rfl
              | called entry returned isNext wanted cursor invocations dispatched numbers =>
                  obtain ⟨member, notPassed, _⟩ := LiveMap.next_eq_some_iff.mp isNext
                  obtain ⟨stillOld, fewerOlder⟩ := numbers bound old
                  have isOld : entry ∈ loop.dispatcher.olderThan bound :=
                    mem_olderThan.mpr ⟨member, noNewcomer [] loop rfl entry isNext wanted⟩
                  have less : (next.oldAhead bound).length < oldCount := by
                    rw [← someOld]
                    refine Nat.lt_of_le_of_lt ?_ (length_ahead_lt isOld notPassed)
                    rw [DispatchLoop.oldAhead, cursor]
                    exact (fewerOlder.filter _).length_le
                  exact later (fewerOld _ less stillOld stillNone rfl)

-----------------------------------------------------------------------------------------
-- Exactness
-----------------------------------------------------------------------------------------

/-- What holds of a loop that has called subscriptions registered before it only: of these, nothing
but their absence has changed, and those called are among the ones that it has passed.
-/
structure CallsOlder (event : SorobanEvent) (dispatcher : EventDispatcher) (loop : DispatchLoop ω)
    : Prop where
  numbers : dispatcher.nextNumber ≤ loop.dispatcher.nextNumber
  older
    : (loop.dispatcher.olderThan dispatcher.nextNumber).Sublist dispatcher.subscriptions.entries
  called
    : (loop.invocations.map Invocation.subscription).Sublist
        (((dispatcher.subscriptions.before loop.cursor).filter fun entry =>
          entry.value.wants event).map LiveEntry.value)
  count : loop.dispatched = (loop.invocations.filter Invocation.returned).length

/-- A turn that calls no newcomer keeps to the older subscriptions, by cases on its effect. -/
theorem callsOlder_turn {dispatcher : EventDispatcher} (loop : DispatchLoop ω) (tick : Unit)
    (next : DispatchLoop ω)
    (noNewcomer
      : ∀ entry,
          loop.dispatcher.subscriptions.next loop.cursor = some entry
          → entry.value.wants event = true
          → entry.value.number < dispatcher.nextNumber)
    (taken : dispatchTurn callbacks event loop tick = some next)
    (callsOlder : CallsOlder event dispatcher loop)
    : CallsOlder event dispatcher next := by
  cases dispatchTurn_effect taken with
  | skipped entry ahead unwanted result =>
      obtain ⟨_, notPassed, _⟩ := LiveMap.next_eq_some_iff.mp ahead
      have wider := dispatcher.subscriptions.before_sublist (Nat.le_succ_of_le notPassed)
      subst result
      exact ⟨callsOlder.numbers, callsOlder.older,
        callsOlder.called.trans ((wider.filter _).map _), callsOlder.count⟩
  | called entry returned ahead wanted cursor invocations dispatched numbers =>
      obtain ⟨member, notPassed, _⟩ := LiveMap.next_eq_some_iff.mp ahead
      obtain ⟨stillOlder, fewer⟩ := numbers _ callsOlder.numbers
      have isOld := mem_olderThan.mpr ⟨member, noNewcomer entry ahead wanted⟩
      have registered := callsOlder.older.subset isOld
      refine ⟨stillOlder, fewer.trans callsOlder.older, ?_, ?_⟩
      · have wider := dispatcher.subscriptions.before_sublist notPassed
        rw [invocations, cursor, LiveMap.before_succ registered, List.filter_append,
          List.map_append, List.map_append]
        refine (callsOlder.called.trans ((wider.filter _).map _)).append ?_
        simp [wanted]
      · rw [dispatched, invocations, callsOlder.count, List.filter_append, List.length_append]
        cases returned <;> rfl

/-- A dispatch ends, calls the subscriptions that were registered before and are not removed in
time, each once and in their order, and returns the number of callbacks that returned, exactly when
its loop meets no matching subscription that was made during the dispatch. Witness: it ends because
every call passes an older subscription, and calls one of them at most once.
-/
theorem dispatch_exact_iff (callbacks : Callbacks ω) (event : SorobanEvent) (world : ω)
    (dispatcher : EventDispatcher)
    : (∃ turns final, ExactDispatch callbacks event world dispatcher turns final)
      ↔ meetsNoNewcomer callbacks event world dispatcher := by
  constructor
  · intro given turns loop walked entry ahead wanted
    obtain ⟨allTurns, final, exact⟩ := given
    obtain ⟨rest, onwards⟩ := run_onwards_of_ended exact.reached exact.ended walked
    cases rest with
    | nil =>
        obtain rfl := Option.some.inj onwards
        rw [passed_of_dispatchTurn_eq_none exact.ended] at ahead
        cases ahead
    | cons tick more =>
        obtain ⟨next, taken, later⟩ := run_cons_iff.mp onwards
        cases dispatchTurn_effect taken with
        | skipped other isNext unwanted result =>
            obtain rfl := Option.some.inj (ahead.symm.trans isNext)
            rw [wanted] at unwanted
            cases unwanted
        | called other returned isNext isWanted cursor invocations dispatched numbers =>
            obtain rfl := Option.some.inj (ahead.symm.trans isNext)
            have recorded := (invocations_isPrefix later).subset
            rw [invocations] at recorded
            have called : entry.value ∈ final.invocations.map Invocation.subscription :=
              List.mem_map.mpr ⟨⟨entry.value, returned⟩, recorded (by simp), rfl⟩
            obtain ⟨old, isOld, same⟩ := List.mem_map.mp (exact.called.subset called)
            rw [← same]
            exact dispatcher.numbered old (List.mem_of_mem_filter isOld)
  · intro noNewcomer
    have old : dispatcher.nextNumber ≤ (dispatch world dispatcher).dispatcher.nextNumber :=
      Nat.le_refl _
    obtain ⟨turns, final, reached, ended⟩ := dispatch_ends old noNewcomer
    have initial : CallsOlder event dispatcher (dispatch world dispatcher) :=
      ⟨Nat.le_refl _, by rw [dispatch, olderThan_nextNumber], by simp [dispatch], rfl⟩
    have callsOlder := run_preserves_of_stepsSatisfy callsOlder_turn initial
      (stepsSatisfy_of_forall_reachable fun front middle walked _ => noNewcomer front middle walked)
      reached
    refine ⟨turns, final, reached, ended, ?_, ?_, callsOlder.count⟩
    · exact callsOlder.called.trans ((List.filter_sublist.filter _).map _)
    · intro entry registered wanted
      rcases called_or_removed reached (Nat.zero_le _) wanted with notPassed | called | removed
      · -- A subscription that the loop never came to is not there any more.
        refine .inr ⟨turns, final, List.prefix_rfl, reached, notPassed, fun still => ?_⟩
        have passed :=
          LiveMap.next_eq_none_iff.mp (passed_of_dispatchTurn_eq_none ended) entry still
        omega
      · exact .inl called
      · exact .inr removed

/-- A callback that makes its own subscription anew. -/
private def resubscribe : Callbacks Unit :=
  fun _ _ _ _ =>
    { calls := [.unsubscribe "s", .subscribe "s" {} 0], throws := false, world := () }

/-- The only subscription is ahead of the loop. -/
private def oneAhead (loop : DispatchLoop Unit) : Prop :=
  ∃ stamp number,
    loop.dispatcher.subscriptions.entries
      = [⟨stamp, "s", { number := number, id := "s", filter := {}, callback := 0 }⟩]
    ∧ loop.cursor ≤ stamp

/-- A subscription that is made anew is ahead of the loop that has called it. -/
private theorem oneAhead_turn {event : SorobanEvent} {loop : DispatchLoop Unit} (tick : Unit)
    (one : oneAhead loop)
    : ∃ next, dispatchTurn resubscribe event loop tick = some next ∧ oneAhead next := by
  obtain ⟨stamp, number, entries, ahead⟩ := one
  have isNext
      : loop.dispatcher.subscriptions.next loop.cursor
        = some ⟨stamp, "s", { number := number, id := "s", filter := {}, callback := 0 }⟩ := by
    simp [LiveMap.next, entries, ahead]
  have below := loop.dispatcher.subscriptions.bounded _ (entries ▸ List.mem_singleton_self _)
  have taken
      : dispatchTurn resubscribe event loop tick
        = some
            ({ loop with cursor := stamp + 1 }.call resubscribe event
              { number := number, id := "s", filter := {}, callback := 0 }) := by
    rw [dispatchTurn, isNext]
    rfl
  refine ⟨_, taken, loop.dispatcher.subscriptions.nextStamp, loop.dispatcher.nextNumber, ?_, below⟩
  simp [DispatchLoop.call, resubscribe, DispatcherCall.apply, EventDispatcher.subscribe,
    EventDispatcher.unsubscribe, EventDispatcher.incrementCount, LiveMap.set, LiveMap.delete,
    entries]

/-- With a subscription whose callback makes it anew, the dispatch does not end. -/
theorem dispatch_endless_resubscribing
    : ¬ ∃ turns final,
        ExactDispatch resubscribe { id := "e", type := .contract } ()
          (EventDispatcher.empty.subscribe "s" {} 0) turns final := by
  intro given
  obtain ⟨turns, final, exact⟩ := given
  have one : oneAhead (dispatch () (EventDispatcher.empty.subscribe "s" {} 0)) :=
    ⟨0, 0, rfl, Nat.le_refl _⟩
  have still : oneAhead final := by
    refine run_preserves (fun loop tick next taken one => ?_) one exact.reached
    obtain ⟨other, same, stillOne⟩ := oneAhead_turn tick one
    exact Option.some.inj (same.symm.trans taken) ▸ stillOne
  obtain ⟨next, taken, _⟩ := oneAhead_turn () still
  rw [exact.ended] at taken
  cases taken

end Axionvera.Events
