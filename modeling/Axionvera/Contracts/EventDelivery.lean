import Axionvera.Contracts.ContractEventEmitter

/-! How often listeners are called for an event: once, as long as no emission goes through a
listener again or misses one. The names that stand for all events make both happen.
-/

namespace Axionvera.Contracts

open Axionvera.Foundation

-----------------------------------------------------------------------------------------
-- The property and when it holds
-----------------------------------------------------------------------------------------

/-- The names whose listeners every emission reaches. -/
def catchAll : List String := ["event", "*"]

/-- Nothing has been emitted yet. -/
def Emission.isFresh (emission : Emission) : Prop :=
  emission.names = emittedNames emission.event

/-- The listener was there for the event and has yet to be called. -/
def Emission.awaits (emission : Emission) (registration : Registration) : Prop :=
  registration ∈ emission.listeners
  ∨ registration.name ∉ catchAll ∧ registration.name ∈ emission.names

/-- Emitting an event under the name goes through listeners that it has not reached before, and
through all of those it should reach. Listeners that were there for the event stand under `event`
never, and under `*` when the event is first emitted only.
-/
structure EmitsOnce (emitter : ContractEventEmitter) (emission : Emission) (name : String)
    : Prop where
  notAgain
    : ∀ registration ∈ emitter.listeners,
        registration ∈ emission.covering
        → registration.name ∈ catchAll
        → registration.name = "*" ∧ emission.isFresh
  notTwice
    : name ∈ catchAll
      → ∀ registration ∈ emitter.listeners, registration.name = name → registration.isOnce = false
  notGone
    : name ∉ catchAll
      → ∀ registration ∈ emission.covering,
          registration.name = name → registration ∈ emitter.listeners

/-- What is emitted reaches every listener once, and a callback throws what cannot be logged only
when nobody waits for a call any more, be it for the rest of the page.
-/
def deliversOnce (topics : List String) (contract : PolledContract) : PollingAction → Prop
  | .emit =>
      ∀ page ∈ contract.current,
        ∀ name ∈ page.2.names.head?, EmitsOnce contract.emitter page.2 name
  | .finish (.throws false) =>
      ∀ page ∈ contract.current,
        (∀ registration ∈ page.2.covering, ¬page.2.awaits registration)
        ∧ ∀ lost ∈ page.1.filterMap (contract.emitter.emission topics), lost.covering = []
  | _ => True

instance (emission : Emission) : Decidable emission.isFresh :=
  inferInstanceAs (Decidable (_ = _))

instance (emission : Emission) : DecidablePred emission.awaits :=
  fun _ => inferInstanceAs (Decidable (_ ∨ _ ∧ _))

instance (emitter : ContractEventEmitter) (emission : Emission) (name : String)
    : Decidable (EmitsOnce emitter emission name) :=
  decidable_of_iff
    ((∀ registration ∈ emitter.listeners,
        registration ∈ emission.covering
        → registration.name ∈ catchAll
        → registration.name = "*" ∧ emission.isFresh)
      ∧ (name ∈ catchAll
        → ∀ registration ∈ emitter.listeners,
            registration.name = name → registration.isOnce = false)
      ∧ (name ∉ catchAll
        → ∀ registration ∈ emission.covering,
            registration.name = name → registration ∈ emitter.listeners))
    ⟨fun ⟨notAgain, notTwice, notGone⟩ => ⟨notAgain, notTwice, notGone⟩,
      fun ⟨notAgain, notTwice, notGone⟩ => ⟨notAgain, notTwice, notGone⟩⟩

instance (topics : List String) (contract : PolledContract)
    : DecidablePred (deliversOnce topics contract)
  | .emit => inferInstanceAs (Decidable (∀ page ∈ contract.current, ∀ name ∈ _, EmitsOnce _ _ _))
  | .finish (.throws false) =>
      inferInstanceAs (Decidable (∀ page ∈ contract.current, (∀ _ ∈ _, ¬_) ∧ ∀ _ ∈ _, _ = []))
  | .finish .returns | .finish (.throws true) | .operate _ | .tick | .serve _ | .arrive | .fail
  | .append _ _ | .process | .call => .isTrue trivial

/-- The emissions that have ended, be it just now. -/
def PolledContract.endedEmissions (contract : PolledContract) : List Emission :=
  contract.emissions
  ++ (contract.current.map Prod.snd).toList.filter Emission.isOver

/-- Every listener that was there for an event has been called exactly once for it, and a listener
that `once` has registered at most once in its life.
-/
def CalledOnce (contract : PolledContract) : Prop :=
  (∀ emission ∈ contract.endedEmissions,
    ∀ registration ∈ emission.covering, emission.calls.count registration = 1)
  ∧ ∀ registration, registration.isOnce = true → contract.calls.count registration ≤ 1

-----------------------------------------------------------------------------------------
-- What operations do to listeners
-----------------------------------------------------------------------------------------

/-- A wrapper has one of the numbers that have been given. -/
def Registration.isKnown (bound : Nat) (registration : Registration) : Prop :=
  match registration.listener with
  | .callback _ => True
  | .wrapped number _ => number < bound

/-- What can happen to listeners: they go away, and wrappers that come have a new number. -/
structure ListenersChanged (before after : ContractEventEmitter) : Prop where
  nodup : before.listeners.Nodup → after.listeners.Nodup
  numbers : before.nextWrapper ≤ after.nextWrapper
  arrived
    : ∀ registration ∈ after.listeners,
        registration.isOnce = true
        → registration ∈ before.listeners
          ∨ ¬registration.isKnown before.nextWrapper ∧ registration.isKnown after.nextWrapper

/-- Registrations that are known stay known. -/
theorem Registration.isKnown_mono {low high : Nat} {registration : Registration} (le : low ≤ high)
    (known : registration.isKnown low)
    : registration.isKnown high := by
  unfold Registration.isKnown at known ⊢
  split at known
  · trivial
  · exact known.trans_le le

namespace ContractEventEmitter

variable {emitter : ContractEventEmitter}

/-- Listeners only go away. -/
theorem listenersChanged_of_sublist {after : ContractEventEmitter}
    (fewer : after.listeners.Sublist emitter.listeners)
    (numbers : after.nextWrapper = emitter.nextWrapper)
    : ListenersChanged emitter after :=
  {
    nodup := fun nodup => nodup.sublist fewer
    numbers := numbers.ge
    arrived := fun _ member _ => .inl (fewer.subset member)
  }

@[simp] theorem start_listeners : emitter.start.listeners = emitter.listeners := by
  unfold start
  split <;> rfl

@[simp] theorem start_nextWrapper : emitter.start.nextWrapper = emitter.nextWrapper := by
  unfold start
  split <;> rfl

@[simp] theorem close_nextWrapper : emitter.close.nextWrapper = emitter.nextWrapper := by
  unfold close
  split <;> rfl

/-- Closing leaves the listeners of a closed emitter, of which there are none, and removes those of
an open one.
-/
theorem close_listeners_sublist : emitter.close.listeners.Sublist emitter.listeners := by
  unfold close
  split
  · exact .refl _
  · exact List.nil_sublist _

@[simp] theorem closeIfEmpty_nextWrapper
    : emitter.closeIfEmpty.nextWrapper = emitter.nextWrapper := by
  unfold closeIfEmpty
  split <;> simp

/-- Closing an emitter leaves none of its listeners, and otherwise all stay. -/
theorem closeIfEmpty_listeners_sublist
    : emitter.closeIfEmpty.listeners.Sublist emitter.listeners := by
  unfold closeIfEmpty
  split
  · exact close_listeners_sublist
  · exact .refl _

/-- `closeIfEmpty` closes when there is nothing to remove. -/
@[simp] theorem closeIfEmpty_listeners
    : emitter.closeIfEmpty.listeners = emitter.listeners := by
  by_cases empty : emitter.listeners = []
  · rw [empty]
    exact List.sublist_nil.mp (empty ▸ closeIfEmpty_listeners_sublist)
  · simp [closeIfEmpty, empty]

/-- What `off` leaves. -/
theorem off_listeners {registration : Registration}
    : (emitter.off registration).listeners
      = emitter.listeners.filter fun other => other ≠ registration := by
  simp [off]

@[simp] theorem off_nextWrapper {registration : Registration}
    : (emitter.off registration).nextWrapper = emitter.nextWrapper := by
  simp [off]

/-- Registering a listener adds it, unless the emitter is closed or has it. -/
theorem mem_on_listeners {name : String} {listener : Listener} {registration : Registration}
    (member : registration ∈ (emitter.on name listener).listeners)
    : registration ∈ emitter.listeners ∨ registration = { name := name, listener := listener } := by
  unfold on at member
  split at member
  · exact .inl member
  · simp only [start_listeners] at member
    split at member
    · exact .inl member
    · simpa using member

@[simp] theorem on_nextWrapper {name : String} {listener : Listener}
    : (emitter.on name listener).nextWrapper = emitter.nextWrapper := by
  unfold on
  split <;> simp

/-- No listener is registered twice. -/
theorem on_listeners_nodup {name : String} {listener : Listener}
    (nodup : emitter.listeners.Nodup)
    : (emitter.on name listener).listeners.Nodup := by
  unfold on
  split
  · exact nodup
  · simp only [start_listeners]
    split
    · exact nodup
    · rename_i missing
      exact List.nodup_append.mpr ⟨nodup, List.nodup_singleton _, by
        intro old isOld new isNew same
        obtain rfl := List.mem_singleton.mp isNew
        exact missing (same ▸ isOld)⟩

/-- `removeAllListeners` only removes. -/
theorem removeAllListeners_listenersChanged {eventName : Option String}
    : ListenersChanged emitter (emitter.removeAllListeners eventName) := by
  unfold removeAllListeners
  split
  · refine listenersChanged_of_sublist ?_ closeIfEmpty_nextWrapper
    rw [closeIfEmpty_listeners]
    exact List.filter_sublist
  · refine listenersChanged_of_sublist ?_ closeIfEmpty_nextWrapper
    rw [closeIfEmpty_listeners]
    exact List.nil_sublist _

/-- Every operation changes listeners in the ways that are possible, by cases on it. -/
theorem operate_listenersChanged (operation : Operation)
    : ListenersChanged emitter (emitter.operate operation) := by
  cases operation with
  | on name callback =>
      refine ⟨on_listeners_nodup, on_nextWrapper.ge, fun registration member isOnce => ?_⟩
      rcases mem_on_listeners member with old | rfl
      · exact .inl old
      · cases isOnce
  | once name callback =>
      refine ⟨fun nodup => on_listeners_nodup nodup, ?_, fun registration member isOnce => ?_⟩
      · simp [operate, once]
      · rcases mem_on_listeners member with old | rfl
        · exact .inl old
        · simp [operate, once, Registration.isKnown]
  | off name callback =>
      refine listenersChanged_of_sublist ?_ off_nextWrapper
      rw [operate, off_listeners]
      exact List.filter_sublist
  | removeAllListeners eventName => exact removeAllListeners_listenersChanged
  | start => exact listenersChanged_of_sublist (by simp [operate]) start_nextWrapper
  | stop => exact listenersChanged_of_sublist (.refl _) rfl
  | close => exact listenersChanged_of_sublist close_listeners_sublist close_nextWrapper

/-- Calling a listener removes it if it is a wrapper, and leaves the others. -/
theorem called_listeners {registration : Registration}
    : (emitter.called registration).listeners
      = if registration.isOnce then emitter.listeners.filter fun other => other ≠ registration
        else emitter.listeners := by
  unfold called
  split
  · exact off_listeners
  · rfl

/-- A call removes the listener that was called, if it is a wrapper, and adds none. -/
theorem called_listenersChanged {registration : Registration}
    : ListenersChanged emitter (emitter.called registration) := by
  refine listenersChanged_of_sublist ?_ ?_
  · rw [called_listeners]
    split
    · exact List.filter_sublist
    · exact .refl _
  · unfold called
    split
    · exact off_nextWrapper
    · rfl

/-- How often the listeners of a name contain one: as often as all of them, if the name is its own.
-/
theorem count_listenersOf {name : String} {registration : Registration}
    : (emitter.listenersOf name).count registration
      = if registration.name = name then emitter.listeners.count registration else 0 := by
  unfold listenersOf
  split
  · rename_i same
    exact List.count_filter (by simpa using same)
  · rename_i differs
    refine List.count_eq_zero.mpr fun member => differs ?_
    simpa using List.of_mem_filter member

/-- How often an emission goes through a listener: for its own name, and for the names that stand
for all events.
-/
theorem count_emit {name : String} {registration : Registration}
    : (emitter.emit name).count registration
      = (if registration.name = name then emitter.listeners.count registration else 0)
        + (if registration.name = "event" then emitter.listeners.count registration else 0)
        + (if registration.name = "*" then emitter.listeners.count registration else 0) := by
  simp only [emit, List.count_append, count_listenersOf]

end ContractEventEmitter

-----------------------------------------------------------------------------------------
-- The life of wrappers
-----------------------------------------------------------------------------------------

/-- The listeners that the current emission has yet to call. -/
def PolledContract.pending (contract : PolledContract) : List Registration :=
  match contract.poll with
  | some (.page _ (some emission)) => emission.listeners
  | _ => []

/-- A wrapper that is registered has not been called, and one that will be called has not been
called either.
-/
structure WrappersOnce (contract : PolledContract) : Prop where
  nodup : contract.emitter.listeners.Nodup
  known
    : ∀ registration,
        registration.isOnce = true
        → registration ∈ contract.emitter.listeners
          ∨ registration ∈ contract.pending
          ∨ registration ∈ contract.calls
        → registration.isKnown contract.emitter.nextWrapper
  once
    : ∀ registration,
        registration.isOnce = true
        → contract.calls.count registration + contract.pending.count registration ≤ 1
  uncalled
    : ∀ registration ∈ contract.emitter.listeners,
        registration.isOnce = true → contract.calls.count registration = 0

section Wrappers

variable {before after : PolledContract}

/-- Without an emission or a call, it is enough that listeners change in the ways that are possible:
a wrapper that comes has a number that no other has had.
-/
theorem WrappersOnce.changed (inv : WrappersOnce before)
    (changed : ListenersChanged before.emitter after.emitter)
    (sameCalls : after.calls = before.calls)
    (fewer : after.pending.Sublist before.pending)
    : WrappersOnce after := by
  refine ⟨changed.nodup inv.nodup, ?_, ?_, ?_⟩
  · intro registration isOnce member
    rcases member with registered | waits | wasCalled
    · rcases changed.arrived registration registered isOnce with old | new
      · exact Registration.isKnown_mono changed.numbers (inv.known registration isOnce (.inl old))
      · exact new.2
    · exact Registration.isKnown_mono changed.numbers
        (inv.known registration isOnce (.inr (.inl (fewer.subset waits))))
    · rw [sameCalls] at wasCalled
      exact Registration.isKnown_mono changed.numbers
        (inv.known registration isOnce (.inr (.inr wasCalled)))
  · intro registration isOnce
    rw [sameCalls]
    have fewerCount := fewer.count_le registration
    have count := inv.once registration isOnce
    omega
  · intro registration registered isOnce
    rw [sameCalls]
    rcases changed.arrived registration registered isOnce with old | new
    · exact inv.uncalled registration old isOnce
    · refine List.count_eq_zero.mpr fun wasCalled => new.1 ?_
      exact inv.known registration isOnce (.inr (.inr wasCalled))

/-- A wrapper is reached at most once by an emission that goes through no wrapper twice. -/
theorem count_emit_le_one {emitter : ContractEventEmitter} {name : String}
    {registration : Registration} (nodup : emitter.listeners.Nodup)
    (notTwice : name ∈ catchAll → registration ∈ emitter.listeners → registration.name ≠ name)
    : (emitter.emit name).count registration ≤ 1 := by
  have atMost := List.nodup_iff_count_le_one.mp nodup registration
  rw [ContractEventEmitter.count_emit]
  by_cases registered : registration ∈ emitter.listeners
  · by_cases isName : registration.name = name
    · have plain : name ∉ catchAll := fun isCatchAll => notTwice isCatchAll registered isName
      simp only [catchAll, List.mem_cons, List.not_mem_nil, or_false, not_or] at plain
      rw [if_pos isName, isName, if_neg plain.1, if_neg plain.2]
      omega
    · rw [if_neg isName]
      by_cases isEvent : registration.name = "event"
      · rw [if_pos isEvent, isEvent, if_neg (by decide)]
        omega
      · rw [if_neg isEvent]
        split <;> omega
  · simp [List.count_eq_zero.mpr registered]

/-- An emission reaches registered listeners only. -/
theorem mem_of_mem_emit {emitter : ContractEventEmitter} {name : String}
    {registration : Registration} (member : registration ∈ emitter.emit name)
    : registration ∈ emitter.listeners := by
  simp only [ContractEventEmitter.emit, ContractEventEmitter.listenersOf, List.mem_append] at member
  rcases member with (own | event) | star
  · exact List.mem_of_mem_filter own
  · exact List.mem_of_mem_filter event
  · exact List.mem_of_mem_filter star

/-- An emission starts to go through listeners, none of which is a wrapper that is reached twice. -/
theorem WrappersOnce.emit {name : String} (inv : WrappersOnce before)
    (sameEmitter : after.emitter = before.emitter) (sameCalls : after.calls = before.calls)
    (reached : after.pending = before.emitter.emit name)
    (notTwice
      : name ∈ catchAll
        → ∀ registration ∈ before.emitter.listeners,
            registration.name = name → registration.isOnce = false)
    : WrappersOnce after := by
  refine ⟨sameEmitter ▸ inv.nodup, ?_, ?_, ?_⟩
  · intro registration isOnce member
    rw [sameEmitter, sameCalls, reached] at *
    refine inv.known registration isOnce ?_
    rcases member with registered | waits | wasCalled
    · exact .inl registered
    · exact .inl (mem_of_mem_emit waits)
    · exact .inr (.inr wasCalled)
  · intro registration isOnce
    rw [sameCalls, reached]
    by_cases registered : registration ∈ before.emitter.listeners
    · rw [inv.uncalled registration registered isOnce, Nat.zero_add]
      refine count_emit_le_one inv.nodup fun isCatchAll _ isName => ?_
      rw [notTwice isCatchAll registration registered isName] at isOnce
      cases isOnce
    · rw [List.count_eq_zero.mpr fun waits => registered (mem_of_mem_emit waits)]
      exact (Nat.le_add_right _ _).trans (inv.once registration isOnce)
  · intro registration registered isOnce
    rw [sameEmitter] at registered
    rw [sameCalls]
    exact inv.uncalled registration registered isOnce

/-- A listener is called: what is due becomes what has been called, and a wrapper is gone. -/
theorem WrappersOnce.call {registration : Registration} {others : List Registration}
    (inv : WrappersOnce before) (due : before.pending = registration :: others)
    (emitter : after.emitter = before.emitter.called registration)
    (calls : after.calls = before.calls ++ [registration]) (left : after.pending = others)
    : WrappersOnce after := by
  have changed : ListenersChanged before.emitter (before.emitter.called registration) :=
    ContractEventEmitter.called_listenersChanged
  rw [← emitter] at changed
  have moved (other : Registration)
      : after.calls.count other + after.pending.count other
        = before.calls.count other + before.pending.count other := by
    simp only [calls, left, due, List.count_append, List.count_cons, List.count_nil]
    omega
  have remains (other : Registration) (isOnce : other.isOnce = true)
      (registered : other ∈ after.emitter.listeners)
      : other ∈ before.emitter.listeners ∧ other ≠ registration := by
    rw [emitter, ContractEventEmitter.called_listeners] at registered
    split at registered
    · exact ⟨List.mem_of_mem_filter registered, by simpa using List.of_mem_filter registered⟩
    · rename_i plain
      exact ⟨registered, fun same => plain (same ▸ isOnce)⟩
  refine ⟨changed.nodup inv.nodup, ?_, ?_, ?_⟩
  · intro other isOnce member
    refine Registration.isKnown_mono changed.numbers (inv.known other isOnce ?_)
    rcases member with registered | waits | wasCalled
    · exact .inl (remains other isOnce registered).1
    · exact .inr (.inl (due ▸ List.mem_cons_of_mem _ (left ▸ waits)))
    · rw [calls] at wasCalled
      rcases List.mem_append.mp wasCalled with earlier | now
      · exact .inr (.inr earlier)
      · exact .inr (.inl (due ▸ List.mem_singleton.mp now ▸ List.mem_cons_self))
  · intro other isOnce
    rw [moved]
    exact inv.once other isOnce
  · intro other registered isOnce
    obtain ⟨old, differs⟩ := remains other isOnce registered
    rw [calls, List.count_append, inv.uncalled other old isOnce,
      List.count_eq_zero.mpr fun same => differs (List.mem_singleton.mp same)]

end Wrappers

-----------------------------------------------------------------------------------------
-- One emission
-----------------------------------------------------------------------------------------

/-- A name and its `event:` form differ, since the latter is longer. -/
theorem event_append_ne (name : String) : "event:" ++ name ≠ name := by
  intro same
  have lengths := congrArg String.length same
  simp [String.length_append] at lengths

/-- Names that do not stand for all events are emitted once, by cases on how many are left. -/
theorem not_mem_later_names {event : ContractEvent} {name : String} {names : List String}
    (left : name :: names <:+ (emittedNames event).tail) (plain : name ∉ catchAll)
    : name ∉ names := by
  unfold emittedNames at left
  split at left
  · rename_i own _
    simp only [List.cons_append, List.nil_append, List.tail_cons, List.suffix_cons_iff,
      List.cons.injEq, List.suffix_nil, reduceCtorEq, or_false] at left
    rcases left with ⟨rfl, _⟩ | ⟨rfl, rfl⟩ | ⟨rfl, rfl⟩
    · exact absurd (by simp [catchAll]) plain
    · simpa using (event_append_ne _).symm
    · simp
  · simp only [List.cons_append, List.nil_append, List.tail_cons, List.suffix_cons_iff,
      List.cons.injEq, List.suffix_nil, reduceCtorEq, or_false] at left
    exact absurd (by simp [catchAll, left.1]) plain

/-- An emission that has not begun: those who were there for the event still are. -/
structure EmissionFresh (emitter : ContractEventEmitter) (emission : Emission) : Prop where
  fresh : emission.isFresh
  idle : emission.isCalling = false
  noListeners : emission.listeners = []
  noCalls : emission.calls = []
  registered : ∀ registration ∈ emission.covering, registration ∈ emitter.listeners

/-- An emission under way: calls that have been made and calls that are due add up to one, except
for listeners whose own name is still to come.
-/
structure EmissionGoing (emission : Emission) : Prop where
  left : emission.names <:+ (emittedNames emission.event).tail
  notEvent : ∀ registration ∈ emission.covering, registration.name ≠ "event"
  counts
    : ∀ registration ∈ emission.covering,
        emission.calls.count registration + emission.listeners.count registration
          = if registration.name ∉ catchAll ∧ registration.name ∈ emission.names then 0 else 1

/-- What holds of the current emission. -/
structure EmissionInv (emitter : ContractEventEmitter) (emission : Emission) : Prop where
  covers : ∀ registration ∈ emission.covering, registration.name ∈ emittedNames emission.event
  stage : EmissionFresh emitter emission ∨ EmissionGoing emission

section Emissions

variable {emitter : ContractEventEmitter} {emission : Emission}

/-- An emission starts fresh. -/
theorem emissionInv_of_emission {topics : List String} {event : EventResponse}
    {noted : ContractEventEmitter} (same : noted.listeners = emitter.listeners)
    (begun : emitter.emission topics event = some emission)
    : EmissionInv noted emission := by
  unfold ContractEventEmitter.emission at begun
  simp only [Option.ite_none_right_eq_some, Option.some.injEq] at begun
  obtain ⟨_, rfl⟩ := begun
  refine ⟨fun registration member => ?_, .inl ⟨rfl, rfl, rfl, rfl, fun registration member => ?_⟩⟩
  · simpa using List.of_mem_filter member
  · rw [same]
    exact List.mem_of_mem_filter member

/-- Nobody is due when an emission begins. -/
theorem pending_process {topics : List String} {contract : PolledContract} {event : EventResponse}
    {rest : List EventResponse}
    : (contract.process topics event rest).pending = [] := by
  unfold PolledContract.process PolledContract.pending
  cases begun : contract.emitter.emission topics event with
  | none => rfl
  | some emission =>
      unfold ContractEventEmitter.emission at begun
      simp only [Option.ite_none_right_eq_some, Option.some.injEq] at begun
      obtain ⟨_, rfl⟩ := begun
      rfl

/-- An emission is not fresh any more while a callback runs or is due. -/
theorem EmissionInv.going_of_busy (inv : EmissionInv emitter emission)
    (busy : emission.isCalling = true ∨ emission.listeners ≠ [])
    : EmissionGoing emission := by
  rcases inv.stage with fresh | going
  · rcases busy with isCalling | due
    · rw [fresh.idle] at isCalling
      cases isCalling
    · exact absurd fresh.noListeners due
  · exact going

/-- Everybody has been called when nobody waits. -/
theorem EmissionGoing.counted (going : EmissionGoing emission)
    (nobody : ∀ registration ∈ emission.covering, ¬emission.awaits registration)
    : ∀ registration ∈ emission.covering, emission.calls.count registration = 1 := by
  intro registration member
  have waits := nobody registration member
  unfold Emission.awaits at waits
  rw [not_or] at waits
  have counts := going.counts registration member
  rwa [if_neg waits.2, List.count_eq_zero.mpr waits.1, Nat.add_zero] at counts

/-- Everybody has been called when an emission is over. -/
theorem EmissionInv.counted_of_isOver (inv : EmissionInv emitter emission)
    (isOver : emission.isOver = true)
    : ∀ registration ∈ emission.covering, emission.calls.count registration = 1 := by
  simp only [Emission.isOver, Bool.and_eq_true, decide_eq_true_eq] at isOver
  obtain ⟨⟨noNames, noListeners⟩, _⟩ := isOver
  rcases inv.stage with fresh | going
  · have started := fresh.fresh
    rw [Emission.isFresh, noNames, emittedNames] at started
    simp at started
  · refine going.counted fun registration _ waits => ?_
    rcases waits with due | ⟨_, named⟩
    · rw [noListeners] at due
      cases due
    · rw [noNames] at named
      cases named

/-- The first emission, under `event`, reaches the listeners under `*`. -/
theorem EmissionFresh.emit {name : String} {names : List String}
    (fresh : EmissionFresh emitter emission) (nodup : emitter.listeners.Nodup)
    (covers : ∀ registration ∈ emission.covering, registration.name ∈ emittedNames emission.event)
    (isNext : emission.names = name :: names) (once : EmitsOnce emitter emission name)
    : EmissionGoing { emission with names := names, listeners := emitter.emit name } := by
  have allNames : emittedNames emission.event = name :: names := fresh.fresh.symm.trans isNext
  have isEvent : name = "event" := by
    rw [emittedNames] at allNames
    exact (List.cons.inj allNames).1.symm
  have notEvent : ∀ registration ∈ emission.covering, registration.name ≠ "event" := by
    intro registration member isEvent
    have again := once.notAgain registration (fresh.registered registration member) member
      (by simp [catchAll, isEvent])
    rw [again.1] at isEvent
    exact absurd isEvent (by decide)
  refine ⟨?_, notEvent, ?_⟩
  · rw [allNames]
    exact List.suffix_refl _
  · intro registration member
    have differs := notEvent registration member
    have single : emitter.listeners.count registration = 1 :=
      List.count_eq_one_of_mem nodup (fresh.registered registration member)
    simp only [fresh.noCalls, List.count_nil, Nat.zero_add, ContractEventEmitter.count_emit,
      isEvent,
      if_neg differs, single]
    by_cases isStar : registration.name = "*"
    · simp [isStar, catchAll]
    · have named := covers registration member
      rw [allNames, isEvent] at named
      have later : registration.name ∈ names :=
        (List.mem_cons.mp named).resolve_left differs
      simp [isStar, catchAll, differs, later]

/-- A later emission reaches the listeners of its own name and nobody else. -/
theorem EmissionGoing.emit {name : String} {names : List String} (going : EmissionGoing emission)
    (nodup : emitter.listeners.Nodup) (isNext : emission.names = name :: names)
    (noListeners : emission.listeners = []) (once : EmitsOnce emitter emission name)
    : EmissionGoing { emission with names := names, listeners := emitter.emit name } := by
  have left := going.left
  rw [isNext] at left
  have notFresh : ¬emission.isFresh := by
    intro fresh
    have shorter := going.left.length_le
    rw [Emission.isFresh.eq_def] at fresh
    rw [fresh, List.length_tail, emittedNames] at shorter
    simp at shorter
  refine ⟨(List.suffix_cons _ _).trans left, going.notEvent, ?_⟩
  intro registration member
  have before := going.counts registration member
  have differs := going.notEvent registration member
  simp only [noListeners, List.count_nil, Nat.add_zero, isNext] at before
  simp only [before, ContractEventEmitter.count_emit, if_neg differs]
  by_cases plain : registration.name ∈ catchAll
  · -- A listener under `*` has been reached before, and must not be there any more.
    have gone : registration ∉ emitter.listeners := fun registered =>
      notFresh (once.notAgain registration registered member plain).2
    simp [List.count_eq_zero.mpr gone, plain]
  · have notStar : registration.name ≠ "*" := fun isStar => plain (by simp [catchAll, isStar])
    by_cases isName : registration.name = name
    · have single : emitter.listeners.count registration = 1 :=
        List.count_eq_one_of_mem nodup
          (once.notGone (isName ▸ plain) registration member isName)
      have noMore := not_mem_later_names left (isName ▸ plain)
      simp [isName, single, noMore, isName ▸ plain, isName ▸ notStar]
    · simp [isName, plain, notStar]

/-- A call that was due has been made. -/
theorem EmissionGoing.call {registration : Registration} {others : List Registration}
    (going : EmissionGoing emission) (due : emission.listeners = registration :: others)
    : EmissionGoing
        { emission with
          listeners := others
          isCalling := true
          calls := emission.calls ++ [registration] } := by
  refine ⟨going.left, going.notEvent, fun other member => ?_⟩
  rw [← going.counts other member, due]
  simp only [List.count_append, List.count_cons, List.count_nil]
  omega

end Emissions

-----------------------------------------------------------------------------------------
-- Runs
-----------------------------------------------------------------------------------------

/-- The invariant of deliveries. -/
structure DeliveryInv (contract : PolledContract) : Prop where
  wrappers : WrappersOnce contract
  current
    : ∀ rest emission,
        contract.poll = some (.page rest (some emission))
        → EmissionInv contract.emitter emission
  ended
    : ∀ emission ∈ contract.emissions,
        ∀ registration ∈ emission.covering, emission.calls.count registration = 1

variable {topics : List String} {cursors : Cursors} {contract next : PolledContract}

/-- Nothing has happened at first. -/
theorem deliveryInv_initial (server : EventServer) : DeliveryInv (.initial server) :=
  {
    wrappers :=
      {
        nodup := .nil
        known := by
          intro registration _ member
          rcases member with registered | waits | wasCalled
          · cases registered
          · cases waits
          · cases wasCalled
        once := fun registration _ => by simp [PolledContract.initial, PolledContract.pending]
        uncalled := fun registration registered => by cases registered
      }
    current := fun rest emission page => by cases page
    ended := fun emission member => by cases member
  }

/-- What a poll waits for says nothing about emissions. -/
theorem DeliveryInv.waiting (inv : DeliveryInv contract)
    (changed : ListenersChanged contract.emitter next.emitter)
    (sameCalls : next.calls = contract.calls) (sameEmissions : next.emissions = contract.emissions)
    (noEmission : ∀ rest emission, next.poll ≠ some (.page rest (some emission)))
    : DeliveryInv next := by
  have noPending : next.pending = [] := by
    unfold PolledContract.pending
    split
    · rename_i rest emission page
      exact absurd page (noEmission rest emission)
    · rfl
  exact
    {
      wrappers := inv.wrappers.changed changed sameCalls (noPending ▸ List.nil_sublist _)
      current := fun rest emission page => absurd page (noEmission rest emission)
      ended := sameEmissions ▸ inv.ended
    }

/-- No listener comes or goes. -/
theorem ListenersChanged.of_same {before after : ContractEventEmitter}
    (same : after.listeners = before.listeners) (numbers : after.nextWrapper = before.nextWrapper)
    : ListenersChanged before after :=
  ContractEventEmitter.listenersChanged_of_sublist (same ▸ .refl _) numbers

/-- What operations do to the current emission, which is under way while they are possible. -/
theorem DeliveryInv.operate {operation : Operation} (inv : DeliveryInv contract)
    (isYielding : contract.isYielding = true)
    : DeliveryInv { contract with emitter := contract.emitter.operate operation } := by
  refine ⟨?_, fun rest emission page => ?_, inv.ended⟩
  · exact inv.wrappers.changed (ContractEventEmitter.operate_listenersChanged operation) rfl
      (.refl _)
  · have isCalling : emission.isCalling = true := by
      change contract.poll = _ at page
      simpa [PolledContract.isYielding, page] using isYielding
    have current := inv.current rest emission page
    exact ⟨current.covers, .inr (current.going_of_busy (.inl isCalling))⟩

/-- The timer starts a poll at most. -/
theorem DeliveryInv.tick (inv : DeliveryInv contract) : DeliveryInv contract.tick := by
  unfold PolledContract.tick
  split
  · exact inv
  · split
    · exact inv.waiting (.of_same rfl rfl) rfl rfl fun rest emission page => by cases page
    · exact inv.waiting (.of_same rfl rfl) rfl rfl fun rest emission page => by cases page

/-- The emissions that are recorded when one is over are all as they should be. -/
theorem DeliveryInv.recorded {rest : List EventResponse} {emission : Option Emission}
    (inv : DeliveryInv contract) (page : contract.poll = some (.page rest emission))
    (isOver : emission.all Emission.isOver = true)
    : ∀ ended ∈ (contract.recorded emission).emissions,
        ∀ registration ∈ ended.covering, ended.calls.count registration = 1 := by
  intro ended member
  rcases List.mem_append.mp member with earlier | now
  · exact inv.ended ended earlier
  · obtain rfl := Option.mem_toList.mp now
    exact (inv.current rest ended page).counted_of_isOver isOver

/-- A step that delivers once keeps the invariant, by cases on what it is. -/
theorem deliveryInv_step {action : PollingAction}
    (allowed : deliversOnce topics contract action)
    (taken : pollingStep topics cursors contract action = some next) (inv : DeliveryInv contract)
    : DeliveryInv next := by
  cases pollingTransition_of_step taken with
  | operate isYielding => exact inv.operate isYielding
  | tick isSet isWaiting => exact inv.tick
  | serveLedger asked =>
      exact inv.waiting (.of_same rfl rfl) rfl rfl fun rest emission page => by cases page
  | serveEvents asked =>
      exact inv.waiting (.of_same rfl rfl) rfl rfl fun rest emission page => by cases page
  | arriveLedger answered =>
      exact inv.waiting (.of_same rfl rfl) rfl rfl fun rest emission page => by cases page
  | arriveEvents answered =>
      exact inv.waiting (.of_same rfl rfl) rfl rfl fun rest emission page => by cases page
  | fail isWaiting =>
      exact inv.waiting (.of_same rfl rfl) rfl rfl fun rest emission page => by cases page
  | append accepted =>
      exact ⟨inv.wrappers.changed (.of_same rfl rfl) rfl (.refl _), inv.current, inv.ended⟩
  | pageOver page isOver =>
      refine ⟨?_, fun rest emission page => by (cases page), inv.recorded page isOver⟩
      exact inv.wrappers.changed (.of_same rfl rfl) rfl (List.nil_sublist _)
  | @nextEvent emission event others page isOver =>
      refine ⟨?_, fun rest begun nowPage => ?_, inv.recorded page isOver⟩
      · refine inv.wrappers.changed (.of_same rfl rfl) rfl ?_
        exact pending_process ▸ List.nil_sublist _
      · have begunNow : contract.emitter.emission topics event = some begun := by
          injection nowPage with isPage
          injection isPage
        exact emissionInv_of_emission rfl begunNow
  | @emit rest emission name names page isNext noListeners idle =>
      have once : EmitsOnce contract.emitter emission name :=
        allowed (rest, emission) (PolledContract.current_eq_some_iff.mpr page) name
          (by simp [isNext])
      have current := inv.current rest emission page
      refine ⟨?_, fun others begun nowPage => ?_, inv.ended⟩
      · exact inv.wrappers.emit rfl rfl rfl once.notTwice
      · obtain ⟨rfl, rfl⟩ : rest = others ∧ _ = begun := by
          injection nowPage with isPage
          injection isPage with sameRest sameEmission
          exact ⟨sameRest, Option.some.inj sameEmission⟩
        refine ⟨current.covers, .inr ?_⟩
        rcases current.stage with fresh | going
        · exact fresh.emit inv.wrappers.nodup current.covers isNext once
        · exact going.emit inv.wrappers.nodup isNext noListeners once
  | @call rest emission registration others page due idle =>
      have current := inv.current rest emission page
      have going := current.going_of_busy (.inr (by simp [due]))
      refine ⟨?_, fun _ begun nowPage => ?_, inv.ended⟩
      · refine inv.wrappers.call ?_ rfl rfl rfl
        rw [PolledContract.pending, page]
        exact due
      · obtain rfl : _ = begun := by
          injection nowPage with isPage
          injection isPage with _ sameEmission
          exact Option.some.inj sameEmission
        exact ⟨current.covers, .inr (going.call due)⟩
  | @finish rest emission outcome page isCalling isLogged =>
      have current := inv.current rest emission page
      have going := current.going_of_busy (.inl isCalling)
      refine ⟨?_, fun _ begun nowPage => ?_, inv.ended⟩
      · refine inv.wrappers.changed (.of_same rfl rfl) rfl ?_
        simp only [PolledContract.pending, PolledContract.emitting, page]
        exact .refl _
      · obtain rfl : _ = begun := by
          injection nowPage with isPage
          injection isPage with _ sameEmission
          exact Option.some.inj sameEmission
        exact ⟨current.covers, .inr ⟨going.left, going.notEvent, going.counts⟩⟩
  | @abort rest emission page isCalling =>
      have current := inv.current rest emission page
      have going := current.going_of_busy (.inl isCalling)
      obtain ⟨nobody, nothingLost⟩ :=
        allowed (rest, emission) (PolledContract.current_eq_some_iff.mpr page)
      refine ⟨?_, fun _ _ nowPage => by (cases nowPage), fun ended member => ?_⟩
      · exact inv.wrappers.changed (.of_same rfl rfl) rfl (List.nil_sublist _)
      · rcases List.mem_append.mp member with earlier | now
        · exact inv.ended ended earlier
        · rcases List.mem_cons.mp now with rfl | lost
          · exact going.counted nobody
          · rw [nothingLost ended lost]
            exact fun registration none => by cases none

/-- The invariant says what is wanted, also about an emission that has just come to its end. -/
theorem DeliveryInv.calledOnce (inv : DeliveryInv contract) : CalledOnce contract := by
  refine ⟨fun emission member => ?_, fun registration isOnce => ?_⟩
  · rcases List.mem_append.mp member with earlier | now
    · exact inv.ended emission earlier
    · obtain ⟨isCurrent, isOver⟩ := List.mem_filter.mp now
      obtain ⟨rest, isPage⟩
          : ∃ rest, contract.current = some (rest, emission) := by
        simpa using isCurrent
      have current := inv.current rest emission (PolledContract.current_eq_some_iff.mp isPage)
      exact current.counted_of_isOver isOver
  · exact (Nat.le_add_right _ _).trans (inv.wrappers.once registration isOnce)

/-- Listeners are called exactly once for an event, and those of `once` once in their life, in every
run whose emissions reach nobody again and miss nobody. Witness: the invariant along the run.
-/
theorem calledOnce_of_stepsSatisfy {server : EventServer} {actions : List PollingAction}
    {final : PolledContract}
    (allowed
      : stepsSatisfy (pollingStep topics cursors) (deliversOnce topics) (.initial server) actions)
    (reached : run (pollingStep topics cursors) (.initial server) actions = some final)
    : CalledOnce final := by
  refine DeliveryInv.calledOnce ?_
  refine run_preserves_of_stepsSatisfy ?_ (deliveryInv_initial server) allowed reached
  exact fun _ _ _ stepAllowed taken inv => deliveryInv_step stepAllowed taken inv

/-- A run up to the first event of the server, which is appended in ledger 1. -/
private def firstPage (name : String) : List PollingAction :=
  [.tick, .serve 0, .arrive, .append [{ id := "1", ledger := 1, topic := [.symbol name] }] 1,
    .serve 1, .arrive, .process]

/-- A listener for the events of one name, and one for all events that is registered by `once`. -/
private def bothCalledOnce : List PollingAction :=
  .operate (.on "n" 0) :: .operate (.once "*" 1) :: firstPage "n"
  ++ [.emit, .call, .finish (.throws true), .emit, .emit, .call, .finish .returns, .emit, .process]

/-- Both are called once, although the first one throws. -/
theorem calledOnce_of_name_and_once
    : ∃ final,
        run (pollingStep [] .strokes) (.initial .empty) bothCalledOnce = some final
        ∧ final.calls.length = 2
        ∧ CalledOnce final :=
  ⟨_, rfl, rfl, @calledOnce_of_stepsSatisfy [] .strokes .empty bothCalledOnce _ (by decide) rfl⟩

/-- An event for a single listener, under `event`. -/
private def calledTwice : List PollingAction :=
  .operate (.on "event" 0) :: firstPage "n"
  ++ [.emit, .call, .finish .returns, .call, .finish .returns, .emit, .call, .finish .returns,
    .emit,
    .call, .finish .returns, .emit, .call, .finish .returns, .process]

/-- A listener under `event` is called twice by the first emission, and once by each of the others.
-/
theorem not_calledOnce_of_event
    : ∃ final,
        run (pollingStep [] .strokes) (.initial .empty) calledTwice = some final
        ∧ final.calls.count { name := "event", listener := .callback 0 } = 5
        ∧ ¬CalledOnce final := by
  refine ⟨_, rfl, by decide, fun once => ?_⟩
  have counts := once.1
  revert counts
  decide

end Axionvera.Contracts
