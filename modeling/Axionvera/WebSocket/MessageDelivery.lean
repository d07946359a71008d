import Axionvera.Foundation.LiveMap
import Axionvera.Foundation.TransitionSystem
import Axionvera.WebSocket.ParsedEvents

/-! The loop of `handleMessage` over the subscriptions of a manager. It matches the parsed event,
which has lost what most filters ask for, and ends when a callback throws.
-/

namespace Axionvera.WebSocket

open Axionvera.Foundation
open Axionvera.Events (SorobanEvent EventFilter)

/-- `WebSocketEventSubscription`. Its callback is known by a number. -/
structure WebSocketEventSubscription where
  id : String
  filter : EventFilter
  callback : Nat
  isActive : Bool := true
  deriving DecidableEq

/-- The subscriptions of a manager. They are known by their places, ids and contents. -/
abbrev Subscriptions := LiveMap String WebSocketEventSubscription

/-- What a callback calls on the manager, with the id that is generated for a new subscription. -/
inductive ManagerCall where
  | subscribe (generatedId : String) (filter : EventFilter) (callback : Nat)
  | unsubscribe (subscriptionId : String)

/-- `subscribe` and `unsubscribe`, apart from the messages that they send. -/
def ManagerCall.apply (subscriptions : Subscriptions) : ManagerCall → Subscriptions
  | .subscribe generatedId filter callback =>
      subscriptions.set generatedId { id := generatedId, filter := filter, callback := callback }
  | .unsubscribe subscriptionId => subscriptions.delete subscriptionId

/-- What a callback does: its calls, whether it throws in the end, and the rest of the world. -/
structure Reaction (ω : Type) where
  calls : List ManagerCall
  throws : Bool
  world : ω

/-- `onEvent` and the callbacks of subscriptions. An `onEvent` that is not given does nothing. -/
structure Handlers (ω : Type) where
  onEvent : ω → Subscriptions → SorobanEvent → Reaction ω
  callback : ω → Subscriptions → Nat → SorobanEvent → Reaction ω

/-- The loop of `handleMessage`. Recorded are the subscriptions whose callbacks were called. -/
structure MessageLoop (ω : Type) where
  event : SorobanEvent
  world : ω
  subscriptions : Subscriptions
  cursor : Nat := 0
  thrown : Bool := false
  invocations : List (LiveEntry String WebSocketEventSubscription) := []

variable {ω : Type}

/-- A handler has been called. -/
def MessageLoop.react (loop : MessageLoop ω) (reaction : Reaction ω) : MessageLoop ω :=
  { loop with
    world := reaction.world
    subscriptions := reaction.calls.foldl ManagerCall.apply loop.subscriptions
    thrown := reaction.throws }

/-- The subscription is active and its filter matches the event. -/
def WebSocketEventSubscription.wants (subscription : WebSocketEventSubscription)
    (event : SorobanEvent) : Bool :=
  subscription.isActive && eventMatchesFilter event subscription.filter

/-- `handleMessage` for a message of type `event`, up to its loop. -/
def handleMessage (fromXDR : String → Option ScVal) (handlers : Handlers ω) (rawEvent : RawEvent)
    (generatedId : String) (now : Int) (world : ω) (subscriptions : Subscriptions)
    : Option (MessageLoop ω) :=
  (parseSorobanEvent fromXDR rawEvent generatedId now).map fun event =>
    { event := event, world := world, subscriptions := subscriptions : MessageLoop ω }.react
      (handlers.onEvent world subscriptions event)

/-- One turn of the loop, unless it has passed all subscriptions or a handler has thrown. -/
def messageTurn (handlers : Handlers ω) (loop : MessageLoop ω) (_ : Unit)
    : Option (MessageLoop ω) :=
  if loop.thrown then none
  else
    match loop.subscriptions.next loop.cursor with
    | none => none
    | some entry =>
        let passed := { loop with cursor := entry.stamp + 1 }
        if entry.value.wants loop.event then
          some
            ({ passed with invocations := passed.invocations ++ [entry] }.react
              (handlers.callback loop.world loop.subscriptions entry.value.callback loop.event))
        else some passed

/-- The loop has yet to come to the place of a subscription, which is not there any more, and its
next turn, if any, leads past it.
-/
def missesPlace (handlers : Handlers ω) (loop : MessageLoop ω)
    (entry : LiveEntry String WebSocketEventSubscription) : Prop :=
  loop.cursor ≤ entry.stamp
  ∧ entry ∉ loop.subscriptions.entries
  ∧ ∀ next, messageTurn handlers loop () = some next → entry.stamp < next.cursor

/-- The callbacks that were called belong to active subscriptions whose filters match the raw event,
as far as the subscriptions were there before.
-/
def callsMatching (fromXDR : String → Option ScVal) (rawEvent : RawEvent)
    (subscriptions : Subscriptions) (loop : MessageLoop ω) : Prop :=
  ∀ entry ∈ loop.invocations,
    entry ∈ subscriptions.entries
    → entry.value.isActive = true ∧ rawMatches fromXDR rawEvent entry.value.filter = true

/-- From the start of its loop, the message is delivered to the subscriptions that were there
before: no callback is called twice, and it is called exactly if the subscription is active and its
filter matches the raw event, unless the subscription is removed before the loop comes to it.
-/
structure ExactDelivery (fromXDR : String → Option ScVal) (handlers : Handlers ω)
    (rawEvent : RawEvent) (subscriptions : Subscriptions) (start : MessageLoop ω) : Prop where
  once
    : ∀ turns loop, run (messageTurn handlers) start turns = some loop → loop.invocations.Nodup
  only
    : ∀ turns loop,
        run (messageTurn handlers) start turns = some loop
        → callsMatching fromXDR rawEvent subscriptions loop
  complete
    : ∀ entry ∈ subscriptions.entries,
        entry.value.isActive = true
        → rawMatches fromXDR rawEvent entry.value.filter = true
        → ∃ turns loop,
            run (messageTurn handlers) start turns = some loop
            ∧ (entry ∈ loop.invocations ∨ missesPlace handlers loop entry)

/-- The filters of active subscriptions that were there before let the code and the raw event agree:
where the loop comes to one, it accepts contract events exactly if the raw event matches it; and
once a handler has thrown, the raw event matches none of those still ahead.
-/
def agreesWhereReached (fromXDR : String → Option ScVal) (handlers : Handlers ω)
    (rawEvent : RawEvent) (subscriptions : Subscriptions) (start : MessageLoop ω) : Prop :=
  ∀ turns loop,
    run (messageTurn handlers) start turns = some loop
    → (loop.thrown = false
        → ∀ entry ∈ subscriptions.entries,
            loop.subscriptions.next loop.cursor = some entry
            → entry.value.isActive = true
            → acceptsContract entry.value.filter = rawMatches fromXDR rawEvent entry.value.filter)
      ∧ (loop.thrown = true
        → ∀ entry ∈ subscriptions.entries,
            entry ∈ loop.subscriptions.entries
            → loop.cursor ≤ entry.stamp
            → entry.value.isActive = true
            → rawMatches fromXDR rawEvent entry.value.filter = false)

-----------------------------------------------------------------------------------------
-- One turn and a run of them
-----------------------------------------------------------------------------------------

variable {handlers : Handlers ω} {loop next final : MessageLoop ω}

/-- (TurnTo loop next entry) is what a turn does that comes to a subscription. -/
structure TurnTo (loop next : MessageLoop ω) (entry : LiveEntry String WebSocketEventSubscription)
    : Prop where
  running : loop.thrown = false
  ahead : loop.subscriptions.next loop.cursor = some entry
  sameEvent : next.event = loop.event
  cursor : next.cursor = entry.stamp + 1
  invocations
    : next.invocations
      = if entry.value.wants loop.event then loop.invocations ++ [entry] else loop.invocations

/-- Every turn comes to a subscription. -/
theorem messageTurn_turnTo {tick : Unit} (taken : messageTurn handlers loop tick = some next)
    : ∃ entry, TurnTo loop next entry := by
  unfold messageTurn at taken
  split at taken
  · cases taken
  · rename_i running
    split at taken
    · cases taken
    · rename_i entry ahead
      dsimp only at taken
      have running : loop.thrown = false := Bool.not_eq_true _ ▸ running
      split at taken
      · rename_i wanted
        obtain rfl := Option.some.inj taken
        exact ⟨entry, running, ahead, rfl, rfl, (if_pos wanted).symm⟩
      · rename_i unwanted
        obtain rfl := Option.some.inj taken
        exact ⟨entry, running, ahead, rfl, rfl, (if_neg unwanted).symm⟩

/-- A loop with a subscription ahead takes another turn, unless a handler has thrown. -/
theorem messageTurn_isSome {entry : LiveEntry String WebSocketEventSubscription}
    (running : loop.thrown = false)
    (ahead : loop.subscriptions.next loop.cursor = some entry)
    : ∃ next, messageTurn handlers loop () = some next := by
  unfold messageTurn
  rw [running, ahead]
  dsimp only
  split
  · contradiction
  · split
    · exact ⟨_, rfl⟩
    · exact ⟨_, rfl⟩

/-- A turn leads past the subscription that it comes to. -/
theorem TurnTo.cursor_lt {entry : LiveEntry String WebSocketEventSubscription}
    (turnTo : TurnTo loop next entry)
    : loop.cursor < next.cursor := by
  obtain ⟨_, notPassed, _⟩ := LiveMap.next_eq_some_iff.mp turnTo.ahead
  rw [turnTo.cursor]
  exact Nat.lt_succ_of_le notPassed

/-- A loop goes onwards, by induction on the turns. -/
theorem cursor_le_of_run {turns : List Unit}
    (reached : run (messageTurn handlers) loop turns = some final)
    : loop.cursor ≤ final.cursor := by
  induction turns generalizing loop with
  | nil =>
      obtain rfl := Option.some.inj reached
      exact Nat.le_refl _
  | cons tick rest ih =>
      obtain ⟨next, taken, later⟩ := run_cons_iff.mp reached
      obtain ⟨entry, turnTo⟩ := messageTurn_turnTo taken
      exact (Nat.le_of_lt turnTo.cursor_lt).trans (ih later)

/-- What holds of the callbacks that the loop has called: they belong to different subscriptions,
which want the event and have been passed.
-/
structure CallsWanting (event : SorobanEvent) (loop : MessageLoop ω) : Prop where
  sameEvent : loop.event = event
  once : loop.invocations.Nodup
  wanted : ∀ entry ∈ loop.invocations, entry.value.wants event = true
  passed : ∀ entry ∈ loop.invocations, entry.stamp < loop.cursor

/-- A turn calls a callback that wants the event and that the loop has not called before. -/
theorem callsWanting_turn {event : SorobanEvent} (loop : MessageLoop ω) (tick : Unit)
    (next : MessageLoop ω) (taken : messageTurn handlers loop tick = some next)
    (calls : CallsWanting event loop)
    : CallsWanting event next := by
  obtain ⟨entry, turnTo⟩ := messageTurn_turnTo taken
  have onwards := turnTo.cursor_lt
  have invocations := turnTo.invocations
  rw [calls.sameEvent] at invocations
  split at invocations
  · rename_i wanted
    obtain ⟨_, notPassed, _⟩ := LiveMap.next_eq_some_iff.mp turnTo.ahead
    refine ⟨turnTo.sameEvent.trans calls.sameEvent, ?_, fun other member => ?_,
      fun other member => ?_⟩
    · rw [invocations, ← List.concat_eq_append]
      refine calls.once.concat fun again => ?_
      have passed := calls.passed entry again
      omega
    · rw [invocations] at member
      rcases List.mem_append.mp member with old | isNew
      · exact calls.wanted other old
      · exact List.mem_singleton.mp isNew ▸ wanted
    · rw [invocations] at member
      rcases List.mem_append.mp member with old | isNew
      · exact (calls.passed other old).trans onwards
      · obtain rfl := List.mem_singleton.mp isNew
        exact turnTo.cursor ▸ Nat.lt_succ_self _
  · refine ⟨turnTo.sameEvent.trans calls.sameEvent, invocations ▸ calls.once,
      fun other member => ?_, fun other member => ?_⟩
    · exact calls.wanted other (invocations ▸ member)
    · exact (calls.passed other (invocations ▸ member)).trans onwards

/-- The place of a subscription is not missed if it is there at the last moment, which is the same
in all runs.
-/
theorem not_missesPlace {start : MessageLoop ω} {turns others : List Unit}
    {entry : LiveEntry String WebSocketEventSubscription}
    (reached : run (messageTurn handlers) start turns = some loop)
    (registered : entry ∈ loop.subscriptions.entries) (notPassed : loop.cursor ≤ entry.stamp)
    (next
      : ∀ after, messageTurn handlers loop () = some after → entry.stamp < after.cursor)
    (walked : run (messageTurn handlers) start others = some final)
    : ¬ missesPlace handlers final entry := by
  intro misses
  obtain ⟨stillAhead, gone, leadsPast⟩ := misses
  rcases run_comparable reached walked with ⟨rest, onwards⟩ | ⟨rest, onwards⟩
  · cases rest with
    | nil =>
        obtain rfl := Option.some.inj onwards
        exact gone registered
    | cons tick more =>
        obtain ⟨after, taken, later⟩ := run_cons_iff.mp onwards
        have past := next after taken
        have further := cursor_le_of_run later
        omega
  · cases rest with
    | nil =>
        obtain rfl := Option.some.inj onwards
        exact gone registered
    | cons tick more =>
        obtain ⟨after, taken, later⟩ := run_cons_iff.mp onwards
        have past := leadsPast after taken
        have further := cursor_le_of_run later
        omega

/-- A loop comes to every subscription that is left in its place, unless a handler throws first, by
induction on how far it is away.
-/
theorem reaches_or_misses (handlers : Handlers ω) {loop : MessageLoop ω}
    {entry : LiveEntry String WebSocketEventSubscription} (notPassed : loop.cursor ≤ entry.stamp)
    : ∃ turns after,
        run (messageTurn handlers) loop turns = some after
        ∧ (missesPlace handlers after entry
          ∨ entry ∈ after.subscriptions.entries ∧ after.thrown = true ∧ after.cursor ≤ entry.stamp
          ∨ after.thrown = false ∧ after.subscriptions.next after.cursor = some entry) := by
  generalize distance : entry.stamp - loop.cursor = count
  induction count using Nat.strong_induction_on generalizing loop with
  | _ count nearer =>
      by_cases registered : entry ∈ loop.subscriptions.entries
      · cases thrown : loop.thrown with
        | true => exact ⟨[], loop, rfl, .inr (.inl ⟨registered, thrown, notPassed⟩)⟩
        | false =>
            cases ahead : loop.subscriptions.next loop.cursor with
            | none =>
                have passed := LiveMap.next_eq_none_iff.mp ahead entry registered
                omega
            | some other =>
                obtain ⟨member, _, least⟩ := LiveMap.next_eq_some_iff.mp ahead
                have upTo := least entry registered notPassed
                rcases Nat.lt_or_eq_of_le upTo with before | same
                · obtain ⟨next, taken⟩ : ∃ next, messageTurn handlers loop () = some next :=
                    messageTurn_isSome thrown ahead
                  obtain ⟨visited, turnTo⟩ := messageTurn_turnTo taken
                  obtain rfl := Option.some.inj (turnTo.ahead.symm.trans ahead)
                  have onwards := turnTo.cursor_lt
                  have still : next.cursor ≤ entry.stamp := turnTo.cursor ▸ before
                  obtain ⟨turns, after, reached, outcome⟩ := nearer _ (by omega) still rfl
                  exact ⟨() :: turns, after, run_cons_iff.mpr ⟨next, taken, reached⟩, outcome⟩
                · obtain rfl := LiveMap.eq_of_stamp member registered same
                  exact ⟨[], loop, rfl, .inr (.inr ⟨thrown, ahead⟩)⟩
      · cases taken : messageTurn handlers loop () with
        | none =>
            refine ⟨[], loop, rfl, .inl ⟨notPassed, registered, fun next isNext => ?_⟩⟩
            rw [taken] at isNext
            cases isNext
        | some next =>
            obtain ⟨visited, turnTo⟩ := messageTurn_turnTo taken
            have onwards := turnTo.cursor_lt
            rcases Nat.lt_or_ge entry.stamp next.cursor with past | still
            · refine ⟨[], loop, rfl, .inl ⟨notPassed, registered, fun after isAfter => ?_⟩⟩
              exact Option.some.inj (taken.symm.trans isAfter) ▸ past
            · obtain ⟨turns, after, reached, outcome⟩ := nearer _ (by omega) still rfl
              exact ⟨() :: turns, after, run_cons_iff.mpr ⟨next, taken, reached⟩, outcome⟩

-----------------------------------------------------------------------------------------
-- Exactness
-----------------------------------------------------------------------------------------

variable {fromXDR : String → Option ScVal} {rawEvent : RawEvent} {generatedId : String} {now : Int}
  {world : ω} {subscriptions : Subscriptions} {start : MessageLoop ω}

/-- The loop starts with a parsed event and no calls of callbacks. -/
theorem callsWanting_handleMessage
    (started
      : handleMessage fromXDR handlers rawEvent generatedId now world subscriptions = some start)
    : ∃ event,
        parseSorobanEvent fromXDR rawEvent generatedId now = some event
        ∧ CallsWanting event start := by
  obtain ⟨event, parsed, rfl⟩ := Option.map_eq_some_iff.mp started
  exact ⟨event, parsed, rfl, List.nodup_nil, fun _ member => (by cases member),
    fun _ member => (by cases member)⟩

/-- Active subscriptions want a parsed event exactly if they accept contract events. -/
theorem wants_parsed {event : SorobanEvent}
    (parsed : parseSorobanEvent fromXDR rawEvent generatedId now = some event)
    {subscription : WebSocketEventSubscription} (active : subscription.isActive = true)
    : subscription.wants event = acceptsContract subscription.filter := by
  rw [WebSocketEventSubscription.wants, active, eventMatchesFilter_parseSorobanEvent parsed]
  rfl

/-- A turn that agrees with the raw event adds none but a matching subscription to those called. -/
theorem callsMatching_turn {event : SorobanEvent} {tick : Unit}
    (parsed : parseSorobanEvent fromXDR rawEvent generatedId now = some event)
    (calls : CallsWanting event loop)
    (agrees
      : loop.thrown = false
        → ∀ entry ∈ subscriptions.entries,
            loop.subscriptions.next loop.cursor = some entry
            → entry.value.isActive = true
            → acceptsContract entry.value.filter = rawMatches fromXDR rawEvent entry.value.filter)
    (taken : messageTurn handlers loop tick = some next)
    (matching : callsMatching fromXDR rawEvent subscriptions loop)
    : callsMatching fromXDR rawEvent subscriptions next := by
  obtain ⟨visited, turnTo⟩ := messageTurn_turnTo taken
  have invocations := turnTo.invocations
  rw [calls.sameEvent] at invocations
  intro entry member isOld
  split at invocations
  · rename_i wanted
    rw [invocations] at member
    rcases List.mem_append.mp member with old | isNew
    · exact matching entry old isOld
    · obtain rfl := List.mem_singleton.mp isNew
      have active : entry.value.isActive = true := (Bool.and_eq_true_iff.mp wanted).1
      rw [wants_parsed parsed active] at wanted
      exact ⟨active, agrees turnTo.running entry isOld turnTo.ahead active ▸ wanted⟩
  · exact matching entry (invocations ▸ member) isOld

/-- An exact delivery agrees with the raw event wherever its loop comes. -/
theorem ExactDelivery.agrees
    (started
      : handleMessage fromXDR handlers rawEvent generatedId now world subscriptions = some start)
    (delivery : ExactDelivery fromXDR handlers rawEvent subscriptions start)
    : agreesWhereReached fromXDR handlers rawEvent subscriptions start := by
  intro turns loop reached
  obtain ⟨event, parsed, initial⟩ := callsWanting_handleMessage started
  have callsOf {others : List Unit} {middle : MessageLoop ω}
      (walked : run (messageTurn handlers) start others = some middle)
      : CallsWanting event middle :=
    run_preserves callsWanting_turn initial walked
  constructor
  · intro running entry member ahead active
    obtain ⟨registered, notPassed, _⟩ := LiveMap.next_eq_some_iff.mp ahead
    obtain ⟨next, taken⟩ : ∃ next, messageTurn handlers loop () = some next :=
      messageTurn_isSome running ahead
    obtain ⟨visited, turnTo⟩ := messageTurn_turnTo taken
    obtain rfl := Option.some.inj (turnTo.ahead.symm.trans ahead)
    rw [← wants_parsed parsed active]
    refine Bool.eq_iff_iff.mpr ⟨fun wanted => ?_, fun matched => ?_⟩
    · have walked : run (messageTurn handlers) start (turns ++ [()]) = some next := by
        rw [run_append, reached]
        exact run_cons_iff.mpr ⟨next, taken, rfl⟩
      refine (delivery.only _ next walked visited ?_ member).2
      rw [turnTo.invocations, (callsOf reached).sameEvent, if_pos wanted]
      simp
    · obtain ⟨others, middle, walked, called | misses⟩ :=
        delivery.complete visited member active matched
      · exact (callsOf walked).wanted visited called
      · refine absurd misses (not_missesPlace reached registered notPassed ?_ walked)
        intro after isAfter
        obtain rfl := Option.some.inj (taken.symm.trans isAfter)
        exact turnTo.cursor ▸ Nat.lt_succ_self _
  · intro thrown entry member registered notPassed active
    have ended : messageTurn handlers loop () = none := by
      simp [messageTurn, thrown]
    refine Bool.eq_false_iff.mpr fun matched => ?_
    obtain ⟨others, middle, walked, called | misses⟩ :=
      delivery.complete entry member active matched
    · have passed := (callsOf walked).passed entry called
      obtain ⟨rest, onwards⟩ := run_onwards_of_ended reached ended walked
      have further := cursor_le_of_run onwards
      omega
    · refine absurd misses (not_missesPlace reached registered notPassed ?_ walked)
      intro after isAfter
      rw [ended] at isAfter
      cases isAfter

/-- A delivery that agrees with the raw event wherever its loop comes is exact. -/
theorem agreesWhereReached.exact
    (started
      : handleMessage fromXDR handlers rawEvent generatedId now world subscriptions = some start)
    (agrees : agreesWhereReached fromXDR handlers rawEvent subscriptions start)
    : ExactDelivery fromXDR handlers rawEvent subscriptions start := by
  obtain ⟨event, parsed, initial⟩ := callsWanting_handleMessage started
  have callsOf {turns : List Unit} {loop : MessageLoop ω}
      (reached : run (messageTurn handlers) start turns = some loop)
      : CallsWanting event loop :=
    run_preserves callsWanting_turn initial reached
  refine ⟨fun turns loop reached => (callsOf reached).once, ?_, ?_⟩
  · intro turns loop reached
    have nothingCalled : callsMatching fromXDR rawEvent subscriptions start := by
      obtain ⟨_, _, rfl⟩ := Option.map_eq_some_iff.mp started
      exact fun _ member => by cases member
    exact run_preserves_of_stepsSatisfy
      (fun _ _ _ allowed taken => callsMatching_turn parsed allowed.1 allowed.2 taken)
      nothingCalled
      (stepsSatisfy_of_forall_reachable fun front middle walked _ =>
        And.intro (callsOf walked) (agrees front middle walked).1)
      reached
  · intro entry member active matched
    have beforeAll : start.cursor ≤ entry.stamp := by
      obtain ⟨_, _, rfl⟩ := Option.map_eq_some_iff.mp started
      exact Nat.zero_le _
    obtain ⟨turns, loop, reached, outcome⟩ := reaches_or_misses handlers beforeAll
    rcases outcome with misses | ⟨registered, thrown, notPassed⟩ | ⟨running, ahead⟩
    · exact ⟨turns, loop, reached, .inr misses⟩
    · have unmatched :=
        (agrees turns loop reached).2 thrown entry member registered notPassed active
      rw [matched] at unmatched
      cases unmatched
    · have accepts := (agrees turns loop reached).1 running entry member ahead active
      obtain ⟨next, taken⟩ : ∃ next, messageTurn handlers loop () = some next :=
        messageTurn_isSome running ahead
      obtain ⟨visited, turnTo⟩ := messageTurn_turnTo taken
      obtain rfl := Option.some.inj (turnTo.ahead.symm.trans ahead)
      have walked : run (messageTurn handlers) start (turns ++ [()]) = some next := by
        rw [run_append, reached]
        exact run_cons_iff.mpr ⟨next, taken, rfl⟩
      refine ⟨turns ++ [()], next, walked, .inl ?_⟩
      have wanted : visited.value.wants loop.event = true := by
        rw [(callsOf reached).sameEvent, wants_parsed parsed active, accepts, matched]
      rw [turnTo.invocations, if_pos wanted]
      simp

/-- Every message of type `event` starts its loop, and it is delivered exactly as the filters say
about the raw event if and only if, where the loop comes, they accept contract events instead, and
no handler throws before a subscription that is still to be called.
-/
theorem exactDelivery_iff_agreesWhereReached (fromXDR : String → Option ScVal)
    (handlers : Handlers ω) (rawEvent : RawEvent) (generatedId : String) (now : Int) (world : ω)
    (subscriptions : Subscriptions)
    : ∃ start,
        handleMessage fromXDR handlers rawEvent generatedId now world subscriptions = some start
        ∧ (ExactDelivery fromXDR handlers rawEvent subscriptions start
          ↔ agreesWhereReached fromXDR handlers rawEvent subscriptions start) := by
  obtain ⟨event, parsed⟩
      : ∃ event, parseSorobanEvent fromXDR rawEvent generatedId now = some event :=
    Option.isSome_iff_exists.mp parseSorobanEvent_isSome
  have started
      : ∃ start,
          handleMessage fromXDR handlers rawEvent generatedId now world subscriptions
            = some start := by
    rw [handleMessage, parsed]
    exact ⟨_, rfl⟩
  obtain ⟨start, isStart⟩ := started
  exact ⟨start, isStart, ExactDelivery.agrees isStart, agreesWhereReached.exact isStart⟩

/-- Handlers of which one callback throws. -/
private def throwing (callback : Nat) : Handlers Unit :=
  {
    onEvent := fun world _ _ => { calls := [], throws := false, world := world }
    callback := fun world _ called _ =>
      { calls := [], throws := called = callback, world := world }
  }

/-- Two subscriptions with the same filter. -/
private def bothSubscribed (filter : EventFilter) : Subscriptions :=
  (LiveMap.empty.set "first" { id := "first", filter := filter, callback := 0 }).set "second"
    { id := "second", filter := filter, callback := 1 }

/-- The ids of the subscriptions that are called in the turns, and whether that is all. -/
private def calledIn (handlers : Handlers Unit) (turns : List Unit) (start : MessageLoop Unit)
    : Option (List String × Bool) :=
  (run (messageTurn handlers) start turns).map fun loop =>
    (loop.invocations.map LiveEntry.key, (messageTurn handlers loop ()).isNone)

/-- An event of one contract is delivered to subscriptions for another, a ledger event is not
delivered to subscriptions for ledger events, and a callback that throws keeps the event from the
next one.
-/
theorem exactDelivery_fails
    : (∃ start,
        handleMessage (fun _ => none) (throwing 2)
            { type := "contract", contractId := "CA", topic := [] } "evt" 0 ()
            (bothSubscribed { contractIds := some ["CB"] })
          = some start
        ∧ calledIn (throwing 2) [(), ()] start = some (["first", "second"], true)
        ∧ ¬ ExactDelivery (fun _ => none) (throwing 2)
            { type := "contract", contractId := "CA", topic := [] }
            (bothSubscribed { contractIds := some ["CB"] }) start)
      ∧ (∃ start,
          handleMessage (fun _ => none) (throwing 2)
              { type := "ledger", contractId := "CA", topic := [] } "evt" 0 ()
              (bothSubscribed { eventTypes := some [.ledger] })
            = some start
          ∧ calledIn (throwing 2) [(), ()] start = some ([], true)
          ∧ ¬ ExactDelivery (fun _ => none) (throwing 2)
              { type := "ledger", contractId := "CA", topic := [] }
              (bothSubscribed { eventTypes := some [.ledger] }) start)
      ∧ ∃ start,
          handleMessage (fun _ => none) (throwing 0)
              { type := "contract", contractId := "CA", topic := [] } "evt" 0 ()
              (bothSubscribed {})
            = some start
          ∧ calledIn (throwing 0) [()] start = some (["first"], true)
          ∧ ¬ ExactDelivery (fun _ => none) (throwing 0)
              { type := "contract", contractId := "CA", topic := [] } (bothSubscribed {})
              start := by
  refine ⟨⟨_, rfl, by decide, fun delivery => ?_⟩, ⟨_, rfl, by decide, fun delivery => ?_⟩,
    ⟨_, rfl, by decide, fun delivery => ?_⟩⟩
  · have agrees := (ExactDelivery.agrees rfl delivery [] _ rfl).1 rfl
      ⟨0, "first", { id := "first", filter := { contractIds := some ["CB"] }, callback := 0 }⟩
      (by decide) (by decide) rfl
    exact absurd agrees (by decide)
  · have agrees := (ExactDelivery.agrees rfl delivery [] _ rfl).1 rfl
      ⟨0, "first", { id := "first", filter := { eventTypes := some [.ledger] }, callback := 0 }⟩
      (by decide) (by decide) rfl
    exact absurd agrees (by decide)
  · have agrees := (ExactDelivery.agrees rfl delivery [()] _ rfl).2 rfl
      ⟨1, "second", { id := "second", filter := {}, callback := 1 }⟩
      (by decide) (by decide) (by decide) rfl
    exact absurd agrees (by decide)

end Axionvera.WebSocket
