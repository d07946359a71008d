import Axionvera.Foundation.TransitionSystem
import Axionvera.Events.EventDispatcher

/-! `ContractEventEmitter` (`contracts/ContractEventEmitter.ts`) as a machine of small steps, with
the server that it polls. Callbacks are known by numbers; what they do is left open, also while an
event is delivered.
-/

namespace Axionvera.Contracts

open Axionvera.Foundation
open Axionvera.Events (present)

-----------------------------------------------------------------------------------------
-- Events
-----------------------------------------------------------------------------------------

/-- An `xdr.ScVal` in a topic, as far as `topicToName` reads it. -/
inductive Topic where
  | symbol (text : String)
  | string (text : String)
  | other
  | unreadable
  deriving DecidableEq

/-- `topicToName`. -/
def topicToName : Topic → Option String
  | .symbol text | .string text => some text
  | .other | .unreadable => none

/-- `rpc.Api.EventResponse`, with the parts that decide about its delivery. -/
structure EventResponse where
  id : String
  ledger : Nat
  topic : List Topic
  deriving DecidableEq

/-- `ContractEvent`. -/
structure ContractEvent where
  response : EventResponse
  topicNames : List String
  eventName : Option String
  deriving DecidableEq

/-- `normalizeEvent`. Names that are empty are left out. -/
def normalizeEvent (event : EventResponse) : ContractEvent :=
  let topicNames := event.topic.filterMap fun topic => present (topicToName topic)
  { response := event, topicNames := topicNames, eventName := topicNames.head? }

/-- `matchesTopics`. -/
def matchesTopics (topics : List String) (event : ContractEvent) : Bool :=
  if topics = [] then true
  else
    let names :=
      if event.topicNames ≠ [] then event.topicNames else (present event.eventName).toList
    names.any fun name => name ∈ topics

/-- The names under which `poll` emits an event, in order. -/
def emittedNames (event : ContractEvent) : List String :=
  ["event", "*"]
  ++ match present event.eventName with
    | some name => [name, "event:" ++ name]
    | none => []

-----------------------------------------------------------------------------------------
-- Listeners
-----------------------------------------------------------------------------------------

/-- What a set of listeners contains: a callback, or one of the wrappers that `once` creates, each
with a number of its own.
-/
inductive Listener where
  | callback (id : Nat)
  | wrapped (number : Nat) (callback : Nat)
  deriving DecidableEq

/-- A listener under a name. -/
structure Registration where
  name : String
  listener : Listener
  deriving DecidableEq

/-- The listener was registered by `once`. -/
def Registration.isOnce (registration : Registration) : Bool :=
  match registration.listener with
  | .callback _ => false
  | .wrapped _ _ => true

/-- The fields of an emitter that change. The sets of listeners are one list in the order of
registration, and `interval` tells whether the timer is set.
-/
structure ContractEventEmitter where
  listeners : List Registration := []
  interval : Bool := false
  lastLedger : Option Nat := none
  lastCursor : Option String := none
  isClosed : Bool := false
  nextWrapper : Nat := 0

namespace ContractEventEmitter

/-- `start`. -/
def start (emitter : ContractEventEmitter) : ContractEventEmitter :=
  if emitter.isClosed || emitter.interval then emitter else { emitter with interval := true }

/-- `stop`. -/
def stop (emitter : ContractEventEmitter) : ContractEventEmitter :=
  { emitter with interval := false }

/-- `close`, without what `onClose` does. -/
def close (emitter : ContractEventEmitter) : ContractEventEmitter :=
  if emitter.isClosed then emitter
  else { emitter with isClosed := true, interval := false, listeners := [] }

/-- `on`, for a callback or a wrapper. -/
def on (emitter : ContractEventEmitter) (name : String) (listener : Listener)
    : ContractEventEmitter :=
  if emitter.isClosed then emitter
  else
    let registration := { name := name, listener := listener }
    { emitter with
      listeners :=
        if registration ∈ emitter.listeners then emitter.listeners
        else emitter.listeners ++ [registration] }.start

/-- `once`. -/
def once (emitter : ContractEventEmitter) (name : String) (callback : Nat)
    : ContractEventEmitter :=
  { emitter with nextWrapper := emitter.nextWrapper + 1 }.on name
    (.wrapped emitter.nextWrapper callback)

/-- An emitter whose last listener has gone is closed. -/
def closeIfEmpty (emitter : ContractEventEmitter) : ContractEventEmitter :=
  if emitter.listeners = [] then emitter.close else emitter

/-- `off`. -/
def off (emitter : ContractEventEmitter) (registration : Registration) : ContractEventEmitter :=
  { emitter with
    listeners := emitter.listeners.filter fun other => other ≠ registration }.closeIfEmpty

/-- `removeAllListeners`. -/
def removeAllListeners (emitter : ContractEventEmitter) (eventName : Option String)
    : ContractEventEmitter :=
  match present eventName with
  | some name =>
      { emitter with
        listeners := emitter.listeners.filter fun other => other.name ≠ name }.closeIfEmpty
  | none => { emitter with listeners := [] }.closeIfEmpty

/-- The listeners under a name. -/
def listenersOf (emitter : ContractEventEmitter) (name : String) : List Registration :=
  emitter.listeners.filter fun registration => registration.name = name

/-- The listeners that `emit` goes through: those of the name, then those of both names that stand
for all events, whether or not the name is one of them.
-/
def emit (emitter : ContractEventEmitter) (name : String) : List Registration :=
  emitter.listenersOf name ++ emitter.listenersOf "event" ++ emitter.listenersOf "*"

/-- What calling a listener does before its callback runs: a wrapper removes itself. -/
def called (emitter : ContractEventEmitter) (registration : Registration) : ContractEventEmitter :=
  if registration.isOnce then emitter.off registration else emitter

/-- What `poll` asks for once the latest ledger is known. -/
inductive EventsRequest where
  | startLedger (ledger : Nat)
  | cursor (cursor : String)
  deriving DecidableEq

/-- The request for the next events. -/
def request (emitter : ContractEventEmitter) : EventsRequest :=
  match present emitter.lastCursor with
  | some cursor => .cursor cursor
  | none => .startLedger (emitter.lastLedger.getD 0)

/-- `poll` starts by asking for the latest ledger. -/
def needsLedger (emitter : ContractEventEmitter) : Bool :=
  emitter.lastLedger.isNone && (present emitter.lastCursor).isNone

/-- The ledger of an event that is being processed is noted. -/
def noteLedger (emitter : ContractEventEmitter) (event : EventResponse) : ContractEventEmitter :=
  { emitter with lastLedger := some (max (emitter.lastLedger.getD event.ledger) event.ledger) }

end ContractEventEmitter

/-- What other code can do with an emitter at any time, also from a callback. -/
inductive Operation where
  | on (name : String) (callback : Nat)
  | once (name : String) (callback : Nat)
  | off (name : String) (callback : Nat)
  | removeAllListeners (eventName : Option String)
  | start
  | stop
  | close

/-- The effect of an operation. -/
def ContractEventEmitter.operate (emitter : ContractEventEmitter)
    : Operation → ContractEventEmitter
  | .on name callback => emitter.on name (.callback callback)
  | .once name callback => emitter.once name callback
  | .off name callback => emitter.off { name := name, listener := .callback callback }
  | .removeAllListeners eventName => emitter.removeAllListeners eventName
  | .start => emitter.start
  | .stop => emitter.stop
  | .close => emitter.close

-----------------------------------------------------------------------------------------
-- The server
-----------------------------------------------------------------------------------------

/-- How a server writes down how many entries of its log it has answered with. -/
structure Cursors where
  after : Nat → String
  position : String → Nat
  position_after : ∀ count, position (after count) = count
  after_ne_empty : ∀ count, after count ≠ ""

/-- Cursors that count in strokes. -/
def Cursors.strokes : Cursors :=
  {
    after := fun count => String.ofList (.replicate (count + 1) '|')
    position := fun cursor => cursor.toList.length - 1
    position_after := fun count => by simp
    after_ne_empty := fun count => by simp [String.ext_iff]
  }

/-- A server with the events of the contract, in the order of their ledgers. -/
structure EventServer where
  log : List EventResponse
  latest : Nat
  sorted : log.Pairwise fun before after => before.ledger ≤ after.ledger
  bounded : ∀ event ∈ log, event.ledger ≤ latest

/-- `EventsResponse`, as the answer to `getEvents`. -/
structure EventsResponse where
  events : List EventResponse
  cursor : String
  deriving DecidableEq

namespace EventServer

/-- A server before its first event. -/
def empty : EventServer :=
  { log := [], latest := 0, sorted := .nil, bounded := fun event member => by cases member }

/-- The events are in order and after the latest ledger was read, and before the new one is. -/
def accepts (server : EventServer) (events : List EventResponse) (latest : Nat) : Prop :=
  server.latest ≤ latest
  ∧ events.Pairwise (fun before after => before.ledger ≤ after.ledger)
  ∧ ∀ event ∈ events, server.latest ≤ event.ledger ∧ event.ledger ≤ latest

instance (server : EventServer) (events : List EventResponse) (latest : Nat)
    : Decidable (server.accepts events latest) :=
  inferInstanceAs (Decidable (_ ∧ _ ∧ _))

/-- Events are appended to the log. -/
def append (server : EventServer) (events : List EventResponse) (latest : Nat)
    (accepted : server.accepts events latest) : EventServer :=
  {
    log := server.log ++ events
    latest := latest
    sorted := by
      refine List.pairwise_append.mpr ⟨server.sorted, accepted.2.1, ?_⟩
      intro before old after new
      exact (server.bounded before old).trans (accepted.2.2 after new).1
    bounded := by
      intro event member
      rcases List.mem_append.mp member with old | new
      · exact (server.bounded event old).trans accepted.1
      · exact (accepted.2.2 event new).2
  }

/-- How many entries of the log come before those that are asked for. -/
def before (cursors : Cursors) (server : EventServer)
    : ContractEventEmitter.EventsRequest → Nat
  | .startLedger ledger => server.log.countP fun event => event.ledger < ledger
  | .cursor cursor => cursors.position cursor

/-- `getEvents`: at most so many of the following events, and the cursor after them. -/
def getEvents (cursors : Cursors) (server : EventServer)
    (request : ContractEventEmitter.EventsRequest) (limit : Nat) : EventsResponse :=
  let events := (server.log.drop (server.before cursors request)).take limit
  { events := events, cursor := cursors.after (server.before cursors request + events.length) }

end EventServer

-----------------------------------------------------------------------------------------
-- Polling
-----------------------------------------------------------------------------------------

/-- An event that is emitted: the names that are still to come, the listeners of the current name
that are still to be called, and whether one of them is running. Recorded are the listeners that
were there for the event at the beginning, and the calls so far.
-/
structure Emission where
  event : ContractEvent
  names : List String
  listeners : List Registration
  isCalling : Bool
  covering : List Registration
  calls : List Registration

/-- Every listener of every name has been called. -/
def Emission.isOver (emission : Emission) : Bool :=
  emission.names = [] && emission.listeners = [] && !emission.isCalling

/-- The listeners under the names of an event. -/
def ContractEventEmitter.covering (emitter : ContractEventEmitter) (event : ContractEvent)
    : List Registration :=
  emitter.listeners.filter fun registration => registration.name ∈ emittedNames event

/-- How `poll` begins to emit an event of a page, unless it has none of the topics. -/
def ContractEventEmitter.emission (emitter : ContractEventEmitter) (topics : List String)
    (event : EventResponse) : Option Emission :=
  let normalized := normalizeEvent event
  if matchesTopics topics normalized then
    some
      {
        event := normalized
        names := emittedNames normalized
        listeners := []
        isCalling := false
        covering := emitter.covering normalized
        calls := []
      }
  else none

/-- Where a call of `poll` is: it waits for an answer, which the server may have sent, or goes
through a page.
-/
inductive Poll where
  | latestLedger (answer : Option Nat)
  | events (request : ContractEventEmitter.EventsRequest) (answer : Option EventsResponse)
  | page (rest : List EventResponse) (emission : Option Emission)

/-- An emitter with its server. `poll` is the call of `poll` for which `isPolling` is set. Recorded
are the first latest ledger, the events processed before `close`, the emissions that have ended and
all calls of listeners.
-/
structure PolledContract where
  emitter : ContractEventEmitter
  poll : Option Poll
  server : EventServer
  firstLedger : Option Nat
  processed : List EventResponse
  emissions : List Emission
  calls : List Registration

namespace PolledContract

/-- A new emitter with a server. -/
def initial (server : EventServer) : PolledContract :=
  {
    emitter := {}
    poll := none
    server := server
    firstLedger := none
    processed := []
    emissions := []
    calls := []
  }

/-- No code of a poll is running, or a callback is. -/
def isYielding (contract : PolledContract) : Bool :=
  match contract.poll with
  | some (.page _ emission) => emission.any Emission.isCalling
  | _ => true

/-- No code of a poll is running, nor a callback of it. -/
def isWaiting (contract : PolledContract) : Bool :=
  match contract.poll with
  | some (.page _ _) => false
  | _ => true

/-- The timer calls `poll`, which does nothing while another call is not over. -/
def tick (contract : PolledContract) : PolledContract :=
  if contract.poll.isSome || contract.emitter.isClosed then contract
  else if contract.emitter.needsLedger then
    { contract with poll := some (.latestLedger none) }
  else { contract with poll := some (.events contract.emitter.request none) }

/-- The next event of a page: its ledger is noted, and it is emitted if it has one of the topics. -/
def process (topics : List String) (contract : PolledContract) (event : EventResponse)
    (rest : List EventResponse) : PolledContract :=
  { contract with
    emitter := contract.emitter.noteLedger event
    processed :=
      if contract.emitter.isClosed then contract.processed else contract.processed ++ [event]
    poll := some (.page rest (contract.emitter.emission topics event)) }

/-- The next listener of an emission is called. -/
def call (contract : PolledContract) (rest : List EventResponse) (emission : Emission)
    (registration : Registration) (others : List Registration) : PolledContract :=
  { contract with
    emitter := contract.emitter.called registration
    calls := contract.calls ++ [registration]
    poll :=
      some (.page rest
        (some
          { emission with
            listeners := others
            isCalling := true
            calls := emission.calls ++ [registration] })) }

/-- `emit` throws, so that the poll ends. Nobody is called for the rest of the page any more, which
is recorded with those who should be.
-/
def abort (topics : List String) (contract : PolledContract) (rest : List EventResponse)
    (emission : Emission) : PolledContract :=
  { contract with
    poll := none
    emissions :=
      contract.emissions
      ++ { emission with isCalling := false }
        :: rest.filterMap (contract.emitter.emission topics) }

end PolledContract

/-- How a callback ends. What it throws goes to `logger.warn`, which can throw as well: redacting an
error that contains itself never ends.
-/
inductive CallbackOutcome where
  | returns
  | throws (isLogged : Bool)
  deriving DecidableEq

/-- Everything that can happen next. -/
inductive PollingAction where
  | operate (operation : Operation)
  | tick
  | serve (limit : Nat)
  | arrive
  | fail
  | append (events : List EventResponse) (latest : Nat)
  | process
  | emit
  | call
  | finish (outcome : CallbackOutcome)

/-- One step of the machine. Answers arrive and the timer ticks while no code of the emitter runs;
a page is gone through without a break, except for what callbacks do.
-/
def pollingStep (topics : List String) (cursors : Cursors) (contract : PolledContract)
    : PollingAction → Option PolledContract
  | .operate operation =>
      if contract.isYielding then
        some { contract with emitter := contract.emitter.operate operation }
      else none
  | .tick => if contract.emitter.interval && contract.isWaiting then some contract.tick else none
  | .serve limit =>
      match contract.poll with
      | some (.latestLedger none) =>
          some { contract with poll := some (.latestLedger (some contract.server.latest)) }
      | some (.events request none) =>
          some
            { contract with
              poll :=
                some (.events request
                  (some (contract.server.getEvents cursors request limit))) }
      | _ => none
  | .arrive =>
      match contract.poll with
      | some (.latestLedger (some sequence)) =>
          let emitter := { contract.emitter with lastLedger := some sequence }
          some
            { contract with
              emitter := emitter
              firstLedger := some (contract.firstLedger.getD sequence)
              poll := some (.events emitter.request none) }
      | some (.events _ (some response)) =>
          some
            { contract with
              emitter := { contract.emitter with lastCursor := some response.cursor }
              poll := some (.page response.events none) }
      | _ => none
  | .fail =>
      match contract.poll with
      | some (.latestLedger _) | some (.events _ _) => some { contract with poll := none }
      | _ => none
  | .append events latest =>
      if accepted : contract.server.accepts events latest then
        some { contract with server := contract.server.append events latest accepted }
      else none
  | .process =>
      match contract.poll with
      | some (.page rest emission) =>
          if emission.all Emission.isOver then
            let recorded := { contract with emissions := contract.emissions ++ emission.toList }
            match rest with
            | [] => some { recorded with poll := none }
            | event :: others => some (recorded.process topics event others)
          else none
      | _ => none
  | .emit =>
      match contract.poll with
      | some (.page rest (some emission)) =>
          match emission.names, emission.listeners, emission.isCalling with
          | name :: names, [], false =>
              some
                { contract with
                  poll :=
                    some (.page rest
                      (some
                        { emission with
                          names := names
                          listeners := contract.emitter.emit name })) }
          | _, _, _ => none
      | _ => none
  | .call =>
      match contract.poll with
      | some (.page rest (some emission)) =>
          match emission.listeners, emission.isCalling with
          | registration :: others, false =>
              some (contract.call rest emission registration others)
          | _, _ => none
      | _ => none
  | .finish outcome =>
      match contract.poll with
      | some (.page rest (some emission)) =>
          if emission.isCalling then
            match outcome with
            | .returns | .throws true =>
                some
                  { contract with
                    poll := some (.page rest (some { emission with isCalling := false })) }
            | .throws false => some (contract.abort topics rest emission)
          else none
      | _ => none

-----------------------------------------------------------------------------------------
-- What a step can be
-----------------------------------------------------------------------------------------

namespace PolledContract

/-- The rest of the page that is gone through, and the emission under way. -/
def current (contract : PolledContract) : Option (List EventResponse × Emission) :=
  match contract.poll with
  | some (.page rest (some emission)) => some (rest, emission)
  | _ => none

/-- What is under way is part of the poll. -/
theorem current_eq_some_iff {contract : PolledContract} {rest : List EventResponse}
    {emission : Emission}
    : contract.current = some (rest, emission)
      ↔ contract.poll = some (.page rest (some emission)) := by
  unfold current
  split
  · simp [*]
  · rename_i noPage
    simp only [reduceCtorEq, false_iff]
    exact noPage rest emission

/-- `contract` with another emission under way. -/
def emitting (contract : PolledContract) (rest : List EventResponse) (emission : Emission)
    : PolledContract :=
  { contract with poll := some (.page rest (some emission)) }

/-- `contract` with what has ended recorded. -/
def recorded (contract : PolledContract) (emission : Option Emission) : PolledContract :=
  { contract with emissions := contract.emissions ++ emission.toList }

end PolledContract

/-- (PollingTransition topics cursors contract action next) lists the steps of the machine, each
with the state in which it is taken.
-/
inductive PollingTransition (topics : List String) (cursors : Cursors) (contract : PolledContract)
    : PollingAction → PolledContract → Prop
  | operate {operation : Operation} (isYielding : contract.isYielding = true)
      : PollingTransition topics cursors contract (.operate operation)
          { contract with emitter := contract.emitter.operate operation }
  | tick (isSet : contract.emitter.interval = true) (isWaiting : contract.isWaiting = true)
      : PollingTransition topics cursors contract .tick contract.tick
  | serveLedger {limit : Nat} (asked : contract.poll = some (.latestLedger none))
      : PollingTransition topics cursors contract (.serve limit)
          { contract with poll := some (.latestLedger (some contract.server.latest)) }
  | serveEvents {limit : Nat} {request : ContractEventEmitter.EventsRequest}
      (asked : contract.poll = some (.events request none))
      : PollingTransition topics cursors contract (.serve limit)
          { contract with
            poll :=
              some (.events request (some (contract.server.getEvents cursors request limit))) }
  | arriveLedger {sequence : Nat} (answered : contract.poll = some (.latestLedger (some sequence)))
      : PollingTransition topics cursors contract .arrive
          { contract with
            emitter := { contract.emitter with lastLedger := some sequence }
            firstLedger := some (contract.firstLedger.getD sequence)
            poll :=
              some (.events
                (ContractEventEmitter.request
                  { contract.emitter with lastLedger := some sequence })
                none) }
  | arriveEvents {request : ContractEventEmitter.EventsRequest} {response : EventsResponse}
      (answered : contract.poll = some (.events request (some response)))
      : PollingTransition topics cursors contract .arrive
          { contract with
            emitter := { contract.emitter with lastCursor := some response.cursor }
            poll := some (.page response.events none) }
  | fail (isWaiting : contract.isWaiting = true)
      : PollingTransition topics cursors contract .fail { contract with poll := none }
  | append {events : List EventResponse} {latest : Nat}
      (accepted : contract.server.accepts events latest)
      : PollingTransition topics cursors contract (.append events latest)
          { contract with server := contract.server.append events latest accepted }
  | pageOver {emission : Option Emission} (page : contract.poll = some (.page [] emission))
      (isOver : emission.all Emission.isOver = true)
      : PollingTransition topics cursors contract .process
          { contract.recorded emission with poll := none }
  | nextEvent {emission : Option Emission} {event : EventResponse} {others : List EventResponse}
      (page : contract.poll = some (.page (event :: others) emission))
      (isOver : emission.all Emission.isOver = true)
      : PollingTransition topics cursors contract .process
          ((contract.recorded emission).process topics event others)
  | emit {rest : List EventResponse} {emission : Emission} {name : String} {names : List String}
      (page : contract.poll = some (.page rest (some emission)))
      (isNext : emission.names = name :: names) (noListeners : emission.listeners = [])
      (idle : emission.isCalling = false)
      : PollingTransition topics cursors contract .emit
          (contract.emitting rest
            { emission with names := names, listeners := contract.emitter.emit name })
  | call {rest : List EventResponse} {emission : Emission} {registration : Registration}
      {others : List Registration} (page : contract.poll = some (.page rest (some emission)))
      (due : emission.listeners = registration :: others) (idle : emission.isCalling = false)
      : PollingTransition topics cursors contract .call
          (contract.call rest emission registration others)
  | finish {rest : List EventResponse} {emission : Emission} {outcome : CallbackOutcome}
      (page : contract.poll = some (.page rest (some emission)))
      (isCalling : emission.isCalling = true) (isLogged : outcome ≠ .throws false)
      : PollingTransition topics cursors contract (.finish outcome)
          (contract.emitting rest { emission with isCalling := false })
  | abort {rest : List EventResponse} {emission : Emission}
      (page : contract.poll = some (.page rest (some emission)))
      (isCalling : emission.isCalling = true)
      : PollingTransition topics cursors contract (.finish (.throws false))
          (contract.abort topics rest emission)

/-- Every step that the machine takes is one of those listed, by cases on the action. -/
theorem pollingTransition_of_step {topics : List String} {cursors : Cursors}
    {contract next : PolledContract} {action : PollingAction}
    (taken : pollingStep topics cursors contract action = some next)
    : PollingTransition topics cursors contract action next := by
  cases action with
  | operate operation =>
      obtain ⟨isYielding, rfl⟩ := by simpa [pollingStep] using taken
      exact .operate isYielding
  | tick =>
      obtain ⟨⟨isSet, isWaiting⟩, rfl⟩ := by simpa [pollingStep] using taken
      exact .tick isSet isWaiting
  | serve limit =>
      rw [pollingStep] at taken
      split at taken
      · rename_i asked
        exact Option.some.inj taken ▸ .serveLedger asked
      · rename_i asked
        exact Option.some.inj taken ▸ .serveEvents asked
      · cases taken
  | arrive =>
      rw [pollingStep] at taken
      split at taken
      · rename_i answered
        exact Option.some.inj taken ▸ .arriveLedger answered
      · rename_i answered
        exact Option.some.inj taken ▸ .arriveEvents answered
      · cases taken
  | fail =>
      rw [pollingStep] at taken
      split at taken
      · rename_i asked
        exact Option.some.inj taken ▸ .fail (by rw [PolledContract.isWaiting, asked])
      · rename_i asked
        exact Option.some.inj taken ▸ .fail (by rw [PolledContract.isWaiting, asked])
      · cases taken
  | append events latest =>
      rw [pollingStep] at taken
      split at taken
      · rename_i accepted
        exact Option.some.inj taken ▸ .append accepted
      · cases taken
  | process =>
      rw [pollingStep] at taken
      split at taken
      · rename_i rest emission page
        split at taken
        · rename_i isOver
          cases rest with
          | nil => exact Option.some.inj taken ▸ .pageOver page isOver
          | cons event others => exact Option.some.inj taken ▸ .nextEvent page isOver
        · cases taken
      · cases taken
  | emit =>
      rw [pollingStep] at taken
      split at taken
      · rename_i rest emission page
        split at taken
        · rename_i isNext noListeners idle
          exact Option.some.inj taken ▸ .emit page isNext noListeners idle
        · cases taken
      · cases taken
  | call =>
      rw [pollingStep] at taken
      split at taken
      · rename_i rest emission page
        split at taken
        · rename_i due idle
          exact Option.some.inj taken ▸ .call page due idle
        · cases taken
      · cases taken
  | finish outcome =>
      rw [pollingStep] at taken
      split at taken
      · rename_i rest emission page
        split at taken
        · rename_i isCalling
          split at taken
          · exact Option.some.inj taken ▸ .finish page isCalling (by simp)
          · exact Option.some.inj taken ▸ .finish page isCalling (by simp)
          · exact Option.some.inj taken ▸ .abort page isCalling
        · cases taken
      · cases taken

end Axionvera.Contracts
