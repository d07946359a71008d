import Axionvera.Contracts.ContractEventEmitter

/-! What an emitter has processed is the beginning of what the server has logged, as long as no page
is given up before its end. Calls that fail skip nothing.
-/

namespace Axionvera.Contracts

open Axionvera.Foundation

/-- The entries of the log from the given ledger on. -/
def EventServer.entriesFrom (server : EventServer) (ledger : Nat) : List EventResponse :=
  server.log.filter fun event => ledger ≤ event.ledger

/-- The events processed before `close` are the first log entries from the first latest ledger, in
order and each once. Without such a ledger there are none.
-/
def ProcessedInOrder (contract : PolledContract) : Prop :=
  match contract.firstLedger with
  | none => contract.processed = []
  | some ledger => contract.processed <+: contract.server.entriesFrom ledger

/-- A callback throws what cannot be logged only at the last event of a page, or after `close`. -/
def finishesPages (contract : PolledContract) : PollingAction → Prop
  | .finish (.throws false) =>
      ∀ page ∈ contract.current, page.1 = [] ∨ contract.emitter.isClosed = true
  | _ => True

instance (contract : PolledContract) : DecidablePred (finishesPages contract)
  | .finish (.throws false) =>
      inferInstanceAs (Decidable (∀ page ∈ contract.current, _ = [] ∨ _ = true))
  | .finish .returns | .finish (.throws true) | .operate _ | .tick | .serve _ | .arrive | .fail
  | .append _ _ | .process | .emit | .call => .isTrue trivial

-----------------------------------------------------------------------------------------
-- Positions in the log
-----------------------------------------------------------------------------------------

/-- The entries from a ledger on among the first ones of the log. -/
def EventServer.consumed (server : EventServer) (ledger position : Nat) : List EventResponse :=
  (server.log.take position).filter fun event => ledger ≤ event.ledger

/-- The position is in the log, and all entries after it belong to the ledger or a later one. -/
structure EventServer.IsPosition (server : EventServer) (ledger position : Nat) : Prop where
  le : position ≤ server.log.length
  later : ∀ event ∈ server.log.drop position, ledger ≤ event.ledger

/-- In a sorted log, the entries before a ledger come first, by induction on it. -/
theorem countP_splits {ledger : Nat} {log : List EventResponse}
    (sorted : log.Pairwise fun before after => before.ledger ≤ after.ledger)
    : (∀ event ∈ log.take (log.countP fun event => event.ledger < ledger), event.ledger < ledger)
      ∧ ∀ event ∈ log.drop (log.countP fun event => event.ledger < ledger),
          ledger ≤ event.ledger := by
  induction log with
  | nil => simp
  | cons first rest ih =>
      obtain ⟨isFirst, sortedRest⟩ := List.pairwise_cons.mp sorted
      obtain ⟨before, after⟩ := ih sortedRest
      by_cases isBefore : first.ledger < ledger
      · rw [List.countP_cons_of_pos (by simpa using isBefore)]
        exact ⟨List.forall_mem_cons.mpr ⟨isBefore, before⟩, after⟩
      · have noneBefore : (first :: rest).countP (fun event => event.ledger < ledger) = 0 := by
          refine List.countP_eq_zero.mpr fun event member => ?_
          rcases List.mem_cons.mp member with rfl | later
          · simpa using isBefore
          · simpa using (not_lt.mp isBefore).trans (isFirst event later)
        rw [noneBefore]
        refine ⟨by simp, fun event member => ?_⟩
        rcases List.mem_cons.mp member with rfl | later
        · exact not_lt.mp isBefore
        · exact (not_lt.mp isBefore).trans (isFirst event later)

namespace EventServer

variable {server : EventServer} {ledger position : Nat}

/-- Nothing is consumed at the position of a ledger's first entry. -/
theorem consumed_countP
    : server.consumed ledger (server.log.countP fun event => event.ledger < ledger) = [] := by
  refine List.filter_eq_nil_iff.mpr fun event member => ?_
  simpa using (countP_splits server.sorted).1 event member

/-- The entries before a ledger end at a position of it. -/
theorem isPosition_countP
    : server.IsPosition ledger (server.log.countP fun event => event.ledger < ledger) :=
  ⟨List.countP_le_length, (countP_splits server.sorted).2⟩

/-- A page goes on from where it was asked for to another position, and has what is between. -/
theorem IsPosition.page (isPosition : server.IsPosition ledger position) (limit : Nat)
    : server.IsPosition ledger (position + ((server.log.drop position).take limit).length)
      ∧ server.consumed ledger (position + ((server.log.drop position).take limit).length)
        = server.consumed ledger position ++ (server.log.drop position).take limit := by
  have short : ((server.log.drop position).take limit).length ≤ server.log.length - position := by
    simp
  have le := isPosition.le
  refine ⟨⟨by omega, fun event member => ?_⟩, ?_⟩
  · rw [← List.drop_drop] at member
    exact isPosition.later event (List.mem_of_mem_drop member)
  · rw [consumed, List.take_add, List.filter_append, consumed]
    congr 1
    rw [List.length_take, ← List.take_eq_take_min]
    exact List.filter_eq_self.mpr fun event member =>
      decide_eq_true (isPosition.later event (List.mem_of_mem_take member))

/-- What has been consumed comes first among the entries of a ledger. -/
theorem consumed_prefix : server.consumed ledger position <+: server.entriesFrom ledger :=
  (List.take_prefix position server.log).filter _

variable {events : List EventResponse} {latest : Nat}

/-- What has been consumed stays so when events are appended. -/
theorem consumed_append (accepted : server.accepts events latest)
    (le : position ≤ server.log.length)
    : (server.append events latest accepted).consumed ledger position
      = server.consumed ledger position := by
  rw [consumed, append, List.take_append_of_le_length le, consumed]

/-- A position stays one when events are appended, since they belong to the latest ledger or later.
-/
theorem IsPosition.append (isPosition : server.IsPosition ledger position)
    (accepted : server.accepts events latest) (known : ledger ≤ server.latest)
    : (server.append events latest accepted).IsPosition ledger position := by
  refine ⟨?_, fun event member => ?_⟩
  · rw [EventServer.append, List.length_append]
    exact Nat.le_add_right_of_le isPosition.le
  · rw [EventServer.append, List.drop_append_of_le_length isPosition.le] at member
    rcases List.mem_append.mp member with old | new
    · exact isPosition.later event old
    · exact known.trans (accepted.2.2 event new).1

end EventServer

-----------------------------------------------------------------------------------------
-- What operations do to the position
-----------------------------------------------------------------------------------------

/-- The emitter asks for the same events as before, and is closed if it was. -/
structure PositionKept (before after : ContractEventEmitter) : Prop where
  lastLedger : after.lastLedger = before.lastLedger
  lastCursor : after.lastCursor = before.lastCursor
  isClosed : before.isClosed = true → after.isClosed = true

/-- What is kept twice is kept. -/
theorem PositionKept.trans {before middle after : ContractEventEmitter}
    (first : PositionKept before middle) (second : PositionKept middle after)
    : PositionKept before after :=
  {
    lastLedger := second.lastLedger.trans first.lastLedger
    lastCursor := second.lastCursor.trans first.lastCursor
    isClosed := fun closed => second.isClosed (first.isClosed closed)
  }

namespace ContractEventEmitter

variable {emitter : ContractEventEmitter}

/-- Listeners and numbers of wrappers are not about the position. -/
theorem positionKept_of_listeners {listeners : List Registration} {nextWrapper : Nat}
    : PositionKept emitter
        { emitter with listeners := listeners, nextWrapper := nextWrapper } :=
  ⟨rfl, rfl, id⟩

/-- Starting an emitter keeps its position. -/
theorem positionKept_start : PositionKept emitter emitter.start := by
  unfold start
  split <;> exact ⟨rfl, rfl, id⟩

/-- Closing an emitter keeps its position. -/
theorem positionKept_close : PositionKept emitter emitter.close := by
  unfold close
  split
  · exact ⟨rfl, rfl, id⟩
  · exact ⟨rfl, rfl, fun _ => rfl⟩

/-- An emitter that closes itself keeps its position. -/
theorem positionKept_closeIfEmpty : PositionKept emitter emitter.closeIfEmpty := by
  unfold closeIfEmpty
  split
  · exact positionKept_close
  · exact ⟨rfl, rfl, id⟩

/-- A new listener keeps the position. -/
theorem positionKept_on {name : String} {listener : Listener}
    : PositionKept emitter (emitter.on name listener) := by
  unfold on
  split
  · exact ⟨rfl, rfl, id⟩
  · exact positionKept_of_listeners.trans positionKept_start

/-- Removing a listener keeps the position. -/
theorem positionKept_off {registration : Registration}
    : PositionKept emitter (emitter.off registration) :=
  positionKept_of_listeners.trans positionKept_closeIfEmpty

/-- Removing all listeners keeps the position. -/
theorem positionKept_removeAllListeners {eventName : Option String}
    : PositionKept emitter (emitter.removeAllListeners eventName) := by
  unfold removeAllListeners
  split
  · exact positionKept_of_listeners.trans positionKept_closeIfEmpty
  · exact positionKept_of_listeners.trans positionKept_closeIfEmpty

/-- Calling a listener keeps the position. -/
theorem positionKept_called {registration : Registration}
    : PositionKept emitter (emitter.called registration) := by
  unfold called
  split
  · exact positionKept_off
  · exact ⟨rfl, rfl, id⟩

/-- No operation changes what the emitter asks for, by cases on it. -/
theorem positionKept_operate (operation : Operation)
    : PositionKept emitter (emitter.operate operation) := by
  cases operation with
  | on name callback => exact positionKept_on
  | once name callback => exact positionKept_of_listeners.trans positionKept_on
  | off name callback => exact positionKept_off
  | removeAllListeners eventName => exact positionKept_removeAllListeners
  | start => exact positionKept_start
  | stop => exact ⟨rfl, rfl, id⟩
  | close => exact positionKept_close

end ContractEventEmitter

-----------------------------------------------------------------------------------------
-- The invariant
-----------------------------------------------------------------------------------------

/-- The events of a page that have yet to be processed. -/
def PolledContract.page (contract : PolledContract) : List EventResponse :=
  match contract.poll with
  | some (.page rest _) => rest
  | _ => []

/-- While the emitter waits, there is no page. -/
theorem PolledContract.page_of_isWaiting {contract : PolledContract}
    (isWaiting : contract.isWaiting = true)
    : contract.page = [] := by
  unfold PolledContract.isWaiting at isWaiting
  unfold PolledContract.page
  cases polled : contract.poll with
  | none => rfl
  | some poll =>
      rw [polled] at isWaiting
      cases poll with
      | page rest emission => cases isWaiting
      | latestLedger answer => rfl
      | events request answer => rfl

/-- The emitter asks for the events after a position: from the ledger at first, then from a cursor.
-/
inductive AtPosition (cursors : Cursors) (contract : PolledContract) (ledger : Nat) : Nat → Prop
  | unread (noCursor : contract.emitter.lastCursor = none)
      (isLedger : contract.emitter.lastLedger = some ledger)
      (noPage : ∀ rest emission, contract.poll ≠ some (.page rest emission))
      : AtPosition cursors contract ledger 0
  | read {position : Nat}
      (isCursor : contract.emitter.lastCursor = some (cursors.after position))
      (isPosition : contract.server.IsPosition ledger position)
      : AtPosition cursors contract ledger position

/-- The answer goes on from the position. -/
def continues (cursors : Cursors) (server : EventServer) (ledger position : Nat)
    (response : EventsResponse) : Prop :=
  ∃ later,
    response.cursor = cursors.after later
    ∧ server.IsPosition ledger later
    ∧ server.consumed ledger later = server.consumed ledger position ++ response.events

/-- Before the first latest ledger is known. -/
structure Starting (contract : PolledContract) : Prop where
  noFirst : contract.firstLedger = none
  noLedger : contract.emitter.lastLedger = none
  noCursor : contract.emitter.lastCursor = none
  nothing : contract.processed = []
  asks
    : contract.poll = none
      ∨ ∃ answer,
          contract.poll = some (.latestLedger answer)
          ∧ ∀ sequence ∈ answer, sequence ≤ contract.server.latest

/-- After it is known: what has been processed and what is left of the page are what the emitter has
consumed, up to where it asks for more.
-/
structure Reading (cursors : Cursors) (contract : PolledContract) (ledger position : Nat)
    : Prop where
  first : contract.firstLedger = some ledger
  known : ledger ≤ contract.server.latest
  at_position : AtPosition cursors contract ledger position
  noQuestion : ∀ answer, contract.poll ≠ some (.latestLedger answer)
  asks
    : ∀ request answer,
        contract.poll = some (.events request answer)
        → request = contract.emitter.request
          ∧ ∀ response ∈ answer, continues cursors contract.server ledger position response
  processed : contract.processed <+: contract.server.consumed ledger position
  complete
    : contract.emitter.isClosed = false
      → contract.processed ++ contract.page = contract.server.consumed ledger position

/-- What holds in every state. -/
def PollingInv (cursors : Cursors) (contract : PolledContract) : Prop :=
  Starting contract ∨ ∃ ledger position, Reading cursors contract ledger position

section Invariant

variable {cursors : Cursors} {contract next : PolledContract} {ledger position : Nat}

/-- An emitter that has just been created knows no ledger. -/
theorem pollingInv_initial (server : EventServer) : PollingInv cursors (.initial server) :=
  .inl ⟨rfl, rfl, rfl, rfl, .inl rfl⟩

/-- What has been processed comes first in the log. -/
theorem PollingInv.processedInOrder (inv : PollingInv cursors contract)
    : ProcessedInOrder contract := by
  unfold ProcessedInOrder
  rcases inv with starting | ⟨ledger, position, reading⟩
  · rw [starting.noFirst]
    exact starting.nothing
  · rw [reading.first]
    exact reading.processed.trans EventServer.consumed_prefix

/-- A position is at most the length of the log. -/
theorem AtPosition.le (atPosition : AtPosition cursors contract ledger position)
    : position ≤ contract.server.log.length := by
  cases atPosition with
  | unread _ _ _ => exact Nat.zero_le _
  | read _ isPosition => exact isPosition.le

/-- A position stays one while a poll waits. -/
theorem AtPosition.waits (atPosition : AtPosition cursors contract ledger position)
    {poll : Option Poll} (noPage : ∀ rest emission, poll ≠ some (.page rest emission))
    : AtPosition cursors { contract with poll := poll } ledger position := by
  cases atPosition with
  | unread noCursor isLedger _ => exact .unread noCursor isLedger noPage
  | read isCursor isPosition => exact .read isCursor isPosition

/-- A cursor of the server counts as one. -/
theorem present_after {count : Nat}
    : Events.present (some (cursors.after count)) = some (cursors.after count) := by
  simp [Events.present, Option.filter, cursors.after_ne_empty]

/-- The ledger is not asked for again. -/
theorem AtPosition.needsLedger (atPosition : AtPosition cursors contract ledger position)
    : contract.emitter.needsLedger = false := by
  unfold ContractEventEmitter.needsLedger
  cases atPosition with
  | unread _ isLedger _ => simp [isLedger]
  | read isCursor _ => simp [isCursor, present_after]

/-- What the server answers goes on from the position. -/
theorem AtPosition.continues_getEvents (atPosition : AtPosition cursors contract ledger position)
    (limit : Nat)
    : continues cursors contract.server ledger position
        (contract.server.getEvents cursors contract.emitter.request limit) := by
  cases atPosition with
  | unread noCursor isLedger _ =>
      have request : contract.emitter.request = .startLedger ledger := by
        simp [ContractEventEmitter.request, noCursor, isLedger, Events.present]
      obtain ⟨isPosition, consumed⟩ :=
        (EventServer.isPosition_countP : contract.server.IsPosition ledger _).page limit
      rw [request]
      refine ⟨_, rfl, isPosition, ?_⟩
      rw [EventServer.getEvents, EventServer.before, consumed, EventServer.consumed_countP]
      simp [EventServer.consumed]
  | read isCursor isPosition =>
      have request : contract.emitter.request = .cursor (cursors.after position) := by
        rw [ContractEventEmitter.request, isCursor, present_after]
      rw [request]
      refine ⟨_, rfl, ?_⟩
      rw [EventServer.getEvents, EventServer.before, cursors.position_after]
      exact isPosition.page limit

/-- Appended events change neither the position nor what has been consumed. -/
theorem Reading.append {events : List EventResponse} {latest : Nat}
    (reading : Reading cursors contract ledger position)
    (accepted : contract.server.accepts events latest)
    : Reading cursors { contract with server := contract.server.append events latest accepted }
        ledger position := by
  have same
      : (contract.server.append events latest accepted).consumed ledger position
        = contract.server.consumed ledger position :=
    EventServer.consumed_append accepted reading.at_position.le
  refine ⟨reading.first, reading.known.trans accepted.1, ?_, reading.noQuestion, ?_, ?_, ?_⟩
  · cases reading.at_position with
    | unread noCursor isLedger noPage => exact .unread noCursor isLedger noPage
    | read isCursor isPosition => exact .read isCursor (isPosition.append accepted reading.known)
  · intro request answer asked
    obtain ⟨isRequest, answers⟩ := reading.asks request answer asked
    refine ⟨isRequest, fun response answered => ?_⟩
    obtain ⟨later, isCursor, isPosition, consumed⟩ := answers response answered
    refine ⟨later, isCursor, isPosition.append accepted reading.known, ?_⟩
    rw [same, EventServer.consumed_append accepted isPosition.le, consumed]
  · exact same.symm ▸ reading.processed
  · exact fun isOpen => (reading.complete isOpen).trans same.symm

/-- What happens to listeners, or within the emission of one event, is not about the position. -/
theorem Reading.kept (reading : Reading cursors contract ledger position)
    (kept : PositionKept contract.emitter next.emitter) (sameServer : next.server = contract.server)
    (sameFirst : next.firstLedger = contract.firstLedger)
    (sameProcessed : next.processed = contract.processed)
    (samePoll
      : next.poll = contract.poll
        ∨ ∃ rest emission later,
            contract.poll = some (.page rest emission) ∧ next.poll = some (.page rest later))
    : Reading cursors next ledger position := by
  have sameRequest : next.emitter.request = contract.emitter.request := by
    rw [ContractEventEmitter.request, ContractEventEmitter.request, kept.lastCursor,
      kept.lastLedger]
  have samePage : next.page = contract.page := by
    rcases samePoll with same | ⟨rest, emission, later, page, nowPage⟩
    · rw [PolledContract.page, same, PolledContract.page]
    · rw [PolledContract.page, nowPage, PolledContract.page, page]
  refine ⟨sameFirst ▸ reading.first, sameServer ▸ reading.known, ?_, ?_, ?_, ?_, ?_⟩
  · cases reading.at_position with
    | unread noCursor isLedger noPage =>
        refine .unread (kept.lastCursor.trans noCursor) (kept.lastLedger.trans isLedger) ?_
        rcases samePoll with same | ⟨rest, emission, later, page, _⟩
        · exact same ▸ noPage
        · exact absurd page (noPage rest emission)
    | read isCursor isPosition =>
        exact .read (kept.lastCursor.trans isCursor) (sameServer ▸ isPosition)
  · intro answer asked
    rcases samePoll with same | ⟨_, _, _, _, nowPage⟩
    · exact reading.noQuestion answer (same ▸ asked)
    · rw [nowPage] at asked
      cases asked
  · intro request answer asked
    rcases samePoll with same | ⟨_, _, _, _, nowPage⟩
    · rw [sameRequest, sameServer]
      exact reading.asks request answer (same ▸ asked)
    · rw [nowPage] at asked
      cases asked
  · rw [sameProcessed, sameServer]
    exact reading.processed
  · intro isOpen
    rw [sameProcessed, sameServer, samePage]
    refine reading.complete (Bool.eq_false_iff.mpr fun wasClosed => ?_)
    rw [kept.isClosed wasClosed] at isOpen
    cases isOpen

/-- A poll that ends with its page, or with its call, leaves the position. -/
theorem Reading.ended (reading : Reading cursors contract ledger position)
    (sameEmitter : next.emitter = contract.emitter) (sameServer : next.server = contract.server)
    (sameFirst : next.firstLedger = contract.firstLedger)
    (sameProcessed : next.processed = contract.processed) (noPoll : next.poll = none)
    (noPage : contract.page = [] ∨ contract.emitter.isClosed = true)
    : Reading cursors next ledger position := by
  refine ⟨sameFirst ▸ reading.first, sameServer ▸ reading.known, ?_, ?_, ?_, ?_, ?_⟩
  · cases reading.at_position with
    | unread noCursor isLedger _ =>
        exact .unread (sameEmitter ▸ noCursor) (sameEmitter ▸ isLedger) (by simp [noPoll])
    | read isCursor isPosition => exact .read (sameEmitter ▸ isCursor) (sameServer ▸ isPosition)
  · simp [noPoll]
  · simp [noPoll]
  · rw [sameProcessed, sameServer]
    exact reading.processed
  · intro isOpen
    rw [sameEmitter] at isOpen
    have complete := reading.complete isOpen
    rw [noPage.resolve_right (by simp [isOpen])] at complete
    rw [sameProcessed, sameServer, PolledContract.page, noPoll]
    exact complete

/-- The next event of a page moves to what has been processed, unless the emitter is closed. -/
theorem Reading.process {topics : List String} {event : EventResponse} {others : List EventResponse}
    {emission : Option Emission} (reading : Reading cursors contract ledger position)
    (page : contract.poll = some (.page (event :: others) emission))
    : Reading cursors ((contract.recorded emission).process topics event others) ledger
        position := by
  have isPage : contract.page = event :: others := by rw [PolledContract.page, page]
  refine ⟨reading.first, reading.known, ?_, fun answer asked => by (cases asked),
    fun request answer asked => by (cases asked), ?_, ?_⟩
  · cases reading.at_position with
    | unread _ _ noPage => exact absurd page (noPage _ _)
    | read isCursor isPosition => exact .read isCursor isPosition
  · change (if contract.emitter.isClosed then contract.processed else contract.processed ++ [event])
      <+: contract.server.consumed ledger position
    by_cases isClosed : contract.emitter.isClosed = true
    · rw [if_pos isClosed]
      exact reading.processed
    · rw [if_neg isClosed]
      have complete := reading.complete (Bool.eq_false_iff.mpr isClosed)
      rw [isPage] at complete
      exact ⟨others, by simpa using complete⟩
  · intro isOpen
    have wasOpen : contract.emitter.isClosed = false := isOpen
    have complete := reading.complete wasOpen
    rw [isPage] at complete
    simpa [PolledContract.process, PolledContract.recorded, PolledContract.page, wasOpen]
      using complete

/-- The events of an answer are consumed from now on. -/
theorem Reading.arrive {request : ContractEventEmitter.EventsRequest} {response : EventsResponse}
    (reading : Reading cursors contract ledger position)
    (answered : contract.poll = some (.events request (some response)))
    : PollingInv cursors
        { contract with
          emitter := { contract.emitter with lastCursor := some response.cursor }
          poll := some (.page response.events none) } := by
  obtain ⟨_, answers⟩ := reading.asks request _ answered
  obtain ⟨later, isCursor, isPosition, consumed⟩ := answers response rfl
  refine .inr ⟨ledger, later, reading.first, reading.known, .read (by rw [isCursor]) isPosition,
    fun answer asked => by (cases asked), fun request answer asked => by (cases asked), ?_, ?_⟩
  · exact consumed ▸ reading.processed.trans (List.prefix_append _ _)
  · intro isOpen
    have complete := reading.complete isOpen
    rw [PolledContract.page, answered, List.append_nil] at complete
    rw [consumed, ← complete, PolledContract.page]

/-- The first latest ledger is where reading starts. -/
theorem Starting.arrive {sequence : Nat} (starting : Starting contract)
    (answered : contract.poll = some (.latestLedger (some sequence)))
    : PollingInv cursors
        { contract with
          emitter := { contract.emitter with lastLedger := some sequence }
          firstLedger := some (contract.firstLedger.getD sequence)
          poll :=
            some (.events
              ({ contract.emitter with lastLedger := some sequence } : ContractEventEmitter).request
              none) } := by
  have known : sequence ≤ contract.server.latest := by
    rcases starting.asks with noPoll | ⟨answer, asked, inServer⟩
    · rw [answered] at noPoll
      cases noPoll
    · rw [answered] at asked
      cases asked
      exact inServer sequence rfl
  refine .inr ⟨sequence, 0, by rw [starting.noFirst, Option.getD_none], known,
    .unread starting.noCursor rfl fun rest emission page => by (cases page),
    fun answer asked => by (cases asked), fun request answer asked => ?_, ?_, fun _ => ?_⟩
  · cases asked
    exact ⟨rfl, fun response answered => by cases answered⟩
  · rw [starting.nothing]
    exact List.nil_prefix
  · rw [starting.nothing]
    rfl

/-- The timer asks for what comes next, unless a poll is not over. -/
theorem PollingInv.tick (inv : PollingInv cursors contract) : PollingInv cursors contract.tick := by
  unfold PolledContract.tick
  split
  · exact inv
  · rename_i free
    simp only [Bool.or_eq_true, not_or, Bool.not_eq_true, Option.isSome_eq_false_iff,
      Option.isNone_iff_eq_none] at free
    rcases inv with starting | ⟨ledger, position, reading⟩
    · have needsLedger : contract.emitter.needsLedger = true := by
        simp [ContractEventEmitter.needsLedger, starting.noLedger, starting.noCursor,
          Events.present]
      rw [if_pos needsLedger]
      exact .inl ⟨starting.noFirst, starting.noLedger, starting.noCursor, starting.nothing,
        .inr ⟨none, rfl, fun sequence isAnswer => by cases isAnswer⟩⟩
    · rw [if_neg (by simp [reading.at_position.needsLedger])]
      refine .inr ⟨ledger, position, reading.first, reading.known,
        reading.at_position.waits fun rest emission page => by (cases page),
        fun answer asked => by (cases asked), fun request answer asked => ?_, reading.processed,
        fun isOpen => ?_⟩
      · cases asked
        exact ⟨rfl, fun response answered => by cases answered⟩
      · have complete := reading.complete isOpen
        rwa [PolledContract.page, free.1] at complete

/-- Before the ledger is known there is no page, so that nothing can happen to one. -/
theorem Starting.noPage {rest : List EventResponse} {emission : Option Emission}
    (starting : Starting contract)
    : contract.poll ≠ some (.page rest emission) := by
  rcases starting.asks with noPoll | ⟨answer, asked, _⟩
  · simp [noPoll]
  · simp [asked]

/-- Operations do not make the ledger known. -/
theorem Starting.operate {operation : Operation} (starting : Starting contract)
    : Starting { contract with emitter := contract.emitter.operate operation } := by
  have kept : PositionKept contract.emitter (contract.emitter.operate operation) :=
    ContractEventEmitter.positionKept_operate operation
  exact ⟨starting.noFirst, kept.lastLedger.trans starting.noLedger,
    kept.lastCursor.trans starting.noCursor, starting.nothing, starting.asks⟩

/-- A step that gives up no page keeps the invariant, by cases on what it is. -/
theorem pollingInv_step {topics : List String} {action : PollingAction}
    (allowed : finishesPages contract action)
    (taken : pollingStep topics cursors contract action = some next)
    (inv : PollingInv cursors contract)
    : PollingInv cursors next := by
  cases pollingTransition_of_step taken with
  | @operate operation isYielding =>
      rcases inv with starting | ⟨ledger, position, reading⟩
      · exact .inl starting.operate
      · exact .inr ⟨ledger, position,
          reading.kept (ContractEventEmitter.positionKept_operate operation) rfl rfl rfl (.inl rfl)⟩
  | tick isSet isWaiting => exact inv.tick
  | serveLedger asked =>
      rcases inv with starting | ⟨ledger, position, reading⟩
      · refine .inl ⟨starting.noFirst, starting.noLedger, starting.noCursor, starting.nothing,
          .inr ⟨_, rfl, fun sequence isAnswer => ?_⟩⟩
        exact (Option.some.inj isAnswer).ge
      · exact absurd asked (reading.noQuestion _)
  | @serveEvents limit request asked =>
      rcases inv with starting | ⟨ledger, position, reading⟩
      · rcases starting.asks with noPoll | ⟨answer, isQuestion, _⟩
        · simp [noPoll] at asked
        · simp [isQuestion] at asked
      · obtain ⟨isRequest, _⟩ := reading.asks request _ asked
        refine .inr ⟨ledger, position, reading.first, reading.known,
          reading.at_position.waits fun rest emission page => by (cases page),
          fun answer question => by (cases question),
          fun _ answer question => ?_, reading.processed, fun isOpen => ?_⟩
        · cases question
          refine ⟨isRequest, fun response answered => ?_⟩
          cases answered
          exact isRequest ▸ reading.at_position.continues_getEvents limit
        · have complete := reading.complete isOpen
          rwa [PolledContract.page, asked] at complete
  | arriveLedger answered =>
      rcases inv with starting | ⟨ledger, position, reading⟩
      · exact starting.arrive answered
      · exact absurd answered (reading.noQuestion _)
  | arriveEvents answered =>
      rcases inv with starting | ⟨ledger, position, reading⟩
      · rcases starting.asks with noPoll | ⟨answer, isQuestion, _⟩
        · simp [noPoll] at answered
        · simp [isQuestion] at answered
      · exact reading.arrive answered
  | fail isWaiting =>
      rcases inv with starting | ⟨ledger, position, reading⟩
      · exact .inl ⟨starting.noFirst, starting.noLedger, starting.noCursor, starting.nothing,
          .inl rfl⟩
      · refine .inr ⟨ledger, position, reading.ended rfl rfl rfl rfl rfl (.inl ?_)⟩
        exact PolledContract.page_of_isWaiting isWaiting
  | append accepted =>
      rcases inv with starting | ⟨ledger, position, reading⟩
      · refine .inl ⟨starting.noFirst, starting.noLedger, starting.noCursor, starting.nothing, ?_⟩
        refine starting.asks.imp_right fun ⟨answer, asked, inServer⟩ => ⟨answer, asked, ?_⟩
        exact fun sequence isAnswer => (inServer sequence isAnswer).trans accepted.1
      · exact .inr ⟨ledger, position, reading.append accepted⟩
  | pageOver page isOver =>
      rcases inv with starting | ⟨ledger, position, reading⟩
      · exact absurd page starting.noPage
      · exact .inr ⟨ledger, position,
          reading.ended rfl rfl rfl rfl rfl (.inl (by rw [PolledContract.page, page]))⟩
  | nextEvent page isOver =>
      rcases inv with starting | ⟨ledger, position, reading⟩
      · exact absurd page starting.noPage
      · exact .inr ⟨ledger, position, reading.process page⟩
  | emit page isNext noListeners idle =>
      rcases inv with starting | ⟨ledger, position, reading⟩
      · exact absurd page starting.noPage
      · exact .inr ⟨ledger, position,
          reading.kept ⟨rfl, rfl, id⟩ rfl rfl rfl (.inr ⟨_, _, _, page, rfl⟩)⟩
  | call page due idle =>
      rcases inv with starting | ⟨ledger, position, reading⟩
      · exact absurd page starting.noPage
      · exact .inr ⟨ledger, position,
          reading.kept ContractEventEmitter.positionKept_called rfl rfl rfl
            (.inr ⟨_, _, _, page, rfl⟩)⟩
  | finish page isCalling isLogged =>
      rcases inv with starting | ⟨ledger, position, reading⟩
      · exact absurd page starting.noPage
      · exact .inr ⟨ledger, position,
          reading.kept ⟨rfl, rfl, id⟩ rfl rfl rfl (.inr ⟨_, _, _, page, rfl⟩)⟩
  | @abort rest emission page isCalling =>
      rcases inv with starting | ⟨ledger, position, reading⟩
      · exact absurd page starting.noPage
      · refine .inr ⟨ledger, position, reading.ended rfl rfl rfl rfl rfl ?_⟩
        rw [PolledContract.page, page]
        exact allowed (rest, emission) (PolledContract.current_eq_some_iff.mpr page)

/-- Polling loses and repeats nothing in every run that gives up no page before its end. Witness:
the invariant along the run.
-/
theorem processedInOrder_of_stepsSatisfy {topics : List String} {server : EventServer}
    {actions : List PollingAction} {final : PolledContract}
    (allowed
      : stepsSatisfy (pollingStep topics cursors) finishesPages (.initial server) actions)
    (reached : run (pollingStep topics cursors) (.initial server) actions = some final)
    : ProcessedInOrder final := by
  have inv : PollingInv cursors final :=
    run_preserves_of_stepsSatisfy
      (fun _ _ _ stepAllowed taken inv => pollingInv_step stepAllowed taken inv)
      (pollingInv_initial server) allowed reached
  exact inv.processedInOrder

end Invariant

/-- An event of the ledger that has no topics. -/
private def eventOf (ledger : Nat) (id : String) : EventResponse :=
  { id := id, ledger := ledger, topic := [] }

/-- A call that fails, and pages of an event each. -/
private def failsOnce : List PollingAction :=
  [.operate .start, .tick, .serve 0, .arrive, .fail, .append [eventOf 1 "1", eventOf 1 "2"] 1,
    .tick,
    .serve 1, .arrive, .process, .emit, .emit, .process, .tick, .tick, .serve 1, .arrive, .process]

/-- After the call that fails, both events are processed. -/
theorem processedInOrder_of_failure
    : ∃ final,
        run (pollingStep [] .strokes) (.initial .empty) failsOnce = some final
        ∧ final.processed = [eventOf 1 "1", eventOf 1 "2"]
        ∧ ProcessedInOrder final :=
  ⟨_, rfl, rfl,
    @processedInOrder_of_stepsSatisfy .strokes [] .empty failsOnce _ (by decide) rfl⟩

/-- At the first of two events, a listener throws an error that contains itself. -/
private def givesUpPage : List PollingAction :=
  [.operate (.on "*" 0), .tick, .serve 0, .arrive, .append [eventOf 1 "1", eventOf 1 "2"] 1,
    .serve 2, .arrive, .process, .emit, .call, .finish (.throws false), .append [eventOf 2 "3"] 2,
    .tick, .serve 1, .arrive, .process]

/-- The second event of the page is lost, since the cursor after it is known already. -/
theorem not_processedInOrder_of_circular_error
    : ∃ final,
        run (pollingStep [] .strokes) (.initial .empty) givesUpPage = some final
        ∧ final.processed = [eventOf 1 "1", eventOf 2 "3"]
        ∧ ¬ProcessedInOrder final := by
  refine ⟨_, rfl, rfl, fun inOrder => ?_⟩
  have isPrefix
      : [eventOf 1 "1", eventOf 2 "3"] <+: [eventOf 1 "1", eventOf 1 "2", eventOf 2 "3"] := inOrder
  revert isPrefix
  decide

end Axionvera.Contracts
