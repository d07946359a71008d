import Axionvera.Logging.EntryConservation
import Mathlib.Data.List.Perm.Subperm

/-! What `destroy` leaves behind. It flushes once, waits for no other flush, and does not stop what
has begun before.
-/

namespace Axionvera.Logging

open Axionvera.Foundation
open CloudWatchLogger

-----------------------------------------------------------------------------------------
-- The property and when it holds
-----------------------------------------------------------------------------------------

/-- Once a call of `destroy` has resolved, everything accepted before it has been delivered, the
queue is empty and no timer is set.
-/
def Drained {ε : Type} (logger : CloudWatchLogger ε) : Prop :=
  (∀ destruction ∈ logger.destroyed, destruction.accepted.Subperm logger.delivered)
  ∧ (logger.destroyed ≠ [] → logger.logQueue = [] ∧ logger.flushTimer = false)

/-- The service accepts every batch that it is sent. -/
def serviceAccepts {ε : Type} : CloudWatchAction ε → Prop
  | .fail _ _ | .describeFails _ => False
  | _ => True

/-- When `destroy` is called, one flush empties the queue; when it goes on, no other flush is under
way. No entry is accepted and no timer is set after the call.
-/
def drainsInTime {ε : Type} (isWritable : ε → Bool) (config : CloudWatchConfig)
    (logger : CloudWatchLogger ε) : CloudWatchAction ε → Prop
  | .destroy => logger.nextBatch config = logger.logQueue ∧ logger.logQueue.all isWritable = true
  | .finishDestroy _ => undelivered logger.flights = []
  | .log _ => logger.isInitialized = true → logger.isDestroyed = false
  | .initializationGoesOn index =>
      ∀ initialization ∈ logger.initializations[index]?,
        initialization.stage = .stream true
          ∨ initialization.stage = .finished ∧ initialization.entry.isSome = true
        → logger.isDestroyed = false
  | _ => True

instance {ε : Type} : DecidablePred (@serviceAccepts ε)
  | .fail _ _ | .describeFails _ => .isFalse id
  | .initializeLogger | .log _ | .flush | .tick | .destroy | .initializationGoesOn _
  | .initializationFails _ | .send _ | .accept _ | .respond _ _ | .describe _ | .described _ _
  | .wake _ | .finishDestroy _ => .isTrue trivial

instance {ε : Type} [DecidableEq ε] (isWritable : ε → Bool) (config : CloudWatchConfig)
    (logger : CloudWatchLogger ε) : DecidablePred (drainsInTime isWritable config logger)
  | .destroy => inferInstanceAs (Decidable (_ = _ ∧ _ = true))
  | .finishDestroy _ => inferInstanceAs (Decidable (_ = []))
  | .log _ => inferInstanceAs (Decidable (_ = true → _ = false))
  | .initializationGoesOn _ =>
      inferInstanceAs (Decidable (∀ _ ∈ _, (_ = _ ∨ _ = _ ∧ _ = true) → _ = false))
  | .initializeLogger | .flush | .tick | .initializationFails _ | .send _ | .accept _ | .respond _ _
  | .fail _ _ | .describe _ | .described _ _ | .describeFails _ | .wake _ => .isTrue trivial

-----------------------------------------------------------------------------------------
-- The invariant
-----------------------------------------------------------------------------------------

/-- What holds while shutdown goes well. Without a client nothing is under way; it is there before
anything is queued, and what has been destroyed stays empty.
-/
structure ShutdownInv {ε : Type} (logger : CloudWatchLogger ε) : Prop where
  accounted : logger.accepted.Perm logger.held
  queue : logger.isDestroyed = true → logger.logQueue = []
  timer : logger.isDestroyed = true → logger.flushTimer = false
  connected
    : logger.isDestroyed = false
      → logger.client = false
      → logger.logQueue = []
        ∧ logger.isInitialized = false
        ∧ ∀ initialization ∈ logger.initializations, initialization.stage = .importing
  idle : logger.client = false ∨ logger.destroyed ≠ [] → undelivered logger.flights = []
  pending
    : ∀ destruction ∈ logger.destructions,
        destruction.accepted <+: logger.accepted ∧ logger.isDestroyed = true
  resolved
    : ∀ destruction ∈ logger.destroyed,
        destruction.accepted.Subperm logger.delivered ∧ logger.isDestroyed = true

section

variable {ε : Type} {isWritable : ε → Bool} {config : CloudWatchConfig}
  {logger next : CloudWatchLogger ε} {index : Nat}

/-- A logger that has just been created has nothing to drain. -/
theorem shutdownInv_initial : ShutdownInv (.initial : CloudWatchLogger ε) :=
  {
    accounted := .refl []
    queue := fun _ => rfl
    timer := fun _ => rfl
    connected := fun _ _ => ⟨rfl, rfl, fun initialization member => by cases member⟩
    idle := fun _ => rfl
    pending := fun destruction member => by cases member
    resolved := fun destruction member => by cases member
  }

/-- Whoever has been destroyed is marked so. -/
theorem ShutdownInv.isDestroyed (inv : ShutdownInv logger) (destroyed : logger.destroyed ≠ [])
    : logger.isDestroyed = true := by
  obtain ⟨destruction, member⟩ := List.exists_mem_of_ne_nil _ destroyed
  exact (inv.resolved destruction member).2

/-- The invariant leaves nothing once `destroy` has resolved. -/
theorem ShutdownInv.drained (inv : ShutdownInv logger) : Drained logger :=
  ⟨fun destruction member => (inv.resolved destruction member).1, fun destroyed =>
    ⟨inv.queue (inv.isDestroyed destroyed), inv.timer (inv.isDestroyed destroyed)⟩⟩

/-- A logger that has not been destroyed is connected when something has happened to it. -/
theorem ShutdownInv.client (inv : ShutdownInv logger) (notDestroyed : logger.isDestroyed = false)
    (happened
      : logger.logQueue ≠ []
        ∨ logger.isInitialized = true
        ∨ ∃ initialization ∈ logger.initializations, initialization.stage ≠ .importing)
    : logger.client = true := by
  refine Bool.eq_true_of_not_eq_false fun disconnected => ?_
  obtain ⟨noQueue, notInitialized, allImporting⟩ := inv.connected notDestroyed disconnected
  rcases happened with queued | isInitialized | ⟨initialization, member, isLater⟩
  · exact queued noQueue
  · rw [notInitialized] at isInitialized
    cases isInitialized
  · exact isLater (allImporting initialization member)

/-- The parts of a logger that flushes under way do not change, except that more is delivered and
that nothing new is under way.
-/
structure FlightsChanged (logger next : CloudWatchLogger ε) : Prop where
  client : next.client = logger.client
  logQueue : next.logQueue = logger.logQueue
  flushTimer : next.flushTimer = logger.flushTimer
  isInitialized : next.isInitialized = logger.isInitialized
  isDestroyed : next.isDestroyed = logger.isDestroyed
  initializations : next.initializations = logger.initializations
  destructions : next.destructions = logger.destructions
  destroyed : next.destroyed = logger.destroyed
  accepted : next.accepted = logger.accepted
  delivered : logger.delivered <+: next.delivered
  undelivered : undelivered logger.flights = [] → undelivered next.flights = []

/-- Flushes under way keep the invariant. -/
theorem ShutdownInv.of_flightsChanged (inv : ShutdownInv logger)
    (changed : FlightsChanged logger next) (accounted : next.accepted.Perm next.held)
    : ShutdownInv next := by
  obtain ⟨client, logQueue, flushTimer, isInitialized, isDestroyed, initializations, destructions,
    destroyed, accepted, delivered, undelivered⟩ := changed
  refine ⟨accounted, ?_, ?_, ?_, ?_, ?_, ?_⟩
  · rw [isDestroyed, logQueue]
    exact inv.queue
  · rw [isDestroyed, flushTimer]
    exact inv.timer
  · rw [isDestroyed, client, logQueue, isInitialized, initializations]
    exact inv.connected
  · rw [client, destroyed]
    exact fun condition => undelivered (inv.idle condition)
  · rw [destructions, accepted, isDestroyed]
    exact inv.pending
  · rw [destroyed, isDestroyed]
    intro destruction member
    obtain ⟨subperm, wasDestroyed⟩ := inv.resolved destruction member
    exact ⟨List.Subperm.trans subperm delivered.sublist.subperm, wasDestroyed⟩

-----------------------------------------------------------------------------------------
-- What is called
-----------------------------------------------------------------------------------------

@[simp] theorem flush_client : (logger.flush isWritable config).client = logger.client := by
  unfold flush
  split <;> rfl

@[simp] theorem flush_flushTimer
    : (logger.flush isWritable config).flushTimer = logger.flushTimer := by
  unfold flush
  split <;> rfl

@[simp] theorem flush_isDestroyed
    : (logger.flush isWritable config).isDestroyed = logger.isDestroyed := by
  unfold flush
  split <;> rfl

@[simp] theorem flush_delivered
    : (logger.flush isWritable config).delivered = logger.delivered := by
  unfold flush
  split <;> rfl

@[simp] theorem flush_destroyed
    : (logger.flush isWritable config).destroyed = logger.destroyed := by
  unfold flush
  split <;> rfl

/-- Without a client or with an empty queue, nothing is flushed. -/
theorem flush_of_idle (idle : logger.client = false ∨ logger.logQueue = [])
    : logger.flush isWritable config = logger := by
  rcases idle with disconnected | noQueue
  · simp [flush, startsFlight, disconnected]
  · simp [flush, startsFlight, noQueue]

/-- A flush that gets under way takes place before `destroy`, when the logger is connected. -/
theorem ShutdownInv.flush (inv : ShutdownInv logger)
    : ShutdownInv (logger.flush isWritable config) := by
  by_cases noQueue : logger.logQueue = []
  · rwa [flush_of_idle (.inr noQueue)]
  · have notDestroyed : logger.isDestroyed = false :=
      Bool.eq_false_iff.mpr fun isDestroyed => noQueue (inv.queue isDestroyed)
    have connected := inv.client notDestroyed (.inl noQueue)
    have noneDestroyed : logger.destroyed = [] := by
      by_contra destroyed
      rw [inv.isDestroyed destroyed] at notDestroyed
      cases notDestroyed
    have accounted
        : (logger.flush isWritable config).accepted.Perm (logger.flush isWritable config).held := by
      rw [held_flush, accepted_flush]
      exact inv.accounted
    unfold CloudWatchLogger.flush at accounted ⊢
    split
    · rename_i starts
      rw [if_pos starts] at accounted
      refine ⟨accounted, ?_, ?_, ?_, ?_, inv.pending, inv.resolved⟩
      · simp [notDestroyed]
      · simp [notDestroyed]
      · simp [connected]
      · simp [connected, noneDestroyed]
    · exact inv

/-- Accepting an entry keeps the invariant before `destroy`. -/
theorem ShutdownInv.push {entry : ε} (inv : ShutdownInv logger)
    (notDestroyed : logger.isDestroyed = false) (connected : logger.client = true)
    : ShutdownInv (logger.push isWritable config entry) := by
  have enqueued : ShutdownInv (logger.enqueue entry) := by
    refine ⟨?_, ?_, ?_, ?_, inv.idle, ?_, inv.resolved⟩
    · have held : (logger.enqueue entry).held = logger.held ++ [entry] := by
        simp [held, enqueue]
      rw [held]
      exact inv.accounted.append_right [entry]
    · simp [enqueue, notDestroyed]
    · simp [enqueue, notDestroyed]
    · simp [enqueue, connected]
    · intro destruction member
      obtain ⟨isPrefix, isDestroyed⟩ := inv.pending destruction member
      exact ⟨isPrefix.trans (List.prefix_append _ _), isDestroyed⟩
  unfold CloudWatchLogger.push
  split
  · exact enqueued.flush
  · exact enqueued

/-- A call of `initialize` is over at once for a logger that is initialised or destroyed. -/
theorem ShutdownInv.initializeLogger {entry : Option ε} (inv : ShutdownInv logger)
    : ShutdownInv (logger.initializeLogger entry) := by
  refine ⟨inv.accounted, inv.queue, inv.timer, ?_, inv.idle, inv.pending, inv.resolved⟩
  intro notDestroyed disconnected
  obtain ⟨noQueue, notInitialized, allImporting⟩ := inv.connected notDestroyed disconnected
  refine ⟨noQueue, notInitialized, fun initialization member => ?_⟩
  rcases List.mem_append.mp member with old | new
  · exact allImporting initialization old
  · obtain rfl := List.mem_singleton.mp new
    change logger.isDestroyed = false at notDestroyed
    simp [notInitialized, notDestroyed]

/-- `destroy` empties the queue if one flush can do so. -/
theorem ShutdownInv.destroy (inv : ShutdownInv logger)
    (isBatch : logger.nextBatch config = logger.logQueue)
    (allWritable : logger.logQueue.all isWritable = true)
    : ShutdownInv (logger.destroy isWritable config) := by
  have accounted
      : (logger.destroy isWritable config).accepted.Perm
          (logger.destroy isWritable config).held := by
    have moved
        : EntriesMoved logger (logger.destroy isWritable config) (logger.swapped config .destroy) :=
      entriesMoved_of_step (show cloudWatchStep isWritable config logger .destroy = _ from rfl)
    exact moved.perm inv.accounted
  have noneLeft : (logger.destroy isWritable config).logQueue = [] := by
    by_cases noQueue : logger.logQueue = []
    · simp [CloudWatchLogger.destroy, CloudWatchLogger.flush, startsFlight, noQueue]
    · have notDestroyed : logger.isDestroyed = false :=
        Bool.eq_false_iff.mpr fun isDestroyed => noQueue (inv.queue isDestroyed)
      have connected := inv.client notDestroyed (.inl noQueue)
      have taken : logger.logQueue.drop (config.spliceCount logger.logQueue.length) = [] := by
        have whole := List.take_append_drop (config.spliceCount logger.logQueue.length)
          logger.logQueue
        rw [nextBatch] at isBatch
        rw [isBatch] at whole
        simpa using whole
      have writable : (logger.nextBatch config).all isWritable = true := isBatch ▸ allWritable
      have starts
          : startsFlight isWritable config { logger with isDestroyed := true, flushTimer := false }
            = true := by
        simp only [startsFlight, connected, Bool.true_and, Bool.and_eq_true, decide_eq_true_eq]
        exact ⟨noQueue, writable⟩
      simp only [CloudWatchLogger.destroy, CloudWatchLogger.flush, starts, if_true]
      exact taken
  refine ⟨accounted, fun _ => noneLeft, fun _ => flush_flushTimer, ?_, fun idle => ?_, ?_, ?_⟩
  · intro notDestroyed
    cases notDestroyed.symm.trans flush_isDestroyed
  · have wasIdle : logger.client = false ∨ logger.destroyed ≠ [] :=
      idle.imp (fun disconnected => by simpa [CloudWatchLogger.destroy] using disconnected)
        (fun destroyed => by simpa [CloudWatchLogger.destroy] using destroyed)
    have same
        : CloudWatchLogger.flush isWritable config
            { logger with isDestroyed := true, flushTimer := false }
          = { logger with isDestroyed := true, flushTimer := false } :=
      flush_of_idle (wasIdle.imp_right fun destroyed => inv.queue (inv.isDestroyed destroyed))
    exact (congrArg (fun flushed => undelivered flushed.flights) same).trans (inv.idle wasIdle)
  · intro destruction member
    refine ⟨?_, flush_isDestroyed⟩
    have sameAccepted : (logger.destroy isWritable config).accepted = logger.accepted :=
      accepted_flush
    rw [sameAccepted]
    rcases List.mem_append.mp member with old | new
    · exact (inv.pending destruction old).1
    · obtain rfl := List.mem_singleton.mp new
      exact List.prefix_refl _
  · intro destruction member
    have old : destruction ∈ logger.destroyed := by
      simpa [CloudWatchLogger.destroy] using member
    refine ⟨?_, flush_isDestroyed⟩
    have sameDelivered : (logger.destroy isWritable config).delivered = logger.delivered :=
      flush_delivered
    rw [sameDelivered]
    exact (inv.resolved destruction old).1

-----------------------------------------------------------------------------------------
-- What goes on
-----------------------------------------------------------------------------------------

/-- A change of initialisations keeps the invariant as long as those of a logger without a client
have not got the client.
-/
theorem ShutdownInv.of_initializations {initializations : List (Initialization ε)} {client : Bool}
    (inv : ShutdownInv logger) (connects : logger.client = true → client = true)
    (importing
      : logger.isDestroyed = false
        → client = false
        → ∀ initialization ∈ initializations, initialization.stage = .importing)
    : ShutdownInv { logger with client := client, initializations := initializations } := by
  refine ⟨inv.accounted, inv.queue, inv.timer, ?_, ?_, inv.pending, inv.resolved⟩
  · intro notDestroyed disconnected
    have wasDisconnected : logger.client = false :=
      Bool.eq_false_iff.mpr fun connected => by
        rw [show client = false from disconnected] at connects
        cases connects connected
    obtain ⟨noQueue, notInitialized, _⟩ := inv.connected notDestroyed wasDisconnected
    exact ⟨noQueue, notInitialized, importing notDestroyed disconnected⟩
  · intro idle
    refine inv.idle (idle.imp_left fun disconnected => ?_)
    exact Bool.eq_false_iff.mpr fun connected => by
      rw [show client = false from disconnected] at connects
      cases connects connected

/-- An initialisation that is over, or has thrown, leaves the others. -/
theorem ShutdownInv.dropInitialization (inv : ShutdownInv logger)
    : ShutdownInv (logger.dropInitialization index) :=
  inv.of_initializations id fun notDestroyed disconnected initialization member =>
    (inv.connected notDestroyed disconnected).2.2 initialization (List.mem_of_mem_eraseIdx member)

/-- An initialisation beyond its first stage goes on, which it can do before `destroy` with a client
only.
-/
theorem ShutdownInv.reachStage {initialization : Initialization ε} {stage : InitializationStage}
    (inv : ShutdownInv logger) (found : logger.initializations[index]? = some initialization)
    (later : initialization.stage ≠ .importing)
    : ShutdownInv (logger.reachStage index initialization stage) := by
  refine inv.of_initializations id fun notDestroyed disconnected => ?_
  have importing := (inv.connected notDestroyed disconnected).2.2 initialization
    (List.mem_of_getElem? found)
  exact absurd importing later

/-- A request about the group or the stream. -/
theorem ShutdownInv.requestStage {initialization : Initialization ε} {stage : InitializationStage}
    (inv : ShutdownInv logger) (found : logger.initializations[index]? = some initialization)
    (later : initialization.stage ≠ .importing)
    : ShutdownInv (logger.requestStage index initialization stage) := by
  unfold CloudWatchLogger.requestStage
  split
  · exact inv.reachStage found later
  · exact inv.dropInitialization

/-- An initialisation goes on without setting a timer or logging an entry after `destroy`, by cases
on its stage.
-/
theorem ShutdownInv.continueInitialization {initialization : Initialization ε}
    (inv : ShutdownInv logger) (found : logger.initializations[index]? = some initialization)
    (allowed
      : initialization.stage = .stream true
          ∨ initialization.stage = .finished ∧ initialization.entry.isSome = true
        → logger.isDestroyed = false)
    : ShutdownInv (logger.continueInitialization isWritable config index initialization) := by
  have member := List.mem_of_getElem? found
  unfold CloudWatchLogger.continueInitialization
  split
  · exact inv.of_initializations (fun _ => rfl) (fun _ disconnected => by cases disconnected)
  · rename_i isStage
    exact inv.requestStage found (by simp [isStage])
  · rename_i isStage
    exact inv.reachStage found (by simp [isStage])
  · rename_i isStage
    exact inv.requestStage found (by simp [isStage])
  · rename_i isStage
    have notDestroyed := allowed (.inl isStage)
    have connected := inv.client notDestroyed (.inr (.inr ⟨_, member, by simp [isStage]⟩))
    have reached : ShutdownInv (logger.reachStage index initialization .finished) :=
      inv.reachStage found (by simp [isStage])
    refine ⟨reached.accounted, reached.queue, ?_, ?_, reached.idle, reached.pending,
      reached.resolved⟩
    · intro isDestroyed
      cases notDestroyed.symm.trans isDestroyed
    · intro _ disconnected
      cases connected.symm.trans disconnected
  · rename_i isStage
    split
    · exact inv.dropInitialization
    · rename_i entry isEntry
      have notDestroyed := allowed (.inr ⟨isStage, by simp [isEntry]⟩)
      have connected := inv.client notDestroyed (.inr (.inr ⟨_, member, by simp [isStage]⟩))
      exact inv.dropInitialization.push notDestroyed connected

/-- The phase of a flush that the service has not got yet, before and after, is not about anything
else.
-/
theorem flightsChanged_reachPhase {flight changed : Flight ε}
    (found : logger.flights[index]? = some flight) (sameBatch : changed.batch = flight.batch)
    (notYet : flight.phase ≠ .accepted) (notThen : changed.phase ≠ .accepted)
    : FlightsChanged logger (logger.reachPhase index changed) :=
  ⟨rfl, rfl, rfl, rfl, rfl, rfl, rfl, rfl, rfl, List.prefix_refl _,
    fun idle => (undelivered_reachPhase found sameBatch notYet notThen).trans idle⟩

/-- A batch that the service has not got is empty when nothing is under way. -/
theorem batch_of_idle {flight : Flight ε} (found : logger.flights[index]? = some flight)
    (notYet : flight.phase ≠ .accepted) (idle : undelivered logger.flights = [])
    : flight.batch = [] := by
  obtain ⟨front, back, _, _, split, _, _⟩ := exists_flights_split found
  rw [split] at idle
  simp only [undelivered_append, undelivered_cons, if_neg notYet, List.append_eq_nil_iff] at idle
  exact idle.2.1

/-- Nothing is put back when nothing is under way. -/
theorem flightsChanged_giveUp {flight : Flight ε} (found : logger.flights[index]? = some flight)
    (notYet : flight.phase ≠ .accepted) (idle : undelivered logger.flights = [])
    : FlightsChanged logger (logger.giveUp index flight) := by
  obtain ⟨front, back, _, _, split, _, removed⟩ := exists_flights_split found
  have empty := batch_of_idle found notYet idle
  refine ⟨rfl, by simp [giveUp, empty], rfl, rfl, rfl, rfl, rfl, rfl, rfl, List.prefix_refl _, ?_⟩
  intro _
  rw [split] at idle
  rw [giveUp, removed]
  simp only [undelivered_append, undelivered_cons, List.append_eq_nil_iff] at idle ⊢
  exact ⟨idle.1, idle.2.2⟩

/-- The service gets a batch. -/
theorem flightsChanged_accept {flight : Flight ε} (found : logger.flights[index]? = some flight)
    : FlightsChanged logger (logger.accept index flight) := by
  obtain ⟨front, back, _, _, split, replaced, _⟩ := exists_flights_split found
  refine ⟨rfl, rfl, rfl, rfl, rfl, rfl, rfl, rfl, rfl, List.prefix_append _ _, fun idle => ?_⟩
  rw [split] at idle
  rw [accept, reachPhase, replaced]
  simp only [undelivered_append, undelivered_cons, List.append_eq_nil_iff] at idle ⊢
  exact ⟨idle.1, by simp, idle.2.2⟩

/-- The answer to a request arrives. -/
theorem flightsChanged_respond {flight : Flight ε} {token : Option String}
    (found : logger.flights[index]? = some flight)
    : FlightsChanged logger (logger.respond index token) := by
  obtain ⟨front, back, _, _, split, _, removed⟩ := exists_flights_split found
  refine ⟨rfl, rfl, rfl, rfl, rfl, rfl, rfl, rfl, rfl, List.prefix_refl _, fun idle => ?_⟩
  rw [split] at idle
  rw [respond, removed]
  simp only [undelivered_append, undelivered_cons, List.append_eq_nil_iff] at idle ⊢
  exact ⟨idle.1, idle.2.2⟩

/-- What a flush under way does while the service accepts everything, by cases on the action. A
request without a client fails, but then its batch is empty.
-/
theorem ShutdownInv.flightsChanged {action : CloudWatchAction ε} (inv : ShutdownInv logger)
    (accepts : serviceAccepts action)
    (taken : cloudWatchStep isWritable config logger action = some next)
    (isFlight
      : match action with
        | .send _ | .accept _ | .respond _ _ | .describe _ | .described _ _ | .wake _ => True
        | _ => False)
    : FlightsChanged logger next := by
  cases action with
  | send index =>
      obtain ⟨flight, found, inPhase, rfl⟩ := exists_flight_of_atFlight taken
      have notYet := ne_accepted_of_mem inPhase (by decide)
      unfold send
      split
      · exact flightsChanged_reachPhase found rfl notYet nofun
      · rename_i disconnected
        unfold failAttempt
        split
        · exact flightsChanged_giveUp found notYet
            (inv.idle (.inl (Bool.eq_false_iff.mpr disconnected)))
        · exact flightsChanged_reachPhase found rfl notYet nofun
  | accept index =>
      obtain ⟨flight, found, _, rfl⟩ := exists_flight_of_atFlight taken
      exact flightsChanged_accept found
  | respond index token =>
      obtain ⟨flight, found, _, rfl⟩ := exists_flight_of_atFlight taken
      exact flightsChanged_respond found
  | describe index =>
      obtain ⟨flight, found, inPhase, rfl⟩ := exists_flight_of_atFlight taken
      have notYet := ne_accepted_of_mem inPhase (by decide)
      unfold describe
      split
      · exact flightsChanged_reachPhase found rfl notYet nofun
      · rename_i disconnected
        exact flightsChanged_giveUp found notYet
          (inv.idle (.inl (Bool.eq_false_iff.mpr disconnected)))
  | described index token =>
      obtain ⟨flight, found, inPhase, rfl⟩ := exists_flight_of_atFlight taken
      exact flightsChanged_reachPhase found rfl (ne_accepted_of_mem inPhase (by decide)) nofun
  | wake index =>
      obtain ⟨flight, found, inPhase, rfl⟩ := exists_flight_of_atFlight taken
      exact flightsChanged_reachPhase found rfl (ne_accepted_of_mem inPhase (by decide)) nofun
  | initializeLogger | log _ | flush | tick | destroy | initializationGoesOn _
  | initializationFails _ | fail _ _ | describeFails _ | finishDestroy _ => exact isFlight.elim

/-- When `destroy` goes on while nothing is under way, everything has been delivered. -/
theorem ShutdownInv.finishDestroy {destruction : Destruction ε} (inv : ShutdownInv logger)
    (found : logger.destructions[index]? = some destruction)
    (idle : undelivered logger.flights = [])
    : ShutdownInv (logger.finishDestroy index destruction) := by
  obtain ⟨isPrefix, isDestroyed⟩ := inv.pending destruction (List.mem_of_getElem? found)
  refine ⟨inv.accounted, inv.queue, inv.timer, ?_, fun _ => idle, ?_, ?_⟩
  · intro notDestroyed
    cases isDestroyed.symm.trans notDestroyed
  · exact fun other member => inv.pending other (List.mem_of_mem_eraseIdx member)
  · intro other member
    rcases List.mem_append.mp member with old | new
    · exact inv.resolved other old
    · obtain rfl := List.mem_singleton.mp new
      have allDelivered : logger.accepted.Perm logger.delivered := by
        simpa [held, idle, inv.queue isDestroyed] using inv.accounted
      exact ⟨List.Subperm.trans isPrefix.sublist.subperm allDelivered.subperm, isDestroyed⟩

-----------------------------------------------------------------------------------------
-- Runs
-----------------------------------------------------------------------------------------

/-- A step that drains in time keeps the invariant, by cases on the action. -/
theorem shutdownInv_step {action : CloudWatchAction ε} (accepts : serviceAccepts action)
    (allowed : drainsInTime isWritable config logger action)
    (taken : cloudWatchStep isWritable config logger action = some next) (inv : ShutdownInv logger)
    : ShutdownInv next := by
  have accounted : next.accepted.Perm next.held := (entriesMoved_of_step taken).perm inv.accounted
  cases action with
  | initializeLogger =>
      obtain rfl := Option.some.inj taken
      exact inv.initializeLogger
  | log entry =>
      obtain rfl := Option.some.inj taken
      unfold log
      split
      · rename_i isInitialized
        have notDestroyed := allowed isInitialized
        exact inv.push notDestroyed (inv.client notDestroyed (.inr (.inl isInitialized)))
      · exact inv.initializeLogger
  | flush =>
      obtain rfl := Option.some.inj taken
      exact inv.flush
  | tick =>
      obtain ⟨_, rfl⟩ := by simpa [cloudWatchStep] using taken
      exact inv.flush
  | destroy =>
      obtain rfl := Option.some.inj taken
      exact inv.destroy allowed.1 allowed.2
  | initializationGoesOn index =>
      rw [cloudWatchStep] at taken
      split at taken
      · rename_i initialization found
        obtain rfl := Option.some.inj taken
        exact inv.continueInitialization found (allowed initialization found)
      · cases taken
  | initializationFails index =>
      rw [cloudWatchStep] at taken
      split at taken
      · split at taken
        · obtain rfl := Option.some.inj taken
          exact inv.dropInitialization
        · cases taken
      · cases taken
  | finishDestroy index =>
      rw [cloudWatchStep] at taken
      split at taken
      · rename_i destruction found
        split at taken
        · obtain rfl := Option.some.inj taken
          exact inv.finishDestroy found allowed
        · cases taken
      · cases taken
  | send _ | accept _ | respond _ _ | describe _ | described _ _ | wake _ =>
      exact inv.of_flightsChanged (inv.flightsChanged accepts taken trivial) accounted
  | fail _ _ | describeFails _ => exact accepts.elim

/-- Shutdown drains and stops in every run in which one flush is enough and nothing begins or ends
after it. Witness: the invariant along the run.
-/
theorem drained_of_stepsSatisfy {actions : List (CloudWatchAction ε)} {final : CloudWatchLogger ε}
    (accepts : ∀ action ∈ actions, serviceAccepts action)
    (allowed
      : stepsSatisfy (cloudWatchStep isWritable config) (drainsInTime isWritable config) .initial
          actions)
    (reached : run (cloudWatchStep isWritable config) .initial actions = some final)
    : Drained final := by
  have acceptsAll
      : stepsSatisfy (cloudWatchStep isWritable config) (fun _ action => serviceAccepts action)
          .initial actions :=
    stepsSatisfy_of_forall_mem _ fun action member _ => accepts action member
  have inv : ShutdownInv final :=
    run_preserves_of_stepsSatisfy
      (fun _ _ _ allowedBoth taken before =>
        shutdownInv_step allowedBoth.1 allowedBoth.2 taken before)
      shutdownInv_initial (stepsSatisfy_and acceptsAll allowed) reached
  exact inv.drained

end

/-- An entry that is delivered while `destroy` waits for it. -/
private def drainsOne : List (CloudWatchAction String) :=
  initializes
  ++ [.log "a", .destroy, .send 0, .accept 0, .respond 0 none, .finishDestroy 0]

/-- With batches of two, the entry waits for `destroy`. -/
theorem drained_of_one_entry
    : ∃ final,
        run (cloudWatchStep (fun _ => true) { batchSize := some (.finite 2) }) .initial drainsOne
          = some final
        ∧ final.delivered = ["a"]
        ∧ final.destroyed.length = 1
        ∧ Drained final :=
  ⟨_, rfl, by decide, by decide,
    @drained_of_stepsSatisfy _ (fun _ => true) { batchSize := some (.finite 2) } drainsOne _
      (by decide) (by decide) rfl⟩

/-- `destroy` is called while an initialisation is in progress. -/
private def destroyedWhileInitializing : List (CloudWatchAction String) :=
  .initializeLogger :: .destroy :: .finishDestroy 0 :: .replicate 5 (.initializationGoesOn 0)

/-- The initialisation goes on and sets a timer after `destroy` has resolved. -/
theorem not_drained_of_initialization
    : ∃ final,
        run (cloudWatchStep (fun _ => true) {}) .initial destroyedWhileInitializing = some final
        ∧ final.destroyed.length = 1
        ∧ final.flushTimer = true
        ∧ ¬Drained final := by
  refine ⟨_, rfl, by decide, rfl, fun drained => ?_⟩
  exact absurd (drained.2 (by decide)).2 (by decide)

end Axionvera.Logging
