import Axionvera.Logging.CloudWatchLogger

/-! Where the entries of a logger are: delivered, in a flush that is under way, or in the queue. No
step loses an entry or makes another one of it.
-/

namespace Axionvera.Logging

open Axionvera.Foundation

namespace CloudWatchLogger

variable {ε : Type}

/-- The entries of flushes whose batch the service has not got. -/
def undelivered (flights : List (Flight ε)) : List ε :=
  (flights.filter fun flight => flight.phase ≠ .accepted).flatMap Flight.batch

/-- The entries in the order in which they are delivered unless flushes overtake each other. -/
def held (logger : CloudWatchLogger ε) : List ε :=
  logger.delivered ++ undelivered logger.flights ++ logger.logQueue

/-- The entries that `log` has accepted are those that are held, each as often as it was accepted.
-/
def Conserved (logger : CloudWatchLogger ε) : Prop :=
  logger.accepted.Perm (logger.logQueue ++ undelivered logger.flights ++ logger.delivered)

-----------------------------------------------------------------------------------------
-- What flushes do to entries
-----------------------------------------------------------------------------------------

@[simp] theorem undelivered_nil : undelivered ([] : List (Flight ε)) = [] := rfl

@[simp] theorem undelivered_append (front back : List (Flight ε))
    : undelivered (front ++ back) = undelivered front ++ undelivered back := by
  simp [undelivered]

/-- A flush counts with its batch, unless the service has got it. -/
theorem undelivered_cons (flight : Flight ε) (rest : List (Flight ε))
    : undelivered (flight :: rest)
      = (if flight.phase = .accepted then [] else flight.batch) ++ undelivered rest := by
  by_cases accepted : flight.phase = .accepted
  · simp [undelivered, accepted]
  · simp [undelivered, accepted]

variable {isWritable : ε → Bool} {config : CloudWatchConfig} {logger next : CloudWatchLogger ε}
  {index : Nat} {flight : Flight ε}

/-- What is possible at a flush in a phase happens to a flush at that place. -/
theorem exists_flight_of_atFlight {phases : List FlightPhase}
    {change : Flight ε → CloudWatchLogger ε}
    (taken : logger.atFlight index phases change = some next)
    : ∃ flight,
        logger.flights[index]? = some flight ∧ flight.phase ∈ phases ∧ next = change flight := by
  unfold atFlight at taken
  split at taken
  · rename_i flight found
    split at taken
    · rename_i inPhase
      exact ⟨flight, found, inPhase, (Option.some.inj taken).symm⟩
    · cases taken
  · cases taken

/-- In most phases the service has not got the batch yet. -/
theorem ne_accepted_of_mem {phase : FlightPhase} {phases : List FlightPhase}
    (inPhase : phase ∈ phases) (others : .accepted ∉ phases)
    : phase ≠ .accepted :=
  fun isAccepted => others (isAccepted ▸ inPhase)

/-- The flushes before and after one of them, also when it changes or ends. -/
theorem exists_flights_split (found : logger.flights[index]? = some flight)
    : ∃ front back,
        front = logger.flights.take index
        ∧ back = logger.flights.drop (index + 1)
        ∧ logger.flights = front ++ flight :: back
        ∧ (∀ changed, logger.flights.set index changed = front ++ changed :: back)
        ∧ logger.flights.eraseIdx index = front ++ back := by
  obtain ⟨inRange, rfl⟩ := List.getElem?_eq_some_iff.mp found
  refine ⟨_, _, rfl, rfl, ?_, fun changed => ?_, List.eraseIdx_eq_take_drop_succ _ _⟩
  · rw [← List.drop_eq_getElem_cons inRange, List.take_append_drop]
  · rw [List.set_eq_take_append_cons_drop, if_pos inRange]

/-- Another phase in which the service has not got the batch is not about entries. -/
theorem undelivered_reachPhase {changed : Flight ε} (found : logger.flights[index]? = some flight)
    (sameBatch : changed.batch = flight.batch) (notYet : flight.phase ≠ .accepted)
    (notThen : changed.phase ≠ .accepted)
    : undelivered (logger.reachPhase index changed).flights = undelivered logger.flights := by
  obtain ⟨front, back, _, _, split, replaced, _⟩ := exists_flights_split found
  rw [reachPhase, replaced, split]
  simp only [undelivered_append, undelivered_cons, if_neg notYet, if_neg notThen, sameBatch]

/-- A flush moves entries from the queue to its batch, or does nothing. -/
theorem held_flush : (logger.flush isWritable config).held = logger.held := by
  unfold flush
  split
  · simp only [held, undelivered_append, undelivered_cons, undelivered_nil, nextBatch,
      List.append_assoc, List.append_nil, reduceCtorEq, if_false, List.take_append_drop]
  · rfl

/-- A flush accepts no entries. -/
theorem accepted_flush : (logger.flush isWritable config).accepted = logger.accepted := by
  unfold flush
  split <;> rfl

/-- A new entry comes last. -/
theorem held_push {entry : ε}
    : (logger.push isWritable config entry).held = logger.held ++ [entry] := by
  unfold push
  split
  · rw [held_flush]
    simp [held, enqueue]
  · simp [held, enqueue]

/-- An entry that is pushed is accepted. -/
theorem accepted_push {entry : ε}
    : (logger.push isWritable config entry).accepted = logger.accepted ++ [entry] := by
  unfold push
  split
  · exact accepted_flush
  · rfl

-----------------------------------------------------------------------------------------
-- Where entries go in a step
-----------------------------------------------------------------------------------------

/-- A batch that is put back, and what later flushes have under way. -/
def putBack (logger : CloudWatchLogger ε) (index : Nat) (flight : Flight ε) : List ε × List ε :=
  (flight.batch, undelivered (logger.flights.drop (index + 1)))

/-- Blocks of entries at a flush, if there is one. -/
def blocksAt (logger : CloudWatchLogger ε) (index : Nat) (blocks : Flight ε → List ε × List ε)
    : List ε × List ε :=
  (logger.flights[index]?.map blocks).getD ([], [])

/-- What changes places in an action: a batch that the service gets overtakes the entries of earlier
flushes, and one that is put back falls behind those of later ones.
-/
def swapped (config : CloudWatchConfig) (logger : CloudWatchLogger ε)
    : CloudWatchAction ε → List ε × List ε
  | .accept index =>
      logger.blocksAt index fun flight => (undelivered (logger.flights.take index), flight.batch)
  | .send index =>
      logger.blocksAt index fun flight =>
        if !logger.client && isLastAttempt config flight then logger.putBack index flight
        else ([], [])
  | .fail index _ =>
      logger.blocksAt index fun flight =>
        if isLastAttempt config flight then logger.putBack index flight else ([], [])
  | .describe index =>
      logger.blocksAt index fun flight =>
        if !logger.client then logger.putBack index flight else ([], [])
  | .describeFails index => logger.blocksAt index fun flight => logger.putBack index flight
  | _ => ([], [])

/-- Two blocks of entries have changed places, and entries that are new come last. -/
def EntriesMoved (logger next : CloudWatchLogger ε) (blocks : List ε × List ε) : Prop :=
  ∃ front back new,
    logger.held = front ++ (blocks.1 ++ blocks.2) ++ back
    ∧ next.held = front ++ (blocks.2 ++ blocks.1) ++ back ++ new
    ∧ next.accepted = logger.accepted ++ new

/-- Entries that stay, or come last. -/
theorem EntriesMoved.of_append {new : List ε} (held : next.held = logger.held ++ new)
    (accepted : next.accepted = logger.accepted ++ new)
    : EntriesMoved logger next ([], []) :=
  ⟨logger.held, [], new, by simp, by simpa using held, accepted⟩

/-- Entries that all stay where they are. -/
theorem EntriesMoved.of_eq (held : next.held = logger.held)
    (accepted : next.accepted = logger.accepted)
    : EntriesMoved logger next ([], []) :=
  ⟨logger.held, [], [], by simp, by simpa using held, by simpa using accepted⟩

/-- A flush that does not get its batch to the service yet leaves all entries where they are. -/
theorem entriesMoved_reachPhase {changed : Flight ε} (found : logger.flights[index]? = some flight)
    (sameBatch : changed.batch = flight.batch) (notYet : flight.phase ≠ .accepted)
    (notThen : changed.phase ≠ .accepted)
    : EntriesMoved logger (logger.reachPhase index changed) ([], []) := by
  refine .of_eq ?_ rfl
  rw [held, undelivered_reachPhase found sameBatch notYet notThen]
  rfl

/-- A batch that is put back falls behind those of later flushes. -/
theorem entriesMoved_giveUp (found : logger.flights[index]? = some flight)
    (notYet : flight.phase ≠ .accepted)
    : EntriesMoved logger (logger.giveUp index flight) (logger.putBack index flight) := by
  obtain ⟨front, back, _, isBack, split, _, removed⟩ := exists_flights_split found
  refine ⟨logger.delivered ++ undelivered front, logger.logQueue, [], ?_, ?_, by simp [giveUp]⟩
  · rw [held, putBack, ← isBack, split]
    simp [undelivered_cons, notYet]
  · rw [held, putBack, ← isBack, giveUp, removed]
    simp

/-- A batch that the service gets overtakes those of earlier flushes. -/
theorem entriesMoved_accept (found : logger.flights[index]? = some flight)
    (notYet : flight.phase ≠ .accepted)
    : EntriesMoved logger (logger.accept index flight)
        (undelivered (logger.flights.take index), flight.batch) := by
  obtain ⟨front, back, isFront, _, split, replaced, _⟩ := exists_flights_split found
  refine ⟨logger.delivered, undelivered back ++ logger.logQueue, [], ?_, ?_,
    by simp [accept, reachPhase]⟩
  · rw [held, ← isFront, split]
    simp [undelivered_cons, notYet]
  · rw [held, ← isFront, accept, reachPhase, replaced]
    simp [undelivered_cons]

/-- The answer to a request is not about entries. -/
theorem entriesMoved_respond {token : Option String}
    (found : logger.flights[index]? = some flight) (isAccepted : flight.phase = .accepted)
    : EntriesMoved logger (logger.respond index token) ([], []) := by
  obtain ⟨front, back, _, _, split, _, removed⟩ := exists_flights_split found
  refine .of_eq ?_ rfl
  rw [held, held, respond, removed, split]
  simp [undelivered_cons, isAccepted]

/-- A failure puts the batch back if it was the last attempt. -/
theorem entriesMoved_failAttempt {invalidToken : Bool}
    (found : logger.flights[index]? = some flight) (notYet : flight.phase ≠ .accepted)
    : EntriesMoved logger (logger.failAttempt config index flight invalidToken)
        (if isLastAttempt config flight then logger.putBack index flight else ([], [])) := by
  unfold failAttempt
  split
  · exact entriesMoved_giveUp found notYet
  · exact entriesMoved_reachPhase found rfl notYet (by split <;> simp)

/-- An initialisation is not about entries, except for the one that is logged after it. -/
theorem entriesMoved_continueInitialization {initialization : Initialization ε}
    : EntriesMoved logger
        (logger.continueInitialization isWritable config index initialization) ([], []) := by
  unfold continueInitialization
  split
  · exact .of_eq rfl rfl
  · unfold requestStage
    split <;> exact .of_eq rfl rfl
  · exact .of_eq rfl rfl
  · unfold requestStage
    split <;> exact .of_eq rfl rfl
  · exact .of_eq rfl rfl
  · split
    · exact .of_eq rfl rfl
    · exact .of_append held_push accepted_push

/-- Every step moves entries in the way that is known from its action, by cases on it. -/
theorem entriesMoved_of_step {action : CloudWatchAction ε}
    (taken : cloudWatchStep isWritable config logger action = some next)
    : EntriesMoved logger next (logger.swapped config action) := by
  cases action with
  | initializeLogger =>
      obtain rfl := Option.some.inj taken
      exact .of_eq rfl rfl
  | log entry =>
      obtain rfl := Option.some.inj taken
      unfold log
      split
      · exact .of_append held_push accepted_push
      · exact .of_eq rfl rfl
  | flush =>
      obtain rfl := Option.some.inj taken
      exact .of_eq held_flush accepted_flush
  | tick =>
      obtain ⟨_, rfl⟩ := by simpa [cloudWatchStep] using taken
      exact .of_eq held_flush accepted_flush
  | destroy =>
      obtain rfl := Option.some.inj taken
      exact .of_eq
        ((held_flush : (flush isWritable config
          { logger with isDestroyed := true, flushTimer := false }).held = _))
        accepted_flush
  | initializationGoesOn stage =>
      rw [cloudWatchStep] at taken
      split at taken
      · exact Option.some.inj taken ▸ entriesMoved_continueInitialization
      · cases taken
  | initializationFails stage =>
      rw [cloudWatchStep] at taken
      split at taken
      · split at taken
        · exact Option.some.inj taken ▸ .of_eq rfl rfl
        · cases taken
      · cases taken
  | send index =>
      obtain ⟨flight, found, inPhase, rfl⟩ := exists_flight_of_atFlight taken
      have notYet : flight.phase ≠ .accepted := ne_accepted_of_mem inPhase (by decide)
      cases connected : logger.client with
      | true =>
          rw [send, if_pos connected]
          simp only [swapped, blocksAt, found, connected, Option.map_some, Option.getD_some,
            Bool.not_true, Bool.false_and, Bool.false_eq_true, if_false]
          exact entriesMoved_reachPhase found rfl notYet nofun
      | false =>
          rw [send, if_neg (by simp [connected])]
          simp only [swapped, blocksAt, found, connected, Option.map_some, Option.getD_some,
            Bool.not_false, Bool.true_and]
          exact entriesMoved_failAttempt found notYet
  | accept index =>
      obtain ⟨flight, found, inPhase, rfl⟩ := exists_flight_of_atFlight taken
      simp only [swapped, blocksAt, found, Option.map_some, Option.getD_some]
      exact entriesMoved_accept found (ne_accepted_of_mem inPhase (by decide))
  | respond index token =>
      obtain ⟨flight, found, inPhase, rfl⟩ := exists_flight_of_atFlight taken
      exact entriesMoved_respond found (by simpa using inPhase)
  | fail index invalidToken =>
      obtain ⟨flight, found, inPhase, rfl⟩ := exists_flight_of_atFlight taken
      have notYet : flight.phase ≠ .accepted := ne_accepted_of_mem inPhase (by decide)
      simp only [swapped, blocksAt, found, Option.map_some, Option.getD_some]
      exact entriesMoved_failAttempt found notYet
  | describe index =>
      obtain ⟨flight, found, inPhase, rfl⟩ := exists_flight_of_atFlight taken
      have notYet : flight.phase ≠ .accepted := ne_accepted_of_mem inPhase (by decide)
      cases connected : logger.client with
      | true =>
          rw [describe, if_pos connected]
          simp only [swapped, blocksAt, found, connected, Option.map_some, Option.getD_some,
            Bool.not_true, Bool.false_eq_true, if_false]
          exact entriesMoved_reachPhase found rfl notYet nofun
      | false =>
          rw [describe, if_neg (by simp [connected])]
          simp only [swapped, blocksAt, found, connected, Option.map_some, Option.getD_some,
            Bool.not_false, if_true]
          exact entriesMoved_giveUp found notYet
  | described index token =>
      obtain ⟨flight, found, inPhase, rfl⟩ := exists_flight_of_atFlight taken
      have notYet : flight.phase ≠ .accepted := ne_accepted_of_mem inPhase (by decide)
      exact entriesMoved_reachPhase found rfl notYet nofun
  | describeFails index =>
      obtain ⟨flight, found, inPhase, rfl⟩ := exists_flight_of_atFlight taken
      have notYet : flight.phase ≠ .accepted := ne_accepted_of_mem inPhase (by decide)
      simp only [swapped, blocksAt, found, Option.map_some, Option.getD_some]
      exact entriesMoved_giveUp found notYet
  | wake index =>
      obtain ⟨flight, found, inPhase, rfl⟩ := exists_flight_of_atFlight taken
      have notYet : flight.phase ≠ .accepted := ne_accepted_of_mem inPhase (by decide)
      exact entriesMoved_reachPhase found rfl notYet nofun
  | finishDestroy destruction =>
      rw [cloudWatchStep] at taken
      split at taken
      · split at taken
        · exact Option.some.inj taken ▸ .of_eq rfl rfl
        · cases taken
      · cases taken

-----------------------------------------------------------------------------------------
-- Conservation
-----------------------------------------------------------------------------------------

/-- Entries that have changed places are still all there. -/
theorem EntriesMoved.perm {blocks : List ε × List ε} (moved : EntriesMoved logger next blocks)
    (accounted : logger.accepted.Perm logger.held)
    : next.accepted.Perm next.held := by
  obtain ⟨front, back, new, before, after, accepted⟩ := moved
  rw [accepted, after]
  refine List.Perm.append_right new (accounted.trans ?_)
  rw [before]
  exact (List.perm_append_comm.append_left front).append_right back

/-- The queue, the flushes under way and what has been delivered are what is held. -/
theorem conserved_iff : Conserved logger ↔ logger.accepted.Perm logger.held := by
  have order
      : logger.held.Perm (logger.logQueue ++ undelivered logger.flights ++ logger.delivered) := by
    rw [held]
    exact List.perm_append_comm.trans
      ((List.perm_append_comm.append_left _).trans (.of_eq (List.append_assoc ..).symm))
  exact ⟨fun conserved => conserved.trans order.symm, fun accounted => accounted.trans order⟩

end CloudWatchLogger

open CloudWatchLogger

/-- No entry is lost or delivered twice, whatever is called and whatever fails. Witness: every step
only moves entries, along the run.
-/
theorem conserved_of_run {ε : Type} {isWritable : ε → Bool} {config : CloudWatchConfig}
    {actions : List (CloudWatchAction ε)} {final : CloudWatchLogger ε}
    (reached : run (cloudWatchStep isWritable config) .initial actions = some final)
    : Conserved final := by
  have accounted : final.accepted.Perm final.held :=
    run_preserves (fun _ _ _ taken before => (entriesMoved_of_step taken).perm before)
      (List.Perm.refl []) reached
  exact conserved_iff.mpr accounted

/-- Batches of one entry, and one attempt for each. -/
def oneByOne : CloudWatchConfig :=
  { batchSize := some (.finite 1), maxRetries := some (.finite 1) }

/-- An initialisation that succeeds. -/
def initializes {ε : Type} : List (CloudWatchAction ε) :=
  .initializeLogger :: .replicate 6 (.initializationGoesOn 0)

/-- A flush that fails, while a second entry is logged. -/
private def failsOnceThenDelivers : List (CloudWatchAction String) :=
  initializes
  ++ [.log "a", .send 0, .fail 0 false, .log "b", .send 0, .accept 0, .respond 0 none]

/-- The entry whose flush fails is delivered later, once. -/
theorem conserved_of_failure
    : ∃ final,
        run (cloudWatchStep (fun _ => true) oneByOne) .initial failsOnceThenDelivers = some final
        ∧ final.delivered = ["a"]
        ∧ final.logQueue = ["b"]
        ∧ Conserved final :=
  ⟨_, rfl, by decide, by decide,
    @conserved_of_run _ (fun _ => true) oneByOne failsOnceThenDelivers _ rfl⟩

end Axionvera.Logging
