import Axionvera.Client.TrackingSteps

/-! The registry of pending transactions and the polling loops match in every run: what a call,
an import, an answer, a timer or a cancellation does to either, it does to both.
-/

namespace Axionvera.Client.Tracking

open Axionvera.Errors
open Axionvera.Foundation
open Axionvera.Client.Hydration

/-- The loop polls for the given entry. -/
def PollingLoop.pollsFor (loop : PollingLoop) (tracked : TrackedTransaction) : Prop :=
  loop.hash = tracked.hash
  ∧ loop.submittedAt = tracked.submittedAt
  ∧ loop.deadline = tracked.deadline

/-- The registry matches the loops: every entry names a running loop that polls for it, every
running loop has its entry, and a loop runs from the time its number is given out until its
promise is settled.
-/
structure RegistryMatchesLoops (state : TrackingState) : Prop where
  loopOfEntry
    : ∀ hash tracked,
        state.pendingTransactions.get hash = some tracked
        → tracked.hash = hash
          ∧ ∃ loop, state.loops.get tracked.loop = some loop ∧ loop.pollsFor tracked
  entryOfLoop
    : ∀ id loop,
        state.loops.get id = some loop
        → ∃ tracked, state.pendingTransactions.get loop.hash = some tracked ∧ tracked.loop = id
  runsUntilSettled
    : ∀ id,
        (∃ loop, state.loops.get id = some loop)
        ↔ id < state.nextLoop ∧ state.settled.get id = none
  settledStarted : ∀ id outcome, state.settled.get id = some outcome → id < state.nextLoop

/-- A loop that has not been numbered does not run. -/
theorem RegistryMatchesLoops.nextLoop_free {state : TrackingState}
    (matching : RegistryMatchesLoops state)
    : state.loops.get state.nextLoop = none := by
  cases found : state.loops.get state.nextLoop with
  | none => rfl
  | some loop =>
      have numbered := ((matching.runsUntilSettled state.nextLoop).mp ⟨loop, found⟩).1
      exact absurd numbered (Nat.lt_irrefl _)

/-- A loop that has not been numbered is not settled. -/
theorem RegistryMatchesLoops.nextLoop_unsettled {state : TrackingState}
    (matching : RegistryMatchesLoops state)
    : state.settled.get state.nextLoop = none := by
  cases found : state.settled.get state.nextLoop with
  | none => rfl
  | some outcome => exact absurd (matching.settledStarted _ outcome found) (Nat.lt_irrefl _)

/-- Two running loops poll for different hashes: the entry of a hash names one loop. -/
theorem RegistryMatchesLoops.loop_unique {state : TrackingState}
    (matching : RegistryMatchesLoops state) {first second : Nat} {loop other : PollingLoop}
    (runs : state.loops.get first = some loop) (otherRuns : state.loops.get second = some other)
    (same : loop.hash = other.hash)
    : first = second := by
  obtain ⟨tracked, found, rfl⟩ := matching.entryOfLoop first loop runs
  obtain ⟨again, foundAgain, rfl⟩ := matching.entryOfLoop second other otherRuns
  rw [same, foundAgain] at found
  rw [Option.some.inj found]

/-- A new client has neither entries nor loops. -/
theorem registryMatchesLoops_initial (now : Instant)
    : RegistryMatchesLoops (.initial now) where
  loopOfEntry := fun _ _ found => nomatch found
  entryOfLoop := fun _ _ found => nomatch found
  runsUntilSettled id := by simp [TrackingState.initial]
  settledStarted := fun _ _ found => nomatch found

/-- A changed loop still polls for the entry of its hash. -/
theorem RegistryMatchesLoops.changeLoop {state : TrackingState}
    (matching : RegistryMatchesLoops state) {id : Nat} {loop changed : PollingLoop}
    (runs : state.loops.get id = some loop) (sameHash : changed.hash = loop.hash)
    (sameStart : changed.submittedAt = loop.submittedAt)
    (sameDeadline : changed.deadline = loop.deadline)
    : RegistryMatchesLoops { state with loops := state.loops.set id changed } where
  loopOfEntry hash tracked found := by
    obtain ⟨isHash, polling, pollingRuns, polls⟩ := matching.loopOfEntry hash tracked found
    refine ⟨isHash, ?_⟩
    by_cases own : tracked.loop = id
    · obtain rfl : polling = loop := by
        rw [own, runs] at pollingRuns
        exact (Option.some.inj pollingRuns).symm
      refine ⟨changed, by simp [own], ?_⟩
      exact ⟨sameHash.trans polls.1, sameStart.trans polls.2.1, sameDeadline.trans polls.2.2⟩
    · exact ⟨polling, by simpa [own] using pollingRuns, polls⟩
  entryOfLoop other polling pollingRuns := by
    by_cases own : other = id
    · subst own
      obtain rfl : changed = polling := by simpa using pollingRuns
      rw [sameHash]
      exact matching.entryOfLoop other loop runs
    · exact matching.entryOfLoop other polling (by simpa [own] using pollingRuns)
  runsUntilSettled other := by
    rw [← matching.runsUntilSettled other]
    by_cases own : other = id
    · subst own
      simp [runs]
    · simp [own]
  settledStarted := matching.settledStarted

/-- A loop that ends takes its own entry along, and no other entry has its hash. -/
theorem RegistryMatchesLoops.endLoop {state : TrackingState}
    (matching : RegistryMatchesLoops state) {id : Nat} {loop : PollingLoop}
    (runs : state.loops.get id = some loop) (outcome : PollOutcome)
    : RegistryMatchesLoops (state.endLoop id loop.hash outcome) where
  loopOfEntry hash tracked found := by
    have other : hash ≠ loop.hash := by
      rintro rfl
      simp [TrackingState.endLoop] at found
    have stays : state.pendingTransactions.get hash = some tracked := by
      simpa [TrackingState.endLoop, other] using found
    obtain ⟨isHash, polling, pollingRuns, polls⟩ := matching.loopOfEntry hash tracked stays
    have notEnded : tracked.loop ≠ id := by
      intro own
      rw [own, runs] at pollingRuns
      apply other
      rw [← isHash, ← polls.1, Option.some.inj pollingRuns]
    exact ⟨isHash, polling, by simpa [TrackingState.endLoop, notEnded] using pollingRuns, polls⟩
  entryOfLoop other polling pollingRuns := by
    have notEnded : other ≠ id := by
      rintro rfl
      simp [TrackingState.endLoop] at pollingRuns
    have stays : state.loops.get other = some polling := by
      simpa [TrackingState.endLoop, notEnded] using pollingRuns
    obtain ⟨tracked, found, own⟩ := matching.entryOfLoop other polling stays
    have different : polling.hash ≠ loop.hash :=
      fun same => notEnded (matching.loop_unique stays runs same)
    exact ⟨tracked, by simpa [TrackingState.endLoop, different] using found, own⟩
  runsUntilSettled other := by
    have before := matching.runsUntilSettled other
    by_cases own : other = id
    · simp [TrackingState.endLoop, own]
    · simpa [TrackingState.endLoop, own] using before
  settledStarted other settled found := by
    by_cases own : other = id
    · exact own ▸ ((matching.runsUntilSettled id).mp ⟨loop, runs⟩).1
    · apply matching.settledStarted other settled
      simpa [TrackingState.endLoop, own] using found

/-- A started loop polls for its new entry. -/
theorem RegistryMatchesLoops.started {state : TrackingState}
    (matching : RegistryMatchesLoops state) {tracked : TrackedTransaction}
    (absent : state.pendingTransactions.get tracked.hash = none)
    (numbered : tracked.loop = state.nextLoop)
    : RegistryMatchesLoops (state.started tracked) where
  loopOfEntry hash found isFound := by
    by_cases own : hash = tracked.hash
    · obtain rfl : tracked = found := by simpa [TrackingState.started, own] using isFound
      refine ⟨own.symm,
        ⟨tracked.hash, tracked.submittedAt, tracked.deadline, false, .asking, state.now⟩, ?_⟩
      exact ⟨by simp [TrackingState.started, numbered], rfl, rfl, rfl⟩
    · have stays : state.pendingTransactions.get hash = some found := by
        simpa [TrackingState.started, own] using isFound
      obtain ⟨isHash, loop, runs, polls⟩ := matching.loopOfEntry hash found stays
      have older : found.loop ≠ state.nextLoop := by
        intro next
        rw [next, matching.nextLoop_free] at runs
        cases runs
      exact ⟨isHash, loop, by simpa [TrackingState.started, older] using runs, polls⟩
  entryOfLoop id loop runs := by
    by_cases isNew : id = state.nextLoop
    · obtain rfl := (by simpa [TrackingState.started, isNew] using runs : _ = loop)
      exact ⟨tracked, by simp [TrackingState.started], numbered.trans isNew.symm⟩
    · have ran : state.loops.get id = some loop := by
        simpa [TrackingState.started, isNew] using runs
      obtain ⟨other, found, own⟩ := matching.entryOfLoop id loop ran
      have different : loop.hash ≠ tracked.hash := by
        intro same
        rw [same, absent] at found
        cases found
      exact ⟨other, by simpa [TrackingState.started, different] using found, own⟩
  runsUntilSettled id := by
    have before := matching.runsUntilSettled id
    by_cases isNew : id = state.nextLoop
    · subst isNew
      simp [TrackingState.started, matching.nextLoop_unsettled]
    · have numberedEither : id < state.nextLoop + 1 ↔ id < state.nextLoop := by omega
      simpa [TrackingState.started, isNew, numberedEither] using before
  settledStarted id outcome found :=
    Nat.lt_succ_of_lt (matching.settledStarted id outcome found)

/-- A loop that ends within its call leaves the other entries and loops as they were. -/
theorem RegistryMatchesLoops.startedLate {state : TrackingState}
    (matching : RegistryMatchesLoops state) {tracked : TrackedTransaction}
    (absent : state.pendingTransactions.get tracked.hash = none)
    : RegistryMatchesLoops (state.startedLate tracked) where
  loopOfEntry hash found isFound := by
    rw [startedLate_pendingTransactions absent] at isFound
    simpa only [startedLate_loops matching.nextLoop_free] using
      matching.loopOfEntry hash found isFound
  entryOfLoop id loop runs := by
    rw [startedLate_loops matching.nextLoop_free] at runs
    simpa only [startedLate_pendingTransactions absent] using matching.entryOfLoop id loop runs
  runsUntilSettled id := by
    have before := matching.runsUntilSettled id
    simp only [startedLate_loops matching.nextLoop_free]
    by_cases isNew : id = state.nextLoop
    · subst isNew
      simp [TrackingState.startedLate, matching.nextLoop_free]
    · have numberedEither : id < state.nextLoop + 1 ↔ id < state.nextLoop := by omega
      simpa [TrackingState.startedLate, isNew, numberedEither] using before
  settledStarted id outcome found := by
    by_cases isNew : id = state.nextLoop
    · exact isNew ▸ Nat.lt_succ_self state.nextLoop
    · apply Nat.lt_succ_of_lt
      apply matching.settledStarted id outcome
      simpa [TrackingState.startedLate, isNew] using found

/-- Tracking a transaction keeps the registry and the loops matched. -/
theorem RegistryMatchesLoops.trackTransaction {state : TrackingState}
    (options : TrackTransactionOptions) (matching : RegistryMatchesLoops state)
    : RegistryMatchesLoops (trackTransaction state options).2 := by
  cases found : state.pendingTransactions.get options.hash with
  | some existing =>
      rw [trackTransaction_registered found]
      exact matching
  | none =>
      rw [trackTransaction_new found]
      dsimp only
      split
      · exact matching.started found rfl
      · exact matching.startedLate found

/-- Every step keeps the registry and the loops matched, by cases on what it does. -/
theorem RegistryMatchesLoops.step {dates : DateFormat} {state next : TrackingState}
    {action : TrackingAction} (matching : RegistryMatchesLoops state)
    (taken : trackingStep dates state action = some next)
    : RegistryMatchesLoops next := by
  cases trackingStep_effect taken with
  | elapsed later forward =>
      exact ⟨matching.loopOfEntry, matching.entryOfLoop, matching.runsUntilSettled,
        matching.settledStarted⟩
  | tracked options => exact matching.trackTransaction options
  | polled hash timeoutMs intervalMs =>
      have tracked :=
        matching.trackTransaction
          { hash := hash, intervalMs := intervalMs, timeoutMs := timeoutMs }
      exact ⟨tracked.loopOfEntry, tracked.entryOfLoop, tracked.runsUntilSettled,
        tracked.settledStarted⟩
  | imported exported restored _ ok =>
      exact importState_preserves (fun _ options matching => matching.trackTransaction options)
        exported matching restored next ok
  | notImported exported => exact matching
  | cancelled id loop runs => exact matching.changeLoop runs rfl rfl rfl
  | nothingToCancel id => exact matching
  | notFound id loop response runs => exact matching.changeLoop runs rfl rfl rfl
  | woken id loop runs => exact matching.changeLoop runs rfl rfl rfl
  | ended _ id loop outcome reports runs =>
      have ended := matching.endLoop runs outcome
      exact ⟨ended.loopOfEntry, ended.entryOfLoop, ended.runsUntilSettled, ended.settledStarted⟩

/-- The registry and the loops match in every run, by induction on it. -/
theorem RegistryMatchesLoops.reached {dates : DateFormat} {now : Instant}
    {actions : List TrackingAction} {state : TrackingState}
    (reached : run (trackingStep dates) (.initial now) actions = some state)
    : RegistryMatchesLoops state :=
  run_preserves (fun _ _ _ taken matching => RegistryMatchesLoops.step matching taken)
    (registryMatchesLoops_initial now) reached

/-- Of the entries there are before a loop ends, exactly its own is gone afterwards. -/
theorem RegistryMatchesLoops.entry_endLoop {state : TrackingState}
    (matching : RegistryMatchesLoops state) {id : Nat} {loop : PollingLoop}
    (runs : state.loops.get id = some loop) (outcome : PollOutcome) {hash : String}
    {tracked : TrackedTransaction}
    (found : state.pendingTransactions.get hash = some tracked)
    : (state.endLoop id loop.hash outcome).pendingTransactions.get hash
      = if tracked.loop = id then none else some tracked := by
  obtain ⟨isHash, polling, pollingRuns, polls⟩ := matching.loopOfEntry hash tracked found
  have sameLoop : hash = loop.hash ↔ tracked.loop = id := by
    rw [← isHash, ← polls.1]
    constructor
    · exact matching.loop_unique pollingRuns runs
    · intro own
      rw [own, runs] at pollingRuns
      rw [Option.some.inj pollingRuns]
  simp [TrackingState.endLoop, sameLoop, found]

/-- After a step, an entry is kept if its loop still runs, and is gone otherwise. -/
theorem RegistryMatchesLoops.entry_step {dates : DateFormat} {state next : TrackingState}
    {action : TrackingAction} (matching : RegistryMatchesLoops state)
    (taken : trackingStep dates state action = some next) {hash : String}
    {tracked : TrackedTransaction}
    (found : state.pendingTransactions.get hash = some tracked)
    : next.pendingTransactions.get hash
      = if (next.loops.get tracked.loop).isSome then some tracked else none := by
  have matchingNext := matching.step taken
  -- An entry that stays has its loop running afterwards.
  have stays (kept : next.pendingTransactions.get hash = some tracked)
      : next.pendingTransactions.get hash
        = if (next.loops.get tracked.loop).isSome then some tracked else none := by
    obtain ⟨_, loop, runs, _⟩ := matchingNext.loopOfEntry hash tracked kept
    simp [runs, kept]
  cases trackingStep_effect taken with
  | elapsed later forward => exact stays found
  | tracked options => exact stays ((keeps_trackTransaction state options).entries _ _ found)
  | polled => exact stays ((keeps_trackTransaction state _).entries _ _ found)
  | imported exported restored _ ok => exact stays ((keeps_importState ok).entries _ _ found)
  | notImported exported => exact stays found
  | cancelled id loop runs => exact stays found
  | nothingToCancel id => exact stays found
  | notFound id loop response runs => exact stays found
  | woken id loop runs => exact stays found
  | ended _ id loop outcome reports runs =>
      by_cases own : tracked.loop = id
      · rw [matching.entry_endLoop runs outcome found]
        simp [own, TrackingState.endLoop]
      · apply stays
        rw [matching.entry_endLoop runs outcome found, if_neg own]

/-- In every reachable state there is an entry for a hash exactly when a loop that polls for it
has started and not finished; no two such loops poll for one hash; and when a step ends
loops, it removes their own entries and no others.
-/
theorem registry_matches_running_loops (dates : DateFormat) (now : Instant)
    (actions : List TrackingAction) (state : TrackingState)
    (reached : run (trackingStep dates) (.initial now) actions = some state)
    : (∀ hash,
          state.pendingTransactions.has hash = true
          ↔ ∃ id loop, state.loops.get id = some loop ∧ loop.hash = hash)
      ∧ (∀ id,
          (∃ loop, state.loops.get id = some loop)
          ↔ id < state.nextLoop ∧ state.settled.get id = none)
      ∧ (∀ first second loop other,
          state.loops.get first = some loop
          → state.loops.get second = some other
          → loop.hash = other.hash
          → first = second)
      ∧ ∀ action next,
          trackingStep dates state action = some next
          → ∀ hash tracked,
              state.pendingTransactions.get hash = some tracked
              → next.pendingTransactions.get hash
                = if (next.loops.get tracked.loop).isSome then some tracked else none := by
  have matching := RegistryMatchesLoops.reached reached
  refine ⟨fun hash => ?_, matching.runsUntilSettled, ?_, ?_⟩
  · rw [InsertionMap.has_iff]
    constructor
    · intro given
      obtain ⟨tracked, found⟩ := given
      obtain ⟨isHash, loop, runs, polls⟩ := matching.loopOfEntry hash tracked found
      exact ⟨tracked.loop, loop, runs, polls.1.trans isHash⟩
    · intro given
      obtain ⟨id, loop, runs, rfl⟩ := given
      obtain ⟨tracked, found, _⟩ := matching.entryOfLoop id loop runs
      exact ⟨tracked, found⟩
  · exact fun first second loop other => matching.loop_unique
  · exact fun action next taken hash tracked => matching.entry_step taken

/-- A loop is cancelled while its first answer is on the way; a call for its hash joins it before
it wakes and ends, and a later one starts a new loop.
-/
def cancelledAndTrackedAgain : List TrackingAction :=
  [
    .trackTransaction { hash := "a" },
    .cancel 0,
    .answer 0 (.ok ⟨.notFound, 1⟩),
    .pollTransaction "a" none none,
    .timer 0,
    .trackTransaction { hash := "a", timeoutMs := some (.finite 60000) }
  ]

/-- The registry matches the loops after a loop was cancelled and its hash tracked again. -/
theorem registry_matches_running_loops_again
    : ∃ state,
        run (trackingStep sampleFormat) (.initial epoch) cancelledAndTrackedAgain = some state
        ∧ (state.loops.get 1).map PollingLoop.hash = some "a"
        ∧ ∀ hash,
            state.pendingTransactions.has hash = true
            ↔ ∃ id loop, state.loops.get id = some loop ∧ loop.hash = hash := by
  refine ⟨_, rfl, rfl, ?_⟩
  exact (registry_matches_running_loops sampleFormat epoch cancelledAndTrackedAgain _ rfl).1

end Axionvera.Client.Tracking
