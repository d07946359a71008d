import Axionvera.Client.Tracking
import Axionvera.Foundation.TransitionSystem

/-! What the steps of a tracking client do: calls and imports keep what there is, and a loop that
is answered or woken either goes on or ends.
-/

namespace Axionvera.Client.Tracking

open Axionvera.Errors
open Axionvera.Foundation
open Axionvera.Client.Hydration

/-- A deadline that has passed stays passed. -/
theorem isBefore_later {now later : Instant} {deadline : JsDate} (forward : now.ms ≤ later.ms)
    (late : isBefore now deadline = false)
    : isBefore later deadline = false := by
  cases deadline with
  | none => rfl
  | some deadline =>
      simp only [isBefore, decide_eq_false_iff_not] at *
      omega

/-- The state after a call has registered an entry and its loop has asked for the first time. -/
def TrackingState.started (state : TrackingState) (tracked : TrackedTransaction)
    : TrackingState :=
  { state with
    pendingTransactions := state.pendingTransactions.set tracked.hash tracked
    loops :=
      state.loops.set state.nextLoop
        ⟨tracked.hash, tracked.submittedAt, tracked.deadline, false, .asking, state.now⟩
    nextLoop := state.nextLoop + 1 }

/-- The state after a call has registered an entry whose loop found its deadline passed and ended
within the call.
-/
def TrackingState.startedLate (state : TrackingState) (tracked : TrackedTransaction)
    : TrackingState :=
  { state with
    pendingTransactions :=
      (state.pendingTransactions.set tracked.hash tracked).delete tracked.hash
    loops := state.loops.delete state.nextLoop
    nextLoop := state.nextLoop + 1
    settled := state.settled.set state.nextLoop (.timedOut state.now) }

/-- A late start leaves every entry as it was, provided its hash had none. -/
theorem startedLate_pendingTransactions {state : TrackingState} {tracked : TrackedTransaction}
    (absent : state.pendingTransactions.get tracked.hash = none) (hash : String)
    : (state.startedLate tracked).pendingTransactions.get hash
      = state.pendingTransactions.get hash := by
  by_cases own : hash = tracked.hash
  · simp [TrackingState.startedLate, own, absent]
  · simp [TrackingState.startedLate, own]

/-- A late start leaves every loop as it was, provided its number was free. -/
theorem startedLate_loops {state : TrackingState} {tracked : TrackedTransaction}
    (isFree : state.loops.get state.nextLoop = none) (id : Nat)
    : (state.startedLate tracked).loops.get id = state.loops.get id := by
  by_cases own : id = state.nextLoop
  · simp [TrackingState.startedLate, own, isFree]
  · simp [TrackingState.startedLate, own]

/-- A call for a registered hash returns the entry and changes nothing. -/
theorem trackTransaction_registered {state : TrackingState} {options : TrackTransactionOptions}
    {existing : TrackedTransaction}
    (found : state.pendingTransactions.get options.hash = some existing)
    : trackTransaction state options = (existing, state) := by
  unfold trackTransaction
  rw [found]

/-- A call for another hash registers an entry and starts its loop, which either asks or ends at
once.
-/
theorem trackTransaction_new {state : TrackingState} {options : TrackTransactionOptions}
    (absent : state.pendingTransactions.get options.hash = none)
    : trackTransaction state options
      = (newTracked options state.now state.nextLoop,
          if isBefore state.now (newTracked options state.now state.nextLoop).deadline then
            state.started (newTracked options state.now state.nextLoop)
          else state.startedLate (newTracked options state.now state.nextLoop)) := by
  unfold trackTransaction
  rw [absent]
  cases before : isBefore state.now (newTracked options state.now state.nextLoop).deadline with
  | true =>
      simp only [TrackingState.continueLoop, before, Bool.not_false, Bool.and_self, if_true]
      rfl
  | false =>
      simp only [TrackingState.continueLoop, before, Bool.and_false, Bool.false_eq_true, if_false]
      rfl

/-- What every call of `trackTransaction` keeps, a turn of the import loop keeps: it makes at most
one such call.
-/
theorem importEntry_preserves {dates : DateFormat} {Inv : TrackingState → Prop}
    (preserved : ∀ state options, Inv state → Inv (trackTransaction state options).2)
    {state : TrackingState} (candidate : SerializableValue) (holds : Inv state)
    : Inv (importEntry dates state candidate).2 := by
  unfold importEntry
  split
  · split
    · split
      · exact holds
      · split
        · exact holds
        · split
          · exact preserved state _ holds
          · exact holds
    · exact holds
  · exact holds

/-- What every call of `trackTransaction` keeps, the import loop keeps, by induction on the
entries.
-/
theorem importEntries_preserves {dates : DateFormat} {Inv : TrackingState → Prop}
    (preserved : ∀ state options, Inv state → Inv (trackTransaction state options).2)
    {state : TrackingState} (entries : List SerializableValue) (holds : Inv state)
    : Inv (importEntries dates state entries).2 := by
  induction entries generalizing state with
  | nil => exact holds
  | cons candidate rest ih =>
      exact ih (importEntry_preserves preserved candidate holds)

/-- What every call of `trackTransaction` keeps, an import keeps, since it either runs its loop or
throws before it.
-/
theorem importState_preserves {dates : DateFormat} {Inv : TrackingState → Prop}
    (preserved : ∀ state options, Inv state → Inv (trackTransaction state options).2)
    {state : TrackingState} (exported : SerializableValue) (holds : Inv state)
    : ∀ restored next, importState dates state exported = .ok (restored, next) → Inv next := by
  intro restored next imported
  unfold importState at imported
  dsimp only at imported
  split at imported
  · cases imported
  · split at imported
    · split at imported
      · rename_i pending _
        have kept : Inv (importEntries dates state pending).2 :=
          importEntries_preserves preserved pending holds
        rw [Except.ok.inj imported] at kept
        exact kept
      · cases imported
    · cases imported

/-- (Keeps state next) requires every entry, every loop and every settled promise to stay as it is
while time stands still.
-/
structure Keeps (state next : TrackingState) : Prop where
  now : next.now = state.now
  entries
    : ∀ hash tracked,
        state.pendingTransactions.get hash = some tracked
        → next.pendingTransactions.get hash = some tracked
  loops : ∀ id, id < state.nextLoop → next.loops.get id = state.loops.get id
  settled : ∀ id, id < state.nextLoop → next.settled.get id = state.settled.get id
  nextLoop : state.nextLoop ≤ next.nextLoop
  newLoops
    : ∀ id loop,
        next.loops.get id = some loop
        → state.loops.get id = some loop ∨ loop.polledAt = state.now
  waiters : next.waiters = state.waiters
  reports : next.reports = state.reports

/-- A state keeps itself. -/
theorem Keeps.refl (state : TrackingState) : Keeps state state :=
  ⟨rfl, fun _ _ => id, fun _ _ => rfl, fun _ _ => rfl, Nat.le_refl _, fun _ _ => .inl, rfl, rfl⟩

/-- What is kept twice is kept. -/
theorem Keeps.trans {first second third : TrackingState} (front : Keeps first second)
    (back : Keeps second third)
    : Keeps first third where
  now := back.now.trans front.now
  entries hash tracked found := back.entries hash tracked (front.entries hash tracked found)
  loops id older :=
    (back.loops id (Nat.lt_of_lt_of_le older front.nextLoop)).trans (front.loops id older)
  settled id older :=
    (back.settled id (Nat.lt_of_lt_of_le older front.nextLoop)).trans (front.settled id older)
  nextLoop := Nat.le_trans front.nextLoop back.nextLoop
  newLoops id loop runs := by
    rcases back.newLoops id loop runs with older | new
    · exact front.newLoops id loop older
    · exact .inr (new.trans front.now)
  waiters := back.waiters.trans front.waiters
  reports := back.reports.trans front.reports

/-- Tracking a transaction keeps what there is: a new entry has a new hash, and a new loop a new
number.
-/
theorem keeps_trackTransaction (state : TrackingState) (options : TrackTransactionOptions)
    : Keeps state (trackTransaction state options).2 := by
  cases found : state.pendingTransactions.get options.hash with
  | some existing =>
      rw [trackTransaction_registered found]
      exact .refl state
  | none =>
      have otherHash {hash : String} {tracked : TrackedTransaction}
          (isEntry : state.pendingTransactions.get hash = some tracked)
          : hash ≠ options.hash := by
        rintro rfl
        rw [found] at isEntry
        cases isEntry
      rw [trackTransaction_new found]
      dsimp only
      split
      · refine ⟨rfl, fun hash tracked isEntry => ?_, fun id older => ?_, fun _ _ => rfl,
          Nat.le_succ _, fun id loop runs => ?_, rfl, rfl⟩
        · simpa [TrackingState.started, newTracked, otherHash isEntry] using isEntry
        · simp [TrackingState.started, Nat.ne_of_lt older]
        · by_cases isNew : id = state.nextLoop
          · obtain rfl := (by simpa [TrackingState.started, isNew] using runs : _ = loop)
            exact .inr rfl
          · exact .inl (by simpa [TrackingState.started, isNew] using runs)
      · refine ⟨rfl, fun hash tracked isEntry => ?_, fun id older => ?_, fun id older => ?_,
          Nat.le_succ _, fun id loop runs => ?_, rfl, rfl⟩
        · rw [startedLate_pendingTransactions found]
          exact isEntry
        · simp [TrackingState.startedLate, Nat.ne_of_lt older]
        · simp [TrackingState.startedLate, Nat.ne_of_lt older]
        · by_cases isNew : id = state.nextLoop
          · simp [TrackingState.startedLate, isNew] at runs
          · exact .inl (by simpa [TrackingState.startedLate, isNew] using runs)

/-- An import keeps what there is, as a sequence of tracked transactions. -/
theorem keeps_importState {dates : DateFormat} {state next : TrackingState}
    {exported : SerializableValue} {restored : List TrackedTransaction}
    (imported : importState dates state exported = .ok (restored, next))
    : Keeps state next :=
  @importState_preserves dates (Keeps state)
    (fun middle options kept => kept.trans (keeps_trackTransaction middle options))
    state exported (.refl state) restored next imported

/-- (LoopEnds state loop outcome reports) lists how a loop can end and what it reports then. -/
inductive LoopEnds (state : TrackingState) (loop : PollingLoop)
    : PollOutcome → List Report → Prop where
  | resolved (response : GetTransactionResponse) (isFinal : response.status ≠ .notFound)
      : LoopEnds state loop (.resolved response) [⟨loop.hash, response, loop.polledAt⟩]
  | failed (error : Thrown) : LoopEnds state loop (.failed error) []
  | cancelled (isCancelled : loop.cancelled = true) : LoopEnds state loop .cancelled []
  | timedOut (late : isBefore state.now loop.deadline = false)
      : LoopEnds state loop (.timedOut state.now) []

/-- (TrackingEffect dates state action next) lists what a step can do. -/
inductive TrackingEffect (dates : DateFormat) (state : TrackingState)
    : TrackingAction → TrackingState → Prop where
  | elapsed (later : Instant) (forward : state.now.ms ≤ later.ms)
      : TrackingEffect dates state (.elapse later) { state with now := later }
  | tracked (options : TrackTransactionOptions)
      : TrackingEffect dates state (.trackTransaction options) (trackTransaction state options).2
  | polled (hash : String) (timeoutMs intervalMs : Option JsNumber)
      : TrackingEffect dates state (.pollTransaction hash timeoutMs intervalMs)
          (pollTransaction state hash timeoutMs intervalMs)
  | imported (exported : SerializableValue) (restored : List TrackedTransaction)
      (next : TrackingState) (ok : importState dates state exported = .ok (restored, next))
      : TrackingEffect dates state (.importState exported) next
  | notImported (exported : SerializableValue)
      : TrackingEffect dates state (.importState exported) state
  | cancelled (id : Nat) (loop : PollingLoop) (runs : state.loops.get id = some loop)
      : TrackingEffect dates state (.cancel id)
          { state with loops := state.loops.set id { loop with cancelled := true } }
  | nothingToCancel (id : Nat) : TrackingEffect dates state (.cancel id) state
  | notFound (id : Nat) (loop : PollingLoop) (response : GetTransactionResponse)
      (runs : state.loops.get id = some loop)
      : TrackingEffect dates state (.answer id (.ok response))
          { state with loops := state.loops.set id { loop with phase := .sleeping } }
  | woken (id : Nat) (loop : PollingLoop) (runs : state.loops.get id = some loop)
      : TrackingEffect dates state (.timer id)
          { state with
            loops := state.loops.set id { loop with phase := .asking, polledAt := state.now } }
  | ended (action : TrackingAction) (id : Nat) (loop : PollingLoop) (outcome : PollOutcome)
      (reports : List Report) (runs : state.loops.get id = some loop)
      (ends : LoopEnds state loop outcome reports)
      : TrackingEffect dates state action
          { state.endLoop id loop.hash outcome with reports := reports ++ state.reports }

/-- Every step has one of the listed effects, by cases on the action. -/
theorem trackingStep_effect {dates : DateFormat} {state next : TrackingState}
    {action : TrackingAction} (taken : trackingStep dates state action = some next)
    : TrackingEffect dates state action next := by
  cases action with
  | elapse later =>
      simp only [trackingStep, Option.ite_none_right_eq_some, Option.some.injEq] at taken
      obtain ⟨forward, rfl⟩ := taken
      exact .elapsed later forward
  | trackTransaction options =>
      obtain rfl := Option.some.inj taken
      exact .tracked options
  | pollTransaction hash timeoutMs intervalMs =>
      obtain rfl := Option.some.inj taken
      exact .polled hash timeoutMs intervalMs
  | importState exported =>
      simp only [trackingStep] at taken
      split at taken
      · rename_i restored after ok
        obtain rfl := Option.some.inj taken
        exact .imported exported restored after ok
      · obtain rfl := Option.some.inj taken
        exact .notImported exported
  | cancel id =>
      simp only [trackingStep] at taken
      split at taken
      · rename_i loop runs
        obtain rfl := Option.some.inj taken
        exact .cancelled id loop runs
      · obtain rfl := Option.some.inj taken
        exact .nothingToCancel id
  | answer id answer =>
      simp only [trackingStep] at taken
      split at taken
      · rename_i loop runs
        rw [Option.ite_none_right_eq_some, Option.some.injEq] at taken
        obtain ⟨_, rfl⟩ := taken
        cases answer with
        | error error => exact .ended _ id loop _ [] runs (.failed error)
        | ok response =>
            unfold TrackingState.answered
            dsimp only
            split
            · exact .notFound id loop response runs
            · rename_i isFinal
              exact .ended _ id loop _ _ runs (.resolved response isFinal)
      · cases taken
  | timer id =>
      simp only [trackingStep] at taken
      split at taken
      · rename_i loop runs
        rw [Option.ite_none_right_eq_some, Option.some.injEq] at taken
        obtain ⟨_, rfl⟩ := taken
        unfold TrackingState.continueLoop
        split
        · exact .woken id loop runs
        · rename_i ends
          split
          · rename_i isCancelled
            exact .ended _ id loop _ [] runs (.cancelled isCancelled)
          · rename_i notCancelled
            exact .ended _ id loop _ [] runs (.timedOut (by simpa [notCancelled] using ends))
      · cases taken

end Axionvera.Client.Tracking
