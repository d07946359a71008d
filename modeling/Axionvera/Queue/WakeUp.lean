import Axionvera.Queue.ActiveRequests

/-! A queued request waits only while the limit is reached or something is due that will
process the queue, except after a change of the configuration.
-/

namespace Axionvera.Queue

open Axionvera.Errors
open Axionvera.Foundation

variable {τ : Type}

/-- A throttle timer is set, or a loop of `processQueue` goes on within the running call. -/
def QueueState.wakeUpPending (state : QueueState τ) : Prop :=
  state.throttleTimer = true ∨ .drain ∈ state.stack

/-- Requests wait although fewer functions run than the limit allows only with a wake-up pending.
When no call is running, that is a throttle timer.
-/
def QueueState.wakesUp (state : QueueState τ) : Prop :=
  state.queue ≠ []
  → state.config.maxConcurrentRequests.isAbove state.activeRequests = true
  → state.wakeUpPending

/-- The action does not set a limit above the number of running functions while requests wait
without a wake-up pending.
-/
def raisesNoLimit (state : QueueState τ) : QueueAction τ → Prop
  | .updateConfig config =>
      state.queue ≠ []
      → ¬ state.wakeUpPending
      → config.maxConcurrentRequests.isAbove state.activeRequests = false
  | _ => True

instance (state : QueueState τ) : Decidable state.wakeUpPending :=
  inferInstanceAs (Decidable (_ ∨ _))

instance (state : QueueState τ) : DecidablePred (raisesNoLimit state)
  | .updateConfig _ => inferInstanceAs (Decidable (_ → _ → _ = _))
  | .clock _ | .execute _ | .clearQueue | .destroy | .getQueueStatus | .advance | .returns
  | .throws _ | .completes _ _ | .queueTimeout _ | .throttleTimer => .isTrue trivial

/-- (KeepsWaiting state next) requires that no wake-up becomes necessary and none is lost. -/
structure KeepsWaiting (state next : QueueState τ) : Prop where
  queue : next.queue ≠ [] → state.queue ≠ []
  config : next.config = state.config
  activeRequests : next.activeRequests = state.activeRequests
  throttleTimer : next.throttleTimer = state.throttleTimer
  stack : .drain ∈ state.stack → .drain ∈ next.stack

/-- Where no wake-up becomes necessary, the requests are still woken up. -/
theorem KeepsWaiting.wakesUp {state next : QueueState τ} (keeps : KeepsWaiting state next)
    (wakesUp : state.wakesUp)
    : next.wakesUp := by
  intro waiting free
  rw [keeps.config, keeps.activeRequests] at free
  rcases wakesUp (keeps.queue waiting) free with timer | loop
  · exact .inl (keeps.throttleTimer.trans timer)
  · exact .inr (keeps.stack loop)

/-- What keeps the requests waiting twice keeps them waiting. -/
theorem KeepsWaiting.trans {first second third : QueueState τ} (front : KeepsWaiting first second)
    (back : KeepsWaiting second third)
    : KeepsWaiting first third where
  queue := front.queue ∘ back.queue
  config := back.config.trans front.config
  activeRequests := back.activeRequests.trans front.activeRequests
  throttleTimer := back.throttleTimer.trans front.throttleTimer
  stack := back.stack ∘ front.stack

/-- Settling a promise wakes no request up. -/
theorem keepsWaiting_settle (state : QueueState τ) (number : Nat) (settlement : Settlement τ)
    : KeepsWaiting state (state.settle number settlement) := by
  unfold QueueState.settle
  split
  · exact ⟨id, rfl, rfl, rfl, id⟩
  · exact ⟨id, rfl, rfl, rfl, id⟩

/-- Clearing the timer of a request wakes none up. -/
theorem keepsWaiting_clearTimeout (state : QueueState τ) (request : QueuedRequest)
    : KeepsWaiting state (state.clearTimeout request) := by
  unfold QueueState.clearTimeout
  split
  · exact ⟨id, rfl, rfl, rfl, id⟩
  · exact ⟨id, rfl, rfl, rfl, id⟩

/-- Removing a request makes no other wait. -/
theorem keepsWaiting_removeFromQueue (state : QueueState τ) (id : String)
    : KeepsWaiting state (removeFromQueue state id) := by
  unfold removeFromQueue
  split
  · rename_i removed found
    refine KeepsWaiting.trans ?_ (keepsWaiting_clearTimeout _ removed)
    refine ⟨fun remaining empty => remaining ?_, rfl, rfl, rfl, fun loop => loop⟩
    rw [empty]
    rfl
  · exact ⟨fun waiting => waiting, rfl, rfl, rfl, fun loop => loop⟩

/-- Looking at the throttle wakes no request up. -/
theorem keepsWaiting_isThrottled (state : QueueState τ)
    : KeepsWaiting state (isThrottled state).2 := by
  unfold isThrottled
  split
  · exact ⟨id, rfl, rfl, rfl, id⟩
  · exact ⟨id, rfl, rfl, rfl, id⟩

/-- Processing the queue enters the loop or sets the throttle timer. -/
theorem processQueue_wakeUpPending (state : QueueState τ) : (processQueue state).wakeUpPending := by
  unfold processQueue
  split
  · dsimp only
    split
    · exact .inl rfl
    · exact .inr List.mem_cons_self
  · exact .inr List.mem_cons_self

/-- The end of a request function processes the queue. -/
theorem finishRequest_wakesUp (state : QueueState τ) (number : Nat) (outcome : Except Thrown τ)
    : (finishRequest state number outcome).wakesUp :=
  fun _ _ => processQueue_wakeUpPending _

/-- Nothing waits in an empty queue. -/
theorem wakesUp_of_empty {state : QueueState τ} (empty : state.queue = []) : state.wakesUp :=
  fun waiting => absurd empty waiting

/-- A turn of the loop starts a request and goes on, or ends because none may be started, by cases
on the queue and the limit.
-/
theorem advance_wakesUp {state next : QueueState τ}
    (taken : queueStep state .advance = some next)
    : next.wakesUp := by
  simp only [queueStep] at taken
  split at taken
  · rename_i callers request others running queued
    split at taken
    · obtain rfl := Option.some.inj taken
      refine fun _ _ => .inr ?_
      simp [startRequest, running]
    · rename_i full
      obtain rfl := Option.some.inj taken
      exact fun _ free => absurd free full
  · rename_i queued
    obtain rfl := Option.some.inj taken
    exact wakesUp_of_empty queued
  · cases taken

/-- A step is followed by a wake-up where one is necessary exactly when it raises no limit, by
cases on the action: only `updateConfig` neither processes the queue nor leaves the limit
alone.
-/
theorem raisesNoLimit_iff {state next : QueueState τ} {action : QueueAction τ}
    (taken : queueStep state action = some next) (wakesUp : state.wakesUp)
    : raisesNoLimit state action ↔ next.wakesUp := by
  cases action with
  | updateConfig config =>
      simp only [queueStep, Option.ite_none_right_eq_some, Option.some.injEq] at taken
      obtain ⟨_, rfl⟩ := taken
      constructor
      · intro allowed waiting free
        by_contra notPending
        exact absurd free (by simp [allowed waiting notPending])
      · intro wakesUpNext waiting notPending
        by_contra free
        exact notPending (wakesUpNext waiting (by simpa using free))
  | clock now =>
      obtain rfl := Option.some.inj taken
      exact iff_of_true trivial wakesUp
  | execute id =>
      simp only [queueStep, Option.ite_none_right_eq_some, Option.some.injEq] at taken
      obtain ⟨_, rfl⟩ := taken
      exact iff_of_true trivial fun _ _ => processQueue_wakeUpPending _
  | clearQueue =>
      simp only [queueStep, Option.ite_none_right_eq_some, Option.some.injEq] at taken
      obtain ⟨_, rfl⟩ := taken
      exact iff_of_true trivial (wakesUp_of_empty rfl)
  | destroy =>
      simp only [queueStep, Option.ite_none_right_eq_some, Option.some.injEq] at taken
      obtain ⟨_, rfl⟩ := taken
      exact iff_of_true trivial (wakesUp_of_empty rfl)
  | getQueueStatus =>
      simp only [queueStep, Option.ite_none_right_eq_some, Option.some.injEq] at taken
      obtain ⟨_, rfl⟩ := taken
      refine iff_of_true trivial ?_
      unfold getQueueStatus
      split
      · exact (keepsWaiting_isThrottled state).wakesUp wakesUp
      · exact wakesUp
  | advance => exact iff_of_true trivial (advance_wakesUp taken)
  | returns =>
      simp only [queueStep] at taken
      split at taken
      · rename_i number callers running
        obtain rfl := Option.some.inj taken
        -- A request function that returns is not the loop that called it.
        have keeps
            : KeepsWaiting state
                { state with stack := callers, awaiting := number :: state.awaiting } :=
          ⟨id, rfl, rfl, rfl, by simp [running]⟩
        exact iff_of_true trivial (keeps.wakesUp wakesUp)
      · cases taken
  | throws error =>
      simp only [queueStep] at taken
      split at taken
      · obtain rfl := Option.some.inj taken
        exact iff_of_true trivial (finishRequest_wakesUp _ _ _)
      · cases taken
  | completes number outcome =>
      simp only [queueStep, Option.ite_none_right_eq_some, Option.some.injEq] at taken
      obtain ⟨_, rfl⟩ := taken
      exact iff_of_true trivial (finishRequest_wakesUp _ _ _)
  | queueTimeout number =>
      simp only [queueStep] at taken
      split at taken
      · rename_i requestId idle pending
        obtain rfl := Option.some.inj taken
        refine iff_of_true trivial (KeepsWaiting.wakesUp ?_ wakesUp)
        refine KeepsWaiting.trans ?_ (keepsWaiting_settle _ _ _)
        refine KeepsWaiting.trans ?_ (keepsWaiting_removeFromQueue _ _)
        exact ⟨id, rfl, rfl, rfl, id⟩
      · cases taken
  | throttleTimer =>
      simp only [queueStep, Option.ite_none_right_eq_some, Option.some.injEq] at taken
      obtain ⟨_, rfl⟩ := taken
      exact iff_of_true trivial fun _ _ => processQueue_wakeUpPending _

/-- In every run, requests never wait without need exactly when no call of `updateConfig`
raises the limit above the number of running functions while requests wait without a wake-up
pending. Witness: `raisesNoLimit_iff` along the run.
-/
theorem wakesUp_iff_raisesNoLimit (config : ConcurrencyConfig) (now : Int)
    (actions : List (QueueAction τ)) (final : QueueState τ)
    (reached : run queueStep (.initial config now) actions = some final)
    : (∀ front state,
        front <+: actions
        → run queueStep (.initial config now) front = some state
        → state.wakesUp)
      ↔ stepsSatisfy queueStep raisesNoLimit (.initial config now) actions := by
  have all
      : stepsSatisfy queueStep (fun _ _ => True) (.initial config now : QueueState τ) actions :=
    stepsSatisfy_of_forall_mem _ fun _ _ _ => trivial
  exact forall_prefix_iff_stepsSatisfy (fun _ _ _ _ _ _ _ _ => trivial)
    (fun _ _ _ _ taken (_ : True) wakesUp => raisesNoLimit_iff taken wakesUp) trivial
    (wakesUp_of_empty rfl) all reached

/-- While one request runs the limit is taken down to zero, another request comes, and once the
first has finished the limit is raised again.
-/
def pauseAndResume : List (QueueAction Unit) :=
  [
    .execute "a", .advance, .returns, .advance,
    .updateConfig { maxConcurrentRequests := .finite 0 },
    .execute "b", .advance,
    .completes 0 (.ok ()), .advance,
    .updateConfig { maxConcurrentRequests := .finite 1 }
  ]

/-- The second request waits although nothing runs, and nothing will start it. -/
theorem wakesUp_pauseAndResume
    : ∃ state,
        run queueStep (.initial { maxConcurrentRequests := .finite 1 } 0) pauseAndResume
          = some state
        ∧ state.queue.map QueuedRequest.id = ["b"]
        ∧ state.activeRequests = 0
        ∧ state.config.maxConcurrentRequests.isAbove state.activeRequests = true
        ∧ state.stack = []
        ∧ state.throttleTimer = false :=
  ⟨_, rfl, rfl, rfl, rfl, rfl, rfl⟩

/-- A request function submits another request and makes room for it before it returns. -/
def raisedInLoop : List (QueueAction Unit) :=
  [
    .execute "a", .advance, .execute "b", .advance,
    .updateConfig { maxConcurrentRequests := .finite 2 },
    .returns, .advance, .returns, .advance
  ]

/-- A limit that a request function raises is noticed by the loop that called the function. -/
theorem wakesUp_raisedInLoop
    : ∃ final,
        run queueStep (.initial { maxConcurrentRequests := .finite 1 } 0) raisedInLoop = some final
        ∧ ∀ front state,
            front <+: raisedInLoop
            → run queueStep (.initial { maxConcurrentRequests := .finite 1 } 0) front = some state
            → state.wakesUp := by
  refine ⟨_, rfl, ?_⟩
  exact (wakesUp_iff_raisesNoLimit { maxConcurrentRequests := .finite 1 } 0 raisedInLoop _ rfl).mpr
    (by decide)

end Axionvera.Queue
