import Axionvera.Foundation.TransitionSystem
import Axionvera.Queue.ConcurrencyQueue
import Mathlib.Data.List.Perm.Basic
import Mathlib.Data.Rat.Floor

/-! `activeRequests` counts the request functions that have been called and whose outcome is not
known yet, at every step of the queue, and stays within the limit.
-/

namespace Axionvera.Queue

open Axionvera.Errors
open Axionvera.Foundation

variable {τ : Type}

/-- The calls of request functions whose outcome is not known yet. -/
def QueueState.unsettledCalls (state : QueueState τ) : List Nat :=
  state.calls.filter (fun number => (state.outcomes.get number).isNone)

/-- The request functions that run, and those whose promise is awaited. -/
def QueueState.runningCalls (state : QueueState τ) : List Nat :=
  state.stack.filterMap Frame.call ++ state.awaiting

/-- The count is within the limit rounded up to a whole number; nothing may run within a negative
limit or NaN.
-/
def withinLimit (activeRequests : Int) (maxConcurrentRequests : JsNumber) : Prop :=
  match maxConcurrentRequests with
  | .finite limit => activeRequests ≤ max 0 ⌈limit⌉
  | .nan => activeRequests = 0
  | .infinity negative => negative = true → activeRequests = 0

/-- Requests are either queued or called, calls have their outcome recorded once they have one,
and `activeRequests` counts the others.
-/
structure Accounted (state : QueueState τ) : Prop where
  distinct : (state.queue.map QueuedRequest.number ++ state.calls).Nodup
  submitted
    : ∀ number ∈ state.queue.map QueuedRequest.number ++ state.calls, number < state.nextNumber
  outcomeOfCall
    : ∀ number outcome, state.outcomes.get number = some outcome → number ∈ state.calls
  running : state.unsettledCalls.Perm state.runningCalls
  counted : state.activeRequests = state.runningCalls.length

/-- (Untouched state next) requires no request to be submitted, called or finished; requests may
leave the queue.
-/
structure Untouched (state next : QueueState τ) : Prop where
  config : next.config = state.config
  activeRequests : next.activeRequests = state.activeRequests
  nextNumber : next.nextNumber = state.nextNumber
  awaiting : next.awaiting = state.awaiting
  calls : next.calls = state.calls
  outcomes : next.outcomes = state.outcomes
  stackCalls : next.stack.filterMap Frame.call = state.stack.filterMap Frame.call
  queue
    : (next.queue.map QueuedRequest.number).Sublist (state.queue.map QueuedRequest.number)

/-- A state is untouched by itself. -/
theorem Untouched.refl (state : QueueState τ) : Untouched state state :=
  ⟨rfl, rfl, rfl, rfl, rfl, rfl, rfl, .refl _⟩

/-- What leaves a state untouched twice leaves it untouched. -/
theorem Untouched.trans {first second third : QueueState τ} (front : Untouched first second)
    (back : Untouched second third)
    : Untouched first third where
  config := back.config.trans front.config
  activeRequests := back.activeRequests.trans front.activeRequests
  nextNumber := back.nextNumber.trans front.nextNumber
  awaiting := back.awaiting.trans front.awaiting
  calls := back.calls.trans front.calls
  outcomes := back.outcomes.trans front.outcomes
  stackCalls := back.stackCalls.trans front.stackCalls
  queue := back.queue.trans front.queue

/-- Requests stay accounted for when none is submitted, called or finished. -/
theorem Accounted.untouched {state next : QueueState τ} (accounted : Accounted state)
    (untouched : Untouched state next)
    : Accounted next := by
  have sameRunning : next.runningCalls = state.runningCalls := by
    rw [QueueState.runningCalls, untouched.stackCalls, untouched.awaiting]
    rfl
  have sublist
      : (next.queue.map QueuedRequest.number ++ next.calls).Sublist
          (state.queue.map QueuedRequest.number ++ state.calls) := by
    rw [untouched.calls]
    exact untouched.queue.append (.refl _)
  constructor
  case distinct => exact accounted.distinct.sublist sublist
  case submitted =>
    intro number member
    rw [untouched.nextNumber]
    exact accounted.submitted number (sublist.subset member)
  case outcomeOfCall =>
    rw [untouched.outcomes, untouched.calls]
    exact accounted.outcomeOfCall
  case running =>
    rw [sameRunning, QueueState.unsettledCalls, untouched.calls, untouched.outcomes]
    exact accounted.running
  case counted =>
    rw [sameRunning, untouched.activeRequests]
    exact accounted.counted

/-- Settling a promise touches no request. -/
theorem untouched_settle (state : QueueState τ) (number : Nat) (settlement : Settlement τ)
    : Untouched state (state.settle number settlement) := by
  unfold QueueState.settle
  split
  · exact ⟨rfl, rfl, rfl, rfl, rfl, rfl, rfl, .refl _⟩
  · exact .refl state

/-- Clearing a timer touches no request. -/
theorem untouched_clearTimeout (state : QueueState τ) (request : QueuedRequest)
    : Untouched state (state.clearTimeout request) := by
  unfold QueueState.clearTimeout
  split
  · exact ⟨rfl, rfl, rfl, rfl, rfl, rfl, rfl, .refl _⟩
  · exact .refl state

/-- Checking the throttle touches no request. -/
theorem untouched_isThrottled (state : QueueState τ) : Untouched state (isThrottled state).2 := by
  unfold isThrottled
  split
  · exact ⟨rfl, rfl, rfl, rfl, rfl, rfl, rfl, .refl _⟩
  · exact .refl state

/-- Entering the loop of `processQueue`, or scheduling it, touches no request. -/
theorem untouched_processQueue (state : QueueState τ) : Untouched state (processQueue state) := by
  unfold processQueue
  split
  · have checked := untouched_isThrottled state
    dsimp only
    split
    · exact checked.trans ⟨rfl, rfl, rfl, rfl, rfl, rfl, rfl, .refl _⟩
    · exact checked.trans ⟨rfl, rfl, rfl, rfl, rfl, rfl, rfl, .refl _⟩
  · exact ⟨rfl, rfl, rfl, rfl, rfl, rfl, rfl, .refl _⟩

/-- Removing a request from the queue touches no other. -/
theorem untouched_removeFromQueue (state : QueueState τ) (id : String)
    : Untouched state (removeFromQueue state id) := by
  unfold removeFromQueue
  split
  · apply Untouched.trans _ (untouched_clearTimeout _ _)
    exact ⟨rfl, rfl, rfl, rfl, rfl, rfl, rfl, List.eraseP_sublist.map _⟩
  · exact .refl state

/-- Cancelling queued requests touches no other, by induction on them. -/
theorem untouched_cancelRequests (requests : List QueuedRequest) (state : QueueState τ)
    : Untouched state (requests.foldl cancelRequest state) := by
  induction requests generalizing state with
  | nil => exact .refl state
  | cons request rest ih =>
      have cancelled : Untouched state (cancelRequest state request) :=
        (untouched_clearTimeout state request).trans (untouched_settle _ _ _)
      exact cancelled.trans (ih (cancelRequest state request))

/-- Clearing the queue touches no request that has been called. -/
theorem untouched_clearQueue (state : QueueState τ) : Untouched state (clearQueue state) := by
  have unset : Untouched state { state with throttleTimer := false } :=
    ⟨rfl, rfl, rfl, rfl, rfl, rfl, rfl, .refl _⟩
  apply (unset.trans (untouched_cancelRequests state.queue _)).trans
  exact ⟨rfl, rfl, rfl, rfl, rfl, rfl, rfl, List.nil_sublist _⟩

/-- A submitted request is accounted for in the queue. -/
theorem Accounted.execute {state : QueueState τ} (accounted : Accounted state) (id : String)
    : Accounted (execute state id) := by
  have unused : ∀ number ∈ state.queue.map QueuedRequest.number ++ state.calls,
      number ≠ state.nextNumber :=
    fun number member => Nat.ne_of_lt (accounted.submitted number member)
  apply Accounted.untouched _ (untouched_processQueue _)
  constructor
  case distinct =>
    simp only [List.map_append, List.map_singleton, List.append_assoc, List.singleton_append]
    rw [List.nodup_middle]
    exact List.nodup_cons.mpr ⟨fun member => unused _ member rfl, accounted.distinct⟩
  case submitted =>
    intro number member
    simp only [List.map_append, List.map_singleton, List.append_assoc, List.singleton_append]
      at member
    rcases List.mem_cons.mp (List.perm_middle.mem_iff.mp member) with rfl | older
    · exact Nat.lt_succ_self state.nextNumber
    · exact Nat.lt_succ_of_lt (accounted.submitted number older)
  case outcomeOfCall => exact accounted.outcomeOfCall
  case running => exact accounted.running
  case counted => exact accounted.counted

/-- A request that is called moves from the queue to those that run. -/
theorem Accounted.startRequest {state : QueueState τ} (accounted : Accounted state)
    {request : QueuedRequest} {others : List QueuedRequest}
    (queued : state.queue = request :: others)
    : Accounted (startRequest state request others) := by
  have distinct := accounted.distinct
  have submitted := accounted.submitted
  rw [queued, List.map_cons, List.cons_append] at distinct submitted
  have unsettled : state.outcomes.get request.number = none := by
    cases found : state.outcomes.get request.number with
    | none => rfl
    | some outcome =>
        have called := accounted.outcomeOfCall request.number outcome found
        exact absurd (List.mem_append_right _ called) (List.nodup_cons.mp distinct).1
  let called :=
    { state with
      queue := others
      activeRequests := state.activeRequests + 1
      stack := .request request.number :: state.stack
      calls := request.number :: state.calls }
  have untouched : Untouched called (Queue.startRequest state request others) := by
    unfold Queue.startRequest QueueState.clearTimeout
    split
    · exact ⟨rfl, rfl, rfl, rfl, rfl, rfl, rfl, .refl _⟩
    · exact ⟨rfl, rfl, rfl, rfl, rfl, rfl, rfl, .refl _⟩
  refine Accounted.untouched ?_ untouched
  constructor
  case distinct => exact (List.perm_middle.nodup_iff).mpr distinct
  case submitted =>
    intro number member
    exact submitted number (List.perm_middle.mem_iff.mp member)
  case outcomeOfCall =>
    exact fun number outcome found =>
      List.mem_cons_of_mem _ (accounted.outcomeOfCall number outcome found)
  case running =>
    have runs : called.unsettledCalls = request.number :: state.unsettledCalls := by
      simp [called, QueueState.unsettledCalls, unsettled]
    rw [runs]
    exact accounted.running.cons request.number
  case counted =>
    change state.activeRequests + 1 = ((state.runningCalls.length + 1 : Nat) : Int)
    rw [accounted.counted, Int.natCast_add, Int.natCast_one]

/-- A function that returns its promise is awaited from then on. -/
theorem Accounted.returns {state : QueueState τ} (accounted : Accounted state) {number : Nat}
    {callers : List Frame} (running : state.stack = .request number :: callers)
    : Accounted
        { state with stack := callers, awaiting := number :: state.awaiting } := by
  have moved
      : state.runningCalls.Perm
          (callers.filterMap Frame.call ++ number :: state.awaiting) := by
    rw [QueueState.runningCalls, running]
    exact List.perm_middle.symm
  constructor
  case distinct => exact accounted.distinct
  case submitted => exact accounted.submitted
  case outcomeOfCall => exact accounted.outcomeOfCall
  case running => exact accounted.running.trans moved
  case counted =>
    rw [accounted.counted, moved.length_eq]
    rfl

/-- A function whose outcome is known no longer counts; it has been taken off the stack or the
awaited functions before.
-/
theorem Accounted.finishRequest {state : QueueState τ} (accounted : Accounted state)
    {number : Nat} {stack : List Frame} {awaiting : List Nat} (outcome : Except Thrown τ)
    (wasRunning
      : state.runningCalls.Perm (number :: (stack.filterMap Frame.call ++ awaiting)))
    : Accounted
        (finishRequest { state with stack := stack, awaiting := awaiting } number outcome) := by
  have running := accounted.running.trans wasRunning
  have callsDistinct : state.unsettledCalls.Nodup :=
    (List.nodup_append.mp accounted.distinct).2.1.filter _
  have notAgain := (List.nodup_cons.mp (running.nodup_iff.mp callsDistinct)).1
  have called : number ∈ state.calls := by
    have unsettled := running.mem_iff.mpr List.mem_cons_self
    exact (List.mem_filter.mp unsettled).1
  let finished :=
    { state with
      stack := stack
      awaiting := awaiting
      outcomes := state.outcomes.set number outcome
      activeRequests := state.activeRequests - 1 }
  have untouched
      : Untouched finished
          (Queue.finishRequest { state with stack := stack, awaiting := awaiting } number
            outcome) := by
    -- Settling the promise and processing the queue again do not count.
    refine Untouched.trans ?_ (untouched_processQueue _)
    have settled :=
      untouched_settle
        { state with
          stack := stack
          awaiting := awaiting
          outcomes := state.outcomes.set number outcome }
        number (.own outcome)
    exact ⟨settled.config, by simp [settled.activeRequests, finished], settled.nextNumber,
      settled.awaiting, settled.calls, settled.outcomes, settled.stackCalls, settled.queue⟩
  refine Accounted.untouched ?_ untouched
  constructor
  case distinct => exact accounted.distinct
  case submitted => exact accounted.submitted
  case outcomeOfCall =>
    intro other known found
    by_cases own : other = number
    · exact own ▸ called
    · exact accounted.outcomeOfCall other known (by simpa [finished, own] using found)
  case running =>
    -- The outcome takes exactly one number off the unsettled calls, as all calls are distinct.
    have remaining
        : finished.unsettledCalls
          = state.unsettledCalls.filter (fun other => other ≠ number) := by
      rw [QueueState.unsettledCalls, QueueState.unsettledCalls, List.filter_filter]
      apply List.filter_congr
      intro other _
      by_cases own : other = number
      · simp [finished, own]
      · simp [finished, own]
    have others
        : (number :: finished.runningCalls).filter (fun other => other ≠ number)
          = finished.runningCalls := by
      rw [List.filter_cons_of_neg (by simp), List.filter_eq_self]
      intro other member
      exact decide_eq_true fun same => notAgain (same ▸ member)
    rw [remaining]
    exact others ▸ running.filter _
  case counted =>
    change state.activeRequests - 1 = (finished.runningCalls.length : Int)
    rw [accounted.counted, wasRunning.length_eq, List.length_cons]
    change ((finished.runningCalls.length + 1 : Nat) : Int) - 1 = _
    omega

/-- A call of a function counts one more. -/
theorem startRequest_activeRequests (state : QueueState τ) (request : QueuedRequest)
    (others : List QueuedRequest)
    : (startRequest state request others).activeRequests = state.activeRequests + 1 :=
  rfl

/-- An outcome counts one less. -/
theorem finishRequest_activeRequests (state : QueueState τ) (number : Nat)
    (outcome : Except Thrown τ)
    : (finishRequest state number outcome).activeRequests = state.activeRequests - 1 := by
  unfold finishRequest
  rw [(untouched_processQueue _).activeRequests]
  change (QueueState.settle _ _ _).activeRequests - 1 = _
  rw [(untouched_settle _ _ _).activeRequests]

/-- A step touches no request, except that one can be submitted, called, awaited or finished. -/
inductive QueueEffect (state next : QueueState τ) : Prop where
  | untouched (untouched : Untouched state next)
  | submitted (id : String) (executed : next = execute state id)
  | called (request : QueuedRequest) (others : List QueuedRequest)
      (queued : state.queue = request :: others)
      (free : state.config.maxConcurrentRequests.isAbove state.activeRequests = true)
      (started : next = startRequest state request others)
  | awaited (number : Nat) (callers : List Frame)
      (running : state.stack = .request number :: callers)
      (returned : next = { state with stack := callers, awaiting := number :: state.awaiting })
  | threw (number : Nat) (callers : List Frame) (error : Thrown)
      (running : state.stack = .request number :: callers)
      (thrown : next = finishRequest { state with stack := callers } number (.error error))
  | completed (number : Nat) (outcome : Except Thrown τ) (isAwaited : number ∈ state.awaiting)
      (finished
        : next
          = finishRequest { state with awaiting := state.awaiting.erase number } number outcome)

/-- Every step under a fixed configuration has one of these effects, by cases on the action. -/
theorem queueStep_effect {state next : QueueState τ} {action : QueueAction τ}
    (fixed : ∀ config, action ≠ .updateConfig config)
    (taken : queueStep state action = some next)
    : QueueEffect state next := by
  cases action with
  | clock now =>
      obtain rfl := Option.some.inj taken
      exact .untouched ⟨rfl, rfl, rfl, rfl, rfl, rfl, rfl, .refl _⟩
  | execute id =>
      simp only [queueStep, Option.ite_none_right_eq_some, Option.some.injEq] at taken
      exact .submitted id taken.2.symm
  | clearQueue =>
      simp only [queueStep, Option.ite_none_right_eq_some, Option.some.injEq] at taken
      exact .untouched (taken.2 ▸ untouched_clearQueue state)
  | destroy =>
      simp only [queueStep, Option.ite_none_right_eq_some, Option.some.injEq] at taken
      obtain ⟨_, rfl⟩ := taken
      apply QueueEffect.untouched
      exact (untouched_clearQueue state).trans ⟨rfl, rfl, rfl, rfl, rfl, rfl, rfl, .refl _⟩
  | getQueueStatus =>
      simp only [queueStep, Option.ite_none_right_eq_some, Option.some.injEq] at taken
      obtain ⟨_, rfl⟩ := taken
      apply QueueEffect.untouched
      unfold getQueueStatus
      split
      · exact untouched_isThrottled state
      · exact .refl state
  | updateConfig config => exact absurd rfl (fixed config)
  | advance =>
      simp only [queueStep] at taken
      split at taken
      · rename_i callers request others running queued
        split at taken
        · rename_i free
          exact .called request others queued free (Option.some.inj taken).symm
        · obtain rfl := Option.some.inj taken
          exact .untouched ⟨rfl, rfl, rfl, rfl, rfl, rfl, by rw [running]; rfl, .refl _⟩
      · rename_i callers running _
        obtain rfl := Option.some.inj taken
        exact .untouched ⟨rfl, rfl, rfl, rfl, rfl, rfl, by rw [running]; rfl, .refl _⟩
      · cases taken
  | returns =>
      simp only [queueStep] at taken
      split at taken
      · rename_i number callers running
        exact .awaited number callers running (Option.some.inj taken).symm
      · cases taken
  | throws error =>
      simp only [queueStep] at taken
      split at taken
      · rename_i number callers running
        exact .threw number callers error running (Option.some.inj taken).symm
      · cases taken
  | completes number outcome =>
      simp only [queueStep, Option.ite_none_right_eq_some, Option.some.injEq] at taken
      exact .completed number outcome taken.1.2 taken.2.symm
  | queueTimeout number =>
      simp only [queueStep] at taken
      split at taken
      · rename_i id idle pending
        obtain rfl := Option.some.inj taken
        apply QueueEffect.untouched
        refine Untouched.trans ?_ (untouched_settle _ _ _)
        refine Untouched.trans ?_ (untouched_removeFromQueue _ _)
        exact ⟨rfl, rfl, rfl, rfl, rfl, rfl, rfl, .refl _⟩
      · cases taken
  | throttleTimer =>
      simp only [queueStep, Option.ite_none_right_eq_some, Option.some.injEq] at taken
      obtain ⟨_, rfl⟩ := taken
      apply QueueEffect.untouched
      refine Untouched.trans ?_ (untouched_processQueue _)
      exact ⟨rfl, rfl, rfl, rfl, rfl, rfl, rfl, .refl _⟩

/-- Every effect keeps requests accounted for. -/
theorem Accounted.effect {state next : QueueState τ} (accounted : Accounted state)
    (effect : QueueEffect state next)
    : Accounted next := by
  cases effect with
  | untouched untouched => exact accounted.untouched untouched
  | submitted id executed => exact executed ▸ accounted.execute id
  | called request others queued free started => exact started ▸ accounted.startRequest queued
  | awaited number callers running returned => exact returned ▸ accounted.returns running
  | threw number callers error running thrown =>
      rw [thrown]
      apply accounted.finishRequest (.error error)
      rw [QueueState.runningCalls, running]
      exact .refl _
  | completed number outcome isAwaited finished =>
      rw [finished]
      apply accounted.finishRequest outcome
      have erased := (List.perm_cons_erase isAwaited).append_left
        (state.stack.filterMap Frame.call)
      exact erased.trans List.perm_middle

/-- A free place leaves room for one more. -/
theorem withinLimit_succ {activeRequests : Int} {maxConcurrentRequests : JsNumber}
    (free : maxConcurrentRequests.isAbove activeRequests = true)
    : withinLimit (activeRequests + 1) maxConcurrentRequests := by
  cases maxConcurrentRequests with
  | nan => cases free
  | infinity negative =>
      intro isNegative
      simp [JsNumber.isAbove, isNegative] at free
  | finite limit =>
      have below : activeRequests < ⌈limit⌉ := Int.lt_ceil.mpr (of_decide_eq_true free)
      exact le_max_of_le_right below

/-- Fewer requests are within the limit as well. -/
theorem withinLimit_of_le {fewer activeRequests : Int} {maxConcurrentRequests : JsNumber}
    (nonnegative : 0 ≤ fewer) (le : fewer ≤ activeRequests)
    (within : withinLimit activeRequests maxConcurrentRequests)
    : withinLimit fewer maxConcurrentRequests := by
  cases maxConcurrentRequests with
  | nan => exact le_antisymm (le.trans (le_of_eq within)) nonnegative
  | infinity negative =>
      exact fun isNegative => le_antisymm (le.trans (le_of_eq (within isNegative))) nonnegative
  | finite limit => exact le.trans within

/-- Every effect keeps the configuration. -/
theorem QueueEffect.config {state next : QueueState τ} (effect : QueueEffect state next)
    : next.config = state.config := by
  cases effect with
  | untouched untouched => exact untouched.config
  | submitted id executed => exact executed ▸ (untouched_processQueue _).config
  | called request others queued free started =>
      exact started ▸ (untouched_clearTimeout { state with queue := others } request).config
  | awaited number callers running returned => rw [returned]
  | threw number callers error running thrown =>
      rw [thrown, finishRequest, (untouched_processQueue _).config]
      exact (untouched_settle _ _ _).config
  | completed number outcome isAwaited finished =>
      rw [finished, finishRequest, (untouched_processQueue _).config]
      exact (untouched_settle _ _ _).config

/-- The queue has the given configuration, and its requests are accounted for within the limit. -/
structure Limited (config : ConcurrencyConfig) (state : QueueState τ) : Prop where
  accounted : Accounted state
  sameConfig : state.config = config
  within : withinLimit state.activeRequests config.maxConcurrentRequests

/-- No count of running functions is negative. -/
theorem Accounted.nonnegative {state : QueueState τ} (accounted : Accounted state)
    : 0 ≤ state.activeRequests :=
  accounted.counted ▸ Int.natCast_nonneg _

/-- Every effect keeps the queue within its limit: only a free place is taken. -/
theorem Limited.effect {config : ConcurrencyConfig} {state next : QueueState τ}
    (limited : Limited config state) (effect : QueueEffect state next)
    : Limited config next := by
  have accounted := limited.accounted.effect effect
  refine ⟨accounted, effect.config.trans limited.sameConfig, ?_⟩
  -- Only `called` adds a request, and it finds a free place.
  have fewer (le : next.activeRequests ≤ state.activeRequests)
      : withinLimit next.activeRequests config.maxConcurrentRequests :=
    withinLimit_of_le accounted.nonnegative le limited.within
  cases effect with
  | untouched untouched => exact fewer (Int.le_of_eq untouched.activeRequests)
  | submitted id executed =>
      exact fewer (Int.le_of_eq (executed ▸ (untouched_processQueue _).activeRequests))
  | called request others queued free started =>
      rw [started, startRequest_activeRequests, ← limited.sameConfig]
      exact withinLimit_succ free
  | awaited number callers running returned =>
      apply fewer
      rw [returned]
  | threw number callers error running thrown =>
      apply fewer
      rw [thrown, finishRequest_activeRequests]
      exact Int.sub_le_self _ (by decide)
  | completed number outcome isAwaited finished =>
      apply fewer
      rw [finished, finishRequest_activeRequests]
      exact Int.sub_le_self _ (by decide)

/-- A new queue has no requests. -/
theorem limited_initial (config : ConcurrencyConfig) (now : Int)
    : Limited config (.initial config now : QueueState τ) := by
  have empty : Accounted (.initial config now : QueueState τ) :=
    ⟨List.nodup_nil, fun _ member => (List.not_mem_nil member).elim,
      fun _ _ found => (nomatch found), .refl _, rfl⟩
  refine ⟨empty, rfl, ?_⟩
  change withinLimit 0 config.maxConcurrentRequests
  cases config.maxConcurrentRequests with
  | finite limit => exact le_max_left 0 _
  | nan => rfl
  | infinity negative => exact fun _ => rfl

/-- In every run under a fixed configuration, `activeRequests` is the number of request functions
that were called and whose outcome is not known yet. It is never negative, and never above
the limit rounded up, so that it never exceeds a limit that is a whole number.
-/
theorem activeRequests_limited (config : ConcurrencyConfig) (now : Int)
    (actions : List (QueueAction τ)) (state : QueueState τ)
    (fixed : ∀ change, .updateConfig change ∉ actions)
    (reached : run queueStep (.initial config now) actions = some state)
    : state.activeRequests = state.unsettledCalls.length
      ∧ 0 ≤ state.activeRequests
      ∧ withinLimit state.activeRequests config.maxConcurrentRequests
      ∧ ∀ limit : Nat,
          config.maxConcurrentRequests = .finite limit → state.activeRequests ≤ limit := by
  have limited : Limited config state := by
    refine run_preserves_of_stepsSatisfy
      (fun _ _ _ allowed taken limited => Limited.effect limited (queueStep_effect allowed taken))
      (limited_initial config now) ?_ reached
    apply stepsSatisfy_of_forall_mem
    exact fun action member _ change same => fixed change (same ▸ member)
  refine ⟨?_, limited.accounted.nonnegative, limited.within, fun limit isLimit => ?_⟩
  · rw [limited.accounted.counted, limited.accounted.running.length_eq]
  · have within := limited.within
    rw [isLimit] at within
    simpa [withinLimit] using within

/-- A request function submits another request, whose function throws at once, before it returns.
-/
def reentrantRun : List (QueueAction Unit) :=
  [
    .execute "a", .advance,
    .execute "b", .advance, .throws (.value { message := some "Failed" }),
    .advance, .advance, .returns, .advance
  ]

/-- One function is left that runs within a limit of two. -/
theorem activeRequests_limited_reentrant
    : ∃ state,
        run queueStep (.initial { maxConcurrentRequests := .finite 2 } 0) reentrantRun
          = some state
        ∧ state.calls = [1, 0]
        ∧ state.unsettledCalls = [0]
        ∧ state.activeRequests = state.unsettledCalls.length := by
  refine ⟨_, rfl, rfl, rfl, ?_⟩
  exact (activeRequests_limited { maxConcurrentRequests := .finite 2 } 0 reentrantRun _
    (by simp [reentrantRun]) rfl).1

/-- With a limit of one half a request runs nevertheless. -/
theorem activeRequests_above_fraction
    : ∃ state : QueueState Unit,
        run queueStep (.initial { maxConcurrentRequests := .finite (mkRat 1 2) } 0)
            [.execute "a", .advance]
          = some state
        ∧ ¬ (state.activeRequests : ℚ) ≤ mkRat 1 2 := by
  refine ⟨_, rfl, ?_⟩
  decide

end Axionvera.Queue
