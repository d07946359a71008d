import Axionvera.Queue.ActiveRequests

/-! Every request function is called at most once, in the order of submission, and every
promise is settled either with the outcome of its function or refused for good before that is
called.
-/

namespace Axionvera.Queue

open Axionvera.Errors
open Axionvera.Foundation

variable {τ : Type}

/-- The id of the request that an action submits, if any. -/
def QueueAction.submittedId : QueueAction τ → Option String
  | .execute id => some id
  | _ => none

/-- The promise is settled with the outcome of its request function. -/
def Settlement.isOwn : Settlement τ → Bool
  | .own _ => true
  | .timedOut _ => false
  | .cancelled => false

/-- What callers can rely on at any time: no request function has been called twice; functions are
called in the order of submission, before those that still wait; a promise is settled with an
outcome exactly when its function was called and had it; a promise that is refused belongs to a
function that was not called and waits no longer; and no request is lost.
-/
structure SettlesOnce (state : QueueState τ) : Prop where
  calledOnce : state.calls.Nodup
  inOrder
    : (state.calls.reverse ++ state.queue.map QueuedRequest.number).Pairwise (· < ·)
  own_iff
    : ∀ number outcome,
        state.settled.get number = some (.own outcome)
        ↔ number ∈ state.calls ∧ state.outcomes.get number = some outcome
  refused
    : ∀ number settlement,
        state.settled.get number = some settlement
        → settlement.isOwn = false
        → number ∉ state.calls ∧ number ∉ state.queue.map QueuedRequest.number
  noneLost
    : ∀ number < state.nextNumber,
        number ∈ state.queue.map QueuedRequest.number
        ∨ number ∈ state.calls
        ∨ ∃ settlement,
            state.settled.get number = some settlement ∧ settlement.isOwn = false

/-- (SameRequests state next) requires the same requests to wait with the same timers, and the
same calls, outcomes and promises.
-/
structure SameRequests (state next : QueueState τ) : Prop where
  nextNumber : next.nextNumber = state.nextNumber
  queue : next.queue = state.queue
  timeouts : next.timeouts = state.timeouts
  calls : next.calls = state.calls
  outcomes : next.outcomes = state.outcomes
  settled : next.settled = state.settled

/-- Checking the throttle changes no request. -/
theorem sameRequests_isThrottled (state : QueueState τ)
    : SameRequests state (isThrottled state).2 := by
  unfold isThrottled
  split
  · exact ⟨rfl, rfl, rfl, rfl, rfl, rfl⟩
  · exact ⟨rfl, rfl, rfl, rfl, rfl, rfl⟩

/-- Processing the queue starts a loop or a timer, but no request yet. -/
theorem sameRequests_processQueue (state : QueueState τ)
    : SameRequests state (processQueue state) := by
  have checked := sameRequests_isThrottled state
  unfold processQueue scheduleNextProcess
  split
  · dsimp only
    split
    · exact ⟨checked.nextNumber, checked.queue, checked.timeouts, checked.calls,
        checked.outcomes, checked.settled⟩
    · exact ⟨checked.nextNumber, checked.queue, checked.timeouts, checked.calls,
        checked.outcomes, checked.settled⟩
  · exact ⟨rfl, rfl, rfl, rfl, rfl, rfl⟩

/-- `execute` up to its call of `processQueue`. -/
def submitRequest (state : QueueState τ) (id : String) : QueueState τ :=
  let request := ⟨state.nextNumber, id, state.now, state.config.queueTimeout.isTruthy⟩
  { state with
    nextNumber := state.nextNumber + 1
    timeouts := if request.hasTimeout then state.timeouts.set request.number id else state.timeouts
    queue := state.queue ++ [request] }

/-- The outcome of a request function settles the promise of its caller. -/
def settleOutcome (state : QueueState τ) (number : Nat) (outcome : Except Thrown τ)
    : QueueState τ :=
  { state with outcomes := state.outcomes.set number outcome }.settle number (.own outcome)

/-- The timer of a request fires. -/
def fireTimeout (state : QueueState τ) (number : Nat) (id : String) : QueueState τ :=
  (removeFromQueue { state with timeouts := state.timeouts.delete number } id).settle number
    (.timedOut state.config.queueTimeout)

/-- What leaves the requests alone twice leaves them alone. -/
theorem SameRequests.trans {first second third : QueueState τ} (front : SameRequests first second)
    (back : SameRequests second third)
    : SameRequests first third where
  nextNumber := back.nextNumber.trans front.nextNumber
  queue := back.queue.trans front.queue
  timeouts := back.timeouts.trans front.timeouts
  calls := back.calls.trans front.calls
  outcomes := back.outcomes.trans front.outcomes
  settled := back.settled.trans front.settled

/-- The outcome settles the promise wherever its function stood, before the count goes down. -/
theorem sameRequests_settleOutcome (state : QueueState τ) (stack : List Frame) (awaiting : List Nat)
    (number : Nat) (outcome : Except Thrown τ)
    : SameRequests (settleOutcome state number outcome)
        (finishRequest { state with stack := stack, awaiting := awaiting } number outcome) := by
  refine SameRequests.trans ?_ (sameRequests_processQueue _)
  unfold settleOutcome QueueState.settle
  cases state.settled.get number with
  | none => exact ⟨rfl, rfl, rfl, rfl, rfl, rfl⟩
  | some settlement => exact ⟨rfl, rfl, rfl, rfl, rfl, rfl⟩

/-- A step leaves the requests alone, or one of them is submitted, called, finished or times
out, or all that wait are cancelled.
-/
inductive RequestEffect (state : QueueState τ) (action : QueueAction τ) (next : QueueState τ)
    : Prop where
  | same (same : SameRequests state next)
  | submitted (id : String) (executed : action = .execute id)
      (same : SameRequests (submitRequest state id) next)
  | called (request : QueuedRequest) (others : List QueuedRequest)
      (queued : state.queue = request :: others)
      (started : next = startRequest state request others)
  | finished (number : Nat) (outcome : Except Thrown τ) (wasRunning : number ∈ state.runningCalls)
      (same : SameRequests (settleOutcome state number outcome) next)
  | timedOut (number : Nat) (id : String) (pending : state.timeouts.get number = some id)
      (fired : next = fireTimeout state number id)
  | cleared (same : SameRequests (clearQueue state) next)

/-- Every step has one of these effects, by cases on the action. -/
theorem queueStep_requestEffect {state next : QueueState τ} {action : QueueAction τ}
    (taken : queueStep state action = some next)
    : RequestEffect state action next := by
  cases action with
  | clock now =>
      obtain rfl := Option.some.inj taken
      exact .same ⟨rfl, rfl, rfl, rfl, rfl, rfl⟩
  | execute id =>
      simp only [queueStep, Option.ite_none_right_eq_some, Option.some.injEq] at taken
      obtain ⟨_, rfl⟩ := taken
      exact .submitted id rfl (sameRequests_processQueue (submitRequest state id))
  | clearQueue =>
      simp only [queueStep, Option.ite_none_right_eq_some, Option.some.injEq] at taken
      obtain ⟨_, rfl⟩ := taken
      exact .cleared ⟨rfl, rfl, rfl, rfl, rfl, rfl⟩
  | destroy =>
      simp only [queueStep, Option.ite_none_right_eq_some, Option.some.injEq] at taken
      obtain ⟨_, rfl⟩ := taken
      exact .cleared ⟨rfl, rfl, rfl, rfl, rfl, rfl⟩
  | getQueueStatus =>
      simp only [queueStep, Option.ite_none_right_eq_some, Option.some.injEq] at taken
      obtain ⟨_, rfl⟩ := taken
      unfold getQueueStatus
      split
      · exact .same (sameRequests_isThrottled state)
      · exact .same ⟨rfl, rfl, rfl, rfl, rfl, rfl⟩
  | updateConfig config =>
      simp only [queueStep, Option.ite_none_right_eq_some, Option.some.injEq] at taken
      obtain ⟨_, rfl⟩ := taken
      exact .same ⟨rfl, rfl, rfl, rfl, rfl, rfl⟩
  | advance =>
      simp only [queueStep] at taken
      split at taken
      · rename_i callers request others running queued
        split at taken
        · exact .called request others queued (Option.some.inj taken).symm
        · obtain rfl := Option.some.inj taken
          exact .same ⟨rfl, rfl, rfl, rfl, rfl, rfl⟩
      · obtain rfl := Option.some.inj taken
        exact .same ⟨rfl, rfl, rfl, rfl, rfl, rfl⟩
      · cases taken
  | returns =>
      simp only [queueStep] at taken
      split at taken
      · obtain rfl := Option.some.inj taken
        exact .same ⟨rfl, rfl, rfl, rfl, rfl, rfl⟩
      · cases taken
  | throws error =>
      simp only [queueStep] at taken
      split at taken
      · rename_i number callers running
        obtain rfl := Option.some.inj taken
        refine .finished number (.error error) ?_ ?_
        · simp [QueueState.runningCalls, running, Frame.call]
        · exact sameRequests_settleOutcome state callers state.awaiting number (.error error)
      · cases taken
  | completes number outcome =>
      simp only [queueStep, Option.ite_none_right_eq_some, Option.some.injEq] at taken
      obtain ⟨⟨_, isAwaited⟩, rfl⟩ := taken
      refine .finished number outcome (List.mem_append_right _ isAwaited) ?_
      exact sameRequests_settleOutcome state state.stack _ number outcome
  | queueTimeout number =>
      simp only [queueStep] at taken
      split at taken
      · rename_i id idle pending
        exact .timedOut number id pending (Option.some.inj taken).symm
      · cases taken
  | throttleTimer =>
      simp only [queueStep, Option.ite_none_right_eq_some, Option.some.injEq] at taken
      obtain ⟨_, rfl⟩ := taken
      have unset : SameRequests state { state with throttleTimer := false } :=
        ⟨rfl, rfl, rfl, rfl, rfl, rfl⟩
      exact .same (unset.trans (sameRequests_processQueue _))

@[simp]
theorem settle_queue (state : QueueState τ) (number : Nat) (settlement : Settlement τ)
    : (state.settle number settlement).queue = state.queue := by
  unfold QueueState.settle
  split <;> rfl

@[simp]
theorem settle_timeouts (state : QueueState τ) (number : Nat) (settlement : Settlement τ)
    : (state.settle number settlement).timeouts = state.timeouts := by
  unfold QueueState.settle
  split <;> rfl

/-- Settling a promise is final, and concerns no other promise. -/
@[simp]
theorem settle_settled (state : QueueState τ) (number other : Nat) (settlement : Settlement τ)
    : (state.settle number settlement).settled.get other
      = (state.settled.get other).or (if other = number then some settlement else none) := by
  unfold QueueState.settle
  cases found : state.settled.get number with
  | none =>
      by_cases same : other = number
      · simp [same, found]
      · simp [same]
  | some earlier =>
      by_cases same : other = number
      · simp [same, found]
      · simp [same]

@[simp]
theorem clearTimeout_queue (state : QueueState τ) (request : QueuedRequest)
    : (state.clearTimeout request).queue = state.queue := by
  unfold QueueState.clearTimeout
  split <;> rfl

@[simp]
theorem clearTimeout_settled (state : QueueState τ) (request : QueuedRequest)
    : (state.clearTimeout request).settled = state.settled := by
  unfold QueueState.clearTimeout
  split <;> rfl

/-- Only a timer that was set is cleared. -/
@[simp]
theorem clearTimeout_timeouts (state : QueueState τ) (request : QueuedRequest) (number : Nat)
    : (state.clearTimeout request).timeouts.get number
      = if request.hasTimeout = true ∧ number = request.number then none
        else state.timeouts.get number := by
  unfold QueueState.clearTimeout
  cases request.hasTimeout <;> simp

/-- Cancelling requests settles those promises that were not settled before, by induction on the
requests.
-/
theorem cancelRequests_settled (requests : List QueuedRequest) (state : QueueState τ) (number : Nat)
    : (requests.foldl cancelRequest state).settled.get number
      = (state.settled.get number).or
          (if number ∈ requests.map QueuedRequest.number then some .cancelled else none) := by
  induction requests generalizing state with
  | nil => simp
  | cons request rest ih =>
      rw [List.foldl_cons, ih]
      by_cases own : number = request.number
      · subst own
        cases found : state.settled.get request.number with
        | none => simp [cancelRequest, found]
        | some earlier => simp [cancelRequest, found]
      · simp [cancelRequest, own]

/-- Cancelling requests leaves only timers that belong to none of them, by induction on the
requests.
-/
theorem cancelRequests_timeouts {requests : List QueuedRequest} {state : QueueState τ}
    {number : Nat} {id : String}
    (pending : (requests.foldl cancelRequest state).timeouts.get number = some id)
    : state.timeouts.get number = some id
      ∧ ∀ request ∈ requests, request.hasTimeout = true → request.number ≠ number := by
  induction requests generalizing state with
  | nil => exact ⟨pending, fun _ member => (List.not_mem_nil member).elim⟩
  | cons request rest ih =>
      obtain ⟨before, others⟩ := ih pending
      simp only [cancelRequest, settle_timeouts, clearTimeout_timeouts] at before
      split at before
      · cases before
      · rename_i notOwn
        refine ⟨before, fun other member timed => ?_⟩
        rcases List.mem_cons.mp member with rfl | later
        · exact fun same => notOwn ⟨timed, same.symm⟩
        · exact others other later timed

/-- What holds besides the accounting in every run whose waiting requests have distinct ids:
timers belong to requests that wait, and promises are settled according to where their request
is.
-/
structure Orderly (state : QueueState τ) : Prop where
  inOrder
    : (state.calls.reverse ++ state.queue.map QueuedRequest.number).Pairwise (· < ·)
  distinctIds : (state.queue.map QueuedRequest.id).Nodup
  timersOfQueued
    : ∀ number id,
        state.timeouts.get number = some id
        → ∃ request ∈ state.queue,
            request.number = number ∧ request.id = id ∧ request.hasTimeout = true
  queuedUnsettled
    : ∀ number ∈ state.queue.map QueuedRequest.number, state.settled.get number = none
  called
    : ∀ number ∈ state.calls,
        state.settled.get number = (state.outcomes.get number).map Settlement.own
  ownOfCalled
    : ∀ number settlement,
        state.settled.get number = some settlement
        → number < state.nextNumber ∧ (settlement.isOwn = true → number ∈ state.calls)
  noneLost
    : ∀ number < state.nextNumber,
        number ∈ state.queue.map QueuedRequest.number
        ∨ number ∈ state.calls
        ∨ ∃ settlement, state.settled.get number = some settlement

/-- The requests stay orderly when they are left alone. -/
theorem Orderly.same {state next : QueueState τ} (orderly : Orderly state)
    (same : SameRequests state next)
    : Orderly next := by
  obtain ⟨nextNumber, queue, timeouts, calls, outcomes, settled⟩ := same
  constructor
  case inOrder => rw [calls, queue]; exact orderly.inOrder
  case distinctIds => rw [queue]; exact orderly.distinctIds
  case timersOfQueued => rw [timeouts, queue]; exact orderly.timersOfQueued
  case queuedUnsettled => rw [queue, settled]; exact orderly.queuedUnsettled
  case called => rw [calls, settled, outcomes]; exact orderly.called
  case ownOfCalled => rw [settled, nextNumber, calls]; exact orderly.ownOfCalled
  case noneLost => rw [nextNumber, queue, calls, settled]; exact orderly.noneLost

/-- A submitted request waits behind all others. -/
theorem Orderly.submitted {state : QueueState τ} (orderly : Orderly state)
    (accounted : Accounted state) {id : String}
    (newId : id ∉ state.queue.map QueuedRequest.id)
    : Orderly (submitRequest state id) := by
  have older : ∀ number ∈ state.calls.reverse ++ state.queue.map QueuedRequest.number,
      number < state.nextNumber := by
    intro number member
    apply accounted.submitted number
    rcases List.mem_append.mp member with called | queued
    · exact List.mem_append_right _ (List.mem_reverse.mp called)
    · exact List.mem_append_left _ queued
  constructor
  case inOrder =>
    simp only [submitRequest, List.map_append, List.map_singleton, ← List.append_assoc]
    rw [List.pairwise_append]
    refine ⟨orderly.inOrder, List.pairwise_singleton _ _, fun number member other isNew => ?_⟩
    rw [List.mem_singleton.mp isNew]
    exact older number member
  case distinctIds =>
    simp only [submitRequest, List.map_append, List.map_singleton]
    rw [← List.concat_eq_append]
    exact orderly.distinctIds.concat newId
  case timersOfQueued =>
    intro number other pending
    simp only [submitRequest] at pending ⊢
    split at pending
    · rename_i timed
      by_cases own : number = state.nextNumber
      · have sameId : id = other := by simpa [own] using pending
        exact ⟨_, List.mem_append_right _ List.mem_cons_self, own.symm, sameId, timed⟩
      · obtain ⟨request, member, described⟩ :=
          orderly.timersOfQueued number other (by simpa [own] using pending)
        exact ⟨request, List.mem_append_left _ member, described⟩
    · obtain ⟨request, member, described⟩ := orderly.timersOfQueued number other pending
      exact ⟨request, List.mem_append_left _ member, described⟩
  case queuedUnsettled =>
    intro number member
    simp only [submitRequest, List.map_append, List.map_singleton] at member
    rcases List.mem_append.mp member with older | isNew
    · exact orderly.queuedUnsettled number older
    · rw [List.mem_singleton.mp isNew]
      cases found : state.settled.get state.nextNumber with
      | none => exact found
      | some settlement =>
          have known := (orderly.ownOfCalled state.nextNumber settlement found).1
          exact absurd known (Nat.lt_irrefl _)
  case called => exact orderly.called
  case ownOfCalled =>
    intro number settlement found
    obtain ⟨known, own⟩ := orderly.ownOfCalled number settlement found
    exact ⟨Nat.lt_succ_of_lt known, own⟩
  case noneLost =>
    intro number known
    simp only [submitRequest, List.map_append, List.map_singleton, List.mem_append,
      List.mem_singleton]
    rcases Nat.lt_succ_iff_lt_or_eq.mp known with older | isNew
    · rcases orderly.noneLost number older with queued | called | settled
      · exact .inl (.inl queued)
      · exact .inr (.inl called)
      · exact .inr (.inr settled)
    · exact .inl (.inr isNew)

/-- The first request that waits is the next one called, without a timer from then on. -/
theorem Orderly.started {state : QueueState τ} (orderly : Orderly state)
    (accounted : Accounted state) {request : QueuedRequest} {others : List QueuedRequest}
    (queued : state.queue = request :: others)
    : Orderly (startRequest state request others) := by
  have ordered := orderly.inOrder
  rw [queued, List.map_cons] at ordered
  have unsettled : state.settled.get request.number = none :=
    orderly.queuedUnsettled request.number (by simp [queued])
  have noOutcome : state.outcomes.get request.number = none := by
    cases found : state.outcomes.get request.number with
    | none => rfl
    | some outcome =>
        have called := accounted.outcomeOfCall request.number outcome found
        have distinct := (List.pairwise_append.mp ordered).2.2
        have smaller := distinct _ (List.mem_reverse.mpr called) _ List.mem_cons_self
        exact absurd smaller (Nat.lt_irrefl _)
  have settled : (startRequest state request others).settled = state.settled := by
    simp [startRequest]
  constructor
  case inOrder =>
    simp only [startRequest, clearTimeout_queue, List.reverse_cons, List.append_assoc]
    exact ordered
  case distinctIds =>
    have distinctIds := orderly.distinctIds
    rw [queued, List.map_cons] at distinctIds
    simp only [startRequest, clearTimeout_queue]
    exact (List.nodup_cons.mp distinctIds).2
  case timersOfQueued =>
    intro number id pending
    simp only [startRequest, clearTimeout_timeouts, clearTimeout_queue] at pending ⊢
    split at pending
    · cases pending
    · rename_i notOwn
      obtain ⟨timed, member, isNumber, isId, hasTimeout⟩ :=
        orderly.timersOfQueued number id pending
      rw [queued] at member
      rcases List.mem_cons.mp member with rfl | later
      · exact absurd ⟨hasTimeout, isNumber.symm⟩ notOwn
      · exact ⟨timed, later, isNumber, isId, hasTimeout⟩
  case queuedUnsettled =>
    intro number member
    rw [settled]
    apply orderly.queuedUnsettled number
    simp only [startRequest, clearTimeout_queue] at member
    rw [queued]
    exact List.mem_cons_of_mem _ member
  case called =>
    intro number member
    rw [settled]
    have outcomes : (startRequest state request others).outcomes = state.outcomes :=
      (untouched_clearTimeout { state with queue := others } request).outcomes
    rw [outcomes]
    rcases List.mem_cons.mp member with rfl | earlier
    · rw [unsettled, noOutcome]
      rfl
    · exact orderly.called number earlier
  case ownOfCalled =>
    intro number settlement found
    rw [settled] at found
    have nextNumber : (startRequest state request others).nextNumber = state.nextNumber :=
      (untouched_clearTimeout { state with queue := others } request).nextNumber
    obtain ⟨known, own⟩ := orderly.ownOfCalled number settlement found
    exact ⟨nextNumber ▸ known, fun isOwn => List.mem_cons_of_mem _ (own isOwn)⟩
  case noneLost =>
    intro number known
    have nextNumber : (startRequest state request others).nextNumber = state.nextNumber :=
      (untouched_clearTimeout { state with queue := others } request).nextNumber
    rw [nextNumber] at known
    have before := orderly.noneLost number known
    rw [queued, List.map_cons, List.mem_cons] at before
    simp only [startRequest, clearTimeout_queue, clearTimeout_settled, List.mem_cons]
    rcases before with (isFirst | later) | called | settled
    · exact .inr (.inl (.inl isFirst))
    · exact .inl later
    · exact .inr (.inl (.inr called))
    · exact .inr (.inr settled)

/-- A function whose outcome has not been known so far settles the promise of its caller. -/
theorem Orderly.finished {state : QueueState τ} (orderly : Orderly state)
    (accounted : Accounted state) {number : Nat} (wasRunning : number ∈ state.runningCalls)
    (outcome : Except Thrown τ)
    : Orderly (settleOutcome state number outcome) := by
  have untouched :=
    untouched_settle { state with outcomes := state.outcomes.set number outcome } number
      (.own outcome)
  have isUnsettled := accounted.running.mem_iff.mpr wasRunning
  obtain ⟨isCalled, noOutcome⟩ : number ∈ state.calls ∧ state.outcomes.get number = none := by
    simpa [QueueState.unsettledCalls] using isUnsettled
  have unsettled : state.settled.get number = none := by
    rw [orderly.called number isCalled, noOutcome]
    rfl
  have calls : (settleOutcome state number outcome).calls = state.calls := untouched.calls
  have settled (other : Nat)
      : (settleOutcome state number outcome).settled.get other
        = if other = number then some (.own outcome) else state.settled.get other := by
    rw [settleOutcome, settle_settled]
    by_cases own : other = number
    · simp [own, unsettled]
    · simp [own]
  constructor
  case inOrder =>
    rw [calls, settleOutcome, settle_queue]
    exact orderly.inOrder
  case distinctIds =>
    rw [settleOutcome, settle_queue]
    exact orderly.distinctIds
  case timersOfQueued =>
    rw [settleOutcome, settle_timeouts, settle_queue]
    exact orderly.timersOfQueued
  case queuedUnsettled =>
    intro other member
    rw [settleOutcome, settle_queue] at member
    have before := orderly.queuedUnsettled other member
    have notOwn : other ≠ number := by
      intro own
      have distinct := (List.nodup_append.mp accounted.distinct).2.2
      exact distinct other member number isCalled own
    rw [settled, if_neg notOwn]
    exact before
  case called =>
    intro other member
    have outcomes : (settleOutcome state number outcome).outcomes
        = state.outcomes.set number outcome := untouched.outcomes
    rw [calls] at member
    rw [settled, outcomes, InsertionMap.get_set]
    by_cases own : other = number
    · simp [own]
    · simp only [own, if_false]
      exact orderly.called other member
  case ownOfCalled =>
    intro other settlement found
    have nextNumber : (settleOutcome state number outcome).nextNumber = state.nextNumber :=
      untouched.nextNumber
    rw [nextNumber, calls]
    rw [settled] at found
    by_cases own : other = number
    · subst own
      exact ⟨accounted.submitted other (List.mem_append_right _ isCalled), fun _ => isCalled⟩
    · rw [if_neg own] at found
      exact orderly.ownOfCalled other settlement found
  case noneLost =>
    intro other known
    have nextNumber : (settleOutcome state number outcome).nextNumber = state.nextNumber :=
      untouched.nextNumber
    rw [nextNumber] at known
    rw [calls, settleOutcome, settle_queue]
    rcases orderly.noneLost other known with queued | called | ⟨settlement, before⟩
    · exact .inl queued
    · exact .inr (.inl called)
    · refine .inr (.inr ?_)
      rw [settle_settled]
      exact ⟨settlement, by simp [before]⟩

/-- Among requests with distinct ids, the one with the given id is removed. -/
theorem removeFromQueue_of_split {state : QueueState τ} {front back : List QueuedRequest}
    {request : QueuedRequest} (queued : state.queue = front ++ request :: back)
    (distinctIds : (state.queue.map QueuedRequest.id).Nodup)
    : removeFromQueue state request.id
      = { state with queue := front ++ back }.clearTimeout request := by
  have noneBefore : ∀ other ∈ front, ¬ other.id = request.id := by
    intro other member same
    rw [queued, List.map_append, List.map_cons] at distinctIds
    have apart := (List.nodup_append.mp distinctIds).2.2
    exact apart other.id (List.mem_map_of_mem member) request.id List.mem_cons_self same
  have found : state.queue.find? (fun other => other.id = request.id) = some request := by
    rw [queued, List.find?_append, List.find?_eq_none.mpr (by simpa using noneBefore)]
    simp
  have erased : state.queue.eraseP (fun other => other.id = request.id) = front ++ back := by
    rw [queued, List.eraseP_append_right _ (by simpa using noneBefore)]
    simp
  simp only [removeFromQueue, found, erased]

/-- (Refuses state next) requires requests to leave the queue only with their timer, and with
their promise settled by a refusal; calls stay as they are.
-/
structure Refuses (state next : QueueState τ) : Prop where
  untouched : Untouched state next
  queue : next.queue.Sublist state.queue
  timers
    : ∀ number id,
        next.timeouts.get number = some id
        → state.timeouts.get number = some id ∧ number ∈ next.queue.map QueuedRequest.number
  settled
    : ∀ number,
        number ∈ state.queue.map QueuedRequest.number
            ∧ number ∉ next.queue.map QueuedRequest.number
            ∧ (∃ settlement,
                next.settled.get number = some settlement ∧ settlement.isOwn = false)
          ∨ (number ∈ state.queue.map QueuedRequest.number
              → number ∈ next.queue.map QueuedRequest.number)
            ∧ next.settled.get number = state.settled.get number

/-- Requests that are refused leave the others orderly. -/
theorem Orderly.refused {state next : QueueState τ} (orderly : Orderly state)
    (accounted : Accounted state) (refuses : Refuses state next)
    : Orderly next := by
  have calls := refuses.untouched.calls
  have nextNumber := refuses.untouched.nextNumber
  constructor
  case inOrder =>
    rw [calls]
    exact orderly.inOrder.sublist ((List.Sublist.refl _).append (refuses.queue.map _))
  case distinctIds => exact orderly.distinctIds.sublist (refuses.queue.map _)
  case timersOfQueued =>
    intro number id pending
    obtain ⟨before, stillQueued⟩ := refuses.timers number id pending
    obtain ⟨request, member, isNumber, described⟩ := orderly.timersOfQueued number id before
    obtain ⟨other, otherMember, same⟩ := List.mem_map.mp stillQueued
    -- Numbers are distinct, so the request that still waits is the one of the timer.
    have distinct := (List.nodup_append.mp accounted.distinct).1
    have isSame := List.inj_on_of_nodup_map distinct (refuses.queue.subset otherMember) member
      (same.trans isNumber.symm)
    exact ⟨request, isSame ▸ otherMember, isNumber, described⟩
  case queuedUnsettled =>
    intro number member
    rcases refuses.settled number with ⟨_, gone, _⟩ | ⟨_, same⟩
    · exact absurd member gone
    · rw [same]
      exact orderly.queuedUnsettled number ((refuses.queue.map _).subset member)
  case called =>
    intro number member
    rw [calls] at member
    rw [refuses.untouched.outcomes]
    rcases refuses.settled number with ⟨queued, _⟩ | ⟨_, same⟩
    · have distinct := (List.nodup_append.mp accounted.distinct).2.2
      exact absurd rfl (distinct number queued number member)
    · rw [same]
      exact orderly.called number member
  case ownOfCalled =>
    intro number settlement found
    rw [nextNumber, calls]
    rcases refuses.settled number with ⟨queued, _, refusal, isRefusal, notOwn⟩ | ⟨_, same⟩
    · obtain rfl := Option.some.inj (isRefusal.symm.trans found)
      refine ⟨accounted.submitted number (List.mem_append_left _ queued), fun isOwn => ?_⟩
      cases notOwn.symm.trans isOwn
    · exact orderly.ownOfCalled number settlement (same.symm.trans found)
  case noneLost =>
    intro number known
    rw [nextNumber] at known
    rw [calls]
    rcases refuses.settled number with ⟨_, _, settlement, isRefusal, _⟩ | ⟨stays, same⟩
    · exact .inr (.inr ⟨settlement, isRefusal⟩)
    · rw [same]
      exact (orderly.noneLost number known).imp_left stays

/-- A request whose timer fires is refused, and no other. -/
theorem Orderly.fireTimeout_refuses {state : QueueState τ} (orderly : Orderly state)
    (accounted : Accounted state) {number : Nat} {id : String}
    (pending : state.timeouts.get number = some id)
    : Refuses state (fireTimeout state number id) := by
  obtain ⟨request, member, rfl, rfl, hasTimeout⟩ := orderly.timersOfQueued number id pending
  obtain ⟨front, back, queued⟩ := List.append_of_mem member
  let fired := { state with timeouts := state.timeouts.delete request.number }
  have removed : removeFromQueue fired request.id
      = { fired with queue := front ++ back }.clearTimeout request :=
    removeFromQueue_of_split queued orderly.distinctIds
  have queue : (fireTimeout state request.number request.id).queue = front ++ back := by
    rw [fireTimeout, settle_queue]
    exact congrArg QueueState.queue removed |>.trans (clearTimeout_queue _ _)
  have distinct := (List.nodup_append.mp accounted.distinct).1
  rw [queued, List.map_append, List.map_cons, List.nodup_middle] at distinct
  have gone : request.number ∉ (front ++ back).map QueuedRequest.number := by
    rw [List.map_append]
    exact (List.nodup_cons.mp distinct).1
  have unsettled : state.settled.get request.number = none :=
    orderly.queuedUnsettled request.number (List.mem_map_of_mem member)
  constructor
  case untouched =>
    refine Untouched.trans ?_ (untouched_settle _ _ _)
    refine Untouched.trans ?_ (untouched_removeFromQueue _ _)
    exact ⟨rfl, rfl, rfl, rfl, rfl, rfl, rfl, .refl _⟩
  case queue =>
    rw [queue, queued]
    exact (List.Sublist.refl front).append (List.sublist_cons_self request back)
  case timers =>
    intro other otherId stillPending
    rw [fireTimeout, settle_timeouts] at stillPending
    change (removeFromQueue fired request.id).timeouts.get other = some otherId at stillPending
    rw [removed, clearTimeout_timeouts] at stillPending
    split at stillPending
    · cases stillPending
    · by_cases own : other = request.number
      · simp [fired, own] at stillPending
      · have before : state.timeouts.get other = some otherId := by
          simpa [fired, own] using stillPending
        refine ⟨before, ?_⟩
        obtain ⟨timed, timedMember, rfl, _⟩ := orderly.timersOfQueued other otherId before
        rw [queue]
        rw [queued] at timedMember
        apply List.mem_map_of_mem
        rcases List.mem_append.mp timedMember with inFront | inBack
        · exact List.mem_append_left _ inFront
        · rcases List.mem_cons.mp inBack with rfl | later
          · exact absurd rfl own
          · exact List.mem_append_right _ later
  case settled =>
    intro other
    have settled : (fireTimeout state request.number request.id).settled.get other
        = (state.settled.get other).or
            (if other = request.number then some (.timedOut state.config.queueTimeout)
              else none) := by
      rw [fireTimeout, settle_settled]
      change ((removeFromQueue fired request.id).settled.get other).or _ = _
      rw [removed, clearTimeout_settled]
    rw [queue, settled]
    by_cases own : other = request.number
    · subst own
      refine .inl ⟨List.mem_map_of_mem member, gone, ?_⟩
      exact ⟨_, by rw [unsettled, if_pos rfl]; rfl, rfl⟩
    · refine .inr ⟨fun isQueued => ?_, by simp [own]⟩
      rw [queued, List.map_append, List.map_cons] at isQueued
      rw [List.map_append]
      rcases List.mem_append.mp isQueued with inFront | inBack
      · exact List.mem_append_left _ inFront
      · exact List.mem_append_right _ ((List.mem_cons.mp inBack).resolve_left own)

/-- Clearing the queue refuses every request that waits. -/
theorem Orderly.clearQueue_refuses {state : QueueState τ} (orderly : Orderly state)
    : Refuses state (clearQueue state) where
  untouched := untouched_clearQueue state
  queue := List.nil_sublist _
  timers number id pending := by
    obtain ⟨before, others⟩ := cancelRequests_timeouts pending
    obtain ⟨request, member, isNumber, _, hasTimeout⟩ := orderly.timersOfQueued number id before
    exact absurd isNumber (others request member hasTimeout)
  settled number := by
    have settled := cancelRequests_settled state.queue { state with throttleTimer := false } number
    by_cases queued : number ∈ state.queue.map QueuedRequest.number
    · refine .inl ⟨queued, List.not_mem_nil, .cancelled, ?_, rfl⟩
      refine settled.trans ?_
      rw [if_pos queued, orderly.queuedUnsettled number queued]
      rfl
    · refine .inr ⟨fun isQueued => absurd isQueued queued, settled.trans ?_⟩
      rw [if_neg queued, Option.or_none]

/-- Every step keeps requests accounted for, also one that changes the configuration. -/
theorem Accounted.step {state next : QueueState τ} {action : QueueAction τ}
    (accounted : Accounted state) (taken : queueStep state action = some next)
    : Accounted next := by
  by_cases changes : ∃ config, action = .updateConfig config
  · obtain ⟨config, rfl⟩ := changes
    simp only [queueStep, Option.ite_none_right_eq_some, Option.some.injEq] at taken
    obtain ⟨_, rfl⟩ := taken
    exact ⟨accounted.distinct, accounted.submitted, accounted.outcomeOfCall, accounted.running,
      accounted.counted⟩
  · exact accounted.effect (queueStep_effect (fun config same => changes ⟨config, same⟩) taken)

/-- The action submits no request whose id one of the waiting requests has. -/
def submitsNewId (state : QueueState τ) (action : QueueAction τ) : Prop :=
  ∀ id, action.submittedId = some id → id ∉ state.queue.map QueuedRequest.id

/-- Every effect keeps the requests orderly when ids are new, by cases on the effect. -/
theorem Orderly.effect {state next : QueueState τ} {action : QueueAction τ}
    (orderly : Orderly state) (accounted : Accounted state) (new : submitsNewId state action)
    (effect : RequestEffect state action next)
    : Orderly next := by
  cases effect with
  | same same => exact orderly.same same
  | submitted id executed same =>
      subst executed
      exact (orderly.submitted accounted (new id rfl)).same same
  | called request others queued started => exact started ▸ orderly.started accounted queued
  | finished number outcome wasRunning same =>
      exact (orderly.finished accounted wasRunning outcome).same same
  | timedOut number id pending fired =>
      rw [fired]
      exact orderly.refused accounted (orderly.fireTimeout_refuses accounted pending)
  | cleared same => exact (orderly.refused accounted orderly.clearQueue_refuses).same same

/-- A promise that is settled stays settled in the same way, by cases on the effect. -/
theorem RequestEffect.keepsSettled {state next : QueueState τ} {action : QueueAction τ}
    (effect : RequestEffect state action next) {number : Nat} {settlement : Settlement τ}
    (found : state.settled.get number = some settlement)
    : next.settled.get number = some settlement := by
  cases effect with
  | same same => exact same.settled ▸ found
  | submitted id executed same => exact same.settled ▸ found
  | called request others queued started =>
      rw [started, startRequest, clearTimeout_settled]
      exact found
  | finished other outcome wasRunning same =>
      rw [same.settled, settleOutcome, settle_settled, found]
      rfl
  | timedOut other id pending fired =>
      rw [fired, fireTimeout, settle_settled, removeFromQueue]
      split
      · rw [clearTimeout_settled, found]
        rfl
      · rw [found]
        rfl
  | cleared same =>
      rw [same.settled]
      have settled :=
        cancelRequests_settled state.queue { state with throttleTimer := false } number
      rw [found] at settled
      exact settled

/-- The ids that wait after a step waited before, apart from one that was submitted. -/
theorem RequestEffect.ids_subset {state next : QueueState τ} {action : QueueAction τ}
    (effect : RequestEffect state action next)
    : next.queue.map QueuedRequest.id
      ⊆ state.queue.map QueuedRequest.id ++ action.submittedId.toList := by
  cases effect with
  | same same =>
      rw [same.queue]
      exact List.subset_append_left _ _
  | submitted id executed same =>
      rw [same.queue, executed]
      simp [submitRequest, QueueAction.submittedId]
  | called request others queued started =>
      rw [started, startRequest, clearTimeout_queue, queued]
      exact List.Subset.trans (List.subset_cons_self _ _) (List.subset_append_left _ _)
  | finished number outcome wasRunning same =>
      rw [same.queue, settleOutcome, settle_queue]
      exact List.subset_append_left _ _
  | timedOut number id pending fired =>
      rw [fired, fireTimeout, settle_queue, removeFromQueue]
      split
      · rw [clearTimeout_queue]
        exact List.Subset.trans (List.eraseP_sublist.map _).subset (List.subset_append_left _ _)
      · exact List.subset_append_left _ _
  | cleared same =>
      rw [same.queue]
      exact List.nil_subset _

/-- Ids that are distinct over a run are new at each of its steps, by induction on the run. -/
theorem stepsSatisfy_submitsNewId (actions : List (QueueAction τ)) (state : QueueState τ)
    (distinct : (actions.filterMap QueueAction.submittedId).Nodup)
    (unused
      : ∀ id ∈ actions.filterMap QueueAction.submittedId, id ∉ state.queue.map QueuedRequest.id)
    : stepsSatisfy queueStep submitsNewId state actions := by
  induction actions generalizing state with
  | nil => trivial
  | cons action rest ih =>
      cases submitted : action.submittedId with
      | none =>
          rw [List.filterMap_cons_none submitted] at distinct unused
          refine ⟨fun id same => (nomatch submitted.symm.trans same), fun next taken => ?_⟩
          refine ih next distinct fun id member stillWaits => ?_
          have before := (queueStep_requestEffect taken).ids_subset stillWaits
          rw [submitted] at before
          exact unused id member (by simpa using before)
      | some own =>
          rw [List.filterMap_cons_some submitted] at distinct unused
          obtain ⟨notAgain, othersDistinct⟩ := List.nodup_cons.mp distinct
          refine ⟨fun id same => ?_, fun next taken => ?_⟩
          · obtain rfl := Option.some.inj (submitted.symm.trans same)
            exact unused own List.mem_cons_self
          · refine ih next othersDistinct fun id member stillWaits => ?_
            have before := (queueStep_requestEffect taken).ids_subset stillWaits
            rw [submitted] at before
            rcases List.mem_append.mp before with older | isOwn
            · exact unused id (List.mem_cons_of_mem _ member) older
            · exact notAgain ((List.mem_singleton.mp isOwn) ▸ member)

/-- A new queue is orderly. -/
theorem orderly_initial (config : ConcurrencyConfig) (now : Int)
    : Orderly (.initial config now : QueueState τ) where
  inOrder := .nil
  distinctIds := .nil
  timersOfQueued := fun _ _ pending => nomatch pending
  queuedUnsettled := fun _ member => (List.not_mem_nil member).elim
  called := fun _ member => (List.not_mem_nil member).elim
  ownOfCalled := fun _ _ found => nomatch found
  noneLost := fun _ known => (Nat.not_lt_zero _ known).elim

/-- Requests settle once when they are orderly and accounted for. -/
theorem Orderly.settlesOnce {state : QueueState τ} (orderly : Orderly state)
    (accounted : Accounted state)
    : SettlesOnce state where
  calledOnce := (List.nodup_append.mp accounted.distinct).2.1
  inOrder := orderly.inOrder
  own_iff number outcome := by
    constructor
    · intro found
      have isCalled := (orderly.ownOfCalled number _ found).2 rfl
      refine ⟨isCalled, ?_⟩
      rw [orderly.called number isCalled, Option.map_eq_some_iff] at found
      obtain ⟨known, hasOutcome, same⟩ := found
      exact Settlement.own.inj same ▸ hasOutcome
    · intro both
      rw [orderly.called number both.1, both.2]
      rfl
  refused number settlement found notOwn := by
    refine ⟨fun isCalled => ?_, fun queued => ?_⟩
    · rw [orderly.called number isCalled, Option.map_eq_some_iff] at found
      obtain ⟨outcome, _, rfl⟩ := found
      cases notOwn
    · cases (orderly.queuedUnsettled number queued).symm.trans found
  noneLost number known := by
    rcases orderly.noneLost number known with queued | called | ⟨settlement, found⟩
    · exact .inl queued
    · exact .inr (.inl called)
    · cases isOwn : settlement.isOwn with
      | true => exact .inr (.inl ((orderly.ownOfCalled number settlement found).2 isOwn))
      | false => exact .inr (.inr ⟨settlement, found, isOwn⟩)

/-- In every run whose requests have distinct ids, requests settle once at any time. Whatever a
promise is settled with stays, and a function whose promise was refused is never called later.
-/
theorem requests_settleOnce (config : ConcurrencyConfig) (now : Int)
    (actions later : List (QueueAction τ)) (state final : QueueState τ)
    (distinctIds : ((actions ++ later).filterMap QueueAction.submittedId).Nodup)
    (reached : run queueStep (.initial config now) actions = some state)
    (continued : run queueStep state later = some final)
    : SettlesOnce state
      ∧ ∀ number settlement,
          state.settled.get number = some settlement
          → final.settled.get number = some settlement
            ∧ (settlement.isOwn = false → number ∉ final.calls) := by
  have preserved
      : ∀ (state : QueueState τ) action next,
          submitsNewId state action
          → queueStep state action = some next
          → Accounted state ∧ Orderly state
          → Accounted next ∧ Orderly next := by
    intro state action next new taken both
    have effect := queueStep_requestEffect taken
    exact ⟨both.1.step taken, both.2.effect both.1 new effect⟩
  have accounted : Accounted (.initial config now : QueueState τ) :=
    (limited_initial config now).accounted
  have orderly : Orderly (.initial config now : QueueState τ) := orderly_initial config now
  have settlesOnce {steps : List (QueueAction τ)} {last : QueueState τ}
      (distinct : (steps.filterMap QueueAction.submittedId).Nodup)
      (reached : run queueStep (.initial config now) steps = some last)
      : SettlesOnce last := by
    have new := stepsSatisfy_submitsNewId steps (.initial config now) distinct
      fun _ _ => List.not_mem_nil
    have both := run_preserves_of_stepsSatisfy preserved ⟨accounted, orderly⟩ new reached
    exact both.2.settlesOnce both.1
  have whole : run queueStep (.initial config now) (actions ++ later) = some final := by
    rw [run_append, reached]
    exact continued
  have settlesFinally := settlesOnce distinctIds whole
  rw [List.filterMap_append] at distinctIds
  refine ⟨settlesOnce (List.nodup_append.mp distinctIds).1 reached,
    fun number settlement found => ?_⟩
  have stays : final.settled.get number = some settlement :=
    run_preserves (fun _ _ _ taken => (queueStep_requestEffect taken).keepsSettled) found continued
  exact ⟨stays, fun notOwn => (settlesFinally.refused number settlement stays notOwn).1⟩

/-- One request runs while two wait, of which the first times out in the queue. -/
def timesOutInQueue : List (QueueAction Unit) :=
  [
    .execute "a", .advance, .returns, .advance,
    .execute "b", .advance,
    .execute "c", .advance,
    .queueTimeout 1
  ]

/-- After the timeout the others are finished. -/
def goesOn : List (QueueAction Unit) :=
  [.completes 0 (.ok ()), .advance, .returns, .advance, .completes 2 (.ok ()), .advance]

/-- The request that timed out is passed over, and its promise stays rejected. -/
theorem requests_settleOnce_timeout
    : ∃ state final : QueueState Unit,
        run queueStep (.initial { maxConcurrentRequests := .finite 1 } 0) timesOutInQueue
          = some state
        ∧ run queueStep state goesOn = some final
        ∧ final.calls = [2, 0]
        ∧ SettlesOnce state
        ∧ ∀ number settlement,
            state.settled.get number = some settlement
            → final.settled.get number = some settlement
              ∧ (settlement.isOwn = false → number ∉ final.calls) := by
  have ids
      : (timesOutInQueue ++ goesOn).filterMap QueueAction.submittedId = ["a", "b", "c"] := rfl
  refine ⟨_, _, rfl, rfl, rfl, ?_⟩
  exact requests_settleOnce { maxConcurrentRequests := .finite 1 } 0 timesOutInQueue goesOn _ _
    (by simp [ids]) rfl rfl

end Axionvera.Queue
