import Axionvera.Queue.ActiveRequests

/-! `requestsInCurrentInterval` counts the request functions called since the window of the
throttle was last reset. It stays within the throttle rate as long as no loop of
`processQueue`, which looks at the rate only before its first turn, goes on when the rate has
been reached.
-/

namespace Axionvera.Queue

open Axionvera.Errors
open Axionvera.Foundation

variable {τ : Type}

/-- The throttle is on and its interval has passed. -/
def QueueState.windowPassed (state : QueueState τ) : Bool :=
  state.config.enableThrottling
  && state.config.throttleInterval.isAtMost (state.now - state.lastThrottleReset)

/-- The action enters `processQueue`. -/
def QueueAction.processes : QueueAction τ → Bool
  | .execute _ | .throws _ | .completes _ _ | .throttleTimer => true
  | .clock _ | .clearQueue | .destroy | .getQueueStatus | .updateConfig _ | .advance | .returns
  | .queueTimeout _ => false

/-- The action looks at the throttle at a time when this resets the window. -/
def resetsWindow (state : QueueState τ) (action : QueueAction τ) : Bool :=
  (action.processes || action matches .getQueueStatus) && state.windowPassed

/-- The action is a turn of the loop that starts a request. -/
def startsRequest (state : QueueState τ) (action : QueueAction τ) : Bool :=
  match action, state.stack, state.queue with
  | .advance, .drain :: _, _ :: _ =>
      state.config.maxConcurrentRequests.isAbove state.activeRequests
  | _, _, _ => false

/-- (SameWindow state next) requires that no function is called and the window stays as it is. -/
structure SameWindow (state next : QueueState τ) : Prop where
  calls : next.calls = state.calls
  requestsInCurrentInterval : next.requestsInCurrentInterval = state.requestsInCurrentInterval
  windowPassed : next.windowPassed = state.windowPassed

/-- A step calls at most one function, which counts unless the step resets the window. -/
structure CountsCalls (state : QueueState τ) (action : QueueAction τ) (next : QueueState τ) : Prop
    where
  calls : next.calls.length = state.calls.length + (startsRequest state action).toNat
  requestsInCurrentInterval
    : next.requestsInCurrentInterval
      = if resetsWindow state action then 0
        else state.requestsInCurrentInterval + (startsRequest state action).toNat

/-- The window is the same as itself. -/
theorem SameWindow.refl (state : QueueState τ) : SameWindow state state := ⟨rfl, rfl, rfl⟩

/-- What leaves the window alone twice leaves it alone. -/
theorem SameWindow.trans {first second third : QueueState τ} (front : SameWindow first second)
    (back : SameWindow second third)
    : SameWindow first third where
  calls := back.calls.trans front.calls
  requestsInCurrentInterval :=
    back.requestsInCurrentInterval.trans front.requestsInCurrentInterval
  windowPassed := back.windowPassed.trans front.windowPassed

/-- Settling a promise leaves the window alone. -/
theorem sameWindow_settle (state : QueueState τ) (number : Nat) (settlement : Settlement τ)
    : SameWindow state (state.settle number settlement) := by
  unfold QueueState.settle
  split
  · exact ⟨rfl, rfl, rfl⟩
  · exact .refl state

/-- Clearing the timer of a request leaves the window alone. -/
theorem sameWindow_clearTimeout (state : QueueState τ) (request : QueuedRequest)
    : SameWindow state (state.clearTimeout request) := by
  unfold QueueState.clearTimeout
  split
  · exact ⟨rfl, rfl, rfl⟩
  · exact .refl state

/-- Removing a request leaves the window alone. -/
theorem sameWindow_removeFromQueue (state : QueueState τ) (id : String)
    : SameWindow state (removeFromQueue state id) := by
  unfold removeFromQueue
  split
  · refine SameWindow.trans ?_ (sameWindow_clearTimeout _ _)
    exact ⟨rfl, rfl, rfl⟩
  · exact .refl state

/-- Cancelling requests leaves the window alone, by induction on them. -/
theorem sameWindow_cancelRequests (requests : List QueuedRequest) (state : QueueState τ)
    : SameWindow state (requests.foldl cancelRequest state) := by
  induction requests generalizing state with
  | nil => exact .refl state
  | cons request rest ih =>
      have cancelled : SameWindow state (cancelRequest state request) :=
        (sameWindow_clearTimeout state request).trans (sameWindow_settle _ _ _)
      exact cancelled.trans (ih (cancelRequest state request))

/-- Clearing the queue leaves the window alone. -/
theorem sameWindow_clearQueue (state : QueueState τ) : SameWindow state (clearQueue state) := by
  have unset : SameWindow state { state with throttleTimer := false } := ⟨rfl, rfl, rfl⟩
  refine (unset.trans (sameWindow_cancelRequests state.queue _)).trans ?_
  exact ⟨rfl, rfl, rfl⟩

/-- Looking at the throttle, when it is on, resets the window if its interval has passed. -/
theorem isThrottled_requestsInCurrentInterval {state : QueueState τ}
    (enabled : state.config.enableThrottling = true)
    : (isThrottled state).2.requestsInCurrentInterval
      = if state.windowPassed then 0 else state.requestsInCurrentInterval := by
  unfold isThrottled QueueState.windowPassed
  rw [enabled, Bool.true_and]
  split
  · rfl
  · rfl

/-- Processing the queue calls no function yet, and resets the window if its interval has
passed.
-/
theorem processQueue_requestsInCurrentInterval (state : QueueState τ)
    : (processQueue state).requestsInCurrentInterval
      = if state.windowPassed then 0 else state.requestsInCurrentInterval := by
  unfold processQueue
  split
  · rename_i enabled
    rw [← isThrottled_requestsInCurrentInterval enabled]
    dsimp only
    split
    · rfl
    · rfl
  · rename_i disabled
    simp [QueueState.windowPassed, disabled]

/-- An action that enters `processQueue` starts no request itself, and looks at the throttle. -/
theorem processes_window (state : QueueState τ) {action : QueueAction τ}
    (processes : action.processes = true)
    : startsRequest state action = false ∧ resetsWindow state action = state.windowPassed := by
  cases action <;> first | exact ⟨rfl, rfl⟩ | cases processes

/-- Where the window has been left alone before the queue is processed, only the reset counts. -/
theorem SameWindow.countsCalls {state before : QueueState τ} {action : QueueAction τ}
    (same : SameWindow state before) (processes : action.processes = true)
    : CountsCalls state action (processQueue before) := by
  obtain ⟨startsNone, resets⟩ := processes_window state processes
  constructor
  case calls =>
    rw [(untouched_processQueue before).calls, same.calls, startsNone]
    rfl
  case requestsInCurrentInterval =>
    rw [processQueue_requestsInCurrentInterval, same.windowPassed, same.requestsInCurrentInterval,
      resets, startsNone, Bool.toNat_false, Int.natCast_zero, Int.add_zero]

/-- Where the window is left alone and no function is called, nothing counts. -/
theorem SameWindow.countsNone {state next : QueueState τ} {action : QueueAction τ}
    (same : SameWindow state next) (resetsNone : resetsWindow state action = false)
    (startsNone : startsRequest state action = false)
    : CountsCalls state action next := by
  constructor
  case calls =>
    rw [same.calls, startsNone]
    rfl
  case requestsInCurrentInterval =>
    rw [same.requestsInCurrentInterval, startsNone, resetsNone]
    simp

/-- The end of a request function counts nothing. -/
theorem sameWindow_finished (state : QueueState τ) (stack : List Frame) (awaiting : List Nat)
    (number : Nat) (outcome : Except Thrown τ)
    : ∃ before : QueueState τ,
        SameWindow state before
        ∧ finishRequest { state with stack := stack, awaiting := awaiting } number outcome
          = processQueue before := by
  refine ⟨_, ?_, rfl⟩
  have settled :=
    sameWindow_settle
      { state with
        stack := stack
        awaiting := awaiting
        outcomes := state.outcomes.set number outcome }
      number (.own outcome)
  exact ⟨settled.calls, settled.requestsInCurrentInterval, settled.windowPassed⟩

/-- A turn of the loop counts the function it calls, by cases on the queue and the limit. -/
theorem advance_countsCalls {state next : QueueState τ}
    (taken : queueStep state .advance = some next)
    : CountsCalls state .advance next := by
  simp only [queueStep] at taken
  split at taken
  · rename_i callers request others running queued
    have starts : startsRequest state .advance
        = state.config.maxConcurrentRequests.isAbove state.activeRequests := by
      simp [startsRequest, running, queued]
    split at taken
    · rename_i free
      obtain rfl := Option.some.inj taken
      constructor
      case calls => simp [starts, free, startRequest]
      case requestsInCurrentInterval =>
        simp [starts, free, startRequest, resetsWindow, QueueAction.processes]
    · rename_i full
      obtain rfl := Option.some.inj taken
      refine SameWindow.countsNone ⟨rfl, rfl, rfl⟩ rfl ?_
      rw [starts]
      simpa using full
  · rename_i running queued
    obtain rfl := Option.some.inj taken
    exact SameWindow.countsNone ⟨rfl, rfl, rfl⟩ rfl (by simp [startsRequest, queued])
  · cases taken

/-- Every step counts the functions that it calls, by cases on the action. -/
theorem queueStep_countsCalls {state next : QueueState τ} {action : QueueAction τ}
    (taken : queueStep state action = some next)
    : CountsCalls state action next := by
  cases action with
  | advance => exact advance_countsCalls taken
  | clock now =>
      obtain rfl := Option.some.inj taken
      exact ⟨rfl, by simp [resetsWindow, QueueAction.processes, startsRequest]⟩
  | execute id =>
      simp only [queueStep, Option.ite_none_right_eq_some, Option.some.injEq] at taken
      obtain ⟨_, rfl⟩ := taken
      have queued : SameWindow state
          { state with
            nextNumber := state.nextNumber + 1
            timeouts :=
              if state.config.queueTimeout.isTruthy then state.timeouts.set state.nextNumber id
              else state.timeouts
            queue := state.queue
              ++ [⟨state.nextNumber, id, state.now, state.config.queueTimeout.isTruthy⟩] } :=
        ⟨rfl, rfl, rfl⟩
      exact queued.countsCalls rfl
  | clearQueue =>
      simp only [queueStep, Option.ite_none_right_eq_some, Option.some.injEq] at taken
      obtain ⟨_, rfl⟩ := taken
      exact (sameWindow_clearQueue state).countsNone rfl rfl
  | destroy =>
      simp only [queueStep, Option.ite_none_right_eq_some, Option.some.injEq] at taken
      obtain ⟨_, rfl⟩ := taken
      have cleared := sameWindow_clearQueue state
      exact SameWindow.countsNone (cleared.trans ⟨rfl, rfl, rfl⟩) rfl rfl
  | getQueueStatus =>
      simp only [queueStep, Option.ite_none_right_eq_some, Option.some.injEq] at taken
      obtain ⟨_, rfl⟩ := taken
      unfold getQueueStatus
      split
      · rename_i enabled
        refine ⟨?_, ?_⟩
        · rw [(untouched_isThrottled state).calls]
          rfl
        · rw [isThrottled_requestsInCurrentInterval enabled]
          simp [resetsWindow, startsRequest]
      · rename_i disabled
        refine (SameWindow.refl state).countsNone ?_ rfl
        simp [resetsWindow, QueueState.windowPassed, disabled]
  | updateConfig config =>
      simp only [queueStep, Option.ite_none_right_eq_some, Option.some.injEq] at taken
      obtain ⟨_, rfl⟩ := taken
      exact ⟨rfl, by simp [resetsWindow, QueueAction.processes, startsRequest]⟩
  | returns =>
      simp only [queueStep] at taken
      split at taken
      · obtain rfl := Option.some.inj taken
        exact SameWindow.countsNone ⟨rfl, rfl, rfl⟩ rfl rfl
      · cases taken
  | throws error =>
      simp only [queueStep] at taken
      split at taken
      · rename_i number callers running
        obtain rfl := Option.some.inj taken
        obtain ⟨before, same, finished⟩ :=
          sameWindow_finished state callers state.awaiting number (.error error)
        exact finished ▸ same.countsCalls rfl
      · cases taken
  | completes number outcome =>
      simp only [queueStep, Option.ite_none_right_eq_some, Option.some.injEq] at taken
      obtain ⟨_, rfl⟩ := taken
      obtain ⟨before, same, finished⟩ :=
        sameWindow_finished state state.stack (state.awaiting.erase number) number outcome
      exact finished ▸ same.countsCalls rfl
  | queueTimeout number =>
      simp only [queueStep] at taken
      split at taken
      · obtain rfl := Option.some.inj taken
        refine SameWindow.countsNone ?_ rfl rfl
        refine SameWindow.trans ?_ (sameWindow_settle _ _ _)
        refine SameWindow.trans ?_ (sameWindow_removeFromQueue _ _)
        exact ⟨rfl, rfl, rfl⟩
      · cases taken
  | throttleTimer =>
      simp only [queueStep, Option.ite_none_right_eq_some, Option.some.injEq] at taken
      obtain ⟨_, rfl⟩ := taken
      have unset : SameWindow state { state with throttleTimer := false } := ⟨rfl, rfl, rfl⟩
      exact unset.countsCalls rfl

/-- No count of the window is negative. -/
theorem requestsInCurrentInterval_nonneg {state next : QueueState τ} {action : QueueAction τ}
    (taken : queueStep state action = some next) (nonneg : 0 ≤ state.requestsInCurrentInterval)
    : 0 ≤ next.requestsInCurrentInterval := by
  rw [(queueStep_countsCalls taken).requestsInCurrentInterval]
  split
  · exact Int.le_refl 0
  · exact Int.add_nonneg nonneg (Int.natCast_nonneg _)

/-- Between resets of the window, it counts all calls: its count and the number of calls keep
their difference.
-/
theorem run_countsCalls {state final : QueueState τ} {actions : List (QueueAction τ)}
    (reached : run queueStep state actions = some final)
    (noReset
      : stepsSatisfy queueStep (fun state action => resetsWindow state action = false) state
          actions)
    : final.requestsInCurrentInterval - final.calls.length
      = state.requestsInCurrentInterval - state.calls.length := by
  let difference (state : QueueState τ) : Int :=
    state.requestsInCurrentInterval - state.calls.length
  have kept
      : ∀ (before : QueueState τ) action next,
          resetsWindow before action = false
          → queueStep before action = some next
          → difference before = difference state
          → difference next = difference state := by
    intro before action next resetsNone taken same
    have counts := queueStep_countsCalls taken
    have counted := counts.requestsInCurrentInterval
    rw [resetsNone, if_neg Bool.false_ne_true] at counted
    rw [← same]
    dsimp only [difference]
    rw [counted, counts.calls, Int.natCast_add]
    omega
  exact run_preserves_of_stepsSatisfy kept rfl noReset reached

/-- In a run of the queue, the window never counts more than the rate, and so between two
resets no more functions are called than the rate allows.
-/
structure WithinRate (rate : JsNumber) (initial : QueueState τ) (actions : List (QueueAction τ))
    : Prop where
  counted
    : ∀ front state,
        front <+: actions
        → run queueStep initial front = some state
        → rate.isAtLeast state.requestsInCurrentInterval = true
  called
    : ∀ front stretch middle state,
        front ++ stretch <+: actions
        → run queueStep initial front = some middle
        → run queueStep middle stretch = some state
        → stepsSatisfy queueStep (fun state action => resetsWindow state action = false) middle
            stretch
        → rate.isAtLeast (state.calls.length - middle.calls.length) = true

/-- A queue and whether the next turn of the loop on top of its stack is the first after the loop
has looked at the throttle.
-/
structure Watched (τ : Type) where
  queue : QueueState τ
  firstTurn : Bool

/-- A step of the queue, watching for entered loops. -/
def watchedStep (watched : Watched τ) (action : QueueAction τ) : Option (Watched τ) :=
  (queueStep watched.queue action).map fun next =>
    {
      queue := next
      firstTurn :=
        match action with
        | .clock _ => watched.firstTurn
        | _ => action.processes && !(isThrottled watched.queue).1
    }

/-- A turn of a loop that is not its first one, or any turn if the rate has a fraction, starts a
request only while this does not take the count above the rate.
-/
def goesOnWithinRate (watched : Watched τ) (action : QueueAction τ) : Prop :=
  startsRequest watched.queue action = true
  → watched.firstTurn = true ∧ watched.queue.config.throttleRate.isWhole = true
    ∨ watched.queue.config.throttleRate.isAtLeast
        (watched.queue.requestsInCurrentInterval + 1) = true

instance (watched : Watched τ) : DecidablePred (goesOnWithinRate watched) :=
  fun _ => inferInstanceAs (Decidable (_ → _ ∧ _ ∨ _))

/-- The action keeps the throttle on, at a fixed rate. -/
def keepsRate (rate : JsNumber) : QueueAction τ → Prop
  | .updateConfig config => config.enableThrottling = true ∧ config.throttleRate = rate
  | _ => True

/-- The throttle is on at the given rate, and below it when a loop makes its first turn. -/
structure Throttles (rate : JsNumber) (watched : Watched τ) : Prop where
  enabled : watched.queue.config.enableThrottling = true
  atRate : watched.queue.config.throttleRate = rate
  below
    : watched.firstTurn = true → rate.isAtMost watched.queue.requestsInCurrentInterval = false

/-- Steps that keep the rate keep the throttle on. -/
theorem queueStep_keepsRate {rate : JsNumber} {state next : QueueState τ}
    {action : QueueAction τ} (keeps : keepsRate rate action)
    (taken : queueStep state action = some next)
    (throttles : state.config.enableThrottling = true ∧ state.config.throttleRate = rate)
    : next.config.enableThrottling = true ∧ next.config.throttleRate = rate := by
  by_cases changes : ∃ config, action = .updateConfig config
  · obtain ⟨config, rfl⟩ := changes
    simp only [queueStep, Option.ite_none_right_eq_some, Option.some.injEq] at taken
    obtain ⟨_, rfl⟩ := taken
    exact keeps
  · have effect := queueStep_effect (fun config same => changes ⟨config, same⟩) taken
    exact effect.config ▸ throttles

/-- A loop is entered only while the count is below the rate. -/
theorem entered_below {rate : JsNumber} {state next : QueueState τ} {action : QueueAction τ}
    (atLeastOne : rate.isAtLeast 1 = true)
    (throttles : state.config.enableThrottling = true ∧ state.config.throttleRate = rate)
    (taken : queueStep state action = some next)
    (processes : action.processes = true) (entered : (isThrottled state).1 = false)
    : rate.isAtMost next.requestsInCurrentInterval = false := by
  obtain ⟨startsNone, resets⟩ := processes_window state processes
  rw [(queueStep_countsCalls taken).requestsInCurrentInterval, startsNone, resets]
  cases passed : state.windowPassed with
  | true => exact JsNumber.isAtMost_of_lt atLeastOne Int.zero_lt_one
  | false =>
      unfold QueueState.windowPassed at passed
      rw [throttles.1, Bool.true_and] at passed
      simpa [isThrottled, passed, throttles.2] using entered

/-- Every step keeps the throttle on and below its rate for the first turn of a loop. -/
theorem Throttles.step {rate : JsNumber} {watched next : Watched τ} {action : QueueAction τ}
    (atLeastOne : rate.isAtLeast 1 = true) (keeps : keepsRate rate action)
    (taken : watchedStep watched action = some next) (throttles : Throttles rate watched)
    : Throttles rate next := by
  obtain ⟨queue, queueTaken, rfl⟩ := Option.map_eq_some_iff.mp taken
  have config := queueStep_keepsRate keeps queueTaken ⟨throttles.enabled, throttles.atRate⟩
  refine ⟨config.1, config.2, fun first => ?_⟩
  by_cases ticks : ∃ now, action = .clock now
  · obtain ⟨now, rfl⟩ := ticks
    obtain rfl := Option.some.inj queueTaken
    exact throttles.below first
  · have entered : (action.processes && !(isThrottled watched.queue).1) = true := by
      cases action with
      | clock now => exact absurd ⟨now, rfl⟩ ticks
      | _ => exact first
    simp only [Bool.and_eq_true, Bool.not_eq_true'] at entered
    exact entered_below atLeastOne ⟨throttles.enabled, throttles.atRate⟩ queueTaken entered.1
      entered.2

/-- A step keeps the count within the rate exactly when it goes on within it. -/
theorem goesOnWithinRate_iff {rate : JsNumber} {watched next : Watched τ}
    {action : QueueAction τ} (atLeastOne : rate.isAtLeast 1 = true)
    (taken : watchedStep watched action = some next) (throttles : Throttles rate watched)
    (within : rate.isAtLeast watched.queue.requestsInCurrentInterval = true)
    : goesOnWithinRate watched action
      ↔ rate.isAtLeast next.queue.requestsInCurrentInterval = true := by
  obtain ⟨queue, queueTaken, rfl⟩ := Option.map_eq_some_iff.mp taken
  have counted := (queueStep_countsCalls queueTaken).requestsInCurrentInterval
  unfold goesOnWithinRate
  rw [throttles.atRate]
  cases starts : startsRequest watched.queue action with
  | false =>
      refine iff_of_true (fun starting => nomatch starting) ?_
      rw [starts] at counted
      dsimp only
      rw [counted]
      split
      · exact JsNumber.isAtLeast_of_le atLeastOne (by decide)
      · simpa using within
  | true =>
      have noReset : resetsWindow watched.queue action = false := by
        cases processes : action.processes with
        | true => cases (processes_window watched.queue processes).1.symm.trans starts
        | false =>
            cases action with
            | getQueueStatus => cases starts
            | _ => simp [resetsWindow, processes]
      rw [starts, noReset, if_neg Bool.false_ne_true] at counted
      change _ ↔ rate.isAtLeast queue.requestsInCurrentInterval = true
      rw [counted]
      constructor
      · intro allowed
        rcases allowed rfl with ⟨first, whole⟩ | room
        · exact JsNumber.isAtLeast_succ whole within (throttles.below first)
        · exact room
      · exact fun room _ => .inr room

/-- Counts within the rate bound the calls between resets, as a window starts with no calls. -/
theorem WithinRate.of_counted {rate : JsNumber} {initial : QueueState τ}
    {actions : List (QueueAction τ)} (nonneg : 0 ≤ initial.requestsInCurrentInterval)
    (counted
      : ∀ front state,
          front <+: actions
          → run queueStep initial front = some state
          → rate.isAtLeast state.requestsInCurrentInterval = true)
    : WithinRate rate initial actions where
  counted := counted
  called front stretch middle state isPrefix reached continued noReset := by
    have whole : run queueStep initial (front ++ stretch) = some state := by
      rw [run_append, reached]
      exact continued
    have kept
        : ∀ (state : QueueState τ) action next,
            queueStep state action = some next
            → 0 ≤ state.requestsInCurrentInterval
            → 0 ≤ next.requestsInCurrentInterval :=
      fun _ _ _ => requestsInCurrentInterval_nonneg
    have start : 0 ≤ middle.requestsInCurrentInterval := run_preserves kept nonneg reached
    have difference := run_countsCalls continued noReset
    exact JsNumber.isAtLeast_of_le (counted _ state isPrefix whole) (by omega)

/-- With the throttle on at a fixed rate of at least one, a run never exceeds the rate exactly
when no loop goes on after its first turn with the rate reached, and no turn takes a count over
a rate with a fraction. Witness: `goesOnWithinRate_iff` along the watched run.
-/
theorem withinRate_iff_goesOnWithinRate (config : ConcurrencyConfig) (now : Int)
    (actions : List (QueueAction τ)) (final : QueueState τ)
    (enabled : config.enableThrottling = true)
    (atLeastOne : config.throttleRate.isAtLeast 1 = true)
    (fixed : ∀ action ∈ actions, keepsRate config.throttleRate action)
    (reached : run queueStep (.initial config now) actions = some final)
    : WithinRate config.throttleRate (.initial config now) actions
      ↔ stepsSatisfy watchedStep goesOnWithinRate ⟨.initial config now, false⟩ actions := by
  let start : Watched τ := ⟨.initial config now, false⟩
  have projected (actions : List (QueueAction τ))
      : run queueStep (.initial config now) actions
        = (run watchedStep start actions).map Watched.queue := by
    refine run_map Watched.queue (fun watched action => ?_) start actions
    unfold watchedStep
    rw [Option.map_map]
    exact (congrFun Option.map_id _).symm
  obtain ⟨watchedFinal, watchedReached, rfl⟩ := Option.map_eq_some_iff.mp
    ((projected actions).symm.trans reached)
  have throttles : Throttles config.throttleRate start := ⟨enabled, rfl, fun first => nomatch first⟩
  have within : config.throttleRate.isAtLeast 0 = true :=
    JsNumber.isAtLeast_of_le atLeastOne (by decide)
  have exact := forall_prefix_iff_stepsSatisfy
    (fun _ _ _ keeps taken throttles _ _ =>
      Throttles.step atLeastOne keeps taken throttles)
    (fun _ _ _ _ taken throttles within =>
      goesOnWithinRate_iff atLeastOne taken throttles within)
    throttles within
    (stepsSatisfy_of_forall_mem start fun action member _ => fixed action member)
    watchedReached
  rw [← exact]
  constructor
  · intro whole front watched isPrefix walked
    exact whole.counted front watched.queue isPrefix (by rw [projected, walked]; rfl)
  · intro counted
    refine .of_counted (Int.le_refl 0) fun front state isPrefix walked => ?_
    obtain ⟨watched, watchedWalked, rfl⟩ := Option.map_eq_some_iff.mp
      ((projected front).symm.trans walked)
    exact counted front watched isPrefix watchedWalked

/-- A throttle at two requests a second, with room for five at a time. -/
def twoPerSecond : ConcurrencyConfig :=
  { maxConcurrentRequests := .finite 5, enableThrottling := true, throttleRate := .finite 2 }

/-- Five requests come at once, of which two start; the others wait until the second is over. -/
def burst : List (QueueAction Unit) :=
  [
    .execute "a", .advance, .returns, .advance, .execute "b", .advance, .returns, .advance,
    .execute "c", .execute "d", .execute "e",
    .clock 1000, .throttleTimer,
    .advance, .returns, .advance, .returns, .advance, .returns, .advance
  ]

/-- All three that have waited start in the new window. -/
theorem burst_exceedsRate
    : ∃ state,
        run queueStep (.initial twoPerSecond 0) burst = some state
        ∧ state.calls = [4, 3, 2, 1, 0]
        ∧ state.requestsInCurrentInterval = 3
        ∧ ¬ WithinRate twoPerSecond.throttleRate (.initial twoPerSecond 0) burst := by
  refine ⟨_, rfl, rfl, rfl, fun within => ?_⟩
  have counted := within.counted burst _ (List.prefix_refl burst) rfl
  cases counted

/-- If the first of them throws at once, the rate is kept so far. -/
theorem withinRate_oneByOne
    : WithinRate twoPerSecond.throttleRate (.initial twoPerSecond 0 : QueueState Unit)
        (burst.take 13 ++ [.advance, .throws (.value {})]) :=
  (withinRate_iff_goesOnWithinRate twoPerSecond 0 _ _ rfl rfl (by simp [burst, keepsRate])
    rfl).mpr (by decide)

end Axionvera.Queue
