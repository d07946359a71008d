import Axionvera.Network.ReconnectionManager

/-! One timer, no attempt that nobody has scheduled, and no more attempts than allowed, as long as
timers are set in turn: `scheduleReconnect` neither checks nor clears the timer that is set.
-/

namespace Axionvera.Network

open Axionvera.Foundation

variable {manager next : ReconnectionManager}

/-- At most one timer is set; every attempt was scheduled by the caller since the last
`markConnected`, `markDisconnected` or `reset`; and no more attempts than allowed were made since
the last successful connection or reset.
-/
structure ReconnectionSafe (manager : ReconnectionManager) : Prop where
  single : manager.timers.length ≤ 1
  scheduled : manager.unscheduled = 0
  limited : manager.made = 0 ∨ manager.maxAttempts.isAtLeast manager.made = true

/-- The next turn of the running loop sets a timer. -/
def ReconnectionManager.isSettingTimer (manager : ReconnectionManager) : Bool :=
  match manager.stack with
  | .transition frame :: _ =>
      !frame.calling && (manager.listeners.next frame.cursor).isNone && frame.connectFn.isSome
  | _ => false

/-- A timer is only set when none is, and when the caller has scheduled a reconnection since the
last `markConnected`, `markDisconnected` or `reset`. If the limit is not a whole number, it must
admit the attempt.
-/
def setsTimersInTurn (manager : ReconnectionManager) : ReconnectionAction → Prop
  | .advance =>
      manager.isSettingTimer = true
      → manager.timers = []
        ∧ manager.scheduled = true
        ∧ (manager.maxAttempts.isWhole = true
          ∨ manager.maxAttempts.isAtLeast (manager.attempts + 1) = true)
  | _ => True

instance (manager : ReconnectionManager) : DecidablePred (setsTimersInTurn manager)
  | .advance => inferInstanceAs (Decidable (_ = true → _ = [] ∧ _ = true ∧ (_ = true ∨ _ = true)))
  | .onStateChange _ | .offStateChange _ | .markConnected | .markDisconnected | .reset
  | .scheduleReconnect _ | .returns | .throws | .timer _ | .resolves _ | .rejects _ =>
      .isTrue trivial

/-- What holds while timers are set in turn: the manager knows the timer that is set, which leads to
an attempt that is scheduled and allowed, and calls of `scheduleReconnect` go on below the limit.
-/
structure TimersKnown (manager : ReconnectionManager) : Prop where
  single : manager.timers.length ≤ 1
  current : ∀ timer ∈ manager.timers, manager.timer = some timer.id
  scheduled : manager.timers ≠ [] → manager.scheduled = true
  allowed
    : manager.timers ≠ []
      → manager.maxAttempts.isAtLeast (manager.attempts + 1) = true
  pending
    : ∀ frame,
        .transition frame ∈ manager.stack
        → frame.connectFn.isSome = true
        → manager.maxAttempts.isAtMost manager.attempts = false
  made : manager.made = manager.attempts
  limited : manager.made = 0 ∨ manager.maxAttempts.isAtLeast manager.made = true
  unscheduled : manager.unscheduled = 0

/-- What holds while timers are set in turn is safe. -/
theorem TimersKnown.safe (known : TimersKnown manager) : ReconnectionSafe manager :=
  ⟨known.single, known.unscheduled, known.limited⟩

/-- The listeners, the pending attempts and the running calls do not matter, as long as calls of
`scheduleReconnect` that go on are below the limit.
-/
theorem TimersKnown.keep (known : TimersKnown manager) (listeners : LiveMap Nat Unit)
    (inFlight : List Nat) {stack : List ReconnectionFrame} {state : ConnectionState}
    (pending
      : ∀ frame,
          .transition frame ∈ stack
          → frame.connectFn.isSome = true
          → manager.maxAttempts.isAtMost manager.attempts = false)
    : TimersKnown
        { manager with
          listeners := listeners
          inFlight := inFlight
          stack := stack
          state := state } :=
  ⟨known.single, known.current, known.scheduled, known.allowed, pending, known.made,
    known.limited, known.unscheduled⟩

/-- Telling the listeners of a new state sets no timer. -/
theorem TimersKnown.transition (known : TimersKnown manager) (state : ConnectionState)
    (attempt : Option Nat) {connectFn : Option Nat}
    (below : connectFn.isSome = true → manager.maxAttempts.isAtMost manager.attempts = false)
    : TimersKnown (manager.transition state attempt connectFn) := by
  refine known.keep manager.listeners manager.inFlight fun frame running continues => ?_
  rcases List.mem_cons.mp running with same | old
  · obtain rfl := ReconnectionFrame.transition.inj same
    exact below continues
  · exact known.pending frame old continues

/-- `scheduleReconnect` goes on below the limit. -/
theorem TimersKnown.scheduleReconnect (known : TimersKnown manager) (connectFn : Nat)
    : TimersKnown (manager.scheduleReconnect connectFn) := by
  unfold ReconnectionManager.scheduleReconnect
  split
  · exact known.transition .disconnected none fun continues => by cases continues
  · rename_i below
    exact known.transition .reconnecting _ fun _ => Bool.not_eq_true _ ▸ below

/-- Clearing the known timer leaves none, and with it no obligation. -/
theorem TimersKnown.clearTimer (known : TimersKnown manager) (attempts made : Nat)
    (fewer : attempts ≤ manager.attempts) (same : made = attempts)
    : TimersKnown
        { manager with attempts := attempts, scheduled := false, made := made }.clearTimer := by
  have below {frame : TransitionFrame} (running : .transition frame ∈ manager.stack)
      (continues : frame.connectFn.isSome = true)
      : manager.maxAttempts.isAtMost attempts = false :=
    JsNumber.isAtMost_eq_false_of_le (known.pending frame running continues) (by omega)
  have limited : made = 0 ∨ manager.maxAttempts.isAtLeast made = true := by
    have atMost : (made : Int) ≤ manager.made := by
      rw [known.made, same]
      omega
    rcases known.limited with none | within
    · exact .inl (by omega)
    · exact .inr (JsNumber.isAtLeast_of_le within atMost)
  unfold ReconnectionManager.clearTimer
  dsimp only
  split
  · rename_i isNone
    have noTimers : manager.timers = [] := by
      refine List.eq_nil_iff_forall_not_mem.mpr fun timer member => ?_
      rw [known.current timer member] at isNone
      cases isNone
    exact ⟨known.single, known.current, fun set => absurd noTimers set,
      fun set => absurd noTimers set, fun _ => below, same, limited, known.unscheduled⟩
  · rename_i id isTimer
    have noTimers : manager.timers.filter (fun timer => timer.id ≠ id) = [] := by
      refine List.filter_eq_nil_iff.mpr fun timer member => ?_
      have isKnown := known.current timer member
      rw [isTimer] at isKnown
      simp [Option.some.inj isKnown]
    refine ⟨?_, ?_, fun set => absurd noTimers set, fun set => absurd noTimers set, fun _ => below,
      same, limited, known.unscheduled⟩
    · rw [noTimers]
      exact Nat.zero_le _
    · rw [noTimers]
      exact fun _ member => by cases member

/-- A timer that is set in turn is the only one, and leads to an allowed attempt. -/
theorem TimersKnown.finish {frame : TransitionFrame} {others : List ReconnectionFrame}
    (known : TimersKnown manager) (running : manager.stack = .transition frame :: others)
    (inTurn
      : frame.connectFn.isSome = true
        → manager.timers = []
          ∧ manager.scheduled = true
          ∧ (manager.maxAttempts.isWhole = true
            ∨ manager.maxAttempts.isAtLeast (manager.attempts + 1) = true))
    : TimersKnown (manager.finish frame others) := by
  have pending (other : TransitionFrame) (member : .transition other ∈ others) :=
    known.pending other (running ▸ List.mem_cons_of_mem _ member)
  unfold ReconnectionManager.finish
  cases continues : frame.connectFn with
  | none => exact known.keep manager.listeners manager.inFlight pending
  | some connectFn =>
      have continuing : frame.connectFn.isSome = true := by rw [continues]; rfl
      obtain ⟨noTimers, scheduled, limit⟩ := inTurn continuing
      have below := known.pending frame (running ▸ List.mem_cons_self) continuing
      have allowed : manager.maxAttempts.isAtLeast (manager.attempts + 1) = true := by
        rcases limit with whole | within
        · exact JsNumber.isAtLeast_succ_of_not_isAtMost whole below
        · exact within
      refine ⟨?_, ?_, fun _ => scheduled, fun _ => allowed, pending, known.made, known.limited,
        known.unscheduled⟩
      · simp [ReconnectionManager.setTimer, noTimers]
      · simp [ReconnectionManager.setTimer, noTimers]

/-- The timer that fires was the only one, and makes the attempt that it leads to. -/
theorem TimersKnown.fire {timer : ReconnectTimer} (known : TimersKnown manager)
    (quiet : manager.stack = []) (set : timer ∈ manager.timers)
    : TimersKnown (manager.fire timer) := by
  have present : manager.timers ≠ [] := List.ne_nil_of_mem set
  have noTimers : manager.timers.erase timer = [] := by
    have length := List.length_erase_of_mem set
    have single := known.single
    exact List.length_eq_zero_iff.mp (by omega)
  have scheduled := known.scheduled present
  unfold ReconnectionManager.fire
  refine ⟨?_, ?_, fun set => absurd noTimers set, fun set => absurd noTimers set, ?_, ?_, ?_, ?_⟩
  · rw [noTimers]
    exact Nat.zero_le _
  · rw [noTimers]
    exact fun _ member => by cases member
  · intro frame running
    rw [quiet] at running
    simp at running
  · exact congrArg (fun count => count + 1) known.made
  · refine .inr ?_
    rw [known.made]
    exact_mod_cast known.allowed present
  · rw [if_pos scheduled]
    exact known.unscheduled

/-- Calls that run below the top of the stack go on below the limit, whatever the top does. -/
theorem TimersKnown.pending_cons {top : ReconnectionFrame} {others : List ReconnectionFrame}
    (known : TimersKnown manager) (running : manager.stack = top :: others)
    {frame after : TransitionFrame} (isTop : top = .transition frame)
    (same : after.connectFn = frame.connectFn)
    : ∀ other,
        .transition other ∈ ReconnectionFrame.transition after :: others
        → other.connectFn.isSome = true
        → manager.maxAttempts.isAtMost manager.attempts = false := by
  intro other member continues
  rcases List.mem_cons.mp member with isAfter | below
  · obtain rfl := ReconnectionFrame.transition.inj isAfter
    exact known.pending frame (by simp [running, isTop]) (same ▸ continues)
  · exact known.pending other (running ▸ List.mem_cons_of_mem _ below) continues

/-- Every step that sets timers in turn keeps the timer known, by cases on the action. -/
theorem timersKnown_step (manager : ReconnectionManager) (action : ReconnectionAction)
    (next : ReconnectionManager) (inTurn : setsTimersInTurn manager action)
    (taken : reconnectionStep manager action = some next) (known : TimersKnown manager)
    : TimersKnown next := by
  have called {result : ReconnectionManager}
      (taken : (if manager.hostRuns then some result else none) = some next)
      : result = next := by
    split at taken
    · exact Option.some.inj taken
    · cases taken
  cases action with
  | onStateChange callback =>
      obtain rfl := called taken
      exact known.keep _ manager.inFlight known.pending
  | offStateChange callback =>
      obtain rfl := called taken
      exact known.keep _ manager.inFlight known.pending
  | markConnected =>
      obtain rfl := called taken
      exact (known.clearTimer 0 0 (Nat.zero_le _) rfl).transition .connected none
        fun continues => by cases continues
  | markDisconnected =>
      obtain rfl := called taken
      exact (known.clearTimer _ _ (Nat.le_refl _) known.made).transition .disconnected none
        fun continues => by cases continues
  | reset =>
      obtain rfl := called taken
      exact (known.clearTimer 0 0 (Nat.zero_le _) rfl).transition .disconnected none
        fun continues => by cases continues
  | scheduleReconnect connectFn =>
      obtain rfl := called taken
      have scheduled : TimersKnown { manager with scheduled := true } :=
        ⟨known.single, known.current, fun _ => rfl, known.allowed, known.pending, known.made,
          known.limited, known.unscheduled⟩
      exact scheduled.scheduleReconnect connectFn
  | advance =>
      simp only [reconnectionStep] at taken
      split at taken
      · rename_i frame others running
        split at taken
        · cases taken
        · rename_i idle
          split at taken
          · obtain rfl := Option.some.inj taken
            exact known.keep manager.listeners manager.inFlight
              (known.pending_cons running rfl rfl)
          · rename_i passed
            obtain rfl := Option.some.inj taken
            refine known.finish running fun continues => inTurn ?_
            simp [ReconnectionManager.isSettingTimer, running, idle, passed, continues]
      · cases taken
  | returns =>
      simp only [reconnectionStep] at taken
      split at taken
      · rename_i frame others running
        split at taken
        · obtain rfl := Option.some.inj taken
          exact known.keep manager.listeners manager.inFlight (known.pending_cons running rfl rfl)
        · cases taken
      · rename_i connectFn others running
        obtain rfl := Option.some.inj taken
        refine known.keep manager.listeners _ fun frame member => ?_
        exact known.pending frame (running ▸ List.mem_cons_of_mem _ member)
      · cases taken
  | throws =>
      simp only [reconnectionStep] at taken
      split at taken
      · rename_i frame others running
        split at taken
        · obtain rfl := Option.some.inj taken
          exact known.keep manager.listeners manager.inFlight (known.pending_cons running rfl rfl)
        · cases taken
      · rename_i connectFn others running
        obtain rfl := Option.some.inj taken
        refine TimersKnown.scheduleReconnect ?_ connectFn
        refine known.keep manager.listeners manager.inFlight fun frame member => ?_
        exact known.pending frame (running ▸ List.mem_cons_of_mem _ member)
      · cases taken
  | timer id =>
      simp only [reconnectionStep] at taken
      split at taken
      · rename_i timer quiet found
        obtain rfl := Option.some.inj taken
        exact known.fire quiet (List.mem_of_find?_eq_some found)
      · cases taken
  | resolves place =>
      simp only [reconnectionStep] at taken
      split at taken
      · obtain rfl := Option.some.inj taken
        exact known.keep manager.listeners _ known.pending
      · cases taken
  | rejects place =>
      simp only [reconnectionStep] at taken
      split at taken
      · rename_i connectFn quiet pending
        obtain rfl := Option.some.inj taken
        exact (known.keep manager.listeners _ known.pending).scheduleReconnect connectFn
      · cases taken

/-- In every run in which timers are set in turn, at most one timer is set at any time, every
attempt is scheduled by the caller since the last mark or reset, and no more attempts than allowed
are made between two successful connections or resets. Witness: the manager knows the timer that is
set, so that clearing it leaves none.
-/
theorem reconnection_safe (maxAttempts : JsNumber) (actions : List ReconnectionAction)
    (inTurn : stepsSatisfy reconnectionStep setsTimersInTurn (.initial maxAttempts) actions)
    (front : List ReconnectionAction) (state : ReconnectionManager) (isPrefix : front <+: actions)
    (reached : run reconnectionStep (.initial maxAttempts) front = some state)
    : ReconnectionSafe state := by
  have initial : TimersKnown (.initial maxAttempts) :=
    ⟨Nat.zero_le _, fun _ member => (by cases member), fun set => absurd rfl set,
      fun set => absurd rfl set, fun _ member => (by cases member), rfl, .inl rfl, rfl⟩
  have known := run_preserves_of_stepsSatisfy timersKnown_step initial
    (stepsSatisfy_of_isPrefix isPrefix inTurn) reached
  exact known.safe

/-- Two calls of `scheduleReconnect` in a row, whose timers then fire. -/
private def scheduledTwice : List ReconnectionAction :=
  [.scheduleReconnect 0, .advance, .scheduleReconnect 0, .advance]

/-- An attempt is rejected after the manager has been reset, and the next one is made. -/
private def rejectedAfterReset : List ReconnectionAction :=
  [.scheduleReconnect 0, .advance, .timer 0, .returns, .reset, .advance, .rejects 0, .advance,
    .timer 1]

/-- Timers pile up, attempts are made after a reset without being scheduled again, and more of them
than allowed.
-/
theorem reconnection_unsafe
    : (∃ final,
        run reconnectionStep (.initial (.finite 10)) scheduledTwice = some final
        ∧ final.timers.length = 2
        ∧ ¬ ReconnectionSafe final)
      ∧ (∃ final,
          run reconnectionStep (.initial (.finite 10)) rejectedAfterReset = some final
          ∧ final.unscheduled = 1
          ∧ ¬ ReconnectionSafe final)
      ∧ ∃ final,
          run reconnectionStep (.initial (.finite 1))
              (scheduledTwice ++ [.timer 0, .returns, .timer 1])
            = some final
          ∧ final.made = 2
          ∧ ¬ ReconnectionSafe final := by
  refine ⟨⟨_, rfl, rfl, fun safe => ?_⟩, ⟨_, rfl, rfl, fun safe => ?_⟩,
    ⟨_, rfl, rfl, fun safe => ?_⟩⟩
  · exact absurd safe.single (by decide)
  · exact absurd safe.scheduled (by decide)
  · exact absurd safe.limited (by decide)

/-- A listener, and attempts that fail until the manager gives up. -/
private def givesUp : List ReconnectionAction :=
  [.onStateChange 0, .scheduleReconnect 0, .advance, .throws, .advance, .timer 0, .throws, .advance,
    .returns, .advance, .timer 1, .returns, .rejects 0, .advance, .returns, .advance]

/-- Two attempts are allowed, and made. -/
theorem reconnection_safe_givesUp
    : ∃ final,
        run reconnectionStep (.initial (.finite 2)) givesUp = some final
        ∧ final.made = 2
        ∧ ReconnectionSafe final := by
  refine ⟨_, rfl, rfl, ?_⟩
  exact reconnection_safe (.finite 2) givesUp (by decide) givesUp _ List.prefix_rfl rfl

end Axionvera.Network
