import Axionvera.WebSocket.WebSocketManager

/-! One connection and one reconnect timer, and nothing left after `disconnect`. The manager knows
the last socket and the last timer only, so that all of this holds as long as no socket is
created while another is live, and no timer is set while another waits.
-/

namespace Axionvera.WebSocket

open Axionvera.Foundation

variable {manager next : WebSocketManager}

/-- How many sockets are connecting or open. -/
def WebSocketManager.liveCount (manager : WebSocketManager) : Nat :=
  manager.sockets.countP ReadyState.isLive

/-- At most one socket is connecting or open, and at most one timer is set. Once `disconnect` has
been called, all sockets are closed or closing, and no socket has been created since then.
-/
structure SingleConnection (manager : WebSocketManager) : Prop where
  single : manager.liveCount ≤ 1
  timer : manager.timers.length ≤ 1
  disconnected
    : ∀ created,
        manager.disconnectedAt = some created
        → manager.liveCount = 0 ∧ manager.sockets.length = created

/-- A socket is only created when none is connecting or open, and a timer is only set when none is.
-/
def replacesNothingLive (manager : WebSocketManager) : ConnectionAction → Prop
  | .connect succeeds | .timer _ succeeds =>
      manager.mayConnect = true → succeeds = true → manager.liveCount = 0
  | .returns => manager.notifying = some false → manager.mayReconnect = true → manager.timers = []
  | _ => True

instance (manager : WebSocketManager) : DecidablePred (replacesNothingLive manager)
  | .connect _ | .timer _ _ => inferInstanceAs (Decidable (_ = true → _ = true → _ = 0))
  | .returns => inferInstanceAs (Decidable (_ = some false → _ = true → _ = []))
  | .disconnect | .opens _ | .closes _ | .fails _ | .throws => .isTrue trivial

/-- The manager knows the socket that is live, and remembers that `disconnect` was called. -/
structure KnowsLive (manager : WebSocketManager) : Prop where
  current
    : ∀ socket state,
        manager.sockets[socket]? = some state → state.isLive = true → manager.ws = some socket
  destroyed : manager.isDestroyed = manager.disconnectedAt.isSome

/-- A socket that changes without coming to life leaves no more live ones. -/
theorem countP_set_le {sockets : List ReadyState} {socket : Nat} {before after : ReadyState}
    (found : sockets[socket]? = some before) (older : after.isLive = true → before.isLive = true)
    : (sockets.set socket after).countP ReadyState.isLive ≤ sockets.countP ReadyState.isLive := by
  obtain ⟨inside, isBefore⟩ := List.getElem?_eq_some_iff.mp found
  rw [List.countP_set inside, isBefore]
  have counted : before.isLive = true → 0 < sockets.countP ReadyState.isLive := fun live =>
    List.countP_pos_iff.mpr ⟨before, List.mem_of_getElem? found, live⟩
  cases isLive : after.isLive with
  | false => simp
  | true =>
      have wasLive := older isLive
      have positive := counted wasLive
      simp only [wasLive, if_true]
      omega

/-- Without live sockets the count is zero. -/
theorem WebSocketManager.liveCount_eq_zero
    (dead
      : ∀ (socket : Nat) (state : ReadyState),
          manager.sockets[socket]? = some state → state.isLive = false)
    : manager.liveCount = 0 := by
  refine List.countP_eq_zero.mpr fun state member => ?_
  obtain ⟨socket, found⟩ := List.mem_iff_getElem?.mp member
  rw [dead socket state found]
  exact Bool.false_ne_true

/-- Fewer live sockets and timers do no harm. -/
theorem SingleConnection.keep (single : SingleConnection manager)
    (fewer : next.liveCount ≤ manager.liveCount)
    (created : next.sockets.length = manager.sockets.length)
    (timers : next.timers.length ≤ manager.timers.length)
    (same : next.disconnectedAt = manager.disconnectedAt)
    : SingleConnection next := by
  refine ⟨fewer.trans single.single, timers.trans single.timer, fun count disconnected => ?_⟩
  obtain ⟨dead, length⟩ := single.disconnected count (same ▸ disconnected)
  exact ⟨Nat.le_zero.mp (dead ▸ fewer), created.trans length⟩

/-- A socket that changes without coming to life does no harm. -/
theorem SingleConnection.set (single : SingleConnection manager) {socket : Nat}
    {before after : ReadyState} (found : manager.sockets[socket]? = some before)
    (older : after.isLive = true → before.isLive = true)
    (sockets : next.sockets = manager.sockets.set socket after)
    (timers : next.timers = manager.timers) (same : next.disconnectedAt = manager.disconnectedAt)
    : SingleConnection next := by
  refine single.keep ?_ ?_ (Nat.le_of_eq (congrArg List.length timers)) same
  · unfold WebSocketManager.liveCount
    rw [sockets]
    exact countP_set_le found older
  · rw [sockets, List.length_set]

/-- A socket that changes without coming to life is still the one that is known. -/
theorem KnowsLive.set (knows : KnowsLive manager) {socket : Nat} {before after : ReadyState}
    (found : manager.sockets[socket]? = some before)
    (older : after.isLive = true → before.isLive = true)
    (sockets : next.sockets = manager.sockets.set socket after) (ws : next.ws = manager.ws)
    (destroyed : next.isDestroyed = manager.isDestroyed)
    (same : next.disconnectedAt = manager.disconnectedAt)
    : KnowsLive next := by
  refine ⟨fun other state isState live => ?_, by rw [destroyed, same, knows.destroyed]⟩
  rw [sockets, List.getElem?_set] at isState
  rw [ws]
  split at isState
  · rename_i isSocket
    split at isState
    · obtain rfl := Option.some.inj isState
      exact isSocket ▸ knows.current socket before found (older live)
    · cases isState
  · exact knows.current other state isState live

/-- A connection is single after `connect` exactly if no live socket is replaced. -/
theorem SingleConnection.connect_iff (single : SingleConnection manager)
    (knows : KnowsLive manager) (succeeds : Bool)
    : SingleConnection (manager.connect succeeds)
      ↔ (manager.mayConnect = true → succeeds = true → manager.liveCount = 0) := by
  unfold WebSocketManager.connect
  cases may : manager.mayConnect with
  | false => simpa using single
  | true =>
      cases succeeds with
      | false =>
          have same : SingleConnection { manager with isConnecting := false } :=
            single.keep (Nat.le_refl _) rfl (Nat.le_refl _) rfl
          simpa using same
      | true =>
          simp only [if_true, forall_const]
          constructor
          · intro after
            have most := after.single
            simp only [WebSocketManager.liveCount, List.countP_append, List.countP_singleton,
              ReadyState.isLive, if_true] at most
            unfold WebSocketManager.liveCount
            omega
          · intro none
            refine ⟨?_, single.timer, fun created disconnected => ?_⟩
            · simp only [WebSocketManager.liveCount] at none
              simp [WebSocketManager.liveCount, none, ReadyState.isLive]
            · -- A manager that was disconnected is destroyed, and does not create sockets.
              have destroyed := knows.destroyed
              rw [show manager.disconnectedAt = some created from disconnected] at destroyed
              simp [WebSocketManager.mayConnect, destroyed] at may

/-- A socket that is created while none is live is the one that is known. -/
theorem KnowsLive.connect (knows : KnowsLive manager) (succeeds : Bool)
    (inTurn : manager.mayConnect = true → succeeds = true → manager.liveCount = 0)
    : KnowsLive (manager.connect succeeds) := by
  unfold WebSocketManager.connect
  split
  · rename_i may
    split
    · rename_i success
      refine ⟨fun socket state found live => ?_, knows.destroyed⟩
      have none := List.countP_eq_zero.mp (inTurn may success)
      dsimp only at found
      rw [List.getElem?_append] at found
      split at found
      · exact absurd live (none state (List.mem_of_getElem? found))
      · obtain ⟨isLast, -⟩ := List.getElem?_eq_some_iff.mp found
        have position : socket = manager.sockets.length := by
          simp only [List.length_singleton] at isLast
          omega
        exact congrArg some position.symm
    · exact ⟨knows.current, knows.destroyed⟩
  · exact knows

/-- `disconnect` closes the socket that is known, and clears at most timers. -/
theorem WebSocketManager.disconnect_eq (manager : WebSocketManager)
    : ∃ reconnectTimer timers,
        timers.length ≤ manager.timers.length
        ∧ manager.disconnect
          = { manager with
              isDestroyed := true
              disconnectedAt := some (manager.disconnectedAt.getD manager.sockets.length)
              reconnectTimer := reconnectTimer
              timers := timers
              ws := none
              sockets :=
                match manager.ws with
                | none => manager.sockets
                | some socket => manager.sockets.modify socket ReadyState.close } := by
  unfold WebSocketManager.disconnect WebSocketManager.clearReconnectTimer
  rcases manager with ⟨_, ws, _, timer, _, _, _, timers, _, _, _⟩
  cases timer with
  | none => exact ⟨none, timers, Nat.le_refl _, by cases ws <;> rfl⟩
  | some id => exact ⟨none, _, List.length_filter_le _ timers, by cases ws <;> rfl⟩

/-- After `disconnect` no socket is live, if the only one that may be is known. -/
theorem disconnect_dead
    (current
      : ∀ socket state,
          manager.sockets[socket]? = some state → state.isLive = true → manager.ws = some socket)
    {socket : Nat} {state : ReadyState}
    (found : manager.disconnect.sockets[socket]? = some state)
    : state.isLive = false := by
  obtain ⟨_, _, -, isDisconnect⟩ := manager.disconnect_eq
  rw [isDisconnect] at found
  refine Bool.eq_false_iff.mpr fun live => ?_
  cases ws : manager.ws with
  | none =>
      simp only [ws] at found
      have isKnown := current socket state found live
      rw [ws] at isKnown
      cases isKnown
  | some last =>
      simp only [ws, List.getElem?_modify] at found
      obtain ⟨old, wasOld, rfl⟩ := Option.map_eq_some_iff.mp found
      split at live
      · simp at live
      · rename_i other
        have isKnown := current socket old wasOld live
        exact other (Option.some.inj (ws.symm.trans isKnown))

/-- `disconnect` leaves no live socket. -/
theorem SingleConnection.disconnect (single : SingleConnection manager)
    (knows : KnowsLive manager)
    : SingleConnection manager.disconnect := by
  have dead : manager.disconnect.liveCount = 0 :=
    WebSocketManager.liveCount_eq_zero fun _ _ found => disconnect_dead knows.current found
  refine ⟨dead ▸ Nat.zero_le 1, ?_, fun created disconnected => ⟨dead, ?_⟩⟩
  · obtain ⟨_, timers, fewer, isDisconnect⟩ := manager.disconnect_eq
    rw [isDisconnect]
    exact fewer.trans single.timer
  · obtain ⟨_, timers, -, isDisconnect⟩ := manager.disconnect_eq
    rw [isDisconnect] at disconnected ⊢
    have length
        : (match manager.ws with
            | none => manager.sockets
            | some socket => manager.sockets.modify socket ReadyState.close).length
          = manager.sockets.length := by
      cases manager.ws with
      | none => rfl
      | some socket => exact List.length_modify ..
    refine length.trans ?_
    cases earlier : manager.disconnectedAt with
    | none => simpa [earlier] using disconnected
    | some count =>
        obtain rfl : count = created := by simpa [earlier] using disconnected
        exact (single.disconnected count earlier).2

/-- After `disconnect` no socket is live, so that none needs to be known. -/
theorem KnowsLive.disconnect (knows : KnowsLive manager) : KnowsLive manager.disconnect := by
  refine ⟨fun socket state found live => ?_, ?_⟩
  · rw [disconnect_dead knows.current found] at live
    cases live
  · obtain ⟨_, _, -, isDisconnect⟩ := manager.disconnect_eq
    rw [isDisconnect]
    rfl

/-- A timer that is set stays the only one exactly if none was set. -/
theorem SingleConnection.handleReconnect_iff (single : SingleConnection manager)
    : SingleConnection manager.handleReconnect
      ↔ (manager.mayReconnect = true → manager.timers = []) := by
  unfold WebSocketManager.handleReconnect
  split
  · rename_i may
    simp only [may, forall_const]
    constructor
    · intro after
      have most := after.timer
      simp only [List.length_append, List.length_singleton] at most
      exact List.length_eq_zero_iff.mp (by omega)
    · intro none
      exact ⟨single.single, by simp [none], single.disconnected⟩
  · rename_i mayNot
    exact ⟨fun _ may => absurd may mayNot, fun _ => single⟩

/-- `handleReconnect` does not change what is known. -/
theorem KnowsLive.handleReconnect (knows : KnowsLive manager)
    : KnowsLive manager.handleReconnect := by
  unfold WebSocketManager.handleReconnect
  split
  · exact ⟨knows.current, knows.destroyed⟩
  · exact knows

/-- The manager is destroyed, and none of its sockets is live. -/
structure ShutDown (manager : WebSocketManager) : Prop where
  destroyed : manager.isDestroyed = true
  dead
    : ∀ (socket : Nat) (state : ReadyState),
        manager.sockets[socket]? = some state → state.isLive = false

/-- `disconnect` shuts down a manager that knows its live socket. -/
theorem shutDown_disconnect
    (current
      : ∀ socket state,
          manager.sockets[socket]? = some state → state.isLive = true → manager.ws = some socket)
    : ShutDown manager.disconnect := by
  refine ⟨?_, fun _ _ found => disconnect_dead current found⟩
  obtain ⟨_, _, -, isDisconnect⟩ := manager.disconnect_eq
  rw [isDisconnect]

/-- A destroyed manager creates no sockets. -/
theorem ShutDown.connect (shutDown : ShutDown manager) (succeeds : Bool)
    : manager.connect succeeds = manager := by
  simp [WebSocketManager.connect, WebSocketManager.mayConnect, shutDown.destroyed]

/-- A socket that is closing or closed does no harm. -/
theorem ShutDown.set (shutDown : ShutDown manager) {socket : Nat} {after : ReadyState}
    (isDead : after.isLive = false) (sockets : next.sockets = manager.sockets.set socket after)
    (destroyed : next.isDestroyed = manager.isDestroyed)
    : ShutDown next := by
  refine ⟨destroyed.trans shutDown.destroyed, fun other state found => ?_⟩
  rw [sockets, List.getElem?_set] at found
  split at found
  · split at found
    · obtain rfl := Option.some.inj found
      exact isDead
    · cases found
  · exact shutDown.dead other state found

/-- What is shut down stays so, by cases on the action. -/
theorem shutDown_step {action : ConnectionAction}
    (taken : connectionStep manager action = some next) (shutDown : ShutDown manager)
    : ShutDown next := by
  have quiet : ShutDown { manager with notifying := none } :=
    ⟨shutDown.destroyed, shutDown.dead⟩
  cases action with
  | connect succeeds =>
      obtain rfl := Option.some.inj taken
      exact (shutDown.connect succeeds).symm ▸ shutDown
  | disconnect =>
      obtain rfl := Option.some.inj taken
      refine shutDown_disconnect fun socket state found live => ?_
      rw [shutDown.dead socket state found] at live
      cases live
  | opens socket =>
      simp only [connectionStep] at taken
      split at taken
      · rename_i found
        cases shutDown.dead _ _ found
      · cases taken
  | closes socket =>
      simp only [connectionStep] at taken
      split at taken
      any_goals
        obtain rfl := Option.some.inj taken
        exact shutDown.set rfl rfl rfl
      cases taken
  | fails socket =>
      simp only [connectionStep] at taken
      split at taken
      any_goals
        obtain rfl := Option.some.inj taken
        exact shutDown.set rfl rfl rfl
      cases taken
  | returns =>
      simp only [connectionStep] at taken
      split at taken
      · obtain rfl := Option.some.inj taken
        exact quiet
      · obtain rfl := Option.some.inj taken
        unfold WebSocketManager.handleReconnect
        split
        · exact ⟨shutDown.destroyed, shutDown.dead⟩
        · exact quiet
      · cases taken
  | throws =>
      simp only [connectionStep] at taken
      split at taken
      · obtain rfl := Option.some.inj taken
        exact quiet
      · cases taken
  | timer id succeeds =>
      simp only [connectionStep] at taken
      split at taken
      · obtain rfl := Option.some.inj taken
        let fired : WebSocketManager :=
          { manager with
            timers := manager.timers.erase id
            reconnectAttempts := manager.reconnectAttempts + 1 }
        have same : ShutDown fired := ⟨shutDown.destroyed, shutDown.dead⟩
        have nothing : manager.fire id succeeds = fired := same.connect succeeds
        exact nothing ▸ same
      · cases taken

/-- Every step keeps known which socket is live, as long as there is at most one, by cases on the
action.
-/
theorem knowsLive_step {action : ConnectionAction}
    (taken : connectionStep manager action = some next)
    (knows : KnowsLive manager) (inTurn : replacesNothingLive manager action)
    : KnowsLive next := by
  have called {result : WebSocketManager} (same : KnowsLive result)
      (taken : some result = some next)
      : KnowsLive next :=
    Option.some.inj taken ▸ same
  have quiet : KnowsLive { manager with notifying := none } := ⟨knows.current, knows.destroyed⟩
  cases action with
  | connect succeeds => exact called (knows.connect succeeds inTurn) taken
  | disconnect => exact called knows.disconnect taken
  | opens socket =>
      simp only [connectionStep] at taken
      split at taken
      · rename_i found
        obtain rfl := Option.some.inj taken
        exact knows.set found (fun _ => rfl) rfl rfl rfl rfl
      · cases taken
  | closes socket =>
      simp only [connectionStep] at taken
      split at taken
      any_goals
        rename_i found
        obtain rfl := Option.some.inj taken
        exact knows.set found (fun live => by cases live) rfl rfl rfl rfl
      cases taken
  | fails socket =>
      simp only [connectionStep] at taken
      split at taken
      any_goals
        rename_i found
        obtain rfl := Option.some.inj taken
        exact knows.set found (fun live => by cases live) rfl rfl rfl rfl
      cases taken
  | returns =>
      simp only [connectionStep] at taken
      split at taken
      · exact called quiet taken
      · exact called quiet.handleReconnect taken
      · cases taken
  | throws =>
      simp only [connectionStep] at taken
      split at taken
      · exact called quiet taken
      · cases taken
  | timer id succeeds =>
      simp only [connectionStep] at taken
      split at taken
      · let fired : WebSocketManager :=
          { manager with
            timers := manager.timers.erase id
            reconnectAttempts := manager.reconnectAttempts + 1 }
        have same : KnowsLive fired := ⟨knows.current, knows.destroyed⟩
        exact called (same.connect succeeds inTurn) taken
      · cases taken

/-- A step keeps the connection single exactly if it replaces nothing live, by cases on the action.
-/
theorem replacesNothingLive_iff {action : ConnectionAction}
    (taken : connectionStep manager action = some next) (knows : KnowsLive manager)
    (single : SingleConnection manager)
    : replacesNothingLive manager action ↔ SingleConnection next := by
  have always {result : WebSocketManager} (same : SingleConnection result)
      : True ↔ SingleConnection result :=
    ⟨fun _ => same, fun _ => trivial⟩
  have quiet : SingleConnection { manager with notifying := none } :=
    single.keep (Nat.le_refl _) rfl (Nat.le_refl _) rfl
  cases action with
  | connect succeeds =>
      obtain rfl := Option.some.inj taken
      exact (single.connect_iff knows succeeds).symm
  | disconnect =>
      obtain rfl := Option.some.inj taken
      exact always (single.disconnect knows)
  | opens socket =>
      simp only [connectionStep] at taken
      split at taken
      · rename_i found
        obtain rfl := Option.some.inj taken
        exact always (single.set found (fun _ => rfl) rfl rfl rfl)
      · cases taken
  | closes socket =>
      simp only [connectionStep] at taken
      split at taken
      any_goals
        rename_i found
        obtain rfl := Option.some.inj taken
        exact always (single.set found (fun live => by cases live) rfl rfl rfl)
      cases taken
  | fails socket =>
      simp only [connectionStep] at taken
      split at taken
      any_goals
        rename_i found
        obtain rfl := Option.some.inj taken
        exact always (single.set found (fun live => by cases live) rfl rfl rfl)
      cases taken
  | returns =>
      simp only [connectionStep] at taken
      split at taken
      · rename_i told
        obtain rfl := Option.some.inj taken
        refine ⟨fun _ => quiet, fun _ isFalse => ?_⟩
        rw [told] at isFalse
        cases isFalse
      · rename_i told
        obtain rfl := Option.some.inj taken
        rw [quiet.handleReconnect_iff]
        exact ⟨fun inTurn => inTurn told, fun inTurn _ => inTurn⟩
      · cases taken
  | throws =>
      simp only [connectionStep] at taken
      split at taken
      · obtain rfl := Option.some.inj taken
        exact always quiet
      · cases taken
  | timer id succeeds =>
      simp only [connectionStep] at taken
      split at taken
      · obtain rfl := Option.some.inj taken
        let fired : WebSocketManager :=
          { manager with
            timers := manager.timers.erase id
            reconnectAttempts := manager.reconnectAttempts + 1 }
        have knowsFired : KnowsLive fired := ⟨knows.current, knows.destroyed⟩
        have singleFired : SingleConnection fired :=
          single.keep (Nat.le_refl _) rfl List.erase_sublist.length_le rfl
        exact (singleFired.connect_iff knowsFired succeeds).symm
      · cases taken

/-- Along every run there is at most one live socket and at most one timer, and after `disconnect`
no live socket and no new one, exactly if no socket is created while another is live and no timer is
set while another is.
-/
theorem singleConnection_iff_replacesNothingLive (config : WebSocketConfig)
    (actions : List ConnectionAction) {final : WebSocketManager}
    (reached : run connectionStep (.initial config) actions = some final)
    : (∀ front middle,
        front <+: actions
        → run connectionStep (.initial config) front = some middle
        → SingleConnection middle)
      ↔ stepsSatisfy connectionStep replacesNothingLive (.initial config) actions := by
  have all : stepsSatisfy connectionStep (fun _ _ => True) (.initial config) actions :=
    stepsSatisfy_of_forall_mem _ fun _ _ _ => trivial
  have knows : KnowsLive (.initial config) := ⟨fun _ _ found => (by cases found), rfl⟩
  have single : SingleConnection (.initial config) :=
    ⟨Nat.zero_le _, Nat.zero_le _, fun _ disconnected => (by cases disconnected)⟩
  exact forall_prefix_iff_stepsSatisfy
    (fun _ _ _ _ taken knows single after =>
      knowsLive_step taken knows ((replacesNothingLive_iff taken knows single).mpr after))
    (fun _ _ _ _ taken knows single => replacesNothingLive_iff taken knows single)
    knows single all reached

/-- `connect` is called while the socket is open. -/
private def connectedTwice : List ConnectionAction :=
  [.connect true, .opens 0, .returns, .connect true]

/-- `connect` is called while a reconnect timer is set, and the new socket fails as well. -/
private def timedTwice : List ConnectionAction :=
  [.connect true, .closes 0, .returns, .connect true, .fails 1, .closes 1, .returns]

/-- Two sockets are live at once, and one of them stays so after `disconnect`; and two timers are
set at once.
-/
theorem singleConnection_fails
    : (∃ final,
        run connectionStep (.initial {}) connectedTwice = some final
        ∧ final.sockets = [.opened, .connecting]
        ∧ ¬ SingleConnection final)
      ∧ (∃ final,
          run connectionStep (.initial {}) (connectedTwice ++ [.disconnect]) = some final
          ∧ final.sockets = [.opened, .closing]
          ∧ ¬ SingleConnection final)
      ∧ ∃ final,
          run connectionStep (.initial {}) timedTwice = some final
          ∧ final.timers = [0, 1]
          ∧ ¬ SingleConnection final := by
  refine ⟨⟨_, rfl, rfl, fun single => ?_⟩, ⟨_, rfl, rfl, fun single => ?_⟩,
    ⟨_, rfl, rfl, fun single => ?_⟩⟩
  · exact absurd single.single (by decide)
  · exact absurd (single.disconnected 2 rfl).1 (by decide)
  · exact absurd single.timer (by decide)

/-- The connection is lost and comes back by the timer, `onConnectionChange` throws when it is lost
again, and `connect` and `disconnect` are called while it runs.
-/
private def reconnects : List ConnectionAction :=
  [.connect true, .opens 0, .returns, .fails 0, .closes 0, .returns, .timer 0 true, .opens 1,
    .returns, .closes 1, .connect true, .throws, .opens 2, .disconnect, .returns, .closes 2,
    .returns, .connect true]

/-- Nothing live is replaced, and nothing is left in the end. -/
theorem singleConnection_reconnects
    : ∃ final,
        run connectionStep (.initial {}) reconnects = some final
        ∧ final.sockets = [.closed, .closed, .closed]
        ∧ SingleConnection final := by
  refine ⟨_, rfl, rfl, ?_⟩
  refine Iff.mpr (singleConnection_iff_replacesNothingLive {} reconnects
    (show run connectionStep (.initial {}) reconnects = some _ from rfl)) (by decide) reconnects _
    List.prefix_rfl rfl

end Axionvera.WebSocket
