import Axionvera.Foundation.JsNumber
import Axionvera.Foundation.TransitionSystem

/-! The connection of a `WebSocketManager` (`client/websocket/websocketManager.ts`) as a machine of
small steps. Sockets are known by the order of their creation; how long a timer waits is left open.
-/

namespace Axionvera.WebSocket

open Axionvera.Foundation

/-- `readyState` of a socket. -/
inductive ReadyState where
  | connecting
  | opened
  | closing
  | closed
  deriving DecidableEq

namespace ReadyState

/-- The socket is connecting or open. -/
def isLive : ReadyState → Bool
  | .connecting | .opened => true
  | .closing | .closed => false

/-- `close`, which does nothing to a socket that is closing or closed. -/
def close : ReadyState → ReadyState
  | .connecting | .opened => .closing
  | .closing => .closing
  | .closed => .closed

@[simp] theorem isLive_close (state : ReadyState) : state.close.isLive = false := by
  cases state <;> rfl

end ReadyState

/-- The part of `WebSocketConfig` that decides about connections, with its default. -/
structure WebSocketConfig where
  reconnectAttempts : JsNumber := .finite 5

/-- A manager with all sockets that it has created and the timers that are set. While
`onConnectionChange` runs, `notifying` holds what it was told. Recorded is how many sockets had been
created when `disconnect` was first called.
-/
structure WebSocketManager where
  config : WebSocketConfig
  ws : Option Nat
  reconnectAttempts : Nat
  reconnectTimer : Option Nat
  isConnecting : Bool
  isDestroyed : Bool
  sockets : List ReadyState
  timers : List Nat
  nextTimer : Nat
  notifying : Option Bool
  disconnectedAt : Option Nat

namespace WebSocketManager

/-- A manager that has just been created. -/
def initial (config : WebSocketConfig) : WebSocketManager :=
  {
    config := config
    ws := none
    reconnectAttempts := 0
    reconnectTimer := none
    isConnecting := false
    isDestroyed := false
    sockets := []
    timers := []
    nextTimer := 0
    notifying := none
    disconnectedAt := none
  }

/-- The guard of `connect` lets the call through. -/
def mayConnect (manager : WebSocketManager) : Bool :=
  !(manager.isConnecting || manager.isDestroyed)

/-- `connect`, when creating a socket succeeds or throws. -/
def connect (manager : WebSocketManager) (succeeds : Bool) : WebSocketManager :=
  if manager.mayConnect then
    if succeeds then
      { manager with
        isConnecting := true
        ws := some manager.sockets.length
        sockets := manager.sockets ++ [.connecting] }
    else { manager with isConnecting := false }
  else manager

/-- `clearReconnectTimer`, which knows the last timer only. -/
def clearReconnectTimer (manager : WebSocketManager) : WebSocketManager :=
  match manager.reconnectTimer with
  | none => manager
  | some id =>
      { manager with
        reconnectTimer := none, timers := manager.timers.filter fun timer => timer ≠ id }

/-- `disconnect`, which closes the last socket only. -/
def disconnect (manager : WebSocketManager) : WebSocketManager :=
  let cleared :=
    { manager with
      isDestroyed := true
      disconnectedAt := some (manager.disconnectedAt.getD manager.sockets.length)
      }.clearReconnectTimer
  match cleared.ws with
  | none => cleared
  | some socket =>
      { cleared with ws := none, sockets := cleared.sockets.modify socket ReadyState.close }

/-- `handleReconnect` goes on to its timer. -/
def mayReconnect (manager : WebSocketManager) : Bool :=
  !(manager.isDestroyed || manager.config.reconnectAttempts.isAtMost manager.reconnectAttempts)

/-- `handleReconnect`: a timer is set, whether or not one is set already. -/
def handleReconnect (manager : WebSocketManager) : WebSocketManager :=
  if manager.mayReconnect then
    { manager with
      reconnectTimer := some manager.nextTimer
      timers := manager.timers ++ [manager.nextTimer]
      nextTimer := manager.nextTimer + 1 }
  else manager

/-- `onopen`, up to the call of `onConnectionChange`. -/
def onopen (manager : WebSocketManager) (socket : Nat) : WebSocketManager :=
  { manager with
    sockets := manager.sockets.set socket .opened
    isConnecting := false
    reconnectAttempts := 0
    notifying := some true }

/-- `onclose`, up to the call of `onConnectionChange`. -/
def onclose (manager : WebSocketManager) (socket : Nat) : WebSocketManager :=
  { manager with
    sockets := manager.sockets.set socket .closed
    isConnecting := false
    notifying := some false }

/-- `onerror`. The connection has failed, so that its socket is closing from now on. -/
def onerror (manager : WebSocketManager) (socket : Nat) : WebSocketManager :=
  { manager with sockets := manager.sockets.set socket .closing, isConnecting := false }

/-- A timer fires. -/
def fire (manager : WebSocketManager) (timer : Nat) (succeeds : Bool) : WebSocketManager :=
  { manager with
    timers := manager.timers.erase timer
    reconnectAttempts := manager.reconnectAttempts + 1
    }.connect succeeds

end WebSocketManager

/-- Everything that can happen next. -/
inductive ConnectionAction where
  | connect (succeeds : Bool)
  | disconnect
  | opens (socket : Nat)
  | closes (socket : Nat)
  | fails (socket : Nat)
  | returns
  | throws
  | timer (id : Nat) (succeeds : Bool)

/-- One step of the machine. `connect` and `disconnect` can be called at any time; sockets and
timers wait until `onConnectionChange` has returned or thrown. After `onclose` has told it, the
manager sees to the reconnection, unless it throws.
-/
def connectionStep (manager : WebSocketManager) : ConnectionAction → Option WebSocketManager
  | .connect succeeds => some (manager.connect succeeds)
  | .disconnect => some manager.disconnect
  | .opens socket =>
      match manager.notifying, manager.sockets[socket]? with
      | none, some .connecting => some (manager.onopen socket)
      | _, _ => none
  | .closes socket =>
      match manager.notifying, manager.sockets[socket]? with
      | none, some .connecting | none, some .opened | none, some .closing =>
          some (manager.onclose socket)
      | _, _ => none
  | .fails socket =>
      match manager.notifying, manager.sockets[socket]? with
      | none, some .connecting | none, some .opened | none, some .closing =>
          some (manager.onerror socket)
      | _, _ => none
  | .returns =>
      match manager.notifying with
      | some true => some { manager with notifying := none }
      | some false => some { manager with notifying := none }.handleReconnect
      | none => none
  | .throws =>
      match manager.notifying with
      | some _ => some { manager with notifying := none }
      | none => none
  | .timer id succeeds =>
      if manager.notifying.isNone && manager.timers.contains id then some (manager.fire id succeeds)
      else none

end Axionvera.WebSocket
