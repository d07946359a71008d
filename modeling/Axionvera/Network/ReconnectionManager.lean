import Axionvera.Foundation.JsNumber
import Axionvera.Foundation.LiveMap
import Axionvera.Foundation.TransitionSystem

/-! `ReconnectionManager` (`network/reconnectionManager.ts`) as a machine of small steps. Listeners
and connect functions can use the manager again before they return, so that running calls are
kept on a stack. How long a timer waits is left open.
-/

namespace Axionvera.Network

open Axionvera.Foundation

/-- `ConnectionState`. -/
inductive ConnectionState where
  | connected
  | connecting
  | disconnected
  | reconnecting
  deriving DecidableEq

/-- The loop of `transition` over the listeners, with what it tells them. A call of
`scheduleReconnect` goes on with its connect function when the loop has ended.
-/
structure TransitionFrame where
  state : ConnectionState
  attempt : Option Nat := none
  connectFn : Option Nat := none
  cursor : Nat := 0
  calling : Bool := false
  deriving DecidableEq

/-- A running call: a loop of `transition`, or a connect function that a timer has called. -/
inductive ReconnectionFrame where
  | transition (frame : TransitionFrame)
  | attempt (connectFn : Nat)
  deriving DecidableEq

/-- A timer that is set, and the connect function that it will call. -/
structure ReconnectTimer where
  id : Nat
  connectFn : Nat
  deriving DecidableEq

/-- A manager with its limit of attempts, the timers that are set, and the attempts whose promises
are pending. Recorded are whether the caller has scheduled a reconnection since the last call of
`markConnected`, `markDisconnected` or `reset`, how many attempts were made since the last
successful connection or reset, and how many were made without being scheduled.
-/
structure ReconnectionManager where
  maxAttempts : JsNumber
  state : ConnectionState
  attempts : Nat
  timer : Option Nat
  listeners : LiveMap Nat Unit
  stack : List ReconnectionFrame
  timers : List ReconnectTimer
  nextTimer : Nat
  inFlight : List Nat
  scheduled : Bool
  made : Nat
  unscheduled : Nat

namespace ReconnectionManager

/-- A manager that has just been created. -/
def initial (maxAttempts : JsNumber) : ReconnectionManager :=
  {
    maxAttempts := maxAttempts
    state := .disconnected
    attempts := 0
    timer := none
    listeners := .empty
    stack := []
    timers := []
    nextTimer := 0
    inFlight := []
    scheduled := false
    made := 0
    unscheduled := 0
  }

/-- Code outside the manager runs: no call is running, or a listener or a connect function is. -/
def hostRuns (manager : ReconnectionManager) : Bool :=
  match manager.stack with
  | [] | .attempt _ :: _ => true
  | .transition frame :: _ => frame.calling

/-- `transition`, up to its loop. -/
def transition (manager : ReconnectionManager) (state : ConnectionState)
    (attempt connectFn : Option Nat) : ReconnectionManager :=
  { manager with
    state := state
    stack :=
      .transition { state := state, attempt := attempt, connectFn := connectFn }
        :: manager.stack }

/-- `clearTimer`, which knows the last timer only. -/
def clearTimer (manager : ReconnectionManager) : ReconnectionManager :=
  match manager.timer with
  | none => manager
  | some id =>
      { manager with timer := none, timers := manager.timers.filter fun timer => timer.id ≠ id }

/-- `markConnected`. -/
def markConnected (manager : ReconnectionManager) : ReconnectionManager :=
  ({ manager with attempts := 0, scheduled := false, made := 0 }.clearTimer).transition .connected
    none none

/-- `markDisconnected`. -/
def markDisconnected (manager : ReconnectionManager) : ReconnectionManager :=
  ({ manager with scheduled := false }.clearTimer).transition .disconnected none none

/-- `reset`. -/
def reset (manager : ReconnectionManager) : ReconnectionManager :=
  ({ manager with attempts := 0, scheduled := false, made := 0 }.clearTimer).transition
    .disconnected none none

/-- `scheduleReconnect`, up to its timer. -/
def scheduleReconnect (manager : ReconnectionManager) (connectFn : Nat) : ReconnectionManager :=
  if manager.maxAttempts.isAtMost manager.attempts then
    manager.transition .disconnected none none
  else manager.transition .reconnecting (some (manager.attempts + 1)) (some connectFn)

/-- The end of `scheduleReconnect`: a timer is set, whether or not one is set already. -/
def setTimer (manager : ReconnectionManager) (connectFn : Nat) : ReconnectionManager :=
  { manager with
    timer := some manager.nextTimer
    timers := manager.timers ++ [⟨manager.nextTimer, connectFn⟩]
    nextTimer := manager.nextTimer + 1 }

/-- The running loop has told all listeners. -/
def finish (manager : ReconnectionManager) (frame : TransitionFrame)
    (others : List ReconnectionFrame) : ReconnectionManager :=
  let finished := { manager with stack := others }
  match frame.connectFn with
  | none => finished
  | some connectFn => finished.setTimer connectFn

/-- A timer fires and calls its connect function. -/
def fire (manager : ReconnectionManager) (timer : ReconnectTimer) : ReconnectionManager :=
  { manager with
    timers := manager.timers.erase timer
    attempts := manager.attempts + 1
    stack := .attempt timer.connectFn :: manager.stack
    made := manager.made + 1
    unscheduled := if manager.scheduled then manager.unscheduled else manager.unscheduled + 1 }

end ReconnectionManager

/-- Everything that can happen next. Attempts whose promises are pending are known by their place.
-/
inductive ReconnectionAction where
  | onStateChange (callback : Nat)
  | offStateChange (callback : Nat)
  | markConnected
  | markDisconnected
  | reset
  | scheduleReconnect (connectFn : Nat)
  | advance
  | returns
  | throws
  | timer (id : Nat)
  | resolves (place : Nat)
  | rejects (place : Nat)

/-- One step of the machine. Calls come from code outside the manager; the loop of `transition` goes
on when no listener runs, and swallows what one throws; an attempt that throws or is rejected
schedules the next one.
-/
def reconnectionStep (manager : ReconnectionManager)
    : ReconnectionAction → Option ReconnectionManager
  | .onStateChange callback =>
      if manager.hostRuns then
        some { manager with listeners := manager.listeners.set callback () }
      else none
  | .offStateChange callback =>
      if manager.hostRuns then
        some { manager with listeners := manager.listeners.delete callback }
      else none
  | .markConnected => if manager.hostRuns then some manager.markConnected else none
  | .markDisconnected => if manager.hostRuns then some manager.markDisconnected else none
  | .reset => if manager.hostRuns then some manager.reset else none
  | .scheduleReconnect connectFn =>
      if manager.hostRuns then
        some ({ manager with scheduled := true }.scheduleReconnect connectFn)
      else none
  | .advance =>
      match manager.stack with
      | .transition frame :: others =>
          if frame.calling then none
          else
            match manager.listeners.next frame.cursor with
            | some entry =>
                some
                  { manager with
                    stack :=
                      .transition { frame with cursor := entry.stamp + 1, calling := true }
                        :: others }
            | none => some (manager.finish frame others)
      | _ => none
  | .returns =>
      match manager.stack with
      | .transition frame :: others =>
          if frame.calling then
            some { manager with stack := .transition { frame with calling := false } :: others }
          else none
      | .attempt connectFn :: others =>
          some { manager with stack := others, inFlight := manager.inFlight ++ [connectFn] }
      | [] => none
  | .throws =>
      match manager.stack with
      | .transition frame :: others =>
          if frame.calling then
            some { manager with stack := .transition { frame with calling := false } :: others }
          else none
      | .attempt connectFn :: others =>
          some ({ manager with stack := others }.scheduleReconnect connectFn)
      | [] => none
  | .timer id =>
      match manager.stack, manager.timers.find? (fun timer => timer.id = id) with
      | [], some timer => some (manager.fire timer)
      | _, _ => none
  | .resolves place =>
      match manager.stack, manager.inFlight[place]? with
      | [], some _ => some { manager with inFlight := manager.inFlight.eraseIdx place }
      | _, _ => none
  | .rejects place =>
      match manager.stack, manager.inFlight[place]? with
      | [], some connectFn =>
          some
            ({ manager with inFlight := manager.inFlight.eraseIdx place }.scheduleReconnect
              connectFn)
      | _, _ => none

end Axionvera.Network
