import Axionvera.Session.ContractSession
import Axionvera.Foundation.TransitionSystem

/-! `SessionManager` (`session/sessionManager.ts`) together with the sessions it has created, whose
own operations it does not see.
-/

namespace Axionvera.Session

open Axionvera.Foundation

/-- `SessionManagerConfig`. -/
structure SessionManagerConfig (Client Wallet : Type) where
  client : Option Client := none
  wallet : Option Wallet := none
  maxSessions : Option JsNumber := none

/-- A manager. Sessions are known by their numbers, in the order in which they were created. -/
structure SessionManager (Client Wallet : Type) where
  sessions : InsertionMap String Nat
  defaultClient : Option Client
  defaultWallet : Option Wallet
  maxSessions : JsNumber

variable {Client Wallet : Type}

namespace SessionManager

/-- The constructor. -/
def construct (config : SessionManagerConfig Client Wallet)
    : Except SessionError (SessionManager Client Wallet) :=
  let manager : SessionManager Client Wallet :=
    {
      sessions := .empty
      defaultClient := config.client
      defaultWallet := config.wallet
      maxSessions := config.maxSessions.getD (.infinity false)
    }
  if manager.maxSessions.isAtMost 0 then .error .maxSessionsNotPositive else .ok manager

/-- `size`. -/
def size (manager : SessionManager Client Wallet) : Nat :=
  manager.sessions.entries.length

end SessionManager

/-- A call of `createSession` that has thrown: what it was called with, how many sessions were open,
and the manager before and after it.
-/
structure FailedCreation (Client Wallet : Type) where
  config : SessionConfig Client Wallet
  openCount : Nat
  before : SessionManager Client Wallet
  after : SessionManager Client Wallet

/-- A manager, all sessions that it has created, and the counter that it shares with all other
sessions of the process. Calls of `createSession` that have thrown are recorded.
-/
structure SessionProcess (Client Wallet : Type) where
  manager : SessionManager Client Wallet
  sessionCounter : Nat
  created : List (ContractSession Client Wallet)
  failures : List (FailedCreation Client Wallet)

namespace SessionProcess

/-- A process in which a manager has just been constructed. -/
def initial (manager : SessionManager Client Wallet) (sessionCounter : Nat)
    : SessionProcess Client Wallet :=
  { manager := manager, sessionCounter := sessionCounter, created := [], failures := [] }

/-- The number of open sessions that the manager has created. -/
def openCount (process : SessionProcess Client Wallet) : Nat :=
  process.created.countP fun session => !session.isClosed

/-- `createSession`, which answers with the number of the session. -/
def createSession (process : SessionProcess Client Wallet) (config : SessionConfig Client Wallet)
    : SessionProcess Client Wallet × Except SessionError Nat :=
  let manager := process.manager
  if manager.maxSessions.isAtMost manager.size then
    (process, .error (.maximumReached manager.maxSessions))
  else
    match config.client <|> manager.defaultClient with
    | none => (process, .error .noDefaultClient)
    | some client =>
        if config.id.any fun id => id ≠ "" && manager.sessions.has id then
          (process, .error (.alreadyExists (config.id.getD "")))
        else
          let (sessionCounter, constructed) :=
            ContractSession.construct
              { config with
                client := some client
                wallet := config.wallet <|> manager.defaultWallet }
              process.sessionCounter
          let process := { process with sessionCounter := sessionCounter }
          match constructed with
          | .error error => (process, .error error)
          | .ok session =>
              -- A generated id may be one that another session was given.
              if manager.sessions.has session.id then (process, .error (.alreadyExists session.id))
              else
                let number := process.created.length
                let sessions := manager.sessions.set session.id number
                ({ process with
                    manager := { manager with sessions := sessions }
                    created := process.created ++ [session] }, .ok number)

/-- `close` of one of the sessions. -/
def close (process : SessionProcess Client Wallet) (number : Nat) : SessionProcess Client Wallet :=
  { process with created := process.created.modify number ContractSession.close }

/-- `closeSession`, which answers whether a session was closed. -/
def closeSession (process : SessionProcess Client Wallet) (id : String)
    : SessionProcess Client Wallet × Bool :=
  match process.manager.sessions.get id with
  | none => (process, false)
  | some number =>
      let manager :=
        { process.manager with sessions := process.manager.sessions.delete id }
      ({ process.close number with manager := manager }, true)

/-- `closeAll`. -/
def closeAll (process : SessionProcess Client Wallet) : SessionProcess Client Wallet :=
  { process.manager.sessions.values.foldl close process with
    manager := { process.manager with sessions := .empty } }

end SessionProcess

/-- Everything that can happen: calls of the manager, operations on a session that it has created,
and a session created without it, which counts in the same counter.
-/
inductive SessionAction (Client Wallet : Type) where
  | createSession (config : SessionConfig Client Wallet)
  | closeSession (id : String)
  | closeAll
  | operate (number : Nat) (operation : SessionOperation)
  | generateId

/-- One step. An operation that throws changes nothing. -/
def sessionStep (process : SessionProcess Client Wallet)
    : SessionAction Client Wallet → Option (SessionProcess Client Wallet)
  | .createSession config =>
      let (next, result) := process.createSession config
      match result with
      | .ok _ => some next
      | .error _ =>
          some
            { next with
              failures :=
                next.failures ++ [⟨config, process.openCount, process.manager, next.manager⟩] }
  | .closeSession id => some (process.closeSession id).1
  | .closeAll => some process.closeAll
  | .operate number operation =>
      process.created[number]?.map fun session =>
        match session.operate operation with
        | .ok after => { process with created := process.created.set number after }
        | .error _ => process
  | .generateId =>
      some
        { process with
          sessionCounter := (ContractSession.generateId process.sessionCounter).1 }

end Axionvera.Session
