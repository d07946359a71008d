import Axionvera.Errors
import Axionvera.Foundation.InsertionMap
import Axionvera.Foundation.JsNumber

/-! `ContractSession` (`session/contractSession.ts`): the lifecycle of a session and the contracts
that are registered in it.
-/

namespace Axionvera.Session

open Axionvera.Errors (isTrimmed)
open Axionvera.Foundation

/-- `text.trim()`. -/
def trim (text : String) : String :=
  .ofList ((text.toList.dropWhile isTrimmed).reverse.dropWhile isTrimmed).reverse

/-- The errors of sessions and of their manager, all of which are of the class `ValidationError`. -/
inductive SessionError where
  | maxSessionsNotPositive
  | maximumReached (maxSessions : JsNumber)
  | noDefaultClient
  | alreadyExists (id : String)
  | clientRequired
  | contractNameRequired
  | contractIdRequired (name : String)
  | alreadyRegistered (name id : String)
  | closedForChange (id : String)
  | closedForUse (id : String)
  | suspended (id : String)
  deriving DecidableEq

/-- The message of an error, for a way to write numbers. -/
def SessionError.message (numberText : JsNumber → String) : SessionError → String
  | .maxSessionsNotPositive => "maxSessions must be a positive number"
  | .maximumReached maxSessions =>
      "Cannot create session: maximum of " ++ numberText maxSessions ++ " open sessions reached"
  | .noDefaultClient =>
      "No StellarClient provided and no default client configured on the SessionManager"
  | .alreadyExists id => "A session with id \"" ++ id ++ "\" already exists"
  | .clientRequired => "A StellarClient is required to create a session"
  | .contractNameRequired => "A non-empty contract name is required"
  | .contractIdRequired name => "A non-empty contract id is required for \"" ++ name ++ "\""
  | .alreadyRegistered name id =>
      "A contract named \"" ++ name ++ "\" is already registered in session \"" ++ id ++ "\""
  | .closedForChange id => "Session \"" ++ id ++ "\" is closed and cannot be modified"
  | .closedForUse id => "Session \"" ++ id ++ "\" is closed and cannot be used"
  | .suspended id => "Session \"" ++ id ++ "\" is suspended; call resume() first"

/-- `SessionStatus`. -/
inductive SessionStatus where
  | active
  | suspended
  | closed
  deriving DecidableEq

/-- `ContractContext`. -/
structure ContractContext where
  name : String
  contractId : String
  deriving DecidableEq

/-- `RegisterContractParams`; a text that is missing is `none`. -/
structure RegisterContractParams where
  name : Option String
  contractId : Option String
  deriving DecidableEq

namespace RegisterContractParams

/-- `params?.name?.trim()`, where a missing name counts as an empty one. -/
def trimmedName (params : RegisterContractParams) : String :=
  (params.name.map trim).getD ""

/-- `params?.contractId?.trim()`, where a missing id counts as an empty one. -/
def trimmedContractId (params : RegisterContractParams) : String :=
  (params.contractId.map trim).getD ""

end RegisterContractParams

/-- `SessionConfig`, of which `createSession` takes any part. -/
structure SessionConfig (Client Wallet : Type) where
  id : Option String := none
  client : Option Client := none
  wallet : Option Wallet := none
  contracts : List RegisterContractParams := []

/-- A session. -/
structure ContractSession (Client Wallet : Type) where
  id : String
  client : Client
  wallet : Option Wallet
  status : SessionStatus
  contracts : InsertionMap String ContractContext

/-- The operations of a session that read or change its state. -/
inductive SessionOperation where
  | registerContract (params : RegisterContractParams)
  | unregisterContract (name : String)
  | suspend
  | resume
  | close
  | run
  deriving DecidableEq

namespace ContractSession

variable {Client Wallet : Type}

/-- `generateId`: the new value of `sessionCounter` and the id. -/
def generateId (sessionCounter : Nat) : Nat × String :=
  (sessionCounter + 1, "session-" ++ toString (sessionCounter + 1))

/-- `isClosed`. -/
def isClosed (session : ContractSession Client Wallet) : Bool :=
  session.status = .closed

/-- `assertNotClosed`. -/
def assertNotClosed (session : ContractSession Client Wallet) : Except SessionError Unit :=
  if session.isClosed then .error (.closedForChange session.id) else .ok ()

/-- `assertActive`. -/
def assertActive (session : ContractSession Client Wallet) : Except SessionError Unit :=
  match session.status with
  | .closed => .error (.closedForUse session.id)
  | .suspended => .error (.suspended session.id)
  | .active => .ok ()

/-- `registerContract`. -/
def registerContract (session : ContractSession Client Wallet) (params : RegisterContractParams)
    : Except SessionError (ContractSession Client Wallet) := do
  session.assertNotClosed
  let name := params.trimmedName
  let contractId := params.trimmedContractId
  if name = "" then .error .contractNameRequired
  else if contractId = "" then .error (.contractIdRequired name)
  else if session.contracts.has name then .error (.alreadyRegistered name session.id)
  else .ok { session with contracts := session.contracts.set name ⟨name, contractId⟩ }

/-- `unregisterContract`. -/
def unregisterContract (session : ContractSession Client Wallet) (name : String)
    : Except SessionError (ContractSession Client Wallet) := do
  session.assertNotClosed
  return { session with contracts := session.contracts.delete name }

/-- `suspend`. -/
def suspend (session : ContractSession Client Wallet)
    : Except SessionError (ContractSession Client Wallet) := do
  session.assertNotClosed
  return if session.status = .active then { session with status := .suspended } else session

/-- `resume`. -/
def resume (session : ContractSession Client Wallet)
    : Except SessionError (ContractSession Client Wallet) := do
  session.assertNotClosed
  return if session.status = .suspended then { session with status := .active } else session

/-- `close`. -/
def close (session : ContractSession Client Wallet) : ContractSession Client Wallet :=
  if session.status = .closed then session
  else { session with status := .closed, contracts := .empty }

/-- Perform an operation. What `run` calls is a part of the program that runs on. -/
def operate (session : ContractSession Client Wallet)
    : SessionOperation → Except SessionError (ContractSession Client Wallet)
  | .registerContract params => session.registerContract params
  | .unregisterContract name => session.unregisterContract name
  | .suspend => session.suspend
  | .resume => session.resume
  | .close => .ok session.close
  | .run => do
      session.assertActive
      return session

/-- Whether an id is asked for, apart from blanks. -/
def asksForId (id : Option String) : Bool :=
  trim (id.getD "") ≠ ""

/-- The id of a new session: the one that is asked for, or a generated one. -/
def newId (id : Option String) (sessionCounter : Nat) : Nat × String :=
  if asksForId id then (sessionCounter, trim (id.getD "")) else generateId sessionCounter

/-- Register the contracts one by one. -/
def registerContracts (session : ContractSession Client Wallet)
    : List RegisterContractParams → Except SessionError (ContractSession Client Wallet)
  | [] => .ok session
  | params :: others => do
      let registered ← session.registerContract params
      registerContracts registered others

/-- The constructor, with the new value of `sessionCounter`. -/
def construct (config : SessionConfig Client Wallet) (sessionCounter : Nat)
    : Nat × Except SessionError (ContractSession Client Wallet) :=
  match config.client with
  | none => (sessionCounter, .error .clientRequired)
  | some client =>
      let (sessionCounter, id) := newId config.id sessionCounter
      let session : ContractSession Client Wallet :=
        {
          id := id
          client := client
          wallet := config.wallet
          status := .active
          contracts := .empty
        }
      (sessionCounter, session.registerContracts config.contracts)

/-- Contracts that can be registered together: names and ids that are not blank, and no name twice.
-/
def contractsValid (contracts : List RegisterContractParams) : Prop :=
  (∀ params ∈ contracts, params.trimmedName ≠ "" ∧ params.trimmedContractId ≠ "")
  ∧ (contracts.map RegisterContractParams.trimmedName).Nodup

instance decidableContractsValid (contracts : List RegisterContractParams)
    : Decidable (contractsValid contracts) :=
  inferInstanceAs (Decidable (_ ∧ _))

variable {session after : ContractSession Client Wallet}

-----------------------------------------------------------------------------------------
-- What operations do
-----------------------------------------------------------------------------------------

/-- Closing a session keeps its id. -/
@[simp]
theorem close_id : session.close.id = session.id := by
  unfold close
  split <;> rfl

/-- A session that is closed is closed. -/
@[simp]
theorem close_isClosed : session.close.isClosed = true := by
  unfold close isClosed
  split <;> simp_all

/-- Closing a session twice is closing it once. -/
@[simp]
theorem close_close : session.close.close = session.close := by
  have closed : session.close.status = .closed := by simpa [isClosed] using close_isClosed
  rw [close, if_pos closed]

/-- What a contract must be like to be registered, and what it changes. -/
theorem registerContract_eq_ok_iff {params : RegisterContractParams}
    : session.registerContract params = .ok after
      ↔ session.isClosed = false
        ∧ params.trimmedName ≠ ""
        ∧ params.trimmedContractId ≠ ""
        ∧ session.contracts.has params.trimmedName = false
        ∧ after =
            { session with
              contracts :=
                session.contracts.set params.trimmedName
                  ⟨params.trimmedName, params.trimmedContractId⟩ } := by
  unfold registerContract assertNotClosed
  cases session.isClosed with
  | true => simp [bind, Except.bind]
  | false =>
      by_cases noName : params.trimmedName = ""
      · simp [noName, bind, Except.bind]
      by_cases noId : params.trimmedContractId = ""
      · simp [noName, noId, bind, Except.bind]
      cases present : session.contracts.has params.trimmedName with
      | true => simp [noName, noId, present, bind, Except.bind]
      | false => simp [noName, noId, present, bind, Except.bind, eq_comm]

/-- Contracts are removed until the session is closed. -/
theorem unregisterContract_eq_ok_iff {name : String}
    : session.unregisterContract name = .ok after
      ↔ session.isClosed = false
        ∧ after = { session with contracts := session.contracts.delete name } := by
  unfold unregisterContract assertNotClosed
  cases session.isClosed with
  | true => simp [bind, Except.bind]
  | false => simp [bind, Except.bind, pure, Except.pure, eq_comm]

/-- A session that is not closed can be suspended, also if it is already. -/
theorem suspend_eq_ok_iff
    : session.suspend = .ok after
      ↔ session.isClosed = false ∧ after = { session with status := .suspended } := by
  obtain ⟨id, client, wallet, status, contracts⟩ := session
  cases status with
  | closed => simp [suspend, assertNotClosed, isClosed, bind, Except.bind]
  | active | suspended =>
      simp [suspend, assertNotClosed, isClosed, bind, Except.bind, pure, Except.pure, eq_comm]

/-- A session that is not closed can be resumed, also if it is active. -/
theorem resume_eq_ok_iff
    : session.resume = .ok after
      ↔ session.isClosed = false ∧ after = { session with status := .active } := by
  obtain ⟨id, client, wallet, status, contracts⟩ := session
  cases status with
  | closed => simp [resume, assertNotClosed, isClosed, bind, Except.bind]
  | active | suspended =>
      simp [resume, assertNotClosed, isClosed, bind, Except.bind, pure, Except.pure, eq_comm]

/-- Running in a session changes nothing. -/
theorem operate_run_eq_ok (done : session.operate .run = .ok after) : after = session := by
  cases status : session.status with
  | active =>
      rw [operate, assertActive, status] at done
      exact (Except.ok.inj done).symm
  | suspended | closed =>
      rw [operate, assertActive, status] at done
      cases done

/-- An operation keeps the id, and only `close` closes a session. -/
theorem operate_eq_ok {operation : SessionOperation} (done : session.operate operation = .ok after)
    : after.id = session.id
      ∧ if operation = .close then after.isClosed = true
        else after.isClosed = session.isClosed := by
  cases operation with
  | registerContract params =>
      obtain ⟨_, _, _, _, rfl⟩ := registerContract_eq_ok_iff.mp done
      exact ⟨rfl, rfl⟩
  | unregisterContract name =>
      obtain ⟨_, rfl⟩ := unregisterContract_eq_ok_iff.mp done
      exact ⟨rfl, rfl⟩
  | suspend =>
      obtain ⟨notClosed, rfl⟩ := suspend_eq_ok_iff.mp done
      exact ⟨rfl, notClosed.symm⟩
  | resume =>
      obtain ⟨notClosed, rfl⟩ := resume_eq_ok_iff.mp done
      exact ⟨rfl, notClosed.symm⟩
  | close =>
      obtain rfl := Except.ok.inj done
      exact ⟨close_id, close_isClosed⟩
  | run =>
      obtain rfl := operate_run_eq_ok done
      exact ⟨rfl, rfl⟩

-----------------------------------------------------------------------------------------
-- What a new session is like
-----------------------------------------------------------------------------------------

/-- Contracts can be registered one by one exactly when they can be registered together and none of
their names is taken, by induction on them. Id and status stay.
-/
theorem registerContracts_eq_ok (contracts : List RegisterContractParams)
    (notClosed : session.isClosed = false)
    : ((∃ after, session.registerContracts contracts = .ok after)
        ↔ contractsValid contracts
          ∧ ∀ params ∈ contracts, session.contracts.has params.trimmedName = false)
      ∧ ∀ after,
          session.registerContracts contracts = .ok after
          → after.id = session.id ∧ after.isClosed = false := by
  induction contracts generalizing session with
  | nil => simp [registerContracts, contractsValid, notClosed]
  | cons params others ih =>
      cases registered : session.registerContract params with
      | error error =>
          have fails : session.registerContracts (params :: others) = .error error := by
            simp [registerContracts, registered, bind, Except.bind]
          refine ⟨⟨by simp [fails], fun given => ?_⟩, by simp [fails]⟩
          obtain ⟨valid, free⟩ := given
          have paramsValid := valid.1 params List.mem_cons_self
          have done := registerContract_eq_ok_iff.mpr
            ⟨notClosed, paramsValid.1, paramsValid.2, free params List.mem_cons_self, rfl⟩
          rw [registered] at done
          cases done
      | ok next =>
          have goesOn
              : session.registerContracts (params :: others) = next.registerContracts others := by
            simp [registerContracts, registered, bind, Except.bind]
          obtain ⟨_, hasName, hasId, isFree, same⟩ := registerContract_eq_ok_iff.mp registered
          have kept : next.id = session.id ∧ next.isClosed = false := by
            subst same
            exact ⟨rfl, notClosed⟩
          have names (name : String)
              : next.contracts.has name = false
                ↔ name ≠ params.trimmedName ∧ session.contracts.has name = false := by
            rw [same, ← InsertionMap.get_eq_none_iff, ← InsertionMap.get_eq_none_iff,
              InsertionMap.get_set]
            by_cases isName : name = params.trimmedName <;> simp [isName]
          obtain ⟨succeeds, result⟩ := ih kept.2
          rw [goesOn]
          refine ⟨succeeds.trans ?_, fun after done => ?_⟩
          · simp only [contractsValid, List.forall_mem_cons, List.map_cons, List.nodup_cons,
              List.mem_map, not_exists, not_and, names]
            constructor
            · rintro ⟨⟨valid, distinct⟩, free⟩
              exact ⟨⟨⟨⟨hasName, hasId⟩, valid⟩, fun other member => (free other member).1,
                distinct⟩, isFree, fun other member => (free other member).2⟩
            · rintro ⟨⟨⟨_, valid⟩, differs, distinct⟩, _, free⟩
              exact ⟨⟨valid, distinct⟩, fun other member => ⟨differs other member,
                free other member⟩⟩
          · obtain ⟨sameId, stillOpen⟩ := result after done
            exact ⟨sameId.trans kept.1, stillOpen⟩

/-- A session with a client can be created exactly when its contracts are valid. It is open and has
the new id.
-/
theorem construct_of_client {config : SessionConfig Client Wallet} {client : Client}
    (given : config.client = some client) (sessionCounter : Nat)
    : ((∃ session, (construct config sessionCounter).2 = .ok session)
        ↔ contractsValid config.contracts)
      ∧ ∀ session,
          (construct config sessionCounter).2 = .ok session
          → session.id = (newId config.id sessionCounter).2 ∧ session.isClosed = false := by
  let empty : ContractSession Client Wallet :=
    ⟨(newId config.id sessionCounter).2, client, config.wallet, .active, .empty⟩
  have registers
      : (construct config sessionCounter).2 = empty.registerContracts config.contracts := by
    simp only [construct, given, empty]
  obtain ⟨succeeds, result⟩ := registerContracts_eq_ok config.contracts
    (show empty.isClosed = false from rfl)
  rw [registers]
  refine ⟨succeeds.trans ⟨And.left, fun valid => ⟨valid, fun params _ => ?_⟩⟩, result⟩
  exact InsertionMap.get_eq_none_iff.mp (InsertionMap.get_empty _)

end ContractSession

end Axionvera.Session
