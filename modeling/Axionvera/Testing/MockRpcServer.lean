import Axionvera.Foundation.InsertionMap
import Axionvera.Foundation.JsNumber

/-! The in-memory server that tests talk to (`testing/MockRpcServer.ts`). The entries of
transactions are objects that `getTransaction` changes in place, so the map of transactions holds
references to them, and copies of the map share them. All other entries are never changed and count
as values.
-/

namespace Axionvera.Testing

open Axionvera.Foundation

-----------------------------------------------------------------------------------------
-- Entries
-----------------------------------------------------------------------------------------

/-- `MockAccountEntry`. -/
structure MockAccountEntry where
  publicKey : String
  sequence : String
  deriving DecidableEq

/-- `MockSimulationResult`. -/
structure MockSimulationResult where
  returnValueXdr : Option String := none
  error : Option String := none
  minResourceFee : Option String := none
  deriving DecidableEq

/-- `MockTransactionEntry.status`. -/
inductive TransactionStatus where
  | pending
  | success
  | failed
  | notFound
  deriving DecidableEq, Repr

/-- `MockTransactionEntry.finalStatus`. -/
inductive FinalStatus where
  | success
  | failed
  deriving DecidableEq, Repr

/-- A final status is a status. -/
def FinalStatus.toStatus : FinalStatus → TransactionStatus
  | .success => .success
  | .failed => .failed

/-- `MockTransactionEntry`. -/
structure MockTransactionEntry where
  hash : String
  status : TransactionStatus
  pendingPollsRemaining : JsNumber
  finalStatus : FinalStatus
  ledger : Option JsNumber
  deriving DecidableEq

/-- What `addTransaction` takes. The status that it is given as well is replaced. -/
structure NewTransaction where
  hash : String
  finalStatus : FinalStatus
  ledger : Option JsNumber := none
  pendingPolls : Option JsNumber := none
  deriving DecidableEq

/-- `MockEventEntry`. -/
structure MockEventEntry where
  contractId : String
  ledger : JsNumber
  valueXdr : Option String := none
  deriving DecidableEq

/-- `PendingError`. -/
structure PendingError (ε : Type) where
  method : String
  error : ε

/-- Where the object of a transaction's entry is. -/
abbrev EntryReference := Nat

/-- `MockRpcServer`, and the objects of all transaction entries that were ever made. -/
structure MockRpcServer (ε : Type) where
  ledger : JsNumber := .finite 1000
  accounts : InsertionMap String MockAccountEntry := .empty
  transactions : InsertionMap String EntryReference := .empty
  simulationResults : InsertionMap String MockSimulationResult := .empty
  events : List MockEventEntry := []
  pendingErrors : List (PendingError ε) := []
  healthy : Bool := true
  objects : List MockTransactionEntry := []

/-- `protocolVersion`. -/
def protocolVersion : Nat := 20

/-- `MockRpcServerSnapshot`. Its lists of entries come from maps, so their keys are distinct. -/
structure MockRpcServerSnapshot where
  ledger : JsNumber
  accounts : InsertionMap String MockAccountEntry
  transactions : InsertionMap String EntryReference
  simulationResults : InsertionMap String MockSimulationResult
  events : List MockEventEntry
  healthy : Bool

variable {ε τ α : Type}

namespace MockRpcServer

-----------------------------------------------------------------------------------------
-- Configuration
-----------------------------------------------------------------------------------------

/-- Make an object for an entry and set it at its hash. -/
def putEntry (server : MockRpcServer ε) (hash : String) (entry : MockTransactionEntry)
    : MockRpcServer ε :=
  { server with
    transactions := server.transactions.set hash server.objects.length
    objects := server.objects ++ [entry] }

/-- `addAccount`. -/
def addAccount (server : MockRpcServer ε) (entry : MockAccountEntry) : MockRpcServer ε :=
  { server with accounts := server.accounts.set entry.publicKey entry }

/-- `addSimulationResult`. -/
def addSimulationResult (server : MockRpcServer ε) (key : String) (result : MockSimulationResult)
    : MockRpcServer ε :=
  { server with simulationResults := server.simulationResults.set key result }

/-- `addTransaction`. -/
def addTransaction (server : MockRpcServer ε) (entry : NewTransaction) : MockRpcServer ε :=
  server.putEntry entry.hash {
    hash := entry.hash
    status := .pending
    pendingPollsRemaining := entry.pendingPolls.getD (.finite 1)
    finalStatus := entry.finalStatus
    ledger := entry.ledger }

/-- `addEvent`. -/
def addEvent (server : MockRpcServer ε) (entry : MockEventEntry) : MockRpcServer ε :=
  { server with events := server.events ++ [entry] }

/-- `injectError`. -/
def injectError (server : MockRpcServer ε) (method : String) (error : ε) : MockRpcServer ε :=
  { server with pendingErrors := server.pendingErrors ++ [⟨method, error⟩] }

/-- `setHealthy`. -/
def setHealthy (server : MockRpcServer ε) (healthy : Bool) : MockRpcServer ε :=
  { server with healthy := healthy }

/-- `setLedger`. -/
def setLedger (server : MockRpcServer ε) (sequence : JsNumber) : MockRpcServer ε :=
  { server with ledger := sequence }

/-- `reset`. The objects are left behind. -/
def reset (server : MockRpcServer ε) : MockRpcServer ε :=
  { objects := server.objects }

/-- `snapshot`. The map is copied, the objects are not. -/
def snapshot (server : MockRpcServer ε) : MockRpcServerSnapshot :=
  {
    ledger := server.ledger
    accounts := server.accounts
    transactions := server.transactions
    simulationResults := server.simulationResults
    events := server.events
    healthy := server.healthy
  }

/-- `restore`. -/
def restore (server : MockRpcServer ε) (snap : MockRpcServerSnapshot) : MockRpcServer ε :=
  {
    ledger := snap.ledger
    accounts := snap.accounts
    transactions := snap.transactions
    simulationResults := snap.simulationResults
    events := snap.events
    pendingErrors := []
    healthy := snap.healthy
    objects := server.objects
  }

end MockRpcServer

-----------------------------------------------------------------------------------------
-- Responses
-----------------------------------------------------------------------------------------

/-- What a call throws: an injected error, an error of the server, or that of a missing account. -/
inductive MockError (ε : Type) where
  | injected (error : ε)
  | error (message : String)
  | accountNotFound (message : String) (code : Nat) (resultCode : String)
  deriving DecidableEq

/-- The ledgers and times that responses about transactions begin with. -/
structure LedgerTimes where
  latestLedger : JsNumber
  latestLedgerCloseTime : String
  oldestLedger : JsNumber
  oldestLedgerCloseTime : String
  deriving DecidableEq

/-- The response for a transaction that is done. -/
structure FinalResponse extends LedgerTimes where
  ledger : JsNumber
  createdAt : String
  applicationOrder : Nat := 1
  feeBump : Bool := false
  status : FinalStatus
  envelopeXdr : String := ""
  resultXdr : String := ""
  resultMetaXdr : String := ""
  deriving DecidableEq

/-- An event in a response. -/
structure EventResponse where
  id : String
  type : String := "contract"
  ledger : JsNumber
  ledgerClosedAt : String
  contractId : String
  pagingToken : String
  inSuccessfulContractCall : Bool := true
  operationIndex : Nat := 0
  transactionIndex : Nat := 0
  txHash : String
  topic : List String := []
  value : String
  deriving DecidableEq

/-- What a call responds. -/
inductive ServerResponse (τ α : Type) where
  | health (status : String) (latestLedger : JsNumber)
  | latestLedger (id : String) (protocolVersion : Nat) (sequence : JsNumber)
  | account (account : α)
  | simulationError (error : String) (events : List String) (latestLedger : JsNumber)
  | simulation (minResourceFee transactionData : String) (events : List String)
      (results : List (List String × String)) (latestLedger : JsNumber)
  | prepared (transaction : τ)
  | sent (hash : String) (status : TransactionStatus) (latestLedger : JsNumber)
      (latestLedgerCloseTime : String)
  | transactionNotFound (times : LedgerTimes)
  | transactionDone (response : FinalResponse)
  | events (events : List EventResponse) (latestLedger : JsNumber)
  deriving DecidableEq

/-- How a call ends. -/
abbrev Outcome (ε τ α : Type) := Except (MockError ε) (ServerResponse τ α)

/-- What the server uses of the language and of the SDK: how numbers and times are printed, the
account class, and the transaction data that nothing was added to.
-/
structure MockEnvironment (α : Type) where
  printed : JsNumber → String
  toISOString : Int → String
  newAccount : String → String → Except String α
  emptyTransactionData : String

/-- `String(Math.floor(Date.now() / 1000))`, so many seconds ago. -/
def secondsText (now : Int) (ago : Int) : String := toString (now / 1000 - ago)

-----------------------------------------------------------------------------------------
-- Entries of transactions
-----------------------------------------------------------------------------------------

/-- What one poll does to the object of an entry. -/
def MockTransactionEntry.poll (entry : MockTransactionEntry) : MockTransactionEntry :=
  if entry.status = .pending then
    if entry.pendingPollsRemaining.isAbove 0 then
      { entry with pendingPollsRemaining := entry.pendingPollsRemaining.sub (.finite 1) }
    else { entry with status := entry.finalStatus.toStatus }
  else entry

/-- A poll does not find the transaction yet. -/
def MockTransactionEntry.isAwaited (entry : MockTransactionEntry) : Bool :=
  entry.status = .pending && entry.pendingPollsRemaining.isAbove 0

namespace MockRpcServer

/-- The object at a hash. -/
def entryAt (server : MockRpcServer ε) (hash : String) : Option MockTransactionEntry :=
  (server.transactions.get hash).bind (server.objects[·]?)

-----------------------------------------------------------------------------------------
-- Calls
-----------------------------------------------------------------------------------------

/-- `checkError`, and what the method does behind it. -/
def checkError (server : MockRpcServer ε) (method : String)
    (body : MockRpcServer ε → Outcome ε τ α × MockRpcServer ε)
    : Outcome ε τ α × MockRpcServer ε :=
  match server.pendingErrors.find? fun pending => pending.method = method with
  | some pending =>
      (.error (.injected pending.error),
        { server with
          pendingErrors := server.pendingErrors.eraseP fun pending => pending.method = method })
  | none => body server

/-- `getHealth`. -/
def getHealth (server : MockRpcServer ε) : Outcome ε τ α × MockRpcServer ε :=
  server.checkError "getHealth" fun server =>
    if server.healthy then (.ok (.health "healthy" server.ledger), server)
    else (.error (.error "RPC server is unhealthy"), server)

/-- `getLatestLedger`. -/
def getLatestLedger (env : MockEnvironment α) (server : MockRpcServer ε)
    : Outcome ε τ α × MockRpcServer ε :=
  server.checkError "getLatestLedger" fun server =>
    (.ok (.latestLedger (env.printed server.ledger) protocolVersion server.ledger), server)

/-- `getAccount`. -/
def getAccount (env : MockEnvironment α) (server : MockRpcServer ε) (publicKey : String)
    : Outcome ε τ α × MockRpcServer ε :=
  server.checkError "getAccount" fun server =>
    match server.accounts.get publicKey with
    | none =>
        (.error (.accountNotFound ("Account not found: " ++ publicKey) 404 "not_found"), server)
    | some entry =>
        match env.newAccount entry.publicKey entry.sequence with
        | .error message => (.error (.error message), server)
        | .ok account => (.ok (.account account), server)

/-- `simulateTransaction`, which looks at neither of its arguments. -/
def simulateTransaction (env : MockEnvironment α) (server : MockRpcServer ε)
    : Outcome ε τ α × MockRpcServer ε :=
  server.checkError "simulateTransaction" fun server =>
    let cfg := server.simulationResults.values.head?.getD {}
    match cfg.error.filter (· ≠ "") with
    | some error => (.ok (.simulationError error [] server.ledger), server)
    | none =>
        (.ok (.simulation (cfg.minResourceFee.getD "100") env.emptyTransactionData []
          [([], cfg.returnValueXdr.getD "")] server.ledger), server)

/-- `prepareTransaction`. -/
def prepareTransaction (server : MockRpcServer ε) (tx : τ) : Outcome ε τ α × MockRpcServer ε :=
  server.checkError "prepareTransaction" fun server => (.ok (.prepared tx), server)

/-- The hash that the next transaction is sent under. -/
def nextHash (env : MockEnvironment α) (server : MockRpcServer ε) : String :=
  "mock-hash-" ++ env.printed server.ledger ++ "-" ++ toString server.transactions.entries.length

/-- `sendTransaction`, at a time. It does not look at its argument. -/
def sendTransaction (env : MockEnvironment α) (server : MockRpcServer ε) (now : Int)
    : Outcome ε τ α × MockRpcServer ε :=
  server.checkError "sendTransaction" fun server =>
    let hash := server.nextHash env
    let next :=
      if server.transactions.has hash then server
      else
        server.putEntry hash {
          hash := hash
          status := .pending
          pendingPollsRemaining := .finite 1
          finalStatus := .success
          ledger := some (server.ledger.sub (.finite (-1))) }
    (.ok (.sent hash .pending server.ledger (secondsText now 0)), next)

/-- The ledgers and times of a response. -/
def ledgerTimes (server : MockRpcServer ε) (now : Int) : LedgerTimes :=
  {
    latestLedger := server.ledger
    latestLedgerCloseTime := secondsText now 0
    oldestLedger := server.ledger.sub (.finite 100)
    oldestLedgerCloseTime := secondsText now 600
  }

/-- The response for a transaction that is done. -/
def finalResponse (server : MockRpcServer ε) (now : Int) (entry : MockTransactionEntry)
    : FinalResponse :=
  {
    toLedgerTimes := server.ledgerTimes now
    ledger := entry.ledger.getD server.ledger
    createdAt := secondsText now 0
    status := if entry.status = .success then .success else .failed
  }

/-- Poll the object of a reference, where it is. -/
def pollAt (server : MockRpcServer ε) (reference : EntryReference) : MockRpcServer ε :=
  { server with objects := server.objects.modify reference .poll }

/-- `getTransaction`, at a time. -/
def getTransaction (server : MockRpcServer ε) (hash : String) (now : Int)
    : Outcome ε τ α × MockRpcServer ε :=
  server.checkError "getTransaction" fun server =>
    match server.transactions.get hash, server.entryAt hash with
    | some reference, some entry =>
        (.ok (
            if entry.isAwaited then .transactionNotFound (server.ledgerTimes now)
            else .transactionDone (server.finalResponse now entry.poll)),
          server.pollAt reference)
    | _, _ => (.ok (.transactionNotFound (server.ledgerTimes now)), server)

/-- An event as it is listed, with its place. -/
def eventResponse (env : MockEnvironment α) (now : Int) (place : Nat) (event : MockEventEntry)
    : EventResponse :=
  {
    id := env.printed event.ledger ++ "-" ++ toString place
    ledger := event.ledger
    ledgerClosedAt := env.toISOString now
    contractId := event.contractId
    pagingToken := env.printed event.ledger ++ "-" ++ toString place
    txHash := "mock-event-tx-" ++ toString place
    value := event.valueXdr.getD ""
  }

/-- `getEvents`, for the contract ids of the filters, at a time. -/
def getEvents (env : MockEnvironment α) (server : MockRpcServer ε)
    (filters : Option (List (Option (List String)))) (now : Int)
    : Outcome ε τ α × MockRpcServer ε :=
  server.checkError "getEvents" fun server =>
    let contractIds := (filters.getD []).flatMap (·.getD [])
    let found := server.events.filter fun event =>
      contractIds.length = 0 || contractIds.contains event.contractId
    (.ok (.events (found.mapIdx (eventResponse env now)) server.ledger), server)

end MockRpcServer

/-- A call of the server, with the time at which it reads the clock. -/
inductive ServerCall (τ : Type) where
  | getHealth
  | getLatestLedger
  | getAccount (publicKey : String)
  | simulateTransaction
  | prepareTransaction (tx : τ)
  | sendTransaction (now : Int)
  | getTransaction (hash : String) (now : Int)
  | getEvents (filters : Option (List (Option (List String)))) (now : Int)

/-- How the server answers a call. -/
def MockRpcServer.answer (env : MockEnvironment α) (server : MockRpcServer ε)
    : ServerCall τ → Outcome ε τ α × MockRpcServer ε
  | .getHealth => server.getHealth
  | .getLatestLedger => server.getLatestLedger env
  | .getAccount publicKey => server.getAccount env publicKey
  | .simulateTransaction => server.simulateTransaction env
  | .prepareTransaction tx => server.prepareTransaction tx
  | .sendTransaction now => server.sendTransaction env now
  | .getTransaction hash now => server.getTransaction hash now
  | .getEvents filters now => server.getEvents env filters now

-----------------------------------------------------------------------------------------
-- Tests
-----------------------------------------------------------------------------------------

/-- A test: its server, and the snapshots that it took so far. -/
structure MockTest (ε : Type) where
  server : MockRpcServer ε := {}
  snapshots : List MockRpcServerSnapshot := []

/-- What a test does. -/
inductive TestAction (ε τ : Type) where
  | addAccount (entry : MockAccountEntry)
  | addSimulationResult (key : String) (result : MockSimulationResult)
  | addTransaction (entry : NewTransaction)
  | addEvent (entry : MockEventEntry)
  | injectError (method : String) (error : ε)
  | setHealthy (healthy : Bool)
  | setLedger (sequence : JsNumber)
  | reset
  | snapshot
  | restore (index : Nat)
  | call (call : ServerCall τ)

/-- Act on the server only. -/
def MockTest.update (test : MockTest ε) (server : MockRpcServer ε) : MockTest ε :=
  { test with server := server }

/-- Do one thing. Only snapshots that were taken can be restored. -/
def testStep (env : MockEnvironment α) (test : MockTest ε)
    : TestAction ε τ → Option (MockTest ε)
  | .addAccount entry => some (test.update (test.server.addAccount entry))
  | .addSimulationResult key result =>
      some (test.update (test.server.addSimulationResult key result))
  | .addTransaction entry => some (test.update (test.server.addTransaction entry))
  | .addEvent entry => some (test.update (test.server.addEvent entry))
  | .injectError method error => some (test.update (test.server.injectError method error))
  | .setHealthy healthy => some (test.update (test.server.setHealthy healthy))
  | .setLedger sequence => some (test.update (test.server.setLedger sequence))
  | .reset => some (test.update test.server.reset)
  | .snapshot => some { test with snapshots := test.snapshots ++ [test.server.snapshot] }
  | .restore index =>
      test.snapshots[index]?.map fun snap => test.update (test.server.restore snap)
  | .call call => some (test.update (test.server.answer env call).2)

end Axionvera.Testing
