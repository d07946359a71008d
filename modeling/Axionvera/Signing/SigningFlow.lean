import Axionvera.Foundation.Dialogue
import Axionvera.Signing.MemoOperations
import Axionvera.Soroban.Authorization

/-! Signing and submitting transactions (`transaction/transactionSigner.ts`), as a program that asks
a client and a wallet. Nothing is assumed about what they answer.
-/

namespace Axionvera.Signing

open Axionvera.Foundation
open Axionvera.Soroban (AuthSdk ScVal TransactionEnvelope)
open Axionvera.Client.SequenceCache

-----------------------------------------------------------------------------------------
-- What is asked, and how it is answered
-----------------------------------------------------------------------------------------

/-- `AxionveraNetwork`. -/
inductive AxionveraNetwork where
  | testnet
  | mainnet
  | futurenet
  deriving DecidableEq, Repr

/-- A successful simulation: `result?.retval`, and the texts of `results`. -/
structure SimulationSuccess where
  retval : Option ScVal
  results : List String

/-- What `simulateTransaction` resolves with: what `isSimulationSuccess` accepts, or anything else
with its field `error`.
-/
inductive SimulationResponse where
  | success (response : SimulationSuccess)
  | failure (error : Option String)

/-- `TransactionSendResult`, as far as it is read. -/
structure SendResult where
  hash : String

/-- What `pollTransaction` resolves with. -/
structure PollResult where
  status : String
  ledger : Option Nat

/-- What a promise can be rejected with: nothing (`undefined` or `null`), an `Error`, or another
value with its property `message`.
-/
inductive Rejection where
  | nothing
  | error (message : String)
  | value (message : Option String)

/-- What calls are rejected with: what a client or a wallet was rejected with, what the library
throws, or an error of this code.
-/
inductive FlowError where
  | rejected (reason : Rejection)
  | library (reason : Rejection)
  | error (message : String)
  | networkMismatch (message : String)
  | slippageToleranceExceeded (expected actual tolerance : Int)

/-- Calls of the wallet, of the client and of a builder of the caller, and waits for a timer. -/
inductive Question where
  | getPublicKey
  | getNetwork
  | signTransaction (transactionXdr networkPassphrase : String)
  | getAccountWithCache (publicKey : String)
  | simulateTransaction (transaction : Transaction)
  | prepareTransaction (transaction : Transaction) (simulation : SimulationSuccess)
  | sendTransaction (signedXdr : String)
  | pollTransaction (hash : String)
  | addOperation (txBuilder : Nat) (operation : Operation)
  | wait (milliseconds : Nat)

/-- What a call resolves with. -/
abbrev Answer : Question → Type
  | .getPublicKey => String
  | .getNetwork => AxionveraNetwork
  | .signTransaction _ _ => String
  | .getAccountWithCache _ => Account
  | .simulateTransaction _ => SimulationResponse
  | .prepareTransaction _ _ => TransactionEnvelope
  | .sendTransaction _ => SendResult
  | .pollTransaction _ => PollResult
  | .addOperation _ _ | .wait _ => Unit

/-- A call of this code. -/
abbrev Call := Dialogue Question Answer FlowError

/-- `wallet.getPublicKey`. -/
abbrev Call.getPublicKey : Call String :=
  Dialogue.request Question.getPublicKey

/-- `wallet.getNetwork`. -/
abbrev Call.getNetwork : Call AxionveraNetwork :=
  Dialogue.request Question.getNetwork

/-- `wallet.signTransaction`. -/
abbrev Call.signTransaction (transactionXdr networkPassphrase : String) : Call String :=
  Dialogue.request (Question.signTransaction transactionXdr networkPassphrase)

/-- `client.getAccountWithCache`. -/
abbrev Call.getAccountWithCache (publicKey : String) : Call Account :=
  Dialogue.request (Question.getAccountWithCache publicKey)

/-- `client.simulateTransaction`. -/
abbrev Call.simulateTransaction (transaction : Transaction) : Call SimulationResponse :=
  Dialogue.request (Question.simulateTransaction transaction)

/-- `client.prepareTransaction`. -/
abbrev Call.prepareTransaction (transaction : Transaction) (simulation : SimulationSuccess)
    : Call TransactionEnvelope :=
  Dialogue.request (Question.prepareTransaction transaction simulation)

/-- `client.sendTransaction`. -/
abbrev Call.sendTransaction (signedXdr : String) : Call SendResult :=
  Dialogue.request (Question.sendTransaction signedXdr)

/-- `client.pollTransaction`. -/
abbrev Call.pollTransaction (hash : String) : Call PollResult :=
  Dialogue.request (Question.pollTransaction hash)

/-- `txBuilder.addOperation`. -/
abbrev Call.addOperation (txBuilder : Nat) (operation : Operation) : Call Unit :=
  Dialogue.request (Question.addOperation txBuilder operation)

/-- `new Promise(resolve => setTimeout(resolve, milliseconds))`, which is never rejected. -/
def Call.wait (milliseconds : Nat) : Call Unit :=
  .ask (.wait milliseconds) fun _ => .done ()

/-- A call of the client or the wallet with how it was answered. -/
abbrev CallExchange := Exchange Question Answer FlowError

/-- Some client and some wallet. -/
abbrev ClientAndWallet := Surroundings Question Answer FlowError

/-- What is used of the library: transactions and envelopes can be written, or this throws. -/
structure FlowSdk extends SignerSdk where
  auth : AuthSdk
  transactionXDR : Transaction → Option String
  thrown : Rejection

/-- What the library gives, or what it throws. -/
def FlowSdk.orThrow {α : Type} (sdk : FlowSdk) : Option α → Call α
  | some value => .done value
  | none => .fail (.library sdk.thrown)

/-- What the library gives is gone on with. -/
theorem FlowSdk.orThrow_some_bind {α β : Type} (sdk : FlowSdk) (value : α) (next : α → Call β)
    : (sdk.orThrow (some value) >>= next) = next value :=
  rfl

/-- What the library gives is gone on with, what it throws is an end. -/
theorem FlowSdk.keeps_orThrow_bind {α β : Type} (sdk : FlowSdk) {given : Option α}
    {next : α → Call β} {allowed : List CallExchange → Question → Prop}
    {ends : List CallExchange → Except FlowError β → Prop} {history : List CallExchange}
    (throws : ends history (.error (.library sdk.thrown)))
    (keeps : ∀ value, given = some value → (next value).Keeps allowed ends history)
    : (sdk.orThrow given >>= next).Keeps allowed ends history := by
  cases given with
  | none => exact throws
  | some value => exact keeps value rfl

-----------------------------------------------------------------------------------------
-- The signer
-----------------------------------------------------------------------------------------

/-- `TransactionSigner` with the network of its client. -/
structure NetworkSigner extends TransactionSigner where
  network : AxionveraNetwork
  autoSimulate : Bool := true

/-- The name of a network. -/
def AxionveraNetwork.name : AxionveraNetwork → String
  | .testnet => "testnet"
  | .mainnet => "mainnet"
  | .futurenet => "futurenet"

/-- `validateNetworks`. -/
def NetworkSigner.validateNetworks (signer : NetworkSigner) : Call Unit := do
  let walletNetwork ← Call.getNetwork
  if walletNetwork = signer.network then pure ()
  else
    .fail (.networkMismatch
      ("Network mismatch: Expected " ++ signer.network.name ++ ", but wallet is connected to "
        ++ walletNetwork.name))

/-- The transaction of `buildTransaction` on an account, `none` when this throws. -/
def TransactionSigner.assemble (signer : TransactionSigner) (sdk : SignerSdk)
    (params : TransactionBuildParams) (account : Account) : Option Transaction := do
  let operations ← params.operations.mapM sdk.buildContractCallOperation
  let builder : TransactionBuilder :=
    {
      source := account
      fee := params.fee.getD signer.defaultFee
      networkPassphrase := signer.networkPassphrase
    }
  let builder := operations.foldl TransactionBuilder.addOperation builder
  let builder ← (sdk.addMemoText builder params.memo).toOption
  return sdk.build (builder.setTimeout (params.timeoutInSeconds.getD signer.defaultTimeout))

/-- `buildTransaction`. -/
def NetworkSigner.buildTransactionCall (signer : NetworkSigner) (sdk : FlowSdk)
    (params : TransactionBuildParams) : Call Transaction := do
  let account ← Call.getAccountWithCache params.sourceAccount
  sdk.orThrow (signer.assemble sdk.toSignerSdk params account)

/-- A simulation that has to succeed. -/
def simulateSuccessfully (transaction : Transaction) : Call SimulationSuccess := do
  let simulation ← Call.simulateTransaction transaction
  match simulation with
  | .success response => pure response
  | .failure error =>
      .fail (.error ("Transaction simulation failed: " ++ error.getD "undefined"))

/-- `TransactionResult.raw`: the last answer, or the message of an error. -/
inductive RawResult where
  | final (result : PollResult)
  | error (message : Option String)

/-- `TransactionResult`. -/
structure TransactionResult where
  hash : String
  status : String
  successful : Bool
  raw : RawResult
  signedXdr : String
  simulation : Option SimulationSuccess := none

/-- The end of a call: the transaction is signed, sent, and polled for. -/
def signAndSubmit (networkPassphrase transactionXdr : String)
    (simulation : Option SimulationSuccess) : Call TransactionResult := do
  let signedXdr ← Call.signTransaction transactionXdr networkPassphrase
  let result ← Call.sendTransaction signedXdr
  let finalResult ← Call.pollTransaction result.hash
  return {
    hash := result.hash
    status := finalResult.status
    successful := finalResult.status = "SUCCESS"
    raw := .final finalResult
    signedXdr := signedXdr
    simulation := simulation
  }

/-- The text that is signed, and the simulation that it was prepared with. -/
def NetworkSigner.prepareCall (signer : NetworkSigner) (sdk : FlowSdk) (transaction : Transaction)
    : Call (String × Option SimulationSuccess) :=
  if signer.autoSimulate then do
    let simulation ← simulateSuccessfully transaction
    let preparedTransaction ← Call.prepareTransaction transaction simulation
    let transactionXdr ← sdk.orThrow (sdk.auth.toXDR preparedTransaction)
    return (transactionXdr, some simulation)
  else do
    let transactionXdr ← sdk.orThrow (sdk.transactionXDR transaction)
    return (transactionXdr, none)

/-- What an error of a call is to those who catch it. -/
def FlowError.reason : FlowError → Rejection
  | .rejected reason | .library reason => reason
  | .error message | .networkMismatch message => .error message
  | .slippageToleranceExceeded expected actual tolerance =>
      .error
        ("Slippage tolerance exceeded: expected at least " ++ toString expected
          ++ " shares, but simulation returned " ++ toString actual ++ ". Tolerance was "
          ++ toString tolerance ++ ".")

/-- `buildAndSignTransaction`. -/
def NetworkSigner.buildAndSignTransaction (signer : NetworkSigner) (sdk : FlowSdk)
    (params : TransactionBuildParams) : Call TransactionResult := do
  signer.validateNetworks
  let transaction ← signer.buildTransactionCall sdk params
  let (transactionXdr, simulation) ← signer.prepareCall sdk transaction
  signAndSubmit signer.networkPassphrase transactionXdr simulation

end Axionvera.Signing
