import Axionvera.Signing.SigningFlow
import Axionvera.Soroban.SimulationParser

/-! Calls of contracts (`contracts/BaseContract.ts`) and of the vault
(`contracts/VaultContract.ts`), as programs that ask a client and a wallet.
-/

namespace Axionvera.Contracts

open Axionvera.Foundation
open Axionvera.Signing
open Axionvera.Soroban
open Axionvera.Client.SequenceCache

-----------------------------------------------------------------------------------------
-- Contracts in general
-----------------------------------------------------------------------------------------

/-- `BaseContract`, with what its client is configured with. -/
structure BaseContract where
  contractId : String
  accounts : AccountConfig
  network : AxionveraNetwork
  networkPassphrase : String

/-- `this.signer`. -/
def BaseContract.signer (contract : BaseContract) : NetworkSigner where
  accounts := contract.accounts
  networkPassphrase := contract.networkPassphrase
  network := contract.network

/-- `InvokeMethodOptions`; a builder is known by its number. -/
structure InvokeMethodOptions where
  txBuilder : Option Nat := none
  authEntries : List SorobanAuthorizationEntry := []
  sourceAccount : Option String := none

/-- What `invokeMethod` resolves with: the builder of the caller, or the result of a transaction. -/
inductive InvokeResult where
  | txBuilder (txBuilder : Nat)
  | result (result : TransactionResult)

/-- `value ?? await this.wallet.getPublicKey()`. -/
def orPublicKey : Option String → Call String
  | some value => pure value
  | none => Call.getPublicKey

/-- The path of `invokeMethod` with entries of its own, which does not go through
`buildAndSignTransaction`.
-/
def BaseContract.invokeWithAuth (contract : BaseContract) (sdk : FlowSdk)
    (params : TransactionBuildParams) (authEntries : List SorobanAuthorizationEntry)
    : Call TransactionResult := do
  let transaction ← contract.signer.buildTransactionCall sdk params
  let simulation ← simulateSuccessfully transaction
  let preparedTransaction ← Call.prepareTransaction transaction simulation
  let envelopeXdr ← sdk.orThrow (sdk.auth.toXDR preparedTransaction)
  signAndSubmit contract.networkPassphrase (sdk.auth.addAuthEntries envelopeXdr authEntries)
    (some simulation)

/-- The parameters of a transaction with a single call. -/
def BaseContract.buildParams (contract : BaseContract) (sourceAccount method : String)
    (scVals : List ScVal) : TransactionBuildParams where
  sourceAccount := sourceAccount
  operations := [⟨contract.contractId, method, some (scVals.map .scVal)⟩]

/-- `invokeMethod`, for given results of `toScVals(args)`. -/
def BaseContract.invokeMethod (contract : BaseContract) (sdk : FlowSdk) (method : String)
    (toScVals : Option (List ScVal)) (options : InvokeMethodOptions) : Call InvokeResult := do
  let scVals ← sdk.orThrow toScVals
  let sourceAccount ← orPublicKey options.sourceAccount
  let operation ←
    sdk.orThrow
      (sdk.buildContractCallOperation ⟨contract.contractId, method, some (scVals.map .scVal)⟩)
  let params := contract.buildParams sourceAccount method scVals
  match options.txBuilder with
  | some txBuilder => do
      Call.addOperation txBuilder operation
      return .txBuilder txBuilder
  | none =>
      if options.authEntries.isEmpty then
        return .result (← contract.signer.buildAndSignTransaction sdk params)
      else return .result (← contract.invokeWithAuth sdk params options.authEntries)

-----------------------------------------------------------------------------------------
-- Reading values of contracts
-----------------------------------------------------------------------------------------

/-- `scValToNative(retval)`: a `bigint`, or a value of another type. -/
inductive NativeValue where
  | bigint (value : Int)
  | other (typeName : String)

/-- What is used of the library to read values: texts of values, keys of random accounts, and
`scValToNative`.
-/
structure VaultSdk extends FlowSdk where
  scValFromXDR : String → Option ScVal
  randomPublicKey : String
  scValToNative : ScVal → NativeValue

/-- `nativeToScVal(value, { type: 'i128' })`, `none` when it throws. -/
def i128Argument (sdk : FlowSdk) (value : Int) : Option ScVal :=
  sdk.typedInteger .i128 value

/-- `new Address(address).toScVal()`. -/
def addressArgument (sdk : FlowSdk) (address : String) : Option ScVal :=
  (sdk.addressOf address).map .address

/-- The arguments of `deposit` and `withdraw`. -/
def amountAndAddress (sdk : FlowSdk) (amount : Int) (address : String) : Option (List ScVal) := do
  return [← i128Argument sdk amount, ← addressArgument sdk address]

/-- The transaction that `simulateReadOnly` simulates, on an account that need not exist. -/
def VaultSdk.readOnlyTransaction (sdk : VaultSdk) (networkPassphrase : String)
    (operation : Signing.Operation) : Transaction :=
  let builder : TransactionBuilder :=
    {
      source := ⟨sdk.randomPublicKey, 0⟩
      fee := 100
      networkPassphrase := networkPassphrase
    }
  sdk.build ((builder.addOperation operation).setTimeout 0)

/-- What `simulateReadOnly` makes of the answer to its simulation. -/
def VaultSdk.previewOf (sdk : VaultSdk) (method : String)
    : SimulationResponse → Except FlowError Int
  | .failure error =>
      .error (.error
        ("Vault preview simulation failed for " ++ method ++ ": " ++ error.getD "undefined"))
  | .success ⟨none, _⟩ =>
      .error (.error ("Vault preview simulation for " ++ method ++ " returned no value"))
  | .success ⟨some retval, _⟩ =>
      match sdk.scValToNative retval with
      | .bigint value => .ok value
      | .other typeName =>
          .error (.error
            ("Vault preview for " ++ method ++ " returned unexpected type " ++ typeName))

/-- `simulateReadOnly`. -/
def BaseContract.simulateReadOnly (contract : BaseContract) (sdk : VaultSdk) (method : String)
    (arg : Int) : Call Int := do
  let scVal ← sdk.orThrow (i128Argument sdk.toFlowSdk arg)
  let operation ←
    sdk.orThrow (sdk.buildContractCallOperation ⟨contract.contractId, method, some [.scVal scVal]⟩)
  let simulation ←
    Call.simulateTransaction (sdk.readOnlyTransaction contract.networkPassphrase operation)
  .ofExcept (sdk.previewOf method simulation)

/-- `query`, up to the value that the text of the first result stands for. -/
def BaseContract.query (contract : BaseContract) (sdk : VaultSdk) (method : String)
    (args : List ContractCallArg) : Call ScVal := do
  let sourceAccount ← Call.getPublicKey
  let transaction ←
    contract.signer.buildTransactionCall sdk.toFlowSdk
      { sourceAccount := sourceAccount, operations := [⟨contract.contractId, method, some args⟩] }
  let simulation ← Call.simulateTransaction transaction
  match simulation with
  | .failure error =>
      .fail (.error ("Simulation failed for " ++ method ++ ": " ++ error.getD "undefined"))
  | .success ⟨_, []⟩ => .fail (.error ("No simulation result for " ++ method))
  | .success ⟨_, xdr :: _⟩ => sdk.orThrow (sdk.scValFromXDR xdr)

-----------------------------------------------------------------------------------------
-- The vault
-----------------------------------------------------------------------------------------

/-- `DepositParams`. -/
structure DepositParams where
  amount : Int
  from? : Option String := none
  txBuilder : Option Nat := none
  minSharesOut : Option Int := none
  authEntries : List SorobanAuthorizationEntry := []

/-- `WithdrawParams`. -/
structure WithdrawParams where
  amount : Int
  to? : Option String := none
  txBuilder : Option Nat := none
  maxAssetsIn : Option Int := none
  authEntries : List SorobanAuthorizationEntry := []

/-- `ClaimRewardsParams`. -/
structure ClaimRewardsParams where
  txBuilder : Option Nat := none
  authEntries : List SorobanAuthorizationEntry := []

/-- The check of `deposit` and of `withdraw`: unless there is a builder, a limit that is given has
to accept what a simulation of the given method returns.
-/
def BaseContract.checkSlippage (contract : BaseContract) (sdk : VaultSdk) (method : String)
    (amount : Int) (txBuilder : Option Nat) (limit : Option Int) (isExceeded : Int → Int → Bool)
    : Call Unit :=
  match limit, txBuilder with
  | some limit, none => do
      let simulated ← contract.simulateReadOnly sdk method amount
      if isExceeded simulated limit then
        .fail (.slippageToleranceExceeded limit simulated limit)
      else pure ()
  | _, _ => pure ()

/-- `deposit`. -/
def BaseContract.deposit (contract : BaseContract) (sdk : VaultSdk) (params : DepositParams)
    : Call InvokeResult := do
  let sender ← orPublicKey params.from?
  contract.checkSlippage sdk "preview_deposit" params.amount params.txBuilder params.minSharesOut
    fun simulatedShares minSharesOut => decide (simulatedShares < minSharesOut)
  contract.invokeMethod sdk.toFlowSdk "deposit"
    (amountAndAddress sdk.toFlowSdk params.amount sender)
    {
      txBuilder := params.txBuilder
      authEntries := params.authEntries
      sourceAccount := some sender
    }

/-- `withdraw`. -/
def BaseContract.withdraw (contract : BaseContract) (sdk : VaultSdk) (params : WithdrawParams)
    : Call InvokeResult := do
  let receiver ← orPublicKey params.to?
  let sourceAccount ← Call.getPublicKey
  contract.checkSlippage sdk "preview_withdraw" params.amount params.txBuilder params.maxAssetsIn
    fun simulatedAssetsIn maxAssetsIn => decide (maxAssetsIn < simulatedAssetsIn)
  contract.invokeMethod sdk.toFlowSdk "withdraw"
    (amountAndAddress sdk.toFlowSdk params.amount receiver)
    {
      txBuilder := params.txBuilder
      authEntries := params.authEntries
      sourceAccount := some sourceAccount
    }

/-- `claimRewards`. -/
def BaseContract.claimRewards (contract : BaseContract) (sdk : VaultSdk)
    (params : ClaimRewardsParams) : Call InvokeResult := do
  let sourceAccount ← Call.getPublicKey
  contract.invokeMethod sdk.toFlowSdk "claim_rewards" (some [])
    {
      txBuilder := params.txBuilder
      authEntries := params.authEntries
      sourceAccount := some sourceAccount
    }

/-- `previewDeposit`. -/
def BaseContract.previewDeposit (contract : BaseContract) (sdk : VaultSdk) (assets : Int)
    : Call Int :=
  contract.simulateReadOnly sdk "preview_deposit" assets

/-- `previewWithdraw`. -/
def BaseContract.previewWithdraw (contract : BaseContract) (sdk : VaultSdk) (shares : Int)
    : Call Int :=
  contract.simulateReadOnly sdk "preview_withdraw" shares

/-- `decodeI128` of a value that was read; what it throws is of the language. -/
def VaultSdk.decodeI128 (sdk : VaultSdk) (value : ScVal) : Call Int :=
  sdk.orThrow (Soroban.BaseContract.decodeI128 value).toOption

/-- A value of an account, by a method that takes its address. -/
def BaseContract.queryAccount (contract : BaseContract) (sdk : VaultSdk) (method : String)
    (account : Option String) : Call Int := do
  let targetAccount ← orPublicKey account
  let scVal ← sdk.orThrow (addressArgument sdk.toFlowSdk targetAccount)
  let value ← contract.query sdk method [.scVal scVal]
  sdk.decodeI128 value

/-- `getBalance`. -/
def BaseContract.getBalance (contract : BaseContract) (sdk : VaultSdk) (account : Option String)
    : Call Int :=
  contract.queryAccount sdk "balance" account

/-- `getVaultShares`. -/
def BaseContract.getVaultShares (contract : BaseContract) (sdk : VaultSdk)
    (account : Option String) : Call Int :=
  contract.queryAccount sdk "shares_of" account

/-- `getExchangeRate`. -/
def BaseContract.getExchangeRate (contract : BaseContract) (sdk : VaultSdk) : Call Int := do
  let value ← contract.query sdk "exchange_rate" []
  sdk.decodeI128 value

end Axionvera.Contracts
