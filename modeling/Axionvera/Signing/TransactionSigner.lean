import Axionvera.Client.AccountFallback
import Axionvera.Codegen.ArgumentValues

/-! Transactions that are built for contract calls: `buildTransaction` of
`transaction/transactionSigner.ts` and `buildTransactionWithMemo` of
`transaction/enhancedTransactionBuilder.ts`. The accounts come from the client, with its cache.
-/

namespace Axionvera.Signing

open Axionvera.Errors
open Axionvera.Foundation (JsNumber)
open Axionvera.Soroban (ScAddress ScVal)
open Axionvera.Client.SequenceCache

-----------------------------------------------------------------------------------------
-- Operations
-----------------------------------------------------------------------------------------

/-- `ContractCallArg`. -/
inductive ContractCallArg where
  | null
  | address (address : ScAddress)
  | text (value : String)
  | number (value : JsNumber)
  | bigint (value : Int)
  | boolean (value : Bool)
  | scVal (value : ScVal)

/-- `ContractCallParams`. -/
structure ContractCallParams where
  contractId : String
  method : String
  args : Option (List ContractCallArg) := none

/-- An operation that calls a contract. -/
structure Operation where
  contractId : String
  method : String
  args : List ScVal

/-- The value of a memo: a text or a buffer. -/
inductive MemoValue where
  | text (value : String)
  | buffer (bytes : List UInt8)
  deriving DecidableEq, Repr

/-- `Memo`. -/
inductive Memo where
  | none
  | text (value : MemoValue)
  | id (value : String)
  | hash (value : MemoValue)
  | returnHash (value : MemoValue)
  deriving DecidableEq, Repr

-----------------------------------------------------------------------------------------
-- The builder of the library
-----------------------------------------------------------------------------------------

/-- `Transaction`. -/
structure Transaction where
  source : String
  sequence : Int
  fee : Nat
  networkPassphrase : String
  operations : List Operation
  memo : Memo
  timeout : Nat

/-- A call of a method of a `TransactionBuilder`. -/
inductive BuilderCall where
  | addOperation (operation : Operation)
  | addMemo (memo : Memo)
  | setTimeout (timeout : Nat)

/-- `TransactionBuilder`: what it is made with, the fee being that of one operation, and what is
called on it.
-/
structure TransactionBuilder where
  source : Account
  fee : Nat
  networkPassphrase : String
  calls : List BuilderCall := []

/-- `addOperation`. -/
def TransactionBuilder.addOperation (builder : TransactionBuilder) (operation : Operation)
    : TransactionBuilder :=
  { builder with calls := builder.calls ++ [.addOperation operation] }

/-- `addMemo`. -/
def TransactionBuilder.addMemo (builder : TransactionBuilder) (memo : Memo) : TransactionBuilder :=
  { builder with calls := builder.calls ++ [.addMemo memo] }

/-- `setTimeout`. -/
def TransactionBuilder.setTimeout (builder : TransactionBuilder) (timeout : Nat)
    : TransactionBuilder :=
  { builder with calls := builder.calls ++ [.setTimeout timeout] }

/-- What is used of `stellar-sdk` beyond the conversion of values: which texts are contracts, which
memos can be made, `TransactionBuilder.memoText`, which is `none` when it throws, as it does in a
library that has no such method, and what `build` makes of a builder.
-/
structure SignerSdk extends Codegen.StellarSdk where
  isContractId : String → Bool
  isMemo : Memo → Bool
  memoText : MemoValue → Option Memo
  build : TransactionBuilder → Transaction

-----------------------------------------------------------------------------------------
-- Calls of contracts
-----------------------------------------------------------------------------------------

/-- `toScVal`, `none` when it throws. -/
def SignerSdk.toScVal (sdk : SignerSdk) : ContractCallArg → Option ScVal
  | .null => some .void
  | .address address => some (.address address)
  | .text value =>
      match sdk.addressOf value with
      | some address => some (.address address)
      | none => sdk.nativeToScVal (.text value)
  | .number value => sdk.nativeToScVal (.number value)
  | .bigint value => sdk.typedInteger .i128 value
  | .boolean value => sdk.nativeToScVal (.boolean value)
  | .scVal value => some value

/-- `buildContractCallOperation`, `none` when it throws. -/
def SignerSdk.buildContractCallOperation (sdk : SignerSdk) (params : ContractCallParams)
    : Option Operation :=
  if sdk.isContractId params.contractId then
    ((params.args.getD []).mapM sdk.toScVal).map fun scVals =>
      ⟨params.contractId, params.method, scVals⟩
  else none

-----------------------------------------------------------------------------------------
-- Accounts
-----------------------------------------------------------------------------------------

/-- What happens while an account is fetched: how the fetch ends and when, and what other calls have
made of the cache by then.
-/
structure FetchEvent where
  outcome : Except Thrown Account
  now : Nat
  others : AccountSequenceCache → AccountSequenceCache := id

/-- What a client knows of accounts: its cache, and how many accounts were asked for. -/
structure AccountWorld where
  cache : AccountSequenceCache
  fetches : Nat

/-- `TransactionSigner`, with what is used of its client. -/
structure TransactionSigner where
  accounts : AccountConfig
  networkPassphrase : String
  defaultFee : Nat := 100000
  defaultTimeout : Nat := 60

/-- The account of a call of `getAccountWithCache` that has returned. -/
def accountOf : AccountResult → Except AxionveraError Account
  | .fetched account | .fallback account => .ok account
  | .rejected error => .error error

/-- `getAccountWithCache`, for given events of fetches. -/
def TransactionSigner.getAccountWithCache (signer : TransactionSigner) (events : Nat → FetchEvent)
    (publicKey : String) (world : AccountWorld) : Except AxionveraError Account × AccountWorld :=
  let event := events world.fetches
  let (result, cache) :=
    finishAccountFetch signer.accounts (event.others world.cache) event.now publicKey event.outcome
  (accountOf result, ⟨cache, world.fetches + 1⟩)

-----------------------------------------------------------------------------------------
-- Building transactions
-----------------------------------------------------------------------------------------

/-- What a call rejects with: the error of an account, or what an operation or memo throws. -/
inductive BuildError where
  | account (error : AxionveraError)
  | operation
  | memo

/-- `TransactionBuildParams`, as far as a transaction is built from them. -/
structure TransactionBuildParams where
  sourceAccount : String
  operations : List ContractCallParams
  fee : Option Nat := none
  timeoutInSeconds : Option Nat := none
  memo : Option MemoValue := none

/-- The value counts as true in a condition. -/
def MemoValue.isTruthy : MemoValue → Bool
  | .text value => value ≠ ""
  | .buffer _ => true

/-- The memo that is added if one is given: none for an empty text. -/
def SignerSdk.addMemoText (sdk : SignerSdk) (builder : TransactionBuilder)
    (memo : Option MemoValue) : Except BuildError TransactionBuilder :=
  match memo.filter MemoValue.isTruthy with
  | none => .ok builder
  | some value =>
      match sdk.memoText value with
      | some memo => .ok (builder.addMemo memo)
      | none => .error .memo

/-- `buildTransaction`. -/
def TransactionSigner.buildTransaction (signer : TransactionSigner) (sdk : SignerSdk)
    (events : Nat → FetchEvent) (params : TransactionBuildParams) (world : AccountWorld)
    : Except BuildError Transaction × AccountWorld :=
  match signer.getAccountWithCache events params.sourceAccount world with
  | (.error error, after) => (.error (.account error), after)
  | (.ok account, after) =>
      match params.operations.mapM sdk.buildContractCallOperation with
      | none => (.error .operation, after)
      | some operations =>
          let builder : TransactionBuilder :=
            {
              source := account
              fee := params.fee.getD signer.defaultFee
              networkPassphrase := signer.networkPassphrase
            }
          let builder := operations.foldl TransactionBuilder.addOperation builder
          match sdk.addMemoText builder params.memo with
          | .error error => (.error error, after)
          | .ok builder =>
              let timeout := params.timeoutInSeconds.getD signer.defaultTimeout
              (.ok (sdk.build (builder.setTimeout timeout)), after)

/-- The kinds of memos. -/
inductive MemoKind where
  | text
  | id
  | hash
  | returnHash
  deriving DecidableEq, Repr

/-- The memo of `buildTransactionWithMemo`. -/
structure MemoParams where
  type : MemoKind
  value : MemoValue

/-- `value.toString()`. -/
def MemoValue.toText (sdk : SignerSdk) : MemoValue → String
  | .text value => value
  | .buffer bytes => sdk.utf8Text bytes

/-- The memo of the given kind with the given value. -/
def MemoParams.given (sdk : SignerSdk) (memo : MemoParams) : Memo :=
  match memo.type with
  | .text => .text memo.value
  | .id => .id (memo.value.toText sdk)
  | .hash => .hash memo.value
  | .returnHash => .returnHash memo.value

/-- `buildTransactionWithMemo`. Behind a memo that is no text, the transaction of `buildTransaction`
is discarded.
-/
def TransactionSigner.buildTransactionWithMemo (signer : TransactionSigner) (sdk : SignerSdk)
    (events : Nat → FetchEvent) (sourceAccount : String) (operations : List ContractCallParams)
    (memo : MemoParams) (world : AccountWorld) : Except BuildError Transaction × AccountWorld :=
  let buildParams : TransactionBuildParams :=
    {
      sourceAccount := sourceAccount
      operations := operations
      memo := if memo.type = .text then some memo.value else none
    }
  match signer.buildTransaction sdk events buildParams world with
  | (.error error, after) => (.error error, after)
  | (.ok transaction, after) =>
      if memo.type = .text then (.ok transaction, after)
      else
        match signer.getAccountWithCache events sourceAccount after with
        | (.error error, after) => (.error (.account error), after)
        | (.ok account, after) =>
            if sdk.isMemo (memo.given sdk) then
              let builder : TransactionBuilder :=
                {
                  source := account
                  fee := signer.defaultFee
                  networkPassphrase := signer.networkPassphrase
                }
              let builder := builder.addMemo (memo.given sdk)
              (.ok (sdk.build (builder.setTimeout signer.defaultTimeout)), after)
            else (.error .memo, after)

end Axionvera.Signing
