import Axionvera.Contracts.OrderlyCalls

/-! Calls of methods and of the vault, from their first question to their end: what is submitted,
and that the limits of deposits and withdrawals are checked before anything is signed.
-/

namespace Axionvera.Contracts

open Axionvera.Foundation
open Axionvera.Signing
open Axionvera.Soroban
open Axionvera.Client.SequenceCache

variable {contract : BaseContract} {history : List CallExchange}

-----------------------------------------------------------------------------------------
-- Calls of methods
-----------------------------------------------------------------------------------------

/-- (MayAsk contract txBuilder maySign history question) requires the questions of a call without a
builder to be orderly. With a builder, a call asks for the key of the wallet at most, and adds
something to this builder.
-/
def MayAsk (contract : BaseContract) (txBuilder : Option Nat)
    (maySign : List CallExchange → String → Prop) (history : List CallExchange)
    (question : Question) : Prop :=
  match txBuilder with
  | none => IsOrderly contract.networkPassphrase maySign history question
  | some number => question = .getPublicKey ∨ ∃ operation, question = .addOperation number operation

/-- (EndsAsAsked contract txBuilder history result) requires a call that succeeds to end with a
transaction that was submitted, or with the builder that it was given.
-/
def EndsAsAsked (contract : BaseContract) (txBuilder : Option Nat) (history : List CallExchange)
    : Except FlowError InvokeResult → Prop
  | .ok (.result result) =>
      txBuilder = none ∧ IsSubmitted contract.networkPassphrase history result
  | .ok (.txBuilder number) => txBuilder = some number
  | .error _ => True

/-- A call with a builder asks for nothing but a key, and adds an operation. -/
theorem keeps_invokeMethod_builder {sdk : FlowSdk} {method : String} {scVals : Option (List ScVal)}
    {options : InvokeMethodOptions} {number : Nat} (isGiven : options.txBuilder = some number)
    (maySign : List CallExchange → String → Prop)
    : (contract.invokeMethod sdk method scVals options).Keeps
        (MayAsk contract (some number) maySign) (EndsAsAsked contract (some number)) history := by
  rw [BaseContract.invokeMethod]
  refine sdk.keeps_orThrow_bind trivial fun args _ => ?_
  refine keeps_orPublicKey_bind (fun _ => .inl rfl) (fun _ _ => trivial) fun _ _ _ _ _ => ?_
  refine sdk.keeps_orThrow_bind trivial fun operation _ => ?_
  rw [isGiven, Dialogue.keeps_request_bind]
  exact ⟨.inr ⟨operation, rfl⟩, fun _ => trivial, fun _ => rfl⟩

/-- A call of a method, with a builder or without, asks what it may and ends as it should. -/
theorem keeps_invokeMethod_mayAsk {sdk : FlowSdk} {method : String} {scVals : Option (List ScVal)}
    (options : InvokeMethodOptions) {maySign : List CallExchange → String → Prop}
    (clean : IsClean history)
    (canSign
      : options.txBuilder = none
        → ∀ later transactionXdr,
            history <+: later
            → SignsMethod contract sdk method scVals options later transactionXdr
            → maySign later transactionXdr)
    : (contract.invokeMethod sdk method scVals options).Keeps
        (MayAsk contract options.txBuilder maySign) (EndsAsAsked contract options.txBuilder)
        history := by
  cases isGiven : options.txBuilder with
  | some number => exact keeps_invokeMethod_builder isGiven maySign
  | none =>
      exact keeps_invokeMethod clean isGiven (canSign isGiven) (fun _ _ => trivial)
        fun _ _ isSubmitted => ⟨rfl, isSubmitted⟩

/-- Nothing has been asked at first. -/
theorem isClean_nil : IsClean [] :=
  ⟨List.forall_mem_nil _, List.forall_mem_nil _⟩

/-- Whatever the client and the wallet answer, a call of a method without a builder has the wallet
sign at most once, and only what was prepared for this call; it sends what the wallet signed, polls
for what was sent, and asks nothing more once something has failed.
-/
theorem invokeMethod_asks_in_order (contract : BaseContract) (sdk : FlowSdk) (method : String)
    (scVals : Option (List ScVal)) (options : InvokeMethodOptions)
    (clientAndWallet : ClientAndWallet)
    : Dialogue.Justified
        (MayAsk contract options.txBuilder (SignsMethod contract sdk method scVals options))
        ((contract.invokeMethod sdk method scVals options).run clientAndWallet []).1
      ∧ EndsAsAsked contract options.txBuilder
          ((contract.invokeMethod sdk method scVals options).run clientAndWallet []).1
          ((contract.invokeMethod sdk method scVals options).run clientAndWallet []).2 :=
  (keeps_invokeMethod_mayAsk options isClean_nil fun _ _ _ _ signs => signs).run clientAndWallet
    Dialogue.throughout_nil

-----------------------------------------------------------------------------------------
-- The limits of deposits and withdrawals
-----------------------------------------------------------------------------------------

variable {sdk : VaultSdk}

/-- (IsWithinLimit contract sdk method amount limit isExceeded history) requires a limit, if there
is one, to accept what a simulation of the method with the amount has returned.
-/
def IsWithinLimit (contract : BaseContract) (sdk : VaultSdk) (method : String) (amount : Int)
    (limit : Option Int) (isExceeded : Int → Int → Bool) (history : List CallExchange) : Prop :=
  ∀ bound, limit = some bound →
    ∃ scVal operation simulation simulated,
      i128Argument sdk.toFlowSdk amount = some scVal
      ∧ sdk.buildContractCallOperation ⟨contract.contractId, method, some [.scVal scVal]⟩
        = some operation
      ∧ Answered history
          (.simulateTransaction (sdk.readOnlyTransaction contract.networkPassphrase operation))
          simulation
      ∧ sdk.previewOf method simulation = .ok simulated
      ∧ isExceeded simulated bound = false

/-- What was accepted stays so while the history goes on. -/
theorem IsWithinLimit.still {method : String} {amount : Int} {limit : Option Int}
    {isExceeded : Int → Int → Bool} {later : List CallExchange}
    (within : IsWithinLimit contract sdk method amount limit isExceeded history)
    (goesOn : history <+: later)
    : IsWithinLimit contract sdk method amount limit isExceeded later := by
  intro bound isBound
  obtain ⟨scVal, operation, simulation, simulated, isArgument, isBuilt, answered, rest⟩ :=
    within bound isBound
  exact ⟨scVal, operation, simulation, simulated, isArgument, isBuilt, answered.still goesOn,
    rest⟩

/-- Only what is within the limit is gone on with, unless there is a builder, for which nothing is
asked.
-/
theorem keeps_checkSlippage_bind {α : Type} {next : Unit → Call α} {method : String} {amount : Int}
    {txBuilder : Option Nat} {limit : Option Int} {isExceeded : Int → Int → Bool}
    {maySign : List CallExchange → String → Prop}
    {ends : List CallExchange → Except FlowError α → Prop} (clean : IsClean history)
    (fails : ∀ later error, ends later (.error error))
    (keeps
      : ∀ later,
          history <+: later
          → IsClean later
          → (txBuilder = none
            → IsWithinLimit contract sdk method amount limit isExceeded later)
          → (next ()).Keeps (MayAsk contract txBuilder maySign) ends later)
    : (contract.checkSlippage sdk method amount txBuilder limit isExceeded >>= next).Keeps
        (MayAsk contract txBuilder maySign) ends history := by
  rw [BaseContract.checkSlippage.eq_def]
  cases limit with
  | none => exact keeps history (List.prefix_refl _) clean fun _ _ isBound =>
      (Option.some_ne_none _ isBound.symm).elim
  | some bound =>
      cases txBuilder with
      | some number =>
          exact keeps history (List.prefix_refl _) clean fun notGiven =>
            absurd notGiven (Option.some_ne_none number)
      | none =>
          simp only [BaseContract.simulateReadOnly, bind_assoc]
          refine sdk.keeps_orThrow_bind (fails _ _) fun scVal isArgument => ?_
          refine sdk.keeps_orThrow_bind (fails _ _) fun operation isBuilt => ?_
          rw [Dialogue.keeps_request_bind]
          refine ⟨clean.isOrderly trivial, fun error => fails _ _, fun simulation => ?_⟩
          cases previewed : sdk.previewOf method simulation with
          | error error => exact fails _ _
          | ok simulated =>
              rw [Dialogue.ofExcept, Dialogue.done_bind]
              cases exceeds : isExceeded simulated bound with
              | true => exact fails _ _
              | false =>
                  refine keeps _ (List.prefix_append history _) (clean.append _ simulation rfl) ?_
                  rintro _ _ ⟨⟩
                  exact ⟨scVal, operation, simulation, simulated, isArgument, isBuilt,
                    answered_last _ simulation, previewed, exceeds⟩

/-- (SignsDeposit contract sdk params history transactionXdr) requires the text to be prepared for
the deposit, behind a simulation of `preview_deposit` that has returned the minimum of shares.
-/
def SignsDeposit (contract : BaseContract) (sdk : VaultSdk) (params : DepositParams)
    (history : List CallExchange) (transactionXdr : String) : Prop :=
  IsWithinLimit contract sdk "preview_deposit" params.amount params.minSharesOut
    (fun simulatedShares minSharesOut => decide (simulatedShares < minSharesOut)) history
  ∧ ∃ sender,
      IsGivenOrKey params.from? history sender
      ∧ SignsMethod contract sdk.toFlowSdk "deposit"
          (amountAndAddress sdk.toFlowSdk params.amount sender)
          {
            txBuilder := params.txBuilder
            authEntries := params.authEntries
            sourceAccount := some sender
          }
          history transactionXdr

/-- (SignsWithdrawal contract sdk params history transactionXdr) requires the text to be prepared
for the withdrawal, behind a simulation of `preview_withdraw` that has returned no more than the
maximum of assets.
-/
def SignsWithdrawal (contract : BaseContract) (sdk : VaultSdk) (params : WithdrawParams)
    (history : List CallExchange) (transactionXdr : String) : Prop :=
  IsWithinLimit contract sdk "preview_withdraw" params.amount params.maxAssetsIn
    (fun simulatedAssetsIn maxAssetsIn => decide (maxAssetsIn < simulatedAssetsIn)) history
  ∧ ∃ receiver sourceAccount,
      IsGivenOrKey params.to? history receiver
      ∧ Answered history .getPublicKey sourceAccount
      ∧ SignsMethod contract sdk.toFlowSdk "withdraw"
          (amountAndAddress sdk.toFlowSdk params.amount receiver)
          {
            txBuilder := params.txBuilder
            authEntries := params.authEntries
            sourceAccount := some sourceAccount
          }
          history transactionXdr

/-- A clean call may ask for the key of the wallet. -/
theorem IsClean.mayAskKey {txBuilder : Option Nat} {maySign : List CallExchange → String → Prop}
    (clean : IsClean history)
    : MayAsk contract txBuilder maySign history .getPublicKey := by
  cases txBuilder with
  | none => exact clean.isOrderly trivial
  | some number => exact .inl rfl

/-- A deposit asks what it may and ends as it should. -/
theorem keeps_deposit (params : DepositParams)
    : (contract.deposit sdk params).Keeps
        (MayAsk contract params.txBuilder (SignsDeposit contract sdk params))
        (EndsAsAsked contract params.txBuilder) [] := by
  rw [BaseContract.deposit]
  refine keeps_orPublicKey_bind (fun _ => isClean_nil.mayAskKey) (fun _ _ => trivial)
    fun later sender goesOn clean isSender => ?_
  refine keeps_checkSlippage_bind (clean isClean_nil) (fun _ _ => trivial)
    fun last more clean within => ?_
  refine keeps_invokeMethod_mayAsk ⟨params.txBuilder, params.authEntries, some sender⟩ clean
    fun noBuilder final text onwards signs => ?_
  exact ⟨(within noBuilder).still onwards, sender, isSender.still (more.trans onwards),
    signs⟩

/-- A withdrawal asks what it may and ends as it should. -/
theorem keeps_withdraw (params : WithdrawParams)
    : (contract.withdraw sdk params).Keeps
        (MayAsk contract params.txBuilder (SignsWithdrawal contract sdk params))
        (EndsAsAsked contract params.txBuilder) [] := by
  rw [BaseContract.withdraw]
  refine keeps_orPublicKey_bind (fun _ => isClean_nil.mayAskKey) (fun _ _ => trivial)
    fun later receiver goesOn clean isReceiver => ?_
  rw [Dialogue.keeps_request_bind]
  refine ⟨(clean isClean_nil).mayAskKey, fun _ => trivial, fun sourceAccount => ?_⟩
  have isSource
      : Answered (later ++ [⟨.getPublicKey, .ok sourceAccount⟩]) .getPublicKey sourceAccount :=
    answered_last _ sourceAccount
  refine keeps_checkSlippage_bind ((clean isClean_nil).append _ sourceAccount rfl)
    (fun _ _ => trivial) fun last more clean within => ?_
  refine keeps_invokeMethod_mayAsk ⟨params.txBuilder, params.authEntries, some sourceAccount⟩ clean
    fun noBuilder final text onwards signs => ?_
  exact ⟨(within noBuilder).still onwards, receiver, sourceAccount,
    isReceiver.still ((List.prefix_append later _).trans (more.trans onwards)),
    isSource.still (more.trans onwards), signs⟩

/-- Whatever the client and the wallet answer, the wallet is asked to sign a deposit at most once,
and only behind a simulation that has returned the minimum of shares; a withdrawal, only behind one
that has returned no more than the maximum of assets. With a builder nothing is simulated, signed or
sent.
-/
theorem limits_are_checked_before_signing (contract : BaseContract) (sdk : VaultSdk)
    (deposit : DepositParams) (withdrawal : WithdrawParams) (clientAndWallet : ClientAndWallet)
    : (Dialogue.Justified
          (MayAsk contract deposit.txBuilder (SignsDeposit contract sdk deposit))
          ((contract.deposit sdk deposit).run clientAndWallet []).1
        ∧ EndsAsAsked contract deposit.txBuilder
            ((contract.deposit sdk deposit).run clientAndWallet []).1
            ((contract.deposit sdk deposit).run clientAndWallet []).2)
      ∧ Dialogue.Justified
          (MayAsk contract withdrawal.txBuilder (SignsWithdrawal contract sdk withdrawal))
          ((contract.withdraw sdk withdrawal).run clientAndWallet []).1
      ∧ EndsAsAsked contract withdrawal.txBuilder
          ((contract.withdraw sdk withdrawal).run clientAndWallet []).1
          ((contract.withdraw sdk withdrawal).run clientAndWallet []).2 :=
  ⟨(keeps_deposit deposit).run clientAndWallet Dialogue.throughout_nil,
    (keeps_withdraw withdrawal).run clientAndWallet Dialogue.throughout_nil⟩

end Axionvera.Contracts
