import Axionvera.Contracts.SlippageProtection
import Axionvera.Signing.BatchAgreement

/-! Calls of the vault that share a builder, all of them at the same time: each call that succeeds
has added its operation, and nothing is simulated or signed.
-/

namespace Axionvera.Contracts

open Axionvera.Foundation
open Axionvera.Signing
open Axionvera.Soroban

-----------------------------------------------------------------------------------------
-- Calls with a builder
-----------------------------------------------------------------------------------------

/-- The calls of the vault that change something. -/
inductive VaultCall where
  | deposit (params : DepositParams)
  | withdraw (params : WithdrawParams)
  | claimRewards (params : ClaimRewardsParams)

/-- The call, with the given builder. -/
def VaultCall.composed (contract : BaseContract) (sdk : VaultSdk) (txBuilder : Nat)
    : VaultCall → Call InvokeResult
  | .deposit params => contract.deposit sdk { params with txBuilder := some txBuilder }
  | .withdraw params => contract.withdraw sdk { params with txBuilder := some txBuilder }
  | .claimRewards params => contract.claimRewards sdk { params with txBuilder := some txBuilder }

/-- (IsCallOf contract sdk method scVals operation) requires the operation to be the call of the
method with these arguments.
-/
def IsCallOf (contract : BaseContract) (sdk : VaultSdk) (method : String)
    (scVals : Option (List ScVal)) (operation : Signing.Operation) : Prop :=
  ∃ args,
    scVals = some args
    ∧ sdk.buildContractCallOperation ⟨contract.contractId, method, some (args.map .scVal)⟩
      = some operation

/-- (VaultCall.IsOperation contract sdk history operation call) requires the operation to be that of
the call, with its amount and the account that is given or that of the wallet.
-/
def VaultCall.IsOperation (contract : BaseContract) (sdk : VaultSdk) (history : List CallExchange)
    (operation : Signing.Operation) : VaultCall → Prop
  | .deposit params =>
      ∃ sender,
        IsGivenOrKey params.from? history sender
        ∧ IsCallOf contract sdk "deposit" (amountAndAddress sdk.toFlowSdk params.amount sender)
            operation
  | .withdraw params =>
      ∃ receiver,
        IsGivenOrKey params.to? history receiver
        ∧ IsCallOf contract sdk "withdraw" (amountAndAddress sdk.toFlowSdk params.amount receiver)
            operation
  | .claimRewards _ => IsCallOf contract sdk "claim_rewards" (some []) operation

/-- The operation that an exchange has added to a builder. -/
def addedOperation (txBuilder : Nat) : CallExchange → Option Signing.Operation
  | ⟨.addOperation number operation, .ok _⟩ => if number = txBuilder then some operation else none
  | _ => none

/-- The operations that were added to a builder, in their order. -/
def addedTo (txBuilder : Nat) (history : List CallExchange) : List Signing.Operation :=
  history.filterMap (addedOperation txBuilder)

/-- (IsComposing contract sdk txBuilder call history question) requires the key of the wallet to be
asked for, or the operation of the call to be added to its builder, and nothing to be added so far.
-/
def IsComposing (contract : BaseContract) (sdk : VaultSdk) (txBuilder : Nat) (call : VaultCall)
    (history : List CallExchange) (question : Question) : Prop :=
  addedTo txBuilder history = []
  ∧ (question = .getPublicKey
    ∨ ∃ operation,
        question = .addOperation txBuilder operation
        ∧ call.IsOperation contract sdk history operation)

/-- (IsComposed contract sdk txBuilder call history result) requires a call that succeeds to have
added its operation and nothing else, and one that fails to have added nothing.
-/
def IsComposed (contract : BaseContract) (sdk : VaultSdk) (txBuilder : Nat) (call : VaultCall)
    (history : List CallExchange) : Except FlowError InvokeResult → Prop
  | .ok result =>
      result = .txBuilder txBuilder
      ∧ ∃ operation,
          addedTo txBuilder history = [operation]
          ∧ call.IsOperation contract sdk history operation
  | .error _ => addedTo txBuilder history = []

variable {contract : BaseContract} {sdk : VaultSdk} {txBuilder : Nat} {history : List CallExchange}

/-- A failing question adds nothing. -/
theorem addedTo_append_error (question : Question) (error : FlowError)
    (noneAdded : addedTo txBuilder history = [])
    : addedTo txBuilder (history ++ [⟨question, .error error⟩]) = [] := by
  rw [addedTo, List.filterMap_append, ← addedTo, noneAdded]
  cases question <;> rfl

/-- The operation of a call stays so while the history goes on. -/
theorem VaultCall.IsOperation.still {call : VaultCall} {operation : Signing.Operation}
    {later : List CallExchange} (isOperation : call.IsOperation contract sdk history operation)
    (goesOn : history <+: later)
    : call.IsOperation contract sdk later operation := by
  cases call with
  | deposit params =>
      obtain ⟨sender, isSender, isCall⟩ := isOperation
      exact ⟨sender, isSender.still goesOn, isCall⟩
  | withdraw params =>
      obtain ⟨receiver, isReceiver, isCall⟩ := isOperation
      exact ⟨receiver, isReceiver.still goesOn, isCall⟩
  | claimRewards params => exact isOperation

/-- A call of a method on a given account adds the operation of its call, if it can be built. -/
theorem keeps_invokeMethod_composed {call : VaultCall} {method sourceAccount : String}
    {scVals : Option (List ScVal)} {authEntries : List SorobanAuthorizationEntry}
    (noneAdded : addedTo txBuilder history = [])
    (isOperation
      : ∀ operation,
          IsCallOf contract sdk method scVals operation
          → call.IsOperation contract sdk history operation)
    : (contract.invokeMethod sdk.toFlowSdk method scVals
        {
          txBuilder := some txBuilder
          authEntries := authEntries
          sourceAccount := some sourceAccount
        }).Keeps
        (IsComposing contract sdk txBuilder call) (IsComposed contract sdk txBuilder call)
        history := by
  rw [BaseContract.invokeMethod]
  refine sdk.keeps_orThrow_bind noneAdded fun args areArgs => ?_
  rw [orPublicKey, pure_bind]
  refine sdk.keeps_orThrow_bind noneAdded fun operation isBuilt => ?_
  have isOwn := isOperation operation ⟨args, areArgs, isBuilt⟩
  rw [Dialogue.keeps_request_bind]
  refine ⟨⟨noneAdded, .inr ⟨operation, rfl, isOwn⟩⟩, fun error => ?_, fun _ => ?_⟩
  · exact addedTo_append_error _ error noneAdded
  · refine ⟨rfl, operation, ?_, isOwn.still (List.prefix_append history _)⟩
    rw [addedTo, List.filterMap_append, ← addedTo, noneAdded]
    simp [addedOperation]

/-- A key that is asked for adds nothing. -/
theorem keeps_getPublicKey_composed {call : VaultCall} {next : String → Call InvokeResult}
    (noneAdded : addedTo txBuilder history = [])
    (keeps
      : ∀ publicKey,
          addedTo txBuilder (history ++ [⟨.getPublicKey, .ok publicKey⟩]) = []
          → (next publicKey).Keeps (IsComposing contract sdk txBuilder call)
              (IsComposed contract sdk txBuilder call)
              (history ++ [⟨.getPublicKey, .ok publicKey⟩]))
    : (Call.getPublicKey >>= next).Keeps (IsComposing contract sdk txBuilder call)
        (IsComposed contract sdk txBuilder call) history := by
  rw [Dialogue.keeps_request_bind]
  refine ⟨⟨noneAdded, .inl rfl⟩, fun error => addedTo_append_error _ error noneAdded,
    fun publicKey => keeps publicKey ?_⟩
  rw [addedTo, List.filterMap_append, ← addedTo, noneAdded]
  rfl

/-- The account that is given, or the one of the wallet; nothing is added for it. -/
theorem keeps_orPublicKey_composed {call : VaultCall} {account : Option String}
    {next : String → Call InvokeResult} (noneAdded : addedTo txBuilder history = [])
    (keeps
      : ∀ later publicKey,
          addedTo txBuilder later = []
          → IsGivenOrKey account later publicKey
          → (next publicKey).Keeps (IsComposing contract sdk txBuilder call)
              (IsComposed contract sdk txBuilder call) later)
    : (orPublicKey account >>= next).Keeps (IsComposing contract sdk txBuilder call)
        (IsComposed contract sdk txBuilder call) history := by
  cases account with
  | some publicKey => exact keeps history publicKey noneAdded (.inl rfl)
  | none =>
      refine keeps_getPublicKey_composed noneAdded fun publicKey noneStill => ?_
      refine keeps _ publicKey noneStill (.inr ⟨rfl, ?_⟩)
      exact answered_last (A := Answer) .getPublicKey publicKey

/-- With a builder, limits are not looked at. -/
theorem checkSlippage_builder (method : String) (amount : Int) (limit : Option Int)
    (isExceeded : Int → Int → Bool)
    : contract.checkSlippage sdk method amount (some txBuilder) limit isExceeded = pure () := by
  cases limit <;> rfl

/-- A call with a builder adds its operation to it, or fails. -/
theorem keeps_composed (call : VaultCall)
    : (call.composed contract sdk txBuilder).Keeps (IsComposing contract sdk txBuilder call)
        (IsComposed contract sdk txBuilder call) [] := by
  cases call with
  | deposit params =>
      rw [VaultCall.composed, BaseContract.deposit]
      refine keeps_orPublicKey_composed rfl fun later sender noneAdded isSender => ?_
      rw [checkSlippage_builder, pure_bind]
      exact keeps_invokeMethod_composed noneAdded fun operation isCall =>
        ⟨sender, isSender, isCall⟩
  | withdraw params =>
      rw [VaultCall.composed, BaseContract.withdraw]
      refine keeps_orPublicKey_composed rfl fun later receiver noneAdded isReceiver => ?_
      refine keeps_getPublicKey_composed noneAdded fun sourceAccount noneStill => ?_
      rw [checkSlippage_builder, pure_bind]
      exact keeps_invokeMethod_composed noneStill fun operation isCall =>
        ⟨receiver, isReceiver.still (List.prefix_append later _), isCall⟩
  | claimRewards params =>
      rw [VaultCall.composed, BaseContract.claimRewards]
      refine keeps_getPublicKey_composed rfl fun sourceAccount noneStill => ?_
      exact keeps_invokeMethod_composed noneStill fun operation isCall => isCall

-----------------------------------------------------------------------------------------
-- Several calls with one builder
-----------------------------------------------------------------------------------------

/-- (HasAdded contract sdk txBuilder call history program) requires what is left of a call to have
added its operation exactly if the call has succeeded.
-/
def HasAdded (contract : BaseContract) (sdk : VaultSdk) (txBuilder : Nat) (call : VaultCall)
    (history : List CallExchange) (program : Call InvokeResult) : Prop :=
  (program = .done (.txBuilder txBuilder)
    ∧ ∃ operation,
        addedTo txBuilder history = [operation]
        ∧ call.IsOperation contract sdk history operation)
  ∨ (∀ result, program ≠ .done result) ∧ addedTo txBuilder history = []

/-- What keeps to the rules has added its operation exactly if it has succeeded. -/
theorem hasAdded_of_keeps {call : VaultCall} {program : Call InvokeResult}
    (keeps
      : program.Keeps (IsComposing contract sdk txBuilder call)
          (IsComposed contract sdk txBuilder call) history)
    : HasAdded contract sdk txBuilder call history program := by
  cases program with
  | done result =>
      obtain ⟨rfl, isAdded⟩ := keeps
      exact .inl ⟨rfl, isAdded⟩
  | fail error =>
      refine .inr ⟨fun result isDone => ?_, keeps⟩
      cases isDone
  | ask question next =>
      refine .inr ⟨fun result isDone => ?_, keeps.1.1⟩
      cases isDone

/-- Calls of the vault that share a builder, in any interleaving and whatever they are answered: the
builder has got one operation for each call that has succeeded, the one of this call, and no others.
All that is asked besides is the key of the wallet; so nothing is simulated, signed or sent, and no
limit is checked.
-/
theorem composed_calls_add_their_operations (contract : BaseContract) (sdk : VaultSdk)
    (txBuilder : Nat) {calls : List VaultCall}
    {turns : List (Conversations.Turn Question Answer FlowError)}
    {state : Conversations Question Answer FlowError InvokeResult}
    (reached
      : run Conversations.answer
          (Conversations.start (calls.map (VaultCall.composed contract sdk txBuilder))) turns
        = some state)
    : (addedTo txBuilder (state.asked.map (·.2))).Perm
          ((List.range calls.length).flatMap fun number => addedTo txBuilder (state.own number))
      ∧ ∀ (number : Nat) call,
          calls[number]? = some call
          → Dialogue.Justified (IsComposing contract sdk txBuilder call) (state.own number)
            ∧ ∃ program,
                state.programs[number]? = some program
                ∧ HasAdded contract sdk txBuilder call (state.own number) program := by
  refine ⟨?_, fun number call isCall => ?_⟩
  · have perm := (Conversations.perm_owns_of_run reached).filterMap (addedOperation txBuilder)
    rw [Conversations.owns, List.filterMap_flatMap, Conversations.length_of_run reached,
      List.length_map] at perm
    exact perm
  · obtain ⟨justified, left, isLeft, keeps⟩ :=
      Conversations.keeps_of_run_map (fun call => keeps_composed call) reached isCall
    exact ⟨justified, left, isLeft, hasAdded_of_keeps keeps⟩

/-- A library that reads integers of 128 bits only. -/
def sampleVaultSdk : VaultSdk where
  toFlowSdk := sampleFlowSdk
  scValFromXDR _ := none
  randomPublicKey := "GR"
  scValToNative
    | .i128 hi lo => .bigint (hi.toInt * 2 ^ 64 + lo.toNat)
    | _ => .other "object"

/-- A vault on the network of tests. -/
def sampleVault : BaseContract where
  contractId := "C"
  accounts := sampleSigner.accounts
  network := .testnet
  networkPassphrase := sampleSigner.networkPassphrase

/-- A wallet with a key, and a builder that takes every operation. -/
def composing : (question : Question) → Except FlowError (Answer question)
  | .getPublicKey => .ok "GA"
  | .addOperation _ _ => .ok ()
  | _ => .error (.error "unreachable")

/-- Two claims with one builder; the wallet declines the second one before the first has ended. -/
def oneDeclined : Conversations Question Answer FlowError InvokeResult where
  asked :=
    [
      (0, ⟨.getPublicKey, .ok "GA"⟩),
      (1, ⟨.getPublicKey, .error (.error "declined")⟩),
      (0, ⟨.addOperation 7 ⟨"C", "claim_rewards", []⟩, .ok ()⟩)
    ]
  programs := [.done (.txBuilder 7), .fail (.error "declined")]

/-- There, the builder has got one operation, that of the first call. -/
theorem composed_calls_add_their_operations_one_declined
    : (addedTo 7 (oneDeclined.asked.map (·.2))).Perm [⟨"C", "claim_rewards", []⟩]
      ∧ ∃ program,
          oneDeclined.programs[1]? = some program
          ∧ HasAdded sampleVault sampleVaultSdk 7 (.claimRewards {}) (oneDeclined.own 1) program :=
  have reached
      : run Conversations.answer
          (Conversations.start
            ([.claimRewards {}, .claimRewards {}].map
              (VaultCall.composed sampleVault sampleVaultSdk 7)))
          [(0, composing), (1, fun _ => .error (.error "declined")), (0, composing)]
        = some oneDeclined := rfl
  have ⟨perm, each⟩ := composed_calls_add_their_operations sampleVault sampleVaultSdk 7 reached
  ⟨perm, (each 1 (.claimRewards {}) rfl).2⟩

end Axionvera.Contracts
