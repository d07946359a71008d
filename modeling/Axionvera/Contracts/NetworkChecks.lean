import Axionvera.Contracts.SlippageProtection

/-! Which calls have a wallet sign that is on another network than the client, and calls that only
read.
-/

namespace Axionvera.Contracts

open Axionvera.Foundation
open Axionvera.Signing
open Axionvera.Soroban
open Axionvera.Client.SequenceCache

/-- (IsElsewhere contract clientAndWallet) requires the wallet always to be on another network than
the client.
-/
def IsElsewhere (contract : BaseContract) (clientAndWallet : ClientAndWallet) : Prop :=
  ∀ history, ∃ network,
    clientAndWallet history .getNetwork = .ok network ∧ network ≠ contract.network

/-- The wallet was asked to sign. -/
def AsksToSign (history : List CallExchange) : Prop :=
  ∃ exchange ∈ history, submissionStep exchange.question = some .signing

/-- The call of the method can be built, and there are envelopes that can be written. -/
def CanBeSigned (contract : BaseContract) (sdk : FlowSdk) (method : String)
    (scVals : Option (List ScVal)) : Prop :=
  (∃ args operation,
    scVals = some args
    ∧ sdk.buildContractCallOperation ⟨contract.contractId, method, some (args.map .scVal)⟩
      = some operation)
  ∧ ∃ envelope text, sdk.auth.toXDR envelope = some text

variable {contract : BaseContract} {sdk : FlowSdk} {method : String}

/-- A transaction with a single call can be built on every account if the call can. -/
theorem assemble_buildParams (contract : BaseContract) (sdk : FlowSdk)
    (method sourceAccount : String) (args : List ScVal) (account : Account)
    : (contract.signer.assemble sdk.toSignerSdk (contract.buildParams sourceAccount method args)
        account).isSome
      = (sdk.buildContractCallOperation
          ⟨contract.contractId, method, some (args.map .scVal)⟩).isSome := by
  simp only [TransactionSigner.assemble, BaseContract.buildParams, List.mapM_cons, List.mapM_nil]
  cases sdk.buildContractCallOperation
    ⟨contract.contractId, method, some (args.map ContractCallArg.scVal)⟩ <;> rfl

/-- A client that answers everything and a wallet on the given network that signs everything. -/
def obliging (network : AxionveraNetwork) (envelope : TransactionEnvelope) : ClientAndWallet
  | _, .getPublicKey => .ok ""
  | _, .getNetwork => .ok network
  | _, .signTransaction _ _ => .ok ""
  | _, .getAccountWithCache publicKey => .ok ⟨publicKey, 0⟩
  | _, .simulateTransaction _ => .ok (.success ⟨none, []⟩)
  | _, .prepareTransaction _ _ => .ok envelope
  | _, .sendTransaction _ => .ok ⟨""⟩
  | _, .pollTransaction _ => .ok ⟨"", none⟩
  | _, .addOperation _ _ | _, .wait _ => .ok ()

/-- There is another network. -/
theorem exists_other_network (network : AxionveraNetwork) : ∃ other, other ≠ network := by
  cases network with
  | testnet => exact ⟨.mainnet, by decide⟩
  | mainnet => exact ⟨.testnet, by decide⟩
  | futurenet => exact ⟨.testnet, by decide⟩

/-- What was asked to be signed so far is part of what is asked in the whole run. -/
theorem asksToSign_of_run {α : Type} {clientAndWallet : ClientAndWallet} {program : Call α}
    {history : List CallExchange} (asks : AsksToSign history)
    : AsksToSign (program.run clientAndWallet history).1 := by
  obtain ⟨exchange, member, isSigning⟩ := asks
  exact ⟨exchange, (program.history_prefix_run clientAndWallet history).subset member, isSigning⟩

/-- A question that is answered is gone on from. -/
theorem asksToSign_request_bind {α : Type} {clientAndWallet : ClientAndWallet}
    {history : List CallExchange} {question : Question} {answer : Answer question}
    {next : Answer question → Call α}
    (isAnswered : clientAndWallet history question = .ok answer)
    (asks
      : AsksToSign
          ((next answer).run clientAndWallet (history ++ [⟨question, .ok answer⟩])).1)
    : AsksToSign ((Dialogue.request question >>= next).run clientAndWallet history).1 := by
  rw [Dialogue.run_request_bind, isAnswered]
  exact asks

/-- What the first program asks to sign, both ask. -/
theorem asksToSign_bind {α β : Type} {clientAndWallet : ClientAndWallet}
    {history : List CallExchange} {program : Call α} {next : α → Call β}
    (asks : AsksToSign (program.run clientAndWallet history).1)
    : AsksToSign ((program >>= next).run clientAndWallet history).1 := by
  rw [Dialogue.run_bind]
  cases (program.run clientAndWallet history).2 with
  | ok value => exact asksToSign_of_run asks
  | error error => exact asks

/-- Where everything is answered and there are entries, the wallet is asked to sign. -/
theorem asksToSign_invokeWithAuth {params : TransactionBuildParams} (network : AxionveraNetwork)
    (entries : List SorobanAuthorizationEntry) {envelope : TransactionEnvelope} {text : String}
    (isWritten : sdk.auth.toXDR envelope = some text)
    (isBuilt
      : ∀ account, (contract.signer.assemble sdk.toSignerSdk params account).isSome = true)
    (history : List CallExchange)
    : AsksToSign
        ((contract.invokeWithAuth sdk params entries).run (obliging network envelope)
          history).1 := by
  rw [BaseContract.invokeWithAuth, NetworkSigner.buildTransactionCall, bind_assoc]
  refine asksToSign_request_bind rfl ?_
  obtain ⟨transaction, isTransaction⟩ :=
    Option.isSome_iff_exists.mp (isBuilt ⟨params.sourceAccount, 0⟩)
  rw [isTransaction, FlowSdk.orThrow_some_bind, simulateSuccessfully, bind_assoc]
  refine asksToSign_request_bind rfl ?_
  rw [pure_bind]
  refine asksToSign_request_bind rfl ?_
  rw [isWritten, FlowSdk.orThrow_some_bind, signAndSubmit]
  refine asksToSign_request_bind rfl (asksToSign_of_run ?_)
  exact ⟨_, List.mem_append_right _ (List.mem_singleton.mpr rfl), rfl⟩

/-- A call of a method with entries comes to the path for them. -/
theorem asksToSign_invokeMethod {scVals : Option (List ScVal)} {options : InvokeMethodOptions}
    (network : AxionveraNetwork) (noBuilder : options.txBuilder = none)
    (entries : options.authEntries ≠ []) {envelope : TransactionEnvelope} {text : String}
    (isWritten : sdk.auth.toXDR envelope = some text) {args : List ScVal}
    {operation : Signing.Operation} (areArgs : scVals = some args)
    (isBuilt
      : sdk.buildContractCallOperation ⟨contract.contractId, method, some (args.map .scVal)⟩
        = some operation)
    : AsksToSign
        ((contract.invokeMethod sdk method scVals options).run (obliging network envelope)
          []).1 := by
  have onAccount (sourceAccount : String) (history : List CallExchange)
      : AsksToSign
          ((contract.invokeWithAuth sdk (contract.buildParams sourceAccount method args)
            options.authEntries).run (obliging network envelope) history).1 := by
    refine asksToSign_invokeWithAuth network _ isWritten (fun account => ?_) history
    rw [assemble_buildParams, isBuilt, Option.isSome_some]
  rw [BaseContract.invokeMethod, areArgs, FlowSdk.orThrow_some_bind]
  simp only [noBuilder, List.isEmpty_eq_false_iff.mpr entries, Bool.false_eq_true, if_false]
  cases options.sourceAccount with
  | some sourceAccount =>
      rw [orPublicKey, pure_bind, isBuilt, FlowSdk.orThrow_some_bind]
      exact asksToSign_bind (onAccount sourceAccount [])
  | none =>
      refine asksToSign_request_bind rfl ?_
      rw [isBuilt, FlowSdk.orThrow_some_bind]
      exact asksToSign_bind (onAccount "" _)

/-- What is asked in a run of a method was allowed, and answered by the client or the wallet. -/
theorem mayAsk_of_mem {scVals : Option (List ScVal)} {options : InvokeMethodOptions}
    {clientAndWallet : ClientAndWallet} {exchange : CallExchange}
    (member
      : exchange ∈ ((contract.invokeMethod sdk method scVals options).run clientAndWallet []).1)
    : ∃ earlier,
        MayAsk contract options.txBuilder (SignsMethod contract sdk method scVals options) earlier
          exchange.question
        ∧ ∀ network,
            Answered earlier .getNetwork network
            → ∃ history, clientAndWallet history .getNetwork = .ok network := by
  obtain ⟨earlier, later, split⟩ := List.append_of_mem member
  have justified :=
    (invokeMethod_asks_in_order contract sdk method scVals options clientAndWallet).1
  refine ⟨earlier, justified earlier exchange later split, fun network answered => ?_⟩
  obtain ⟨first, middle, again⟩ := List.append_of_mem answered
  have answers :=
    Dialogue.answers_of_run clientAndWallet (contract.invokeMethod sdk method scVals options)
      Dialogue.throughout_nil
  rw [again, List.append_assoc] at split
  exact ⟨first, (answers first _ _ split).symm⟩

/-- A call of a method can have a wallet sign that is on another network than the client exactly if
it has entries of its own and no builder, and the call can be built and written at all: the path
with entries does not compare the networks.
-/
theorem elsewhere_signs_iff (contract : BaseContract) (sdk : FlowSdk) (method : String)
    (scVals : Option (List ScVal)) (options : InvokeMethodOptions)
    : (∃ clientAndWallet,
        IsElsewhere contract clientAndWallet
        ∧ AsksToSign
            ((contract.invokeMethod sdk method scVals options).run clientAndWallet []).1)
      ↔ options.txBuilder = none
        ∧ options.authEntries ≠ []
        ∧ CanBeSigned contract sdk method scVals := by
  constructor
  · rintro ⟨clientAndWallet, isElsewhere, exchange, member, isSigning⟩
    obtain ⟨earlier, mayAsk, answers⟩ := mayAsk_of_mem member
    obtain ⟨question, answer⟩ := exchange
    cases question with
    | signTransaction transactionXdr networkPassphrase =>
        cases isBuilder : options.txBuilder with
        | some number =>
            rw [isBuilder] at mayAsk
            rcases mayAsk with isKey | ⟨operation, isAdding⟩
            · cases isKey
            · cases isAdding
        | none =>
            rw [isBuilder] at mayAsk
            obtain ⟨_, _, _, sourceAccount, args, _, areArgs, isPrepared, isOnNetwork⟩ := mayAsk
            obtain ⟨account, transaction, _, envelope, text, _, isBuilt, _, _, isWritten, _⟩ :=
              isPrepared
            have canBuild := assemble_buildParams contract sdk method sourceAccount args account
            rw [isBuilt, Option.isSome_some, eq_comm, Option.isSome_iff_exists] at canBuild
            obtain ⟨operation, isOperation⟩ := canBuild
            refine ⟨rfl, fun noEntries => ?_, ⟨args, operation, areArgs, isOperation⟩, envelope,
              text, isWritten⟩
            obtain ⟨history, isAnswer⟩ := answers _ (isOnNetwork noEntries)
            obtain ⟨network, isNetwork, isOther⟩ := isElsewhere history
            exact isOther (Except.ok.inj (isNetwork.symm.trans isAnswer))
    | _ => exact absurd isSigning (by simp [submissionStep])
  · rintro ⟨noBuilder, entries, ⟨args, operation, areArgs, isBuilt⟩, envelope, text, isWritten⟩
    obtain ⟨network, isOther⟩ := exists_other_network contract.network
    exact ⟨obliging network envelope, fun _ => ⟨network, rfl, isOther⟩,
      asksToSign_invokeMethod network noBuilder entries isWritten areArgs isBuilt⟩

-----------------------------------------------------------------------------------------
-- Calls that only read
-----------------------------------------------------------------------------------------

variable {vault : VaultSdk} {history : List CallExchange}

/-- (OnlySimulates history question) requires nothing to have been asked before, and the question to
be a simulation.
-/
def OnlySimulates (history : List CallExchange) (question : Question) : Prop :=
  history = [] ∧ ∃ transaction, question = .simulateTransaction transaction

/-- The question is for the key of the wallet, for an account or a simulation. -/
def OnlyReads (_ : List CallExchange) : Question → Prop
  | .getPublicKey | .getAccountWithCache _ | .simulateTransaction _ => True
  | _ => False

/-- (IsPreviewed vault method history result) requires a call that succeeds to return what a
simulation has returned.
-/
def IsPreviewed (vault : VaultSdk) (method : String) (history : List CallExchange)
    : Except FlowError Int → Prop
  | .ok value =>
      ∃ transaction simulation,
        Answered history (.simulateTransaction transaction) simulation
        ∧ vault.previewOf method simulation = .ok value
  | .error _ => True

/-- A preview asks for one simulation and nothing else. -/
theorem keeps_simulateReadOnly (method : String) (amount : Int)
    : (contract.simulateReadOnly vault method amount).Keeps OnlySimulates
        (IsPreviewed vault method) [] := by
  rw [BaseContract.simulateReadOnly]
  refine vault.keeps_orThrow_bind trivial fun scVal _ => ?_
  refine vault.keeps_orThrow_bind trivial fun operation _ => ?_
  rw [Dialogue.keeps_request_bind]
  refine ⟨⟨rfl, _, rfl⟩, fun _ => trivial, fun simulation => Dialogue.keeps_ofExcept.mpr ?_⟩
  cases previewed : vault.previewOf method simulation with
  | error error => trivial
  | ok value => exact ⟨_, simulation, answered_last _ simulation, previewed⟩

/-- A query only reads. -/
theorem keeps_query_bind {α : Type} {next : ScVal → Call α} {args : List ContractCallArg}
    {ends : List CallExchange → Except FlowError α → Prop}
    (fails : ∀ later error, ends later (.error error))
    (keeps : ∀ later value, (next value).Keeps OnlyReads ends later)
    : (contract.query vault method args >>= next).Keeps OnlyReads ends history := by
  rw [BaseContract.query, bind_assoc, Dialogue.keeps_request_bind]
  refine ⟨trivial, fun _ => fails _ _, fun publicKey => ?_⟩
  rw [bind_assoc]
  refine keeps_buildTransactionCall_bind trivial fails fun account transaction _ => ?_
  rw [bind_assoc, Dialogue.keeps_request_bind]
  refine ⟨trivial, fun _ => fails _ _, fun simulation => ?_⟩
  cases simulation with
  | failure error => exact fails _ _
  | success response =>
      obtain ⟨retval, results⟩ := response
      cases results with
      | nil => exact fails _ _
      | cons xdr rest => exact vault.keeps_orThrow_bind (fails _ _) fun value _ => keeps _ value

/-- `decodeI128` throws for every value, as the parts of an integer have no method `low`. -/
theorem decodeI128_toOption (value : ScVal)
    : (Soroban.BaseContract.decodeI128 value).toOption = none := by
  cases value <;> rfl

/-- What is decoded by `decodeI128` is rejected. -/
theorem keeps_decodeI128 {value : ScVal}
    : (vault.decodeI128 value).Keeps OnlyReads (fun _ result => ∃ error, result = .error error)
        history := by
  rw [VaultSdk.decodeI128, decodeI128_toOption]
  exact ⟨_, rfl⟩

/-- A value of an account is read only, and always rejected in the end. -/
theorem keeps_queryAccount (account : Option String)
    : (contract.queryAccount vault method account).Keeps OnlyReads
        (fun _ result => ∃ error, result = .error error) history := by
  rw [BaseContract.queryAccount]
  refine keeps_orPublicKey_bind (fun _ => trivial) (fun _ _ => ⟨_, rfl⟩) fun _ _ _ _ _ => ?_
  refine vault.keeps_orThrow_bind ⟨_, rfl⟩ fun scVal _ => ?_
  exact keeps_query_bind (fun _ _ => ⟨_, rfl⟩) fun _ _ => keeps_decodeI128

/-- Whatever the client and the wallet answer, a preview asks the wallet nothing and the client for
one simulation, and returns what this has returned. Balances, shares and the exchange rate ask the
wallet for its key at most, and are rejected in every run.
-/
theorem reading_never_signs (contract : BaseContract) (vault : VaultSdk) (amount : Int)
    (account : Option String) (clientAndWallet : ClientAndWallet)
    : (∀ preview ∈ ["preview_deposit", "preview_withdraw"],
        Dialogue.Justified OnlySimulates
            ((contract.simulateReadOnly vault preview amount).run clientAndWallet []).1
        ∧ IsPreviewed vault preview
            ((contract.simulateReadOnly vault preview amount).run clientAndWallet []).1
            ((contract.simulateReadOnly vault preview amount).run clientAndWallet []).2)
      ∧ ∀ read ∈ [contract.getBalance vault account, contract.getVaultShares vault account,
          contract.getExchangeRate vault],
          Dialogue.Justified OnlyReads (read.run clientAndWallet []).1
          ∧ ∃ error, (read.run clientAndWallet []).2 = .error error := by
  constructor
  · intro preview _
    exact (keeps_simulateReadOnly preview amount).run clientAndWallet Dialogue.throughout_nil
  · simp only [List.forall_mem_cons, List.not_mem_nil, false_implies, implies_true, and_true]
    refine ⟨?balance, ?shares, ?rate⟩
    · exact (keeps_queryAccount account).run clientAndWallet Dialogue.throughout_nil
    · exact (keeps_queryAccount account).run clientAndWallet Dialogue.throughout_nil
    · have keeps
          : (contract.getExchangeRate vault).Keeps OnlyReads
              (fun _ result => ∃ error, result = .error error) [] :=
        keeps_query_bind (fun _ _ => ⟨_, rfl⟩) fun _ _ => keeps_decodeI128
      exact keeps.run clientAndWallet Dialogue.throughout_nil

end Axionvera.Contracts
