import Axionvera.Contracts.VaultContract

/-! What a wallet is asked to sign, and what is sent and polled for, in calls of contracts: whatever
a client and a wallet answer.
-/

namespace Axionvera.Contracts

open Axionvera.Foundation
open Axionvera.Signing
open Axionvera.Soroban
open Axionvera.Client.SequenceCache

/-- The steps of a submission. -/
inductive SubmissionStep where
  | signing
  | sending
  | polling
  deriving DecidableEq

/-- The step of a submission that a question is. -/
def submissionStep : Question → Option SubmissionStep
  | .signTransaction _ _ => some .signing
  | .sendTransaction _ => some .sending
  | .pollTransaction _ => some .polling
  | _ => none

/-- (IsFirst history question) requires the step of a submission that the question is not to have
been taken before.
-/
def IsFirst (history : List CallExchange) (question : Question) : Prop :=
  ∀ exchange ∈ history,
    submissionStep question ≠ none
    → submissionStep exchange.question ≠ submissionStep question

/-- (IsPreparedFor signer sdk params entries history transactionXdr) requires the text to be that of
a transaction with the given parameters, on an account that was fetched, that was simulated with
success and prepared with that simulation, and to which the entries were added.
-/
def IsPreparedFor (signer : NetworkSigner) (sdk : FlowSdk) (params : TransactionBuildParams)
    (entries : List SorobanAuthorizationEntry) (history : List CallExchange)
    (transactionXdr : String) : Prop :=
  ∃ account transaction simulation prepared envelopeXdr,
    Answered history (.getAccountWithCache params.sourceAccount) account
    ∧ signer.assemble sdk.toSignerSdk params account = some transaction
    ∧ Answered history (.simulateTransaction transaction) (.success simulation)
    ∧ Answered history (.prepareTransaction transaction simulation) prepared
    ∧ sdk.auth.toXDR prepared = some envelopeXdr
    ∧ transactionXdr = sdk.auth.addAuthEntries envelopeXdr entries

/-- (IsGivenOrKey account history publicKey) requires the key to be the account that is given, or
else that of the wallet.
-/
def IsGivenOrKey (account : Option String) (history : List CallExchange) (publicKey : String)
    : Prop :=
  account = some publicKey ∨ account = none ∧ Answered history .getPublicKey publicKey

/-- (SignsMethod contract sdk method scVals options history transactionXdr) requires the text to be
prepared for a transaction with the single call of the method, on the account of the options or that
of the wallet, with the entries of the options added to it. Only without entries is the wallet known
to be on the network of the client.
-/
def SignsMethod (contract : BaseContract) (sdk : FlowSdk) (method : String)
    (scVals : Option (List ScVal)) (options : InvokeMethodOptions) (history : List CallExchange)
    (transactionXdr : String) : Prop :=
  ∃ sourceAccount args,
    IsGivenOrKey options.sourceAccount history sourceAccount
    ∧ scVals = some args
    ∧ IsPreparedFor contract.signer sdk (contract.buildParams sourceAccount method args)
        options.authEntries history transactionXdr
    ∧ (options.authEntries = [] → Answered history .getNetwork contract.network)

/-- What the steps of a submission need: what is signed may be signed, what is sent is what the
wallet signed, and what is polled for is what was sent. Nothing is added to a builder.
-/
def IsDue (networkPassphrase : String) (maySign : List CallExchange → String → Prop)
    (history : List CallExchange) : Question → Prop
  | .signTransaction transactionXdr passphrase =>
      passphrase = networkPassphrase ∧ maySign history transactionXdr
  | .sendTransaction signedXdr =>
      ∃ transactionXdr,
        Answered history (.signTransaction transactionXdr networkPassphrase) signedXdr
  | .pollTransaction hash => ∃ signedXdr, Answered history (.sendTransaction signedXdr) ⟨hash⟩
  | .addOperation _ _ => False
  | _ => True

/-- (IsOrderly networkPassphrase maySign history question) requires a question to be due and no step
of a submission to be taken twice, and that nothing has failed before it.
-/
def IsOrderly (networkPassphrase : String) (maySign : List CallExchange → String → Prop)
    (history : List CallExchange) (question : Question) : Prop :=
  NothingFailed history
  ∧ IsFirst history question
  ∧ IsDue networkPassphrase maySign history question

/-- (IsSubmitted networkPassphrase history result) requires the result to be that of a transaction
that was signed, sent and polled for.
-/
def IsSubmitted (networkPassphrase : String) (history : List CallExchange)
    (result : TransactionResult) : Prop :=
  ∃ transactionXdr finalResult,
    Answered history (.signTransaction transactionXdr networkPassphrase) result.signedXdr
    ∧ Answered history (.sendTransaction result.signedXdr) ⟨result.hash⟩
    ∧ Answered history (.pollTransaction result.hash) finalResult
    ∧ result.status = finalResult.status
    ∧ (result.successful = true ↔ finalResult.status = "SUCCESS")

/-- Nothing has failed, and no step of a submission was taken. -/
def IsClean (history : List CallExchange) : Prop :=
  NothingFailed history
  ∧ ∀ exchange ∈ history, submissionStep exchange.question = none

variable {history : List CallExchange} {question : Question}

/-- A history stays clean behind the answer to a question that is no step of a submission. -/
theorem IsClean.append (clean : IsClean history) (question : Question) (answer : Answer question)
    (noStep : submissionStep question = none)
    : IsClean (history ++ [⟨question, .ok answer⟩]) :=
  ⟨clean.1.append question answer,
    List.forall_mem_append.mpr ⟨clean.2, List.forall_mem_singleton.mpr noStep⟩⟩

/-- Every question is the first of its step in a clean history. -/
theorem IsClean.isFirst (clean : IsClean history) (question : Question)
    : IsFirst history question := by
  intro exchange member isStep same
  exact isStep (same.symm.trans (clean.2 exchange member))

/-- The key stays what it is while the history goes on. -/
theorem IsGivenOrKey.still {account : Option String} {publicKey : String}
    {later : List CallExchange} (isKey : IsGivenOrKey account history publicKey)
    (goesOn : history <+: later)
    : IsGivenOrKey account later publicKey :=
  isKey.imp_right fun ⟨notGiven, answered⟩ => ⟨notGiven, answered.still goesOn⟩

-----------------------------------------------------------------------------------------
-- The parts of a call
-----------------------------------------------------------------------------------------

variable {sdk : FlowSdk} {networkPassphrase : String}
  {maySign : List CallExchange → String → Prop}

/-- A question that is no step of a submission is orderly if it is due. -/
theorem IsClean.isOrderly (clean : IsClean history)
    (isDue : IsDue networkPassphrase maySign history question)
    : IsOrderly networkPassphrase maySign history question :=
  ⟨clean.1, clean.isFirst question, isDue⟩

/-- Signing what may be signed, then sending and polling, is orderly and ends with what was
submitted.
-/
theorem keeps_signAndSubmit {transactionXdr : String} {simulation : Option SimulationSuccess}
    {ends : List CallExchange → Except FlowError TransactionResult → Prop}
    (clean : IsClean history) (canSign : maySign history transactionXdr)
    (fails : ∀ later error, ends later (.error error))
    (submits : ∀ later result, IsSubmitted networkPassphrase later result → ends later (.ok result))
    : (signAndSubmit networkPassphrase transactionXdr simulation).Keeps
        (IsOrderly networkPassphrase maySign) ends history := by
  rw [signAndSubmit, Dialogue.keeps_request_bind]
  refine ⟨clean.isOrderly ⟨rfl, canSign⟩, fun error => fails _ _, fun signedXdr => ?_⟩
  have isSigned
      : Answered (history ++ [⟨.signTransaction transactionXdr networkPassphrase,
          .ok signedXdr⟩]) (.signTransaction transactionXdr networkPassphrase) signedXdr :=
    answered_last _ signedXdr
  rw [Dialogue.keeps_request_bind]
  refine ⟨⟨clean.1.append _ _, ?isFirstSend, transactionXdr, isSigned⟩, fun error => fails _ _, ?_⟩
  case isFirstSend =>
    refine List.forall_mem_append.mpr ⟨clean.isFirst _, List.forall_mem_singleton.mpr ?_⟩
    exact fun _ => by simp [submissionStep]
  rintro ⟨hash⟩
  rw [Dialogue.keeps_request_bind]
  refine ⟨⟨(clean.1.append _ _).append _ _, ?isFirstPoll, signedXdr, answered_last _ _⟩,
    fun error => fails _ _, fun finalResult => ?_⟩
  case isFirstPoll =>
    refine List.forall_mem_append.mpr
      ⟨List.forall_mem_append.mpr ⟨clean.isFirst _, List.forall_mem_singleton.mpr ?_⟩,
        List.forall_mem_singleton.mpr ?_⟩
    · exact fun _ => by simp [submissionStep]
    · exact fun _ => by simp [submissionStep]
  refine Dialogue.keeps_pure.mpr (submits _ _ ⟨transactionXdr, finalResult, ?_, ?_, ?_, rfl, ?_⟩)
  · exact (isSigned.append _).append _
  · exact (answered_last _ _).append _
  · exact answered_last _ _
  · exact decide_eq_true_iff

section Parts

variable {α : Type} {allowed : List CallExchange → Question → Prop}
  {ends : List CallExchange → Except FlowError α → Prop}

/-- An account is fetched and the transaction is built on it; both can fail. -/
theorem keeps_buildTransactionCall_bind {signer : NetworkSigner} {params : TransactionBuildParams}
    {next : Transaction → Call α}
    (isAllowed : allowed history (.getAccountWithCache params.sourceAccount))
    (fails : ∀ later error, ends later (.error error))
    (keeps
      : ∀ account transaction,
          signer.assemble sdk.toSignerSdk params account = some transaction
          → (next transaction).Keeps allowed ends
              (history ++ [⟨.getAccountWithCache params.sourceAccount, .ok account⟩]))
    : (signer.buildTransactionCall sdk params >>= next).Keeps allowed ends history := by
  rw [NetworkSigner.buildTransactionCall, bind_assoc, Dialogue.keeps_request_bind]
  refine ⟨isAllowed, fun error => fails _ _, fun account => ?_⟩
  exact sdk.keeps_orThrow_bind (fails _ _) fun transaction => keeps account transaction

/-- Only a successful simulation is gone on with. -/
theorem keeps_simulateSuccessfully_bind {transaction : Transaction}
    {next : SimulationSuccess → Call α}
    (isAllowed : allowed history (.simulateTransaction transaction))
    (fails : ∀ later error, ends later (.error error))
    (keeps
      : ∀ simulation,
          (next simulation).Keeps allowed ends
            (history ++ [⟨.simulateTransaction transaction, .ok (.success simulation)⟩]))
    : (simulateSuccessfully transaction >>= next).Keeps allowed ends history := by
  rw [simulateSuccessfully, bind_assoc, Dialogue.keeps_request_bind]
  refine ⟨isAllowed, fun error => fails _ _, fun simulation => ?_⟩
  cases simulation with
  | success response => exact keeps response
  | failure error => exact fails _ _

/-- The account that is given, or the one of the wallet; a clean history stays clean. -/
theorem keeps_orPublicKey_bind {account : Option String} {next : String → Call α}
    (isAllowed : account = none → allowed history .getPublicKey)
    (fails : ∀ later error, ends later (.error error))
    (keeps
      : ∀ later publicKey,
          history <+: later
          → (IsClean history → IsClean later)
          → IsGivenOrKey account later publicKey
          → (next publicKey).Keeps allowed ends later)
    : (orPublicKey account >>= next).Keeps allowed ends history := by
  cases account with
  | some publicKey => exact keeps history publicKey (List.prefix_refl _) id (.inl rfl)
  | none =>
      rw [orPublicKey, Dialogue.keeps_request_bind]
      refine ⟨isAllowed rfl, fun error => fails _ _, fun publicKey => ?_⟩
      refine keeps _ publicKey (List.prefix_append history _) (fun clean => ?_) (.inr ⟨rfl, ?_⟩)
      · exact clean.append .getPublicKey publicKey rfl
      · exact answered_last (A := Answer) .getPublicKey publicKey

end Parts

-----------------------------------------------------------------------------------------
-- The two paths of a submission
-----------------------------------------------------------------------------------------

variable {ends : List CallExchange → Except FlowError TransactionResult → Prop}

/-- A transaction on an account that was fetched is simulated, prepared, signed with the entries
added, sent and polled for.
-/
theorem keeps_prepareAndSubmit {signer : NetworkSigner} {params : TransactionBuildParams}
    (entries : List SorobanAuthorizationEntry) {account : Account} {transaction : Transaction}
    (clean : IsClean history)
    (isFetched : Answered history (.getAccountWithCache params.sourceAccount) account)
    (isBuilt : signer.assemble sdk.toSignerSdk params account = some transaction)
    (canSign
      : ∀ later transactionXdr,
          history <+: later
          → IsPreparedFor signer sdk params entries later transactionXdr
          → maySign later transactionXdr)
    (fails : ∀ later error, ends later (.error error))
    (submits : ∀ later result, IsSubmitted networkPassphrase later result → ends later (.ok result))
    : Dialogue.Keeps (IsOrderly networkPassphrase maySign) ends
        (do
          let simulation ← simulateSuccessfully transaction
          let preparedTransaction ← Call.prepareTransaction transaction simulation
          let envelopeXdr ← sdk.orThrow (sdk.auth.toXDR preparedTransaction)
          signAndSubmit networkPassphrase (sdk.auth.addAuthEntries envelopeXdr entries)
            (some simulation))
        history := by
  refine keeps_simulateSuccessfully_bind (clean.isOrderly trivial) fails fun simulation => ?_
  have cleanStill := clean.append (.simulateTransaction transaction) (.success simulation) rfl
  rw [Dialogue.keeps_request_bind]
  refine ⟨cleanStill.isOrderly trivial, fun error => fails _ _, fun prepared => ?_⟩
  refine sdk.keeps_orThrow_bind (fails _ _) fun envelopeXdr isWritten => ?_
  refine keeps_signAndSubmit (cleanStill.append _ prepared rfl) (canSign _ _ ?_ ?_) fails submits
  · exact (List.prefix_append history _).trans (List.prefix_append _ _)
  · refine ⟨account, transaction, simulation, prepared, envelopeXdr, ?_, isBuilt, ?_, ?_, isWritten,
      rfl⟩
    · exact (isFetched.append _).append _
    · exact (answered_last _ _).append _
    · exact answered_last _ _

/-- The path with entries submits a transaction that was prepared for them. -/
theorem keeps_invokeWithAuth {contract : BaseContract} {params : TransactionBuildParams}
    {entries : List SorobanAuthorizationEntry} (clean : IsClean history)
    (canSign
      : ∀ later transactionXdr,
          history <+: later
          → IsPreparedFor contract.signer sdk params entries later transactionXdr
          → maySign later transactionXdr)
    (fails : ∀ later error, ends later (.error error))
    (submits
      : ∀ later result,
          IsSubmitted contract.networkPassphrase later result → ends later (.ok result))
    : (contract.invokeWithAuth sdk params entries).Keeps
        (IsOrderly contract.networkPassphrase maySign) ends history := by
  rw [BaseContract.invokeWithAuth]
  refine keeps_buildTransactionCall_bind (clean.isOrderly trivial) fails
    fun account transaction isBuilt => ?_
  refine keeps_prepareAndSubmit entries
    (clean.append (.getAccountWithCache params.sourceAccount) account rfl)
    (answered_last (A := Answer) (.getAccountWithCache params.sourceAccount) account) isBuilt ?_
    fails submits
  exact fun later text goesOn => canSign later text ((List.prefix_append history _).trans goesOn)

/-- The path without entries asks the wallet for its network first. -/
theorem keeps_buildAndSignTransaction (signer : NetworkSigner) {params : TransactionBuildParams}
    (clean : IsClean history) (simulates : signer.autoSimulate = true)
    (canSign
      : ∀ later transactionXdr,
          history <+: later
          → IsPreparedFor signer sdk params [] later transactionXdr
          → Answered later .getNetwork signer.network
          → maySign later transactionXdr)
    (fails : ∀ later error, ends later (.error error))
    (submits
      : ∀ later result, IsSubmitted signer.networkPassphrase later result → ends later (.ok result))
    : (signer.buildAndSignTransaction sdk params).Keeps
        (IsOrderly signer.networkPassphrase maySign) ends history := by
  rw [NetworkSigner.buildAndSignTransaction, NetworkSigner.validateNetworks, bind_assoc,
    Dialogue.keeps_request_bind]
  refine ⟨clean.isOrderly trivial, fun error => fails _ _, fun walletNetwork => ?_⟩
  have cleanStill := clean.append .getNetwork walletNetwork rfl
  split_ifs with same
  · subst same
    rw [pure_bind]
    refine keeps_buildTransactionCall_bind (cleanStill.isOrderly trivial) fails
      fun account transaction isBuilt => ?_
    simp only [NetworkSigner.prepareCall, if_pos simulates, bind_assoc, pure_bind]
    refine keeps_prepareAndSubmit []
      (cleanStill.append (.getAccountWithCache params.sourceAccount) account rfl)
      (answered_last (A := Answer) (.getAccountWithCache params.sourceAccount) account) isBuilt ?_
      fails submits
    intro later text goesOn isPrepared
    have before := (List.prefix_append _ _).trans goesOn
    refine canSign later text ((List.prefix_append history _).trans before) isPrepared ?_
    exact (answered_last (A := Answer) .getNetwork signer.network).still before
  · exact fails _ _

-----------------------------------------------------------------------------------------
-- Calls of methods
-----------------------------------------------------------------------------------------

section Methods

variable {contract : BaseContract} {method : String} {scVals : Option (List ScVal)}
  {options : InvokeMethodOptions}
  {ends : List CallExchange → Except FlowError InvokeResult → Prop}

/-- On the account of a call, the transaction with the call of the method is submitted. -/
theorem keeps_invokeOn {sourceAccount : String} {args : List ScVal} (clean : IsClean history)
    (canSign
      : ∀ later transactionXdr,
          history <+: later
          → IsPreparedFor contract.signer sdk (contract.buildParams sourceAccount method args)
              options.authEntries later transactionXdr
          → (options.authEntries = [] → Answered later .getNetwork contract.network)
          → maySign later transactionXdr)
    (fails : ∀ later error, ends later (.error error))
    (submits
      : ∀ later result,
          IsSubmitted contract.networkPassphrase later result → ends later (.ok (.result result)))
    : Dialogue.Keeps (IsOrderly contract.networkPassphrase maySign) ends
        (if options.authEntries.isEmpty then do
          return .result
            (← contract.signer.buildAndSignTransaction sdk
              (contract.buildParams sourceAccount method args))
        else do
          return .result
            (← contract.invokeWithAuth sdk (contract.buildParams sourceAccount method args)
              options.authEntries))
        history := by
  split_ifs with noEntries
  · rw [List.isEmpty_iff] at noEntries
    rw [Dialogue.keeps_bind]
    refine keeps_buildAndSignTransaction contract.signer clean rfl ?_ fails submits
    intro later text goesOn isPrepared isOnNetwork
    exact canSign later text goesOn (noEntries ▸ isPrepared) fun _ => isOnNetwork
  · rw [List.isEmpty_iff] at noEntries
    rw [Dialogue.keeps_bind]
    refine keeps_invokeWithAuth clean ?_ fails submits
    intro later text goesOn isPrepared
    exact canSign later text goesOn isPrepared fun isEmpty => absurd isEmpty noEntries

/-- A call without a builder submits a transaction for its method. -/
theorem keeps_invokeMethod (clean : IsClean history) (noBuilder : options.txBuilder = none)
    (canSign
      : ∀ later transactionXdr,
          history <+: later
          → SignsMethod contract sdk method scVals options later transactionXdr
          → maySign later transactionXdr)
    (fails : ∀ later error, ends later (.error error))
    (submits
      : ∀ later result,
          IsSubmitted contract.networkPassphrase later result → ends later (.ok (.result result)))
    : (contract.invokeMethod sdk method scVals options).Keeps
        (IsOrderly contract.networkPassphrase maySign) ends history := by
  rw [BaseContract.invokeMethod]
  refine sdk.keeps_orThrow_bind (fails _ _) fun args areArgs => ?_
  refine keeps_orPublicKey_bind (fun _ => clean.isOrderly trivial) fails
    fun later sourceAccount goesOn cleanStill isSource => ?_
  refine sdk.keeps_orThrow_bind (fails _ _) fun operation _ => ?_
  rw [noBuilder]
  refine keeps_invokeOn (cleanStill clean) (fun last text more isPrepared isOnNetwork => ?_) fails
    submits
  refine canSign last text (goesOn.trans more)
    ⟨sourceAccount, args, isSource.still more, areArgs, isPrepared, isOnNetwork⟩

end Methods

end Axionvera.Contracts
