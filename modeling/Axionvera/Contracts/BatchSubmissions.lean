import Axionvera.Contracts.OrderlyCalls
import Axionvera.Signing.BatchAgreement

/-! What the wallet is asked to sign in a batch, and what is submitted: for each transaction as if
it was the only one, whatever a client and wallets answer and in whatever order they do.
-/

namespace Axionvera.Contracts

open Axionvera.Foundation
open Axionvera.Signing
open Axionvera.Client.SequenceCache

/-- (IsReadyFor signer sdk params history transactionXdr) requires the wallet to be on the network
of the client and the text to be that of a transaction with the given parameters: prepared, if the
signer simulates.
-/
def IsReadyFor (signer : NetworkSigner) (sdk : FlowSdk) (params : TransactionBuildParams)
    (history : List CallExchange) (transactionXdr : String) : Prop :=
  Answered history .getNetwork signer.network
  ∧ if signer.autoSimulate then
      IsPreparedFor signer sdk params [] history transactionXdr
    else
      ∃ account transaction,
        Answered history (.getAccountWithCache params.sourceAccount) account
        ∧ signer.assemble sdk.toSignerSdk params account = some transaction
        ∧ sdk.transactionXDR transaction = some transactionXdr

/-- The questions that are in order for a transaction of a batch. -/
abbrev IsOrderlyFor (signer : NetworkSigner) (sdk : FlowSdk) (params : TransactionBuildParams)
    : List CallExchange → Question → Prop :=
  IsOrderly signer.networkPassphrase (IsReadyFor signer sdk params)

variable {signer : NetworkSigner} {sdk : FlowSdk} {params : TransactionBuildParams}
  {history : List CallExchange}

/-- Without a simulation, the transaction itself is signed. -/
theorem keeps_withoutSimulation
    {maySign : List CallExchange → String → Prop}
    {ends : List CallExchange → Except FlowError TransactionResult → Prop}
    (clean : IsClean history) (simulates : signer.autoSimulate = false)
    (canSign
      : ∀ later account transaction transactionXdr,
          history <+: later
          → Answered later .getNetwork signer.network
          → Answered later (.getAccountWithCache params.sourceAccount) account
          → signer.assemble sdk.toSignerSdk params account = some transaction
          → sdk.transactionXDR transaction = some transactionXdr
          → maySign later transactionXdr)
    (fails : ∀ later error, ends later (.error error))
    (submits
      : ∀ later result, IsSubmitted signer.networkPassphrase later result → ends later (.ok result))
    : (signer.buildAndSignTransaction sdk params).Keeps
        (IsOrderly signer.networkPassphrase maySign) ends history := by
  rw [NetworkSigner.buildAndSignTransaction, NetworkSigner.validateNetworks, bind_assoc,
    Dialogue.keeps_request_bind]
  refine ⟨clean.isOrderly trivial, fun error => fails _ _, fun walletNetwork => ?_⟩
  have cleanStill := clean.append .getNetwork walletNetwork rfl
  split_ifs with same
  · subst same
    rw [pure_bind]
    refine keeps_buildTransactionCall_bind (cleanStill.isOrderly trivial) fails
      fun account transaction isBuilt => ?_
    simp only [NetworkSigner.prepareCall, simulates, Bool.false_eq_true, if_false, bind_assoc,
      pure_bind]
    refine sdk.keeps_orThrow_bind (fails _ _) fun transactionXdr isWritten => ?_
    refine keeps_signAndSubmit
      (cleanStill.append (.getAccountWithCache params.sourceAccount) account rfl)
      (canSign _ account transaction transactionXdr ?_ ?_ ?_ isBuilt isWritten) fails submits
    · exact (List.prefix_append history _).trans (List.prefix_append _ _)
    · exact (answered_last (A := Answer) .getNetwork signer.network).append _
    · exact answered_last (A := Answer) (.getAccountWithCache params.sourceAccount) account
  · exact fails _ _

/-- Every transaction is signed when it is ready, and submitted. -/
theorem keeps_transactionOfBatch
    {ends : List CallExchange → Except FlowError TransactionResult → Prop}
    (clean : IsClean history) (fails : ∀ later error, ends later (.error error))
    (submits
      : ∀ later result, IsSubmitted signer.networkPassphrase later result → ends later (.ok result))
    : (signer.buildAndSignTransaction sdk params).Keeps (IsOrderlyFor signer sdk params) ends
        history := by
  cases simulates : signer.autoSimulate with
  | true =>
      refine keeps_buildAndSignTransaction signer clean simulates ?_ fails submits
      intro later text _ isPrepared isOnNetwork
      exact ⟨isOnNetwork, (if_pos simulates).mpr isPrepared⟩
  | false =>
      refine keeps_withoutSimulation clean simulates ?_ fails submits
      intro later account transaction text _ isOnNetwork isFetched isBuilt isWritten
      refine ⟨isOnNetwork, ?_⟩
      rw [simulates]
      exact ⟨account, transaction, isFetched, isBuilt, isWritten⟩

-----------------------------------------------------------------------------------------
-- In parallel
-----------------------------------------------------------------------------------------

/-- (IsSound signer history result) requires a result that is successful to be that of a
transaction that was submitted.
-/
def IsSound (signer : NetworkSigner) (history : List CallExchange) (result : TransactionResult)
    : Prop :=
  result.successful = true → IsSubmitted signer.networkPassphrase history result

/-- The entries of errors are not successful. -/
theorem isSound_failedResult (history : List CallExchange) (message : Option String)
    : IsSound signer history (failedResult message) :=
  fun successful => absurd successful Bool.false_ne_true

/-- A promise of a batch is in order for its transaction. -/
theorem keeps_processParallel
    : (signer.processParallel sdk params).Keeps (IsOrderlyFor signer sdk params)
        (fun later => onResult (IsSound signer later) fun _ => True) [] := by
  have clean : IsClean [] := ⟨List.forall_mem_nil _, List.forall_mem_nil _⟩
  rw [NetworkSigner.processParallel, Dialogue.keeps_tryCatch]
  refine keeps_transactionOfBatch clean (fun later error => ?_) fun later result isSubmitted _ =>
    isSubmitted
  simp only [onResult, parallelEntry]
  cases error.reason with
  | nothing => trivial
  | error message => exact isSound_failedResult later _
  | value message => exact isSound_failedResult later _

/-- While a batch is processed in parallel, and whatever is answered in whatever order, all that is
asked for one of its transactions is in order for it: the wallet signs only what was built for this
transaction, and only what it signed is sent. What is reported as successful was submitted.
-/
theorem batch_in_parallel_is_orderly {transactions : List TransactionBuildParams}
    {turns : List (Conversations.Turn Question Answer FlowError)}
    {state : Conversations Question Answer FlowError TransactionResult}
    (reached
      : run Conversations.answer
          (Conversations.start (transactions.map (signer.processParallel sdk))) turns
        = some state)
    {number : Nat} {params : TransactionBuildParams}
    (isTransaction : transactions[number]? = some params)
    : Dialogue.Justified (IsOrderlyFor signer sdk params) (state.own number)
      ∧ ∀ result,
          state.programs[number]? = some (.done result)
          → IsSound signer (state.own number) result := by
  obtain ⟨justified, left, isLeft, keeps⟩ :=
    Conversations.keeps_of_run_map (fun _ => keeps_processParallel) reached isTransaction
  refine ⟨justified, fun result isDone => ?_⟩
  obtain rfl := Option.some.inj (isLeft.symm.trans isDone)
  exact keeps

/-- A client that answers everything, and a wallet that signs everything. -/
def agreeing : (question : Question) → Except FlowError (Answer question)
  | .getPublicKey => .ok "GA"
  | .getNetwork => .ok .testnet
  | .signTransaction _ _ => .ok "signed"
  | .getAccountWithCache publicKey => .ok ⟨publicKey, 0⟩
  | .simulateTransaction _ => .ok (.success ⟨none, []⟩)
  | .prepareTransaction _ _ | .addOperation _ _ | .wait _ => .error (.error "")
  | .sendTransaction _ => .ok ⟨"hash"⟩
  | .pollTransaction _ => .ok ⟨"SUCCESS", some 7⟩

/-- The second transaction of a batch is submitted; the first one is refused in between. -/
def halfRefused : Conversations Question Answer FlowError TransactionResult where
  asked :=
    [
      (1, ⟨.getNetwork, .ok .testnet⟩),
      (1, ⟨.getAccountWithCache "GB", .ok ⟨"GB", 0⟩⟩),
      (0, ⟨.getNetwork, .error (.error "refused")⟩),
      (1, ⟨.signTransaction "AAAA" "Test SDF Network ; September 2015", .ok "signed"⟩),
      (1, ⟨.sendTransaction "signed", .ok ⟨"hash"⟩⟩),
      (1, ⟨.pollTransaction "hash", .ok ⟨"SUCCESS", some 7⟩⟩)
    ]
  programs :=
    [
      .done (failedResult (some "refused")),
      .done {
        hash := "hash"
        status := "SUCCESS"
        successful := true
        raw := .final ⟨"SUCCESS", some 7⟩
        signedXdr := "signed"
      }
    ]

/-- What is reported as successful there was submitted. -/
theorem batch_in_parallel_is_orderly_half_refused
    : ∃ result,
        halfRefused.programs[1]? = some (.done result)
        ∧ result.successful = true
        ∧ IsSubmitted sampleNetworkSigner.networkPassphrase (halfRefused.own 1) result :=
  have reached
      : run Conversations.answer
          (Conversations.start
            (sampleBatch.map (sampleNetworkSigner.processParallel sampleFlowSdk)))
          [(1, agreeing), (1, agreeing), (0, fun _ => .error (.error "refused")), (1, agreeing),
            (1, agreeing), (1, agreeing)]
        = some halfRefused := rfl
  have isTransaction
      : sampleBatch[1]? = some { sourceAccount := "GB", operations := [] } := rfl
  ⟨_, rfl, rfl, (batch_in_parallel_is_orderly reached isTransaction).2 _ rfl rfl⟩

-----------------------------------------------------------------------------------------
-- One after another
-----------------------------------------------------------------------------------------

/-- Exchanges of a batch, with the numbers of its transactions. -/
abbrev BatchExchange :=
  Exchange (Nat × Question) (fun tagged => Answer tagged.2) FlowError

/-- (IsInTurn signer sdk transactions history tagged) requires no later transaction of the batch to
have asked anything, and the question to be in order for its transaction, or a wait for the timer.
-/
def IsInTurn (signer : NetworkSigner) (sdk : FlowSdk) (transactions : List TransactionBuildParams)
    (history : List BatchExchange) (tagged : Nat × Question) : Prop :=
  (∀ exchange ∈ history, exchange.question.1 ≤ tagged.1)
  ∧ ∃ params,
      transactions[tagged.1]? = some params
      ∧ ((∃ milliseconds, tagged.2 = .wait milliseconds)
        ∨ IsOrderlyFor signer sdk params (Conversations.ownOf tagged.1 history) tagged.2)

/-- What was submitted stays submitted while the history goes on. -/
theorem IsSound.still {later : List CallExchange} {result : TransactionResult}
    (sound : IsSound signer history result) (goesOn : history <+: later)
    : IsSound signer later result := by
  intro successful
  obtain ⟨transactionXdr, finalResult, isSigned, isSent, isPolled, statuses⟩ := sound successful
  exact ⟨transactionXdr, finalResult, isSigned.still goesOn, isSent.still goesOn,
    isPolled.still goesOn, statuses⟩

variable {transactions : List TransactionBuildParams} {number : Nat}

/-- The loop asks for the next transaction only, and pushes a sound result. -/
theorem keeps_processNext (delayBetween : Option Nat) {history : List BatchExchange}
    (isTransaction : transactions[number]? = some params)
    (areEarlier : ∀ exchange ∈ history, exchange.question.1 < number)
    : (signer.processNext sdk delayBetween number params).Keeps
        (IsInTurn signer sdk transactions)
        (fun later result =>
          (∀ exchange ∈ later, exchange ∈ history ∨ exchange.question.1 = number)
          ∧ (∀ other,
              number ≠ other
              → Conversations.ownOf other later = Conversations.ownOf other history)
          ∧ onResult (IsSound signer (Conversations.ownOf number later)) (fun _ => False) result)
        history := by
  have noOwn : Conversations.ownOf number history = [] :=
    Conversations.ownOf_eq_nil fun exchange member => (areEarlier exchange member).ne
  have clean : IsClean (Conversations.ownOf number history) :=
    noOwn ▸ ⟨List.forall_mem_nil _, List.forall_mem_nil _⟩
  have keepsOwn
      : (signer.buildAndSignTransaction sdk params).Keeps (IsOrderlyFor signer sdk params)
          (fun later => onResult (IsSound signer later) fun _ => True)
          (Conversations.ownOf number history) :=
    keeps_transactionOfBatch clean (fun _ _ => trivial) fun _ _ isSubmitted _ => isSubmitted
  have noLater (later : List BatchExchange)
      (added : ∀ exchange ∈ later, exchange ∈ history ∨ exchange.question.1 = number)
      : ∀ exchange ∈ later, exchange.question.1 ≤ number := by
    intro exchange member
    rcases added exchange member with isOld | isOwn
    · exact (areEarlier exchange isOld).le
    · exact isOwn.le
  rw [NetworkSigner.processNext, Dialogue.keeps_bind, Dialogue.keeps_outcome]
  refine (Conversations.keeps_tagged number (fun _ => .inl) (fun _ _ => rfl) keepsOwn).mono
    (fun later tagged isAllowed => ?asks) fun later result ending => ?ends
  case asks =>
    obtain ⟨rfl, added, isOrderly⟩ := isAllowed
    exact ⟨noLater later added, params, isTransaction, .inr isOrderly⟩
  case ends =>
    obtain ⟨added, others, isSound⟩ := ending
    cases result with
    | error error =>
        refine ⟨added, others, ?_⟩
        change IsSound signer _ (sequentialEntry error)
        rw [sequentialEntry.eq_def]
        cases error.reason <;> exact isSound_failedResult _ _
    | ok result =>
        simp only
        split_ifs with hasDelay
        · -- the timer is asked behind all questions of the transaction
          refine ⟨⟨noLater later added, params, isTransaction, .inl ⟨_, rfl⟩⟩, fun answer => ?_⟩
          refine ⟨?_, fun other isOther => ?_, isSound.still ?_⟩
          · exact List.forall_mem_append.mpr ⟨added, List.forall_mem_singleton.mpr (.inr rfl)⟩
          · rw [Conversations.ownOf_append, if_neg isOther]
            exact others other isOther
          · rw [Conversations.ownOf_append, if_pos rfl]
            exact List.prefix_append _ _
        · exact ⟨added, others, isSound⟩

/-- The loop asks for one transaction after another, by induction on those that are left. -/
theorem keeps_processSequentially (signer : NetworkSigner) (sdk : FlowSdk)
    (delayBetween : Option Nat) (number : Nat) {transactions rest : List TransactionBuildParams}
    {history : List BatchExchange}
    (areTransactions
      : ∀ (index : Nat) params,
          rest[index]? = some params → transactions[number + index]? = some params)
    (areEarlier : ∀ exchange ∈ history, exchange.question.1 < number)
    : (signer.processSequentially sdk delayBetween number rest).Keeps
        (IsInTurn signer sdk transactions)
        (fun later =>
          onResult
            (fun results =>
              results.length = rest.length
              ∧ (∀ other < number,
                  Conversations.ownOf other later = Conversations.ownOf other history)
              ∧ ∀ (index : Nat) result,
                  results[index]? = some result
                  → IsSound signer (Conversations.ownOf (number + index) later) result)
            fun _ => False)
        history := by
  induction rest generalizing number history with
  | nil => exact ⟨rfl, fun _ _ => rfl, fun index result isResult => by simp at isResult⟩
  | cons params rest ih =>
      rw [NetworkSigner.processSequentially, Dialogue.keeps_bind]
      refine (keeps_processNext delayBetween (areTransactions 0 params rfl) areEarlier).mono
        (fun _ _ isInTurn => isInTurn) fun later result ending => ?_
      obtain ⟨added, others, isSound⟩ := ending
      cases result with
      | error error => exact isSound.elim
      | ok result =>
          simp only [onResult]
          rw [Dialogue.keeps_bind]
          have areEarlierStill : ∀ exchange ∈ later, exchange.question.1 < number + 1 := by
            intro exchange member
            rcases added exchange member with isOld | isOwn
            · exact (areEarlier exchange isOld).trans (Nat.lt_succ_self number)
            · exact Nat.lt_succ_of_le isOwn.le
          refine (ih (number + 1) (fun index params isNext => ?_) areEarlierStill).mono
            (fun _ _ isInTurn => isInTurn) fun last results ending => ?_
          · rw [Nat.add_assoc, Nat.add_comm 1]
            exact areTransactions (index + 1) params isNext
          · cases results with
            | error error => exact ending.elim
            | ok results =>
                obtain ⟨length, same, areSound⟩ := ending
                refine ⟨congrArg Nat.succ length, fun other isEarlier => ?_,
                  fun index other isResult => ?_⟩
                · rw [same other (by omega), others other (by omega)]
                · cases index with
                  | zero =>
                      obtain rfl := Option.some.inj isResult
                      rw [Nat.add_zero, same number (Nat.lt_succ_self number)]
                      exact isSound
                  | succ index =>
                      rw [Nat.add_comm index, ← Nat.add_assoc]
                      exact areSound index other isResult

/-- A batch that is processed one after another resolves with one result for each transaction,
whatever is answered. No transaction asks anything before the ones in front of it have come to an
end, all that is asked for it is in order for it, and what is reported as successful was submitted.
-/
theorem batch_in_sequence_is_orderly (signer : NetworkSigner) (sdk : FlowSdk)
    (clientAndWallet : Surroundings (Nat × Question) (fun tagged => Answer tagged.2) FlowError)
    (delayBetween : Option Nat) (transactions : List TransactionBuildParams)
    : Dialogue.Justified (IsInTurn signer sdk transactions)
          ((signer.processSequentially sdk delayBetween 0 transactions).run clientAndWallet []).1
      ∧ ∃ results,
          ((signer.processSequentially sdk delayBetween 0 transactions).run clientAndWallet []).2
            = .ok results
          ∧ results.length = transactions.length
          ∧ ∀ (number : Nat) result,
              results[number]? = some result
              → IsSound signer
                  (Conversations.ownOf number
                    ((signer.processSequentially sdk delayBetween 0 transactions).run
                      clientAndWallet []).1)
                  result := by
  have areTransactions (index : Nat) (params : TransactionBuildParams)
      (isNext : transactions[index]? = some params) : transactions[0 + index]? = some params :=
    (Nat.zero_add index).symm ▸ isNext
  obtain ⟨justified, ending⟩ :=
    (keeps_processSequentially signer sdk delayBetween 0 areTransactions
      (List.forall_mem_nil _)).run clientAndWallet Dialogue.throughout_nil
  refine ⟨justified, ?_⟩
  cases isResult
    : ((signer.processSequentially sdk delayBetween 0 transactions).run clientAndWallet []).2 with
  | error error =>
      rw [isResult] at ending
      exact ending.elim
  | ok results =>
      rw [isResult] at ending
      obtain ⟨length, _, areSound⟩ := ending
      refine ⟨results, rfl, length, fun number result isNext => ?_⟩
      simpa only [Nat.zero_add] using areSound number result isNext

end Axionvera.Contracts
