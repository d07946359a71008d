import Axionvera.Signing.BatchProcessing
import Axionvera.Soroban.NumberedEnvelopes

/-! Batches that are processed in parallel, in any order, against batches that are processed one
after another. Both see the same of every transaction; they differ in the errors that they report.
-/

namespace Axionvera.Signing

open Axionvera.Foundation

-----------------------------------------------------------------------------------------
-- What becomes of each transaction
-----------------------------------------------------------------------------------------

/-- What becomes of each transaction of a batch on its own, in the surroundings that it has. -/
def NetworkSigner.ownResults (signer : NetworkSigner) (sdk : FlowSdk)
    (surroundings : Nat → ClientAndWallet) (transactions : List TransactionBuildParams)
    : List (Except FlowError TransactionResult) :=
  transactions.mapIdx fun number params =>
    ((signer.buildAndSignTransaction sdk params).run (surroundings number) []).2

/-- What the loop pushes for a transaction. -/
def sequentialResult : Except FlowError TransactionResult → TransactionResult :=
  onResult id sequentialEntry

/-- What the promise for a transaction is settled with. -/
def parallelResult : Except FlowError TransactionResult → Except FlowError TransactionResult :=
  onResult .ok fun error =>
    match parallelEntry error with
    | some result => .ok result
    | none => .error messageOfNothing

/-- An error that the loop and `catch` report alike: an `Error`, or a value that says what the loop
says of all other values.
-/
def IsReportedAlike (error : FlowError) : Prop :=
  match error.reason with
  | .nothing => False
  | .error _ => True
  | .value message => message = some "Unknown error"

/-- What fails is reported by its message. -/
theorem failedResult_inj {message other : Option String}
    : failedResult message = failedResult other ↔ message = other := by
  simp only [failedResult, TransactionResult.mk.injEq, RawResult.error.injEq, true_and, and_true]

/-- A promise gives what the loop pushes unless its error is reported otherwise. -/
theorem parallelResult_eq_iff (result : Except FlowError TransactionResult)
    : parallelResult result = .ok (sequentialResult result)
      ↔ ∀ error, result = .error error → IsReportedAlike error := by
  cases result with
  | ok value =>
      refine ⟨fun _ error isError => ?_, fun _ => rfl⟩
      cases isError
  | error error =>
      simp only [Except.error.injEq, forall_eq', IsReportedAlike, parallelResult, sequentialResult,
        onResult, parallelEntry, sequentialEntry]
      cases error.reason with
      | nothing => simp
      | error message => simp
      | value message => simp [failedResult_inj]

/-- A promise is rejected exactly by an error that is nothing. -/
theorem parallelResult_isError_iff (result : Except FlowError TransactionResult)
    : (∃ error, parallelResult result = .error error)
      ↔ ∃ error, result = .error error ∧ error.reason = .nothing := by
  cases result with
  | ok value => simp [parallelResult, onResult]
  | error error =>
      simp only [Except.error.injEq, exists_eq_left', parallelResult, onResult, parallelEntry]
      cases error.reason <;> simp

/-- Where a promise has a value, it succeeds exactly if what the loop pushes does. -/
theorem successful_of_parallelResult {result : Except FlowError TransactionResult}
    {value : TransactionResult} (isValue : parallelResult result = .ok value)
    : value.successful = (sequentialResult result).successful := by
  cases result with
  | ok own => exact congrArg TransactionResult.successful (Except.ok.inj isValue).symm
  | error error =>
      simp only [parallelResult, sequentialResult, onResult, parallelEntry, sequentialEntry]
        at isValue ⊢
      cases reason : error.reason <;> simp only [reason] at isValue ⊢
      case nothing => cases isValue
      all_goals obtain rfl := Except.ok.inj isValue
      all_goals rfl

-----------------------------------------------------------------------------------------
-- One after another
-----------------------------------------------------------------------------------------

variable (signer : NetworkSigner) (sdk : FlowSdk) (surroundings : Nat → ClientAndWallet)

/-- The body of the loop pushes what its transaction comes to, and asks nothing for the others. -/
theorem run_processNext (delayBetween : Option Nat) (number : Nat) (params : TransactionBuildParams)
    {history : List (Exchange (Nat × Question) (fun tagged => Answer tagged.2) FlowError)}
    (isFirst : Conversations.ownOf number history = [])
    : ((signer.processNext sdk delayBetween number params).run
          (Conversations.together surroundings) history).2
        = .ok (sequentialResult
            ((signer.buildAndSignTransaction sdk params).run (surroundings number) []).2)
      ∧ ∀ other,
          number ≠ other
          → Conversations.ownOf other
              ((signer.processNext sdk delayBetween number params).run
                (Conversations.together surroundings) history).1
            = Conversations.ownOf other history := by
  obtain ⟨same, others⟩ :=
    Conversations.run_tagged surroundings number (signer.buildAndSignTransaction sdk params) history
  rw [isFirst] at same
  rw [NetworkSigner.processNext, Dialogue.run_bind, Dialogue.run_outcome]
  simp only [onResult]
  rw [same]
  cases ((signer.buildAndSignTransaction sdk params).run (surroundings number) []).2 with
  | error error => exact ⟨rfl, others⟩
  | ok result =>
      simp only
      split_ifs
      · -- the timer is asked under the number of the transaction
        refine ⟨rfl, fun other isOther => Eq.trans ?_ (others other isOther)⟩
        exact (Conversations.ownOf_append number other _ _ _).trans (if_neg isOther)
      · exact ⟨rfl, others⟩

/-- The loop pushes what each transaction comes to, by induction on the transactions. -/
theorem run_processSequentially (delayBetween : Option Nat) (number : Nat)
    (transactions : List TransactionBuildParams)
    {history : List (Exchange (Nat × Question) (fun tagged => Answer tagged.2) FlowError)}
    (areFirst : ∀ other, number ≤ other → Conversations.ownOf other history = [])
    : ((signer.processSequentially sdk delayBetween number transactions).run
          (Conversations.together surroundings) history).2
      = .ok ((signer.ownResults sdk (fun index => surroundings (number + index)) transactions).map
          sequentialResult) := by
  induction transactions generalizing number history with
  | nil => rfl
  | cons params rest ih =>
      obtain ⟨isNext, others⟩ :=
        run_processNext signer sdk surroundings delayBetween number params (areFirst number le_rfl)
      rw [NetworkSigner.processSequentially, Dialogue.run_bind, isNext]
      simp only [onResult]
      rw [Dialogue.run_bind, ih (number + 1) fun other isLater => ?areFirst]
      case areFirst =>
        rw [others other (by omega)]
        exact areFirst other (by omega)
      simp only [onResult, NetworkSigner.ownResults, List.mapIdx_cons, List.map_cons, Nat.add_zero]
      simp only [Nat.add_comm, Nat.add_left_comm]
      rfl

/-- What a batch that is processed one after another resolves with. -/
def NetworkSigner.sequentialResults (delayBetween : Option Nat)
    (transactions : List TransactionBuildParams) : Except FlowError (List TransactionResult) :=
  ((signer.processSequentially sdk delayBetween 0 transactions).run
    (Conversations.together surroundings) []).2

-----------------------------------------------------------------------------------------
-- In parallel
-----------------------------------------------------------------------------------------

/-- A promise is settled with what its transaction comes to. -/
theorem run_processParallel (clientAndWallet : ClientAndWallet) (params : TransactionBuildParams)
    : ((signer.processParallel sdk params).run clientAndWallet []).2
      = parallelResult ((signer.buildAndSignTransaction sdk params).run clientAndWallet []).2 := by
  rw [NetworkSigner.processParallel, Dialogue.run_tryCatch, parallelResult]
  cases ((signer.buildAndSignTransaction sdk params).run clientAndWallet []).2 with
  | ok value => rfl
  | error error =>
      simp only [onResult]
      cases parallelEntry error <;> rfl

/-- `Promise.all` has values exactly if all its promises have, by induction on them. -/
theorem promiseAll_eq_ok_iff {α : Type} {results : List (Except FlowError α)} {values : List α}
    : promiseAll results = .ok values ↔ results = values.map .ok := by
  simp only [promiseAll]
  induction results generalizing values with
  | nil => cases values <;> simp [pure, Except.pure]
  | cons first rest ih =>
      rw [List.mapM_cons]
      cases first with
      | error error => cases values <;> simp [bind, Except.bind]
      | ok value =>
          cases mapped : rest.mapM id with
          | error error =>
              have noValues (values : List α) : rest ≠ values.map .ok := fun same => by
                cases mapped.symm.trans (ih.mpr same)
              cases values <;> simp [bind, Except.bind, noValues]
          | ok others =>
              obtain rfl := ih.mp mapped
              have injective (values : List α)
                  : others.map (Except.ok (ε := FlowError)) = values.map .ok ↔ others = values :=
                List.map_inj_right fun _ _ => Except.ok.inj
              cases values <;> simp [bind, Except.bind, pure, Except.pure, injective]

/-- `Promise.all` is rejected exactly if one of its promises is. -/
theorem promiseAll_isError_iff {α : Type} {results : List (Except FlowError α)}
    : (∃ error, promiseAll results = .error error) ↔ ∃ error, .error error ∈ results := by
  simp only [promiseAll]
  induction results with
  | nil => simp [pure, Except.pure]
  | cons first rest ih =>
      rw [List.mapM_cons]
      cases first with
      | error error => simp [bind, Except.bind]
      | ok value =>
          cases mapped : rest.mapM id with
          | error error => simp [bind, Except.bind, ← ih, mapped]
          | ok others => simp [bind, Except.bind, pure, Except.pure, ← ih, mapped]

-----------------------------------------------------------------------------------------
-- The two compared
-----------------------------------------------------------------------------------------

/-- A summary only counts which results are successful. -/
theorem summarize_congr {left right : List TransactionResult}
    (same : left.map (·.successful) = right.map (·.successful)) : summarize left = summarize right
    := by
  have counts (wanted : Bool → Bool)
      : (left.filter fun result => wanted result.successful).length
        = (right.filter fun result => wanted result.successful).length := by
    simpa only [List.filter_map, List.length_map, Function.comp_def]
      using congrArg (fun successes => (successes.filter wanted).length) same
  have length : left.length = right.length := by
    simpa only [List.length_map] using congrArg List.length same
  simp only [summarize, length]
  exact congrArg₂ (BatchSummary.mk _) (counts id) (counts not)

/-- Where all promises have values, they succeed as what the loop pushes, by induction on what the
transactions come to.
-/
theorem successful_of_values {own : List (Except FlowError TransactionResult)}
    {values : List TransactionResult} (areValues : own.map parallelResult = values.map .ok)
    : values.map (·.successful) = (own.map sequentialResult).map (·.successful) := by
  induction own generalizing values with
  | nil =>
      rw [List.map_eq_nil_iff.mp areValues.symm]
      rfl
  | cons result rest ih =>
      cases values with
      | nil => cases areValues
      | cons value others =>
          obtain ⟨isValue, areOthers⟩ := List.cons.inj areValues
          exact congrArg₂ List.cons (successful_of_parallelResult isValue) (ih areOthers)

variable {signer : NetworkSigner} {sdk : FlowSdk} {surroundings : Nat → ClientAndWallet}

/-- A batch that is processed in parallel, in any order of the answers to its transactions, is
rejected exactly if a transaction fails with an error that is nothing. Otherwise its summary is that
of the batch processed one after another, which is never rejected. Its results are the same exactly
if all errors are reported alike.
-/
theorem parallel_against_sequential {transactions : List TransactionBuildParams}
    {numbers : List Nat} {state : Conversations Question Answer FlowError TransactionResult}
    {results : List (Except FlowError TransactionResult)} (delayBetween : Option Nat)
    (reached
      : run (Conversations.serve surroundings)
          (Conversations.start (transactions.map (signer.processParallel sdk))) numbers
        = some state)
    (ended : state.programs.map Dialogue.ended = results.map some)
    : ∃ sequential,
        signer.sequentialResults sdk surroundings delayBetween transactions = .ok sequential
        ∧ ((∃ error, promiseAll results = .error error)
          ↔ ∃ error,
              .error error ∈ signer.ownResults sdk surroundings transactions
              ∧ error.reason = .nothing)
        ∧ (∀ parallel,
            promiseAll results = .ok parallel → summarize parallel = summarize sequential)
        ∧ (promiseAll results = .ok sequential
          ↔ ∀ error,
              .error error ∈ signer.ownResults sdk surroundings transactions
              → IsReportedAlike error) := by
  have settled
      : results = (signer.ownResults sdk surroundings transactions).map parallelResult := by
    rw [Conversations.ended_of_serve reached ended, NetworkSigner.ownResults]
    refine List.ext_getElem (by simp) fun number _ _ => ?_
    rw [List.getElem_mapIdx, List.getElem_map, List.getElem_map, List.getElem_mapIdx]
    exact run_processParallel signer sdk (surroundings number) _
  have pushed :=
    run_processSequentially signer sdk surroundings delayBetween 0 transactions
      (fun _ _ => rfl : ∀ other, 0 ≤ other → Conversations.ownOf other [] = [])
  simp only [Nat.zero_add] at pushed
  refine ⟨_, pushed, ?rejects, ?summary, ?agrees⟩
  case rejects =>
    simp only [promiseAll_isError_iff, settled, List.mem_map]
    rw [exists_comm]
    simp only [exists_and_left, parallelResult_isError_iff]
    simp only [← exists_and_left]
    rw [exists_comm]
    exact exists_congr fun error => by simp
  case summary =>
    intro parallel isValue
    exact summarize_congr
      (successful_of_values (settled.symm.trans (promiseAll_eq_ok_iff.mp isValue)))
  case agrees =>
    rw [promiseAll_eq_ok_iff, settled, List.map_map, List.map_inj_left]
    simp only [Function.comp_apply, parallelResult_eq_iff]
    exact ⟨fun all error member => all _ member error rfl,
      fun all result member error isError => all error (isError ▸ member)⟩

/-- A library that writes all transactions alike. -/
def sampleFlowSdk : FlowSdk where
  toSignerSdk := sampleSdk
  auth := .numbered
  transactionXDR _ := some "AAAA"
  thrown := .nothing

/-- A signer with the network of tests, which does not simulate. -/
def sampleNetworkSigner : NetworkSigner where
  toTransactionSigner := sampleSigner
  network := .testnet
  autoSimulate := false

/-- Wallets that answer nothing; the first one says that it declines. -/
def decliningWallets (number : Nat) : ClientAndWallet :=
  fun _ _ => .error (.rejected (if number = 0 then .value (some "declined") else .nothing))

/-- Two transactions without operations. -/
def sampleBatch : List TransactionBuildParams :=
  [{ sourceAccount := "GA", operations := [] }, { sourceAccount := "GB", operations := [] }]

/-- Two transactions that are declined, the second one first, are rejected together. -/
theorem parallel_against_sequential_declined
    : ∃ sequential,
        sampleNetworkSigner.sequentialResults sampleFlowSdk decliningWallets none sampleBatch
          = .ok sequential
        ∧ ∃ error,
            promiseAll [.ok (failedResult (some "declined")), .error messageOfNothing]
              = .error error :=
  have reached
      : run (Conversations.serve decliningWallets)
          (Conversations.start
            (sampleBatch.map (sampleNetworkSigner.processParallel sampleFlowSdk)))
          [1, 0]
        = some {
            asked :=
              [
                (1, ⟨.getNetwork, .error (.rejected .nothing)⟩),
                (0, ⟨.getNetwork, .error (.rejected (.value (some "declined")))⟩)
              ]
            programs := [.done (failedResult (some "declined")), .fail messageOfNothing]
          } := rfl
  have ⟨sequential, isSequential, rejects, _⟩ := parallel_against_sequential none reached rfl
  ⟨sequential, isSequential,
    rejects.mpr ⟨.rejected .nothing, List.mem_cons_of_mem _ (List.mem_singleton.mpr rfl), rfl⟩⟩

end Axionvera.Signing
