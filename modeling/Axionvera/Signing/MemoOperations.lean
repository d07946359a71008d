import Axionvera.Signing.TransactionSigner

/-! Which transactions with memos keep their operations. Only texts are passed on to
`buildTransaction`; for the other kinds a second transaction is made, without operations and from
another fetch of the account. What the builder of the library makes of its calls is a hypothesis.
-/

namespace Axionvera.Signing

open Axionvera.Errors
open Axionvera.Client.SequenceCache

-----------------------------------------------------------------------------------------
-- The builder of the library

/-- The operation that a call adds. -/
def BuilderCall.operation? : BuilderCall → Option Operation
  | .addOperation operation => some operation
  | .addMemo _ | .setTimeout _ => none

/-- The memo that a call adds. -/
def BuilderCall.memo? : BuilderCall → Option Memo
  | .addMemo memo => some memo
  | .addOperation _ | .setTimeout _ => none

/-- The timeout that a call sets. -/
def BuilderCall.timeout? : BuilderCall → Option Nat
  | .setTimeout timeout => some timeout
  | .addOperation _ | .addMemo _ => none

/-- The operations that were added, in order. -/
def TransactionBuilder.operations (builder : TransactionBuilder) : List Operation :=
  builder.calls.filterMap BuilderCall.operation?

/-- The memo that was added last. -/
def TransactionBuilder.memo (builder : TransactionBuilder) : Memo :=
  (builder.calls.filterMap BuilderCall.memo?).getLast?.getD .none

/-- (BuildsAsDocumented sdk) requires `build` to make transactions of the operations that were added
and of the memo that was added last, with the number behind that of the account.
-/
structure SignerSdk.BuildsAsDocumented (sdk : SignerSdk) : Prop where
  operations_build : ∀ builder, (sdk.build builder).operations = builder.operations
  memo_build : ∀ builder, (sdk.build builder).memo = builder.memo
  sequence_build
    : ∀ builder, (sdk.build builder).sequence = builder.source.sequenceNumber + 1

@[simp] theorem operations_addMemo (builder : TransactionBuilder) (memo : Memo)
    : (builder.addMemo memo).operations = builder.operations := by
  simp [TransactionBuilder.operations, TransactionBuilder.addMemo, BuilderCall.operation?]

@[simp] theorem operations_setTimeout (builder : TransactionBuilder) (timeout : Nat)
    : (builder.setTimeout timeout).operations = builder.operations := by
  simp [TransactionBuilder.operations, TransactionBuilder.setTimeout, BuilderCall.operation?]

@[simp] theorem memo_addOperation (builder : TransactionBuilder) (operation : Operation)
    : (builder.addOperation operation).memo = builder.memo := by
  simp [TransactionBuilder.memo, TransactionBuilder.addOperation, BuilderCall.memo?]

@[simp] theorem memo_addMemo (builder : TransactionBuilder) (memo : Memo)
    : (builder.addMemo memo).memo = memo := by
  simp [TransactionBuilder.memo, TransactionBuilder.addMemo, BuilderCall.memo?]

@[simp] theorem memo_setTimeout (builder : TransactionBuilder) (timeout : Nat)
    : (builder.setTimeout timeout).memo = builder.memo := by
  simp [TransactionBuilder.memo, TransactionBuilder.setTimeout, BuilderCall.memo?]

/-- Operations are added in order, by induction on them. -/
@[simp] theorem operations_foldl_addOperation (operations : List Operation)
    (builder : TransactionBuilder)
    : (operations.foldl TransactionBuilder.addOperation builder).operations
      = builder.operations ++ operations := by
  induction operations generalizing builder with
  | nil => rw [List.append_nil]; rfl
  | cons operation operations ih =>
      have added
          : (builder.addOperation operation).operations = builder.operations ++ [operation] := by
        simp [TransactionBuilder.operations, TransactionBuilder.addOperation,
          BuilderCall.operation?]
      rw [List.foldl_cons, ih, added, List.append_assoc, List.singleton_append]

/-- Operations leave the memo, by induction on them. -/
@[simp] theorem memo_foldl_addOperation (operations : List Operation)
    (builder : TransactionBuilder)
    : (operations.foldl TransactionBuilder.addOperation builder).memo = builder.memo := by
  induction operations generalizing builder with
  | nil => rfl
  | cons operation operations ih => rw [List.foldl_cons, ih, memo_addOperation]

/-- Operations leave the account, by induction on them. -/
@[simp] theorem source_foldl_addOperation (operations : List Operation)
    (builder : TransactionBuilder)
    : (operations.foldl TransactionBuilder.addOperation builder).source = builder.source := by
  induction operations generalizing builder with
  | nil => rfl
  | cons operation operations ih => rw [List.foldl_cons, ih, TransactionBuilder.addOperation]

-----------------------------------------------------------------------------------------
-- Transactions with memos

variable {signer : TransactionSigner} {sdk : SignerSdk} {events : Nat → FetchEvent}
  {world : AccountWorld}

/-- A transaction is returned with the operations of the calls and with the memo, and its number is
the one behind that of the account of a single fetch, after which nothing else is known of accounts.
-/
def KeepsOperations (signer : TransactionSigner) (sdk : SignerSdk) (events : Nat → FetchEvent)
    (sourceAccount : String) (operations : List ContractCallParams) (memo : MemoParams)
    (world : AccountWorld) : Prop :=
  ∃ transaction account after,
    signer.buildTransactionWithMemo sdk events sourceAccount operations memo world
      = (.ok transaction, after)
    ∧ operations.mapM sdk.buildContractCallOperation = some transaction.operations
    ∧ transaction.memo = memo.given sdk
    ∧ signer.getAccountWithCache events sourceAccount world = (.ok account, after)
    ∧ transaction.sequence = account.sequenceNumber + 1

/-- (IsAddedText sdk memo) requires the memo to be a text that is not empty, of which the library
makes that memo.
-/
def IsAddedText (sdk : SignerSdk) (memo : MemoParams) : Prop :=
  memo.type = .text
  ∧ memo.value.isTruthy = true
  ∧ sdk.memoText memo.value = some (.text memo.value)

/-- What is built once the account is there and the operations are. -/
theorem buildTransaction_eq {params : TransactionBuildParams} {account : Account}
    {after : AccountWorld} {operations : List Operation}
    (isFetched
      : signer.getAccountWithCache events params.sourceAccount world = (.ok account, after))
    (areBuilt : params.operations.mapM sdk.buildContractCallOperation = some operations)
    : signer.buildTransaction sdk events params world
      = ((sdk.addMemoText
            (operations.foldl TransactionBuilder.addOperation
              {
                source := account
                fee := params.fee.getD signer.defaultFee
                networkPassphrase := signer.networkPassphrase
              })
            params.memo).map
          fun builder =>
            sdk.build
              (builder.setTimeout (params.timeoutInSeconds.getD signer.defaultTimeout)),
        after) := by
  simp only [TransactionSigner.buildTransaction, isFetched, areBuilt]
  cases sdk.addMemoText _ params.memo <;> rfl

/-- A transaction with another memo than a text has no operations. -/
theorem operations_eq_nil (documented : sdk.BuildsAsDocumented) {sourceAccount : String}
    {operations : List ContractCallParams} {memo : MemoParams} {transaction : Transaction}
    {after : AccountWorld} (notText : memo.type ≠ .text)
    (isBuilt
      : signer.buildTransactionWithMemo sdk events sourceAccount operations memo world
        = (.ok transaction, after))
    : transaction.operations = [] := by
  rw [TransactionSigner.buildTransactionWithMemo] at isBuilt
  simp only [if_neg notText] at isBuilt
  split at isBuilt
  · cases isBuilt
  · split at isBuilt
    · cases isBuilt
    · split at isBuilt
      · obtain ⟨isTransaction, _⟩ := Prod.mk.inj isBuilt
        obtain rfl := Except.ok.inj isTransaction
        rw [documented.operations_build, operations_setTimeout, operations_addMemo]
        rfl
      · cases isBuilt

/-- There are operations for calls. -/
theorem built_ne_nil {operations : List ContractCallParams} {built : List Operation}
    (notEmpty : operations ≠ [])
    (areBuilt : operations.mapM sdk.buildContractCallOperation = some built)
    : built ≠ [] := by
  rintro rfl
  cases operations with
  | nil => exact notEmpty rfl
  | cons call calls => simp [Option.bind_eq_some_iff] at areBuilt

/-- A text memo is passed on to `buildTransaction`. -/
theorem buildTransactionWithMemo_text {sourceAccount : String}
    {operations : List ContractCallParams} {memo : MemoParams} (isText : memo.type = .text)
    : signer.buildTransactionWithMemo sdk events sourceAccount operations memo world
      = signer.buildTransaction sdk events
          { sourceAccount := sourceAccount, operations := operations, memo := some memo.value }
          world := by
  simp only [TransactionSigner.buildTransactionWithMemo, if_pos isText]
  split
  case h_1 error after isBuilt => exact isBuilt.symm
  case h_2 transaction after isBuilt => exact isBuilt.symm

/-- What a returned value was made of. -/
theorem map_eq_ok {ε α β : Type} {result : Except ε α} {convert : α → β} {value : β}
    (isOk : result.map convert = .ok value)
    : ∃ inner, result = .ok inner ∧ convert inner = value := by
  cases result with
  | error error => cases isOk
  | ok inner => exact ⟨inner, rfl, Except.ok.inj isOk⟩

/-- An empty text is not added, and another text is added as the memo that the library makes of it.
-/
theorem addMemoText_some_iff {builder added : TransactionBuilder} {value : MemoValue}
    : sdk.addMemoText builder (some value) = .ok added
      ↔ value.isTruthy = false ∧ added = builder
        ∨ value.isTruthy = true
          ∧ ∃ memo, sdk.memoText value = some memo ∧ added = builder.addMemo memo := by
  cases isTruthy : value.isTruthy with
  | false => simp [SignerSdk.addMemoText, Option.filter, isTruthy, eq_comm]
  | true =>
      cases isMade : sdk.memoText value with
      | none => simp [SignerSdk.addMemoText, Option.filter, isTruthy, isMade]
      | some memo => simp [SignerSdk.addMemoText, Option.filter, isTruthy, isMade, eq_comm]

/-- For every account that is fetched and every list of calls whose operations can be built, the
transaction with the memo keeps the operations, the memo and the number of the one fetch exactly if
the memo is a text that is added.
-/
theorem memo_keeps_operations_iff (signer : TransactionSigner) {sdk : SignerSdk}
    (documented : sdk.BuildsAsDocumented) (events : Nat → FetchEvent) (sourceAccount : String)
    {operations : List ContractCallParams} (memo : MemoParams) (world : AccountWorld)
    {account : Account} {after : AccountWorld} {built : List Operation}
    (notEmpty : operations ≠ [])
    (isFetched : signer.getAccountWithCache events sourceAccount world = (.ok account, after))
    (areBuilt : operations.mapM sdk.buildContractCallOperation = some built)
    : KeepsOperations signer sdk events sourceAccount operations memo world
      ↔ IsAddedText sdk memo := by
  by_cases isText : memo.type = .text
  · have given : memo.given sdk = .text memo.value := by rw [MemoParams.given, isText]
    rw [KeepsOperations, buildTransactionWithMemo_text isText,
      buildTransaction_eq isFetched areBuilt, given, IsAddedText]
    constructor
    · rintro ⟨transaction, _, _, isBuilt, _, isMemo, _⟩
      obtain ⟨builder, isAdded, rfl⟩ := map_eq_ok (congrArg Prod.fst isBuilt)
      rw [documented.memo_build, memo_setTimeout] at isMemo
      obtain ⟨_, rfl⟩ | ⟨isTruthy, made, isMade, rfl⟩ := addMemoText_some_iff.mp isAdded
      · -- The empty text is dropped, so that the transaction has no memo.
        rw [memo_foldl_addOperation] at isMemo
        cases isMemo
      · rw [memo_addMemo] at isMemo
        exact ⟨isText, isTruthy, isMade.trans (congrArg some isMemo)⟩
    · rintro ⟨_, isTruthy, isMade⟩
      rw [addMemoText_some_iff.mpr (.inr ⟨isTruthy, _, isMade, rfl⟩)]
      refine ⟨_, account, after, rfl, ?_, ?_, isFetched, ?_⟩
      · rw [areBuilt, documented.operations_build, operations_setTimeout, operations_addMemo,
          operations_foldl_addOperation]
        rfl
      · rw [documented.memo_build, memo_setTimeout, memo_addMemo]
      · rw [documented.sequence_build, TransactionBuilder.setTimeout, TransactionBuilder.addMemo,
          source_foldl_addOperation]
  · refine ⟨?_, fun added => absurd added.1 isText⟩
    rintro ⟨transaction, _, _, isBuilt, areOperations, _⟩
    rw [operations_eq_nil documented isText isBuilt] at areOperations
    exact absurd rfl (built_ne_nil notEmpty areOperations)

-----------------------------------------------------------------------------------------
-- Libraries that build as documented

/-- The transaction that is documented for a builder. -/
def TransactionBuilder.documented (builder : TransactionBuilder) : Transaction where
  source := builder.source.accountId
  sequence := builder.source.sequenceNumber + 1
  fee := builder.fee * builder.operations.length
  networkPassphrase := builder.networkPassphrase
  operations := builder.operations
  memo := builder.memo
  timeout := (builder.calls.filterMap BuilderCall.timeout?).getLast?.getD 0

/-- A library that accepts every contract and memo and has no `TransactionBuilder.memoText`. -/
def sampleSdk : SignerSdk where
  toStellarSdk := .wide
  isContractId _ := true
  isMemo _ := true
  memoText _ := none
  build := TransactionBuilder.documented

/-- It builds as documented. -/
theorem sampleSdk_buildsAsDocumented : sampleSdk.BuildsAsDocumented where
  operations_build _ := rfl
  memo_build _ := rfl
  sequence_build _ := rfl

/-- A library that has `TransactionBuilder.memoText`, too. -/
def textSdk : SignerSdk :=
  { sampleSdk with memoText := fun value => some (.text value) }

/-- It builds as documented, too. -/
theorem textSdk_buildsAsDocumented : textSdk.BuildsAsDocumented where
  operations_build _ := rfl
  memo_build _ := rfl
  sequence_build _ := rfl

/-- A signer with the network and the defaults of tests. -/
def sampleSigner : TransactionSigner where
  accounts := ⟨5000, 60000⟩
  networkPassphrase := "Test SDF Network ; September 2015"

/-- The network reports the number 41 whenever it is asked. -/
def sampleEvents (_ : Nat) : FetchEvent where
  outcome := .ok ⟨"G", 41⟩
  now := 0

/-- A client that has just been created. -/
def sampleWorld : AccountWorld :=
  ⟨.empty, 0⟩

/-- Two calls, one of them with an amount. -/
def sampleCalls : List ContractCallParams :=
  [⟨"C", "mint", some [.bigint 1000]⟩, ⟨"C", "pause", none⟩]

/-- With a library that has `memoText`, two calls are kept behind a text, in order. -/
theorem memo_keeps_operations_of_calls
    : KeepsOperations sampleSigner textSdk sampleEvents "G" sampleCalls ⟨.text, .text "rent"⟩
        sampleWorld :=
  have isFetched
      : sampleSigner.getAccountWithCache sampleEvents "G" sampleWorld
        = (.ok ⟨"G", 41⟩, ⟨updateCache .empty 0 "G" 41, 1⟩) := rfl
  have areBuilt
      : sampleCalls.mapM textSdk.buildContractCallOperation
        = some [⟨"C", "mint", [.i128 0 1000]⟩, ⟨"C", "pause", []⟩] := rfl
  have isAdded : IsAddedText textSdk ⟨.text, .text "rent"⟩ := ⟨rfl, by decide, rfl⟩
  (memo_keeps_operations_iff sampleSigner textSdk_buildsAsDocumented sampleEvents "G"
      ⟨.text, .text "rent"⟩ sampleWorld (List.cons_ne_nil _ _) isFetched areBuilt).mpr
    isAdded

/-- The transaction of one call with the memo `7` of kind `id` has no operations, and its number is
that of the second fetch.
-/
theorem memo_id_loses_the_operation
    : ¬ ∀ signer sdk events sourceAccount operations memo world account after built,
          SignerSdk.BuildsAsDocumented sdk
          → operations ≠ []
          → TransactionSigner.getAccountWithCache signer events sourceAccount world
            = (.ok account, after)
          → operations.mapM (SignerSdk.buildContractCallOperation sdk) = some built
          → KeepsOperations signer sdk events sourceAccount operations memo world := by
  intro always
  obtain ⟨transaction, _, _, isBuilt, areOperations, _⟩ :=
    always sampleSigner sampleSdk sampleEvents "G" [⟨"C", "mint", none⟩] ⟨.id, .text "7"⟩
      sampleWorld _ _ _ sampleSdk_buildsAsDocumented (List.cons_ne_nil _ _) rfl rfl
  have notText : (⟨.id, .text "7"⟩ : MemoParams).type ≠ .text := by decide
  have noOperations := operations_eq_nil sampleSdk_buildsAsDocumented notText isBuilt
  rw [noOperations] at areOperations
  exact absurd rfl (built_ne_nil (List.cons_ne_nil _ _) areOperations)

end Axionvera.Signing
