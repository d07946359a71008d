import Axionvera.Foundation.Conversations
import Axionvera.Signing.SigningFlow

/-! Batches of transactions (`processBatchTransactions` of
`transaction/enhancedTransactionBuilder.ts`), one after another or all at the same time.
-/

namespace Axionvera.Signing

open Axionvera.Foundation

/-- The entry of a transaction that was rejected. -/
def failedResult (message : Option String) : TransactionResult where
  hash := ""
  status := "FAILED"
  successful := false
  raw := .error message
  signedXdr := ""

/-- What the loop pushes for an error: its message, if it is an `Error`. -/
def sequentialEntry (error : FlowError) : TransactionResult :=
  match error.reason with
  | .error message => failedResult (some message)
  | _ => failedResult (some "Unknown error")

/-- What `catch` gives for an error of a transaction that is processed in parallel; reading the
property `message` of `undefined` or `null` throws, which is `none`.
-/
def parallelEntry (error : FlowError) : Option TransactionResult :=
  match error.reason with
  | .nothing => none
  | .error message => some (failedResult (some message))
  | .value message => some (failedResult message)

/-- A `TypeError` of the language. -/
def messageOfNothing : FlowError :=
  .error "Cannot read properties of undefined (reading 'message')"

/-- A call of a batch, whose questions carry the number of a transaction. -/
abbrev BatchCall :=
  Dialogue (Nat × Question) (fun tagged => Answer tagged.2) FlowError

/-- The body of the loop over the transactions, for one of them. -/
def NetworkSigner.processNext (signer : NetworkSigner) (sdk : FlowSdk) (delayBetween : Option Nat)
    (number : Nat) (params : TransactionBuildParams) : BatchCall TransactionResult := do
  let result ← ((signer.buildAndSignTransaction sdk params).tagged number).outcome
  match result with
  | .ok result => do
      if 0 < delayBetween.getD 0 then
        Dialogue.tagged number (Call.wait (delayBetween.getD 0))
      else pure ()
      return result
  | .error error => return sequentialEntry error

/-- The loop over the transactions, from the given number on. -/
def NetworkSigner.processSequentially (signer : NetworkSigner) (sdk : FlowSdk)
    (delayBetween : Option Nat) : Nat → List TransactionBuildParams
      → BatchCall (List TransactionResult)
  | _, [] => pure []
  | number, params :: rest => do
      let result ← signer.processNext sdk delayBetween number params
      let results ← signer.processSequentially sdk delayBetween (number + 1) rest
      return result :: results

/-- One of the promises of a batch that is processed in parallel. -/
def NetworkSigner.processParallel (signer : NetworkSigner) (sdk : FlowSdk)
    (params : TransactionBuildParams) : Call TransactionResult :=
  (signer.buildAndSignTransaction sdk params).tryCatch fun error =>
    match parallelEntry error with
    | some result => .done result
    | none => .fail messageOfNothing

/-- `Promise.all`, once all promises are settled: their values, or an error of one of them. -/
def promiseAll {α : Type} (results : List (Except FlowError α)) : Except FlowError (List α) :=
  results.mapM id

/-- `BatchTransactionResult.summary`. -/
structure BatchSummary where
  total : Nat
  successful : Nat
  failed : Nat
  deriving DecidableEq

/-- The summary of the results. -/
def summarize (results : List TransactionResult) : BatchSummary where
  total := results.length
  successful := (results.filter (·.successful)).length
  failed := (results.filter (!·.successful)).length

end Axionvera.Signing
