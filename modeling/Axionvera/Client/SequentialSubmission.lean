import Axionvera.Client.SequenceCache
import Mathlib.Data.List.Forall2

/-! Submitting transactions one after another (`client/stellarClient.ts`), and when this stops
at the first transaction that the network did not accept.
-/

namespace Axionvera.Client.SequentialSubmission

open Axionvera.Errors
open Axionvera.Client.SequenceCache

/-- What the RPC server answers to a submission. -/
structure SendResponse where
  hash : Option String := none
  id : Option String := none
  status : Option String := none
  statusText : Option String := none
  deriving DecidableEq, Repr

/-- `TransactionSendResult`. -/
structure TransactionSendResult where
  hash : String
  status : String
  raw : SendResponse
  deriving DecidableEq, Repr

/-- A transaction that went out to the server, with the server's answer. -/
structure Submission (τ : Type) where
  transaction : τ
  answer : Except Thrown SendResponse

/-- The collaborators of the client. A wallet, if there is one, signs a transaction or throws;
the server's answer may depend on all earlier submissions.
-/
structure SubmissionClient (τ : Type) where
  wallet : Option (τ → Except Thrown τ)
  send : List (Submission τ) → τ → Except Thrown SendResponse

/-- The options of `submitTransactionsSequentially`. A throwing callback is given by the text
of what it throws.
-/
structure SubmissionOptions where
  onProgress : Option (Nat → TransactionSendResult → Except String Unit) := none
  sourcePublicKey : Option String := none

/-- The `Error` that `submitTransactionsSequentially` rejects with, naming the transaction at
`index`, counted from zero.
-/
structure SubmissionFailure where
  index : Nat
  total : Nat
  wasSequenceError : Bool
  reason : String
  deriving DecidableEq, Repr

/-- The failure's message. -/
def SubmissionFailure.message (failure : SubmissionFailure) : String :=
  "Transaction " ++ toString (failure.index + 1) ++ "/" ++ toString failure.total ++ " failed"
    ++ (if failure.wasSequenceError then " (cache cleared due to sequence error)" else "")
    ++ ": " ++ failure.reason

variable {τ : Type}

/-- The result that `sendTransaction` reads from an answer. -/
def sendResult (response : SendResponse) : TransactionSendResult :=
  {
    hash := (response.hash <|> response.id).getD ""
    status := (response.status <|> response.statusText).getD "unknown"
    raw := response
  }

/-- The transaction to submit: signed by the wallet if there is one. -/
def SubmissionClient.sign (client : SubmissionClient τ) (transaction : τ) : Except Thrown τ :=
  match client.wallet with
  | some signTransaction => signTransaction transaction
  | none => .ok transaction

/-- `sendTransaction`. -/
def sendTransaction (client : SubmissionClient τ) (log : List (Submission τ))
    (transaction : τ)
    : Except AxionveraError TransactionSendResult × List (Submission τ) :=
  match client.sign transaction with
  | .error thrown => (.error (normalizeTransactionError thrown), log)
  | .ok finalTx =>
      match client.send log finalTx with
      | .error thrown =>
          (.error (normalizeTransactionError thrown), log ++ [⟨finalTx, .error thrown⟩])
      | .ok response => (.ok (sendResult response), log ++ [⟨finalTx, .ok response⟩])

/-- Tell the callback, if there is one, about a result. -/
def SubmissionOptions.progress (options : SubmissionOptions) (index : Nat)
    (result : TransactionSendResult)
    : Except String Unit :=
  match options.onProgress with
  | some onProgress => onProgress index result
  | none => .ok ()

/-- What a sequential submission comes to: its outcome, the submissions up to then, and the
sequence cache.
-/
structure SubmissionRun (τ : Type) where
  outcome : Except SubmissionFailure (List TransactionSendResult)
  log : List (Submission τ)
  cache : AccountSequenceCache

/-- The catch block: a sequence error clears the cache, and every error is thrown again with
the number of the transaction.
-/
def rejectSubmission (options : SubmissionOptions) (total index : Nat) (reason : String)
    (log : List (Submission τ)) (cache : AccountSequenceCache)
    : SubmissionRun τ :=
  let (wasSequenceError, cache) := handleSubmissionError cache reason options.sourcePublicKey
  ⟨.error ⟨index, total, wasSequenceError, reason⟩, log, cache⟩

/-- The loop of `submitTransactionsSequentially` from the transaction at `index` on. -/
def submitFrom (client : SubmissionClient τ) (options : SubmissionOptions) (total : Nat)
    : (index : Nat) → (transactions : List τ) → (results : List TransactionSendResult)
      → (log : List (Submission τ)) → (cache : AccountSequenceCache) → SubmissionRun τ
  | _, [], results, log, cache => ⟨.ok results, log, cache⟩
  | index, transaction :: rest, results, log, cache =>
      match sendTransaction client log transaction with
      | (.error error, log) => rejectSubmission options total index error.message log cache
      | (.ok result, log) =>
          match options.progress index result with
          | .error reason => rejectSubmission options total index reason log cache
          | .ok () =>
              submitFrom client options total (index + 1) rest (results ++ [result]) log cache

/-- `submitTransactionsSequentially`. -/
def submitTransactionsSequentially (client : SubmissionClient τ) (transactions : List τ)
    (options : SubmissionOptions) (cache : AccountSequenceCache)
    : SubmissionRun τ :=
  submitFrom client options transactions.length 0 transactions [] [] cache

/-- The network accepted a transaction with this status. -/
def isAccepted (status : String) : Bool := status ∈ ["PENDING", "DUPLICATE"]

/-- The result of an answered submission. -/
def Submission.result (submission : Submission τ) : Option TransactionSendResult :=
  match submission.answer with
  | .ok response => some (sendResult response)
  | .error _ => none

/-- The network accepted the transaction at this place of the log. -/
def AcceptedAt (log : List (Submission τ)) (index : Nat) : Prop :=
  ∃ submission result,
    log[index]? = some submission
    ∧ submission.result = some result
    ∧ isAccepted result.status = true

/-- The submissions are those of the first transactions, in order, each signed if need be. -/
def SubmitsInOrder (client : SubmissionClient τ) (transactions : List τ)
    (log : List (Submission τ))
    : Prop :=
  ∃ sent,
    sent <+: transactions
    ∧ List.Forall₂
        (fun transaction submission => client.sign transaction = .ok submission.transaction)
        sent log

/-- The submission stops at the first of `total` transactions that was not accepted. -/
structure StopsAtFirst (total : Nat) (run : SubmissionRun τ) : Prop where
  stops : ∀ index, index + 1 < run.log.length → AcceptedAt run.log index
  resolves_iff
    : (∃ results, run.outcome = .ok results) ↔ ∀ index < total, AcceptedAt run.log index
  inOrder
    : ∀ results,
        run.outcome = .ok results
        → results.length = total ∧ results.map some = run.log.map Submission.result
  names : ∀ failure, run.outcome = .error failure → ¬ AcceptedAt run.log failure.index

/-- Up to the first transaction whose submission throws, the callback throws for no accepted
transaction, and it throws for the first one that was answered otherwise. The latter does
not matter when the wallet refuses to sign the next transaction.
-/
def CallbackAgrees (client : SubmissionClient τ) (options : SubmissionOptions)
    : (index : Nat) → (transactions : List τ) → (log : List (Submission τ)) → Prop
  | _, [], _ => True
  | index, transaction :: rest, log =>
      match sendTransaction client log transaction with
      | (.error _, _) => True
      | (.ok result, log) =>
          match options.progress index result with
          | .error _ => isAccepted result.status = false
          | .ok () =>
              if isAccepted result.status then CallbackAgrees client options (index + 1) rest log
              else ∃ next ∈ rest.head?, ∃ thrown, client.sign next = .error thrown

/-- The log after one `sendTransaction`: as before when signing failed, else one longer. -/
theorem sendTransaction_cases (client : SubmissionClient τ) (log : List (Submission τ))
    (transaction : τ)
    : (∃ thrown error,
          client.sign transaction = .error thrown
          ∧ sendTransaction client log transaction = (.error error, log))
      ∨ ∃ submission outcome,
          client.sign transaction = .ok submission.transaction
          ∧ sendTransaction client log transaction = (outcome, log ++ [submission])
          ∧ submission.result = outcome.toOption := by
  unfold sendTransaction
  cases signed : client.sign transaction with
  | error thrown => exact .inl ⟨thrown, _, rfl, rfl⟩
  | ok finalTx =>
      cases answer : client.send log finalTx with
      | error thrown =>
          exact .inr ⟨⟨finalTx, .error thrown⟩, .error (normalizeTransactionError thrown), rfl,
            by simp only [answer], rfl⟩
      | ok response =>
          exact .inr ⟨⟨finalTx, .ok response⟩, .ok (sendResult response), rfl,
            by simp only [answer], rfl⟩

/-- The loop submits the remaining transactions in order, by induction on them. -/
theorem submitFrom_inOrder (client : SubmissionClient τ) (options : SubmissionOptions)
    (total index : Nat) (transactions : List τ) (results : List TransactionSendResult)
    (log : List (Submission τ)) (cache : AccountSequenceCache)
    : ∃ submissions,
        (submitFrom client options total index transactions results log cache).log
          = log ++ submissions
        ∧ SubmitsInOrder client transactions submissions := by
  induction transactions generalizing index results log with
  | nil => exact ⟨[], by simp [submitFrom], [], List.prefix_rfl, .nil⟩
  | cons transaction rest ih =>
      have none : SubmitsInOrder client (transaction :: rest) [] :=
        ⟨[], List.nil_prefix, .nil⟩
      rcases sendTransaction_cases client log transaction with
        ⟨thrown, error, _, sent⟩ | ⟨submission, outcome, signed, sent, _⟩
      · exact ⟨[], by simp [submitFrom, sent, rejectSubmission], none⟩
      · have one : SubmitsInOrder client (transaction :: rest) [submission] :=
          ⟨[transaction], List.prefix_append [transaction] rest, .cons signed .nil⟩
        cases outcome with
        | error error =>
            exact ⟨[submission], by simp [submitFrom, sent, rejectSubmission], one⟩
        | ok result =>
            cases told : options.progress index result with
            | error reason =>
                exact ⟨[submission], by simp [submitFrom, sent, told, rejectSubmission], one⟩
            | ok _ =>
                obtain ⟨submissions, whole, before, isPrefix, aligned⟩ :=
                  ih (index + 1) (results ++ [result]) (log ++ [submission])
                refine ⟨submission :: submissions, ?_, transaction :: before,
                  List.cons_prefix_cons.mpr ⟨rfl, isPrefix⟩, .cons signed aligned⟩
                simp only [submitFrom, sent, told]
                rw [whole, List.append_assoc, List.singleton_append]

/-- A rejected submission stops at the first transaction that was not accepted when it names
such a transaction, and submitted nothing behind another one.
-/
theorem stopsAtFirst_rejected {options : SubmissionOptions} {total index : Nat}
    {reason : String} {log : List (Submission τ)} {cache : AccountSequenceCache}
    (inRange : index < total)
    : StopsAtFirst total (rejectSubmission options total index reason log cache)
      ↔ (∀ earlier, earlier + 1 < log.length → AcceptedAt log earlier)
        ∧ ¬ AcceptedAt log index := by
  constructor
  · exact fun whole => ⟨whole.stops, whole.names _ rfl⟩
  · intro given
    obtain ⟨stops, named⟩ := given
    refine ⟨stops, ?_, by simp [rejectSubmission], ?_⟩
    · refine iff_of_false (by simp [rejectSubmission]) (fun all => named (all index inRange))
    · intro failure isFailure
      obtain rfl := Except.error.inj isFailure
      exact named

/-- Nothing was accepted behind the end of the log. -/
theorem not_acceptedAt_of_le {log : List (Submission τ)} {index : Nat}
    (behind : log.length ≤ index)
    : ¬ AcceptedAt log index := by
  intro given
  obtain ⟨submission, _, found, _⟩ := given
  simp [List.getElem?_eq_none behind] at found

/-- A submission added to the log is accepted according to its own result. -/
theorem acceptedAt_append {log : List (Submission τ)} {submission : Submission τ} {index : Nat}
    (known : ∀ earlier < log.length, AcceptedAt log earlier)
    : AcceptedAt (log ++ [submission]) index
      ↔ index < log.length
        ∨ index = log.length
          ∧ ∃ result, submission.result = some result ∧ isAccepted result.status = true := by
  rcases Nat.lt_trichotomy index log.length with before | rfl | behind
  · obtain ⟨earlier, result, found, answered⟩ := known index before
    have found : (log ++ [submission])[index]? = some earlier := by
      rwa [List.getElem?_append_left before]
    exact iff_of_true ⟨earlier, result, found, answered⟩ (.inl before)
  · simp [AcceptedAt]
  · have notAccepted : ¬ AcceptedAt (log ++ [submission]) index :=
      not_acceptedAt_of_le (by simpa using Nat.succ_le_of_lt behind)
    exact iff_of_false notAccepted (by omega)

/-- After an answered transaction that was not accepted, only a wallet that refuses to sign the
next one keeps the submission from going on.
-/
theorem stopsAtFirst_unaccepted {client : SubmissionClient τ} {options : SubmissionOptions}
    {index total : Nat} {rest : List τ} {results : List TransactionSendResult}
    {log : List (Submission τ)} {cache : AccountSequenceCache}
    (length : log.length = index + 1) (size : total = index + 1 + rest.length)
    (before : ∀ earlier < index, AcceptedAt log earlier) (unaccepted : ¬ AcceptedAt log index)
    : StopsAtFirst total (submitFrom client options total (index + 1) rest results log cache)
      ↔ ∃ next ∈ rest.head?, ∃ thrown, client.sign next = .error thrown := by
  cases rest with
  | nil =>
      -- Nothing is left to submit, so the promise resolves although one was not accepted.
      refine iff_of_false (fun whole => ?_) (by simp)
      have all := whole.resolves_iff.mp ⟨results, rfl⟩
      exact unaccepted (all index (by simp [size]))
  | cons next rest =>
      rcases sendTransaction_cases client log next with
        ⟨thrown, error, refused, sent⟩ | ⟨submission, outcome, signed, sent, _⟩
      · refine iff_of_true ?_ ⟨next, rfl, thrown, refused⟩
        simp only [submitFrom, sent]
        refine (stopsAtFirst_rejected (by simp [size])).mpr ⟨fun earlier within => ?_, ?_⟩
        · exact before earlier (by omega)
        · exact not_acceptedAt_of_le length.le
      · refine iff_of_false (fun whole => ?_) ?_
        · obtain ⟨more, extended⟩
              : ∃ more,
                  (submitFrom client options total (index + 1) (next :: rest) results log
                      cache).log
                    = log ++ submission :: more := by
            have later := submitFrom_inOrder client options total (index + 2) rest
            simp only [submitFrom, sent]
            cases outcome with
            | error error => exact ⟨[], rfl⟩
            | ok result =>
                cases told : options.progress (index + 1) result with
                | error reason => exact ⟨[], by simp [told, rejectSubmission]⟩
                | ok _ =>
                    obtain ⟨more, whole, _⟩ :=
                      later (results ++ [result]) (log ++ [submission]) cache
                    exact ⟨more, by simp [told, whole]⟩
          -- The next one went out, which stopping at the first unaccepted one forbids.
          have accepted := whole.stops index (by simp [extended, length])
          obtain ⟨found, result, at_index, described⟩ := accepted
          rw [extended, List.getElem?_append_left (by omega)] at at_index
          exact unaccepted ⟨found, result, at_index, described⟩
        · intro given
          obtain ⟨other, same, thrown, refused⟩ := given
          obtain rfl := Option.some.inj same
          simp [signed] at refused

/-- From a place where everything was accepted so far, the submission stops at the first
transaction that was not accepted exactly when the callback agrees, by induction on the
remaining transactions.
-/
theorem submitFrom_stops_iff (client : SubmissionClient τ) (options : SubmissionOptions)
    (total index : Nat) (transactions : List τ) (results : List TransactionSendResult)
    (log : List (Submission τ)) (cache : AccountSequenceCache)
    (length : log.length = index) (size : total = index + transactions.length)
    (accepted : ∀ earlier < index, AcceptedAt log earlier)
    (collected : results.map some = log.map Submission.result)
    : StopsAtFirst total (submitFrom client options total index transactions results log cache)
      ↔ CallbackAgrees client options index transactions log := by
  induction transactions generalizing index results log with
  | nil =>
      have complete : total = index := by simpa using size
      subst complete
      refine iff_of_true ⟨?_, ?_, ?_, by simp [submitFrom]⟩ trivial
      · intro earlier within
        exact accepted earlier (by simp only [submitFrom, length] at within; omega)
      · exact iff_of_true ⟨results, rfl⟩ accepted
      · rintro _ ⟨⟩
        have sameLength := congrArg List.length collected
        rw [List.length_map, List.length_map, length] at sameLength
        exact ⟨sameLength, collected⟩
  | cons transaction rest ih =>
      have inRange : index < total := by simp [size]
      have known : ∀ earlier < log.length, AcceptedAt log earlier := by rwa [length]
      unfold CallbackAgrees submitFrom
      rcases sendTransaction_cases client log transaction with
        ⟨thrown, error, _, sent⟩ | ⟨submission, outcome, _, sent, own⟩
      · simp only [sent, iff_true]
        refine (stopsAtFirst_rejected inRange).mpr ⟨fun earlier within => ?_, ?_⟩
        · exact accepted earlier (by omega)
        · exact not_acceptedAt_of_le length.le
      · have atEarlier : ∀ earlier < index, AcceptedAt (log ++ [submission]) earlier :=
          fun earlier before => (acceptedAt_append known).mpr (.inl (length ▸ before))
        have beforeEnd
            : ∀ earlier, earlier + 1 < (log ++ [submission]).length
                → AcceptedAt (log ++ [submission]) earlier := by
          intro earlier within
          rw [List.length_append, List.length_singleton] at within
          exact atEarlier earlier (by omega)
        have atIndex
            : AcceptedAt (log ++ [submission]) index
              ↔ ∃ result, submission.result = some result ∧ isAccepted result.status = true := by
          rw [acceptedAt_append known, length]
          simp
        simp only [sent]
        cases outcome with
        | error error =>
            have own : submission.result = none := own
            refine iff_of_true ((stopsAtFirst_rejected inRange).mpr ⟨beforeEnd, ?_⟩) trivial
            simp [atIndex, own]
        | ok result =>
            have own : submission.result = some result := own
            have atIndex
                : AcceptedAt (log ++ [submission]) index ↔ isAccepted result.status = true := by
              simp [atIndex, own]
            simp only
            cases told : options.progress index result with
            | error reason =>
                simp only
                rw [stopsAtFirst_rejected inRange, atIndex, Bool.not_eq_true]
                exact and_iff_right beforeEnd
            | ok _ =>
                simp only
                cases fine : isAccepted result.status with
                | true =>
                    simp only [↓reduceIte]
                    refine ih (index + 1) (results ++ [result]) (log ++ [submission])
                      (by simp [length]) (by simp [size]; omega) ?_ (by simp [collected, own])
                    intro earlier before
                    rcases Nat.lt_succ_iff_lt_or_eq.mp before with less | rfl
                    · exact atEarlier earlier less
                    · exact atIndex.mpr fine
                -- The callback let an unaccepted result pass.
                | false =>
                    simp only [Bool.false_eq_true, ↓reduceIte]
                    exact stopsAtFirst_unaccepted (by simp [length])
                      (by simp [size]; omega) atEarlier (by simp [atIndex, fine])

/-- Transactions are submitted in order. The submission stops at the first transaction that was
not accepted, resolves exactly when all were, and blames no accepted one, if and only if
the callback throws for the first transaction that was answered but not accepted, and for
none before it.
-/
theorem submitTransactionsSequentially_stops_iff (client : SubmissionClient τ)
    (transactions : List τ) (options : SubmissionOptions) (cache : AccountSequenceCache)
    : SubmitsInOrder client transactions
          (submitTransactionsSequentially client transactions options cache).log
      ∧ (StopsAtFirst transactions.length
            (submitTransactionsSequentially client transactions options cache)
          ↔ CallbackAgrees client options 0 transactions []) := by
  constructor
  · obtain ⟨submissions, whole, inOrder⟩ :=
      submitFrom_inOrder client options transactions.length 0 transactions [] [] cache
    rw [submitTransactionsSequentially, whole, List.nil_append]
    exact inOrder
  · exact submitFrom_stops_iff client options transactions.length 0 transactions [] [] cache rfl
      (Nat.zero_add _).symm (by simp) rfl

/-- A server that answers the first submission with `ERROR` and all others with `PENDING`. -/
def errorFirst : SubmissionClient String :=
  {
    wallet := none
    send := fun log transaction =>
      .ok { hash := some transaction, status := if log.isEmpty then "ERROR" else "PENDING" }
  }

/-- The second transaction goes out although the first one was answered with `ERROR`, and the
submission resolves with both results.
-/
theorem submitTransactionsSequentially_goes_on
    : (submitTransactionsSequentially errorFirst ["first", "second"] {} .empty).log.map
            Submission.transaction
          = ["first", "second"]
      ∧ ¬ StopsAtFirst 2
            (submitTransactionsSequentially errorFirst ["first", "second"] {} .empty) := by
  refine ⟨rfl, fun whole => ?_⟩
  obtain ⟨submission, result, found, answered, accepted⟩ := whole.stops 0 (by decide)
  obtain rfl := Option.some.inj found
  obtain rfl := Option.some.inj answered
  exact absurd accepted (by decide)

end Axionvera.Client.SequentialSubmission
