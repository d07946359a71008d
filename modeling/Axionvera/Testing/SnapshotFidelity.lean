import Axionvera.Foundation.TransitionSystem
import Axionvera.Testing.MockRpcServer
import Mathlib.Algebra.Order.Floor.Ring
import Mathlib.Data.ENat.Basic
import Mathlib.Data.Rat.Floor

/-! A restored server answers as it did when the snapshot was taken, exactly as long as no
transaction of the snapshot is polled while it is waited for: the snapshot shares the objects that
polls count down.
-/

namespace Axionvera.Testing

open Axionvera.Foundation

variable {ε τ α : Type} {env : MockEnvironment α}

-----------------------------------------------------------------------------------------
-- Polls
-----------------------------------------------------------------------------------------

namespace MockTransactionEntry

variable {entry later : MockTransactionEntry}

/-- How many polls will not find the transaction yet. -/
def pollsLeft (entry : MockTransactionEntry) : ℕ∞ :=
  if entry.status = .pending then
    match entry.pendingPollsRemaining with
    | .finite polls => (⌈polls⌉.toNat : ℕ∞)
    | .infinity false => ⊤
    | .infinity true | .nan => 0
  else 0

/-- How the transaction ends. -/
def outcome (entry : MockTransactionEntry) : FinalStatus :=
  match entry.status with
  | .pending => entry.finalStatus
  | .success => .success
  | .failed | .notFound => .failed

/-- The entry is waited for, and polls bring its end closer. -/
def countsDown (entry : MockTransactionEntry) : Bool :=
  match entry.status, entry.pendingPollsRemaining with
  | .pending, .finite polls => 0 < polls
  | _, _ => false

/-- An entry is waited for exactly when a poll is left. -/
theorem isAwaited_iff : entry.isAwaited = true ↔ 0 < entry.pollsLeft := by
  rw [isAwaited, pollsLeft, Bool.and_eq_true, decide_eq_true_eq]
  split_ifs with isPending
  · rw [and_iff_right isPending]
    cases entry.pendingPollsRemaining with
    | finite polls =>
        simp only [JsNumber.isAbove, decide_eq_true_eq, Int.cast_zero, Nat.cast_pos, Int.lt_toNat,
          Nat.cast_zero, Int.ceil_pos]
    | nan => simp [JsNumber.isAbove]
    | infinity negative => cases negative <;> simp [JsNumber.isAbove]
  · simp [isPending]

/-- A poll takes one off the polls that are left. -/
@[simp]
theorem pollsLeft_poll : entry.poll.pollsLeft = entry.pollsLeft - 1 := by
  rw [poll]
  split_ifs with isPending isAbove
  · rw [pollsLeft, pollsLeft, if_pos isPending, if_pos isPending]
    cases remaining : entry.pendingPollsRemaining with
    | finite polls =>
        have oneLess : (⌈polls - 1⌉.toNat : ℕ∞) = (⌈polls⌉.toNat : ℕ∞) - 1 := by
          have isLess : (⌈polls⌉ - 1).toNat = ⌈polls⌉.toNat - 1 := by omega
          rw [Int.ceil_sub_one, isLess]
          exact ENat.natCast_sub _ _
        exact oneLess
    | nan => simp [JsNumber.sub]
    | infinity negative => cases negative <;> simp [JsNumber.sub]
  · have notAwaited : ¬ 0 < entry.pollsLeft :=
      fun left => isAbove (Bool.and_eq_true_iff.mp (isAwaited_iff.mpr left)).2
    have isFinal : entry.finalStatus.toStatus ≠ .pending := by
      cases entry.finalStatus <;> exact nofun
    rw [nonpos_iff_eq_zero.mp (not_lt.mp notAwaited), pollsLeft, if_neg isFinal, zero_tsub]
  · rw [pollsLeft, if_neg isPending, zero_tsub]

/-- A poll does not change how the transaction ends. -/
@[simp]
theorem outcome_poll : entry.poll.outcome = entry.outcome := by
  rw [poll]
  split_ifs with isPending isAbove
  · rfl
  · rw [outcome, outcome, isPending]
    cases entry.finalStatus <;> rfl
  · rfl

/-- A poll does not change the ledger. -/
@[simp]
theorem ledger_poll : entry.poll.ledger = entry.ledger := by
  rw [poll]
  split_ifs <;> rfl

/-- Behind a poll that found it, the status is how the transaction ends. -/
theorem status_poll (notAwaited : entry.isAwaited = false)
    : (if entry.poll.status = .success then FinalStatus.success else .failed) = entry.outcome := by
  rw [poll, outcome]
  by_cases isPending : entry.status = .pending
  · have notAbove : ¬ entry.pendingPollsRemaining.isAbove 0 = true := by
      simpa [isAwaited, isPending] using notAwaited
    rw [if_pos isPending, if_neg notAbove, isPending]
    cases entry.finalStatus <;> rfl
  · rw [if_neg isPending]
    cases isStatus : entry.status with
    | pending => exact absurd isStatus isPending
    | success | failed | notFound => rfl

/-- Polls leave less exactly on an entry that counts down. -/
theorem pollsLeft_poll_eq_iff
    : entry.poll.pollsLeft = entry.pollsLeft ↔ entry.countsDown = false := by
  rw [pollsLeft_poll, pollsLeft, countsDown]
  cases entry.status with
  | pending =>
      rw [if_pos rfl]
      cases entry.pendingPollsRemaining with
      | finite polls =>
          have oneLess : (⌈polls⌉.toNat : ℕ∞) - 1 = ((⌈polls⌉.toNat - 1 : ℕ) : ℕ∞) :=
            (ENat.natCast_sub _ _).symm
          have isPositive : 0 < polls ↔ 0 < ⌈polls⌉ := Int.ceil_pos.symm
          simp only [oneLess, Nat.cast_inj, decide_eq_false_iff_not, isPositive]
          omega
      | nan => simp
      | infinity negative => cases negative <;> simp
  | success | failed | notFound => simp

/-- The later entry ends the same way, with as many polls or fewer before. -/
structure Descends (entry later : MockTransactionEntry) : Prop where
  outcome : later.outcome = entry.outcome
  ledger : later.ledger = entry.ledger
  pollsLeft : later.pollsLeft ≤ entry.pollsLeft

/-- An entry descends from itself. -/
theorem Descends.refl (entry : MockTransactionEntry) : entry.Descends entry :=
  ⟨rfl, rfl, le_rfl⟩

/-- What comes later comes later still. -/
theorem Descends.trans {last : MockTransactionEntry} (first : entry.Descends later)
    (second : later.Descends last)
    : entry.Descends last :=
  ⟨second.outcome.trans first.outcome, second.ledger.trans first.ledger,
    second.pollsLeft.trans first.pollsLeft⟩

/-- A polled entry descends from what it was. -/
theorem Descends.poll (entry : MockTransactionEntry) : entry.Descends entry.poll :=
  ⟨outcome_poll, ledger_poll, pollsLeft_poll ▸ tsub_le_self⟩

end MockTransactionEntry

-----------------------------------------------------------------------------------------
-- References
-----------------------------------------------------------------------------------------

/-- Every hash has an object of its own. -/
structure IsSeparate (transactions : InsertionMap String EntryReference) (allocated : Nat)
    : Prop where
  isAllocated : ∀ {hash reference}, transactions.get hash = some reference → reference < allocated
  distinct
    : ∀ {hash other reference},
        transactions.get hash = some reference
        → transactions.get other = some reference
        → hash = other

namespace IsSeparate

variable {transactions : InsertionMap String EntryReference} {allocated : Nat}

/-- The empty map has no objects. -/
theorem empty : IsSeparate .empty allocated :=
  ⟨nofun, nofun⟩

/-- More objects do not matter. -/
theorem mono (separate : IsSeparate transactions allocated) {more : Nat} (le : allocated ≤ more)
    : IsSeparate transactions more :=
  ⟨fun found => (separate.isAllocated found).trans_le le, separate.distinct⟩

/-- A new object belongs to its hash alone. -/
theorem set (separate : IsSeparate transactions allocated) (hash : String)
    : IsSeparate (transactions.set hash allocated) (allocated + 1) := by
  constructor
  case isAllocated =>
    intro key reference found
    rw [InsertionMap.get_set] at found
    split_ifs at found
    · exact Option.some.inj found ▸ Nat.lt_succ_self allocated
    · exact (separate.isAllocated found).trans (Nat.lt_succ_self allocated)
  case distinct =>
    intro key other reference found otherFound
    rw [InsertionMap.get_set] at found otherFound
    split_ifs at found otherFound with isHash otherIsHash otherIsHash
    · exact isHash.trans otherIsHash.symm
    · have isOld := separate.isAllocated otherFound
      exact absurd (Option.some.inj found) (Nat.ne_of_gt isOld)
    · have isOld := separate.isAllocated found
      exact absurd (Option.some.inj otherFound) (Nat.ne_of_gt isOld)
    · exact separate.distinct found otherFound

end IsSeparate

namespace MockRpcServer

variable {server : MockRpcServer ε}

/-- The server's hashes have objects of their own. -/
def IsSeparate (server : MockRpcServer ε) : Prop :=
  Testing.IsSeparate server.transactions server.objects.length

/-- What calls can tell of the object at a hash: how many polls are left, how the transaction ends
and in which ledger.
-/
def readingAt (server : MockRpcServer ε) (hash : String)
    : Option (ℕ∞ × FinalStatus × Option JsNumber) :=
  (server.entryAt hash).map fun entry => (entry.pollsLeft, entry.outcome, entry.ledger)

/-- Every hash of a server has an object. -/
theorem IsSeparate.exists_entry (separate : server.IsSeparate) {hash : String} {reference : Nat}
    (found : server.transactions.get hash = some reference)
    : ∃ entry, server.objects[reference]? = some entry ∧ server.entryAt hash = some entry := by
  obtain ⟨entry, isEntry⟩ : ∃ entry, server.objects[reference]? = some entry :=
    ⟨_, List.getElem?_eq_getElem (separate.isAllocated found)⟩
  refine ⟨entry, isEntry, ?_⟩
  rw [entryAt, found]
  exact isEntry

/-- A hash is in the map exactly when it has an object. -/
theorem IsSeparate.has_eq (separate : server.IsSeparate) (hash : String)
    : server.transactions.has hash = (server.readingAt hash).isSome := by
  rw [readingAt, Option.isSome_map, Bool.eq_iff_iff, InsertionMap.has_iff]
  constructor
  · intro given
    obtain ⟨reference, found⟩ := given
    obtain ⟨entry, _, isEntry⟩ := separate.exists_entry found
    rw [isEntry, Option.isSome_some]
  · intro isSome
    obtain ⟨entry, isEntry⟩ := Option.isSome_iff_exists.mp isSome
    obtain ⟨reference, found, _⟩ := Option.bind_eq_some_iff.mp isEntry
    exact ⟨reference, found⟩

/-- A new object is read at its hash, all others stay what they are. -/
theorem IsSeparate.entryAt_putEntry (separate : server.IsSeparate) (hash other : String)
    (entry : MockTransactionEntry)
    : (server.putEntry hash entry).entryAt other
      = if other = hash then some entry else server.entryAt other := by
  rw [entryAt, putEntry, InsertionMap.get_set]
  split_ifs with isHash
  · exact List.getElem?_concat_length
  · rw [entryAt]
    cases found : server.transactions.get other with
    | none => rfl
    | some reference => exact List.getElem?_append_left (separate.isAllocated found)

/-- A poll is read at its hash, all other objects stay what they are. -/
theorem IsSeparate.entryAt_pollAt (separate : server.IsSeparate) {hash : String}
    {reference : EntryReference} (found : server.transactions.get hash = some reference)
    (other : String)
    : (server.pollAt reference).entryAt other
      = if other = hash then (server.entryAt other).map .poll else server.entryAt other := by
  rw [entryAt, entryAt, pollAt]
  cases otherFound : server.transactions.get other with
  | none => split_ifs <;> rfl
  | some otherReference =>
      simp only [Option.bind_some, List.getElem?_modify]
      split_ifs with sameReference isHash isHash
      · cases server.objects[otherReference]? <;> rfl
      · exact absurd (separate.distinct otherFound (sameReference ▸ found)) isHash
      · rw [isHash, found] at otherFound
        exact absurd (Option.some.inj otherFound) sameReference
      · cases server.objects[otherReference]? <;> rfl

/-- An object of its own for a new entry. -/
theorem IsSeparate.putEntry (separate : server.IsSeparate) (hash : String)
    (entry : MockTransactionEntry)
    : (server.putEntry hash entry).IsSeparate := by
  rw [IsSeparate, MockRpcServer.putEntry, List.length_append, List.length_singleton]
  exact Testing.IsSeparate.set separate hash

/-- Polls move no object. -/
theorem IsSeparate.pollAt (separate : server.IsSeparate) (reference : EntryReference)
    : (server.pollAt reference).IsSeparate := by
  rw [IsSeparate, MockRpcServer.pollAt, List.length_modify]
  exact separate

-----------------------------------------------------------------------------------------
-- What calls do
-----------------------------------------------------------------------------------------

/-- No error is waiting to be thrown by a method. -/
def IsUnhindered (server : MockRpcServer ε) (method : String) : Prop :=
  ∀ pending ∈ server.pendingErrors, pending.method ≠ method

/-- A method that no error is waiting for does what it does. -/
theorem IsUnhindered.checkError_eq {method : String} (unhindered : server.IsUnhindered method)
    (body : MockRpcServer ε → Outcome ε τ α × MockRpcServer ε)
    : server.checkError method body = body server := by
  have noneFound
      : (server.pendingErrors.find? fun pending => pending.method = method) = none :=
    List.find?_eq_none.mpr fun pending member isMethod =>
      unhindered pending member (of_decide_eq_true isMethod)
  rw [checkError, noneFound]

/-- Without errors, no method is hindered. -/
theorem isUnhindered_of_noErrors (noErrors : server.pendingErrors = []) (method : String)
    : server.IsUnhindered method :=
  fun _ member => absurd (noErrors ▸ member) List.not_mem_nil

/-- What a call can do to the server. -/
inductive CallEffect (server : MockRpcServer ε) (call : ServerCall τ)
    : MockRpcServer ε → Prop where
  | threw (errors : List (PendingError ε))
      : CallEffect server call { server with pendingErrors := errors }
  | made (hash : String) (entry : MockTransactionEntry)
      : CallEffect server call (server.putEntry hash entry)
  | polled {hash : String} {now : Int} {reference : EntryReference}
      (isPoll : call = .getTransaction hash now)
      (unhindered : server.IsUnhindered "getTransaction")
      (found : server.transactions.get hash = some reference)
      : CallEffect server call (server.pollAt reference)

/-- A call can do nothing. -/
theorem CallEffect.none (server : MockRpcServer ε) (call : ServerCall τ)
    : CallEffect server call server :=
  .threw server.pendingErrors

/-- A call throws an error at most, makes an object or polls one, by cases on the call. -/
theorem answer_effect (call : ServerCall τ)
    : CallEffect server call (server.answer env call).2 := by
  have checked {method : String} {body : MockRpcServer ε → Outcome ε τ α × MockRpcServer ε}
      (behind : server.IsUnhindered method → CallEffect server call (body server).2)
      : CallEffect server call (server.checkError method body).2 := by
    rw [checkError]
    split
    · exact .threw _
    · rename_i noneFound
      exact behind fun pending member isMethod =>
        List.find?_eq_none.mp noneFound pending member (decide_eq_true isMethod)
  cases call with
  | getTransaction hash now =>
      refine checked fun unhindered => ?_
      split
      · rename_i reference _ found _
        exact .polled rfl unhindered found
      · exact .none server _
  | sendTransaction now =>
      refine checked fun _ => ?_
      simp only
      split_ifs
      · exact .none server _
      · exact .made _ _
  | getAccount publicKey =>
      refine checked fun _ => ?_
      split
      · exact .none server _
      · split <;> exact .none server _
  | getHealth => exact checked fun _ => by split_ifs <;> exact .none server _
  | simulateTransaction => exact checked fun _ => by simp only; split <;> exact .none server _
  | getLatestLedger => exact checked fun _ => .none server _
  | prepareTransaction tx => exact checked fun _ => .none server _
  | getEvents filters now => exact checked fun _ => .none server _

/-- Every hash still has an object of its own after a call. -/
theorem IsSeparate.answer (separate : server.IsSeparate) (call : ServerCall τ)
    : (server.answer env call).2.IsSeparate := by
  have effect : CallEffect server call (server.answer env call).2 := answer_effect call
  generalize (server.answer env call).2 = next at effect ⊢
  cases effect with
  | threw errors => exact separate
  | made hash entry => exact separate.putEntry hash entry
  | polled isPoll unhindered found => exact separate.pollAt _

-----------------------------------------------------------------------------------------
-- Servers that look alike
-----------------------------------------------------------------------------------------

/-- Calls cannot tell the servers apart. -/
structure LooksLike (left right : MockRpcServer ε) : Prop where
  ledger : left.ledger = right.ledger
  accounts : left.accounts = right.accounts
  simulationResults : left.simulationResults = right.simulationResults
  events : left.events = right.events
  healthy : left.healthy = right.healthy
  size : left.transactions.entries.length = right.transactions.entries.length
  readings : ∀ hash, left.readingAt hash = right.readingAt hash
  leftNoErrors : left.pendingErrors = []
  rightNoErrors : right.pendingErrors = []
  leftSeparate : left.IsSeparate
  rightSeparate : right.IsSeparate

variable {left right : MockRpcServer ε}

/-- The same new entry keeps servers alike. -/
theorem LooksLike.putEntry (alike : left.LooksLike right) (hash : String)
    (entry : MockTransactionEntry)
    : (left.putEntry hash entry).LooksLike (right.putEntry hash entry) where
  ledger := alike.ledger
  accounts := alike.accounts
  simulationResults := alike.simulationResults
  events := alike.events
  healthy := alike.healthy
  size := by
    rw [MockRpcServer.putEntry, MockRpcServer.putEntry, InsertionMap.length_set,
      InsertionMap.length_set, alike.size, alike.leftSeparate.has_eq, alike.rightSeparate.has_eq,
      alike.readings]
  readings := by
    intro other
    have others := alike.readings other
    rw [readingAt, readingAt] at others
    rw [readingAt, readingAt, alike.leftSeparate.entryAt_putEntry,
      alike.rightSeparate.entryAt_putEntry]
    split_ifs
    · rfl
    · exact others
  leftNoErrors := alike.leftNoErrors
  rightNoErrors := alike.rightNoErrors
  leftSeparate := alike.leftSeparate.putEntry hash entry
  rightSeparate := alike.rightSeparate.putEntry hash entry

/-- Polls of the same hash keep servers alike. -/
theorem LooksLike.pollAt (alike : left.LooksLike right) {hash : String}
    {reference rightReference : EntryReference}
    (found : left.transactions.get hash = some reference)
    (rightFound : right.transactions.get hash = some rightReference)
    : (left.pollAt reference).LooksLike (right.pollAt rightReference) where
  ledger := alike.ledger
  accounts := alike.accounts
  simulationResults := alike.simulationResults
  events := alike.events
  healthy := alike.healthy
  size := alike.size
  readings := by
    intro other
    have others := alike.readings other
    rw [readingAt, readingAt] at others
    rw [readingAt, readingAt, alike.leftSeparate.entryAt_pollAt found,
      alike.rightSeparate.entryAt_pollAt rightFound]
    split_ifs
    · -- A poll changes a reading as it changes the same reading.
      have polled := congrArg (Option.map fun reading => (reading.1 - 1, reading.2)) others
      simpa [Option.map_map, Function.comp_def] using polled
    · exact others
  leftNoErrors := alike.leftNoErrors
  rightNoErrors := alike.rightNoErrors
  leftSeparate := alike.leftSeparate.pollAt reference
  rightSeparate := alike.rightSeparate.pollAt rightReference

/-- Sending a transaction cannot tell the servers apart. -/
theorem LooksLike.sendTransaction (alike : left.LooksLike right) (now : Int)
    : (left.sendTransaction env now : Outcome ε τ α × _).1 = (right.sendTransaction env now).1
      ∧ LooksLike (left.sendTransaction env now : Outcome ε τ α × _).2
          (right.sendTransaction env now : Outcome ε τ α × _).2 := by
  have sameHash : left.nextHash env = right.nextHash env := by
    rw [nextHash, nextHash, alike.ledger, alike.size]
  have sameHas : left.transactions.has (right.nextHash env)
      = right.transactions.has (right.nextHash env) := by
    rw [alike.leftSeparate.has_eq, alike.rightSeparate.has_eq, alike.readings]
  rw [MockRpcServer.sendTransaction, MockRpcServer.sendTransaction,
    (isUnhindered_of_noErrors alike.leftNoErrors _).checkError_eq,
    (isUnhindered_of_noErrors alike.rightNoErrors _).checkError_eq]
  simp only [sameHash, alike.ledger, sameHas, true_and]
  split_ifs
  · exact alike
  · exact alike.putEntry _ _

/-- Polling a transaction cannot tell the servers apart. -/
theorem LooksLike.getTransaction (alike : left.LooksLike right) (hash : String) (now : Int)
    : (left.getTransaction hash now : Outcome ε τ α × _).1 = (right.getTransaction hash now).1
      ∧ LooksLike (left.getTransaction hash now : Outcome ε τ α × _).2
          (right.getTransaction hash now : Outcome ε τ α × _).2 := by
  have sameTimes : left.ledgerTimes now = right.ledgerTimes now := by
    rw [ledgerTimes, ledgerTimes, alike.ledger]
  have sameReading := alike.readings hash
  have sameHas : left.transactions.has hash = right.transactions.has hash := by
    rw [alike.leftSeparate.has_eq, alike.rightSeparate.has_eq, alike.readings]
  rw [MockRpcServer.getTransaction, MockRpcServer.getTransaction,
    (isUnhindered_of_noErrors alike.leftNoErrors _).checkError_eq,
    (isUnhindered_of_noErrors alike.rightNoErrors _).checkError_eq]
  cases found : left.transactions.get hash with
  | none =>
      have rightMissing : right.transactions.get hash = none := by
        rw [InsertionMap.get_eq_none_iff] at found ⊢
        exact sameHas ▸ found
      simp only [rightMissing, sameTimes, true_and]
      exact alike
  | some reference =>
      obtain ⟨rightReference, rightFound⟩
          : ∃ reference, right.transactions.get hash = some reference := by
        rw [← InsertionMap.has_iff, ← sameHas, InsertionMap.has_iff]
        exact ⟨reference, found⟩
      obtain ⟨entry, _, isEntry⟩ := alike.leftSeparate.exists_entry found
      obtain ⟨rightEntry, _, isRightEntry⟩ := alike.rightSeparate.exists_entry rightFound
      rw [readingAt, readingAt, isEntry, isRightEntry] at sameReading
      simp only [Option.map_some, Option.some.injEq, Prod.mk.injEq] at sameReading
      obtain ⟨samePolls, sameOutcome, sameLedger⟩ := sameReading
      have sameAwaited : entry.isAwaited = rightEntry.isAwaited := by
        rw [Bool.eq_iff_iff, MockTransactionEntry.isAwaited_iff, samePolls,
          MockTransactionEntry.isAwaited_iff]
      simp only [isEntry, rightFound, isRightEntry, sameAwaited, sameTimes]
      refine ⟨?_, alike.pollAt found rightFound⟩
      split_ifs with isAwaited
      · rfl
      · have notAwaited := Bool.eq_false_iff.mpr isAwaited
        rw [finalResponse, finalResponse, sameTimes, alike.ledger,
          MockTransactionEntry.ledger_poll, MockTransactionEntry.ledger_poll, sameLedger,
          MockTransactionEntry.status_poll notAwaited,
          MockTransactionEntry.status_poll (sameAwaited.trans notAwaited), sameOutcome]

/-- No call can tell the servers apart, and they still look alike afterwards. -/
theorem LooksLike.answer (call : ServerCall τ) (alike : left.LooksLike right)
    : (left.answer env call).1 = (right.answer env call).1
      ∧ LooksLike (left.answer env call).2 (right.answer env call).2 := by
  have unhindered (method : String) (body : MockRpcServer ε → Outcome ε τ α × MockRpcServer ε)
      (sameBody : (body left).1 = (body right).1 ∧ (body left).2.LooksLike (body right).2)
      : (left.checkError method body).1 = (right.checkError method body).1
        ∧ (left.checkError method body).2.LooksLike (right.checkError method body).2 := by
    rw [(isUnhindered_of_noErrors alike.leftNoErrors _).checkError_eq,
      (isUnhindered_of_noErrors alike.rightNoErrors _).checkError_eq]
    exact sameBody
  cases call with
  | getHealth =>
      apply unhindered
      simp only [alike.healthy, alike.ledger]
      split_ifs <;> exact ⟨rfl, alike⟩
  | getLatestLedger =>
      apply unhindered
      exact ⟨by rw [alike.ledger], alike⟩
  | getAccount publicKey =>
      apply unhindered
      simp only [alike.accounts]
      split
      · exact ⟨rfl, alike⟩
      · split <;> exact ⟨rfl, alike⟩
  | simulateTransaction =>
      apply unhindered
      simp only [alike.simulationResults, alike.ledger]
      split <;> exact ⟨rfl, alike⟩
  | prepareTransaction tx =>
      apply unhindered
      exact ⟨rfl, alike⟩
  | sendTransaction now => exact alike.sendTransaction now
  | getTransaction hash now => exact alike.getTransaction hash now
  | getEvents filters now =>
      apply unhindered
      exact ⟨by rw [alike.events, alike.ledger], alike⟩

-----------------------------------------------------------------------------------------
-- Telling servers apart
-----------------------------------------------------------------------------------------

/-- A poll of a hash that has an object answers whether it is waited for. -/
theorem getTransaction_of_entry {hash : String} {reference : EntryReference}
    {entry : MockTransactionEntry} (unhindered : server.IsUnhindered "getTransaction")
    (found : server.transactions.get hash = some reference)
    (isEntry : server.entryAt hash = some entry) (now : Int)
    : (server.getTransaction hash now : Outcome ε τ α × MockRpcServer ε)
      = (.ok (
          if entry.isAwaited then .transactionNotFound (server.ledgerTimes now)
          else .transactionDone (server.finalResponse now entry.poll)),
        server.pollAt reference) := by
  rw [getTransaction, unhindered.checkError_eq]
  simp only [found, isEntry]

/-- As long as servers answer polls of a hash alike, they have as many left, by induction on the
number of polls.
-/
theorem lt_pollsLeft_of_outputs {hash : String} {now : Int} {polls : Nat}
    {entry other : MockTransactionEntry}
    (leftNoErrors : left.pendingErrors = []) (rightNoErrors : right.pendingErrors = [])
    (leftSeparate : left.IsSeparate) (rightSeparate : right.IsSeparate)
    (isEntry : left.entryAt hash = some entry) (isOther : right.entryAt hash = some other)
    (sameOutputs
      : outputs (answer env) left
          (List.replicate (polls + 1) (.getTransaction hash now : ServerCall τ))
        = outputs (answer env) right
          (List.replicate (polls + 1) (.getTransaction hash now : ServerCall τ)))
    (isLeft : polls < entry.pollsLeft)
    : polls < other.pollsLeft := by
  have unhindered := isUnhindered_of_noErrors leftNoErrors "getTransaction"
  have otherUnhindered := isUnhindered_of_noErrors rightNoErrors "getTransaction"
  induction polls generalizing left right entry other with
  | zero =>
      obtain ⟨reference, found, _⟩ := Option.bind_eq_some_iff.mp isEntry
      obtain ⟨otherReference, otherFound, _⟩ := Option.bind_eq_some_iff.mp isOther
      have isAwaited := MockTransactionEntry.isAwaited_iff.mpr isLeft
      have sameFirst := (List.cons.inj sameOutputs).1
      rw [answer, answer, getTransaction_of_entry unhindered found isEntry,
        getTransaction_of_entry otherUnhindered otherFound isOther, if_pos isAwaited] at sameFirst
      apply MockTransactionEntry.isAwaited_iff.mp
      by_contra notAwaited
      rw [if_neg notAwaited] at sameFirst
      cases sameFirst
  | succ polls ih =>
      obtain ⟨reference, found, _⟩ := Option.bind_eq_some_iff.mp isEntry
      obtain ⟨otherReference, otherFound, _⟩ := Option.bind_eq_some_iff.mp isOther
      have sameRest := (List.cons.inj sameOutputs).2
      rw [answer, answer, getTransaction_of_entry unhindered found isEntry,
        getTransaction_of_entry otherUnhindered otherFound isOther] at sameRest
      have isPolled : (left.pollAt reference).entryAt hash = some entry.poll := by
        rw [leftSeparate.entryAt_pollAt found, if_pos rfl, isEntry, Option.map_some]
      have otherIsPolled : (right.pollAt otherReference).entryAt hash = some other.poll := by
        rw [rightSeparate.entryAt_pollAt otherFound, if_pos rfl, isOther, Option.map_some]
      have stillLeft : polls < entry.poll.pollsLeft := by
        rw [MockTransactionEntry.pollsLeft_poll]
        exact lt_tsub_iff_right.mpr (by exact_mod_cast isLeft)
      have noErrors : (left.pollAt reference).pendingErrors = [] := leftNoErrors
      have otherNoErrors : (right.pollAt otherReference).pendingErrors = [] := rightNoErrors
      have otherStillLeft : polls < other.poll.pollsLeft :=
        ih noErrors otherNoErrors (leftSeparate.pollAt reference)
          (rightSeparate.pollAt otherReference) isPolled otherIsPolled sameRest stillLeft unhindered
          otherUnhindered
      rw [MockTransactionEntry.pollsLeft_poll] at otherStillLeft
      exact_mod_cast lt_tsub_iff_right.mp otherStillLeft

end MockRpcServer

-----------------------------------------------------------------------------------------
-- Tests
-----------------------------------------------------------------------------------------

/-- A transaction of the snapshot is not polled while it is waited for, unless an error is injected.
-/
def LeavesPending (snap : MockRpcServerSnapshot) (test : MockTest ε) : TestAction ε τ → Prop
  | .call (.getTransaction hash _) =>
      test.server.IsUnhindered "getTransaction"
      → ∀ reference ∈ test.server.transactions.get hash,
          reference ∈ snap.transactions.values
          → ∀ entry ∈ test.server.objects[reference]?, entry.countsDown = false
  | _ => True

/-- Objects stay where they are, and their entries descend from what they were. -/
def Descend (objects later : List MockTransactionEntry) : Prop :=
  ∀ (reference : EntryReference) (entry : MockTransactionEntry),
    objects[reference]? = some entry
    → ∃ laterEntry, later[reference]? = some laterEntry ∧ entry.Descends laterEntry

/-- Objects descend from themselves. -/
theorem Descend.refl (objects : List MockTransactionEntry) : Descend objects objects :=
  fun _ _ isEntry => ⟨_, isEntry, .refl _⟩

/-- What comes later comes later still. -/
theorem Descend.trans {objects later last : List MockTransactionEntry}
    (first : Descend objects later) (second : Descend later last)
    : Descend objects last := by
  intro reference entry isEntry
  obtain ⟨middle, isMiddle, toMiddle⟩ := first _ _ isEntry
  obtain ⟨final, isFinal, toFinal⟩ := second _ _ isMiddle
  exact ⟨final, isFinal, toMiddle.trans toFinal⟩

/-- No object is lost. -/
theorem Descend.length_le {objects later : List MockTransactionEntry}
    (descend : Descend objects later)
    : objects.length ≤ later.length := by
  by_contra isLess
  have isOld := List.getElem?_eq_getElem (not_le.mp isLess)
  obtain ⟨_, isThere, _⟩ := descend _ _ isOld
  exact absurd (List.getElem?_eq_some_iff.mp isThere).1 (lt_irrefl _)

/-- What a step can do to the objects. -/
inductive ObjectStep (test : MockTest ε) (action : TestAction ε τ)
    : List MockTransactionEntry → Prop where
  | same : ObjectStep test action test.server.objects
  | made (entry : MockTransactionEntry) : ObjectStep test action (test.server.objects ++ [entry])
  | polled {hash : String} {now : Int} {reference : EntryReference}
      (isPoll : action = .call (.getTransaction hash now))
      (unhindered : test.server.IsUnhindered "getTransaction")
      (found : test.server.transactions.get hash = some reference)
      : ObjectStep test action (test.server.objects.modify reference .poll)

/-- A step leaves the objects, makes one or polls one, by cases on the action. -/
theorem objectStep {test next : MockTest ε} {action : TestAction ε τ}
    (taken : testStep env test action = some next)
    : ObjectStep test action next.server.objects := by
  cases action with
  | addTransaction entry => exact Option.some.inj taken ▸ .made _
  | call call =>
      obtain rfl := Option.some.inj taken
      have effect : test.server.CallEffect call (test.server.answer env call).2 :=
        MockRpcServer.answer_effect call
      rw [MockTest.update]
      generalize (test.server.answer env call).2 = next at effect ⊢
      cases effect with
      | threw errors => exact .same
      | made hash entry => exact .made entry
      | polled isPoll unhindered found =>
          exact .polled (congrArg TestAction.call isPoll) unhindered found
  | restore index =>
      obtain ⟨snap, _, rfl⟩ := Option.map_eq_some_iff.mp taken
      exact .same
  | addAccount _ | addSimulationResult _ _ | addEvent _ | injectError _ _ | setHealthy _
  | setLedger _ | reset | snapshot => exact Option.some.inj taken ▸ .same

/-- An object after a poll. -/
theorem getElem?_polled {objects : List MockTransactionEntry} {reference : EntryReference}
    {entry : MockTransactionEntry} (isEntry : objects[reference]? = some entry)
    (polled : EntryReference)
    : (objects.modify polled .poll)[reference]?
      = some (if polled = reference then entry.poll else entry) := by
  rw [List.getElem?_modify, isEntry]
  rfl

/-- Steps lose no object and bring no end further away. -/
theorem ObjectStep.descend {test : MockTest ε} {action : TestAction ε τ}
    {objects : List MockTransactionEntry} (objectStep : ObjectStep test action objects)
    : Descend test.server.objects objects := by
  cases objectStep with
  | same => exact Descend.refl _
  | made entry =>
      intro reference old isOld
      have isAllocated := (List.getElem?_eq_some_iff.mp isOld).1
      exact ⟨old, (List.getElem?_append_left isAllocated).trans isOld, .refl old⟩
  | polled _ _ _ =>
      intro reference old isOld
      refine ⟨_, getElem?_polled isOld _, ?_⟩
      split_ifs
      · exact .poll old
      · exact .refl old

/-- The polls that are left of a snapshot's transactions. -/
def SamePolls (snap : MockRpcServerSnapshot) (objects later : List MockTransactionEntry) : Prop :=
  ∀ reference ∈ snap.transactions.values,
    ∀ entry ∈ objects[reference]?, ∀ laterEntry ∈ later[reference]?,
      laterEntry.pollsLeft = entry.pollsLeft

/-- Polls that were the same before are the same later exactly when they are the same as at first.
-/
theorem SamePolls.iff {snap : MockRpcServerSnapshot}
    {objects middle last : List MockTransactionEntry}
    (same : SamePolls snap objects middle) (descend : Descend objects middle)
    (allocated : ∀ reference ∈ snap.transactions.values, reference < objects.length)
    : SamePolls snap middle last ↔ SamePolls snap objects last := by
  constructor
  · intro later reference inSnap entry isEntry lastEntry isLast
    obtain ⟨middleEntry, isMiddle, _⟩ := descend reference entry isEntry
    exact (later reference inSnap middleEntry isMiddle lastEntry isLast).trans
      (same reference inSnap entry isEntry middleEntry isMiddle)
  · intro later reference inSnap middleEntry isMiddle lastEntry isLast
    have isEntry := List.getElem?_eq_getElem (allocated reference inSnap)
    exact (later reference inSnap _ isEntry lastEntry isLast).trans
      (same reference inSnap _ isEntry middleEntry isMiddle).symm

/-- A step takes no polls from a snapshot's transactions exactly when it polls none of them while
it is waited for.
-/
theorem samePolls_step_iff {snap : MockRpcServerSnapshot} {test next : MockTest ε}
    {action : TestAction ε τ} (taken : testStep env test action = some next)
    : LeavesPending snap test action ↔ SamePolls snap test.server.objects next.server.objects := by
  constructor
  · intro leaves reference inSnap entry isEntry later isLater
    have stepped := objectStep taken
    generalize next.server.objects = objects at stepped isLater
    cases stepped with
    | same => rw [Option.some.inj (isEntry.symm.trans isLater)]
    | made made =>
        have isAllocated := (List.getElem?_eq_some_iff.mp isEntry).1
        have isSame := (List.getElem?_append_left isAllocated).symm.trans isLater
        rw [Option.some.inj (isEntry.symm.trans isSame)]
    | @polled _ _ polled isPoll unhindered found =>
        rw [← Option.some.inj ((getElem?_polled isEntry polled).symm.trans isLater)]
        split_ifs with isPolled
        · subst isPoll isPolled
          exact MockTransactionEntry.pollsLeft_poll_eq_iff.mpr
            (leaves unhindered polled found inSnap entry isEntry)
        · rfl
  · intro same
    unfold LeavesPending
    split
    · rename_i hash now
      intro unhindered reference found inSnap entry isEntry
      have isThere : test.server.entryAt hash = some entry := by
        rw [MockRpcServer.entryAt, found]
        exact isEntry
      rw [← MockTransactionEntry.pollsLeft_poll_eq_iff]
      apply same reference inSnap entry isEntry
      rw [← Option.some.inj taken, MockRpcServer.answer,
        MockRpcServer.getTransaction_of_entry unhindered found isThere]
      exact (getElem?_polled isEntry reference).trans (by rw [if_pos rfl])
    · trivial

/-- Snapshots and the server have separate objects. -/
structure MockTest.IsSeparate (test : MockTest ε) : Prop where
  server : test.server.IsSeparate
  snapshots : ∀ snap ∈ test.snapshots,
    Testing.IsSeparate snap.transactions test.server.objects.length

/-- Objects of a test stay separate. -/
theorem MockTest.IsSeparate.step {test next : MockTest ε} {action : TestAction ε τ}
    (taken : testStep env test action = some next) (separate : test.IsSeparate)
    : next.IsSeparate := by
  have stillSeparate (snap) (member : snap ∈ test.snapshots)
      : Testing.IsSeparate snap.transactions next.server.objects.length :=
    (separate.snapshots snap member).mono (Descend.length_le (objectStep taken).descend)
  cases action with
  | restore index =>
      obtain ⟨snap, isSnap, rfl⟩ := Option.map_eq_some_iff.mp taken
      exact ⟨separate.snapshots snap (List.mem_of_getElem? isSnap), stillSeparate⟩
  | snapshot =>
      obtain rfl := Option.some.inj taken
      refine ⟨separate.server, fun snap member => ?_⟩
      rcases List.mem_append.mp member with isOld | isNew
      · exact stillSeparate snap isOld
      · rw [List.mem_singleton.mp isNew]
        exact separate.server
  | addTransaction entry =>
      obtain rfl := Option.some.inj taken
      exact ⟨separate.server.putEntry _ _, stillSeparate⟩
  | call call =>
      obtain rfl := Option.some.inj taken
      exact ⟨separate.server.answer call, stillSeparate⟩
  | reset =>
      obtain rfl := Option.some.inj taken
      exact ⟨.empty, stillSeparate⟩
  | addAccount _ | addSimulationResult _ _ | addEvent _ | injectError _ _ | setHealthy _
  | setLedger _ => exact Option.some.inj taken ▸ ⟨separate.server, separate.snapshots⟩

/-- Restoring the snapshot that was taken at the start, at any time of the run, gives the server
that answers all calls as the server did at the start.
-/
def RestoresFaithfully (env : MockEnvironment α) (start : MockTest ε)
    (actions : List (TestAction ε τ))
    : Prop :=
  ∀ front middle,
    front <+: actions
    → run (testStep env) start front = some middle
    → ∀ calls : List (ServerCall τ),
        outputs (MockRpcServer.answer env) (middle.server.restore start.server.snapshot) calls
        = outputs (MockRpcServer.answer env) start.server calls

/-- A restored server answers as at the snapshot exactly when the snapshot's transactions have as
many polls left as then.
-/
theorem restore_eq_iff {start middle : MockRpcServer ε} (noErrors : start.pendingErrors = [])
    (separate : start.IsSeparate) (descend : Descend start.objects middle.objects)
    : (∀ calls : List (ServerCall τ),
        outputs (MockRpcServer.answer env) (middle.restore start.snapshot) calls
        = outputs (MockRpcServer.answer env) start calls)
      ↔ SamePolls start.snapshot start.objects middle.objects := by
  have restoredSeparate : (middle.restore start.snapshot).IsSeparate :=
    Testing.IsSeparate.mono separate (Descend.length_le descend)
  constructor
  · intro sameOutputs reference inSnap entry isEntry later isLater
    obtain ⟨hash, found⟩ := InsertionMap.exists_get_of_mem_values inSnap
    replace found : start.transactions.get hash = some reference := found
    obtain ⟨_, isDescendant, descends⟩ := descend reference entry isEntry
    obtain rfl := Option.some.inj (isLater.symm.trans isDescendant)
    have isThere : start.entryAt hash = some entry := by
      rw [MockRpcServer.entryAt, found]
      exact isEntry
    have isRestored : (middle.restore start.snapshot).entryAt hash = some later := by
      rw [MockRpcServer.entryAt, MockRpcServer.restore, MockRpcServer.snapshot, found]
      exact isLater
    -- As many polls as the later entry has left, and one more, tell the two apart.
    by_contra differs
    have isLess := descends.pollsLeft.lt_of_ne differs
    obtain ⟨polls, isPolls⟩ := ENat.ne_top_iff_exists.mp isLess.ne_top
    have stillLeft : polls < later.pollsLeft :=
      MockRpcServer.lt_pollsLeft_of_outputs noErrors rfl separate restoredSeparate isThere
        isRestored (sameOutputs (List.replicate (polls + 1) (.getTransaction hash 0))).symm
        (isPolls ▸ isLess)
    exact absurd isPolls stillLeft.ne
  · intro samePolls calls
    refine outputs_eq_of_related (fun call => MockRpcServer.LooksLike.answer call) ?_ calls
    refine ⟨rfl, rfl, rfl, rfl, rfl, rfl, fun hash => ?_, rfl, noErrors, restoredSeparate, separate⟩
    rw [MockRpcServer.readingAt, MockRpcServer.readingAt, MockRpcServer.entryAt,
      MockRpcServer.entryAt, MockRpcServer.restore, MockRpcServer.snapshot]
    cases found : start.transactions.get hash with
    | none => rfl
    | some reference =>
        obtain ⟨entry, isEntry, _⟩ := separate.exists_entry found
        obtain ⟨later, isLater, descends⟩ := descend reference entry isEntry
        have samePollsLeft :=
          samePolls reference (InsertionMap.mem_values_of_get found) entry isEntry later isLater
        simp only [Option.bind_some, isEntry, isLater, Option.map_some, samePollsLeft,
          descends.outcome, descends.ledger]

/-- Whatever a test did before it took a snapshot, and whatever it does afterwards: at any time, the
restored server answers as at the snapshot, exactly as long as no transaction of the snapshot is
polled while it is waited for.
-/
theorem restoresFaithfully_iff {before actions : List (TestAction ε τ)} {start final : MockTest ε}
    (reached : run (testStep env) {} before = some start)
    (noErrors : start.server.pendingErrors = [])
    (performed : run (testStep env) start actions = some final)
    : RestoresFaithfully env start actions
      ↔ stepsSatisfy (testStep env) (LeavesPending start.server.snapshot) start actions := by
  have separate : start.IsSeparate := by
    have initial : ({} : MockTest ε).IsSeparate :=
      ⟨.empty, fun _ member => absurd member List.not_mem_nil⟩
    exact run_preserves (fun _ _ _ taken separate => separate.step taken) initial reached
  have allocated
      : ∀ reference ∈ start.server.snapshot.transactions.values,
          reference < start.server.objects.length := by
    intro reference inSnap
    obtain ⟨hash, found⟩ := InsertionMap.exists_get_of_mem_values inSnap
    exact separate.server.isAllocated found
  have descendsFurther (test : MockTest ε) (action : TestAction ε τ) (next : MockTest ε)
      (taken : testStep env test action = some next)
      (descend : Descend start.server.objects test.server.objects)
      : Descend start.server.objects next.server.objects :=
    descend.trans (objectStep taken).descend
  have descends {front : List (TestAction ε τ)} {middle : MockTest ε}
      (walked : run (testStep env) start front = some middle)
      : Descend start.server.objects middle.server.objects :=
    run_preserves descendsFurther (.refl _) walked
  have all : stepsSatisfy (testStep env) (fun _ _ => True) start actions :=
    stepsSatisfy_of_forall_mem _ fun _ _ _ => trivial
  have samePolls : SamePolls start.server.snapshot start.server.objects start.server.objects :=
    fun _ _ _ isEntry _ isLater => by rw [Option.some.inj (isEntry.symm.trans isLater)]
  have samePolls_iff
      : (∀ front middle,
            front <+: actions
            → run (testStep env) start front = some middle
            → SamePolls start.server.snapshot start.server.objects middle.server.objects)
        ↔ stepsSatisfy (testStep env) (LeavesPending start.server.snapshot) start actions :=
    forall_prefix_iff_stepsSatisfy
      (fun test action next _ taken descend _ _ =>
        descendsFurther test action next taken descend)
      (fun _ _ _ _ taken descend same =>
        (samePolls_step_iff taken).trans (same.iff descend allocated))
      (Descend.refl start.server.objects) samePolls all performed
  rw [← samePolls_iff]
  constructor
  · intro faithful front middle isPrefix walked
    exact (restore_eq_iff noErrors separate.server (descends walked)).mp
      (faithful front middle isPrefix walked)
  · intro same front middle isPrefix walked
    exact (restore_eq_iff noErrors separate.server (descends walked)).mpr
      (same front middle isPrefix walked)

/-- Restoring twice gives the same behaviour both times. -/
theorem RestoresFaithfully.again {start first second : MockTest ε} {actions : List (TestAction ε τ)}
    (faithful : RestoresFaithfully env start actions) {front further : List (TestAction ε τ)}
    (isPrefix : front <+: actions) (walked : run (testStep env) start front = some first)
    (isFurther : further <+: actions)
    (walkedFurther : run (testStep env) start further = some second)
    (calls : List (ServerCall τ))
    : outputs (MockRpcServer.answer env) (first.server.restore start.server.snapshot) calls
      = outputs (MockRpcServer.answer env) (second.server.restore start.server.snapshot) calls :=
  (faithful front first isPrefix walked calls).trans
    (faithful further second isFurther walkedFurther calls).symm

/-- Whether a step leaves what is waited for can be computed. -/
instance decidableLeavesPending (snap : MockRpcServerSnapshot) (test : MockTest ε)
    : (action : TestAction ε τ) → Decidable (LeavesPending snap test action)
  | .call (.getTransaction hash _) =>
      decidable_of_iff
        ((∀ pending ∈ test.server.pendingErrors, pending.method ≠ "getTransaction")
          → ∀ reference ∈ test.server.transactions.get hash,
              reference ∈ snap.transactions.values
              → ∀ entry ∈ test.server.objects[reference]?, entry.countsDown = false)
        Iff.rfl
  | .call .getHealth | .call .getLatestLedger | .call (.getAccount _) => .isTrue trivial
  | .call .simulateTransaction | .call (.prepareTransaction _) => .isTrue trivial
  | .call (.sendTransaction _) | .call (.getEvents _ _) => .isTrue trivial
  | .addAccount _ | .addSimulationResult _ _ | .addTransaction _ | .addEvent _ => .isTrue trivial
  | .injectError _ _ | .setHealthy _ | .setLedger _ | .reset => .isTrue trivial
  | .snapshot | .restore _ => .isTrue trivial

/-- An environment that prints whole numbers as they are, at the start of the epoch. -/
def epochEnvironment : MockEnvironment String where
  printed
    | .finite value => toString value.num
    | .nan => "NaN"
    | .infinity negative => if negative then "-Infinity" else "Infinity"
  toISOString _ := "1970-01-01T00:00:00.000Z"
  newAccount publicKey _ := .ok publicKey
  emptyTransactionData := "AAAAAAAAAAAAAAAAAAAAAAAAAAAAAAAAAAAAAAAAAAA="

/-- A transaction that ends well. -/
def firstTransaction : NewTransaction := { hash := "tx1", finalStatus := .success }

/-- A test that waits for one transaction. -/
def seeded : MockTest String := { server := .addTransaction {} firstTransaction }

/-- Everything but a poll of the transaction. -/
def unpolled : List (TestAction String Unit) :=
  [.snapshot, .setLedger (.finite 2000), .call (.sendTransaction 0),
    .call (.getTransaction "mock-hash-2000-1" 0), .injectError "getTransaction" "timeout",
    .call (.getTransaction "tx1" 0), .restore 0]

/-- The snapshot stays what it was. -/
theorem restoresFaithfully_unpolled : RestoresFaithfully epochEnvironment seeded unpolled := by
  have reached
      : run (testStep epochEnvironment) {}
          ([.addTransaction firstTransaction] : List (TestAction String Unit))
        = some seeded :=
    rfl
  have performed : run (testStep epochEnvironment) seeded unpolled = some _ := rfl
  exact (restoresFaithfully_iff reached rfl performed).mpr (by decide)

/-- The call found its transaction done. -/
def isDone : Outcome ε τ α → Bool
  | .ok (.transactionDone _) => true
  | _ => false

/-- A poll of the transaction after the snapshot is a poll less after it is restored. -/
theorem not_restoresFaithfully
    : ¬ ∀ (before actions : List (TestAction String Unit)) (start final : MockTest String),
        run (testStep epochEnvironment) {} before = some start
        → start.server.pendingErrors = []
        → run (testStep epochEnvironment) start actions = some final
        → RestoresFaithfully epochEnvironment start actions := by
  intro claim
  have faithful :=
    claim [.addTransaction firstTransaction] [.call (.getTransaction "tx1" 0)] seeded _ rfl rfl rfl
      _ _ (List.prefix_refl _) rfl [.getTransaction "tx1" 0]
  exact absurd (congrArg (List.map isDone) faithful) (by decide +kernel)

end Axionvera.Testing
