import Axionvera.Lifecycle.LifecycleSteps
import Mathlib.Order.Basic

/-! The history of a transaction walks through its lifecycle, whatever the listeners do in the
middle of an operation.
-/

namespace Axionvera.Lifecycle

open Axionvera.Foundation

variable {printed : JsNumber → String}

/-- What the history of a record and its state have in common. -/
structure LifecycleHistory (record : TransactionLifecycleRecord) : Prop where
  first
    : ∃ entry rest,
        record.history = entry :: rest ∧ entry.source = none ∧ entry.target = .created
  linked
    : record.history.IsChain fun before after => after.source = some before.target
  current : record.history.getLast?.map LifecycleTransitionRecord.target = some record.state
  allowed
    : record.history.IsChain fun before after =>
        after.target ∈ lifecycleTransitions before.target
        ∨ isTerminal before.target = false ∧ after.target = .failed
  ended
    : ∀ front entry back,
        record.history = front ++ entry :: back → isTerminal entry.target = true → back = []
  ordered
    : record.history.Pairwise fun before after => before.target.rank < after.target.rank
  once : (record.history.map LifecycleTransitionRecord.target).Nodup
  error : record.error ≠ none → record.state = .failed

/-- An entry of a history and the one that follows it. -/
def LifecycleTransitionRecord.leadsTo (before after : LifecycleTransitionRecord) : Prop :=
  after.source = some before.target ∧ canTransition before.target after.target = true

/-- What every operation keeps of the history of a record, and what the rest follows from. -/
structure Progress (record : TransactionLifecycleRecord) : Prop where
  first
    : ∃ entry rest,
        record.history = entry :: rest ∧ entry.source = none ∧ entry.target = .created
  chain : record.history.IsChain LifecycleTransitionRecord.leadsTo
  current : record.history.getLast?.map LifecycleTransitionRecord.target = some record.state
  error : record.error ≠ none → record.state = .failed

/-- Moves that follow one another ascend in the order of the lifecycle. -/
theorem Progress.ordered {record : TransactionLifecycleRecord} (progress : Progress record)
    : record.history.Pairwise fun before after => before.target.rank < after.target.rank := by
  have ascending
      : (record.history.map fun entry => entry.target.rank).IsChain
          (fun low high => low < high) := by
    rw [List.isChain_map]
    exact progress.chain.imp fun _ _ leads => rank_lt_of_canTransition leads.2
  have pairs := List.isChain_iff_pairwise.mp ascending
  exact List.pairwise_map.mp pairs

/-- Nothing follows an entry into a terminal state, since no move leads out of it. -/
theorem Progress.ended {record : TransactionLifecycleRecord} (progress : Progress record)
    {front back : List LifecycleTransitionRecord} {entry : LifecycleTransitionRecord}
    (split : record.history = front ++ entry :: back) (terminal : isTerminal entry.target = true)
    : back = [] := by
  cases back with
  | nil => rfl
  | cons after rest =>
      have chain := progress.chain
      rw [split] at chain
      have leads : entry.leadsTo after := (List.isChain_append.mp chain).2.1.rel
      have goesOn := isTerminal_of_canTransition leads.2
      rw [terminal] at goesOn
      cases goesOn

/-- What the operations keep gives the whole law of the history. -/
theorem Progress.lifecycleHistory {record : TransactionLifecycleRecord}
    (progress : Progress record)
    : LifecycleHistory record where
  first := progress.first
  linked := progress.chain.imp fun _ _ leads => leads.1
  current := progress.current
  allowed := progress.chain.imp fun _ _ leads => canTransition_iff.mp leads.2
  ended := fun _ _ _ split terminal => progress.ended split terminal
  ordered := progress.ordered
  once := by
    rw [List.nodup_iff_pairwise_ne, List.pairwise_map]
    exact progress.ordered.imp fun ascends same => Nat.ne_of_lt ascends (congrArg _ same)
  error := progress.error

/-- A record that has just been created has made progress. -/
theorem progress_initial (id : String) (now : Int) (metadata : Metadata)
    : Progress (.initial id now metadata) where
  first := ⟨_, [], rfl, rfl, rfl⟩
  chain := .singleton _
  current := rfl
  error := fun set => absurd rfl set

/-- An allowed move keeps the progress of a record: its entry follows the last one. -/
theorem Progress.move {record changed : TransactionLifecycleRecord}
    {target : TransactionLifecycleState} {details : Option Details} {now : Int}
    (progress : Progress record) (allowed : canTransition record.state target = true)
    (moved : TransactionLifecycleRecord.Moved record target details now changed)
    : Progress changed where
  first := by
    obtain ⟨entry, rest, split, fromNothing, toCreated⟩ := progress.first
    exact ⟨entry, rest ++ [⟨some record.state, target, now, details⟩],
      by simp [moved.history, split], fromNothing, toCreated⟩
  chain := by
    rw [moved.history, List.isChain_append]
    refine ⟨progress.chain, .singleton _, fun last isLast entry isEntry => ?_⟩
    obtain rfl : ⟨some record.state, target, now, details⟩ = entry := by simpa using isEntry
    have reached : last.target = record.state := by
      have current := progress.current
      rw [Option.mem_def.mp isLast] at current
      exact Option.some.inj current
    exact ⟨congrArg some reached.symm, by rw [reached]; exact allowed⟩
  current := by simp [moved.history, moved.state]
  error := by
    intro set
    rcases moved.error with same | failing
    · -- A record with an error has failed before, and cannot move any more.
      have failed := progress.error (same ▸ set)
      rw [failed] at allowed
      exact absurd (isTerminal_of_canTransition allowed) (by decide)
    · exact moved.state.trans failing

/-- All records that exist have made progress. -/
def LifecycleManager.progressing (manager : LifecycleManager) : Prop :=
  ∀ record ∈ manager.records.objects, Progress record

/-- Overwriting a record by an allowed move of it keeps the progress of all records. -/
private theorem progress_update {records : TrackedRecords} {place : Nat}
    {record changed : TransactionLifecycleRecord} {target : TransactionLifecycleState}
    {details : Option Details} {now : Int}
    (progressing : ∀ record ∈ records.objects, Progress record)
    (found : records.find record.id = some (place, record))
    (allowed : canTransition record.state target = true)
    (moved : TransactionLifecycleRecord.Moved record target details now changed)
    : ∀ record ∈ (records.update place changed).objects, Progress record := by
  intro other member
  obtain ⟨position, present⟩ := List.mem_iff_getElem?.mp member
  have isRecord := (TrackedRecords.find_eq_some found).2.1
  rw [TrackedRecords.getElem?_update isRecord moved.id] at present
  split at present
  · obtain rfl := Option.some.inj present
    exact (progressing record (List.mem_of_getElem? isRecord)).move allowed moved
  · exact progressing other (List.mem_of_getElem? present)

/-- Every step keeps the progress of all records, by cases on its effect: a listener that throws
leaves the records as they are.
-/
theorem progressing_step (manager : LifecycleManager) (action : LifecycleAction)
    (next : LifecycleManager) (taken : lifecycleStep printed manager action = some next)
    (progressing : manager.progressing)
    : next.progressing := by
  cases lifecycleStep_effect taken with
  | rejected error operation host => exact progressing
  | created id metadata now operation host isNew =>
      intro record member
      rcases List.mem_append.mp member with old | isNew
      · exact progressing record old
      · obtain rfl := List.mem_singleton.mp isNew
        exact progress_initial id now metadata
  | unread calls host found allowed failed =>
      exact progress_update progressing found allowed TransactionLifecycleRecord.move_moved
  | moved calls host found allowed read =>
      exact progress_update progressing found allowed TransactionLifecycleRecord.move_moved
  | untracked records operation host same =>
      intro record member
      exact progressing record (same ▸ member)
  | subscribed filter host => exact progressing
  | unsubscribed number host => exact progressing
  | @visited frame others entry running idle ahead =>
      unfold LifecycleManager.visit
      split <;> exact progressing
  | finished running idle passed => exact progressing
  | returned running busy => exact progressing
  | threw error running busy => exact progressing

/-- In every run of a manager, the history of each tracked record starts with its creation, links
its entries to one another, ends in its state, and follows the lifecycle, whatever listeners do
while they are called. Witness: records keep their progress along the run.
-/
theorem history_follows_lifecycle {actions : List LifecycleAction} {final : LifecycleManager}
    (reached : run (lifecycleStep printed) .initial actions = some final)
    (id : String) (record : TransactionLifecycleRecord)
    (tracked : final.records.get id = some record)
    : LifecycleHistory record := by
  have nothing : LifecycleManager.initial.progressing := fun record member => by cases member
  have progressing := run_preserves progressing_step nothing reached
  exact (progressing record (TrackedRecords.mem_objects_of_get tracked)).lifecycleHistory

/-- A listener moves the transaction on when it is created, and then throws. -/
private def interruptedCreation : List LifecycleAction :=
  [.onEvent none, .create (some "tx") "" none 0, .advance, .markSimulating "tx" none 1, .advance,
    .returns, .advance, .throws .undefined, .fail "tx" (.text "lost") none 2]

/-- The law of the history in a run with a listener that calls back and throws. -/
theorem history_follows_lifecycle_interrupted
    : ∃ final record,
        run (lifecycleStep fun _ => "") .initial interruptedCreation = some final
        ∧ final.records.get "tx" = some record
        ∧ LifecycleHistory record := by
  refine ⟨_, _, rfl, rfl, ?_⟩
  have reached
      : run (lifecycleStep fun _ => "") .initial interruptedCreation = some _ :=
    rfl
  exact history_follows_lifecycle reached "tx" _ rfl

end Axionvera.Lifecycle
