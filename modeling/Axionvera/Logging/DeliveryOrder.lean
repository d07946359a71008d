import Axionvera.Logging.EntryConservation

/-! The service gets entries in the order in which they were logged, as long as no flush overtakes
another one. Nothing in the code prevents that flushes overlap.
-/

namespace Axionvera.Logging

open Axionvera.Foundation
open CloudWatchLogger

/-- What the service has got are the entries that were accepted first, in their order. -/
def DeliveredInOrder {ε : Type} (logger : CloudWatchLogger ε) : Prop :=
  logger.delivered <+: logger.accepted

/-- The service gets no batch before an earlier one, and none is put back while a later one is still
under way, unless the batches are empty.
-/
def keepsOrder {ε : Type} (config : CloudWatchConfig) (logger : CloudWatchLogger ε)
    (action : CloudWatchAction ε) : Prop :=
  (logger.swapped config action).1 = [] ∨ (logger.swapped config action).2 = []

instance {ε : Type} [DecidableEq ε] (config : CloudWatchConfig) (logger : CloudWatchLogger ε)
    : DecidablePred (keepsOrder config logger) :=
  fun _ => inferInstanceAs (Decidable (_ ∨ _))

section

variable {ε : Type} {isWritable : ε → Bool} {config : CloudWatchConfig}
  {logger next : CloudWatchLogger ε}

/-- If one of two blocks is empty, nothing changes places. -/
theorem CloudWatchLogger.EntriesMoved.inOrder {blocks : List ε × List ε}
    (moved : EntriesMoved logger next blocks)
    (order : blocks.1 = [] ∨ blocks.2 = []) (inOrder : logger.accepted = logger.held)
    : next.accepted = next.held := by
  obtain ⟨front, back, new, before, after, accepted⟩ := moved
  have same : blocks.1 ++ blocks.2 = blocks.2 ++ blocks.1 := by
    rcases order with empty | empty
    · rw [empty, List.nil_append, List.append_nil]
    · rw [empty, List.nil_append, List.append_nil]
  rw [accepted, after, inOrder, before, same]

/-- Delivery preserves order in every run in which no flush overtakes another one. Witness: what is
held is what was accepted, in order, along the run.
-/
theorem deliveredInOrder_of_stepsSatisfy {actions : List (CloudWatchAction ε)}
    {final : CloudWatchLogger ε}
    (allowed : stepsSatisfy (cloudWatchStep isWritable config) (keepsOrder config) .initial actions)
    (reached : run (cloudWatchStep isWritable config) .initial actions = some final)
    : DeliveredInOrder final := by
  have inOrder : final.accepted = final.held :=
    run_preserves_of_stepsSatisfy
      (fun _ _ _ keeps taken before => (entriesMoved_of_step taken).inOrder keeps before)
      (rfl : (CloudWatchLogger.initial : CloudWatchLogger ε).accepted = held .initial)
      allowed reached
  rw [DeliveredInOrder, inOrder, held, List.append_assoc]
  exact List.prefix_append _ _

end

/-- Two flushes overlap, and the service gets the first batch first. -/
private def inTurn : List (CloudWatchAction String) :=
  initializes
  ++ [.log "a", .log "b", .send 1, .send 0, .accept 0, .accept 1, .respond 1 none, .respond 0 none]

/-- Flushes that overlap deliver in order as long as the service gets them in turn. -/
theorem deliveredInOrder_of_turns
    : ∃ final,
        run (cloudWatchStep (fun _ => true) oneByOne) .initial inTurn = some final
        ∧ final.delivered = ["a", "b"]
        ∧ DeliveredInOrder final :=
  ⟨_, rfl, by decide,
    @deliveredInOrder_of_stepsSatisfy _ (fun _ => true) oneByOne inTurn _ (by decide) rfl⟩

/-- Two flushes overlap, and the service gets the second batch first. -/
private def overtakes : List (CloudWatchAction String) :=
  initializes ++ [.log "a", .log "b", .send 0, .send 1, .accept 1]

/-- The second entry is delivered before the first one. -/
theorem not_deliveredInOrder_of_overtaking
    : ∃ final,
        run (cloudWatchStep (fun _ => true) oneByOne) .initial overtakes = some final
        ∧ final.delivered = ["b"]
        ∧ ¬DeliveredInOrder final := by
  refine ⟨_, rfl, by decide, fun inOrder => ?_⟩
  have isPrefix : ["b"] <+: ["a", "b"] := inOrder
  revert isPrefix
  decide

end Axionvera.Logging
