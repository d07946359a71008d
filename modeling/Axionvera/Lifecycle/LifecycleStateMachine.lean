import Axionvera.Foundation.ThrownValue

/-! The states of a tracked transaction and the moves between them (`lifecycle/types.ts`,
`lifecycle/stateMachine.ts`, `lifecycle/errors.ts`).
-/

namespace Axionvera.Lifecycle

open Axionvera.Foundation

/-- `TransactionLifecycleState`. -/
inductive TransactionLifecycleState where
  | created
  | simulating
  | simulated
  | signing
  | signed
  | submitting
  | submitted
  | confirming
  | confirmed
  | completed
  | failed
  deriving DecidableEq

namespace TransactionLifecycleState

/-- The text of a state. -/
def text : TransactionLifecycleState → String
  | .created => "created"
  | .simulating => "simulating"
  | .simulated => "simulated"
  | .signing => "signing"
  | .signed => "signed"
  | .submitting => "submitting"
  | .submitted => "submitted"
  | .confirming => "confirming"
  | .confirmed => "confirmed"
  | .completed => "completed"
  | .failed => "failed"

/-- The place of a state in the order of the lifecycle. A transaction can fail at any stage, so
that failing comes last.
-/
def rank : TransactionLifecycleState → Nat
  | .created => 0
  | .simulating => 1
  | .simulated => 2
  | .signing => 3
  | .signed => 4
  | .submitting => 5
  | .submitted => 6
  | .confirming => 7
  | .confirmed => 8
  | .completed => 9
  | .failed => 10

end TransactionLifecycleState

/-- `TERMINAL_STATES`. -/
def terminalStates : List TransactionLifecycleState :=
  [.completed, .failed]

/-- `LIFECYCLE_TRANSITIONS`. -/
def lifecycleTransitions : TransactionLifecycleState → List TransactionLifecycleState
  | .created => [.simulating]
  | .simulating => [.simulated]
  | .simulated => [.signing]
  | .signing => [.signed]
  | .signed => [.submitting]
  | .submitting => [.submitted]
  | .submitted => [.confirming]
  | .confirming => [.confirmed]
  | .confirmed => [.completed]
  | .completed => []
  | .failed => []

/-- `isTerminal`. -/
def isTerminal (state : TransactionLifecycleState) : Bool :=
  state ∈ terminalStates

/-- `canTransition`. -/
def canTransition (source target : TransactionLifecycleState) : Bool :=
  if isTerminal source then false
  else if target = .failed then true
  else target ∈ lifecycleTransitions source

/-- `getAllowedNext`. -/
def getAllowedNext (state : TransactionLifecycleState) : List TransactionLifecycleState :=
  if isTerminal state then [] else lifecycleTransitions state ++ [.failed]

/-- What the calls of the lifecycle classes throw. -/
inductive LifecycleError where
  | alreadyTracked (id : String)
  | transactionNotTracked (transactionId : String)
  | invalidLifecycleTransition (source target : TransactionLifecycleState)
  | thrown (value : ThrownValue)

/-- The message of an error that the classes create themselves. -/
def LifecycleError.message : LifecycleError → Option String
  | .alreadyTracked id => some ("A transaction with id \"" ++ id ++ "\" is already being tracked")
  | .transactionNotTracked transactionId =>
      some ("No tracked transaction found for id \"" ++ transactionId ++ "\"")
  | .invalidLifecycleTransition source target =>
      some
        ("Invalid transaction lifecycle transition: \"" ++ source.text ++ "\" -> \""
          ++ target.text ++ "\"")
  | .thrown _ => none

/-- `assertTransition`. -/
def assertTransition (source target : TransactionLifecycleState) : Except LifecycleError Unit :=
  if canTransition source target then .ok ()
  else .error (.invalidLifecycleTransition source target)

/-- A move is possible exactly when it is listed, or leads from a state that is not terminal to
`failed`, by cases on the states.
-/
theorem canTransition_iff {source target : TransactionLifecycleState}
    : canTransition source target = true
      ↔ target ∈ lifecycleTransitions source ∨ isTerminal source = false ∧ target = .failed := by
  cases source <;> cases target <;> decide

/-- Moves follow the order of the lifecycle. -/
theorem rank_lt_of_canTransition {source target : TransactionLifecycleState}
    (allowed : canTransition source target = true)
    : source.rank < target.rank := by
  revert allowed
  cases source <;> cases target <;> decide

/-- No move leads out of a terminal state. -/
theorem isTerminal_of_canTransition {source target : TransactionLifecycleState}
    (allowed : canTransition source target = true)
    : isTerminal source = false := by
  revert allowed
  cases source <;> cases target <;> decide

end Axionvera.Lifecycle
