import Axionvera.Foundation.TransitionSystem
import Mathlib.Data.List.Nodup
import Mathlib.Logic.Function.Basic

/-! Failover between the endpoints of a client (`packages/core/src/client/stellarClient.ts`). Calls
share the current endpoint. Switching to another one assigns to `rpc`, for which there is only a
getter, so that the call rejects with a `TypeError` and no second endpoint is tried.
-/

namespace Axionvera.Client.RpcFailover

open Axionvera.Foundation

/-- What a call rejects with: what an attempt failed with, where nothing stands for `undefined`, or
the `TypeError` of an assignment to `rpc`.
-/
inductive Rejection (ε : Type) where
  | thrown (lastError : Option ε)
  | typeError
  deriving DecidableEq, Repr

/-- Where a call of `executeWithFailover` stands: at an endpoint with its attempts so far and the
last error, or at its end.
-/
inductive CallStatus (ε ρ : Type) where
  | trying (attempts : Nat) (lastError : Option ε) (endpoint : Nat)
  | answered (result : ρ)
  | rejected (reason : Rejection ε)
  deriving DecidableEq, Repr

/-- A call, with the endpoints that were tried for it. -/
structure FailoverCall (ε ρ : Type) where
  status : CallStatus ε ρ
  tried : List Nat
  deriving DecidableEq, Repr

/-- The state of the client: the index of the current endpoint, and the calls that were started. -/
structure FailoverState (ε ρ : Type) where
  currentRpcIndex : Nat
  calls : Nat → Option (FailoverCall ε ρ)

/-- The next thing to happen: a call is started, or the current attempt of a call settles. -/
inductive FailoverAction where
  | start (id : Nat)
  | settle (id : Nat)
  deriving DecidableEq, Repr

/-- What an endpoint does with an attempt of a call. -/
abbrev Outcomes (ε ρ : Type) := (id endpoint attempt : Nat) → Except ε ρ

variable {ε ρ : Type}

/-- A client before its first call. -/
def FailoverState.initial : FailoverState ε ρ where
  currentRpcIndex := 0
  calls := fun _ => none

/-- The head of the loop, with the current endpoint. -/
def continueLoop (rpcUrls currentRpcIndex attempts : Nat) (lastError : Option ε) (tried : List Nat)
    : FailoverCall ε ρ :=
  if attempts < rpcUrls then
    ⟨.trying attempts lastError currentRpcIndex, tried ++ [currentRpcIndex]⟩
  else ⟨.rejected (.thrown lastError), tried⟩

/-- `trySwitchToNextRpc`, with the index after it. It throws behind the change of the index. -/
def trySwitchToNextRpc (rpcUrls currentRpcIndex : Nat) : Except (Rejection ε) Bool × Nat :=
  if rpcUrls ≤ 1 then (.ok false, currentRpcIndex)
  else (.error .typeError, (currentRpcIndex + 1) % rpcUrls)

/-- The catch block of the loop, with the index after it. -/
def catchError (rpcUrls currentRpcIndex attempts : Nat) (error : ε) (tried : List Nat)
    : Nat × FailoverCall ε ρ :=
  if attempts + 1 < rpcUrls then
    match trySwitchToNextRpc rpcUrls currentRpcIndex with
    | (.error reason, next) => (next, ⟨.rejected reason, tried⟩)
    | (.ok _, next) => (next, continueLoop rpcUrls next (attempts + 1) (some error) tried)
  else (currentRpcIndex, continueLoop rpcUrls currentRpcIndex (attempts + 1) (some error) tried)

/-- A call changes its place. -/
def FailoverState.set (state : FailoverState ε ρ) (id : Nat) (call : FailoverCall ε ρ)
    : FailoverState ε ρ :=
  { state with calls := Function.update state.calls id (some call) }

/-- One step of a client with the given number of endpoints. -/
def step (rpcUrls : Nat) (outcomes : Outcomes ε ρ) (state : FailoverState ε ρ)
    : FailoverAction → Option (FailoverState ε ρ)
  | .start id =>
      match state.calls id with
      | some _ => none
      | none => some (state.set id (continueLoop rpcUrls state.currentRpcIndex 0 none []))
  | .settle id =>
      match state.calls id with
      | some ⟨.trying attempts _ endpoint, tried⟩ =>
          match outcomes id endpoint attempts with
          | .ok result => some (state.set id ⟨.answered result, tried⟩)
          | .error error =>
              let (next, call) := catchError rpcUrls state.currentRpcIndex attempts error tried
              some { state.set id call with currentRpcIndex := next }
      | _ => none

/-- Some endpoint answers every attempt of the call. -/
def WouldBeAnswered (rpcUrls : Nat) (outcomes : Outcomes ε ρ) (id : Nat) : Prop :=
  ∃ endpoint < rpcUrls, ∀ attempt, ∃ result, outcomes id endpoint attempt = .ok result

/-- The attempt of a call was made at the endpoint and failed. -/
def HasFailed (outcomes : Outcomes ε ρ) (id : Nat) (call : FailoverCall ε ρ)
    (attempt endpoint : Nat) (error : ε)
    : Prop :=
  call.tried[attempt]? = some endpoint ∧ outcomes id endpoint attempt = .error error

/-- A call tries every endpoint at most once, does not reject if some endpoint would answer it, and
rejects only after all endpoints have failed for it, with the error of the last attempt.
-/
structure FailsOver (rpcUrls : Nat) (outcomes : Outcomes ε ρ) (id : Nat)
    (call : FailoverCall ε ρ)
    : Prop where
  triesOnce : call.tried.Nodup
  succeeds
    : WouldBeAnswered rpcUrls outcomes id → ∀ reason, call.status ≠ .rejected reason
  triesAll
    : ∀ reason,
        call.status = .rejected reason
        → ∀ endpoint < rpcUrls, ∃ attempt error, HasFailed outcomes id call attempt endpoint error
  lastError
    : ∀ reason,
        call.status = .rejected reason
        → ∃ endpoint error,
            HasFailed outcomes id call (call.tried.length - 1) endpoint error
            ∧ reason = .thrown (some error)

/-- All calls fail over. -/
def AllFailOver (rpcUrls : Nat) (outcomes : Outcomes ε ρ) (state : FailoverState ε ρ) : Prop :=
  ∀ id call, state.calls id = some call → FailsOver rpcUrls outcomes id call

/-- The attempt that settles, if any, is answered. -/
def IsAnswered (outcomes : Outcomes ε ρ) (state : FailoverState ε ρ) : FailoverAction → Bool
  | .start _ => true
  | .settle id =>
      match state.calls id with
      | some ⟨.trying attempts _ endpoint, _⟩ => (outcomes id endpoint attempts).toBool
      | _ => true

/-- A call with a single attempt: it is still going on, was answered or failed. -/
inductive AttemptedOnce (rpcUrls : Nat) (outcomes : Outcomes ε ρ) (id : Nat)
    : FailoverCall ε ρ → Prop where
  | trying {endpoint : Nat} (known : endpoint < rpcUrls)
    : AttemptedOnce rpcUrls outcomes id ⟨.trying 0 none endpoint, [endpoint]⟩
  | answered {endpoint : Nat} {result : ρ} (isResult : outcomes id endpoint 0 = .ok result)
    : AttemptedOnce rpcUrls outcomes id ⟨.answered result, [endpoint]⟩
  | failed {endpoint : Nat} {error : ε} (known : endpoint < rpcUrls)
    (isError : outcomes id endpoint 0 = .error error)
    : AttemptedOnce rpcUrls outcomes id
        ⟨.rejected (if 1 < rpcUrls then .typeError else .thrown (some error)), [endpoint]⟩

/-- The current endpoint is one of the client's, and all calls have a single attempt. -/
structure HasSingleAttempts (rpcUrls : Nat) (outcomes : Outcomes ε ρ) (state : FailoverState ε ρ)
    : Prop where
  current : state.currentRpcIndex < rpcUrls
  calls : ∀ id call, state.calls id = some call → AttemptedOnce rpcUrls outcomes id call

variable {rpcUrls : Nat} {outcomes : Outcomes ε ρ}

/-- The calls after one of them changes its place. -/
theorem FailoverState.set_calls (state : FailoverState ε ρ) (id : Nat) (call : FailoverCall ε ρ)
    (other : Nat)
    : (state.set id call).calls other = if other = id then some call else state.calls other :=
  Function.update_apply state.calls id (some call) other

/-- The first attempt of a call that failed ends it. -/
theorem catchError_first (currentRpcIndex : Nat) (error : ε) (tried : List Nat)
    : (catchError rpcUrls currentRpcIndex 0 error tried : Nat × FailoverCall ε ρ)
      = (if 1 < rpcUrls then (currentRpcIndex + 1) % rpcUrls else currentRpcIndex,
          ⟨.rejected (if 1 < rpcUrls then .typeError else .thrown (some error)), tried⟩) := by
  rw [catchError, Nat.zero_add]
  by_cases several : 1 < rpcUrls
  · rw [if_pos several, trySwitchToNextRpc, if_neg (Nat.not_le.mpr several), if_pos several,
      if_pos several]
  · rw [if_neg several, continueLoop, if_neg several, if_neg several, if_neg several]

/-- A step starts a call or settles the attempt that a call is at. -/
theorem step_cases {state next : FailoverState ε ρ} {action : FailoverAction}
    (taken : step rpcUrls outcomes state action = some next)
    : (∃ id,
        action = .start id
        ∧ state.calls id = none
        ∧ next = state.set id (continueLoop rpcUrls state.currentRpcIndex 0 none []))
      ∨ ∃ id attempts lastError endpoint tried,
          action = .settle id
          ∧ state.calls id = some ⟨.trying attempts lastError endpoint, tried⟩
          ∧ ((∃ result,
              outcomes id endpoint attempts = .ok result
              ∧ next = state.set id ⟨.answered result, tried⟩)
            ∨ ∃ error,
                outcomes id endpoint attempts = .error error
                ∧ next
                  = { state.set id
                        (catchError rpcUrls state.currentRpcIndex attempts error tried).2 with
                      currentRpcIndex
                        := (catchError (ρ := ρ) rpcUrls state.currentRpcIndex attempts error
                            tried).1 }) := by
  cases action with
  | start id =>
      rw [step] at taken
      split at taken
      · cases taken
      · rename_i fresh
        exact .inl ⟨id, rfl, fresh, (Option.some.inj taken).symm⟩
  | settle id =>
      rw [step] at taken
      split at taken
      · rename_i attempts lastError endpoint tried found
        split at taken
        · rename_i result isResult
          exact .inr ⟨id, attempts, lastError, endpoint, tried, rfl, found,
            .inl ⟨result, isResult, (Option.some.inj taken).symm⟩⟩
        · rename_i error isError
          exact .inr ⟨id, attempts, lastError, endpoint, tried, rfl, found,
            .inr ⟨error, isError, (Option.some.inj taken).symm⟩⟩
      · cases taken

/-- Every step leaves all calls with a single attempt. -/
theorem step_hasSingleAttempts (pos : 0 < rpcUrls) {state next : FailoverState ε ρ}
    {action : FailoverAction} (taken : step rpcUrls outcomes state action = some next)
    (single : HasSingleAttempts rpcUrls outcomes state)
    : HasSingleAttempts rpcUrls outcomes next := by
  -- The call that changes is the only one to look at.
  have others
      : ∀ id changed,
          AttemptedOnce rpcUrls outcomes id changed
          → ∀ other call,
              (state.set id changed).calls other = some call
              → AttemptedOnce rpcUrls outcomes other call := by
    intro id changed isSingle other call found
    rw [FailoverState.set_calls] at found
    split at found
    · rename_i same
      obtain rfl := Option.some.inj found
      exact same ▸ isSingle
    · exact single.calls other call found
  obtain ⟨id, -, -, rfl⟩ | ⟨id, attempts, lastError, endpoint, tried, -, found, settled⟩
      := step_cases taken
  · refine ⟨single.current, others id _ ?_⟩
    rw [continueLoop, if_pos pos]
    exact .trying single.current
  · cases single.calls id _ found with
    | trying known =>
        obtain ⟨result, isResult, rfl⟩ | ⟨error, isError, rfl⟩ := settled
        · exact ⟨single.current, others id _ (.answered isResult)⟩
        · rw [catchError_first]
          refine ⟨?_, others id _ (.failed known isError)⟩
          dsimp only
          split
          · exact Nat.mod_lt _ pos
          · exact single.current

/-- A call with a single attempt fails over exactly if it does not reject or there is only one
endpoint.
-/
theorem AttemptedOnce.failsOver_iff {id : Nat} {call : FailoverCall ε ρ}
    (single : AttemptedOnce rpcUrls outcomes id call)
    : FailsOver rpcUrls outcomes id call
      ↔ (1 < rpcUrls → ∀ reason, call.status ≠ .rejected reason) := by
  cases single with
  | trying known =>
      refine iff_of_true ?_ (fun _ _ isRejected => by cases isRejected)
      exact ⟨List.nodup_singleton _, fun _ _ isRejected => (by cases isRejected),
        fun _ isRejected => (by cases isRejected), fun _ isRejected => (by cases isRejected)⟩
  | answered isResult =>
      refine iff_of_true ?_ (fun _ _ isRejected => by cases isRejected)
      exact ⟨List.nodup_singleton _, fun _ _ isRejected => (by cases isRejected),
        fun _ isRejected => (by cases isRejected), fun _ isRejected => (by cases isRejected)⟩
  | @failed endpoint error known isError =>
      by_cases several : 1 < rpcUrls
      · refine iff_of_false ?_ fun never => never several _ rfl
        intro failsOver
        obtain ⟨_, _, _, isThrown⟩ := failsOver.lastError _ rfl
        rw [if_pos several] at isThrown
        cases isThrown
      · refine iff_of_true ?_ fun isSeveral => absurd isSeveral several
        obtain rfl : endpoint = 0 := by omega
        have hasFailed
            : ∀ status,
                HasFailed outcomes id (⟨status, [0]⟩ : FailoverCall ε ρ) 0 0 error :=
          fun _ => ⟨rfl, isError⟩
        constructor
        case triesOnce => exact List.nodup_singleton _
        case succeeds =>
          rintro ⟨other, isEndpoint, always⟩ _ _
          obtain rfl : other = 0 := by omega
          obtain ⟨result, isResult⟩ := always 0
          rw [isError] at isResult
          cases isResult
        case triesAll =>
          intro _ _ other isEndpoint
          obtain rfl : other = 0 := by omega
          exact ⟨0, error, hasFailed _⟩
        case lastError =>
          intro reason isRejected
          injection isRejected with isReason
          rw [if_neg several] at isReason
          exact ⟨0, error, hasFailed _, isReason.symm⟩

/-- A step keeps all calls failing over exactly if there is one endpoint or the attempt that settles
is answered.
-/
theorem step_allFailOver_iff (pos : 0 < rpcUrls) {state next : FailoverState ε ρ}
    {action : FailoverAction} (taken : step rpcUrls outcomes state action = some next)
    (single : HasSingleAttempts rpcUrls outcomes state)
    (allFailOver : AllFailOver rpcUrls outcomes state)
    : rpcUrls = 1 ∨ IsAnswered outcomes state action = true
      ↔ AllFailOver rpcUrls outcomes next := by
  have nextSingle := step_hasSingleAttempts pos taken single
  have others
      : ∀ id changed,
          (1 < rpcUrls → ∀ reason, changed.status ≠ .rejected reason)
          → ∀ other call,
              (state.set id changed).calls other = some call
              → 1 < rpcUrls → ∀ reason, call.status ≠ .rejected reason := by
    intro id changed notRejected other call found
    rw [FailoverState.set_calls] at found
    split at found
    · exact Option.some.inj found ▸ notRejected
    · exact (single.calls other call found).failsOver_iff.mp (allFailOver other call found)
  have keeps
      : ∀ id changed,
          (1 < rpcUrls → ∀ reason, changed.status ≠ .rejected reason)
          → next.calls = (state.set id changed).calls
          → AllFailOver rpcUrls outcomes next := by
    intro id changed notRejected same other call found
    apply (nextSingle.calls other call found).failsOver_iff.mpr
    exact others id changed notRejected other call (same ▸ found)
  obtain ⟨id, rfl, -, rfl⟩ | ⟨id, attempts, lastError, endpoint, tried, rfl, found, settled⟩
      := step_cases taken
  · refine iff_of_true (.inr rfl) (keeps id _ ?_ rfl)
    rw [continueLoop, if_pos pos]
    exact fun _ _ isRejected => by cases isRejected
  · have isAnswered
        : IsAnswered outcomes state (.settle id) = (outcomes id endpoint attempts).toBool := by
      rw [IsAnswered, found]
    rw [isAnswered]
    obtain ⟨result, isResult, rfl⟩ | ⟨error, isError, rfl⟩ := settled
    · rw [isResult]
      exact iff_of_true (.inr rfl) (keeps id _ (fun _ _ isRejected => by cases isRejected) rfl)
    · rw [isError]
      obtain ⟨⟩ := single.calls id _ found
      by_cases several : 1 < rpcUrls
      · refine iff_of_false (by rintro (rfl | isTrue) <;> [omega; cases isTrue]) ?_
        intro nextFailOver
        have isRejected
            : (state.set id
                (catchError rpcUrls state.currentRpcIndex 0 error [endpoint]).2).calls id
              = some ⟨.rejected .typeError, [endpoint]⟩ := by
          rw [FailoverState.set_calls, if_pos rfl, catchError_first, if_pos several, if_pos several]
        exact (nextSingle.calls id _ isRejected).failsOver_iff.mp (nextFailOver id _ isRejected)
          several _ rfl
      · refine iff_of_true (.inl (by omega)) ?_
        exact keeps id _ (fun isSeveral => absurd isSeveral several) rfl

/-- All calls fail over throughout a run exactly if there is one endpoint or every attempt in it is
answered, so that nothing has to fail over.
-/
theorem allFailOver_iff (pos : 0 < rpcUrls) (outcomes : Outcomes ε ρ)
    {actions : List FailoverAction} {final : FailoverState ε ρ}
    (reached : run (step rpcUrls outcomes) .initial actions = some final)
    : (∀ front middle,
          front <+: actions
          → run (step rpcUrls outcomes) .initial front = some middle
          → AllFailOver rpcUrls outcomes middle)
      ↔ stepsSatisfy (step rpcUrls outcomes)
          (fun state action => rpcUrls = 1 ∨ IsAnswered outcomes state action = true)
          .initial actions := by
  have all
      : stepsSatisfy (step rpcUrls outcomes) (fun _ _ => True)
          (.initial : FailoverState ε ρ) actions :=
    stepsSatisfy_of_forall_mem _ fun _ _ _ => trivial
  have single : HasSingleAttempts rpcUrls outcomes .initial :=
    ⟨pos, fun _ _ found => by cases found⟩
  have allFailOver : AllFailOver rpcUrls outcomes .initial := fun _ _ found => by cases found
  exact forall_prefix_iff_stepsSatisfy
    (fun _ _ _ _ taken single _ _ => step_hasSingleAttempts pos taken single)
    (fun _ _ _ _ taken single allFailOver => step_allFailOver_iff pos taken single allFailOver)
    single allFailOver all reached

/-- Two endpoints of which the second one never answers. -/
def onlyFirst : Outcomes String Nat :=
  fun _ endpoint _ => if endpoint = 0 then .ok 7 else .error "down"

/-- Two calls at the same time, of which none has to fail over. -/
theorem allFailOver_iff_onlyFirst
    : ∃ final,
        run (step 2 onlyFirst) .initial [.start 0, .start 1, .settle 1, .settle 0] = some final
        ∧ ∀ front middle,
            front <+: [.start 0, .start 1, .settle 1, .settle 0]
            → run (step 2 onlyFirst) .initial front = some middle
            → AllFailOver 2 onlyFirst middle :=
  ⟨_, rfl, (allFailOver_iff (by decide) onlyFirst rfl).mpr (by decide)⟩

/-- Two endpoints of which the first one never answers. -/
def onlySecond : Outcomes String Nat :=
  fun _ endpoint _ => if endpoint = 1 then .ok 7 else .error "down"

/-- A call is rejected with a `TypeError` although the second endpoint would answer it. -/
theorem not_allFailOver
    : WouldBeAnswered 2 onlySecond 0
      ∧ ∃ final,
          run (step 2 onlySecond) .initial [.start 0, .settle 0] = some final
          ∧ final.calls 0 = some ⟨.rejected .typeError, [0]⟩
          ∧ ¬ AllFailOver 2 onlySecond final := by
  have answers : WouldBeAnswered 2 onlySecond 0 := ⟨1, by decide, fun _ => ⟨7, rfl⟩⟩
  refine ⟨answers, _, rfl, rfl, ?_⟩
  intro allFailOver
  exact (allFailOver 0 _ rfl).succeeds answers _ rfl

end Axionvera.Client.RpcFailover
