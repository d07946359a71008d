import Axionvera.Foundation.TransitionSystem

/-! The hook `useVault` (`react/useVault.ts`): calls of its actions that share its state and go on
in any order, and a React that renders what was set, at once or later.
-/

namespace Axionvera.React

open Axionvera.Foundation

variable {ε : Type}

-----------------------------------------------------------------------------------------
-- The state
-----------------------------------------------------------------------------------------

/-- `TxStep`. -/
inductive TxStep where
  | idle
  | signed
  | submitted
  | confirmed
  deriving DecidableEq

/-- An error that the hook shows: one that was thrown to it, an `Error`, or a
`TransactionTimeoutError`, with their messages.
-/
inductive HookError (ε : Type) where
  | thrown (error : ε)
  | error (message : String)
  | transactionTimeout (message : String)
  deriving DecidableEq

/-- `UseVaultState`. -/
structure UseVaultState (ε : Type) where
  step : TxStep
  isLoading : Bool
  error : Option (HookError ε)
  txHash : Option String
  deriving DecidableEq

/-- The state at first. -/
def UseVaultState.initial : UseVaultState ε := ⟨.idle, false, none, none⟩

/-- A call of a set function of `useState`. -/
inductive SetState (ε : Type) where
  | step (value : TxStep)
  | isLoading (value : Bool)
  | error (value : Option (HookError ε))
  | txHash (value : Option String)

/-- The state after a call of a set function. -/
def SetState.apply (state : UseVaultState ε) : SetState ε → UseVaultState ε
  | .step value => { state with step := value }
  | .isLoading value => { state with isLoading := value }
  | .error value => { state with error := value }
  | .txHash value => { state with txHash := value }

/-- The state after calls of set functions, one after another. -/
def UseVaultState.after (state : UseVaultState ε) (updates : List (SetState ε)) : UseVaultState ε :=
  updates.foldl SetState.apply state

@[simp] theorem UseVaultState.after_nil (state : UseVaultState ε) : state.after [] = state :=
  rfl

@[simp] theorem UseVaultState.after_cons (state : UseVaultState ε) (update : SetState ε)
    (updates : List (SetState ε))
    : state.after (update :: updates) = (update.apply state).after updates :=
  rfl

@[simp] theorem UseVaultState.after_append (state : UseVaultState ε)
    (earlier later : List (SetState ε))
    : state.after (earlier ++ later) = (state.after earlier).after later :=
  List.foldl_append

-----------------------------------------------------------------------------------------
-- The calls
-----------------------------------------------------------------------------------------

/-- `POLL_TIMEOUT_MS`. -/
def POLL_TIMEOUT_MS : Int := 60000

/-- What an action resolves with, as far as it is read; `String(result)` can throw. -/
structure ActionResult (ε : Type) where
  hash : Option String
  id : Option String
  text : Except ε String

/-- `result?.hash ?? result?.id ?? String(result)`. -/
def ActionResult.hashOf (result : ActionResult ε) : Except ε String :=
  match result.hash.or result.id with
  | some hash => .ok hash
  | none => result.text

/-- A call of `execute`, by what it waits for: its action; the client or the timer in
`pollUntilConfirmed`, until a deadline; or `pollUntilConfirmed`, which has ended. Or it has ended
itself, with the hash that it found and the error that it set.
-/
inductive ExecuteCall (ε : Type) where
  | acting
  | polling (hash : String) (deadline : Int)
  | waiting (hash : String) (deadline : Int)
  | polled (hash : String) (outcome : Except (HookError ε) Unit)
  | succeeded (hash : String)
  | failed (hash : Option String) (error : HookError ε)

/-- What a call goes on with: its action resolves or rejects, with two readings of the clock behind
it; the client answers; a timer goes off; or `await` returns behind `pollUntilConfirmed`, where
`onSuccess` may throw if it is called.
-/
inductive CallEvent (ε : Type) where
  | acted (result : Except ε (ActionResult ε)) (now later : Int)
  | answered (status : Except ε (Option String))
  | woke (now : Int)
  | returned (callback : Except ε Unit)

/-- What a call does before it waits again: the hash that it calls `onSuccess` with, then the set
functions that it calls, in order.
-/
structure CallStep (ε : Type) where
  next : ExecuteCall ε
  updates : List (SetState ε) := []
  told : Option String := none

/-- The end of `execute` for an error. -/
def CallStep.failed (hash : Option String) (error : HookError ε) : CallStep ε where
  next := .failed hash error
  updates := [.error (some error), .step .idle, .isLoading false]

/-- The head of the loop of `pollUntilConfirmed`. -/
def ExecuteCall.pollAgain (hash : String) (deadline now : Int) : ExecuteCall ε :=
  if now < deadline then .polling hash deadline
  else .polled hash (.error (.transactionTimeout hash))

/-- `execute` from one `await` to the next. What a call does not wait for cannot happen. -/
def ExecuteCall.step : ExecuteCall ε → CallEvent ε → Option (CallStep ε)
  | .acting, .acted (.ok result) now later =>
      match result.hashOf with
      | .ok hash =>
          some {
            next := .pollAgain hash (now + POLL_TIMEOUT_MS) later
            updates := [.step .signed, .txHash (some hash), .step .submitted]
          }
      | .error error =>
          let failed := CallStep.failed none (.thrown error)
          some { failed with updates := .step .signed :: failed.updates }
  | .acting, .acted (.error error) _ _ => some (.failed none (.thrown error))
  | .polling hash deadline, .answered (.ok status) =>
      if status = some "SUCCESS" then
        some { next := .polled hash (.ok ()), updates := [.step .confirmed] }
      else if status = some "FAILED" then
        let message := "Transaction " ++ hash ++ " failed on-chain."
        some { next := .polled hash (.error (.error message)) }
      else some { next := .waiting hash deadline }
  | .polling hash _, .answered (.error error) =>
      some { next := .polled hash (.error (.thrown error)) }
  | .waiting hash deadline, .woke now => some { next := .pollAgain hash deadline now }
  | .polled hash (.ok _), .returned (.ok _) =>
      some { next := .succeeded hash, updates := [.isLoading false], told := some hash }
  | .polled hash (.ok _), .returned (.error error) =>
      some { CallStep.failed (some hash) (.thrown error) with told := some hash }
  | .polled hash (.error error), .returned _ => some (.failed (some hash) error)
  | _, _ => none

-----------------------------------------------------------------------------------------
-- The hook
-----------------------------------------------------------------------------------------

/-- The hook: the state with all that was set, the state that it was last rendered with, its calls
in the order in which they began, and the hashes that `onSuccess` was called with.
-/
structure VaultHook (ε : Type) where
  pending : UseVaultState ε
  shown : UseVaultState ε
  calls : List (ExecuteCall ε)
  notified : List String

/-- What happens to the hook: an action is begun, a call goes on, `reset` is called, or React
renders what was set. It may also have rendered behind each call of a set function, by its place;
nothing else happens in between.
-/
inductive HookEvent (ε : Type) where
  | begin (atOnce : Nat → Bool)
  | call (number : Nat) (event : CallEvent ε) (atOnce : Nat → Bool)
  | reset (atOnce : Nat → Bool)
  | render

namespace VaultHook

/-- A hook of a component that has just been mounted. -/
def initial : VaultHook ε := ⟨.initial, .initial, [], []⟩

/-- Calls of set functions, behind each of which React renders or not. -/
def setAll (hook : VaultHook ε) (atOnce : Nat → Bool) : List (SetState ε) → VaultHook ε
  | [] => hook
  | update :: updates =>
      let pending := update.apply hook.pending
      let shown := if atOnce 0 then pending else hook.shown
      setAll { hook with pending := pending, shown := shown } (fun place => atOnce (place + 1))
        updates

/-- One event. -/
def step (hook : VaultHook ε) : HookEvent ε → Option (VaultHook ε)
  | .begin atOnce =>
      let begun : VaultHook ε := { hook with calls := hook.calls ++ [.acting] }
      some (begun.setAll atOnce [.isLoading true, .error none, .step .idle, .txHash none])
  | .call number event atOnce => do
      let call ← hook.calls[number]?
      let did ← call.step event
      let told := { hook with
        calls := hook.calls.set number did.next
        notified := hook.notified ++ did.told.toList }
      return told.setAll atOnce did.updates
  | .reset atOnce =>
      some (hook.setAll atOnce [.step .idle, .isLoading false, .error none, .txHash none])
  | .render => some { hook with shown := hook.pending }

/-- All that was set is rendered. -/
def IsRendered (hook : VaultHook ε) : Prop :=
  hook.shown = hook.pending

@[simp] theorem pending_setAll (hook : VaultHook ε) (atOnce : Nat → Bool)
    (updates : List (SetState ε))
    : (hook.setAll atOnce updates).pending = hook.pending.after updates := by
  induction updates generalizing hook atOnce with
  | nil => rfl
  | cons update updates ih => exact ih _ _

@[simp] theorem calls_setAll (hook : VaultHook ε) (atOnce : Nat → Bool)
    (updates : List (SetState ε))
    : (hook.setAll atOnce updates).calls = hook.calls := by
  induction updates generalizing hook atOnce with
  | nil => rfl
  | cons update updates ih => exact ih _ _

@[simp] theorem notified_setAll (hook : VaultHook ε) (atOnce : Nat → Bool)
    (updates : List (SetState ε))
    : (hook.setAll atOnce updates).notified = hook.notified := by
  induction updates generalizing hook atOnce with
  | nil => rfl
  | cons update updates ih => exact ih _ _

/-- A React that renders later shows what it has shown, by induction on the calls. -/
theorem shown_setAll (hook : VaultHook ε) {atOnce : Nat → Bool}
    (later : ∀ place, atOnce place = false) (updates : List (SetState ε))
    : (hook.setAll atOnce updates).shown = hook.shown := by
  induction updates generalizing hook atOnce with
  | nil => rfl
  | cons update updates ih =>
      rw [setAll, ih _ fun place => later (place + 1)]
      exact if_neg (Bool.eq_false_iff.mp (later 0))

end VaultHook

-----------------------------------------------------------------------------------------
-- What a call does
-----------------------------------------------------------------------------------------

namespace ExecuteCall

/-- The call has come to an end. -/
def isSettled : ExecuteCall ε → Bool
  | .succeeded _ | .failed _ _ => true
  | _ => false

/-- The state of a hook with this call alone. -/
def view : ExecuteCall ε → UseVaultState ε
  | .acting => ⟨.idle, true, none, none⟩
  | .polling hash _ | .waiting hash _ | .polled hash (.error _) =>
      ⟨.submitted, true, none, some hash⟩
  | .polled hash (.ok _) => ⟨.confirmed, true, none, some hash⟩
  | .succeeded hash => ⟨.confirmed, false, none, some hash⟩
  | .failed hash error => ⟨.idle, false, some error, hash⟩

/-- The client has answered that the transaction was successful, which `onSuccess` is not told yet.
-/
def isConfirmed : ExecuteCall ε → Bool
  | .polled _ (.ok _) => true
  | _ => false

/-- The hash of a call that was successful. -/
def succeededHash : ExecuteCall ε → Option String
  | .succeeded hash => some hash
  | _ => none

/-- The hash of a call that has come to an end, if it found one. -/
def settledHash : ExecuteCall ε → Option String
  | .succeeded hash => some hash
  | .failed hash _ => hash
  | _ => none

/-- A hook is loading while its call has not come to an end. -/
theorem view_isLoading (call : ExecuteCall ε) : call.view.isLoading = !call.isSettled := by
  rcases call with _ | _ | _ | ⟨_, _ | _⟩ | _ | _ <;> rfl

/-- A call that polls, or is too late for that, has been submitted. -/
theorem view_pollAgain (hash : String) (deadline now : Int)
    : (pollAgain hash deadline now : ExecuteCall ε).view
      = ⟨.submitted, true, none, some hash⟩ := by
  unfold pollAgain
  split <;> rfl

/-- It has not come to an end, and was not successful. -/
theorem pollAgain_cases (hash : String) (deadline now : Int)
    : (pollAgain hash deadline now : ExecuteCall ε).isSettled = false
      ∧ (pollAgain hash deadline now : ExecuteCall ε).isConfirmed = false
      ∧ (pollAgain hash deadline now : ExecuteCall ε).succeededHash = none := by
  unfold pollAgain
  split <;> exact ⟨rfl, rfl, rfl⟩

end ExecuteCall

/-- The client answers that a transaction was successful. -/
def CallEvent.isSuccess : CallEvent ε → Bool
  | .answered (.ok status) => status = some "SUCCESS"
  | _ => false

/-- (Continues call event did) says what a call does in general: it has not come to an end; a hook
with this call alone follows it; any hook is not loading once it has come to an end, and is left
with the step `signed` only if it had it. The hash that `onSuccess` is told is that of the call,
which then ends; it is told if the call ends with success; and each answer that the transaction was
successful is told, or still to be told.
-/
structure Continues (call : ExecuteCall ε) (event : CallEvent ε) (did : CallStep ε) : Prop where
  running : call.isSettled = false
  view : call.view.after did.updates = did.next.view
  loading
    : ∀ state : UseVaultState ε,
        (state.after did.updates).isLoading = (state.isLoading && !did.next.isSettled)
  noSigned
    : ∀ state : UseVaultState ε,
        state.step ≠ .signed → (state.after did.updates).step ≠ .signed
  succeeded : did.next.succeededHash = none ∨ did.next.succeededHash = did.told
  settled : did.told = none ∨ did.next.settledHash = did.told
  answers
    : did.told.toList.length + [did.next].countP ExecuteCall.isConfirmed
      = [call].countP ExecuteCall.isConfirmed + [event].countP CallEvent.isSuccess

/-- A call that ends with an error, also behind other calls of set functions. -/
theorem continues_failed {call : ExecuteCall ε} {event : CallEvent ε} {hash told : Option String}
    {error : HookError ε} (earlier : List (SetState ε)) (running : call.isSettled = false)
    (hasHash : (call.view.after earlier).txHash = hash) (ofTold : told = none ∨ hash = told)
    (answers
      : told.toList.length
        = [call].countP ExecuteCall.isConfirmed + [event].countP CallEvent.isSuccess)
    : Continues call event
        {
          next := .failed hash error
          updates := earlier ++ (CallStep.failed hash error).updates
          told := told
        } where
  running := running
  view := by
    subst hasHash
    simp [CallStep.failed, SetState.apply, ExecuteCall.view]
  loading state := by simp [CallStep.failed, SetState.apply, ExecuteCall.isSettled]
  noSigned state _ := by simp [CallStep.failed, SetState.apply]
  succeeded := .inl rfl
  settled := ofTold
  answers := answers

/-- A call that is submitted, or goes on polling. -/
theorem continues_pollAgain {call : ExecuteCall ε} {event : CallEvent ε} {hash : String}
    {deadline now : Int} {updates : List (SetState ε)} (running : call.isSettled = false)
    (isSubmitted : call.view.after updates = ⟨.submitted, true, none, some hash⟩)
    (keepsLoading
      : ∀ state : UseVaultState ε, (state.after updates).isLoading = state.isLoading)
    (noSigned
      : ∀ state : UseVaultState ε, state.step ≠ .signed → (state.after updates).step ≠ .signed)
    (noAnswer
      : [call].countP ExecuteCall.isConfirmed + [event].countP CallEvent.isSuccess = 0)
    : Continues call event { next := .pollAgain hash deadline now, updates := updates } := by
  obtain ⟨isRunning, notConfirmed, notSucceeded⟩ :=
    ExecuteCall.pollAgain_cases (ε := ε) hash deadline now
  refine ⟨running, ?_, fun state => ?_, noSigned, .inl notSucceeded, .inl rfl, ?_⟩
  · rw [isSubmitted, ExecuteCall.view_pollAgain]
  · rw [keepsLoading, isRunning, Bool.not_false, Bool.and_true]
  · rw [noAnswer, List.countP_singleton, notConfirmed]
    rfl

/-- A call that goes on and sets nothing. -/
theorem continues_quietly {call next : ExecuteCall ε} {event : CallEvent ε}
    (running : call.isSettled = false) (isRunning : next.isSettled = false)
    (sameView : call.view = next.view)
    (answers
      : [next].countP ExecuteCall.isConfirmed
        = [call].countP ExecuteCall.isConfirmed + [event].countP CallEvent.isSuccess)
    : Continues call event { next := next } where
  running := running
  view := sameView
  loading state := by simp [isRunning]
  noSigned _ noSigned := noSigned
  succeeded := by cases next <;> first | exact .inl rfl | cases isRunning
  settled := .inl rfl
  answers := (Nat.zero_add _).trans answers

/-- Whatever a call does is what calls do in general, by cases on what it waits for. -/
theorem continues_of_step {call : ExecuteCall ε} {event : CallEvent ε} {did : CallStep ε}
    (taken : call.step event = some did)
    : Continues call event did := by
  cases call with
  | acting =>
      cases event with
      | acted result now later =>
          cases result with
          | error error =>
              obtain rfl := Option.some.inj taken
              exact continues_failed [] rfl rfl (.inl rfl) rfl
          | ok result =>
              simp only [ExecuteCall.step] at taken
              cases isHash : result.hashOf with
              | ok hash =>
                  rw [isHash] at taken
                  obtain rfl := Option.some.inj taken
                  refine continues_pollAgain rfl rfl (fun _ => rfl) (fun _ _ => ?_) rfl
                  exact TxStep.noConfusion
              | error error =>
                  rw [isHash] at taken
                  obtain rfl := Option.some.inj taken
                  exact continues_failed [.step .signed] rfl rfl (.inl rfl) rfl
      | answered | woke | returned => cases taken
  | polling hash deadline =>
      cases event with
      | answered status =>
          cases status with
          | error error =>
              obtain rfl := Option.some.inj taken
              exact continues_quietly rfl rfl rfl rfl
          | ok status =>
              simp only [ExecuteCall.step] at taken
              split_ifs at taken with isSuccess isFailed
              · obtain rfl := Option.some.inj taken
                refine ⟨rfl, rfl, fun _ => (Bool.and_true _).symm, fun _ _ => TxStep.noConfusion,
                  .inl rfl, .inl rfl, ?_⟩
                simp [CallEvent.isSuccess, ExecuteCall.isConfirmed, isSuccess]
              · obtain rfl := Option.some.inj taken
                refine continues_quietly rfl rfl rfl ?_
                simp [CallEvent.isSuccess, ExecuteCall.isConfirmed, isSuccess]
              · obtain rfl := Option.some.inj taken
                refine continues_quietly rfl rfl rfl ?_
                simp [CallEvent.isSuccess, ExecuteCall.isConfirmed, isSuccess]
      | acted | woke | returned => cases taken
  | waiting hash deadline =>
      cases event with
      | woke now =>
          obtain rfl := Option.some.inj taken
          exact continues_pollAgain rfl rfl (fun _ => rfl) (fun _ noSigned => noSigned) rfl
      | acted | answered | returned => cases taken
  | polled hash outcome =>
      cases event with
      | returned callback =>
          cases outcome with
          | error error =>
              obtain rfl := Option.some.inj taken
              exact continues_failed [] rfl rfl (.inl rfl) rfl
          | ok _ =>
              cases callback with
              | error error =>
                  obtain rfl := Option.some.inj taken
                  exact continues_failed [] rfl rfl (.inr rfl) rfl
              | ok _ =>
                  obtain rfl := Option.some.inj taken
                  exact ⟨rfl, rfl, fun _ => (Bool.and_false _).symm, fun _ noSigned => noSigned,
                    .inr rfl, .inr rfl, rfl⟩
      | acted | answered | woke => cases outcome <;> cases taken
  | succeeded | failed => cases event <;> cases taken

end Axionvera.React
