import Axionvera.Pipeline.MiddlewareOrder

/-! What an execution has called and what it goes on to call, and what each step does. -/

namespace Axionvera.Pipeline

open Axionvera.Foundation

variable {π ρ ε μ : Type}

/-- The `pre` hooks of the entries. -/
def preHooks (entries : List Registered) : List Hook :=
  (entries.filter (fun entry => entry.hasPre)).map .pre

/-- Entries with a `pre` hook are those whose hook is among the `pre` hooks. -/
@[simp]
theorem mem_preHooks {entries : List Registered} {entry : Registered}
    : .pre entry ∈ preHooks entries ↔ entry ∈ entries ∧ entry.hasPre = true := by
  simp [preHooks]

/-- The `post` hooks of the entries. -/
def postHooks (entries : List Registered) : List Hook :=
  (entries.filter (fun entry => entry.hasPost)).map .post

/-- The entries with an `onError` hook. -/
def errorHooks (entries : List Registered) : List Registered :=
  entries.filter (fun entry => entry.hasOnError)

/-- The hook or the handler that is running, if no error has been caught. -/
def Phase.running : Phase ρ ε → List Hook
  | .pre entry _ => [.pre entry]
  | .handling => [.handler]
  | .post entry _ => [.post entry]
  | .onError _ _ _ | .resolved _ | .rejected _ => []

/-- The hooks that have been called before an error, and the handler, with the running one. -/
def Execution.begun (state : Execution π ρ ε μ) : List Hook :=
  state.calls.map Call.hook ++ state.phase.running

/-- The middleware whose `onError` hook is running. -/
def Phase.errorRunning : Phase ρ ε → List Registered
  | .onError _ entry _ => [entry]
  | .pre _ _ | .handling | .post _ _ | .resolved _ | .rejected _ => []

/-- The middleware whose `onError` hook has been called, with the running one. -/
def Execution.errorBegun (state : Execution π ρ ε μ) : List Registered :=
  state.errorCalls.map Call.hook ++ state.phase.errorRunning

-----------------------------------------------------------------------------------------
-- Where the loops go on
-----------------------------------------------------------------------------------------

/-- The search for a `pre` hook ends at the first entry that has one, behind which it goes on, by
induction on the entries.
-/
private theorem seekPre_spec (entries : List Registered) (position : Nat)
    : match seekPre entries position with
      | some (entry, next) =>
          position ≤ next
          ∧ entry ∈ entries.take (next - position)
          ∧ entry.hasPre = true
          ∧ preHooks (entries.take (next - position)) = [.pre entry]
      | none => preHooks entries = [] := by
  induction entries generalizing position with
  | nil => rfl
  | cons head rest ih =>
      unfold seekPre
      cases hasPre : head.hasPre with
      | true => simp [preHooks, hasPre]
      | false =>
          have later := ih (position + 1)
          simp only [Bool.false_eq_true, if_false]
          cases found : seekPre rest (position + 1) with
          | none => simpa [found, preHooks, hasPre] using later
          | some reached =>
              obtain ⟨entry, next⟩ := reached
              simp only [found] at later ⊢
              obtain ⟨behind, member, isPre, hooks⟩ := later
              have width : next - position = next - (position + 1) + 1 := by omega
              rw [width, List.take_succ_cons]
              refine ⟨by omega, List.mem_cons_of_mem _ member, isPre, ?_⟩
              simpa [preHooks, hasPre] using hooks

/-- The loop over `pre` hooks calls the next one at or behind the position, or else the
handler.
-/
theorem enterPre_cases (state : Execution π ρ ε μ) (position : Nat)
    : (∃ entry next,
        enterPre state position = { state with phase := .pre entry next }
        ∧ entry ∈ (state.pipeline.middleware.take next).drop position
        ∧ entry.hasPre = true
        ∧ preHooks (state.pipeline.middleware.take next)
          = preHooks (state.pipeline.middleware.take position) ++ [.pre entry])
      ∨ enterPre state position = { state with phase := .handling }
        ∧ preHooks state.pipeline.middleware
          = preHooks (state.pipeline.middleware.take position) := by
  have spec := seekPre_spec (state.pipeline.middleware.drop position) position
  unfold enterPre
  cases found : seekPre (state.pipeline.middleware.drop position) position with
  | none =>
      simp only [found] at spec
      refine .inr ⟨rfl, ?_⟩
      conv_lhs => rw [← List.take_append_drop position state.pipeline.middleware]
      simp only [preHooks, List.filter_append, List.map_append] at spec ⊢
      rw [spec, List.append_nil]
  | some reached =>
      obtain ⟨entry, next⟩ := reached
      simp only [found] at spec
      obtain ⟨behind, member, isPre, hooks⟩ := spec
      have split
          : state.pipeline.middleware.take next
            = state.pipeline.middleware.take position
              ++ (state.pipeline.middleware.drop position).take (next - position) := by
        rw [← List.take_add, Nat.add_sub_cancel' behind]
      refine .inl ⟨entry, next, rfl, ?_, isPre, ?_⟩
      · rwa [List.drop_take]
      · rw [split]
        simp only [preHooks, List.filter_append, List.map_append] at hooks ⊢
        rw [hooks]

/-- The `pre` hooks before a position and those from there on are all of them. -/
theorem preHooks_take_drop (entries : List Registered) (position : Nat)
    : preHooks (entries.take position) ++ preHooks (entries.drop position) = preHooks entries := by
  unfold preHooks
  rw [← List.map_append, ← List.filter_append, List.take_append_drop]

/-- The `pre` hooks from a position on are the one called next and those behind it. -/
theorem preHooks_drop {entries : List Registered} {position next : Nat} {hook : Hook}
    (hooks : preHooks (entries.take next) = preHooks (entries.take position) ++ [hook])
    : preHooks (entries.drop position) = hook :: preHooks (entries.drop next) := by
  have further := preHooks_take_drop entries next
  rw [hooks, ← preHooks_take_drop entries position, List.append_assoc] at further
  exact (List.append_cancel_left further).symm

/-- There are no `pre` hooks from a position on if those before it are all. -/
theorem preHooks_drop_nil {entries : List Registered} {position : Nat}
    (hooks : preHooks entries = preHooks (entries.take position))
    : preHooks (entries.drop position) = [] := by
  have whole := preHooks_take_drop entries position
  rw [hooks] at whole
  exact List.append_right_eq_self.mp whole

/-- The loop over `post` hooks calls the next one, or else the result is returned, by induction
on the entries.
-/
theorem enterPost_cases (state : Execution π ρ ε μ) (entries : List Registered)
    : (∃ entry rest,
        enterPost state entries = { state with phase := .post entry rest }
        ∧ postHooks entries = .post entry :: postHooks rest)
      ∨ enterPost state entries = { state with phase := .resolved state.context.result }
        ∧ postHooks entries = [] := by
  induction entries with
  | nil => exact .inr ⟨rfl, rfl⟩
  | cons head rest ih =>
      unfold enterPost
      cases hasPost : head.hasPost with
      | true => exact .inl ⟨head, rest, rfl, by simp [postHooks, hasPost]⟩
      | false => simpa [postHooks, hasPost] using ih

/-- The loop over `onError` hooks calls the next one, or else the error of the context is
thrown, by induction on the entries.
-/
theorem enterOnError_cases (state : Execution π ρ ε μ) (error : Option ε)
    (entries : List Registered)
    : (∃ entry rest,
        enterOnError state error entries = { state with phase := .onError error entry rest }
        ∧ errorHooks entries = entry :: errorHooks rest)
      ∨ enterOnError state error entries = { state with phase := .rejected state.context.error }
        ∧ errorHooks entries = [] := by
  induction entries with
  | nil => exact .inr ⟨rfl, rfl⟩
  | cons head rest ih =>
      unfold enterOnError
      cases hasOnError : head.hasOnError with
      | true => exact .inl ⟨head, rest, rfl, by simp [errorHooks, hasOnError]⟩
      | false => simpa [errorHooks, hasOnError] using ih

/-- The loop over `pre` hooks leaves what is registered as it is. -/
theorem enterPre_pipeline (state : Execution π ρ ε μ) (position : Nat)
    : (enterPre state position).pipeline = state.pipeline := by
  rcases enterPre_cases state position with ⟨_, _, entered, _⟩ | ⟨entered, _⟩
  · rw [entered]
  · rw [entered]

/-- The loop over `post` hooks leaves what is registered as it is. -/
theorem enterPost_pipeline (state : Execution π ρ ε μ) (entries : List Registered)
    : (enterPost state entries).pipeline = state.pipeline := by
  rcases enterPost_cases state entries with ⟨_, _, entered, _⟩ | ⟨entered, _⟩
  · rw [entered]
  · rw [entered]

/-- The loop over `onError` hooks leaves what is registered as it is. -/
theorem enterOnError_pipeline (state : Execution π ρ ε μ) (error : Option ε)
    (entries : List Registered)
    : (enterOnError state error entries).pipeline = state.pipeline := by
  rcases enterOnError_cases state error entries with ⟨_, _, entered, _⟩ | ⟨entered, _⟩
  · rw [entered]
  · rw [entered]

-----------------------------------------------------------------------------------------
-- The steps
-----------------------------------------------------------------------------------------

/-- The action ends a hook or the handler with an error. -/
inductive PipelineAction.Throws (error : Option ε) : PipelineAction π ρ ε μ → Prop
  | hook (left) : Throws error (.hook left (.error error))
  | handler (left) : Throws error (.handler left (.error error))

/-- The action is a hook or the handler coming to its end; the middleware stays as it is. -/
def PipelineAction.isCompletion : PipelineAction π ρ ε μ → Prop
  | .register _ => False
  | .hook _ _ | .handler _ _ => True

/-- What a step does. -/
inductive StepEffect (state : Execution π ρ ε μ)
    : PipelineAction π ρ ε μ → Execution π ρ ε μ → Prop
  | registers (change)
    : StepEffect state (.register change)
        { state with pipeline := state.pipeline.register change }
  | preDone {entry next left} (phase : state.phase = .pre entry next)
    : StepEffect state (.hook left (.ok ()))
        (enterPre (state.record (.pre entry) left (.ok ())) next)
  | handled {left result} (phase : state.phase = .handling)
    : StepEffect state (.handler left (.ok result))
        (enterPost (state.record .handler { left with result := result } (.ok ()))
          state.pipeline.middleware.reverse)
  | postDone {entry rest left} (phase : state.phase = .post entry rest)
    : StepEffect state (.hook left (.ok ()))
        (enterPost (state.record (.post entry) left (.ok ())) rest)
  | fails {hook left error action} (running : state.phase.running = [hook])
    (throws : action.Throws error)
    : StepEffect state action (state.fail hook left error)
  | onErrorDone {original entry rest left} (phase : state.phase = .onError original entry rest)
    : StepEffect state (.hook left (.ok ()))
        (enterOnError
          { state with
            context := left
            errorCalls := state.errorCalls ++ [⟨entry, state.context, left, .ok ()⟩] }
          original rest)
  | onErrorThrows {original entry rest left thrown}
    (phase : state.phase = .onError original entry rest)
    : StepEffect state (.hook left (.error thrown))
        { state with
          phase := .rejected thrown
          context := left
          errorCalls := state.errorCalls ++ [⟨entry, state.context, left, .error thrown⟩] }

/-- Every step has one of the effects, by cases on the action and the phase. -/
theorem step_effect {state next : Execution π ρ ε μ} {action : PipelineAction π ρ ε μ}
    (taken : pipelineStep state action = some next)
    : StepEffect state action next := by
  cases action with
  | register change =>
      obtain rfl := Option.some.inj taken
      exact .registers change
  | hook left completion =>
      simp only [pipelineStep] at taken
      split at taken
      · rename_i entry position _ phase
        obtain rfl := Option.some.inj taken
        exact .preDone phase
      · rename_i entry position error phase
        obtain rfl := Option.some.inj taken
        exact .fails (by rw [phase]; rfl) (.hook left)
      · rename_i entry rest _ phase
        obtain rfl := Option.some.inj taken
        exact .postDone phase
      · rename_i entry rest error phase
        obtain rfl := Option.some.inj taken
        exact .fails (by rw [phase]; rfl) (.hook left)
      · rename_i original entry rest _ phase
        obtain rfl := Option.some.inj taken
        exact .onErrorDone phase
      · rename_i original entry rest thrown phase
        obtain rfl := Option.some.inj taken
        exact .onErrorThrows phase
      · cases taken
  | handler left completion =>
      simp only [pipelineStep] at taken
      split at taken
      · rename_i result phase
        obtain rfl := Option.some.inj taken
        exact .handled phase
      · rename_i error phase
        obtain rfl := Option.some.inj taken
        exact .fails (by rw [phase]; rfl) (.handler left)
      · cases taken

/-- A completion leaves what is registered as it is, by cases on the step. -/
theorem StepEffect.pipeline {state next : Execution π ρ ε μ} {action : PipelineAction π ρ ε μ}
    (effect : StepEffect state action next) (completion : action.isCompletion)
    : next.pipeline = state.pipeline := by
  cases effect with
  | registers change => exact completion.elim
  | preDone phase => exact enterPre_pipeline _ _
  | handled phase => exact enterPost_pipeline _ _
  | postDone phase => exact enterPost_pipeline _ _
  | fails running throws => exact enterOnError_pipeline _ _ _
  | onErrorDone phase => exact enterOnError_pipeline _ _ _
  | onErrorThrows phase => rfl

end Axionvera.Pipeline
