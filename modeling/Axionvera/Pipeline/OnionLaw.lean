import Axionvera.Foundation.TransitionSystem
import Axionvera.Pipeline.ExecutionSteps

/-! While the middleware stays as it is, an execution calls the hooks in layers around the
handler; and it rejects with the error that it caught, except for what `onError` hooks do to
that error.
-/

namespace Axionvera.Pipeline

open Axionvera.Foundation

variable {π ρ ε μ : Type}

/-- What an execution calls when nothing fails: `pre` hooks, the handler, and `post` hooks the
other way round.
-/
def onion (entries : List Registered) : List Hook :=
  preHooks entries ++ .handler :: postHooks entries.reverse

/-- (passesOn first calls last) requires each call to be given the context that the one before
it left.
-/
def passesOn {κ : Type}
    : MiddlewareContext π ρ ε μ → List (Call κ π ρ ε μ) → MiddlewareContext π ρ ε μ → Prop
  | first, [], last => first = last
  | first, call :: rest, last => call.passed = first ∧ passesOn call.left rest last

/-- An error has been caught. -/
def Phase.caught : Phase ρ ε → Prop
  | .onError _ _ _ | .rejected _ => True
  | .pre _ _ | .handling | .post _ _ | .resolved _ => False

/-- What is promised of an execution, up to where it is: on the order of its calls, the
contexts they are given, and how it ends. The middleware was registered by the changes.
-/
structure OnionLaw (changes : List Registration) (initial : MiddlewareContext π ρ ε μ)
    (state : Execution π ρ ε μ)
    : Prop where
  ascending
    : (∀ change ∈ changes, change.comparable)
      → state.pipeline.middleware.Pairwise Registered.precedes
  order : state.begun <+: onion state.pipeline.middleware
  handlerOnce : state.begun.count .handler ≤ 1
  handlerCalled
    : .handler ∈ state.begun
      ↔ ∀ entry ∈ state.pipeline.middleware,
          entry.hasPre = true
          → ∃ call ∈ state.calls, call.hook = .pre entry ∧ call.completion = .ok ()
  contexts
    : ∃ reached,
        passesOn initial state.calls reached ∧ passesOn reached state.errorCalls state.context
  stops : ∀ call ∈ state.calls.dropLast, call.completion = .ok ()
  failure : (∃ call ∈ state.calls, call.completion ≠ .ok ()) ↔ state.phase.caught
  resolves
    : ∀ result,
        state.phase = .resolved result
        → state.calls.map Call.hook = onion state.pipeline.middleware
          ∧ result = state.context.result
  errorOrder : state.errorBegun <+: errorHooks state.pipeline.middleware.reverse
  errorCaught : state.errorBegun ≠ [] → state.phase.caught
  rejects
    : ∀ error,
        state.phase = .rejected error
        → state.errorCalls.map Call.hook = errorHooks state.pipeline.middleware.reverse
          ∧ error ≠ none
          ∧ ∃ call ∈ state.calls, ∃ original,
              call.completion = .error original
              ∧ (error = original ∨ error = state.context.error)

/-- There is an error to reject with when the last `onError` hook has returned, or right away
without such hooks; and only the last one of them throws, and then the error caught or the one
in the context.
-/
def keepsError (state : Execution π ρ ε μ) (action : PipelineAction π ρ ε μ) : Prop :=
  match state.phase, action with
  | .onError _ _ rest, .hook left (.ok _) => errorHooks rest = [] → left.error ≠ none
  | .onError original _ rest, .hook left (.error thrown) =>
      errorHooks rest = [] ∧ thrown ≠ none ∧ (thrown = original ∨ thrown = left.error)
  | _, .hook _ (.error error) | _, .handler _ (.error error) =>
      errorHooks state.pipeline.middleware.reverse = [] → error ≠ none
  | _, _ => True

-----------------------------------------------------------------------------------------
-- Contexts and completions along the calls
-----------------------------------------------------------------------------------------

/-- One more call that is given the last context passes its own context on, by induction on the
calls.
-/
theorem passesOn_concat {κ : Type} {first last : MiddlewareContext π ρ ε μ}
    {calls : List (Call κ π ρ ε μ)} {call : Call κ π ρ ε μ} (passes : passesOn first calls last)
    (given : call.passed = last)
    : passesOn first (calls ++ [call]) call.left := by
  induction calls generalizing first with
  | nil => exact ⟨given.trans passes.symm, rfl⟩
  | cons head rest ih => exact ⟨passes.1, ih passes.2⟩

/-- No call has failed, the hooks that remain complete those called, and each call was given
the context that the one before it left.
-/
structure Forwards (initial : MiddlewareContext π ρ ε μ) (state : Execution π ρ ε μ)
    (remaining : List Hook)
    : Prop where
  succeeded : ∀ call ∈ state.calls, call.completion = .ok ()
  order : state.calls.map Call.hook ++ remaining = onion state.pipeline.middleware
  contexts : passesOn initial state.calls state.context
  noErrors : state.errorCalls = []

/-- The last call has failed with the error and no other; before it, the hooks were called in
order.
-/
structure Failed (initial : MiddlewareContext π ρ ε μ) (state : Execution π ρ ε μ)
    (original : Option ε)
    : Prop where
  failure
    : ∃ earlier call remaining,
        state.calls = earlier ++ [call]
        ∧ (∀ other ∈ earlier, other.completion = .ok ())
        ∧ call.completion = .error original
        ∧ earlier.map Call.hook ++ call.hook :: remaining = onion state.pipeline.middleware
  contexts
    : ∃ reached,
        passesOn initial state.calls reached ∧ passesOn reached state.errorCalls state.context

/-- Where an execution rests it has called hooks and middleware in order, whatever `onError`
hooks do.
-/
def Execution.inLayers (initial : MiddlewareContext π ρ ε μ) (state : Execution π ρ ε μ) : Prop :=
  let entries := state.pipeline.middleware
  match state.phase with
  | .pre entry next =>
      Forwards initial state
        (.pre entry :: (preHooks (entries.drop next) ++ .handler :: postHooks entries.reverse))
  | .handling => Forwards initial state (.handler :: postHooks entries.reverse)
  | .post entry rest => Forwards initial state (.post entry :: postHooks rest)
  | .resolved result => Forwards initial state [] ∧ result = state.context.result
  | .onError original entry rest =>
      Failed initial state original
      ∧ state.errorCalls.map Call.hook ++ entry :: errorHooks rest = errorHooks entries.reverse
  | .rejected _ =>
      (∃ original, Failed initial state original)
      ∧ state.errorCalls.map Call.hook <+: errorHooks entries.reverse

/-- A hook that returns leaves the others to be called. -/
theorem Forwards.record {initial left : MiddlewareContext π ρ ε μ} {state : Execution π ρ ε μ}
    {hook : Hook} {remaining : List Hook} (forwards : Forwards initial state (hook :: remaining))
    : Forwards initial (state.record hook left (.ok ())) remaining where
  succeeded := by
    intro call member
    rcases List.mem_append.mp member with old | new
    · exact forwards.succeeded call old
    · rw [List.mem_singleton.mp new]
  order := by
    have order := forwards.order
    simp only [Execution.record, List.map_append, List.map_cons, List.map_nil, List.append_assoc,
      List.singleton_append]
    exact order
  contexts := passesOn_concat forwards.contexts rfl
  noErrors := forwards.noErrors

/-- A hook that throws is the last to be called. -/
theorem Forwards.fail {initial left : MiddlewareContext π ρ ε μ} {state : Execution π ρ ε μ}
    {hook : Hook} {remaining : List Hook} (forwards : Forwards initial state (hook :: remaining))
    (error : Option ε)
    : Failed initial (state.record hook { left with error := error } (.error error)) error where
  failure := ⟨state.calls, _, remaining, rfl, forwards.succeeded, rfl, forwards.order⟩
  contexts := by
    refine ⟨_, passesOn_concat forwards.contexts rfl, ?_⟩
    simp only [Execution.record, forwards.noErrors]
    rfl

/-- The loop over `pre` hooks goes on in order. -/
theorem enterPre_inLayers {initial : MiddlewareContext π ρ ε μ} {state : Execution π ρ ε μ}
    {position : Nat}
    (forwards
      : Forwards initial state
          (preHooks (state.pipeline.middleware.drop position)
            ++ .handler :: postHooks state.pipeline.middleware.reverse))
    : (enterPre state position).inLayers initial := by
  rcases enterPre_cases state position with ⟨entry, next, entered, _, _, hooks⟩ | ⟨entered, hooks⟩
  · rw [entered]
    rw [preHooks_drop hooks] at forwards
    exact ⟨forwards.succeeded, forwards.order, forwards.contexts, forwards.noErrors⟩
  · rw [entered]
    rw [preHooks_drop_nil hooks] at forwards
    exact ⟨forwards.succeeded, forwards.order, forwards.contexts, forwards.noErrors⟩

/-- The loop over `post` hooks goes on in order. -/
theorem enterPost_inLayers {initial : MiddlewareContext π ρ ε μ} {state : Execution π ρ ε μ}
    {entries : List Registered} (forwards : Forwards initial state (postHooks entries))
    : (enterPost state entries).inLayers initial := by
  rcases enterPost_cases state entries with ⟨entry, rest, entered, hooks⟩ | ⟨entered, hooks⟩
  · rw [entered]
    rw [hooks] at forwards
    exact ⟨forwards.succeeded, forwards.order, forwards.contexts, forwards.noErrors⟩
  · rw [entered]
    rw [hooks] at forwards
    exact ⟨⟨forwards.succeeded, forwards.order, forwards.contexts, forwards.noErrors⟩, rfl⟩

/-- The loop over `onError` hooks goes on in order. -/
theorem enterOnError_inLayers {initial : MiddlewareContext π ρ ε μ} {state : Execution π ρ ε μ}
    {original : Option ε} {entries : List Registered} (failed : Failed initial state original)
    (order
      : state.errorCalls.map Call.hook ++ errorHooks entries
        = errorHooks state.pipeline.middleware.reverse)
    : (enterOnError state original entries).inLayers initial := by
  rcases enterOnError_cases state original entries
    with ⟨entry, rest, entered, hooks⟩ | ⟨entered, hooks⟩
  · rw [entered]
    rw [hooks] at order
    exact ⟨⟨failed.failure, failed.contexts⟩, order⟩
  · rw [entered]
    exact ⟨⟨original, failed.failure, failed.contexts⟩, ⟨_, order⟩⟩

/-- What is running is the first of what remains. -/
theorem Execution.inLayers.running {initial : MiddlewareContext π ρ ε μ}
    {state : Execution π ρ ε μ} {hook : Hook} (layers : state.inLayers initial)
    (running : state.phase.running = [hook])
    : ∃ remaining, Forwards initial state (hook :: remaining) := by
  unfold Execution.inLayers at layers
  cases phase : state.phase with
  | pre entry next =>
      rw [phase] at running layers
      obtain rfl := List.singleton_inj.mp running
      exact ⟨_, layers⟩
  | handling =>
      rw [phase] at running layers
      obtain rfl := List.singleton_inj.mp running
      exact ⟨_, layers⟩
  | post entry rest =>
      rw [phase] at running layers
      obtain rfl := List.singleton_inj.mp running
      exact ⟨_, layers⟩
  | onError original entry rest => simp [phase, Phase.running] at running
  | resolved result => simp [phase, Phase.running] at running
  | rejected error => simp [phase, Phase.running] at running

/-- An execution begins in order. -/
theorem execute_inLayers (pipeline : MiddlewarePipeline) (workflow : MiddlewareWorkflow)
    (operation : String) (payload : π) (metadata : μ)
    : (execute pipeline workflow operation payload metadata : Execution π ρ ε μ).inLayers
        { workflow, operation, payload, metadata } := by
  refine enterPre_inLayers ?_
  exact ⟨(fun _ member => nomatch member), rfl, rfl, rfl⟩

/-- What comes to its end is recorded, and the execution goes on in order, by cases on the
step.
-/
theorem Execution.inLayers.step {initial : MiddlewareContext π ρ ε μ}
    {state next : Execution π ρ ε μ} {action : PipelineAction π ρ ε μ}
    (layers : state.inLayers initial) (completion : action.isCompletion)
    (effect : StepEffect state action next)
    : next.inLayers initial := by
  cases effect with
  | registers change => exact completion.elim
  | @preDone entry position left phase =>
      simp only [Execution.inLayers, phase] at layers
      exact enterPre_inLayers layers.record
  | @handled left result phase =>
      simp only [Execution.inLayers, phase] at layers
      exact enterPost_inLayers layers.record
  | @postDone entry rest left phase =>
      simp only [Execution.inLayers, phase] at layers
      exact enterPost_inLayers layers.record
  | fails running throws =>
      obtain ⟨remaining, forwards⟩ := layers.running running
      refine enterOnError_inLayers (forwards.fail _) ?_
      simp only [Execution.record, forwards.noErrors]
      rfl
  | @onErrorDone original entry rest left phase =>
      simp only [Execution.inLayers, phase] at layers
      obtain ⟨⟨failure, reached, before, after⟩, order⟩ := layers
      refine enterOnError_inLayers ⟨failure, reached, before, passesOn_concat after rfl⟩ ?_
      simpa using order
  | @onErrorThrows original entry rest left thrown phase =>
      simp only [Execution.inLayers, phase] at layers
      obtain ⟨⟨failure, reached, before, after⟩, order⟩ := layers
      refine ⟨⟨original, failure, reached, before, passesOn_concat after rfl⟩, ?_⟩
      refine ⟨errorHooks rest, ?_⟩
      simpa using order

-----------------------------------------------------------------------------------------
-- What is promised follows, except for the end of a failed execution
-----------------------------------------------------------------------------------------

/-- The hooks that have returned, and those that have not or were not called, make up the
layers; and of the latter the first one has been called.
-/
structure Divided (state : Execution π ρ ε μ) (returned remaining : List Hook) : Prop where
  order : returned ++ remaining = onion state.pipeline.middleware
  begun : state.begun = returned ++ remaining.take 1
  returned
    : ∀ hook, hook ∈ returned ↔ ∃ call ∈ state.calls, call.hook = hook ∧ call.completion = .ok ()

/-- Calls that have all returned are those with a given hook that have returned. -/
private theorem mem_map_hook_iff {calls : List (Call Hook π ρ ε μ)}
    (succeeded : ∀ call ∈ calls, call.completion = .ok ()) (hook : Hook)
    : hook ∈ calls.map Call.hook
      ↔ ∃ call ∈ calls, call.hook = hook ∧ call.completion = .ok () := by
  rw [List.mem_map]
  constructor
  · intro given
    obtain ⟨call, member, same⟩ := given
    exact ⟨call, member, same, succeeded call member⟩
  · intro given
    obtain ⟨call, member, same, _⟩ := given
    exact ⟨call, member, same⟩

/-- Without a failure the hooks are divided where the execution rests. -/
theorem Forwards.divided {initial : MiddlewareContext π ρ ε μ} {state : Execution π ρ ε μ}
    {remaining : List Hook} (forwards : Forwards initial state remaining)
    (running : state.phase.running = remaining.take 1)
    : Divided state (state.calls.map Call.hook) remaining where
  order := forwards.order
  begun := by rw [Execution.begun, running]
  returned := mem_map_hook_iff forwards.succeeded

/-- After a failure the hooks are divided before the one that failed. -/
theorem Failed.divided {initial : MiddlewareContext π ρ ε μ} {state : Execution π ρ ε μ}
    {original : Option ε} (failed : Failed initial state original)
    (running : state.phase.running = [])
    : ∃ returned remaining, Divided state returned remaining := by
  obtain ⟨earlier, call, remaining, calls, succeeded, threw, order⟩ := failed.failure
  refine ⟨earlier.map Call.hook, call.hook :: remaining, order, ?_, fun hook => ?_⟩
  · rw [Execution.begun, running, calls]
    simp
  · rw [mem_map_hook_iff succeeded, calls]
    simp [threw]

/-- An execution goes on without a failure, or an error has been caught and `onError` hooks are
called, by cases on the phase.
-/
theorem Execution.inLayers.cases {initial : MiddlewareContext π ρ ε μ}
    {state : Execution π ρ ε μ} (layers : state.inLayers initial)
    : (∃ remaining,
        Forwards initial state remaining
        ∧ ¬ state.phase.caught
        ∧ state.phase.running = remaining.take 1
        ∧ state.phase.errorRunning = []
        ∧ ∀ result,
            state.phase = .resolved result → remaining = [] ∧ result = state.context.result)
      ∨ ∃ original,
          Failed initial state original
          ∧ state.phase.caught
          ∧ state.phase.running = []
          ∧ state.errorBegun <+: errorHooks state.pipeline.middleware.reverse := by
  unfold Execution.errorBegun
  unfold Execution.inLayers at layers
  cases phase : state.phase with
  | pre entry next =>
      rw [phase] at layers
      exact .inl ⟨_, layers, id, rfl, rfl, fun _ same => nomatch same⟩
  | handling =>
      rw [phase] at layers
      exact .inl ⟨_, layers, id, rfl, rfl, fun _ same => nomatch same⟩
  | post entry rest =>
      rw [phase] at layers
      exact .inl ⟨_, layers, id, rfl, rfl, fun _ same => nomatch same⟩
  | resolved result =>
      rw [phase] at layers
      exact .inl ⟨_, layers.1, id, rfl, rfl, fun _ same =>
        ⟨rfl, (Phase.resolved.inj same) ▸ layers.2⟩⟩
  | onError original entry rest =>
      rw [phase] at layers
      obtain ⟨failed, order⟩ := layers
      refine .inr ⟨original, failed, trivial, rfl, errorHooks rest, ?_⟩
      rw [← order, List.append_assoc]
      rfl
  | rejected error =>
      rw [phase] at layers
      obtain ⟨⟨original, failed⟩, order⟩ := layers
      exact .inr ⟨original, failed, trivial, rfl, by simpa [Phase.errorRunning] using order⟩

/-- Wherever an execution rests, the hooks are divided. -/
theorem Execution.inLayers.divided {initial : MiddlewareContext π ρ ε μ}
    {state : Execution π ρ ε μ} (layers : state.inLayers initial)
    : ∃ returned remaining, Divided state returned remaining := by
  rcases layers.cases with ⟨remaining, forwards, _, running, _⟩ | ⟨original, failed, _, running, _⟩
  · exact ⟨_, _, forwards.divided running⟩
  · exact failed.divided running

/-- The layers contain the handler once. -/
private theorem count_handler_onion (entries : List Registered)
    : (onion entries).count .handler = 1 := by
  have pre : (preHooks entries).count .handler = 0 := List.count_eq_zero.mpr (by simp [preHooks])
  have post : (postHooks entries.reverse).count .handler = 0 :=
    List.count_eq_zero.mpr (by simp [postHooks])
  rw [onion, List.count_append, List.count_cons_self, pre, post]

/-- Different entries have different `pre` hooks. -/
theorem preHooks_nodup {entries : List Registered} (unique : entries.Nodup)
    : (preHooks entries).Nodup :=
  (unique.filter _).map fun _ _ same => Hook.pre.inj same

/-- When the hooks are divided, the handler has been called exactly if all `pre` hooks have
returned, by cases on the side of the handler on which they are divided.
-/
private theorem handler_called_iff {entries : List Registered} {returned remaining : List Hook}
    (unique : entries.Nodup) (order : returned ++ remaining = onion entries)
    : .handler ∈ returned ++ remaining.take 1
      ↔ ∀ entry ∈ entries, entry.hasPre = true → .pre entry ∈ returned := by
  rcases List.append_eq_append_iff.mp order with ⟨others, hooks, later⟩ | ⟨others, hooks, later⟩
  · have unreturned : .handler ∉ returned := by
      intro member
      have pre : Hook.handler ∈ preHooks entries := hooks ▸ List.mem_append_left _ member
      simp [preHooks] at pre
    cases others with
    | nil =>
        rw [List.append_nil] at hooks
        refine ⟨fun _ entry member hasPre => ?_, fun _ => by simp [later]⟩
        exact hooks ▸ mem_preHooks.mpr ⟨member, hasPre⟩
    | cons next others =>
        have pre : next ∈ preHooks entries := hooks ▸ by simp
        obtain ⟨entry, member, rfl⟩ := List.mem_map.mp pre
        obtain ⟨member, hasPre⟩ := List.mem_filter.mp member
        have unreturnedPre : .pre entry ∉ returned := by
          have separate := (List.nodup_append.mp (hooks ▸ preHooks_nodup unique)).2.2
          exact fun before => separate _ before _ List.mem_cons_self rfl
        constructor
        · intro called
          simp [later, unreturned] at called
        · exact fun all => absurd (all entry member hasPre) unreturnedPre
  · have all (entry : Registered) (member : entry ∈ entries) (hasPre : entry.hasPre = true)
        : .pre entry ∈ returned :=
      hooks ▸ List.mem_append_left _ (mem_preHooks.mpr ⟨member, hasPre⟩)
    refine ⟨fun _ => all, fun _ => ?_⟩
    cases others with
    | nil =>
        rw [List.nil_append] at later
        simp [← later]
    | cons first others =>
        obtain ⟨same, _⟩ := List.cons_eq_cons.mp later
        exact List.mem_append_left _ (hooks ▸ by simp [same])

/-- Only one error has been caught. -/
theorem Failed.unique {initial : MiddlewareContext π ρ ε μ} {state : Execution π ρ ε μ}
    {original error : Option ε} {call : Call Hook π ρ ε μ} (failed : Failed initial state original)
    (member : call ∈ state.calls) (threw : call.completion = .error error)
    : error = original := by
  obtain ⟨earlier, last, _, calls, succeeded, lastThrew, _⟩ := failed.failure
  rw [calls] at member
  rcases List.mem_append.mp member with before | same
  · exact nomatch (succeeded call before).symm.trans threw
  · rw [List.mem_singleton.mp same] at threw
    exact Except.error.inj (threw.symm.trans lastThrew)

/-- The error caught is that of a call. -/
theorem Failed.call {initial : MiddlewareContext π ρ ε μ} {state : Execution π ρ ε μ}
    {original : Option ε} (failed : Failed initial state original)
    : ∃ call ∈ state.calls, call.completion = .error original := by
  obtain ⟨earlier, last, _, calls, _, threw, _⟩ := failed.failure
  exact ⟨last, calls ▸ by simp, threw⟩

/-- `onError` hooks are called in order, and only after an error. -/
theorem Execution.inLayers.errors {initial : MiddlewareContext π ρ ε μ}
    {state : Execution π ρ ε μ} (layers : state.inLayers initial)
    : state.errorBegun <+: errorHooks state.pipeline.middleware.reverse
      ∧ (state.errorBegun ≠ [] → state.phase.caught) := by
  rcases layers.cases
    with ⟨_, forwards, _, _, noError, _⟩ | ⟨original, _, caught, _, errors⟩
  · have noErrors : state.errorBegun = [] := by
      rw [Execution.errorBegun, forwards.noErrors, noError]
      rfl
    exact ⟨noErrors ▸ List.nil_prefix, fun some => absurd noErrors some⟩
  · exact ⟨errors, fun _ => caught⟩

/-- An error has been caught exactly if a call has failed, and only the last call can fail. -/
theorem Execution.inLayers.failure {initial : MiddlewareContext π ρ ε μ}
    {state : Execution π ρ ε μ} (layers : state.inLayers initial)
    : ((∃ call ∈ state.calls, call.completion ≠ .ok ()) ↔ state.phase.caught)
      ∧ ∀ call ∈ state.calls.dropLast, call.completion = .ok () := by
  rcases layers.cases with ⟨_, forwards, uncaught, _⟩ | ⟨original, failed, caught, _⟩
  · refine ⟨⟨fun ⟨call, member, threw⟩ => ?_, fun caught => absurd caught uncaught⟩, ?_⟩
    · exact absurd (forwards.succeeded call member) threw
    · exact fun call member => forwards.succeeded call (List.mem_of_mem_dropLast member)
  · refine ⟨iff_of_true ?_ caught, ?_⟩
    · obtain ⟨call, member, threw⟩ := failed.call
      exact ⟨call, member, by simp [threw]⟩
    · obtain ⟨earlier, last, _, calls, succeeded, _⟩ := failed.failure
      rw [calls, List.dropLast_concat]
      exact succeeded

/-- Every call is given the context that the one before it left. -/
theorem Execution.inLayers.contexts {initial : MiddlewareContext π ρ ε μ}
    {state : Execution π ρ ε μ} (layers : state.inLayers initial)
    : ∃ reached,
        passesOn initial state.calls reached
        ∧ passesOn reached state.errorCalls state.context := by
  rcases layers.cases with ⟨_, forwards, _⟩ | ⟨original, failed, _⟩
  · refine ⟨state.context, forwards.contexts, ?_⟩
    rw [forwards.noErrors]
    rfl
  · exact failed.contexts

/-- When an execution resolves it has called everything, and its result is that of the last
context.
-/
theorem Execution.inLayers.resolves {initial : MiddlewareContext π ρ ε μ}
    {state : Execution π ρ ε μ} {result : Option ρ} (layers : state.inLayers initial)
    (resolved : state.phase = .resolved result)
    : state.calls.map Call.hook = onion state.pipeline.middleware
      ∧ result = state.context.result := by
  rcases layers.cases with ⟨remaining, forwards, _, _, _, ends⟩ | ⟨original, _, caught, _⟩
  · obtain ⟨rfl, same⟩ := ends result resolved
    exact ⟨by rw [← forwards.order, List.append_nil], same⟩
  · rw [resolved] at caught
    exact caught.elim

/-- An execution in layers keeps what is promised, unless it rejects without keeping the error. -/
theorem OnionLaw.of_layers {changes : List Registration} {initial : MiddlewareContext π ρ ε μ}
    {state : Execution π ρ ε μ} (pipeline : state.pipeline = registered changes)
    (layers : state.inLayers initial)
    (rejects
      : ∀ error,
          state.phase = .rejected error
          → state.errorCalls.map Call.hook = errorHooks state.pipeline.middleware.reverse
            ∧ error ≠ none
            ∧ ∃ call ∈ state.calls, ∃ original,
                call.completion = .error original
                ∧ (error = original ∨ error = state.context.error))
    : OnionLaw changes initial state := by
  obtain ⟨returned, remaining, divided⟩ := layers.divided
  have order : state.begun <+: onion state.pipeline.middleware := by
    rw [divided.begun, ← divided.order]
    exact (List.prefix_append_right_inj returned).mpr (List.take_prefix 1 remaining)
  have unique : state.pipeline.middleware.Nodup := pipeline ▸ (registered_numbered changes).nodup
  have called := handler_called_iff unique divided.order
  rw [← divided.begun] at called
  exact {
    ascending := fun comparable => pipeline ▸ registered_ascending comparable
    order := order
    handlerOnce := (count_handler_onion _) ▸ order.sublist.count_le _
    handlerCalled := by
      rw [called]
      exact forall_congr' fun entry => imp_congr_right fun _ => imp_congr_right fun _ =>
        divided.returned _
    contexts := layers.contexts
    stops := layers.failure.2
    failure := layers.failure.1
    resolves := fun _ resolved => layers.resolves resolved
    errorOrder := layers.errors.1
    errorCaught := layers.errors.2
    rejects := rejects
  }

-----------------------------------------------------------------------------------------
-- The end of a failed execution
-----------------------------------------------------------------------------------------

/-- When a hook or the handler throws, an error is kept if there are `onError` hooks to be
called or something other than undefined was thrown, by cases on what is running.
-/
private theorem keepsError_fails {state : Execution π ρ ε μ} {action : PipelineAction π ρ ε μ}
    {hook : Hook} {error : Option ε} (running : state.phase.running = [hook])
    (throws : action.Throws error)
    : keepsError state action
      ↔ (errorHooks state.pipeline.middleware.reverse = [] → error ≠ none) := by
  unfold keepsError
  cases phase : state.phase with
  | pre entry next => cases throws <;> rfl
  | handling => cases throws <;> rfl
  | post entry rest => cases throws <;> rfl
  | onError original entry rest => simp [phase, Phase.running] at running
  | resolved result => simp [phase, Phase.running] at running
  | rejected error => simp [phase, Phase.running] at running

/-- While no error has been caught, nothing needs to be kept. -/
private theorem keepsError_returns {state : Execution π ρ ε μ} {left : MiddlewareContext π ρ ε μ}
    (uncaught : ¬ state.phase.caught)
    : keepsError state (.hook left (.ok ()) : PipelineAction π ρ ε μ) := by
  unfold keepsError
  cases phase : state.phase with
  | pre entry next => trivial
  | handling => trivial
  | post entry rest => trivial
  | onError original entry rest =>
      rw [phase] at uncaught
      exact absurd trivial uncaught
  | resolved result => trivial
  | rejected error => trivial

/-- The loop over `pre` hooks does not reject. -/
private theorem enterPre_unrejected (state : Execution π ρ ε μ) (position : Nat) (error : Option ε)
    : (enterPre state position).phase ≠ .rejected error := by
  rcases enterPre_cases state position with ⟨_, _, entered, _⟩ | ⟨entered, _⟩
  · exact entered ▸ fun same => nomatch same
  · exact entered ▸ fun same => nomatch same

/-- The loop over `post` hooks does not reject. -/
private theorem enterPost_unrejected (state : Execution π ρ ε μ) (entries : List Registered)
    (error : Option ε)
    : (enterPost state entries).phase ≠ .rejected error := by
  rcases enterPost_cases state entries with ⟨_, _, entered, _⟩ | ⟨entered, _⟩
  · exact entered ▸ fun same => nomatch same
  · exact entered ▸ fun same => nomatch same

/-- The loop over `onError` hooks goes on as promised exactly if another one is called next or
there is an error in the context.
-/
private theorem onionLaw_enterOnError_iff {changes : List Registration}
    {initial : MiddlewareContext π ρ ε μ} {state : Execution π ρ ε μ} {original : Option ε}
    {rest : List Registered} (pipeline : state.pipeline = registered changes)
    (failed : Failed initial state original)
    (order
      : state.errorCalls.map Call.hook ++ errorHooks rest
        = errorHooks state.pipeline.middleware.reverse)
    (onwards : (enterOnError state original rest).inLayers initial)
    : (errorHooks rest = [] → state.context.error ≠ none)
      ↔ OnionLaw changes initial (enterOnError state original rest) := by
  rcases enterOnError_cases state original rest
    with ⟨following, others, entered, hooks⟩ | ⟨entered, hooks⟩
  · rw [entered] at onwards ⊢
    rw [hooks]
    exact iff_of_true (fun none => nomatch none)
      (.of_layers pipeline onwards fun _ rejected => nomatch rejected)
  · rw [entered] at onwards ⊢
    constructor
    · intro defined
      refine .of_layers pipeline onwards fun other rejected => ?_
      obtain rfl : state.context.error = other := Phase.rejected.inj rejected
      obtain ⟨call, member, threw⟩ := failed.call
      refine ⟨?_, defined hooks, call, member, original, threw, .inr rfl⟩
      rw [← order, hooks, List.append_nil]
    · exact fun law _ => (law.rejects state.context.error rfl).2.1

/-- A step goes on as promised exactly when it keeps an error, by cases on the step: only where
the execution rejects there is something to show.
-/
theorem onionLaw_step_iff {changes : List Registration} {initial : MiddlewareContext π ρ ε μ}
    {state next : Execution π ρ ε μ} {action : PipelineAction π ρ ε μ}
    (pipeline : state.pipeline = registered changes) (layers : state.inLayers initial)
    (completion : action.isCompletion) (effect : StepEffect state action next)
    : keepsError state action ↔ OnionLaw changes initial next := by
  have onwards := layers.step completion effect
  have same : next.pipeline = registered changes := (effect.pipeline completion).trans pipeline
  have lawful (unrejected : ∀ error, next.phase ≠ .rejected error)
      : OnionLaw changes initial next :=
    .of_layers same onwards fun error rejected => absurd rejected (unrejected error)
  cases effect with
  | registers change => exact completion.elim
  | @preDone entry position left phase =>
      exact iff_of_true (keepsError_returns (by simp [phase, Phase.caught]))
        (lawful (enterPre_unrejected _ _))
  | @handled left result phase =>
      exact iff_of_true (by simp [keepsError, phase]) (lawful (enterPost_unrejected _ _))
  | @postDone entry rest left phase =>
      exact iff_of_true (keepsError_returns (by simp [phase, Phase.caught]))
        (lawful (enterPost_unrejected _ _))
  | fails running throws =>
      obtain ⟨remaining, forwards⟩ := layers.running running
      rw [keepsError_fails running throws]
      refine onionLaw_enterOnError_iff ?_ (forwards.fail _) ?_ onwards
      · exact pipeline
      · simp only [Execution.record, forwards.noErrors]
        rfl
  | @onErrorDone original entry rest left phase =>
      simp only [Execution.inLayers, phase] at layers
      obtain ⟨⟨failure, reached, before, after⟩, order⟩ := layers
      have condition
          : keepsError state (.hook left (.ok ()))
            ↔ (errorHooks rest = [] → left.error ≠ none) := by
        simp only [keepsError, phase]
      have failed
          : Failed initial
              { state with
                context := left
                errorCalls := state.errorCalls ++ [⟨entry, state.context, left, .ok ()⟩] }
              original :=
        ⟨failure, reached, before, passesOn_concat after rfl⟩
      rw [condition]
      refine onionLaw_enterOnError_iff ?_ failed ?_ onwards
      · exact pipeline
      · simpa using order
  | @onErrorThrows original entry rest left thrown phase =>
      simp only [Execution.inLayers, phase] at layers
      obtain ⟨failed, order⟩ := layers
      have condition
          : keepsError state (.hook left (.error thrown))
            ↔ errorHooks rest = []
              ∧ thrown ≠ none
              ∧ (thrown = original ∨ thrown = left.error) := by
        simp only [keepsError, phase]
      rw [condition]
      constructor
      · intro given
        obtain ⟨last, defined, kept⟩ := given
        refine .of_layers same onwards fun other rejected => ?_
        obtain rfl : thrown = other := Phase.rejected.inj rejected
        obtain ⟨call, member, threw⟩ := failed.call
        refine ⟨?_, defined, call, member, original, threw, kept⟩
        simpa [last] using order
      · intro law
        obtain ⟨all, defined, call, member, error, threw, kept⟩ := law.rejects thrown rfl
        refine ⟨?_, defined, failed.unique member threw ▸ kept⟩
        rw [← order] at all
        simpa using all

/-- While the middleware stays as it is, an execution goes all along as promised exactly if the
hooks keep an error to reject with. Witness: `onionLaw_step_iff` along the run, in which the
execution stays in layers.
-/
theorem onionLaw_iff_keepsError (changes : List Registration) (workflow : MiddlewareWorkflow)
    (operation : String) (payload : π) (metadata : μ) (actions : List (PipelineAction π ρ ε μ))
    (final : Execution π ρ ε μ) (fixed : ∀ action ∈ actions, action.isCompletion)
    (reached
      : run pipelineStep (execute (registered changes) workflow operation payload metadata) actions
        = some final)
    : (∀ front state,
        front <+: actions
        → run pipelineStep (execute (registered changes) workflow operation payload metadata) front
          = some state
        → OnionLaw changes { workflow, operation, payload, metadata } state)
      ↔ stepsSatisfy pipelineStep keepsError
          (execute (registered changes) workflow operation payload metadata) actions := by
  have layers
      : (execute (registered changes) workflow operation payload metadata
          : Execution π ρ ε μ).inLayers { workflow, operation, payload, metadata } :=
    execute_inLayers _ _ _ _ _
  have pipeline
      : (execute (registered changes) workflow operation payload metadata
          : Execution π ρ ε μ).pipeline
        = registered changes :=
    enterPre_pipeline _ _
  have lawful :=
    OnionLaw.of_layers pipeline layers fun error rejected =>
      absurd rejected (enterPre_unrejected _ _ error)
  have preserved (state : Execution π ρ ε μ) (action : PipelineAction π ρ ε μ)
      (next : Execution π ρ ε μ) (completion : action.isCompletion)
      (taken : pipelineStep state action = some next)
      (kept
        : state.pipeline = registered changes
          ∧ state.inLayers { workflow, operation, payload, metadata })
      : next.pipeline = registered changes
        ∧ next.inLayers { workflow, operation, payload, metadata } := by
    have effect := step_effect taken
    exact ⟨(effect.pipeline completion).trans kept.1, kept.2.step completion effect⟩
  have completions
      : stepsSatisfy pipelineStep (fun _ action => action.isCompletion)
          (execute (registered changes) workflow operation payload metadata) actions :=
    stepsSatisfy_of_forall_mem _ fun action member _ => fixed action member
  exact forall_prefix_iff_stepsSatisfy
    (fun state action next completion taken kept _ _ =>
      preserved state action next completion taken kept)
    (fun state action next completion taken kept _ =>
      onionLaw_step_iff kept.1 kept.2 completion (step_effect taken))
    ⟨pipeline, layers⟩ lawful completions reached

/-- Middleware that looks at errors. -/
def errorMetrics : List Registration := [.use { name := "metrics", hasOnError := true }]

/-- The context that a request begins with. -/
def getHealth : MiddlewareContext Unit Unit String Unit :=
  { workflow := .request, operation := "getHealth", payload := (), metadata := () }

/-- Sorting leaves a single entry as it is. -/
private theorem registered_errorMetrics
    : registered errorMetrics = ⟨[⟨"metrics", .finite 0, false, false, true, 0⟩], 1⟩ := by
  simp [registered, errorMetrics, MiddlewarePipeline.register, MiddlewarePipeline.use,
    sortMiddleware, MiddlewarePipeline.empty, Except.toOption]

/-- The handler throws, and the `onError` hook returns a context of its own. -/
def errorDropped : List (PipelineAction Unit Unit String Unit) :=
  [.handler getHealth (.error (some "boom")), .hook getHealth (.ok ())]

/-- The execution rejects with undefined. -/
theorem onionLaw_errorDropped
    : ∃ final,
        run pipelineStep (execute (registered errorMetrics) .request "getHealth" () ())
            errorDropped
          = some final
        ∧ final.phase = .rejected none
        ∧ ¬ OnionLaw errorMetrics getHealth final := by
  rw [registered_errorMetrics]
  refine ⟨_, rfl, rfl, fun law => ?_⟩
  exact (law.rejects none rfl).2.1 rfl

/-- The handler throws, and the `onError` hook leaves the error in the context. -/
def errorKept : List (PipelineAction Unit Unit String Unit) :=
  [
    .handler getHealth (.error (some "boom")),
    .hook { getHealth with error := some "boom" } (.ok ())
  ]

/-- The execution goes as promised all along. -/
theorem onionLaw_errorKept
    : ∃ final,
        run pipelineStep (execute (registered errorMetrics) .request "getHealth" () ()) errorKept
          = some final
        ∧ ∀ front state,
            front <+: errorKept
            → run pipelineStep (execute (registered errorMetrics) .request "getHealth" () ()) front
              = some state
            → OnionLaw errorMetrics getHealth state := by
  have completions : ∀ action ∈ errorKept, action.isCompletion := by
    simp [errorKept, PipelineAction.isCompletion]
  have reached
      : ∃ final,
          run pipelineStep (execute (registered errorMetrics) .request "getHealth" () ()) errorKept
            = some final := by
    rw [registered_errorMetrics]
    exact ⟨_, rfl⟩
  obtain ⟨final, walked⟩ := reached
  refine ⟨final, walked, (onionLaw_iff_keepsError errorMetrics .request "getHealth" () () errorKept
    final completions walked).mpr ?_⟩
  rw [registered_errorMetrics]
  refine ⟨fun none => ?_, fun next taken => ⟨?_, fun _ _ => trivial⟩⟩
  · cases none
  · obtain rfl := Option.some.inj taken
    exact fun _ => nofun

end Axionvera.Pipeline
