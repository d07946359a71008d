import Axionvera.Foundation.JsNumber
import Mathlib.Data.List.Basic

/-! `MiddlewarePipeline` (`middleware/pipeline.ts`) as a machine: an execution rests while it
awaits a hook or the handler, and middleware can be registered and removed meanwhile.
-/

namespace Axionvera.Pipeline

open Axionvera.Foundation

/-- `MiddlewareWorkflow`. -/
inductive MiddlewareWorkflow where
  | request
  | transaction
  deriving DecidableEq, Repr

/-- `MiddlewareContext`. A result or an error that is not there is undefined. -/
structure MiddlewareContext (π ρ ε μ : Type) where
  workflow : MiddlewareWorkflow
  operation : String
  payload : π
  result : Option ρ := none
  error : Option ε := none
  metadata : μ

/-- `Middleware`, as far as the pipeline looks at it: which hooks there are. -/
structure Middleware where
  name : String
  order : Option JsNumber := none
  hasPre : Bool := false
  hasPost : Bool := false
  hasOnError : Bool := false

/-- Middleware as it is registered. -/
structure Registered where
  name : String
  order : JsNumber
  hasPre : Bool
  hasPost : Bool
  hasOnError : Bool
  sequence : Nat
  deriving DecidableEq

/-- The registered middleware, and the number of the next registration. -/
structure MiddlewarePipeline where
  middleware : List Registered
  nextSequence : Nat

/-- A pipeline without middleware. -/
def MiddlewarePipeline.empty : MiddlewarePipeline := ⟨[], 0⟩

/-- The comparison of `sortMiddleware`: by order, then by registration. -/
def compareEntries (left right : Registered) : JsNumber :=
  let orderDiff := left.order.sub right.order
  if orderDiff = .finite 0 then .finite ((left.sequence : ℚ) - right.sequence) else orderDiff

/-- `sortMiddleware`. Sorting is stable, and takes a comparison that gives NaN for one that
gives zero. For orders that are NaN, its outcome is up to the implementation.
-/
def sortMiddleware (middleware : List Registered) : List Registered :=
  middleware.mergeSort (fun left right => !(compareEntries left right).isAbove 0)

/-- `use`, which throws for an empty name. -/
def MiddlewarePipeline.use (pipeline : MiddlewarePipeline) (middleware : Middleware)
    : Except String MiddlewarePipeline :=
  if middleware.name = "" then .error "Middleware must include a non-empty name"
  else
    let registered : Registered :=
      {
        name := middleware.name
        order := middleware.order.getD (.finite 0)
        hasPre := middleware.hasPre
        hasPost := middleware.hasPost
        hasOnError := middleware.hasOnError
        sequence := pipeline.nextSequence
      }
    .ok
      {
        middleware := sortMiddleware (pipeline.middleware ++ [registered])
        nextSequence := pipeline.nextSequence + 1
      }

/-- `remove`, which takes out the first entry with the name: whether there was one, and the
pipeline afterwards.
-/
def MiddlewarePipeline.remove (pipeline : MiddlewarePipeline) (name : String)
    : Bool × MiddlewarePipeline :=
  (pipeline.middleware.any (fun entry => entry.name = name),
    { pipeline with middleware := pipeline.middleware.eraseP (fun entry => entry.name = name) })

/-- `clear`. -/
def MiddlewarePipeline.clear (pipeline : MiddlewarePipeline) : MiddlewarePipeline :=
  { pipeline with middleware := [] }

/-- A change of what is registered. The function that `use` returns calls `remove`. -/
inductive Registration where
  | use (middleware : Middleware)
  | remove (name : String)
  | clear

/-- The pipeline after a change; a call of `use` that throws changes nothing. -/
def MiddlewarePipeline.register (pipeline : MiddlewarePipeline) : Registration → MiddlewarePipeline
  | .use middleware => (pipeline.use middleware).toOption.getD pipeline
  | .remove name => (pipeline.remove name).2
  | .clear => pipeline.clear

/-- What an execution calls before it fails: hooks and the handler. -/
inductive Hook where
  | pre (entry : Registered)
  | handler
  | post (entry : Registered)
  deriving DecidableEq

/-- A call of an execution: what is called, the context it is given, and the context that
`execute` goes on with; and what is thrown, if anything.
-/
structure Call (κ π ρ ε μ : Type) where
  hook : κ
  passed : MiddlewareContext π ρ ε μ
  left : MiddlewareContext π ρ ε μ
  completion : Except (Option ε) Unit

/-- Where an execution rests: in the loop over `pre` hooks, with the position at which the
iteration of the array goes on; in the handler; in the loop over `post` hooks or, after an
error, over `onError` hooks, with the entries that come next; or at its end.
-/
inductive Phase (ρ ε : Type) where
  | pre (entry : Registered) (next : Nat)
  | handling
  | post (entry : Registered) (rest : List Registered)
  | onError (error : Option ε) (entry : Registered) (rest : List Registered)
  | resolved (result : Option ρ)
  | rejected (error : Option ε)

/-- The pipeline with one execution in flight, its context, and the calls that have come to
their end: those before an error and with it, and those of `onError` hooks.
-/
structure Execution (π ρ ε μ : Type) where
  pipeline : MiddlewarePipeline
  phase : Phase ρ ε
  context : MiddlewareContext π ρ ε μ
  calls : List (Call Hook π ρ ε μ)
  errorCalls : List (Call Registered π ρ ε μ)

variable {π ρ ε μ : Type}

/-- The first entry with a `pre` hook, and the position behind it. -/
def seekPre : List Registered → Nat → Option (Registered × Nat)
  | [], _ => none
  | entry :: rest, position =>
      if entry.hasPre then some (entry, position + 1) else seekPre rest (position + 1)

/-- The loop over `pre` hooks goes on at a position of the array, as it is by now; behind its
end, the handler is called.
-/
def enterPre (state : Execution π ρ ε μ) (position : Nat) : Execution π ρ ε μ :=
  match seekPre (state.pipeline.middleware.drop position) position with
  | some (entry, next) => { state with phase := .pre entry next }
  | none => { state with phase := .handling }

/-- The loop over `post` hooks goes on with the entries, after which the result is returned. -/
def enterPost (state : Execution π ρ ε μ) : List Registered → Execution π ρ ε μ
  | [] => { state with phase := .resolved state.context.result }
  | entry :: rest =>
      if entry.hasPost then { state with phase := .post entry rest } else enterPost state rest

/-- The loop over `onError` hooks goes on with the entries. After it the error of the context
is thrown, also where this is the error caught.
-/
def enterOnError (state : Execution π ρ ε μ) (error : Option ε)
    : List Registered → Execution π ρ ε μ
  | [] => { state with phase := .rejected state.context.error }
  | entry :: rest =>
      if entry.hasOnError then { state with phase := .onError error entry rest }
      else enterOnError state error rest

/-- The end of a call, with the context that `execute` goes on with. -/
def Execution.record (state : Execution π ρ ε μ) (hook : Hook) (left : MiddlewareContext π ρ ε μ)
    (completion : Except (Option ε) Unit) : Execution π ρ ε μ :=
  { state with
    context := left
    calls := state.calls ++ [⟨hook, state.context, left, completion⟩] }

/-- An error is caught, in the call that comes to its end with it. -/
def Execution.fail (state : Execution π ρ ε μ) (hook : Hook) (left : MiddlewareContext π ρ ε μ)
    (error : Option ε) : Execution π ρ ε μ :=
  enterOnError (state.record hook { left with error := error } (.error error)) error
    state.pipeline.middleware.reverse

/-- `execute` up to where it awaits something. -/
def execute (pipeline : MiddlewarePipeline) (workflow : MiddlewareWorkflow) (operation : String)
    (payload : π) (metadata : μ) : Execution π ρ ε μ :=
  enterPre
    {
      pipeline := pipeline
      phase := .handling
      context := { workflow, operation, payload, metadata }
      calls := []
      errorCalls := []
    }
    0

/-- What can happen while an execution is in flight: the middleware changes, or the hook or
handler that is awaited comes to its end. It leaves a context: the one it was given, which it
may have changed, or one that it returns.
-/
inductive PipelineAction (π ρ ε μ : Type) where
  | register (change : Registration)
  | hook (left : MiddlewareContext π ρ ε μ) (completion : Except (Option ε) Unit)
  | handler (left : MiddlewareContext π ρ ε μ) (completion : Except (Option ε) (Option ρ))

/-- One step. -/
def pipelineStep (state : Execution π ρ ε μ) : PipelineAction π ρ ε μ → Option (Execution π ρ ε μ)
  | .register change => some { state with pipeline := state.pipeline.register change }
  | .hook left completion =>
      match state.phase, completion with
      | .pre entry next, .ok _ => some (enterPre (state.record (.pre entry) left (.ok ())) next)
      | .pre entry _, .error error => some (state.fail (.pre entry) left error)
      | .post entry rest, .ok _ => some (enterPost (state.record (.post entry) left (.ok ())) rest)
      | .post entry _, .error error => some (state.fail (.post entry) left error)
      | .onError error entry rest, .ok _ =>
          let called :=
            { state with
              context := left
              errorCalls := state.errorCalls ++ [⟨entry, state.context, left, .ok ()⟩] }
          some (enterOnError called error rest)
      | .onError _ entry _, .error thrown =>
          some
            { state with
              phase := .rejected thrown
              context := left
              errorCalls := state.errorCalls ++ [⟨entry, state.context, left, .error thrown⟩] }
      | _, _ => none
  | .handler left completion =>
      match state.phase, completion with
      | .handling, .ok result =>
          -- The list of `post` hooks is taken when the handler has returned.
          some
            (enterPost (state.record .handler { left with result := result } (.ok ()))
              state.pipeline.middleware.reverse)
      | .handling, .error error => some (state.fail .handler left error)
      | _, _ => none

end Axionvera.Pipeline
