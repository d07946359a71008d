import Axionvera.Foundation.TransitionSystem
import Axionvera.Pipeline.ExecutionSteps
import Mathlib.Data.List.Count

/-! What changes of the middleware do to an execution in flight: the loop over `pre` hooks goes
on at a position of the list, wherever its entries are by then.
-/

namespace Axionvera.Pipeline

open Axionvera.Foundation

variable {π ρ ε μ : Type}

/-- The hooks called include each one of the entry at most once, and its `pre` hook, if it has
one, but no `post` hook before the handler.
-/
structure CallsOnce (entry : Registered) (hooks : List Hook) : Prop where
  pre : hooks.count (.pre entry) ≤ 1
  post : hooks.count (.post entry) ≤ 1
  beforeHandler
    : ∀ front back,
        hooks = front ++ .handler :: back
        → front.count (.pre entry) = entry.hasPre.toNat ∧ front.count (.post entry) = 0

/-- The execution calls each hook of the entry once, the `pre` hook before the handler and,
when it resolves, the `post` hook after it.
-/
structure RunsOnce (entry : Registered) (state : Execution π ρ ε μ) : Prop where
  calls : CallsOnce entry state.begun
  resolves
    : ∀ result,
        state.phase = .resolved result
        → .handler ∈ state.begun ∧ state.begun.count (.post entry) = entry.hasPost.toNat

/-- When the loop over `pre` hooks goes on at a position, the entries before it are those whose
hook has been called, as far as entries with a `pre` hook are concerned that were registered
when the execution began and still are.
-/
def keepsPlace (start : MiddlewarePipeline) (state : Execution π ρ ε μ)
    (action : PipelineAction π ρ ε μ)
    : Prop :=
  match state.phase, action with
  | .pre _ next, .hook _ (.ok _) =>
      ∀ entry ∈ start.middleware,
        entry ∈ state.pipeline.middleware
        → entry.hasPre = true
        → (entry ∈ state.pipeline.middleware.take next ↔ .pre entry ∈ state.begun)
  | _, _ => True

/-- After the handler has returned, the entry's `post` hook has been called or remains to be
called, if it has one.
-/
structure PostOnce (entry : Registered) (called remaining : List Hook) : Prop where
  calls : CallsOnce entry called
  handler : .handler ∈ called
  post : called.count (.post entry) + remaining.count (.post entry) = entry.hasPost.toNat

/-- No hook but `pre` hooks has been called, and the entry's at most once. -/
structure PreOnce (entry : Registered) (called : List Hook) : Prop where
  handler : .handler ∉ called
  pre : called.count (.pre entry) ≤ entry.hasPre.toNat
  post : called.count (.post entry) = 0

/-- Where an execution rests, the entry's hooks have been called once as far as they have been
called.
-/
def Execution.keepsOnce (entry : Registered) (state : Execution π ρ ε μ) : Prop :=
  let called := state.calls.map Call.hook
  match state.phase with
  | .pre running _ => PreOnce entry (called ++ [.pre running])
  | .handling => PreOnce entry called ∧ called.count (.pre entry) = entry.hasPre.toNat
  | .post running rest => PostOnce entry called (.post running :: postHooks rest)
  | .resolved _ => PostOnce entry called []
  | .onError _ _ _ | .rejected _ => CallsOnce entry called

/-- One more call splits at the handler where the others did, or it is the handler. -/
private theorem split_concat {hooks front back : List Hook} {hook : Hook}
    (split : hooks ++ [hook] = front ++ .handler :: back)
    : hook = .handler ∧ front = hooks
      ∨ ∃ others, hooks = front ++ .handler :: others := by
  rcases List.eq_nil_or_concat back with rfl | ⟨others, last, rfl⟩
  · obtain ⟨same, handler⟩ := List.append_inj' split rfl
    exact .inl ⟨List.singleton_inj.mp handler, same.symm⟩
  · refine .inr ⟨others, ?_⟩
    have shifted : hooks ++ [hook] = (front ++ .handler :: others) ++ [last] := by
      simpa using split
    exact (List.append_inj' shifted rfl).1

/-- A call of something else does not count. -/
private theorem count_concat_ne {hooks : List Hook} {last hook : Hook} (differ : last ≠ hook)
    : (hooks ++ [last]).count hook = hooks.count hook := by
  rw [List.count_append, List.count_singleton, beq_false_of_ne differ]
  rfl

/-- Before the handler is called, there is nothing to be split. -/
theorem PreOnce.callsOnce {entry : Registered} {called : List Hook} (once : PreOnce entry called)
    : CallsOnce entry called where
  pre := once.pre.trans (Bool.toNat_le _)
  post := by rw [once.post]; exact Nat.zero_le 1
  beforeHandler := by
    intro front back split
    exact absurd (by simp [split]) once.handler

/-- The handler is called after the `pre` hook. -/
theorem PreOnce.handler_callsOnce {entry : Registered} {called : List Hook}
    (once : PreOnce entry called) (pre : called.count (.pre entry) = entry.hasPre.toNat)
    : CallsOnce entry (called ++ [.handler]) where
  pre := by
    rw [count_concat_ne (by simp), pre]
    exact Bool.toNat_le _
  post := by
    rw [count_concat_ne (by simp), once.post]
    exact Nat.zero_le 1
  beforeHandler := by
    intro front back split
    rcases split_concat split with ⟨_, rfl⟩ | ⟨others, rfl⟩
    · exact ⟨pre, once.post⟩
    · exact absurd (by simp) once.handler

/-- A `post` hook that is called next leaves one less to be called. -/
theorem PostOnce.callsOnce {entry running : Registered} {called remaining : List Hook}
    (once : PostOnce entry called (.post running :: remaining))
    : CallsOnce entry (called ++ [.post running]) where
  pre := by
    rw [count_concat_ne (by simp)]
    exact once.calls.pre
  post := by
    have whole := once.post
    have atMost := Bool.toNat_le entry.hasPost
    rw [List.count_cons] at whole
    rw [List.count_append, List.count_singleton]
    omega
  beforeHandler := by
    intro front back split
    rcases split_concat split with ⟨same, _⟩ | ⟨others, before⟩
    · cases same
    · exact once.calls.beforeHandler front others before

/-- A `post` hook that has returned leaves one less to be called. -/
theorem PostOnce.next {entry running : Registered} {called remaining : List Hook}
    (once : PostOnce entry called (.post running :: remaining))
    : PostOnce entry (called ++ [.post running]) remaining where
  calls := once.callsOnce
  handler := List.mem_append_left _ once.handler
  post := by
    have whole := once.post
    rw [List.count_cons] at whole
    rw [List.count_append, List.count_singleton]
    omega

/-- What is called so far keeps to once, with what is running. -/
theorem Execution.keepsOnce.callsOnce {entry : Registered} {state : Execution π ρ ε μ}
    (once : state.keepsOnce entry)
    : CallsOnce entry state.begun := by
  unfold Execution.begun
  unfold Execution.keepsOnce at once
  cases phase : state.phase with
  | pre running next =>
      rw [phase] at once
      exact once.callsOnce
  | handling =>
      rw [phase] at once
      exact once.1.handler_callsOnce once.2
  | post running rest =>
      rw [phase] at once
      exact once.callsOnce
  | onError error running rest =>
      rw [phase] at once
      simpa [Phase.running] using once
  | resolved result =>
      rw [phase] at once
      simpa [Phase.running] using once.calls
  | rejected error =>
      rw [phase] at once
      simpa [Phase.running] using once

/-- An execution that keeps to once has run the hooks once. -/
theorem Execution.keepsOnce.runsOnce {entry : Registered} {state : Execution π ρ ε μ}
    (once : state.keepsOnce entry)
    : RunsOnce entry state where
  calls := once.callsOnce
  resolves := by
    intro result resolved
    unfold Execution.keepsOnce at once
    rw [resolved] at once
    have post := once.post
    simpa [Execution.begun, resolved, Phase.running] using And.intro once.handler post

-----------------------------------------------------------------------------------------
-- Steps
-----------------------------------------------------------------------------------------

/-- What has been called while a `pre` hook is running. -/
private theorem begun_pre {state : Execution π ρ ε μ} {running : Registered} {next : Nat}
    (phase : state.phase = .pre running next)
    : state.begun = state.calls.map Call.hook ++ [.pre running] := by
  rw [Execution.begun, phase]
  rfl

/-- When the loop over `pre` hooks goes on at a position before which the entries called lie,
it calls the entry's hook if it has not been called, and the handler after it.
-/
theorem enterPre_keepsOnce {entry : Registered} {state : Execution π ρ ε μ} {position : Nat}
    (unique : state.pipeline.middleware.Nodup) (member : entry ∈ state.pipeline.middleware)
    (once : PreOnce entry (state.calls.map Call.hook))
    (place
      : entry.hasPre = true
        → (entry ∈ state.pipeline.middleware.take position
          ↔ .pre entry ∈ state.calls.map Call.hook))
    : (enterPre state position).keepsOnce entry := by
  rcases enterPre_cases state position
    with ⟨next, behind, entered, found, hasPre, _⟩ | ⟨entered, hooks⟩
  · rw [entered]
    refine ⟨by simpa using once.handler, ?_, ?_⟩
    · by_cases same : next = entry
      · subst same
        have later : next ∈ state.pipeline.middleware.drop position := by
          rw [List.drop_take] at found
          exact List.mem_of_mem_take found
        have absent : next ∉ state.pipeline.middleware.take position := fun earlier =>
          List.disjoint_take_drop unique le_rfl earlier later
        have uncalled : .pre next ∉ state.calls.map Call.hook := fun called =>
          absent ((place hasPre).mpr called)
        rw [List.count_append, List.count_eq_zero.mpr uncalled, hasPre]
        simp
      · rw [count_concat_ne fun equal => same (Hook.pre.inj equal)]
        exact once.pre
    · rw [count_concat_ne (by simp)]
      exact once.post
  · rw [entered]
    refine ⟨once, ?_⟩
    cases hasPre : entry.hasPre with
    | false =>
        have atMost := once.pre
        rw [hasPre] at atMost
        exact Nat.le_zero.mp atMost
    | true =>
        have reached : .pre entry ∈ preHooks (state.pipeline.middleware.take position) :=
          hooks ▸ mem_preHooks.mpr ⟨member, hasPre⟩
        have called := (place hasPre).mp (mem_preHooks.mp reached).1
        have atMost := once.pre
        rw [hasPre] at atMost
        exact Nat.le_antisymm atMost (List.count_pos_iff.mpr called)

/-- The loop over `post` hooks calls what remains. -/
theorem enterPost_keepsOnce {entry : Registered} {state : Execution π ρ ε μ}
    {entries : List Registered}
    (once : PostOnce entry (state.calls.map Call.hook) (postHooks entries))
    : (enterPost state entries).keepsOnce entry := by
  rcases enterPost_cases state entries with ⟨next, rest, entered, hooks⟩ | ⟨entered, hooks⟩
  · rw [entered]
    rw [hooks] at once
    exact once
  · rw [entered]
    rw [hooks] at once
    exact once

/-- The loop over `onError` hooks leaves the other calls as they are. -/
theorem enterOnError_keepsOnce {entry : Registered} {state : Execution π ρ ε μ}
    {error : Option ε} {entries : List Registered}
    (once : CallsOnce entry (state.calls.map Call.hook))
    : (enterOnError state error entries).keepsOnce entry := by
  rcases enterOnError_cases state error entries with ⟨next, rest, entered, _⟩ | ⟨entered, _⟩
  · rw [entered]
    exact once
  · rw [entered]
    exact once

/-- The list of entries contains a registered one once, and so its `post` hook if it has one. -/
private theorem count_postHooks {entries : List Registered} {entry : Registered}
    (unique : entries.Nodup) (member : entry ∈ entries)
    : (postHooks entries.reverse).count (.post entry) = entry.hasPost.toNat := by
  have injective : Function.Injective Hook.post := fun _ _ same => Hook.post.inj same
  rw [postHooks, List.count_map_of_injective _ _ injective]
  cases hasPost : entry.hasPost with
  | false => exact List.count_eq_zero.mpr (by simp [hasPost])
  | true =>
      rw [List.count_filter (by simpa using hasPost), List.count_reverse]
      exact List.count_eq_one_of_mem unique member

/-- After the handler the `post` hooks remain, of the middleware as it is by then. -/
theorem PreOnce.postOnce {entry : Registered} {called : List Hook} {entries : List Registered}
    (once : PreOnce entry called) (pre : called.count (.pre entry) = entry.hasPre.toNat)
    (unique : entries.Nodup) (member : entry ∈ entries)
    : PostOnce entry (called ++ [.handler]) (postHooks entries.reverse) where
  calls := once.handler_callsOnce pre
  handler := by simp
  post := by
    rw [count_concat_ne (by simp), once.post, count_postHooks unique member, Nat.zero_add]

/-- What is registered is numbered, from where the execution began on; and the middleware that
has been registered since then keeps to once.
-/
structure Isolated (start : MiddlewarePipeline) (state : Execution π ρ ε μ) : Prop where
  numbered : state.pipeline.Numbered
  later : start.nextSequence ≤ state.pipeline.nextSequence
  once
    : ∀ entry ∈ start.middleware, entry ∈ state.pipeline.middleware → state.keepsOnce entry

/-- An execution begins with nothing called. -/
theorem execute_isolated {start : MiddlewarePipeline} (numbered : start.Numbered)
    (workflow : MiddlewareWorkflow) (operation : String) (payload : π) (metadata : μ)
    : Isolated start (execute start workflow operation payload metadata : Execution π ρ ε μ) where
  numbered := by
    rw [execute, enterPre_pipeline]
    exact numbered
  later := by rw [execute, enterPre_pipeline]
  once := by
    intro entry member _
    exact enterPre_keepsOnce numbered.nodup member ⟨by simp, by simp, by simp⟩ fun _ => by simp

/-- Middleware that is registered after a change and was so in the beginning was so before the
change, by the number of its registration.
-/
theorem mem_of_mem_register {start pipeline : MiddlewarePipeline} {change : Registration}
    {entry : Registered} (numbered : start.Numbered)
    (later : start.nextSequence ≤ pipeline.nextSequence) (registered : entry ∈ start.middleware)
    (stays : entry ∈ (pipeline.register change).middleware)
    : entry ∈ pipeline.middleware := by
  rcases mem_register stays with before | new
  · exact before
  · exact absurd (numbered.below entry registered) (by omega)

/-- A step that keeps its place keeps to once, by cases on the step. -/
theorem Isolated.step {start : MiddlewarePipeline} {state next : Execution π ρ ε μ}
    {action : PipelineAction π ρ ε μ} (numbered : start.Numbered) (isolated : Isolated start state)
    (place : keepsPlace start state action) (effect : StepEffect state action next)
    : Isolated start next := by
  -- A completion leaves the pipeline as it is, so that only the calls need to be followed.
  have completes (completion : action.isCompletion)
      (once
        : ∀ entry ∈ start.middleware,
            entry ∈ state.pipeline.middleware → state.keepsOnce entry → next.keepsOnce entry)
      : Isolated start next := by
    have same := effect.pipeline completion
    refine ⟨same ▸ isolated.numbered, same ▸ isolated.later, fun entry registered stays => ?_⟩
    rw [same] at stays
    exact once entry registered stays (isolated.once entry registered stays)
  cases effect with
  | registers change =>
      refine ⟨isolated.numbered.register change, ?_, fun entry registered stays => ?_⟩
      · exact isolated.later.trans (nextSequence_le_register _ _)
      · have before := mem_of_mem_register numbered isolated.later registered stays
        exact isolated.once entry registered before
  | @preDone running position left phase =>
      refine completes trivial fun entry registered stays once => ?_
      simp only [Execution.keepsOnce, phase] at once
      simp only [keepsPlace, phase] at place
      have called
          : (state.record (.pre running) left (.ok ())).calls.map Call.hook = state.begun := by
        rw [begun_pre phase, Execution.record, List.map_append]
        rfl
      refine enterPre_keepsOnce isolated.numbered.nodup stays ?_ fun hasPre => ?_
      · simpa [Execution.record] using once
      · rw [called]
        exact place entry registered stays hasPre
  | @handled left result phase =>
      refine completes trivial fun entry registered stays once => enterPost_keepsOnce ?_
      simp only [Execution.keepsOnce, phase] at once
      simpa [Execution.record] using once.1.postOnce once.2 isolated.numbered.nodup stays
  | @postDone running rest left phase =>
      refine completes trivial fun entry registered stays once => enterPost_keepsOnce ?_
      simp only [Execution.keepsOnce, phase] at once
      simpa [Execution.record] using once.next
  | fails running throws =>
      refine completes ?_ fun entry registered stays once => enterOnError_keepsOnce ?_
      · cases throws with
        | hook left => trivial
        | handler left => trivial
      · simpa [Execution.record, Execution.begun, running] using once.callsOnce
  | @onErrorDone original running rest left phase =>
      refine completes trivial fun entry registered stays once => enterOnError_keepsOnce ?_
      simp only [Execution.keepsOnce, phase] at once
      exact once
  | @onErrorThrows original running rest left thrown phase =>
      refine completes trivial fun entry registered stays once => ?_
      simp only [Execution.keepsOnce, phase] at once
      exact once

/-- If the loop over `pre` hooks keeps its place all along, middleware that was registered when
the execution began and still is has its hooks run once. Witness: induction along the run, in
which what keeps to once goes on to do so.
-/
theorem runsOnce_of_keepsPlace (changes : List Registration) (workflow : MiddlewareWorkflow)
    (operation : String) (payload : π) (metadata : μ) (actions : List (PipelineAction π ρ ε μ))
    (final : Execution π ρ ε μ)
    (places
      : stepsSatisfy pipelineStep (keepsPlace (registered changes))
          (execute (registered changes) workflow operation payload metadata) actions)
    (reached
      : run pipelineStep (execute (registered changes) workflow operation payload metadata) actions
        = some final)
    (entry : Registered) (known : entry ∈ (registered changes).middleware)
    (stays : entry ∈ final.pipeline.middleware)
    : RunsOnce entry final := by
  have numbered := registered_numbered changes
  have isolated : Isolated (registered changes) final :=
    run_preserves_of_stepsSatisfy
      (fun _ _ _ place taken isolated => isolated.step numbered place (step_effect taken))
      (execute_isolated numbered workflow operation payload metadata) places reached
  exact (isolated.once entry known stays).runsOnce

/-- Two middlewares that each have a `pre` hook. -/
def auditAndCache : List Registration :=
  [.use { name := "audit", hasPre := true }, .use { name := "cache", hasPre := true }]

/-- The first of them as it is registered. -/
def audit : Registered := ⟨"audit", .finite 0, true, false, false, 0⟩

/-- The second of them as it is registered. -/
def cache : Registered := ⟨"cache", .finite 0, true, false, false, 1⟩

/-- The middlewares are registered in ascending order, which sorting leaves as it is. -/
private theorem registered_auditAndCache : registered auditAndCache = ⟨[audit, cache], 2⟩ := by
  have sorted : sortMiddleware [audit, cache] = [audit, cache] := by
    refine List.mergeSort_of_pairwise ?_
    simp [audit, cache, compareEntries, JsNumber.sub, JsNumber.isAbove]
  simpa [registered, auditAndCache, MiddlewarePipeline.register, MiddlewarePipeline.use,
    MiddlewarePipeline.empty, Except.toOption, sortMiddleware, audit, cache] using sorted

/-- The context of a request. -/
def getNetwork : MiddlewareContext Unit Unit String Unit :=
  { workflow := .request, operation := "getNetwork", payload := (), metadata := () }

/-- The first middleware is removed while its `pre` hook runs. -/
def removedWhileRunning : List (PipelineAction Unit Unit String Unit) :=
  [.register (.remove "audit"), .hook getNetwork (.ok ())]

/-- The handler is called without the `pre` hook of the second one, which is still registered. -/
theorem runsOnce_removedWhileRunning
    : ∃ final,
        run pipelineStep (execute (registered auditAndCache) .request "getNetwork" () ())
            removedWhileRunning
          = some final
        ∧ cache ∈ (registered auditAndCache).middleware
        ∧ final.pipeline.middleware = [cache]
        ∧ final.begun = [.pre audit, .handler]
        ∧ ¬ RunsOnce cache final := by
  rw [registered_auditAndCache]
  refine ⟨_, rfl, by simp, rfl, rfl, fun once => ?_⟩
  have missed := (once.calls.beforeHandler [.pre audit] [] rfl).1
  revert missed
  decide

/-- The second middleware is removed while the `pre` hook of the first one runs. -/
def removedAhead : List (PipelineAction Unit Unit String Unit) :=
  [
    .register (.remove "cache"),
    .hook getNetwork (.ok ()),
    .handler getNetwork (.ok (some ()))
  ]

/-- The hooks of the first one are run once. -/
theorem runsOnce_removedAhead
    : ∃ final,
        run pipelineStep (execute (registered auditAndCache) .request "getNetwork" () ())
            removedAhead
          = some final
        ∧ RunsOnce audit final := by
  have reached
      : ∃ final,
          run pipelineStep (execute (registered auditAndCache) .request "getNetwork" () ())
              removedAhead
            = some final
          ∧ final.pipeline.middleware = [audit] := by
    rw [registered_auditAndCache]
    exact ⟨_, rfl, rfl⟩
  obtain ⟨final, walked, remaining⟩ := reached
  refine ⟨final, walked, runsOnce_of_keepsPlace auditAndCache .request "getNetwork" () ()
    removedAhead final ?_ walked audit ?_ (remaining ▸ by simp)⟩
  · rw [registered_auditAndCache]
    refine ⟨trivial, fun next taken => ?_⟩
    obtain rfl := Option.some.inj taken
    refine ⟨?_, fun next taken => ?_⟩
    · intro entry _ stays _
      obtain rfl : entry = audit := List.mem_singleton.mp stays
      exact iff_of_true List.mem_cons_self List.mem_cons_self
    · obtain rfl := Option.some.inj taken
      exact ⟨trivial, fun _ _ => trivial⟩
  · rw [registered_auditAndCache]
    simp

-----------------------------------------------------------------------------------------
-- What happens where the loop does not keep its place
-----------------------------------------------------------------------------------------

/-- A `pre` hook returns, and the loop goes on. -/
private theorem preDone_step {state : Execution π ρ ε μ} {running : Registered} {next : Nat}
    (phase : state.phase = .pre running next) (left : MiddlewareContext π ρ ε μ)
    : pipelineStep state (.hook left (.ok ()))
      = some (enterPre (state.record (.pre running) left (.ok ())) next) := by
  simp only [pipelineStep, phase]

/-- While nothing changes, an execution whose `pre` hooks all return goes on to call those
behind the position, and then the handler, by induction on these hooks.
-/
private theorem exists_run_handling {state : Execution π ρ ε μ} {running : Registered} {next : Nat}
    (phase : state.phase = .pre running next) (left : MiddlewareContext π ρ ε μ)
    : ∃ more final,
        run pipelineStep state (.hook left (.ok ()) :: more) = some final
        ∧ (∀ action ∈ more, action.isCompletion)
        ∧ final.pipeline = state.pipeline
        ∧ final.begun
          = state.begun ++ preHooks (state.pipeline.middleware.drop next) ++ [.handler] := by
  generalize hooks : preHooks (state.pipeline.middleware.drop next) = remaining
  induction remaining generalizing state running next with
  | nil =>
      have taken := preDone_step phase left
      rcases enterPre_cases (state.record (.pre running) left (.ok ())) next
        with ⟨entry, further, entered, _, _, found⟩ | ⟨entered, _⟩
      · have absurdity := (preHooks_drop found).symm.trans hooks
        cases absurdity
      · rw [entered] at taken
        refine ⟨[], _, run_cons_iff.mpr ⟨_, taken, rfl⟩, (fun _ member => nomatch member), rfl, ?_⟩
        rw [begun_pre phase, List.append_nil]
        simp [Execution.begun, Execution.record, Phase.running]
  | cons hook others ih =>
      have taken := preDone_step phase left
      rcases enterPre_cases (state.record (.pre running) left (.ok ())) next
        with ⟨entry, further, entered, _, _, found⟩ | ⟨entered, found⟩
      · obtain ⟨same, later⟩ := List.cons_eq_cons.mp ((preHooks_drop found).symm.trans hooks)
        rw [entered] at taken
        have following
            : ({ state.record (.pre running) left (.ok ()) with phase := .pre entry further }
                : Execution π ρ ε μ).phase
              = .pre entry further :=
          rfl
        obtain ⟨more, final, walked, completions, pipeline, order⟩ := ih following later
        refine ⟨.hook left (.ok ()) :: more, final, run_cons_iff.mpr ⟨_, taken, walked⟩, ?_,
          pipeline, ?_⟩
        · intro action member
          rcases List.mem_cons.mp member with rfl | member
          · trivial
          · exact completions action member
        · rw [order, begun_pre phase, ← same]
          simp [Execution.begun, Execution.record, Phase.running]
      · have absurdity := (preHooks_drop_nil found).symm.trans hooks
        cases absurdity

/-- Where the loop over `pre` hooks does not keep its place, some middleware is skipped or
called twice in an execution whose hooks return from there on, without another change.
-/
theorem exists_not_runsOnce {start : MiddlewarePipeline} {state : Execution π ρ ε μ}
    {running : Registered} {next : Nat} {left : MiddlewareContext π ρ ε μ}
    (numbered : state.pipeline.Numbered) (phase : state.phase = .pre running next)
    (misplaced : ¬ keepsPlace start state (.hook left (.ok ())))
    : ∃ more final entry,
        run pipelineStep state (.hook left (.ok ()) :: more) = some final
        ∧ (∀ action ∈ more, action.isCompletion)
        ∧ entry ∈ start.middleware
        ∧ entry ∈ final.pipeline.middleware
        ∧ ¬ RunsOnce entry final := by
  unfold keepsPlace at misplaced
  simp only [phase, not_forall] at misplaced
  obtain ⟨entry, known, stays, hasPre, misplaced⟩ := misplaced
  obtain ⟨more, final, walked, completions, pipeline, begun⟩ := exists_run_handling phase left
  refine ⟨more, final, entry, walked, completions, known, pipeline ▸ stays, fun once => ?_⟩
  have counted := (once.calls.beforeHandler _ [] begun).1
  have whole := List.take_append_drop next state.pipeline.middleware
  rw [hasPre, List.count_append] at counted
  refine misplaced ⟨fun earlier => ?_, fun called => ?_⟩
  · -- The entry is not called from here on, so it has been.
    have later : entry ∉ state.pipeline.middleware.drop next := fun later =>
      List.disjoint_take_drop numbered.nodup le_rfl earlier later
    have absent : .pre entry ∉ preHooks (state.pipeline.middleware.drop next) := fun member =>
      later (mem_preHooks.mp member).1
    rw [List.count_eq_zero.mpr absent, Nat.add_zero] at counted
    have positive : 0 < state.begun.count (.pre entry) := by
      rw [counted]
      exact Nat.one_pos
    exact List.count_pos_iff.mp positive
  · -- The entry has been called, so it is not from here on.
    have positive : 0 < state.begun.count (.pre entry) := List.count_pos_iff.mpr called
    have none : (preHooks (state.pipeline.middleware.drop next)).count (.pre entry) = 0 := by
      simp only [Bool.toNat_true] at counted
      omega
    by_contra later
    have behind : entry ∈ state.pipeline.middleware.drop next := by
      rw [← whole] at stays
      exact (List.mem_append.mp stays).resolve_left later
    exact List.count_eq_zero.mp none (mem_preHooks.mpr ⟨behind, hasPre⟩)

end Axionvera.Pipeline
