import Axionvera.Foundation.TransitionSystem
import Axionvera.Pipeline.MiddlewareOrder

/-! The functions that `use` returns. They remove middleware by its name, so one of them removes
its own registration, and that only, exactly while no other registration has the name.
-/

namespace Axionvera.Pipeline

open Axionvera.Foundation

/-- A function returned by `use`: the name that it removes, and the number of the registration
that it was returned for.
-/
structure MiddlewareRegistration where
  name : String
  sequence : Nat
  deriving DecidableEq, Repr

/-- A call of the function. -/
def MiddlewareRegistration.call (unregister : MiddlewareRegistration)
    (pipeline : MiddlewarePipeline) : Bool × MiddlewarePipeline :=
  pipeline.remove unregister.name

/-- A pipeline and the functions that its `use` has returned. -/
structure MiddlewareHandles where
  pipeline : MiddlewarePipeline
  returned : List MiddlewareRegistration

/-- A pipeline without middleware. -/
def MiddlewareHandles.initial : MiddlewareHandles := ⟨.empty, []⟩

/-- A call that changes what is registered. -/
inductive MiddlewareCall where
  | use (middleware : Middleware)
  | remove (name : String)
  | unregister (function : MiddlewareRegistration)
  | clear

/-- One call; only functions that `use` has returned can be called. -/
def middlewareStep (state : MiddlewareHandles) : MiddlewareCall → Option MiddlewareHandles
  | .use middleware =>
      match state.pipeline.use middleware with
      | .error _ => some state
      | .ok pipeline =>
          some ⟨pipeline, state.returned ++ [⟨middleware.name, state.pipeline.nextSequence⟩]⟩
  | .remove name => some { state with pipeline := (state.pipeline.remove name).2 }
  | .unregister function =>
      if function ∈ state.returned then
        some { state with pipeline := (function.call state.pipeline).2 }
      else none
  | .clear => some { state with pipeline := state.pipeline.clear }

/-- (UnregistersItself unregister pipeline) requires a call of the function to remove its own
registration and nothing else, to tell whether it was there, and to do nothing a second time.
-/
structure UnregistersItself (unregister : MiddlewareRegistration) (pipeline : MiddlewarePipeline)
    : Prop where
  removes
    : (unregister.call pipeline).2
      = { pipeline with
          middleware :=
            pipeline.middleware.filter (fun entry => entry.sequence ≠ unregister.sequence) }
  answers
    : (unregister.call pipeline).1 = true
      ↔ ∃ entry ∈ pipeline.middleware, entry.sequence = unregister.sequence
  again
    : unregister.call (unregister.call pipeline).2 = (false, (unregister.call pipeline).2)

/-- (HasNameAlone unregister pipeline) requires no other registration with the function's name to
be registered.
-/
def HasNameAlone (unregister : MiddlewareRegistration) (pipeline : MiddlewarePipeline) : Prop :=
  ∀ entry ∈ pipeline.middleware,
    entry.name = unregister.name → entry.sequence = unregister.sequence

/-- What is registered belongs to functions that were returned, one for each number. -/
structure MiddlewareHandles.Traced (state : MiddlewareHandles) : Prop where
  numbered : state.pipeline.Numbered
  unique : (state.returned.map MiddlewareRegistration.sequence).Nodup
  below : ∀ function ∈ state.returned, function.sequence < state.pipeline.nextSequence
  belongs : ∀ entry ∈ state.pipeline.middleware, ⟨entry.name, entry.sequence⟩ ∈ state.returned

/-- A registered entry with the number of a function has its name. -/
theorem MiddlewareHandles.Traced.name_eq {state : MiddlewareHandles} (traced : state.Traced)
    {function : MiddlewareRegistration} (isReturned : function ∈ state.returned)
    {entry : Registered} (member : entry ∈ state.pipeline.middleware)
    (same : entry.sequence = function.sequence)
    : entry.name = function.name := by
  have equal : (⟨entry.name, entry.sequence⟩ : MiddlewareRegistration) = function :=
    List.inj_on_of_nodup_map traced.unique (traced.belongs entry member) isReturned same
  rw [← equal]

-----------------------------------------------------------------------------------------
-- One call of a function

/-- Where at most one entry passes a test, removing the first one is keeping the others, by
induction on the entries.
-/
private theorem eraseP_eq_filter {α : Type*} {test : α → Bool} {entries : List α}
    (atMostOne : entries.Pairwise (fun left right => ¬(test left = true ∧ test right = true)))
    : entries.eraseP test = entries.filter (fun entry => !test entry) := by
  induction entries with
  | nil => rfl
  | cons entry rest ih =>
      obtain ⟨others, later⟩ := List.pairwise_cons.mp atMostOne
      by_cases passes : test entry = true
      · have noOther : ∀ other ∈ rest, !test other := by
          intro other member
          simpa [passes] using others other member
        rw [List.eraseP_cons_of_pos passes, List.filter_cons_of_neg (by simp [passes]),
          List.filter_eq_self.mpr noOther]
      · rw [List.eraseP_cons_of_neg passes, List.filter_cons_of_pos (by simp [passes]), ih later]

/-- A function whose name is registered for it alone removes its own registration, by its name
and its number being the same test.
-/
theorem unregistersItself_of_hasNameAlone {state : MiddlewareHandles} (traced : state.Traced)
    {unregister : MiddlewareRegistration} (isReturned : unregister ∈ state.returned)
    (alone : HasNameAlone unregister state.pipeline)
    : UnregistersItself unregister state.pipeline := by
  have sameTest
      : ∀ entry ∈ state.pipeline.middleware,
          entry.name = unregister.name ↔ entry.sequence = unregister.sequence :=
    fun entry member => ⟨alone entry member, traced.name_eq isReturned member⟩
  have atMostOne
      : state.pipeline.middleware.Pairwise (fun left right =>
          ¬(decide (left.name = unregister.name) = true
            ∧ decide (right.name = unregister.name) = true)) := by
    have distinct := List.pairwise_map.mp traced.numbered.unique
    refine distinct.imp_of_mem fun {left right} isLeft isRight differ both => differ ?_
    simp only [decide_eq_true_eq, sameTest left isLeft, sameTest right isRight] at both
    exact both.1.trans both.2.symm
  have removed
      : (unregister.call state.pipeline).2.middleware
        = state.pipeline.middleware.filter
            (fun entry => entry.sequence ≠ unregister.sequence) := by
    refine (eraseP_eq_filter atMostOne).trans (List.filter_congr fun entry member => ?_)
    simp [sameTest entry member]
  refine ⟨?_, ?_, ?_⟩
  · rw [← removed]
    rfl
  · simp only [MiddlewareRegistration.call, MiddlewarePipeline.remove, List.any_eq_true,
      decide_eq_true_eq]
    exact exists_congr fun entry => and_congr_right (sameTest entry)
  · have noneLeft
        : ∀ entry ∈ (unregister.call state.pipeline).2.middleware,
            ¬ decide (entry.name = unregister.name) = true := by
      intro entry member
      rw [removed, List.mem_filter] at member
      simpa [sameTest entry member.1] using member.2
    refine Prod.ext ?_ ?_
    · exact List.any_eq_false.mpr noneLeft
    · exact congrArg (MiddlewarePipeline.mk · state.pipeline.nextSequence)
        (List.eraseP_of_forall_not noneLeft)

/-- A function that removes its own registration, and nothing when called again, has its name
alone. Witness: another entry with the name would be left by the first call and removed by the
second.
-/
theorem hasNameAlone_of_unregistersItself {unregister : MiddlewareRegistration}
    {pipeline : MiddlewarePipeline} (itself : UnregistersItself unregister pipeline)
    : HasNameAlone unregister pipeline := by
  intro entry member named
  by_contra isOther
  have isLeft : entry ∈ (unregister.call pipeline).2.middleware := by
    rw [itself.removes]
    exact List.mem_filter.mpr ⟨member, decide_eq_true isOther⟩
  have found : (unregister.call (unregister.call pipeline).2).1 = true :=
    List.any_eq_true.mpr ⟨entry, isLeft, decide_eq_true named⟩
  rw [itself.again] at found
  cases found

/-- A returned function removes its own registration exactly if its name is registered for it
alone.
-/
theorem unregistersItself_iff_hasNameAlone {state : MiddlewareHandles} (traced : state.Traced)
    {unregister : MiddlewareRegistration} (isReturned : unregister ∈ state.returned)
    : UnregistersItself unregister state.pipeline ↔ HasNameAlone unregister state.pipeline :=
  ⟨hasNameAlone_of_unregistersItself, unregistersItself_of_hasNameAlone traced isReturned⟩

-----------------------------------------------------------------------------------------
-- Runs of calls

/-- (RegistersNewName state call) requires middleware to be registered under a name for which
`use` has returned no function before; with an empty name it throws.
-/
def RegistersNewName (state : MiddlewareHandles) : MiddlewareCall → Prop
  | .use middleware =>
      middleware.name = "" ∨ ∀ function ∈ state.returned, function.name ≠ middleware.name
  | .remove _ | .unregister _ | .clear => True

/-- What a call of `use` leads to: it throws for an empty name. -/
theorem use_cases (pipeline : MiddlewarePipeline) (middleware : Middleware)
    : (middleware.name = "" ∧ ∃ message, pipeline.use middleware = .error message)
      ∨ (middleware.name ≠ ""
        ∧ ∃ entry : Registered,
            entry.name = middleware.name
            ∧ entry.sequence = pipeline.nextSequence
            ∧ pipeline.use middleware
              = .ok
                  ⟨sortMiddleware (pipeline.middleware ++ [entry]), pipeline.nextSequence + 1⟩)
    := by
  unfold MiddlewarePipeline.use
  by_cases isEmpty : middleware.name = ""
  · exact .inl ⟨isEmpty, _, if_pos isEmpty⟩
  · exact .inr ⟨isEmpty, _, rfl, rfl, if_neg isEmpty⟩

/-- What a call does: it registers an entry with the next number, for the function that it
returns, or it leaves part of what is registered.
-/
theorem middlewareStep_cases {state next : MiddlewareHandles} {call : MiddlewareCall}
    (taken : middlewareStep state call = some next)
    : (∃ (middleware : Middleware) (entry : Registered),
        call = .use middleware
        ∧ middleware.name ≠ ""
        ∧ entry.name = middleware.name
        ∧ entry.sequence = state.pipeline.nextSequence
        ∧ next.pipeline = state.pipeline.register (.use middleware)
        ∧ next.pipeline
          = ⟨sortMiddleware (state.pipeline.middleware ++ [entry]),
              state.pipeline.nextSequence + 1⟩
        ∧ next.returned = state.returned ++ [⟨entry.name, entry.sequence⟩])
      ∨ (RegistersNewName state call
        ∧ next.pipeline.middleware.Sublist state.pipeline.middleware
        ∧ next.pipeline.nextSequence = state.pipeline.nextSequence
        ∧ next.returned = state.returned) := by
  cases call with
  | use middleware =>
      rcases use_cases state.pipeline middleware with
        ⟨isEmpty, message, failed⟩ | ⟨notEmpty, entry, named, number, used⟩
      · simp only [middlewareStep, failed] at taken
        obtain rfl := Option.some.inj taken
        exact .inr ⟨.inl isEmpty, .refl _, rfl, rfl⟩
      · simp only [middlewareStep, used] at taken
        obtain rfl := Option.some.inj taken
        refine .inl ⟨middleware, entry, rfl, notEmpty, named, number, ?_, rfl, ?_⟩
        swap
        · rw [named, number]
        rw [MiddlewarePipeline.register, used]
        rfl
  | remove name =>
      obtain rfl := Option.some.inj taken
      exact .inr ⟨trivial, List.eraseP_sublist, rfl, rfl⟩
  | unregister function =>
      simp only [middlewareStep] at taken
      split at taken
      · obtain rfl := Option.some.inj taken
        exact .inr ⟨trivial, List.eraseP_sublist, rfl, rfl⟩
      · cases taken
  | clear =>
      obtain rfl := Option.some.inj taken
      exact .inr ⟨trivial, List.nil_sublist _, rfl, rfl⟩

/-- A call keeps registrations traced to the functions that were returned for them. -/
theorem MiddlewareHandles.Traced.step {state next : MiddlewareHandles} {call : MiddlewareCall}
    (traced : state.Traced) (taken : middlewareStep state call = some next)
    : next.Traced := by
  rcases middlewareStep_cases taken with
    ⟨middleware, entry, _, _, _, number, registered, isNext, returned⟩
    | ⟨_, part, number, returned⟩
  · refine ⟨registered ▸ traced.numbered.register (.use middleware), ?_, ?_, ?_⟩
    · rw [returned, List.map_append, List.map_singleton, ← List.concat_eq_append,
        List.nodup_concat]
      refine ⟨fun member => ?_, traced.unique⟩
      obtain ⟨function, isReturned, same⟩ := List.mem_map.mp member
      have := traced.below function isReturned
      simp only [same, number] at this
      omega
    · intro function member
      have isBelow : function.sequence ≤ state.pipeline.nextSequence := by
        rw [returned] at member
        rcases List.mem_append.mp member with old | new
        · exact (traced.below function old).le
        · rw [List.mem_singleton.mp new, number]
      rw [isNext]
      exact Nat.lt_succ_of_le isBelow
    · intro other member
      rw [isNext] at member
      rw [returned]
      rcases List.mem_append.mp (List.mem_mergeSort.mp member) with old | new
      · exact List.mem_append_left _ (traced.belongs other old)
      · rw [List.mem_singleton.mp new]
        exact List.mem_append_right _ (List.mem_singleton.mpr rfl)
  · refine ⟨⟨traced.numbered.unique.sublist (part.map _), fun entry member => ?_⟩, ?_, ?_, ?_⟩
    · rw [number]
      exact traced.numbered.below entry (part.subset member)
    · rw [returned]
      exact traced.unique
    · rw [returned, number]
      exact traced.below
    · rw [returned]
      exact fun entry member => traced.belongs entry (part.subset member)

/-- No function was returned at the beginning. -/
theorem initial_traced : MiddlewareHandles.initial.Traced :=
  ⟨registered_numbered [], List.nodup_nil, nofun, nofun⟩

/-- (AllUnregisterThemselves state) requires all returned functions to remove their own
registration.
-/
def AllUnregisterThemselves (state : MiddlewareHandles) : Prop :=
  ∀ function ∈ state.returned, UnregistersItself function state.pipeline

/-- While all functions remove their own registration, a call keeps it so exactly if it registers
no name for the second time. Witness: a name registered again is not the older function's alone.
-/
theorem registersNewName_iff {state next : MiddlewareHandles} {call : MiddlewareCall}
    (taken : middlewareStep state call = some next) (traced : state.Traced)
    (good : AllUnregisterThemselves state)
    : RegistersNewName state call ↔ AllUnregisterThemselves next := by
  have alone : ∀ function ∈ state.returned, HasNameAlone function state.pipeline :=
    fun function member => hasNameAlone_of_unregistersItself (good function member)
  have nextTraced := traced.step taken
  rcases middlewareStep_cases taken with
    ⟨middleware, entry, rfl, notEmpty, named, number, _, isNext, returned⟩
    | ⟨allowed, part, _, returned⟩
  · have isAdded : entry ∈ next.pipeline.middleware := by
      rw [isNext]
      exact List.mem_mergeSort.mpr (List.mem_append_right _ (List.mem_singleton.mpr rfl))
    constructor
    · intro newName function member
      have fresh := newName.resolve_left notEmpty
      refine unregistersItself_of_hasNameAlone nextTraced member fun other isOther same => ?_
      rw [isNext] at isOther
      rw [returned] at member
      rcases List.mem_append.mp (List.mem_mergeSort.mp isOther) with oldEntry | newEntry
      · rcases List.mem_append.mp member with oldFunction | newFunction
        · exact alone function oldFunction other oldEntry same
        · obtain rfl := List.mem_singleton.mp newFunction
          exact absurd (same.trans named) (fresh _ (traced.belongs other oldEntry))
      · obtain rfl := List.mem_singleton.mp newEntry
        rcases List.mem_append.mp member with oldFunction | newFunction
        · exact absurd (same.symm.trans named) (fresh function oldFunction)
        · rw [List.mem_singleton.mp newFunction]
    · intro goodNext
      refine .inr fun function member sameName => ?_
      have stillReturned : function ∈ next.returned := returned ▸ List.mem_append_left _ member
      have sameNumber :=
        hasNameAlone_of_unregistersItself (goodNext function stillReturned) entry isAdded
          (named.trans sameName.symm)
      have isBelow := traced.below function member
      omega
  · refine ⟨fun _ function member => ?_, fun _ => allowed⟩
    refine unregistersItself_of_hasNameAlone nextTraced member fun entry isEntry same => ?_
    exact alone function (returned ▸ member) entry (part.subset isEntry) same

/-- In every state that calls lead to, the function of a registration removes that registration
and nothing else, tells whether it was there and is idempotent, exactly if no other registration
with its name is registered; and this is so for all functions in all states of a run exactly if
the run registers no name twice.
-/
theorem unregisters_itself_iff {calls : List MiddlewareCall} {state : MiddlewareHandles}
    (reached : run middlewareStep .initial calls = some state)
    : (∀ function ∈ state.returned,
        UnregistersItself function state.pipeline ↔ HasNameAlone function state.pipeline)
      ∧ ((∀ front middle,
            front <+: calls
            → run middlewareStep .initial front = some middle
            → AllUnregisterThemselves middle)
          ↔ stepsSatisfy middlewareStep RegistersNewName .initial calls) := by
  constructor
  · have traced : state.Traced :=
      run_preserves (fun _ _ _ taken traced => MiddlewareHandles.Traced.step traced taken)
        initial_traced reached
    exact fun function isReturned => unregistersItself_iff_hasNameAlone traced isReturned
  · have unconditional
        : stepsSatisfy middlewareStep (fun _ _ => True) MiddlewareHandles.initial calls :=
      stepsSatisfy_of_forall_mem _ fun _ _ _ => trivial
    exact forall_prefix_iff_stepsSatisfy
      (fun _ _ _ _ taken traced _ _ => MiddlewareHandles.Traced.step traced taken)
      (fun _ _ _ _ taken traced good => registersNewName_iff taken traced good)
      initial_traced nofun unconditional reached

/-- Middleware with a name and nothing else. -/
private def logger : Middleware := { name := "logger" }

/-- The entry of a registration of it. -/
private def loggerEntry (sequence : Nat) : Registered :=
  ⟨"logger", .finite 0, false, false, false, sequence⟩

/-- Middleware that is registered once is unregistered by its function. -/
theorem single_registration_unregisters_itself
    : UnregistersItself ⟨"logger", 0⟩ ⟨sortMiddleware [loggerEntry 0], 1⟩ := by
  have reached
      : run middlewareStep .initial [.use logger]
        = some ⟨⟨sortMiddleware [loggerEntry 0], 1⟩, [⟨"logger", 0⟩]⟩ :=
    rfl
  have alone : HasNameAlone ⟨"logger", 0⟩ ⟨sortMiddleware [loggerEntry 0], 1⟩ := by
    intro entry member _
    rw [List.mem_singleton.mp (List.mem_mergeSort.mp member)]
    rfl
  exact ((unregisters_itself_iff reached).1 _ (List.mem_singleton.mpr rfl)).mpr alone

/-- When middleware is registered twice under one name, the functions do not remove just their own
registration.
-/
theorem second_registration_with_name_is_taken
    : ¬ ∀ calls state,
        run middlewareStep .initial calls = some state → AllUnregisterThemselves state := by
  intro always
  have good := always [.use logger, .use logger] _ rfl ⟨"logger", 0⟩ List.mem_cons_self
  have sameNumber :=
    hasNameAlone_of_unregistersItself good (loggerEntry 1)
      (List.mem_mergeSort.mpr (List.mem_append_right _ (List.mem_singleton.mpr rfl))) rfl
  cases sameNumber

end Axionvera.Pipeline
