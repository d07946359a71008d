import Axionvera.Foundation.BreadthFirst
import Axionvera.Migrations.MigrationRegistry
import Mathlib.Data.Finset.Card

/-! `resolvePath` finds a shortest chain of registered steps whenever there is a chain: its loops
explore the graph of versions breadth first.
-/

namespace Axionvera.Migrations

open Axionvera.Foundation

variable {ω μ : Type}

namespace MigrationRegistry

/-- The versions of a contract with its registered steps as edges. -/
def versionGraph (registry : MigrationRegistry ω μ) (contractId : String)
    : EdgeGraph (MigrationStepDefinition ω μ) String :=
  {
    edges := { step | step ∈ registry.listSteps contractId }
    source := MigrationStepDefinition.fromVersion
    target := MigrationStepDefinition.toVersion
  }

/-- A registered step comes last, and replaces one with the same id. -/
theorem listSteps_register (registry : MigrationRegistry ω μ) (contractId other : String)
    (step : MigrationStepDefinition ω μ)
    : (registry.register contractId step).listSteps other
      = if other = contractId then withoutId (registry.listSteps contractId) step.id ++ [step]
        else registry.listSteps other := by
  unfold register
  rw [listSteps, InsertionMap.get_set]
  split
  · rfl
  · rfl

/-- The bucket of a version holds the edges that leave it, in their order. Witness: induction
on the edges, for any buckets to start with.
-/
theorem edgesByFrom_get (steps : List (MigrationStepDefinition ω μ)) (version : String)
    : ((edgesByFrom steps).get version).getD []
      = steps.filter (fun step => step.fromVersion = version) := by
  have general (buckets : InsertionMap String (List (MigrationStepDefinition ω μ)))
      : ((steps.foldl
            (fun buckets step =>
              buckets.set step.fromVersion ((buckets.get step.fromVersion).getD [] ++ [step]))
            buckets).get version).getD []
        = (buckets.get version).getD []
          ++ steps.filter (fun step => step.fromVersion = version) := by
    induction steps generalizing buckets with
    | nil => simp
    | cons step rest ih =>
        rw [List.foldl_cons, ih, InsertionMap.get_set]
        by_cases same : version = step.fromVersion
        · subst same
          simp
        · have differs : step.fromVersion ≠ version := fun equal => same equal.symm
          simp [same, differs]
  exact general .empty

/-- What the loop over the edges that leave a version adds to the visited versions and the
queue.
-/
structure Follows (path edges : List (MigrationStepDefinition ω μ)) (visited visited' : List String)
    (found : List (String × List (MigrationStepDefinition ω μ))) : Prop where
  extended : visited' = visited ++ found.map Prod.fst
  distinct : (found.map Prod.fst).Nodup
  isNew
    : ∀ entry ∈ found,
        entry.1 ∉ visited ∧ ∃ edge ∈ edges, entry = (edge.toVersion, path ++ [edge])
  complete : ∀ edge ∈ edges, edge.toVersion ∈ visited'

/-- The loop returns the path that an edge to `toVersion` completes. -/
theorem followEdges_inl {toVersion : String} {path edges : List (MigrationStepDefinition ω μ)}
    {visited : List String} {queue : List (String × List (MigrationStepDefinition ω μ))}
    {found : List (MigrationStepDefinition ω μ)}
    (returned : followEdges toVersion path edges visited queue = .inl found)
    : ∃ edge ∈ edges, edge.toVersion = toVersion ∧ found = path ++ [edge] := by
  induction edges generalizing visited queue with
  | nil => cases returned
  | cons edge rest ih =>
      simp only [followEdges] at returned
      split at returned
      · rename_i arrives
        exact ⟨edge, List.mem_cons_self, arrives, (Sum.inl.inj returned).symm⟩
      · obtain ⟨other, member, arrives⟩
            : ∃ other ∈ rest, other.toVersion = toVersion ∧ found = path ++ [other] := by
          split at returned
          · exact ih returned
          · exact ih returned
        exact ⟨other, List.mem_cons_of_mem _ member, arrives⟩

/-- If the loop ends, no edge leads to `toVersion`, and it has added the versions it had not
visited before. Witness: induction on the edges.
-/
theorem followEdges_inr {toVersion : String} {path edges : List (MigrationStepDefinition ω μ)}
    {visited visited' : List String}
    {queue queue' : List (String × List (MigrationStepDefinition ω μ))}
    (ended : followEdges toVersion path edges visited queue = .inr (visited', queue'))
    : (∀ edge ∈ edges, edge.toVersion ≠ toVersion)
      ∧ ∃ found, queue' = queue ++ found ∧ Follows path edges visited visited' found := by
  induction edges generalizing visited queue with
  | nil =>
      obtain ⟨rfl, rfl⟩ := Prod.mk.inj (Sum.inr.inj ended)
      refine ⟨fun _ member => (List.not_mem_nil member).elim, [], by simp, ?_⟩
      exact ⟨by simp, .nil, fun _ member => (List.not_mem_nil member).elim,
        fun _ member => (List.not_mem_nil member).elim⟩
  | cons edge rest ih =>
      simp only [followEdges] at ended
      split at ended
      · cases ended
      · rename_i notYet
        split at ended
        · rename_i seen
          obtain ⟨noneArrives, found, whole, follows⟩ := ih ended
          refine ⟨List.forall_mem_cons.mpr ⟨notYet, noneArrives⟩, found, whole, ?_⟩
          refine ⟨follows.extended, follows.distinct, fun entry member => ?_, ?_⟩
          · obtain ⟨isNew, other, isEdge, same⟩ := follows.isNew entry member
            exact ⟨isNew, other, List.mem_cons_of_mem _ isEdge, same⟩
          · refine List.forall_mem_cons.mpr ⟨?_, follows.complete⟩
            rw [follows.extended]
            exact List.mem_append_left _ seen
        · rename_i unseen
          obtain ⟨noneArrives, found, whole, follows⟩ := ih ended
          refine ⟨List.forall_mem_cons.mpr ⟨notYet, noneArrives⟩,
            (edge.toVersion, path ++ [edge]) :: found, by simp [whole], ?_⟩
          have older {version : String} (isNew : version ∉ visited ++ [edge.toVersion])
              : version ∉ visited ∧ version ≠ edge.toVersion := by
            simpa [not_or] using isNew
          refine ⟨?_, ?_, ?_, ?_⟩
          · rw [follows.extended]
            simp
          · refine List.nodup_cons.mpr ⟨fun again => ?_, follows.distinct⟩
            obtain ⟨entry, member, same⟩ := List.mem_map.mp again
            exact (older (follows.isNew entry member).1).2 same
          · refine List.forall_mem_cons.mpr
              ⟨⟨unseen, edge, List.mem_cons_self, rfl⟩, fun entry member => ?_⟩
            obtain ⟨isNew, other, isEdge, same⟩ := follows.isNew entry member
            exact ⟨(older isNew).1, other, List.mem_cons_of_mem _ isEdge, same⟩
          · refine List.forall_mem_cons.mpr ⟨?_, follows.complete⟩
            rw [follows.extended]
            simp

/-- What the search returns: a shortest chain, or nothing if there is no chain. -/
def IsShortestIfAny (registry : MigrationRegistry ω μ) (contractId fromVersion toVersion : String)
    : Option (List (MigrationStepDefinition ω μ)) → Prop
  | some steps => (registry.versionGraph contractId).Shortest fromVersion steps toVersion
  | none => ∀ steps, ¬ (registry.versionGraph contractId).Chain fromVersion steps toVersion

/-- The versions that the steps of a contract lead to and that have not been visited. -/
def unvisited (registry : MigrationRegistry ω μ) (contractId : String) (visited : List String)
    : Finset String :=
  ((registry.listSteps contractId).map MigrationStepDefinition.toVersion).toFinset
    \ visited.toFinset

/-- With enough fuel for what is queued and unvisited, the search returns a shortest chain if
there is one. Witness: induction on the fuel, where each turn leaves a version in breadth-first
order.
-/
theorem searchPath_isShortestIfAny (registry : MigrationRegistry ω μ)
    (contractId fromVersion toVersion : String) (fuel : Nat) (visited : List String)
    (queue : List (String × List (MigrationStepDefinition ω μ))) (depth : String → Nat)
    (explores
      : (registry.versionGraph contractId).Explores fromVersion toVersion depth
          { version | version ∈ visited } queue)
    (enough : queue.length + (registry.unvisited contractId visited).card < fuel)
    : ∃ found,
        searchPath (edgesByFrom (registry.listSteps contractId)) toVersion fuel visited queue
          = some found
        ∧ registry.IsShortestIfAny contractId fromVersion toVersion found := by
  induction fuel generalizing visited queue depth with
  | zero => exact absurd enough (Nat.not_lt_zero _)
  | succ fuel ih =>
      cases queue with
      | nil => exact ⟨none, rfl, explores.noChain⟩
      | cons head rest =>
          obtain ⟨version, path⟩ := head
          have leaving (edge : MigrationStepDefinition ω μ)
              : edge ∈ ((edgesByFrom (registry.listSteps contractId)).get version).getD []
                ↔ edge ∈ registry.listSteps contractId ∧ edge.fromVersion = version := by
            rw [edgesByFrom_get, List.mem_filter, decide_eq_true_eq]
          simp only [searchPath]
          cases followed
              : followEdges toVersion path
                  (((edgesByFrom (registry.listSteps contractId)).get version).getD []) visited
                  rest with
          | inl steps =>
              obtain ⟨edge, member, arrives, rfl⟩ := followEdges_inl followed
              obtain ⟨isEdge, leaves⟩ := (leaving edge).mp member
              have reached := (explores.found _ List.mem_cons_self).1
              refine ⟨some (path ++ [edge]), rfl, ?_, fun other chain => ?_⟩
              · exact arrives ▸ reached.concat isEdge leaves
              · rw [List.length_append]
                exact explores.shortest chain
          | inr state =>
              obtain ⟨visited', queue'⟩ := state
              obtain ⟨noneArrives, found, rfl, follows⟩ := followEdges_inr followed
              obtain ⟨deeper, further⟩ := explores.leave
                (fun edge isEdge leaves => noneArrives edge ((leaving edge).mpr ⟨isEdge, leaves⟩))
                follows.distinct
                (fun entry member => by
                  obtain ⟨isNew, edge, isEdge, same⟩ := follows.isNew entry member
                  obtain ⟨registered, leaves⟩ := (leaving edge).mp isEdge
                  exact ⟨isNew, edge, registered, leaves, same⟩)
                (fun edge isEdge leaves => by
                  have seen := follows.complete edge ((leaving edge).mpr ⟨isEdge, leaves⟩)
                  rw [follows.extended] at seen
                  exact List.mem_append.mp seen)
              have fewer
                  : (registry.unvisited contractId visited').card + found.length
                    = (registry.unvisited contractId visited).card := by
                rw [unvisited, unvisited, follows.extended, ← List.length_map Prod.fst]
                refine card_unvisited follows.distinct fun other member => ?_
                obtain ⟨entry, isFound, rfl⟩ := List.mem_map.mp member
                obtain ⟨isNew, edge, isEdge, rfl⟩ := follows.isNew entry isFound
                refine ⟨List.mem_toFinset.mpr ?_, isNew⟩
                exact List.mem_map_of_mem ((leaving edge).mp isEdge).1
              have visitedNow
                  : { version | version ∈ visited' }
                    = { version | version ∈ visited }
                      ∪ { version | version ∈ found.map Prod.fst } := by
                rw [follows.extended]
                exact Set.ext fun _ => List.mem_append
              refine ih visited' (rest ++ found) deeper (visitedNow ▸ further) ?_
              · rw [List.length_append]
                rw [List.length_cons] at enough
                omega

/-- `resolvePath` ends, and returns a plan whose steps are registered and lead from
`fromVersion` to `toVersion`, with no shorter chain; it throws `MigrationPathNotFoundError`
exactly when there is no chain.
-/
structure Resolves (registry : MigrationRegistry ω μ) (contractId fromVersion toVersion : String)
    (outcome : Except MigrationPathNotFoundError (MigrationPlan ω μ)) : Prop where
  plan
    : ∀ plan,
        outcome = .ok plan
        → plan.contractId = contractId
          ∧ plan.fromVersion = fromVersion
          ∧ plan.toVersion = toVersion
          ∧ (registry.versionGraph contractId).Shortest fromVersion plan.steps toVersion
          ∧ (plan.steps = [] ↔ fromVersion = toVersion)
  error
    : ∀ error,
        outcome = .error error
        → error = newMigrationPathNotFoundError contractId fromVersion toVersion
  throws_iff
    : (∃ error, outcome = .error error)
      ↔ ¬ ∃ steps, (registry.versionGraph contractId).Chain fromVersion steps toVersion

/-- A chain of no steps leads nowhere else. -/
theorem eq_of_chain_nil {registry : MigrationRegistry ω μ}
    {contractId fromVersion toVersion : String}
    (chain : (registry.versionGraph contractId).Chain fromVersion [] toVersion)
    : fromVersion = toVersion :=
  chain

/-- Path resolution is sound, complete and shortest, for any registered steps and any versions. -/
theorem resolvePath_resolves (registry : MigrationRegistry ω μ)
    (contractId fromVersion toVersion : String)
    : ∃ enough, ∀ fuel ≥ enough, ∃ outcome,
        resolvePath fuel registry contractId fromVersion toVersion = some outcome
        ∧ registry.Resolves contractId fromVersion toVersion outcome := by
  let graph := registry.versionGraph contractId
  by_cases same : fromVersion = toVersion
  · subst same
    have trivialChain : graph.Chain fromVersion [] fromVersion := rfl
    refine ⟨0, fun fuel _ => ⟨_, by rw [resolvePath, if_pos rfl], ?_, ?_, ?_⟩⟩
    · intro plan isPlan
      obtain rfl := Except.ok.inj isPlan
      refine ⟨rfl, rfl, rfl, ⟨trivialChain, fun _ _ => Nat.zero_le _⟩, iff_of_true rfl rfl⟩
    · exact fun _ thrown => nomatch thrown
    · exact iff_of_false (fun ⟨_, thrown⟩ => nomatch thrown) fun none => none ⟨[], trivialChain⟩
  · let start := [(fromVersion, ([] : List (MigrationStepDefinition ω μ)))]
    refine
      ⟨start.length + (registry.unvisited contractId [fromVersion]).card + 1,
      fun fuel atLeast => ?_⟩
    have explores
        : graph.Explores fromVersion toVersion (fun _ => 0)
            { version | version ∈ [fromVersion] } start := by
      have single : { version | version ∈ [fromVersion] } = ({fromVersion} : Set String) :=
        Set.ext fun _ => List.mem_singleton
      exact single ▸ graph.explores_start same
    obtain ⟨found, searched, isShortest⟩ :=
      registry.searchPath_isShortestIfAny contractId fromVersion toVersion fuel [fromVersion]
        start (fun _ => 0) explores atLeast
    rw [resolvePath, if_neg same, searched]
    refine ⟨_, rfl, ?_⟩
    cases found with
    | some steps =>
        have differs : steps ≠ [] := by
          intro empty
          subst empty
          exact same (eq_of_chain_nil isShortest.1)
        refine ⟨?_, fun _ thrown => (nomatch thrown), ?_⟩
        · intro plan isPlan
          obtain rfl := Except.ok.inj isPlan
          exact ⟨rfl, rfl, rfl, isShortest, iff_of_false differs same⟩
        · refine iff_of_false (fun ⟨_, thrown⟩ => nomatch thrown) fun none => ?_
          exact none ⟨steps, isShortest.1⟩
    | none =>
        refine ⟨fun _ isPlan => (nomatch isPlan), ?_, ?_⟩
        · exact fun error thrown => (Except.error.inj thrown).symm
        · refine iff_of_true ⟨_, rfl⟩ fun chained => ?_
          obtain ⟨steps, chain⟩ := chained
          exact isShortest steps chain

end MigrationRegistry

end Axionvera.Migrations
