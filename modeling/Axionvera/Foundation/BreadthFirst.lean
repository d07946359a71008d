import Mathlib.Data.Finset.Card
import Mathlib.Data.Set.Insert

/-! Chains of edges in directed graphs with parallel edges, and what breadth-first exploration
knows about them at any moment.
-/

namespace Axionvera.Foundation

/-- A directed graph, which may have parallel edges, loops and cycles. -/
structure EdgeGraph (ε ν : Type*) where
  edges : Set ε
  source : ε → ν
  target : ε → ν

namespace EdgeGraph

variable {ε ν : Type*} (graph : EdgeGraph ε ν)

/-- The edges lead from the first vertex to the last, one after another. -/
def Chain : ν → List ε → ν → Prop
  | first, [], last => first = last
  | first, edge :: rest, last =>
      edge ∈ graph.edges ∧ graph.source edge = first ∧ Chain (graph.target edge) rest last

/-- A chain can be extended at its end, by induction on it. -/
theorem Chain.concat {graph : EdgeGraph ε ν} {first last : ν} {path : List ε} {edge : ε}
    (chain : graph.Chain first path last) (isEdge : edge ∈ graph.edges)
    (leaves : graph.source edge = last)
    : graph.Chain first (path ++ [edge]) (graph.target edge) := by
  induction path generalizing first with
  | nil => exact ⟨isEdge, leaves.trans chain.symm, rfl⟩
  | cons head rest ih => exact ⟨chain.1, chain.2.1, ih chain.2.2⟩

/-- The edges are a chain from the first vertex to the last that has as few edges as possible. -/
def Shortest (first : ν) (path : List ε) (last : ν) : Prop :=
  graph.Chain first path last
  ∧ ∀ other, graph.Chain first other last → path.length ≤ other.length

/-- Breadth-first exploration from a vertex before it has seen its goal: the vertices it has
visited, at which depths, and those it still has to leave, with the paths on which they were
found.
-/
structure Explores (start goal : ν) (depth : ν → Nat) (visited : Set ν)
    (pending : List (ν × List ε)) : Prop where
  startVisited : start ∈ visited
  startDepth : depth start = 0
  goalUnseen : goal ∉ visited
  distinct : (pending.map Prod.fst).Nodup
  pendingVisited : ∀ entry ∈ pending, entry.1 ∈ visited
  found : ∀ entry ∈ pending, graph.Chain start entry.2 entry.1 ∧ entry.2.length = depth entry.1
  ordered : pending.Pairwise (fun earlier later => depth earlier.1 ≤ depth later.1)
  nextLevel : ∀ head ∈ pending.head?, ∀ vertex ∈ visited, depth vertex ≤ depth head.1 + 1
  left
    : ∀ edge ∈ graph.edges,
        graph.source edge ∈ visited
        → graph.source edge ∉ pending.map Prod.fst
        → graph.target edge ∈ visited
          ∧ depth (graph.target edge) ≤ depth (graph.source edge) + 1

/-- Exploration begins at the start. -/
theorem explores_start {start goal : ν} (differs : start ≠ goal)
    : graph.Explores start goal (fun _ => 0) {start} [(start, [])] where
  startVisited := rfl
  startDepth := rfl
  goalUnseen := fun same => differs same.symm
  distinct := List.nodup_singleton start
  pendingVisited entry member := by
    obtain rfl := List.mem_singleton.mp member
    exact rfl
  found entry member := by
    obtain rfl := List.mem_singleton.mp member
    exact ⟨rfl, rfl⟩
  ordered := List.pairwise_singleton _ _
  nextLevel _ _ _ _ := Nat.zero_le _
  left edge _ isStart notPending := absurd (List.mem_singleton.mpr isStart) notPending

variable {graph} {start goal : ν} {depth : ν → Nat} {visited : Set ν}
  {pending : List (ν × List ε)}

/-- Every chain to the goal from a visited vertex passes a pending one, whose depth grows by at
most one with each edge up to there. Witness: induction on the chain, since a vertex that is
not pending has all its successors visited.
-/
theorem Explores.passes (explores : graph.Explores start goal depth visited pending)
    {first : ν} {path : List ε} (chain : graph.Chain first path goal) (seen : first ∈ visited)
    : ∃ entry ∈ pending, depth entry.1 + 1 ≤ depth first + path.length := by
  induction path generalizing first with
  | nil =>
      obtain rfl : first = goal := chain
      exact absurd seen explores.goalUnseen
  | cons edge rest ih =>
      obtain ⟨isEdge, rfl, later⟩ := chain
      rw [List.length_cons]
      by_cases isPending : graph.source edge ∈ pending.map Prod.fst
      · obtain ⟨entry, member, same⟩ := List.mem_map.mp isPending
        exact ⟨entry, member, by rw [same]; omega⟩
      · obtain ⟨targetSeen, step⟩ := explores.left edge isEdge seen isPending
        obtain ⟨entry, member, bound⟩ := ih later targetSeen
        exact ⟨entry, member, by omega⟩

/-- With nothing pending, no chain leads to the goal. -/
theorem Explores.noChain (explores : graph.Explores start goal depth visited [])
    (path : List ε)
    : ¬ graph.Chain start path goal := by
  intro chain
  obtain ⟨_, member, _⟩ := explores.passes chain explores.startVisited
  exact absurd member List.not_mem_nil

/-- A chain to the goal is longer than the path of the vertex that is next to be left. -/
theorem Explores.shortest {head : ν × List ε} {rest : List (ν × List ε)}
    (explores : graph.Explores start goal depth visited (head :: rest)) {path : List ε}
    (chain : graph.Chain start path goal)
    : head.2.length + 1 ≤ path.length := by
  obtain ⟨entry, member, bound⟩ := explores.passes chain explores.startVisited
  rw [explores.startDepth] at bound
  have headDepth := (explores.found head List.mem_cons_self).2
  rcases List.mem_cons.mp member with rfl | later
  · omega
  · have ordered := (List.pairwise_cons.mp explores.ordered).1 entry later
    omega

/-- Leaving a vertex visits those of its successors that have not been visited, none of which
is the goal. Witness: they lie one level deeper, and nothing visited lies deeper than that.
-/
theorem Explores.leave {head : ν × List ε} {rest found : List (ν × List ε)}
    (explores : graph.Explores start goal depth visited (head :: rest))
    (noGoal : ∀ edge ∈ graph.edges, graph.source edge = head.1 → graph.target edge ≠ goal)
    (distinct : (found.map Prod.fst).Nodup)
    (isNew
      : ∀ entry ∈ found,
          entry.1 ∉ visited
          ∧ ∃ edge ∈ graph.edges,
              graph.source edge = head.1 ∧ entry = (graph.target edge, head.2 ++ [edge]))
    (complete
      : ∀ edge ∈ graph.edges,
          graph.source edge = head.1
          → graph.target edge ∈ visited ∨ graph.target edge ∈ found.map Prod.fst)
    : ∃ deeper,
        graph.Explores start goal deeper (visited ∪ { vertex | vertex ∈ found.map Prod.fst })
          (rest ++ found) := by
  classical
  let deeper (vertex : ν) : Nat :=
    if vertex ∈ found.map Prod.fst then head.2.length + 1 else depth vertex
  obtain ⟨headChain, headDepth⟩ := explores.found head List.mem_cons_self
  obtain ⟨headNew, restDistinct⟩ := List.nodup_cons.mp explores.distinct
  obtain ⟨headFirst, restOrdered⟩ := List.pairwise_cons.mp explores.ordered
  have unvisited {vertex : ν} (isFound : vertex ∈ found.map Prod.fst) : vertex ∉ visited := by
    obtain ⟨entry, member, rfl⟩ := List.mem_map.mp isFound
    exact (isNew entry member).1
  have older {vertex : ν} (seen : vertex ∈ visited) : deeper vertex = depth vertex :=
    if_neg fun isFound => unvisited isFound seen
  have newer {vertex : ν} (isFound : vertex ∈ found.map Prod.fst)
      : deeper vertex = head.2.length + 1 :=
    if_pos isFound
  have restSeen {entry : ν × List ε} (member : entry ∈ rest) : entry.1 ∈ visited :=
    explores.pendingVisited entry (List.mem_cons_of_mem _ member)
  -- Everything visited lies at most one level below the vertex that is left.
  have bounded {vertex : ν} (seen : vertex ∈ visited) : depth vertex ≤ head.2.length + 1 :=
    headDepth ▸ explores.nextLevel head rfl vertex seen
  refine ⟨deeper, ?_⟩
  constructor
  case startVisited => exact .inl explores.startVisited
  case startDepth => rw [older explores.startVisited, explores.startDepth]
  case goalUnseen =>
    intro inEither
    rcases inEither with seen | isFound
    · exact explores.goalUnseen seen
    · obtain ⟨entry, member, same⟩ := List.mem_map.mp isFound
      obtain ⟨_, edge, isEdge, leaves, rfl⟩ := isNew entry member
      exact noGoal edge isEdge leaves same
  case distinct =>
    rw [List.map_append]
    refine List.nodup_append.mpr ⟨restDistinct, distinct, fun vertex inRest other isFound => ?_⟩
    obtain ⟨entry, member, rfl⟩ := List.mem_map.mp inRest
    exact fun same => unvisited (same ▸ isFound) (restSeen member)
  case pendingVisited =>
    intro entry member
    rcases List.mem_append.mp member with old | new
    · exact .inl (restSeen old)
    · exact .inr (List.mem_map_of_mem new)
  case found =>
    intro entry member
    rcases List.mem_append.mp member with old | new
    · have whole := explores.found entry (List.mem_cons_of_mem _ old)
      exact ⟨whole.1, whole.2.trans (older (restSeen old)).symm⟩
    · rw [newer (List.mem_map_of_mem new)]
      obtain ⟨_, edge, isEdge, leaves, rfl⟩ := isNew entry new
      exact ⟨headChain.concat isEdge leaves, by simp⟩
  case ordered =>
    refine List.pairwise_append.mpr ⟨?_, ?_, ?_⟩
    · refine restOrdered.imp_of_mem fun first second le => ?_
      rwa [older (restSeen first), older (restSeen second)]
    · refine List.pairwise_of_forall_mem_list fun first isFirst second isSecond => ?_
      rw [newer (List.mem_map_of_mem isFirst), newer (List.mem_map_of_mem isSecond)]
    · intro earlier old later new
      rw [older (restSeen old), newer (List.mem_map_of_mem new)]
      exact bounded (restSeen old)
  case nextLevel =>
    intro next isNext vertex seen
    have lower : head.2.length ≤ deeper next.1 := by
      have member : next ∈ rest ++ found := List.mem_of_mem_head? isNext
      rcases List.mem_append.mp member with old | new
      · rw [older (restSeen old), headDepth]
        exact headFirst next old
      · rw [newer (List.mem_map_of_mem new)]
        exact Nat.le_succ _
    have upper : deeper vertex ≤ head.2.length + 1 := by
      rcases seen with old | new
      · exact (older old).le.trans (bounded old)
      · exact (newer new).le
    omega
  case left =>
    intro edge isEdge seen notPending
    rw [List.map_append, List.mem_append, not_or] at notPending
    have sourceSeen : graph.source edge ∈ visited := seen.resolve_right notPending.2
    rw [older sourceSeen]
    by_cases isHead : graph.source edge = head.1
    · rw [isHead, ← headDepth]
      rcases complete edge isEdge isHead with targetSeen | isFound
      · exact ⟨.inl targetSeen, (older targetSeen).le.trans (bounded targetSeen)⟩
      · exact ⟨.inr isFound, (newer isFound).le⟩
    · have notWaiting : graph.source edge ∉ (head :: rest).map Prod.fst := by
        rw [List.map_cons, List.mem_cons, not_or]
        exact ⟨isHead, notPending.1⟩
      obtain ⟨targetSeen, step⟩ := explores.left edge isEdge sourceSeen notWaiting
      exact ⟨.inl targetSeen, (older targetSeen).le.trans step⟩

end EdgeGraph

/-- Each vertex that is found takes one off those of a finite set that are not visited yet. -/
theorem card_unvisited {ν : Type*} [DecidableEq ν] {vertices : Finset ν} {visited found : List ν}
    (distinct : found.Nodup) (isNew : ∀ vertex ∈ found, vertex ∈ vertices ∧ vertex ∉ visited)
    : (vertices \ (visited ++ found).toFinset).card + found.length
      = (vertices \ visited.toFinset).card := by
  have inside : found.toFinset ⊆ vertices \ visited.toFinset := by
    intro vertex member
    simpa using isNew vertex (List.mem_toFinset.mp member)
  rw [List.toFinset_append, ← Finset.sup_eq_union, ← sdiff_sdiff_left,
    ← List.toFinset_card_of_nodup distinct]
  exact Finset.card_sdiff_add_card_eq_card inside

end Axionvera.Foundation
