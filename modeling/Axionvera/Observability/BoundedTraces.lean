import Axionvera.Foundation.DecimalNumber
import Axionvera.Foundation.TransitionSystem
import Axionvera.Observability.Tracer

/-! How many spans a tracer keeps: when the bound on its memory holds in all states of a run. -/

namespace Axionvera.Observability

open Axionvera.Foundation

/-- The bound on the memory of a tracer: no span is both active and completed, the completed ones
are not more than allowed, and neither are all together, unless so many are active.
-/
structure MemoryBounded (tracer : Tracer) : Prop where
  disjoint
    : ∀ id, tracer.activeSpans.has id = true → tracer.spans.has id = false
  completed : tracer.spans.entries.length ≤ tracer.maxSpans
  all
    : tracer.activeSpans.entries.length + tracer.spans.entries.length
      ≤ max tracer.maxSpans tracer.activeSpans.entries.length

/-- The action leaves each span active that it does not end, unless it clears all. -/
def keepsActive (tracer : Tracer) (action : TracerAction) : Prop :=
  ∀ id,
    tracer.activeSpans.has id = true
    → (∀ now, action ≠ .endSpan now id)
    → action ≠ .clear
    → (tracer.perform action).activeSpans.has id = true

/-- The action ends an active span while more spans are active than may be kept. -/
def endsAboveLimit (tracer : Tracer) : TracerAction → Prop
  | .endSpan _ spanId =>
      tracer.activeSpans.has spanId = true
      ∧ tracer.maxSpans < tracer.activeSpans.entries.length
  | _ => False

/-- The ids of spans are those of numbers that were counted, and no span is both active and
completed.
-/
structure Numbered (tracer : Tracer) : Prop where
  counted
    : ∀ id,
        tracer.activeSpans.has id = true ∨ tracer.spans.has id = true
        → ∃ number ≤ tracer.spanCounter, id = spanId number
  disjoint : ∀ id, tracer.activeSpans.has id = true → tracer.spans.has id = false

-----------------------------------------------------------------------------------------
-- What each action does
-----------------------------------------------------------------------------------------

/-- Different numbers are different ids, by reading their digits. -/
theorem spanId_injective : Function.Injective spanId := by
  intro first second same
  have texts := congrArg String.toList same
  exact toDigits_injective (by simpa [spanId] using texts)

/-- Of some entries one is the oldest, by induction on them from their end. -/
theorem exists_oldestEntry {entries : List (String × TraceSpan)} (some : entries ≠ [])
    : ∃ oldest ∈ entries, Tracer.oldestEntry entries = .some oldest := by
  induction entries using List.reverseRecOn with
  | nil => exact absurd rfl some
  | append_singleton entries entry ih =>
      rw [Tracer.oldestEntry, List.foldl_append, List.foldl_cons, List.foldl_nil]
      by_cases isFirst : entries = []
      · subst isFirst
        exact ⟨entry, by simp, rfl⟩
      · obtain ⟨earliest, member, found⟩ := ih isFirst
        rw [Tracer.oldestEntry] at found
        rw [found]
        dsimp only
        split_ifs
        · exact ⟨entry, by simp, rfl⟩
        · exact ⟨earliest, List.mem_append_left _ member, rfl⟩

/-- (Evicted tracer next) requires one completed span to be missing, if there were any, and nothing
else to have changed.
-/
structure Evicted (tracer next : Tracer) : Prop where
  active : next.activeSpans = tracer.activeSpans
  maxSpans : next.maxSpans = tracer.maxSpans
  spanCounter : next.spanCounter = tracer.spanCounter
  fewer : ∀ id, next.spans.has id = true → tracer.spans.has id = true
  length : next.spans.entries.length = tracer.spans.entries.length - 1

/-- Evicting does this. -/
theorem evicted_evictOldest (tracer : Tracer) : Evicted tracer tracer.evictOldest := by
  unfold Tracer.evictOldest
  by_cases some : tracer.spans.entries = []
  · rw [some]
    exact ⟨rfl, rfl, rfl, fun _ => id, by simp [Tracer.oldestEntry, some]⟩
  · obtain ⟨oldest, member, found⟩ := exists_oldestEntry some
    rw [found]
    have isThere : tracer.spans.has oldest.1 = true :=
      InsertionMap.has_iff.mpr ⟨oldest.2, InsertionMap.get_eq_some_iff.mpr member⟩
    have size := tracer.spans.length_delete oldest.1
    rw [if_pos isThere] at size
    refine ⟨rfl, rfl, rfl, fun id stays => ?_, Nat.eq_sub_of_add_eq size⟩
    rw [InsertionMap.has_delete, Bool.and_eq_true] at stays
    exact stays.2

/-- The tracer with one more active span. -/
def Tracer.withStarted (tracer : Tracer) (span : TraceSpan) : Tracer :=
  {
    tracer with
    spanCounter := tracer.spanCounter + 1
    activeSpans := tracer.activeSpans.set (spanId (tracer.spanCounter + 1)) span
  }

/-- What becomes of a tracer when a span is started: nothing, or there is one more active span, and
one completed span less if there are too many.
-/
theorem startSpan_cases (tracer : Tracer) (now : Int) (name : String)
    (tags : InsertionMap String String) (parentId : Option String)
    : (tracer.startSpan now name tags parentId).2 = tracer
      ∨ ∃ span,
          let started := tracer.withStarted span
          let count := started.activeSpans.entries.length + started.spans.entries.length
          (count ≤ tracer.maxSpans ∧ (tracer.startSpan now name tags parentId).2 = started)
          ∨ (tracer.maxSpans < count
              ∧ Evicted started (tracer.startSpan now name tags parentId).2) := by
  unfold Tracer.startSpan
  split_ifs with isOff
  · exact .inl rfl
  · refine .inr ⟨⟨spanId (tracer.spanCounter + 1), name, now, none, none, tags, parentId⟩, ?_⟩
    dsimp only
    split_ifs with isFull
    · exact .inr ⟨isFull, evicted_evictOldest _⟩
    · exact .inl ⟨Nat.not_lt.mp isFull, rfl⟩

variable {tracer : Tracer}

/-- A new id is not in use. -/
theorem Numbered.unused (numbered : Numbered tracer)
    : tracer.activeSpans.has (spanId (tracer.spanCounter + 1)) = false
      ∧ tracer.spans.has (spanId (tracer.spanCounter + 1)) = false := by
  have notCounted
      : ¬ ∃ number ≤ tracer.spanCounter, spanId (tracer.spanCounter + 1) = spanId number := by
    rintro ⟨number, counted, same⟩
    have isNext := spanId_injective same
    omega
  constructor <;> refine Bool.eq_false_iff.mpr fun isThere => notCounted ?_
  · exact numbered.counted _ (.inl isThere)
  · exact numbered.counted _ (.inr isThere)

/-- Spans stay numbered when one is started. -/
theorem Numbered.withStarted (numbered : Numbered tracer) (span : TraceSpan)
    : Numbered (tracer.withStarted span) := by
  constructor
  case counted =>
    intro id present
    simp only [Tracer.withStarted, InsertionMap.has_set, Bool.or_eq_true, decide_eq_true_eq]
      at present
    rw [or_assoc] at present
    rcases present with isNew | isOld
    · exact ⟨tracer.spanCounter + 1, le_rfl, isNew⟩
    · obtain ⟨number, counted, isNumber⟩ := numbered.counted id isOld
      exact ⟨number, Nat.le_succ_of_le counted, isNumber⟩
  case disjoint =>
    intro id present
    simp only [Tracer.withStarted, InsertionMap.has_set, Bool.or_eq_true, decide_eq_true_eq]
      at present ⊢
    rcases present with rfl | isOld
    · exact numbered.unused.2
    · exact numbered.disjoint id isOld

/-- Spans stay numbered when one is evicted. -/
theorem Numbered.evicted {next : Tracer} (numbered : Numbered tracer)
    (evicted : Evicted tracer next)
    : Numbered next := by
  constructor
  case counted =>
    intro id present
    rw [evicted.spanCounter]
    rw [evicted.active] at present
    exact numbered.counted id (present.imp_right (evicted.fewer id))
  case disjoint =>
    intro id isActive
    rw [evicted.active] at isActive
    exact Bool.eq_false_iff.mpr fun isThere =>
      Bool.eq_false_iff.mp (numbered.disjoint id isActive) (evicted.fewer id isThere)

/-- Spans stay numbered whatever is done. -/
theorem Numbered.perform (numbered : Numbered tracer) (action : TracerAction)
    : Numbered (tracer.perform action) := by
  cases action with
  | setLevel level => exact ⟨numbered.counted, numbered.disjoint⟩
  | startSpan now name tags parentId =>
      change Numbered (tracer.startSpan now name tags parentId).2
      rcases startSpan_cases tracer now name tags parentId with
        same | ⟨span, ⟨_, same⟩ | ⟨_, evicted⟩⟩
      · rwa [same]
      · rw [same]
        exact numbered.withStarted span
      · exact (numbered.withStarted span).evicted evicted
  | endSpan now id =>
      simp only [Tracer.perform, Tracer.endSpan]
      split
      · exact numbered
      · rename_i span found
        have isActive : tracer.activeSpans.has id = true := InsertionMap.has_iff.mpr ⟨span, found⟩
        constructor
        case counted =>
          intro other present
          simp only [InsertionMap.has_delete, InsertionMap.has_set, Bool.and_eq_true,
            Bool.or_eq_true, decide_eq_true_eq] at present
          rcases present with ⟨_, active⟩ | rfl | completed
          · exact numbered.counted other (.inl active)
          · exact numbered.counted other (.inl isActive)
          · exact numbered.counted other (.inr completed)
        case disjoint =>
          intro other present
          simp only [InsertionMap.has_delete, InsertionMap.has_set, Bool.and_eq_true,
            Bool.not_eq_true', Bool.or_eq_false_iff] at present ⊢
          exact ⟨present.1, numbered.disjoint other present.2⟩
  | addTag id key value =>
      simp only [Tracer.perform, Tracer.addTag]
      split
      · exact numbered
      · rename_i span found
        have isActive : tracer.activeSpans.has id = true := InsertionMap.has_iff.mpr ⟨span, found⟩
        have sameActive (other : String) (value : TraceSpan)
            : (tracer.activeSpans.set id value).has other = tracer.activeSpans.has other := by
          rw [InsertionMap.has_set]
          by_cases same : other = id <;> simp [same, isActive]
        constructor
        case counted => simpa only [sameActive] using numbered.counted
        case disjoint => simpa only [sameActive] using numbered.disjoint
  | clear =>
      constructor
      case counted =>
        intro id present
        exact (present.elim Bool.false_ne_true Bool.false_ne_true).elim
      case disjoint => exact fun _ _ => rfl

/-- Active spans stay active whatever is done, except if they are ended or all are cleared. -/
theorem keepsActive_of_any (tracer : Tracer) (action : TracerAction)
    : keepsActive tracer action := by
  intro id isActive notEnded notCleared
  cases action with
  | setLevel level => exact isActive
  | startSpan now name tags parentId =>
      change (tracer.startSpan now name tags parentId).2.activeSpans.has id = true
      have kept (span : TraceSpan) : (tracer.withStarted span).activeSpans.has id = true := by
        rw [Tracer.withStarted, InsertionMap.has_set, isActive, Bool.or_true]
      rcases startSpan_cases tracer now name tags parentId with
        same | ⟨span, ⟨_, same⟩ | ⟨_, evicted⟩⟩
      · rwa [same]
      · rw [same]
        exact kept span
      · rw [evicted.active]
        exact kept span
  | endSpan now other =>
      have others : id ≠ other := fun same => notEnded now (same ▸ rfl)
      simp only [Tracer.perform, Tracer.endSpan]
      split
      · exact isActive
      · simpa [InsertionMap.has_delete, others] using isActive
  | addTag other key value =>
      simp only [Tracer.perform, Tracer.addTag]
      split
      · exact isActive
      · simp [InsertionMap.has_set, isActive]
  | clear => exact absurd rfl notCleared

-----------------------------------------------------------------------------------------
-- The bound
-----------------------------------------------------------------------------------------

/-- The bound on all spans, from which the one on the completed spans follows. -/
def withinBound (tracer : Tracer) : Prop :=
  tracer.activeSpans.entries.length + tracer.spans.entries.length
  ≤ max tracer.maxSpans tracer.activeSpans.entries.length

/-- The memory is bounded exactly if the bound on all spans holds. -/
theorem Numbered.memoryBounded_iff (numbered : Numbered tracer)
    : MemoryBounded tracer ↔ withinBound tracer := by
  refine ⟨fun bounded => bounded.all, fun within => ⟨numbered.disjoint, ?_, within⟩⟩
  unfold withinBound at within
  omega

/-- Within the bound, an action leads beyond it exactly if it ends an active span while more are
active than may be kept.
-/
theorem Numbered.withinBound_perform_iff (numbered : Numbered tracer) (within : withinBound tracer)
    (action : TracerAction)
    : ¬ endsAboveLimit tracer action ↔ withinBound (tracer.perform action) := by
  unfold withinBound at within ⊢
  cases action with
  | setLevel level => exact iff_of_true not_false within
  | startSpan now name tags parentId =>
      refine iff_of_true not_false ?_
      change (tracer.startSpan now name tags parentId).2.activeSpans.entries.length
          + (tracer.startSpan now name tags parentId).2.spans.entries.length
        ≤ max (tracer.startSpan now name tags parentId).2.maxSpans
          (tracer.startSpan now name tags parentId).2.activeSpans.entries.length
      have oneMore (span : TraceSpan)
          : (tracer.withStarted span).activeSpans.entries.length
            = tracer.activeSpans.entries.length + 1 := by
        rw [Tracer.withStarted, InsertionMap.length_set, numbered.unused.1]
        rfl
      rcases startSpan_cases tracer now name tags parentId with
        same | ⟨span, ⟨fits, same⟩ | ⟨full, evicted⟩⟩
      · rwa [same]
      · rw [same]
        exact Nat.le_trans fits (Nat.le_max_left ..)
      · rw [evicted.active, evicted.maxSpans, evicted.length, oneMore]
        change _ + (tracer.spans.entries.length - 1) ≤ max tracer.maxSpans _
        omega
  | endSpan now id =>
      simp only [endsAboveLimit, Tracer.perform, Tracer.endSpan]
      cases found : tracer.activeSpans.get id with
      | none =>
          rw [InsertionMap.get_eq_none_iff.mp found]
          exact iff_of_true (fun given => Bool.false_ne_true given.1) within
      | some span =>
          have isActive : tracer.activeSpans.has id = true :=
            InsertionMap.has_iff.mpr ⟨span, found⟩
          have oneLess := tracer.activeSpans.length_delete id
          have oneMore (ended : TraceSpan)
              : (tracer.spans.set id ended).entries.length = tracer.spans.entries.length + 1 := by
            rw [InsertionMap.length_set, numbered.disjoint id isActive]
            rfl
          rw [if_pos isActive] at oneLess
          simp only [oneMore, isActive, true_and]
          omega
  | addTag id key value =>
      refine iff_of_true not_false ?_
      simp only [Tracer.perform, Tracer.addTag]
      split
      · exact within
      · rename_i span found
        have isActive : tracer.activeSpans.has id = true := InsertionMap.has_iff.mpr ⟨span, found⟩
        rwa [InsertionMap.length_set, isActive]
  | clear => exact iff_of_true not_false (Nat.zero_le _)

/-- One call of a tracer, which is always possible. -/
def Tracer.step (tracer : Tracer) (action : TracerAction) : Option Tracer :=
  some (tracer.perform action)

/-- Spans are numbered in every state of a tracer, by induction on the calls from their end. -/
theorem numbered_tracerAfter (level : TraceLevel) (maxSpans : Nat) (actions : List TracerAction)
    : Numbered (tracerAfter level maxSpans actions) := by
  induction actions using List.reverseRecOn with
  | nil => exact ⟨fun _ => nofun, fun _ => nofun⟩
  | append_singleton actions action ih =>
      rw [tracerAfter, List.foldl_append]
      exact ih.perform action

/-- In every run of a tracer, active spans are not completed ones, and stay active until they are
ended or all spans are cleared. The memory is bounded all along the run exactly if no active span is
ended while more spans are active than may be kept.
-/
theorem trace_memory_bounded_iff (level : TraceLevel) (maxSpans : Nat)
    (actions : List TracerAction)
    : (∀ front, front <+: actions
        → (∀ id, (tracerAfter level maxSpans front).activeSpans.has id = true
            → (tracerAfter level maxSpans front).spans.has id = false)
          ∧ ∀ action, keepsActive (tracerAfter level maxSpans front) action)
      ∧ ((∀ front, front <+: actions → MemoryBounded (tracerAfter level maxSpans front))
          ↔ stepsSatisfy Tracer.step (fun tracer action => ¬ endsAboveLimit tracer action)
              { level := level, maxSpans := maxSpans } actions) := by
  refine ⟨fun front _ => ?_, ?_⟩
  · exact ⟨(numbered_tracerAfter level maxSpans front).disjoint, keepsActive_of_any _⟩
  have reached (front : List TracerAction)
      : run Tracer.step { level := level, maxSpans := maxSpans } front
        = some (tracerAfter level maxSpans front) :=
    run_of_total Tracer.perform _ front
  have preserved
      : ∀ tracer action next,
          True → Tracer.step tracer action = some next → Numbered tracer → withinBound tracer
          → withinBound next → Numbered next := by
    rintro tracer action next - taken numbered - -
    exact Option.some.inj taken ▸ numbered.perform action
  have stepExact
      : ∀ tracer action next,
          True → Tracer.step tracer action = some next → Numbered tracer → withinBound tracer
          → (¬ endsAboveLimit tracer action ↔ withinBound next) := by
    rintro tracer action next - taken numbered within
    exact Option.some.inj taken ▸ numbered.withinBound_perform_iff within action
  refine Iff.trans ?_
    (forall_prefix_iff_stepsSatisfy preserved stepExact (numbered_tracerAfter level maxSpans [])
      (Nat.zero_le _) (stepsSatisfy_of_forall_mem _ fun _ _ _ => trivial) (reached actions))
  constructor
  · intro bounded front middle isPrefix walked
    obtain rfl := Option.some.inj ((reached front).symm.trans walked)
    exact (bounded front isPrefix).all
  · intro within front isPrefix
    exact (numbered_tracerAfter level maxSpans front).memoryBounded_iff.mpr
      (within front _ isPrefix (reached front))

/-- Two spans are started and one of them is ended, where one may be kept. -/
theorem trace_memory_exceeds_the_bound
    : ¬ MemoryBounded
          (tracerAfter .debug 1
            [.startSpan 0 "first" .empty none, .startSpan 0 "second" .empty none,
              .endSpan 0 "span_1"]) := by
  intro bounded
  have all := bounded.all
  revert all
  decide

end Axionvera.Observability
