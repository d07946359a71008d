import Axionvera.WebSocket.ParsedEvents

/-! The filters of a dispatcher and of a web socket agree, except about lists that are given but
empty. Adding to a list that is not empty never loses a match.
-/

namespace Axionvera.WebSocket

open Axionvera.Foundation
open Axionvera.Events (SorobanEvent SorobanEventType EventFilter present excludes matchesFilter)

section Lists

variable {α : Type}

/-- The list is given but empty, and there is something that it could be asked for. -/
def emptyMeets (values : Option (List α)) (wanted : Option α) : Prop :=
  values = some [] ∧ wanted ≠ none

/-- The list has elements, but not what is wanted. -/
def lacks (values : Option (List α)) (wanted : Option α) : Prop :=
  ∃ list element, values = some list ∧ wanted = some element ∧ list ≠ [] ∧ element ∉ list

/-- The list is the same, or was not empty and has got more elements. -/
def widened (values wider : Option (List α)) : Prop :=
  values = wider ∨ ∃ list more, values = some list ∧ wider = some more ∧ list ≠ [] ∧ list ⊆ more

/-- A dispatcher lets a list exclude what it lacks, by cases on what is given. -/
theorem excludes_eq_true_iff [DecidableEq α] {values : Option (List α)} {wanted : Option α}
    : excludes values wanted = true ↔ lacks values wanted := by
  cases values <;> cases wanted <;> simp [excludes, lacks]

/-- A web socket also takes an empty list to exclude everything that is present. -/
theorem rejects_eq_true_iff [DecidableEq α] {values : Option (List α)} {wanted : Option α}
    : rejects values wanted = true ↔ emptyMeets values wanted ∨ lacks values wanted := by
  cases values with
  | none => simp [rejects, emptyMeets, lacks]
  | some list =>
      cases wanted with
      | none => simp [rejects, emptyMeets, lacks]
      | some element =>
          rcases list with _ | ⟨first, rest⟩
          · simp [rejects, emptyMeets, lacks]
          · simp [rejects, emptyMeets, lacks]

/-- What is missing in a widened list was missing before. -/
theorem lacks_of_widened {values wider : Option (List α)} {wanted : Option α}
    (isWidened : widened values wider) (lacking : lacks wider wanted)
    : lacks values wanted := by
  rcases isWidened with rfl | ⟨list, more, rfl, rfl, nonempty, subset⟩
  · exact lacking
  · obtain ⟨_, element, same, isWanted, _, missing⟩ := lacking
    obtain rfl := Option.some.inj same
    exact ⟨list, element, rfl, isWanted, nonempty, fun member => missing (subset member)⟩

/-- A widened list is empty only when it was empty before. -/
theorem emptyMeets_of_widened {values wider : Option (List α)} {wanted : Option α}
    (isWidened : widened values wider) (meets : emptyMeets wider wanted)
    : emptyMeets values wanted := by
  rcases isWidened with rfl | ⟨list, more, rfl, rfl, nonempty, subset⟩
  · exact meets
  · obtain rfl := Option.some.inj meets.1
    exact absurd (List.subset_nil.mp subset) nonempty

end Lists

/-- Something holds for one of the lists of a filter and what it is compared with. -/
def someList (about : {α : Type} → Option (List α) → Option α → Prop) (event : SorobanEvent)
    (filter : EventFilter) : Prop :=
  about filter.contractIds (present event.contractId)
  ∨ about filter.topics (present event.topic)
  ∨ about filter.eventTypes (some event.type)

/-- Every list of the filter is the same, or was not empty and has got more elements. -/
structure Widened (filter wider : EventFilter) : Prop where
  contractIds : widened filter.contractIds wider.contractIds
  topics : widened filter.topics wider.topics
  eventTypes : widened filter.eventTypes wider.eventTypes

/-- The verdict of a filter stays a match when its lists that are not empty get more elements. -/
def MonotoneAt (accepts : SorobanEvent → EventFilter → Bool) (event : SorobanEvent)
    (filter : EventFilter) : Prop :=
  ∀ wider, Widened filter wider → accepts event filter = true → accepts event wider = true

/-- A dispatcher accepts an event unless one of the lists lacks what the event has. -/
theorem matchesFilter_eq_true_iff {event : SorobanEvent} {filter : EventFilter}
    : matchesFilter event filter = true ↔ ¬someList lacks event filter := by
  simp only [someList, ← excludes_eq_true_iff, matchesFilter]
  split
  · simp [*]
  · split <;> simp [*]

/-- A web socket accepts an event unless one of the lists is empty or lacks what the event has. -/
theorem eventMatchesFilter_eq_true_iff {event : SorobanEvent} {filter : EventFilter}
    : eventMatchesFilter event filter = true
      ↔ ¬someList emptyMeets event filter ∧ ¬someList lacks event filter := by
  have rejected
      : ¬(someList emptyMeets event filter ∨ someList lacks event filter)
        ↔ ¬(rejects filter.contractIds (present event.contractId) = true
          ∨ rejects filter.topics (present event.topic) = true
          ∨ rejects filter.eventTypes (some event.type) = true) := by
    simp only [rejects_eq_true_iff, someList]
    tauto
  rw [← not_or, rejected, eventMatchesFilter]
  split
  · simp [*]
  · split <;> simp [*]

/-- A widened filter says less than before about each list. -/
theorem someList_of_widened
    {about : {α : Type} → Option (List α) → Option α → Prop}
    (back
      : ∀ {α : Type} {values wider : Option (List α)} {wanted : Option α},
          widened values wider → about wider wanted → about values wanted)
    {event : SorobanEvent} {filter wider : EventFilter} (isWidened : Widened filter wider)
    (holds : someList about event wider)
    : someList about event filter :=
  holds.imp (back isWidened.contractIds)
    (Or.imp (back isWidened.topics) (back isWidened.eventTypes))

/-- A dispatcher accepts no less when a filter is widened, since it lacks no more. -/
theorem matchesFilter_monotoneAt (event : SorobanEvent) (filter : EventFilter)
    : MonotoneAt matchesFilter event filter := by
  intro wider isWidened accepted
  rw [matchesFilter_eq_true_iff] at accepted ⊢
  exact fun lacking => accepted (someList_of_widened lacks_of_widened isWidened lacking)

/-- A web socket accepts no less when a filter is widened, since no list gets empty. -/
theorem eventMatchesFilter_monotoneAt (event : SorobanEvent) (filter : EventFilter)
    : MonotoneAt eventMatchesFilter event filter := by
  intro wider isWidened accepted
  rw [eventMatchesFilter_eq_true_iff] at accepted ⊢
  obtain ⟨noneEmpty, noneLacks⟩ := accepted
  exact
    ⟨fun meets => noneEmpty (someList_of_widened emptyMeets_of_widened isWidened meets),
      fun lacking => noneLacks (someList_of_widened lacks_of_widened isWidened lacking)⟩

/-- Both filters give the same verdict, and keep a match when lists get more elements. -/
def FiltersAgree (event : SorobanEvent) (filter : EventFilter) : Prop :=
  matchesFilter event filter = eventMatchesFilter event filter
  ∧ MonotoneAt matchesFilter event filter
  ∧ MonotoneAt eventMatchesFilter event filter

/-- The filters agree exactly when no empty list meets something that the event has, or another
list lacks what the event has, so that neither accepts it. Witness: the two characterisations.
-/
theorem filtersAgree_iff (event : SorobanEvent) (filter : EventFilter)
    : FiltersAgree event filter
      ↔ ¬someList emptyMeets event filter ∨ someList lacks event filter := by
  have agree
      : matchesFilter event filter = eventMatchesFilter event filter
        ↔ (¬someList lacks event filter
          ↔ ¬someList emptyMeets event filter ∧ ¬someList lacks event filter) := by
    rw [Bool.eq_iff_iff, matchesFilter_eq_true_iff, eventMatchesFilter_eq_true_iff]
  rw [FiltersAgree, agree]
  constructor
  · rintro ⟨verdicts, _⟩
    by_cases lacking : someList lacks event filter
    · exact .inr lacking
    · exact .inl (verdicts.mp lacking).1
  · intro condition
    refine ⟨⟨fun noneLacks => ⟨?_, noneLacks⟩, And.right⟩, matchesFilter_monotoneAt event filter,
      eventMatchesFilter_monotoneAt event filter⟩
    exact condition.resolve_right noneLacks

/-- A filter with an empty list of contracts: the dispatcher takes it to say nothing, the web socket
to exclude every contract.
-/
theorem not_filtersAgree_of_empty_contractIds
    : ¬FiltersAgree { id := "1", type := .contract, contractId := some "CA" }
        { contractIds := some [] } := by
  rintro ⟨verdicts, _⟩
  revert verdicts
  decide

end Axionvera.WebSocket
