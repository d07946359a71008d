import Axionvera.Foundation.InsertionMap
import Axionvera.Foundation.LiveMap
import Axionvera.Foundation.ThrownValue

/-! `EventDispatcher` (`events/eventDispatcher.ts`, `events/types.ts`): subscriptions with filters,
and how often their callbacks have returned.
-/

namespace Axionvera.Events

open Axionvera.Foundation

/-- The types of a `SorobanEvent`. -/
inductive SorobanEventType where
  | contract
  | ledger
  deriving DecidableEq

/-- The text of an event type. -/
def SorobanEventType.text : SorobanEventType → String
  | .contract => "contract"
  | .ledger => "ledger"

/-- `SorobanEvent`, without its value, which is only handed on. -/
structure SorobanEvent where
  id : String
  type : SorobanEventType
  contractId : Option String := none
  topic : Option String := none
  topics : List String := []
  eventName : Option String := none
  ledger : Int := 0
  timestamp : Int := 0
  deriving DecidableEq

/-- `EventFilter`. -/
structure EventFilter where
  contractIds : Option (List String) := none
  topics : Option (List String) := none
  eventTypes : Option (List SorobanEventType) := none
  deriving DecidableEq

/-- `values?.length && wanted` holds, but the list does not include what is wanted. -/
def excludes {α : Type} [DecidableEq α] (values : Option (List α)) (wanted : Option α) : Bool :=
  match values, wanted with
  | some values, some wanted => values ≠ [] && wanted ∉ values
  | _, _ => false

/-- A text that is undefined or empty counts as missing. -/
def present (text : Option String) : Option String :=
  text.filter fun text => text ≠ ""

/-- `matchesFilter`. A contract id or a topic that the event lacks matches every filter. -/
def matchesFilter (event : SorobanEvent) (filter : EventFilter) : Bool :=
  if excludes filter.contractIds (present event.contractId) then false
  else if excludes filter.topics (present event.topic) then false
  else !excludes filter.eventTypes (some event.type)

/-- `EventSubscription`. The number tells subscriptions apart, also those made under one id; the
callback is known by a number as well.
-/
structure EventSubscription where
  number : Nat
  id : String
  filter : EventFilter
  callback : Nat
  isActive : Bool := true
  deriving DecidableEq

/-- The subscription is active and its filter matches the event. -/
def EventSubscription.wants (subscription : EventSubscription) (event : SorobanEvent) : Bool :=
  subscription.isActive && matchesFilter event subscription.filter

/-- A dispatcher. Subscriptions are stored under their ids, with numbers of their own. -/
structure EventDispatcher where
  subscriptions : LiveMap String EventSubscription
  eventCounts : InsertionMap String Nat
  nextNumber : Nat
  named : ∀ entry ∈ subscriptions.entries, entry.value.id = entry.key
  numbered : ∀ entry ∈ subscriptions.entries, entry.value.number < nextNumber

namespace EventDispatcher

/-- A dispatcher without subscriptions. -/
def empty : EventDispatcher :=
  {
    subscriptions := .empty
    eventCounts := .empty
    nextNumber := 0
    named := fun entry member => by cases member
    numbered := fun entry member => by cases member
  }

/-- A subscription that is set comes from an old one of another id, or is the new one. -/
theorem mem_set_subscription {subscriptions : LiveMap String EventSubscription} {id : String}
    {subscription : EventSubscription} {entry : LiveEntry String EventSubscription}
    (member : entry ∈ (subscriptions.set id subscription).entries)
    : entry ∈ subscriptions.entries ∧ entry.key ≠ id
      ∨ entry.key = id ∧ entry.value = subscription := by
  rcases LiveMap.mem_set member with ⟨old, oldMember, rfl⟩ | rfl
  · unfold LiveEntry.replace
    split
    · rename_i same
      exact .inr ⟨same, rfl⟩
    · rename_i other
      exact .inl ⟨oldMember, other⟩
  · exact .inr ⟨rfl, rfl⟩

/-- `subscribe` with an id. A subscription under a live id takes the place of the old one, and the
count of the id stays.
-/
def subscribe (dispatcher : EventDispatcher) (id : String) (filter : EventFilter) (callback : Nat)
    : EventDispatcher :=
  let subscription : EventSubscription :=
    { number := dispatcher.nextNumber, id := id, filter := filter, callback := callback }
  {
    subscriptions := dispatcher.subscriptions.set id subscription
    eventCounts := dispatcher.eventCounts
    nextNumber := dispatcher.nextNumber + 1
    named := by
      intro entry member
      rcases mem_set_subscription member with ⟨old, _⟩ | ⟨isKey, isNew⟩
      · exact dispatcher.named entry old
      · rw [isKey, isNew]
    numbered := by
      intro entry member
      rcases mem_set_subscription member with ⟨old, _⟩ | ⟨_, isNew⟩
      · exact Nat.lt_succ_of_lt (dispatcher.numbered entry old)
      · rw [isNew]
        exact Nat.lt_succ_self _
  }

/-- `unsubscribe`. -/
def unsubscribe (dispatcher : EventDispatcher) (id : String) : EventDispatcher :=
  {
    subscriptions := dispatcher.subscriptions.delete id
    eventCounts := dispatcher.eventCounts.delete id
    nextNumber := dispatcher.nextNumber
    named := fun entry member => dispatcher.named entry (LiveMap.mem_delete.mp member).1
    numbered := fun entry member => dispatcher.numbered entry (LiveMap.mem_delete.mp member).1
  }

/-- `getSubscription`. -/
def getSubscription (dispatcher : EventDispatcher) (id : String) : Option EventSubscription :=
  dispatcher.subscriptions.get id

/-- `getEventCount`. -/
def getEventCount (dispatcher : EventDispatcher) (id : String) : Nat :=
  (dispatcher.eventCounts.get id).getD 0

/-- `incrementCount`. -/
def incrementCount (dispatcher : EventDispatcher) (id : String) : EventDispatcher :=
  { dispatcher with
    eventCounts := dispatcher.eventCounts.set id (dispatcher.getEventCount id + 1) }

/-- `generateId`, whose body is the identifier `sub__`. It is declared nowhere, so that it has the
value of a global variable of the program, or throws when there is none.
-/
def generateId (sub__ : Option String) : Except ThrownValue String :=
  match sub__ with
  | some id => .ok id
  | none => .error (.error (.ok "ReferenceError") (.ok "sub__ is not defined"))

end EventDispatcher

end Axionvera.Events
