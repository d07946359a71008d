import Axionvera.Foundation.InsertionMap
import Axionvera.Lifecycle.LifecycleStateMachine
import Mathlib.Data.List.Chain

/-! The records of tracked transactions (`transactions/types.ts`) and the map that holds them. A
record is an object that outlives its entry in the map, so that it has a place of its own.
-/

namespace Axionvera.Lifecycle

open Axionvera.Foundation

/-- The details of a transition: reading a field can throw. -/
abbrev Details :=
  InsertionMap String (Except ThrownValue ThrownValue)

/-- The metadata of a record, whose fields have been read. -/
abbrev Metadata :=
  InsertionMap String ThrownValue

/-- The name and message that are kept of an error. -/
structure ErrorInfo where
  name : String
  message : String
  deriving DecidableEq

/-- `LifecycleTransitionRecord`. -/
structure LifecycleTransitionRecord where
  source : Option TransactionLifecycleState
  target : TransactionLifecycleState
  timestamp : Int
  details : Option Details := none

/-- `TransactionLifecycleRecord`. -/
structure TransactionLifecycleRecord where
  id : String
  state : TransactionLifecycleState
  createdAt : Int
  updatedAt : Int
  history : List LifecycleTransitionRecord
  metadata : Metadata
  error : Option ErrorInfo := none

/-- `toErrorInfo`, given how numbers are printed. -/
def toErrorInfo (printed : JsNumber → String) : ThrownValue → Except ThrownValue ErrorInfo
  | .error name message => do return ⟨← name, ← message⟩
  | other => do return ⟨"Error", ← other.toText printed⟩

/-- `{ ...metadata, ...fields }`, which reads the fields in their order. -/
def spread (metadata : Metadata) : List (String × Except ThrownValue ThrownValue)
    → Except ThrownValue Metadata
  | [] => .ok metadata
  | (key, value) :: rest => do spread (metadata.set key (← value)) rest

/-- `{ ...details }`, which is empty without details. -/
def spreadDetails (metadata : Metadata) (details : Option Details)
    : Except ThrownValue Metadata :=
  match details with
  | none => .ok metadata
  | some details => spread metadata details.entries

/-- The error that the details of a failure report, if any. -/
def reportedError (printed : JsNumber → String) (details : Option Details)
    : Except ThrownValue (Option ErrorInfo) :=
  match details.bind (fun details => details.get "error") with
  | none => .ok none
  | some (.error thrown) => .error thrown
  | some (.ok .undefined) => .ok none
  | some (.ok error) => return some (← toErrorInfo printed error)

/-- Reading the details of a move into a state throws nothing. -/
def detailsReadable (printed : JsNumber → String) (target : TransactionLifecycleState)
    (details : Option Details) : Bool :=
  (match details with
    | none => true
    | some fields => fields.entries.all fun field => field.2.isOk)
  && (target ≠ .failed || (reportedError printed details).isOk)

/-- Spreading fields succeeds exactly when all of them can be read, by induction on them. -/
theorem spread_isOk (metadata : Metadata) (fields : List (String × Except ThrownValue ThrownValue))
    : (spread metadata fields).isOk = fields.all fun field => field.2.isOk := by
  induction fields generalizing metadata with
  | nil => rfl
  | cons field rest ih =>
      obtain ⟨key, value⟩ := field
      cases value with
      | error thrown => rfl
      | ok value => exact ih (metadata.set key value)

namespace TransactionLifecycleRecord

/-- A record that has just been created. -/
def initial (id : String) (now : Int) (metadata : Metadata) : TransactionLifecycleRecord :=
  {
    id := id
    state := .created
    createdAt := now
    updatedAt := now
    history := [{ source := none, target := .created, timestamp := now }]
    metadata := metadata
  }

/-- The first assignments of `transition`: the record is in the new state. -/
def enter (record : TransactionLifecycleRecord) (target : TransactionLifecycleState)
    (details : Option Details) (now : Int) : TransactionLifecycleRecord :=
  { record with
    state := target
    updatedAt := now
    history := record.history ++ [⟨some record.state, target, now, details⟩] }

/-- All assignments of `transition`, with what reading the details throws. The record has been
changed by then.
-/
def move (printed : JsNumber → String) (record : TransactionLifecycleRecord)
    (target : TransactionLifecycleState) (details : Option Details) (now : Int)
    : TransactionLifecycleRecord × Except ThrownValue Unit :=
  let entered := record.enter target details now
  match spreadDetails entered.metadata details with
  | .error thrown => (entered, .error thrown)
  | .ok metadata =>
      let merged := { entered with metadata := metadata }
      if target = .failed then
        match reportedError printed details with
        | .error thrown => (merged, .error thrown)
        | .ok none => (merged, .ok ())
        | .ok (some info) => ({ merged with error := some info }, .ok ())
      else (merged, .ok ())

variable {printed : JsNumber → String} {record : TransactionLifecycleRecord}
  {target : TransactionLifecycleState} {details : Option Details} {now : Int}

/-- What `move` changes of a record: it enters the new state, may merge the details, and sets an
error only on failure.
-/
structure Moved (record : TransactionLifecycleRecord) (target : TransactionLifecycleState)
    (details : Option Details) (now : Int) (changed : TransactionLifecycleRecord) : Prop where
  id : changed.id = record.id
  state : changed.state = target
  history : changed.history = record.history ++ [⟨some record.state, target, now, details⟩]
  error : changed.error = record.error ∨ target = .failed

/-- The assignments of `transition` move the record, whether or not reading the details throws. -/
theorem move_moved
    : Moved record target details now (record.move printed target details now).1 := by
  unfold move
  dsimp only
  split
  · exact ⟨rfl, rfl, rfl, .inl rfl⟩
  · split
    · rename_i failing
      split <;> exact ⟨rfl, rfl, rfl, .inr failing⟩
    · exact ⟨rfl, rfl, rfl, .inl rfl⟩

/-- All assignments of `transition` succeed exactly when its details can be read. -/
theorem move_eq_ok_iff (record : TransactionLifecycleRecord) (target : TransactionLifecycleState)
    (details : Option Details) (now : Int)
    : (record.move printed target details now).2 = .ok ()
      ↔ detailsReadable printed target details = true := by
  have spreads (metadata : Metadata)
      : (spreadDetails metadata details).isOk
        = match details with
          | none => true
          | some fields => fields.entries.all fun field => field.2.isOk := by
    cases details with
    | none => rfl
    | some fields => exact spread_isOk metadata fields.entries
  unfold move detailsReadable
  rw [← spreads (record.enter target details now).metadata]
  dsimp only
  cases merged : spreadDetails (record.enter target details now).metadata details with
  | error thrown => simp [Except.isOk, Except.toBool]
  | ok metadata =>
      dsimp only
      by_cases failing : target = .failed
      · rw [if_pos failing]
        cases reported : reportedError printed details with
        | error thrown => simp [failing, Except.isOk, Except.toBool]
        | ok error => cases error <;> simp [Except.isOk, Except.toBool]
      · simp [failing, Except.isOk, Except.toBool]

end TransactionLifecycleRecord

/-- The records that exist, and the places of those that are tracked under their ids. -/
structure TrackedRecords where
  objects : List TransactionLifecycleRecord
  ids : InsertionMap String Nat
  valid
    : ∀ id place,
        ids.get id = some place → ∃ record, objects[place]? = some record ∧ record.id = id

namespace TrackedRecords

/-- Nothing is tracked yet. -/
def empty : TrackedRecords :=
  { objects := [], ids := .empty, valid := by simp }

/-- The place of a tracked record, and the record. -/
def find (records : TrackedRecords) (id : String) : Option (Nat × TransactionLifecycleRecord) :=
  (records.ids.get id).bind fun place => records.objects[place]?.map fun record => (place, record)

/-- The record tracked under an id. -/
def get (records : TrackedRecords) (id : String) : Option TransactionLifecycleRecord :=
  (records.find id).map Prod.snd

/-- Whether an id is tracked. -/
def has (records : TrackedRecords) (id : String) : Bool :=
  records.ids.has id

/-- Track a new record under its id. -/
def track (records : TrackedRecords) (record : TransactionLifecycleRecord) : TrackedRecords :=
  {
    objects := records.objects ++ [record]
    ids := records.ids.set record.id records.objects.length
    valid := by
      intro id place found
      rw [InsertionMap.get_set] at found
      split at found
      · rename_i same
        obtain rfl := Option.some.inj found
        exact ⟨record, by simp, same.symm⟩
      · obtain ⟨old, present, isId⟩ := records.valid id place found
        obtain ⟨inside, _⟩ := List.getElem?_eq_some_iff.mp present
        exact ⟨old, by rw [List.getElem?_append_left inside, present], isId⟩
  }

/-- Overwrite the record at a place, whose id stays as it is. -/
def update (records : TrackedRecords) (place : Nat) (changed : TransactionLifecycleRecord)
    : TrackedRecords :=
  {
    objects := records.objects.modify place fun record => { changed with id := record.id }
    ids := records.ids
    valid := by
      intro id other found
      obtain ⟨old, present, isId⟩ := records.valid id other found
      rw [List.getElem?_modify, present]
      by_cases same : place = other
      · exact ⟨{ changed with id := old.id }, by simp [same], isId⟩
      · exact ⟨old, by simp [same], isId⟩
  }

/-- Stop tracking an id. -/
def untrack (records : TrackedRecords) (id : String) : TrackedRecords :=
  {
    objects := records.objects
    ids := records.ids.delete id
    valid := by
      intro other place found
      rw [InsertionMap.get_delete] at found
      split at found
      · cases found
      · exact records.valid other place found
  }

/-- Stop tracking all ids. -/
def clear (records : TrackedRecords) : TrackedRecords :=
  { objects := records.objects, ids := .empty, valid := by simp }

/-- The record that is found stands at its place and has the id. -/
theorem find_eq_some {records : TrackedRecords} {id : String} {place : Nat}
    {record : TransactionLifecycleRecord} (found : records.find id = some (place, record))
    : records.ids.get id = some place ∧ records.objects[place]? = some record ∧ record.id = id := by
  simp only [find, Option.bind_eq_some_iff, Option.map_eq_some_iff, Prod.mk.injEq] at found
  obtain ⟨_, isPlace, other, present, rfl, rfl⟩ := found
  obtain ⟨same, found, isId⟩ := records.valid id _ isPlace
  obtain rfl := Option.some.inj (present.symm.trans found)
  exact ⟨isPlace, present, isId⟩

/-- Tracked records are among those that exist. -/
theorem mem_objects_of_get {records : TrackedRecords} {id : String}
    {record : TransactionLifecycleRecord} (found : records.get id = some record)
    : record ∈ records.objects := by
  obtain ⟨⟨place, _⟩, isFound, rfl⟩ := Option.map_eq_some_iff.mp found
  exact List.mem_of_getElem? (find_eq_some isFound).2.1

/-- A record that has been overwritten with changes that keep its id has them. -/
theorem getElem?_update {records : TrackedRecords} {place : Nat}
    {record changed : TransactionLifecycleRecord} (present : records.objects[place]? = some record)
    (sameId : changed.id = record.id) (other : Nat)
    : (records.update place changed).objects[other]?
      = if place = other then some changed else records.objects[other]? := by
  unfold update
  rw [List.getElem?_modify]
  by_cases same : place = other
  · subst same
    simp [present, ← sameId]
  · simp [same]

/-- A tracked record that has been overwritten is found with its changes. -/
theorem get_update {records : TrackedRecords} {id : String} {place : Nat}
    {record changed : TransactionLifecycleRecord} (found : records.find id = some (place, record))
    (sameId : changed.id = record.id)
    : (records.update place changed).get id = some changed := by
  obtain ⟨isPlace, present, _⟩ := find_eq_some found
  have overwritten := getElem?_update present sameId place
  rw [if_pos rfl] at overwritten
  have sameIds : (records.update place changed).ids = records.ids := rfl
  simp [get, find, sameIds, isPlace, overwritten]

end TrackedRecords

end Axionvera.Lifecycle
