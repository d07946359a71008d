import Axionvera.Client.TrackingRegistry

/-! The way of pending transactions from one client to another (`client/stellarClient.ts`): what
`exportState` writes, and what a fresh client makes of it after it has gone through JSON text.
-/

namespace Axionvera.Client.Tracking

open Axionvera.Errors
open Axionvera.Foundation
open Axionvera.Client.Hydration

/-- `getPendingTransactions`. -/
def getPendingTransactions (state : TrackingState) : List PendingTransaction :=
  state.pendingTransactions.values.map TrackedTransaction.toPendingTransaction

/-- `freezeContext`. -/
def freezeContext (dates : DateFormat) (context : Option SerializableValue)
    : Except Thrown (Option SerializableValue) :=
  match context.filter isTruthy with
  | none => .ok none
  | some context => do return some (← freezeDates dates context)

/-- `toISOString` on a date, which throws for an invalid one. -/
def dateText (dates : DateFormat) : JsDate → Except Thrown String
  | some instant => .ok (dates.toISOString instant)
  | none => .error (.value { message := some "Invalid time value" })

/-- The fields that are written for a pending transaction; a field that is undefined is left out.
-/
def pendingFields (dates : DateFormat) (tx : PendingTransaction)
    (simulationContext : Option SerializableValue) (deadline : String)
    : List (String × SerializableValue) :=
  [("hash", .text tx.hash)]
    ++ simulationContext.toList.map (fun context => ("simulationContext", context))
    ++ [
      ("submittedAt", .text (dates.toISOString tx.submittedAt)),
      ("intervalMs", .number tx.intervalMs),
      ("deadline", .text deadline)
    ]
    ++ tx.label.toList.map (fun label => ("label", label))

/-- One turn of the loop in `exportState`. -/
def serializePending (dates : DateFormat) (tx : PendingTransaction)
    : Except Thrown SerializableValue := do
  let simulationContext ← freezeContext dates tx.simulationContext
  let deadline ← dateText dates tx.deadline
  return .object (pendingFields dates tx simulationContext deadline)

/-- The loop of `exportState`. -/
def serializeAll (dates : DateFormat)
    : List PendingTransaction → Except Thrown (List SerializableValue)
  | [] => .ok []
  | tx :: rest => do
      let item ← serializePending dates tx
      let items ← serializeAll dates rest
      return item :: items

/-- The object that `exportState` returns. -/
def exportedState (dates : DateFormat) (exportedAt : Instant) (pending : List SerializableValue)
    : SerializableValue :=
  .object
    [
      ("version", .number (.finite 1)),
      ("exportedAt", .text (dates.toISOString exportedAt)),
      ("pending", .array pending)
    ]

/-- `exportState`. -/
def exportState (dates : DateFormat) (state : TrackingState)
    : Except Thrown SerializableValue := do
  let pending ← serializeAll dates (getPendingTransactions state)
  return exportedState dates state.now pending

/-- (RoundTrips dates state later) requires the exported state to go through JSON into a fresh
client at the given time: exactly the transactions whose deadline has not passed are pending
there, as they were; they are exported as before; and importing the same state again, then
or later, changes nothing.
-/
def RoundTrips (dates : DateFormat) (state : TrackingState) (later : Instant) : Prop :=
  ∃ exported restored next,
    exportState dates state = .ok exported
    ∧ importState dates (.initial later) (jsonRoundTrip dates exported) = .ok (restored, next)
    ∧ getPendingTransactions next
      = (getPendingTransactions state).filter (fun tx => isBefore later tx.deadline)
    ∧ (∃ pending,
        serializeAll dates
            ((getPendingTransactions state).filter (fun tx => isBefore later tx.deadline))
          = .ok pending
        ∧ exportState dates next = .ok (exportedState dates later pending))
    ∧ ∀ evenLater : Instant,
        later.ms ≤ evenLater.ms
        → ∃ again,
            importState dates { next with now := evenLater } (jsonRoundTrip dates exported)
            = .ok (again, { next with now := evenLater })

/-- The transaction can be written: its deadline and the dates in its context are valid. -/
def isWritable (tx : PendingTransaction) : Bool :=
  tx.deadline.isSome && (tx.simulationContext.filter isTruthy).all datesValid

/-- The interval is a positive number. -/
def isPositive : JsNumber → Bool
  | .finite value => 0 < value
  | _ => false

/-- The transaction is restored as it was: it has a hash, a positive interval, a context that
survives and a plain label, and it was submitted at the very time of the import.
-/
def comesBack (dates : DateFormat) (later : Instant) (tx : PendingTransaction) : Bool :=
  tx.hash ≠ ""
  && tx.submittedAt = later
  && isPositive tx.intervalMs
  && tx.simulationContext.all (fun context => isTruthy context && survives dates context)
  && tx.label.all isPlain

variable {dates : DateFormat}

/-- What a fresh client makes of a written transaction. -/
def restored (dates : DateFormat) (later : Instant) (tx : PendingTransaction)
    : PendingTransaction :=
  {
    hash := tx.hash
    simulationContext :=
      match freezeContext dates tx.simulationContext with
      | .ok context => thawContext dates (context.map (jsonRoundTrip dates))
      | .error _ => none
    submittedAt := later
    intervalMs := importedInterval (some (jsonRoundTrip dates (.number tx.intervalMs)))
    deadline := tx.deadline
    label := tx.label.map (jsonRoundTrip dates)
  }

/-- A transaction is written exactly when it can be, with the fields of its frozen context and its
deadline.
-/
theorem serializePending_eq_ok {tx : PendingTransaction} {item : SerializableValue}
    : serializePending dates tx = .ok item
      ↔ ∃ context instant,
          freezeContext dates tx.simulationContext = .ok context
          ∧ tx.deadline = some instant
          ∧ item = .object (pendingFields dates tx context (dates.toISOString instant)) := by
  simp only [serializePending, bind_eq_ok, return_eq_ok]
  constructor
  · intro given
    obtain ⟨context, frozen, deadline, written, rfl⟩ := given
    cases isDate : tx.deadline with
    | none =>
        rw [isDate] at written
        cases written
    | some instant =>
        rw [isDate] at written
        obtain rfl := Except.ok.inj written
        exact ⟨context, instant, frozen, rfl, rfl⟩
  · intro given
    obtain ⟨context, instant, frozen, isDate, rfl⟩ := given
    exact ⟨context, frozen, _, by rw [isDate]; rfl, rfl⟩

/-- Freezing a context succeeds exactly when its dates are valid. -/
theorem freezeContext_isOk (context : Option SerializableValue)
    : (∃ frozen, freezeContext dates context = .ok frozen)
      ↔ (context.filter isTruthy).all datesValid = true := by
  unfold freezeContext
  cases context.filter isTruthy with
  | none => simp
  | some context =>
      simp only [bind_eq_ok, Option.all_some, ← @freezeDates_isOk dates context]
      constructor
      · intro given
        obtain ⟨_, frozen, ok, _⟩ := given
        exact ⟨frozen, ok⟩
      · intro given
        obtain ⟨frozen, ok⟩ := given
        exact ⟨_, frozen, ok, rfl⟩

/-- A transaction is written exactly when it is writable. -/
theorem serializePending_isOk (tx : PendingTransaction)
    : (∃ item, serializePending dates tx = .ok item) ↔ isWritable tx = true := by
  simp only [serializePending_eq_ok, isWritable, Bool.and_eq_true,
    ← @freezeContext_isOk dates tx.simulationContext]
  constructor
  · intro given
    obtain ⟨_, context, instant, frozen, isDate, _⟩ := given
    exact ⟨by rw [isDate]; rfl, context, frozen⟩
  · intro given
    obtain ⟨isDate, context, frozen⟩ := given
    obtain ⟨instant, isDate⟩ := Option.isSome_iff_exists.mp isDate
    exact ⟨_, context, instant, frozen, isDate, rfl⟩

/-- A written transaction reads back from JSON field by field. -/
theorem lookup_pendingFields (tx : PendingTransaction) (context : Option SerializableValue)
    (deadline : String)
    : let fields := jsonFields dates (pendingFields dates tx context deadline)
      fields.lookup "hash" = some (.text tx.hash)
      ∧ fields.lookup "simulationContext" = context.map (jsonRoundTrip dates)
      ∧ fields.lookup "intervalMs" = some (jsonRoundTrip dates (.number tx.intervalMs))
      ∧ fields.lookup "deadline" = some (.text deadline)
      ∧ fields.lookup "label" = tx.label.map (jsonRoundTrip dates) := by
  unfold pendingFields
  cases context with
  | none =>
      cases tx.label with
      | none => exact ⟨rfl, rfl, rfl, rfl, rfl⟩
      | some label => exact ⟨rfl, rfl, rfl, rfl, rfl⟩
  | some context =>
      cases tx.label with
      | none => exact ⟨rfl, rfl, rfl, rfl, rfl⟩
      | some label => exact ⟨rfl, rfl, rfl, rfl, rfl⟩

/-- An import passes over a written transaction without a hash, and over one that is registered or
whose deadline has passed.
-/
theorem importEntry_passedOver {tx : PendingTransaction} {item : SerializableValue}
    {state : TrackingState} (written : serializePending dates tx = .ok item)
    (passedOver
      : tx.hash = ""
        ∨ (∃ existing, state.pendingTransactions.get tx.hash = some existing)
        ∨ isBefore state.now tx.deadline = false)
    : (importEntry dates state (jsonRoundTrip dates item)).2 = state := by
  obtain ⟨context, instant, _, isDate, rfl⟩ := serializePending_eq_ok.mp written
  obtain ⟨hash, _, _, deadline, _⟩ :=
    @lookup_pendingFields dates tx context (dates.toISOString instant)
  have readBack
      : importedDeadline dates (some (.text (dates.toISOString instant))) = tx.deadline := by
    rw [isDate]
    exact dates.parse_toISOString instant
  simp only [jsonRoundTrip, importEntry, hash, deadline, readBack]
  split
  · rfl
  · rename_i hasHash
    split
    · rfl
    · rename_i absent
      rcases passedOver with noHash | ⟨existing, found⟩ | late
      · exact absurd noHash hasHash
      · cases absent.symm.trans found
      · rw [late]
        rfl

/-- An import restores any other written transaction as a new entry with a running loop. -/
theorem importEntry_restored {tx : PendingTransaction} {item : SerializableValue}
    {state : TrackingState} (written : serializePending dates tx = .ok item)
    (hasHash : tx.hash ≠ "") (absent : state.pendingTransactions.get tx.hash = none)
    (alive : isBefore state.now tx.deadline = true)
    : ∃ tracked,
        (importEntry dates state (jsonRoundTrip dates item)).2 = state.started tracked
        ∧ tracked.toPendingTransaction = restored dates state.now tx := by
  obtain ⟨context, instant, frozen, isDate, rfl⟩ := serializePending_eq_ok.mp written
  obtain ⟨hash, simulationContext, intervalMs, deadline, label⟩ :=
    @lookup_pendingFields dates tx context (dates.toISOString instant)
  have readBack
      : importedDeadline dates (some (.text (dates.toISOString instant))) = tx.deadline := by
    rw [isDate]
    exact dates.parse_toISOString instant
  let options :=
    importedOptions dates tx.hash
      (jsonFields dates (pendingFields dates tx context (dates.toISOString instant)))
  have same
      : (newTracked options state.now state.nextLoop).toPendingTransaction
        = restored dates state.now tx := by
    simp only [newTracked, options, importedOptions, restored, frozen, simulationContext,
      intervalMs, deadline, label, readBack, Option.getD_some]
  refine ⟨newTracked options state.now state.nextLoop, ?_, same⟩
  have sameDeadline : (newTracked options state.now state.nextLoop).deadline = tx.deadline := by
    rw [same]
    rfl
  -- The import has just checked the deadline, so that the loop does not end at once.
  have starts : (trackTransaction state options).2
      = state.started (newTracked options state.now state.nextLoop) := by
    rw [trackTransaction_new absent, sameDeadline, alive]
    rfl
  simp only [jsonRoundTrip, importEntry, hash, deadline, readBack, if_neg hasHash, absent, alive,
    if_true]
  exact starts

/-- An import of written transactions leaves a client alone when all are passed over, by induction
on them.
-/
theorem importEntries_passedOver {txs : List PendingTransaction}
    {items : List SerializableValue} {state : TrackingState}
    (written : serializeAll dates txs = .ok items)
    (passedOver
      : ∀ tx ∈ txs,
          tx.hash = ""
          ∨ (∃ existing, state.pendingTransactions.get tx.hash = some existing)
          ∨ isBefore state.now tx.deadline = false)
    : (importEntries dates state (jsonItems dates items)).2 = state := by
  induction txs generalizing items with
  | nil =>
      obtain rfl := Except.ok.inj written
      rfl
  | cons tx rest ih =>
      simp only [serializeAll, bind_eq_ok, return_eq_ok] at written
      obtain ⟨item, itemWritten, items, itemsWritten, rfl⟩ := written
      obtain ⟨first, others⟩ := List.forall_mem_cons.mp passedOver
      simp only [jsonItems, importEntries, importEntry_passedOver itemWritten first]
      exact ih itemsWritten others

/-- The transaction is restored at the given time. -/
def isRestored (later : Instant) (tx : PendingTransaction) : Bool :=
  tx.hash ≠ "" && isBefore later tx.deadline

/-- An import of written transactions with distinct hashes into a client that has none of them
adds those that are restored, in order, by induction on them.
-/
theorem getPendingTransactions_importEntries {txs : List PendingTransaction}
    {items : List SerializableValue} {state : TrackingState}
    (written : serializeAll dates txs = .ok items)
    (distinct : (txs.map PendingTransaction.hash).Nodup)
    (absent : ∀ tx ∈ txs, state.pendingTransactions.get tx.hash = none)
    : getPendingTransactions (importEntries dates state (jsonItems dates items)).2
      = getPendingTransactions state
        ++ (txs.filter (isRestored state.now)).map (restored dates state.now) := by
  induction txs generalizing items state with
  | nil =>
      obtain rfl := Except.ok.inj written
      exact (List.append_nil _).symm
  | cons tx rest ih =>
      simp only [serializeAll, bind_eq_ok, return_eq_ok] at written
      obtain ⟨item, itemWritten, items, itemsWritten, rfl⟩ := written
      obtain ⟨firstAbsent, othersAbsent⟩ := List.forall_mem_cons.mp absent
      obtain ⟨notAgain, othersDistinct⟩ := List.nodup_cons.mp distinct
      by_cases isNew : isRestored state.now tx = true
      · obtain ⟨hasHash, alive⟩ : tx.hash ≠ "" ∧ isBefore state.now tx.deadline = true := by
          simpa [isRestored] using isNew
        obtain ⟨tracked, starts, same⟩ :=
          importEntry_restored itemWritten hasHash firstAbsent alive
        have sameHash : tracked.hash = (restored dates state.now tx).hash := by rw [same]
        have added
            : getPendingTransactions (state.started tracked)
              = getPendingTransactions state ++ [restored dates state.now tx] := by
          rw [getPendingTransactions, TrackingState.started,
            InsertionMap.values_set_of_absent (sameHash ▸ firstAbsent), List.map_append, ← same]
          rfl
        -- Hashes are distinct, so the new entry is none of those still to come.
        have stillAbsent
            : ∀ other ∈ rest,
                (state.started tracked).pendingTransactions.get other.hash = none := by
          intro other member
          have different : other.hash ≠ tracked.hash := by
            rw [sameHash]
            change other.hash ≠ tx.hash
            exact fun again => notAgain (List.mem_map.mpr ⟨other, member, again⟩)
          simpa [TrackingState.started, different] using othersAbsent other member
        have later := ih itemsWritten othersDistinct stillAbsent
        simp only [jsonItems, importEntries, starts]
        rw [later, added, List.filter_cons_of_pos isNew, List.map_cons, List.append_assoc]
        rfl
      · have passedOver
            : tx.hash = ""
              ∨ (∃ existing, state.pendingTransactions.get tx.hash = some existing)
              ∨ isBefore state.now tx.deadline = false := by
          by_cases noHash : tx.hash = ""
          · exact .inl noHash
          · exact .inr (.inr (by simpa [isRestored, noHash] using isNew))
        simp only [jsonItems, importEntries, importEntry_passedOver itemWritten passedOver]
        rw [ih itemsWritten othersDistinct othersAbsent, List.filter_cons_of_neg isNew]

/-- All transactions are written exactly when each is writable, by induction on them. -/
theorem serializeAll_isOk (txs : List PendingTransaction)
    : (∃ items, serializeAll dates txs = .ok items) ↔ ∀ tx ∈ txs, isWritable tx = true := by
  induction txs with
  | nil => simp [serializeAll]
  | cons tx rest ih =>
      simp only [serializeAll, bind_eq_ok, return_eq_ok, List.forall_mem_cons, ← ih,
        ← @serializePending_isOk dates tx]
      constructor
      · intro given
        obtain ⟨_, item, itemOk, items, itemsOk, _⟩ := given
        exact ⟨⟨item, itemOk⟩, items, itemsOk⟩
      · intro given
        obtain ⟨⟨item, itemOk⟩, items, itemsOk⟩ := given
        exact ⟨_, item, itemOk, items, itemsOk, rfl⟩

/-- The interval comes back exactly when it is positive: otherwise it is replaced by a second. -/
theorem importedInterval_eq_self_iff (intervalMs : JsNumber)
    : importedInterval (some (jsonRoundTrip dates (.number intervalMs))) = intervalMs
      ↔ isPositive intervalMs = true := by
  cases intervalMs with
  | nan => simp [jsonRoundTrip, importedInterval, isPositive]
  | infinity negative => simp [jsonRoundTrip, importedInterval, isPositive]
  | finite value =>
      by_cases positive : 0 < value
      · simp [jsonRoundTrip, importedInterval, isPositive, positive]
      · have replaced : (1000 : ℚ) ≠ value := by
          rintro rfl
          exact positive (by decide)
        simp [jsonRoundTrip, importedInterval, isPositive, positive, replaced]

/-- A value that counts as true after thawing counted as true before. -/
theorem isTruthy_of_isTruthy_thawDates {value : SerializableValue}
    (truthy : isTruthy (thawDates dates value) = true)
    : isTruthy value = true := by
  cases value with
  | array items => rfl
  | object fields => rfl
  | null => exact truthy
  | boolean value => exact truthy
  | number value => exact truthy
  | text value => exact truthy
  | date value => rfl

/-- A context comes back exactly when it counts as true and survives. -/
theorem thawContext_freezeContext_iff {context frozen : Option SerializableValue}
    (ok : freezeContext dates context = .ok frozen)
    : thawContext dates (frozen.map (jsonRoundTrip dates)) = context
      ↔ context.all (fun context => isTruthy context && survives dates context) = true := by
  cases context with
  | none =>
      obtain rfl := Except.ok.inj ok
      simp [thawContext]
  | some value =>
      cases truthy : isTruthy value with
      -- A context such as `0` or an empty text is not written, so it comes back as undefined.
      | false =>
          simp only [freezeContext, Option.filter_some, truthy, Bool.false_eq_true, if_false] at ok
          obtain rfl := Except.ok.inj ok
          simp [thawContext, truthy]
      | true =>
          simp only [freezeContext, Option.filter_some, truthy, if_true, bind_eq_ok, return_eq_ok]
            at ok
          obtain ⟨inner, isFrozen, rfl⟩ := ok
          rw [Option.all_some, truthy, Bool.true_and, ← thaw_freeze_iff]
          simp only [thawContext, Option.map_some, Option.map_eq_some_iff,
            Option.filter_eq_some_iff, Option.some.injEq]
          constructor
          · intro given
            obtain ⟨_, ⟨rfl, _⟩, same⟩ := given
            exact ⟨inner, isFrozen, same⟩
          · intro given
            obtain ⟨other, alsoFrozen, same⟩ := given
            obtain rfl := Except.ok.inj (isFrozen.symm.trans alsoFrozen)
            refine ⟨_, ⟨rfl, ?_⟩, same⟩
            apply isTruthy_of_isTruthy_thawDates
            rw [same]
            exact truthy

/-- A label comes back exactly when it is plain. -/
theorem label_eq_self_iff (label : Option SerializableValue)
    : label.map (jsonRoundTrip dates) = label ↔ label.all isPlain = true := by
  cases label with
  | none => simp
  | some label =>
      simp only [Option.map_some, Option.some.injEq, Option.all_some]
      exact jsonRoundTrip_eq_self_iff label

/-- A writable transaction is restored as it was exactly when it comes back. -/
theorem restored_eq_self_iff {later : Instant} {tx : PendingTransaction}
    (writable : isWritable tx = true)
    : (tx.hash ≠ "" ∧ restored dates later tx = tx) ↔ comesBack dates later tx = true := by
  obtain ⟨_, validContext⟩ := Bool.and_eq_true_iff.mp writable
  obtain ⟨frozen, ok⟩ := (@freezeContext_isOk dates tx.simulationContext).mpr validContext
  have fieldwise
      : restored dates later tx = tx
        ↔ thawContext dates (frozen.map (jsonRoundTrip dates)) = tx.simulationContext
          ∧ later = tx.submittedAt
          ∧ importedInterval (some (jsonRoundTrip dates (.number tx.intervalMs)))
            = tx.intervalMs
          ∧ tx.label.map (jsonRoundTrip dates) = tx.label := by
    cases tx
    simp only [restored, PendingTransaction.mk.injEq, true_and]
    simp only at ok
    rw [ok]
  rw [fieldwise, thawContext_freezeContext_iff ok, importedInterval_eq_self_iff,
    label_eq_self_iff]
  simp only [comesBack, Bool.and_eq_true, decide_eq_true_eq]
  constructor
  · intro given
    obtain ⟨hasHash, context, submitted, interval, label⟩ := given
    exact ⟨⟨⟨⟨hasHash, submitted.symm⟩, interval⟩, context⟩, label⟩
  · intro given
    obtain ⟨⟨⟨⟨hasHash, submitted⟩, interval⟩, context⟩, label⟩ := given
    exact ⟨hasHash, context, submitted.symm, interval, label⟩

/-- A filtered and changed list is the same as before exactly when nothing was dropped or changed,
by induction on the list: dropping makes it shorter.
-/
theorem map_filter_eq_self_iff {α : Type} {test : α → Bool} {change : α → α} {items : List α}
    : (items.filter test).map change = items
      ↔ ∀ item ∈ items, test item = true ∧ change item = item := by
  induction items with
  | nil => simp
  | cons item rest ih =>
      rw [List.forall_mem_cons, ← ih]
      cases passes : test item with
      | true => simp [passes]
      | false =>
          -- Dropping an item makes the list too short to be the same.
          refine iff_of_false (fun same => ?_) (by simp)
          have shorter : (rest.filter test).length ≤ rest.length := List.length_filter_le test rest
          have sameLength := congrArg List.length same
          simp [passes] at sameLength
          omega

/-- Every pending transaction is registered under its hash. -/
theorem RegistryMatchesLoops.registered {state : TrackingState}
    (matching : RegistryMatchesLoops state) {tx : PendingTransaction}
    (member : tx ∈ getPendingTransactions state)
    : ∃ existing, state.pendingTransactions.get tx.hash = some existing := by
  obtain ⟨tracked, isValue, rfl⟩ := List.mem_map.mp member
  obtain ⟨⟨hash, _⟩, isEntry, rfl⟩ := List.mem_map.mp isValue
  have found := InsertionMap.get_eq_some_iff.mpr isEntry
  have sameHash := (matching.loopOfEntry hash _ found).1
  exact ⟨_, sameHash.symm ▸ found⟩

/-- No two pending transactions have the same hash, since the registry's keys are distinct. -/
theorem RegistryMatchesLoops.distinct {state : TrackingState}
    (matching : RegistryMatchesLoops state)
    : ((getPendingTransactions state).map PendingTransaction.hash).Nodup := by
  have sameKeys
      : (getPendingTransactions state).map PendingTransaction.hash
        = state.pendingTransactions.keys := by
    rw [getPendingTransactions, InsertionMap.values, InsertionMap.keys, List.map_map,
      List.map_map]
    apply List.map_congr_left
    rintro ⟨hash, tracked⟩ isEntry
    exact (matching.loopOfEntry hash tracked (InsertionMap.get_eq_some_iff.mpr isEntry)).1
  rw [sameKeys]
  exact state.pendingTransactions.unique

/-- A state is exported exactly when its pending transactions are written. -/
theorem exportState_eq_ok {state : TrackingState} {exported : SerializableValue}
    : exportState dates state = .ok exported
      ↔ ∃ pending,
          serializeAll dates (getPendingTransactions state) = .ok pending
          ∧ exportedState dates state.now pending = exported := by
  simp only [exportState, bind_eq_ok, return_eq_ok]

/-- An exported state is accepted and its entries are imported. -/
theorem importState_exportedState (state : TrackingState) (exportedAt : Instant)
    (pending : List SerializableValue)
    : importState dates state (jsonRoundTrip dates (exportedState dates exportedAt pending))
      = .ok (importEntries dates state (jsonItems dates pending)) := by
  rfl

/-- The fresh client after the import: its pending transactions are those restored, and importing
the same again passes all over, then and later.
-/
theorem importEntries_fresh {state : TrackingState} (matching : RegistryMatchesLoops state)
    {items : List SerializableValue} (later : Instant)
    (written : serializeAll dates (getPendingTransactions state) = .ok items)
    : let next := (importEntries dates (.initial later) (jsonItems dates items)).2
      getPendingTransactions next
        = ((getPendingTransactions state).filter (isRestored later)).map (restored dates later)
      ∧ next.now = later
      ∧ ∀ evenLater : Instant,
          later.ms ≤ evenLater.ms
          → (importEntries dates { next with now := evenLater } (jsonItems dates items)).2
            = { next with now := evenLater } := by
  intro next
  have pending
      : getPendingTransactions next
        = ((getPendingTransactions state).filter (isRestored later)).map
            (restored dates later) :=
    getPendingTransactions_importEntries written matching.distinct fun _ _ => rfl
  have matchingNext : RegistryMatchesLoops next :=
    importEntries_preserves (fun _ options matching => matching.trackTransaction options)
      (jsonItems dates items) (registryMatchesLoops_initial later)
  refine ⟨pending, ?_, fun evenLater forward => ?_⟩
  · exact (@importEntries_preserves dates (Keeps (.initial later))
      (fun middle options kept => kept.trans (keeps_trackTransaction middle options))
      (.initial later) (jsonItems dates items) (.refl _)).now
  · apply importEntries_passedOver written
    intro tx member
    -- Imported again, what was restored is registered by now, and the rest stays too late.
    by_cases isNew : isRestored later tx = true
    · have isPending : restored dates later tx ∈ getPendingTransactions next := by
        rw [pending]
        exact List.mem_map.mpr ⟨tx, List.mem_filter.mpr ⟨member, isNew⟩, rfl⟩
      have isRegistered := matchingNext.registered isPending
      exact .inr (.inl isRegistered)
    · by_cases noHash : tx.hash = ""
      · exact .inl noHash
      · have late : isBefore later tx.deadline = false := by
          simpa [isRestored, noHash] using isNew
        exact .inr (.inr (isBefore_later forward late))

/-- The state of any reachable client goes through JSON into a fresh client at the given time if
and only if all its pending transactions can be written and those whose deadline has not
passed come back. Witness: the import restores entry by entry, which leaves exactly those
that come back as they were.
-/
theorem importState_exportState_iff (dates : DateFormat) (now : Instant)
    (actions : List TrackingAction) (state : TrackingState) (later : Instant)
    (reached : run (trackingStep dates) (.initial now) actions = some state)
    : RoundTrips dates state later
      ↔ ∀ tx ∈ getPendingTransactions state,
          isWritable tx = true
          ∧ (isBefore later tx.deadline = true → comesBack dates later tx = true) := by
  have matching := RegistryMatchesLoops.reached reached
  -- Among the transactions that are alive, those with a hash are restored.
  have restoredOf
      : (getPendingTransactions state).filter (isRestored later)
        = ((getPendingTransactions state).filter (fun tx => isBefore later tx.deadline)).filter
            (fun tx => tx.hash ≠ "") := by
    rw [List.filter_filter]
    rfl
  constructor
  · intro given
    obtain ⟨exported, restored, next, isExported, imported, same, _⟩ := given
    obtain ⟨items, written, rfl⟩ := exportState_eq_ok.mp isExported
    have writable := (serializeAll_isOk _).mp ⟨items, written⟩
    obtain ⟨pending, _⟩ := importEntries_fresh matching later written
    rw [importState_exportedState] at imported
    obtain ⟨_, rfl⟩ := Prod.mk.inj (Except.ok.inj imported)
    rw [pending, restoredOf, map_filter_eq_self_iff] at same
    intro tx member
    refine ⟨writable tx member, fun alive => ?_⟩
    obtain ⟨hasHash, asBefore⟩ := same tx (List.mem_filter.mpr ⟨member, alive⟩)
    exact (restored_eq_self_iff (writable tx member)).mp ⟨of_decide_eq_true hasHash, asBefore⟩
  · intro condition
    have writable : ∀ tx ∈ getPendingTransactions state, isWritable tx = true :=
      fun tx member => (condition tx member).1
    obtain ⟨items, written⟩ := (serializeAll_isOk _).mpr writable
    obtain ⟨pending, sameTime, again⟩ := importEntries_fresh matching later written
    have same
        : getPendingTransactions (importEntries dates (.initial later) (jsonItems dates items)).2
          = (getPendingTransactions state).filter (fun tx => isBefore later tx.deadline) := by
      rw [pending, restoredOf, map_filter_eq_self_iff]
      intro tx member
      obtain ⟨member, alive⟩ := List.mem_filter.mp member
      obtain ⟨writable, comesBack⟩ := condition tx member
      obtain ⟨hasHash, asBefore⟩ := (restored_eq_self_iff writable).mpr (comesBack alive)
      exact ⟨decide_eq_true hasHash, asBefore⟩
    obtain ⟨aliveItems, aliveWritten⟩ :=
      (@serializeAll_isOk dates
        ((getPendingTransactions state).filter (fun tx => isBefore later tx.deadline))).mpr
        fun tx member => writable tx (List.mem_filter.mp member).1
    refine ⟨_, _, _, exportState_eq_ok.mpr ⟨items, written, rfl⟩,
      importState_exportedState _ _ items, same, ⟨aliveItems, aliveWritten, ?_⟩,
      fun evenLater forward => ?_⟩
    · rw [exportState_eq_ok, same, sameTime]
      exact ⟨aliveItems, aliveWritten, rfl⟩
    · rw [importState_exportedState]
      exact ⟨_, congrArg Except.ok (Prod.ext rfl (again evenLater forward))⟩

/-- A transaction with a label, and a context that holds a date. -/
def trackedDeposit : List TrackingAction :=
  [
    .trackTransaction
      {
        hash := "a"
        simulationContext := some (.object [("fetchedAt", .date (some epoch))])
        timeoutMs := some (.finite 60000)
        label := some (.text "Vault deposit")
      }
  ]

/-- It comes back in the millisecond in which it was submitted. -/
theorem importState_exportState_iff_sameTime
    : ∃ state,
        run (trackingStep sampleFormat) (.initial epoch) trackedDeposit = some state
        ∧ (getPendingTransactions state).map PendingTransaction.hash = ["a"]
        ∧ RoundTrips sampleFormat state epoch := by
  refine ⟨_, rfl, rfl, ?_⟩
  apply (importState_exportState_iff sampleFormat epoch trackedDeposit _ epoch rfl).mpr
  decide

/-- A second later its submission time is lost. -/
theorem importState_exportState_forgets
    : ∃ state,
        run (trackingStep sampleFormat) (.initial epoch) trackedDeposit = some state
        ∧ ¬ RoundTrips sampleFormat state ⟨1000, by decide⟩ := by
  refine ⟨_, rfl, ?_⟩
  intro given
  obtain ⟨exported, restored, next, isExported, imported, same, _⟩ := given
  obtain rfl := Except.ok.inj isExported
  obtain ⟨_, rfl⟩ := Prod.mk.inj (Except.ok.inj imported)
  have submitted := congrArg (List.map PendingTransaction.submittedAt) same
  exact absurd submitted (by decide)

end Axionvera.Client.Tracking
