import Axionvera.Foundation.TransitionSystem
import Axionvera.Telemetry.TelemetryService
import Mathlib.Data.List.Nodup

/-! All events that are tracked while the service is enabled reach the handler once and in order,
whatever flushes them, and the buffer stays below its size.
-/

namespace Axionvera.Telemetry

open Axionvera.Foundation

variable {π κ : Type}

/-- Once the service is destroyed, the handler was called with all tracked events, in order and
without repetition, and never without events.
-/
structure TelemetryService.DeliversOnce (service : TelemetryService π κ) : Prop where
  delivered
    : ∀ now, (service.destroy now).batches.flatMap Batch.events = service.tracked
  distinct : (service.tracked.map fun event => event.id.counter).Nodup
  noneEmpty : ∀ now, ∀ batch ∈ (service.destroy now).batches, batch.events ≠ []

/-- The buffer size is at least one after an update, and not less than before. -/
def NeverLowers (service : TelemetryService π κ) : TelemetryAction π κ → Prop
  | .updateConfig updates _ =>
      ∀ size,
        updates.bufferSize = some size
        → size.isAtLeast 1 = true ∧ ¬ size.lt service.config.bufferSize
  | _ => True

/-- Whether an action lowers the buffer size can be computed. -/
instance (service : TelemetryService π κ) : DecidablePred (NeverLowers service)
  | .updateConfig updates _ =>
      inferInstanceAs
        (Decidable
          (∀ size ∈ updates.bufferSize,
            size.isAtLeast 1 = true ∧ ¬ size.lt service.config.bufferSize))
  | .track .. | .tick _ | .flush _ | .setEnabled _ | .measure _ => .isTrue trivial

/-- With a handler, the events that it was called with and those in the buffer are the tracked ones,
numbered from one on, and it was never called without events.
-/
structure TelemetryService.Conserves (service : TelemetryService π κ) : Prop where
  hasFlushHandler : service.hasFlushHandler = true
  conserved : service.batches.flatMap Batch.events ++ service.events = service.tracked
  numbered
    : service.tracked.map (fun event => event.id.counter) = List.range' 1 service.eventCounter
  noneEmpty : ∀ batch ∈ service.batches, batch.events ≠ []

/-- The buffer size is at least one, and there are fewer events in the buffer. -/
structure TelemetryService.IsBounded (service : TelemetryService π κ) : Prop where
  atLeastOne : service.config.bufferSize.isAtLeast 1 = true
  fewer : (JsNumber.finite service.events.length).lt service.config.bufferSize

variable {service next : TelemetryService π κ}

-----------------------------------------------------------------------------------------
-- What the calls do
-----------------------------------------------------------------------------------------

/-- A flush empties the buffer. -/
theorem TelemetryService.flush_events (service : TelemetryService π κ) (now : Int)
    : (service.flush now).events = [] := by
  rw [TelemetryService.flush]
  split_ifs with isEmpty
  · exact List.eq_nil_of_length_eq_zero isEmpty
  · rfl
  · rfl

/-- A flush leaves everything but the buffer and the handler's calls. -/
theorem TelemetryService.flush_config (service : TelemetryService π κ) (now : Int)
    : (service.flush now).config = service.config
      ∧ (service.flush now).tracked = service.tracked
      ∧ (service.flush now).eventCounter = service.eventCounter
      ∧ (service.flush now).hasFlushHandler = service.hasFlushHandler := by
  rw [TelemetryService.flush]
  split_ifs <;> exact ⟨rfl, rfl, rfl, rfl⟩

/-- A flush with a handler loses no event. -/
theorem TelemetryService.Conserves.flush (conserves : service.Conserves) (now : Int)
    : (service.flush now).Conserves := by
  obtain ⟨-, sameTracked, sameCounter, sameHandler⟩ := service.flush_config now
  constructor
  case hasFlushHandler => exact sameHandler.trans conserves.hasFlushHandler
  case conserved =>
    rw [service.flush_events, sameTracked, List.append_nil, ← conserves.conserved,
      TelemetryService.flush]
    split_ifs with isEmpty hasHandler
    · rw [List.eq_nil_of_length_eq_zero isEmpty, List.append_nil]
    · rw [List.flatMap_append, List.flatMap_singleton]
    · exact absurd conserves.hasFlushHandler hasHandler
  case numbered => rw [sameTracked, sameCounter, conserves.numbered]
  case noneEmpty =>
    intro batch member
    rw [TelemetryService.flush] at member
    split_ifs at member with isEmpty hasHandler
    · exact conserves.noneEmpty batch member
    · rcases List.mem_append.mp member with isOld | isNew
      · exact conserves.noneEmpty batch isOld
      · obtain rfl := List.mem_singleton.mp isNew
        exact fun noEvents => isEmpty (congrArg List.length noEvents)
    · exact conserves.noneEmpty batch member

/-- Nothing is lost while the buffer, the handler and its calls stay. -/
theorem TelemetryService.Conserves.of_same (conserves : service.Conserves)
    (sameHandler : next.hasFlushHandler = service.hasFlushHandler)
    (sameBatches : next.batches = service.batches) (sameEvents : next.events = service.events)
    (sameTracked : next.tracked = service.tracked)
    (sameCounter : next.eventCounter = service.eventCounter)
    : next.Conserves where
  hasFlushHandler := sameHandler.trans conserves.hasFlushHandler
  conserved := by rw [sameBatches, sameEvents, sameTracked, conserves.conserved]
  numbered := by rw [sameTracked, sameCounter, conserves.numbered]
  noneEmpty := by
    rw [sameBatches]
    exact conserves.noneEmpty

/-- Tracking loses no event. -/
theorem TelemetryService.Conserves.track (conserves : service.Conserves) (type : String)
    (data : List (String × TelemetryData π)) (now : Int) (random : String)
    : (service.track type data now random).Conserves := by
  rw [TelemetryService.track]
  split_ifs with enabled
  · have added
        : TelemetryService.Conserves
            { service with
              eventCounter := service.eventCounter + 1
              events := service.events ++ [service.newEvent type data now random]
              tracked := service.tracked ++ [service.newEvent type data now random]
            } := by
      constructor
      case hasFlushHandler => exact conserves.hasFlushHandler
      case conserved =>
        rw [← List.append_assoc, conserves.conserved]
      case numbered =>
        rw [List.map_append, conserves.numbered, List.range'_1_concat, Nat.add_comm 1]
        rfl
      case noneEmpty => exact conserves.noneEmpty
    dsimp only
    split_ifs
    · exact added.flush now
    · exact added
  · exact conserves

/-- The timer is of no concern to events. -/
theorem TelemetryService.Conserves.timer (conserves : service.Conserves) (config : TelemetryConfig)
    (flushTimer : Option JsNumber)
    : TelemetryService.Conserves { service with config := config, flushTimer := flushTimer } :=
  conserves.of_same rfl rfl rfl rfl rfl

/-- No step loses an event. -/
theorem TelemetryService.Conserves.step {action : TelemetryAction π κ}
    (conserves : service.Conserves)
    (taken : telemetryStep service action = some next)
    : next.Conserves := by
  cases action with
  | track type data now random => exact Option.some.inj taken ▸ conserves.track type data now random
  | tick now =>
      rw [telemetryStep] at taken
      split_ifs at taken
      exact Option.some.inj taken ▸ conserves.flush now
  | flush now => exact Option.some.inj taken ▸ conserves.flush now
  | setEnabled enabled =>
      obtain rfl := Option.some.inj taken
      rw [TelemetryService.setEnabled]
      split_ifs <;> exact conserves.timer _ _
  | updateConfig updates now =>
      obtain rfl := Option.some.inj taken
      rw [TelemetryService.updateConfig]
      split_ifs
      · exact conserves.timer _ _
      · exact (conserves.timer _ _).flush now
      · exact conserves.timer _ _
  | measure metrics => exact Option.some.inj taken ▸ conserves.of_same rfl rfl rfl rfl rfl

-----------------------------------------------------------------------------------------
-- The size of the buffer
-----------------------------------------------------------------------------------------

/-- An empty buffer has room if its size is at least one. -/
theorem zero_lt_of_isAtLeast_one {size : JsNumber} (atLeastOne : size.isAtLeast 1 = true)
    : (JsNumber.finite 0).lt size := by
  cases size with
  | finite bound =>
      simp only [JsNumber.isAtLeast, Int.cast_one, decide_eq_true_eq] at atLeastOne
      exact lt_of_lt_of_le zero_lt_one atLeastOne
  | nan => cases atLeastOne
  | infinity negative => simpa [JsNumber.isAtLeast, JsNumber.lt] using atLeastOne

/-- A buffer has room after a flush. -/
theorem TelemetryService.IsBounded.flush
    (atLeastOne : service.config.bufferSize.isAtLeast 1 = true) (now : Int)
    : (service.flush now).IsBounded := by
  have sameConfig := (service.flush_config now).1
  constructor
  case atLeastOne => rw [sameConfig, atLeastOne]
  case fewer =>
    rw [sameConfig, service.flush_events]
    exact zero_lt_of_isAtLeast_one atLeastOne

/-- A buffer has room after tracking, which flushes a full one. -/
theorem TelemetryService.IsBounded.track (bounded : service.IsBounded) (type : String)
    (data : List (String × TelemetryData π)) (now : Int) (random : String)
    : (service.track type data now random).IsBounded := by
  rw [TelemetryService.track]
  split_ifs with enabled
  · dsimp only
    split_ifs with isFull
    · refine .flush ?_ now
      exact bounded.atLeastOne
    · refine ⟨bounded.atLeastOne, ?_⟩
      exact_mod_cast JsNumber.finite_lt_of_isAtMost_eq_false bounded.atLeastOne
        (Bool.eq_false_iff.mpr isFull)
  · exact bounded

/-- A buffer keeps its room when its size is not lowered. -/
theorem TelemetryService.IsBounded.update (bounded : service.IsBounded) {updates : ConfigUpdates}
    {now : Int} (neverLowers : NeverLowers service (.updateConfig updates now))
    : (service.config.update updates).bufferSize.isAtLeast 1 = true
      ∧ (JsNumber.finite service.events.length).lt (service.config.update updates).bufferSize := by
  rw [TelemetryConfig.update]
  cases isSize : updates.bufferSize with
  | none => exact ⟨bounded.atLeastOne, bounded.fewer⟩
  | some size =>
      obtain ⟨atLeastOne, notLess⟩ := neverLowers size isSize
      exact ⟨atLeastOne, JsNumber.finite_lt_of_not_lt bounded.fewer atLeastOne notLess⟩

/-- A step that does not lower the size leaves room in the buffer. -/
theorem TelemetryService.IsBounded.step {action : TelemetryAction π κ} (bounded : service.IsBounded)
    (neverLowers : NeverLowers service action)
    (taken : telemetryStep service action = some next)
    : next.IsBounded := by
  cases action with
  | track type data now random => exact Option.some.inj taken ▸ bounded.track type data now random
  | tick now =>
      rw [telemetryStep] at taken
      split_ifs at taken
      exact Option.some.inj taken ▸ .flush bounded.atLeastOne now
  | flush now => exact Option.some.inj taken ▸ .flush bounded.atLeastOne now
  | setEnabled enabled =>
      obtain rfl := Option.some.inj taken
      rw [TelemetryService.setEnabled]
      split_ifs <;> exact ⟨bounded.atLeastOne, bounded.fewer⟩
  | updateConfig updates now =>
      obtain rfl := Option.some.inj taken
      obtain ⟨atLeastOne, fewer⟩ := bounded.update neverLowers
      rw [TelemetryService.updateConfig]
      split_ifs
      · exact ⟨atLeastOne, fewer⟩
      · exact .flush atLeastOne now
      · exact ⟨atLeastOne, fewer⟩
  | measure metrics => exact Option.some.inj taken ▸ ⟨bounded.atLeastOne, bounded.fewer⟩

-----------------------------------------------------------------------------------------
-- Runs
-----------------------------------------------------------------------------------------

/-- A service that loses no event delivers all of them once it is destroyed. -/
theorem TelemetryService.Conserves.deliversOnce (conserves : service.Conserves)
    : service.DeliversOnce := by
  have flushed (now : Int) : (service.stopFlushTimer.flush now).Conserves :=
    (conserves.timer service.config none).flush now
  constructor
  case delivered =>
    intro now
    have conserved := (flushed now).conserved
    rw [TelemetryService.flush_events, List.append_nil, (TelemetryService.flush_config _ now).2.1]
      at conserved
    exact conserved
  case distinct =>
    rw [conserves.numbered]
    exact List.nodup_range'
  case noneEmpty => exact fun now => (flushed now).noneEmpty

/-- Whatever calls and ticks come after a handler was registered, once the service is destroyed the
handler was called with all events that were tracked, once and in order, and between calls there
is room in the buffer as long as its size was at least one and never lowered.
-/
theorem deliversOnce_run (config : ConfigUpdates) {actions : List (TelemetryAction π κ)}
    {final : TelemetryService π κ}
    (reached : run telemetryStep (newTelemetryService config).onFlush actions = some final)
    : final.DeliversOnce
      ∧ ((defaultTelemetryConfig.update config).bufferSize.isAtLeast 1 = true
        → stepsSatisfy telemetryStep NeverLowers
            (newTelemetryService config : TelemetryService π κ).onFlush actions
        → (JsNumber.finite final.events.length).lt final.config.bufferSize) := by
  have isNew
      : ∃ flushTimer,
          (newTelemetryService config : TelemetryService π κ).onFlush
          = ⟨defaultTelemetryConfig.update config, [], .empty, flushTimer, true, 0, [], []⟩ := by
    rw [newTelemetryService]
    split_ifs
    · exact ⟨_, rfl⟩
    · exact ⟨_, rfl⟩
  obtain ⟨flushTimer, isNew⟩ := isNew
  rw [isNew] at reached ⊢
  constructor
  · have conserves : final.Conserves :=
      run_preserves (fun _ _ _ taken conserves => conserves.step taken)
        ⟨rfl, rfl, rfl, fun _ member => absurd member List.not_mem_nil⟩ reached
    exact conserves.deliversOnce
  · intro atLeastOne neverLowers
    have initial
        : TelemetryService.IsBounded
            (⟨defaultTelemetryConfig.update config, [], .empty, flushTimer, true, 0, [], []⟩
              : TelemetryService π κ) :=
      ⟨atLeastOne, zero_lt_of_isAtLeast_one atLeastOne⟩
    have bounded : final.IsBounded :=
      run_preserves_of_stepsSatisfy
        (fun _ _ _ neverLowers taken bounded => bounded.step neverLowers taken)
        initial neverLowers reached
    exact bounded.fewer

/-- A buffer for two events. -/
def smallBuffer : ConfigUpdates := { enabled := some true, bufferSize := some (.finite 2) }

/-- Three events, of which the last one is tracked after a time in which the service was disabled.
-/
def interrupted : List (TelemetryAction Unit Unit) :=
  [.track "first" [] 0 "a", .track "second" [("email", .text "user@test.com")] 1 "b",
    .updateConfig { bufferSize := some (.finite 3) } 2, .setEnabled false, .track "lost" [] 3 "c",
    .setEnabled true, .track "third" [] 4 "d", .tick 30004]

/-- The events are delivered once. -/
theorem deliversOnce_interrupted
    : ∃ final,
        run telemetryStep (newTelemetryService smallBuffer).onFlush interrupted = some final
        ∧ final.tracked.map TelemetryEvent.type = ["first", "second", "third"]
        ∧ final.DeliversOnce
        ∧ (JsNumber.finite final.events.length).lt final.config.bufferSize := by
  have reached
      : run telemetryStep (newTelemetryService smallBuffer).onFlush interrupted = some _ := rfl
  obtain ⟨deliversOnce, isBounded⟩ := deliversOnce_run smallBuffer reached
  exact ⟨_, reached, rfl, deliversOnce, isBounded (by decide) (by decide)⟩

end Axionvera.Telemetry
