import Axionvera.Foundation.JsNumber
import Axionvera.Foundation.LowerCase
import Mathlib.Data.List.Infix

/-! The buffer of telemetry events (`telemetry/telemetryService.ts`). -/

namespace Axionvera.Telemetry

open Axionvera.Foundation

/-- `TelemetryConfig`. -/
structure TelemetryConfig where
  enabled : Bool
  anonymize : Bool
  bufferSize : JsNumber
  flushIntervalMs : JsNumber
  appId : Option String
  sdkVersion : Option String

/-- `DEFAULT_TELEMETRY_CONFIG`. -/
def defaultTelemetryConfig : TelemetryConfig where
  enabled := false
  anonymize := true
  bufferSize := .finite 50
  flushIntervalMs := .finite 30000
  appId := none
  sdkVersion := none

/-- `Partial<TelemetryConfig>`. -/
structure ConfigUpdates where
  enabled : Option Bool := none
  anonymize : Option Bool := none
  bufferSize : Option JsNumber := none
  flushIntervalMs : Option JsNumber := none
  appId : Option String := none
  sdkVersion : Option String := none

/-- `{ ...config, ...updates }`. -/
def TelemetryConfig.update (config : TelemetryConfig) (updates : ConfigUpdates)
    : TelemetryConfig where
  enabled := updates.enabled.getD config.enabled
  anonymize := updates.anonymize.getD config.anonymize
  bufferSize := updates.bufferSize.getD config.bufferSize
  flushIntervalMs := updates.flushIntervalMs.getD config.flushIntervalMs
  appId := updates.appId <|> config.appId
  sdkVersion := updates.sdkVersion <|> config.sdkVersion

/-- The data of an event: texts, other values that are no objects, arrays with their items, and
objects with their entries.
-/
inductive TelemetryData (π : Type) where
  | text (text : String)
  | primitive (value : π)
  | array (items : List (TelemetryData π))
  | object (entries : List (String × TelemetryData π))

/-- `sensitiveKeys`. -/
def sensitiveKeys : List String := ["address", "publicKey", "email", "userId", "account"]

/-- `text.toLowerCase()`. Whether a sigma is final does not matter to what is looked for in it. -/
def lowerCase (text : String) : CodeUnits :=
  CodeUnits.toLowerCase (fun _ _ => false) (codeUnits text)

/-- The key names one of `sensitiveKeys`. -/
def isSensitiveKey (key : String) : Bool :=
  sensitiveKeys.any fun sensitive => lowerCase sensitive <:+: lowerCase key

mutual
/-- A value of the result of `anonymize`. An array is an object, too. -/
def anonymizeValue {π : Type} : TelemetryData π → TelemetryData π
  | .text text => .text text
  | .primitive value => .primitive value
  | .array items => .object (anonymizeItems 0 items)
  | .object entries => .object (anonymize entries)

/-- `anonymize`, for the items of an array from an index on: their keys are their indices. -/
def anonymizeItems {π : Type}
    : Nat → List (TelemetryData π) → List (String × TelemetryData π)
  | _, [] => []
  | index, item :: rest =>
      let key := toString index
      if isSensitiveKey key then (key, .text "[REDACTED]") :: anonymizeItems (index + 1) rest
      else (key, anonymizeValue item) :: anonymizeItems (index + 1) rest

/-- `anonymize`. An assignment to `__proto__` makes no entry. -/
def anonymize {π : Type} : List (String × TelemetryData π) → List (String × TelemetryData π)
  | [] => []
  | (key, value) :: rest =>
      if key = "__proto__" then anonymize rest
      else if isSensitiveKey key then (key, .text "[REDACTED]") :: anonymize rest
      else (key, anonymizeValue value) :: anonymize rest
end

/-- The id of an event: when it was tracked, its number, and a random text. -/
structure EventId where
  now : Int
  counter : Nat
  random : String
  deriving DecidableEq, Repr

/-- The text of an id. -/
def EventId.toText (id : EventId) : String :=
  toString id.now ++ "-" ++ toString id.counter ++ "-" ++ id.random

/-- `TelemetryEvent`. -/
structure TelemetryEvent (π : Type) where
  id : EventId
  type : String
  timestamp : Int
  data : List (String × TelemetryData π)
  anonymized : Bool

/-- The counters, gauges and histograms of `MetricsCollector`. -/
structure MetricsCollector (κ : Type) where
  counters : List κ
  gauges : List κ
  histograms : List κ

/-- A collector without metrics, as `clear` leaves it. -/
def MetricsCollector.empty {κ : Type} : MetricsCollector κ := ⟨[], [], []⟩

/-- `MetricsSnapshot`. -/
structure MetricsSnapshot (κ : Type) extends MetricsCollector κ where
  timestamp : Int

/-- What the handler is called with. -/
structure Batch (π κ : Type) where
  events : List (TelemetryEvent π)
  snapshot : MetricsSnapshot κ

/-- The service, with the calls of its handler and all events that were tracked so far. The handler
does not call back, and what it throws or rejects with is dropped.
-/
structure TelemetryService (π κ : Type) where
  config : TelemetryConfig
  events : List (TelemetryEvent π)
  metrics : MetricsCollector κ
  flushTimer : Option JsNumber
  hasFlushHandler : Bool
  eventCounter : Nat
  batches : List (Batch π κ)
  tracked : List (TelemetryEvent π)

variable {π κ : Type}

/-- `startFlushTimer`. -/
def TelemetryService.startFlushTimer (service : TelemetryService π κ) : TelemetryService π κ :=
  { service with flushTimer := some service.config.flushIntervalMs }

/-- `stopFlushTimer`. -/
def TelemetryService.stopFlushTimer (service : TelemetryService π κ) : TelemetryService π κ :=
  { service with flushTimer := none }

/-- The constructor. -/
def newTelemetryService (config : ConfigUpdates) : TelemetryService π κ :=
  let service : TelemetryService π κ :=
    {
      config := defaultTelemetryConfig.update config
      events := []
      metrics := .empty
      flushTimer := none
      hasFlushHandler := false
      eventCounter := 0
      batches := []
      tracked := []
    }
  if service.config.enabled then service.startFlushTimer else service

/-- `onFlush`. -/
def TelemetryService.onFlush (service : TelemetryService π κ) : TelemetryService π κ :=
  { service with hasFlushHandler := true }

/-- `flush`. -/
def TelemetryService.flush (service : TelemetryService π κ) (now : Int) : TelemetryService π κ :=
  if service.events.length = 0 then service
  else
    let emptied := { service with events := [] }
    if service.hasFlushHandler then
      let snapshot := { service.metrics with timestamp := now }
      { emptied with batches := service.batches ++ [⟨service.events, snapshot⟩] }
    else emptied

/-- `setEnabled`. -/
def TelemetryService.setEnabled (service : TelemetryService π κ) (enabled : Bool)
    : TelemetryService π κ :=
  let service := { service with config := { service.config with enabled := enabled } }
  if enabled then service.startFlushTimer else service.stopFlushTimer

/-- The event that `track` makes. -/
def TelemetryService.newEvent (service : TelemetryService π κ) (type : String)
    (data : List (String × TelemetryData π)) (now : Int) (random : String)
    : TelemetryEvent π where
  id := ⟨now, service.eventCounter + 1, random⟩
  type := type
  timestamp := now
  data := if service.config.anonymize then anonymize data else data
  anonymized := service.config.anonymize

/-- `track`. -/
def TelemetryService.track (service : TelemetryService π κ) (type : String)
    (data : List (String × TelemetryData π)) (now : Int) (random : String)
    : TelemetryService π κ :=
  if service.config.enabled then
    let event := service.newEvent type data now random
    let service :=
      { service with
        eventCounter := service.eventCounter + 1
        events := service.events ++ [event]
        tracked := service.tracked ++ [event]
      }
    if service.config.bufferSize.isAtMost service.events.length then service.flush now else service
  else service

/-- `updateConfig`. -/
def TelemetryService.updateConfig (service : TelemetryService π κ) (updates : ConfigUpdates)
    (now : Int)
    : TelemetryService π κ :=
  let wasEnabled := service.config.enabled
  let service := { service with config := service.config.update updates }
  if !wasEnabled && service.config.enabled then service.startFlushTimer
  else if wasEnabled && !service.config.enabled then service.stopFlushTimer.flush now
  else service

/-- `destroy`. -/
def TelemetryService.destroy (service : TelemetryService π κ) (now : Int) : TelemetryService π κ :=
  { service.stopFlushTimer.flush now with metrics := .empty }

/-- The next thing to happen: a call, a tick of the timer, or a change of the metrics. -/
inductive TelemetryAction (π κ : Type) where
  | track (type : String) (data : List (String × TelemetryData π)) (now : Int) (random : String)
  | tick (now : Int)
  | flush (now : Int)
  | setEnabled (enabled : Bool)
  | updateConfig (updates : ConfigUpdates) (now : Int)
  | measure (metrics : MetricsCollector κ)

/-- One step of the service; the timer ticks only while it is set. -/
def telemetryStep (service : TelemetryService π κ)
    : TelemetryAction π κ → Option (TelemetryService π κ)
  | .track type data now random => some (service.track type data now random)
  | .tick now => if service.flushTimer.isSome then some (service.flush now) else none
  | .flush now => some (service.flush now)
  | .setEnabled enabled => some (service.setEnabled enabled)
  | .updateConfig updates now => some (service.updateConfig updates now)
  | .measure metrics => some { service with metrics := metrics }

end Axionvera.Telemetry
