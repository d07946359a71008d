import Axionvera.Foundation.InsertionMap
import Axionvera.Foundation.RoundedArithmetic
import Axionvera.Foundation.ThrownValue
import Axionvera.Foundation.TransitionSystem

/-! The profiler of calls (`profiling/profilingService.ts`). Calls overlap in any order, and
profiling is switched on and off and cleared while they go on.
-/

namespace Axionvera.Profiling

open Axionvera.Foundation

variable {ω ρ : Type}

/-- `ProfilingLevel`. -/
inductive ProfilingLevel where
  | off
  | basic
  | detailed
  deriving DecidableEq, Repr

/-- The type of a profiled call. -/
inductive CallType where
  | contract
  | rpc
  | custom
  deriving DecidableEq, Repr

/-- The metadata of a call: texts, and values of the caller. -/
abbrev Metadata (ω : Type) := InsertionMap String (String ⊕ ω)

/-- `ProfileOptions`. -/
structure ProfileOptions (ω : Type) where
  type : Option CallType
  metadata : Option (Metadata ω)

/-- `ProfiledCallMetric`. -/
structure ProfiledCallMetric (ω : Type) where
  id : String
  name : String
  type : CallType
  startedAt : String
  endedAt : String
  durationMs : JsNumber
  success : Bool
  metadata : Option (Metadata ω)
  errorMessage : Option String
  memoryDeltaBytes : Option JsNumber

/-- What the profiler reads when a call begins or ends: the date as a text, the clock, and the
memory in use, where it is known.
-/
structure Reading where
  date : String
  now : JsNumber
  memory : Option JsNumber

/-- `ProfilingService`. -/
structure ProfilingService (ω : Type) where
  enabled : Bool
  level : ProfilingLevel
  metrics : List (ProfiledCallMetric ω)
  nextId : Nat

/-- The variables of a call of `profile` that is profiled. -/
structure ProfileFrame (ω : Type) where
  name : String
  options : ProfileOptions ω
  startedAt : String
  start : JsNumber
  memoryStart : Option JsNumber

namespace ProfilingService

/-- The constructor, with the given part of its configuration. -/
def new (enabled : Option Bool) (level : Option ProfilingLevel) : ProfilingService ω :=
  let enabled := enabled.getD false
  {
    enabled := enabled
    level := level.getD (if enabled then .basic else .off)
    metrics := []
    nextId := 1
  }

/-- `enable`. -/
def enable (service : ProfilingService ω) (level : ProfilingLevel) : ProfilingService ω :=
  { service with enabled := true, level := level }

/-- `disable`. -/
def disable (service : ProfilingService ω) : ProfilingService ω :=
  { service with enabled := false, level := .off }

/-- `isEnabled`. -/
def isEnabled (service : ProfilingService ω) : Bool :=
  service.enabled && service.level ≠ .off

/-- `clear`, which goes on counting. -/
def clear (service : ProfilingService ω) : ProfilingService ω :=
  { service with metrics := [] }

/-- What `profile` sets up before its operation, if it profiles it. -/
def frame (service : ProfilingService ω) (name : String) (options : ProfileOptions ω)
    (reading : Reading) : Option (ProfileFrame ω) :=
  if service.isEnabled then
    some
      {
        name := name
        options := options
        startedAt := reading.date
        start := reading.now
        memoryStart := if service.level = .detailed then reading.memory else none
      }
  else none

/-- The metric that `record` adds. -/
def metric (service : ProfilingService ω) (frame : ProfileFrame ω) (success : Bool)
    (errorMessage : Option String) (reading : Reading) : ProfiledCallMetric ω :=
  let memoryEnd := if service.level = .detailed then reading.memory else none
  {
    id := "profile-" ++ toString service.nextId
    name := frame.name
    type := frame.options.type.getD .custom
    startedAt := frame.startedAt
    endedAt := reading.date
    durationMs := (JsNumber.finite 0).max (reading.now.roundedSub frame.start)
    success := success
    metadata := frame.options.metadata
    errorMessage := errorMessage
    memoryDeltaBytes :=
      frame.memoryStart.bind fun memoryStart => memoryEnd.map (·.roundedSub memoryStart)
  }

/-- `record`. -/
def record (service : ProfilingService ω) (frame : ProfileFrame ω) (success : Bool)
    (errorMessage : Option String) (reading : Reading) : ProfilingService ω :=
  { service with
    metrics := service.metrics ++ [service.metric frame success errorMessage reading]
    nextId := service.nextId + 1 }

end ProfilingService

/-- The arguments of `profile` that `profileContractCall` passes. -/
def profileContractCall (contract method : String) (metadata : Metadata ω)
    : String × ProfileOptions ω :=
  (contract ++ "." ++ method,
    {
      type := some .contract
      metadata :=
        some
          (metadata.entries.foldl (fun all entry => all.set entry.1 entry.2)
            ((InsertionMap.empty.set "contract" (.inl contract)).set "method" (.inl method)))
    })

/-- The arguments of `profile` that `profileRpcCall` passes. -/
def profileRpcCall (method : String) (metadata : Metadata ω) : String × ProfileOptions ω :=
  (method,
    {
      type := some .rpc
      metadata :=
        some
          (metadata.entries.foldl (fun all entry => all.set entry.1 entry.2)
            (InsertionMap.empty.set "method" (.inl method)))
    })

/-- The text that `profile` records for what its operation threw; reading it can throw. -/
def errorMessage (printed : JsNumber → String) : ThrownValue → Except ThrownValue String
  | .error _ message => message
  | thrown => thrown.toText printed

/-- The operation returned, or threw something that can be described. -/
def isDescribed (printed : JsNumber → String) : Except ThrownValue ρ → Bool
  | .ok _ => true
  | .error error => (errorMessage printed error).isOk

/-- A call of `profile`: its operation goes on, or has returned or thrown. -/
inductive ProfileCall (ω ρ : Type) where
  | going (frame : Option (ProfileFrame ω))
  | ended (frame : Option (ProfileFrame ω)) (outcome : Except ThrownValue ρ)

/-- The variables of a call. -/
def ProfileCall.frame : ProfileCall ω ρ → Option (ProfileFrame ω)
  | .going frame | .ended frame _ => frame

/-- The service with the calls of `profile` in the order in which they began, and all metrics that
were ever recorded, with the numbers of their calls.
-/
structure ProfiledRun (ω ρ : Type) where
  service : ProfilingService ω
  calls : List (ProfileCall ω ρ)
  recorded : List (Nat × ProfiledCallMetric ω)

/-- What happens to the service: a method is called, or the operation of a call comes to its
end.
-/
inductive ProfilingEvent (ω ρ : Type) where
  | enable (level : ProfilingLevel)
  | disable
  | clear
  | begin (name : String) (options : ProfileOptions ω) (reading : Reading)
  | settle (call : Nat) (outcome : Except ThrownValue ρ) (reading : Reading)

namespace ProfiledRun

/-- A new service. -/
def new (enabled : Option Bool) (level : Option ProfilingLevel) : ProfiledRun ω ρ :=
  ⟨.new enabled level, [], []⟩

/-- Record a metric for a call. -/
def record (run : ProfiledRun ω ρ) (call : Nat) (frame : ProfileFrame ω) (success : Bool)
    (errorMessage : Option String) (reading : Reading) : ProfiledRun ω ρ :=
  { run with
    service := run.service.record frame success errorMessage reading
    recorded := run.recorded ++ [(call, run.service.metric frame success errorMessage reading)] }

/-- What follows the operation of a profiled call. -/
def settled (printed : JsNumber → String) (run : ProfiledRun ω ρ) (call : Nat)
    (frame : ProfileFrame ω) (outcome : Except ThrownValue ρ) (reading : Reading)
    : ProfiledRun ω ρ :=
  match outcome with
  | .ok _ => run.record call frame true none reading
  | .error error =>
      match errorMessage printed error with
      | .ok message => run.record call frame false (some message) reading
      | .error _ => run

/-- One event; no operation ends that does not go on. -/
def step (printed : JsNumber → String) (run : ProfiledRun ω ρ)
    : ProfilingEvent ω ρ → Option (ProfiledRun ω ρ)
  | .enable level => some { run with service := run.service.enable level }
  | .disable => some { run with service := run.service.disable }
  | .clear => some { run with service := run.service.clear }
  | .begin name options reading =>
      some { run with calls := run.calls ++ [.going (run.service.frame name options reading)] }
  | .settle call outcome reading =>
      match run.calls[call]? with
      | some (.going frame) =>
          let ended := { run with calls := run.calls.set call (.ended frame outcome) }
          match frame with
          | none => some ended
          | some frame => some (ended.settled printed call frame outcome reading)
      | _ => none

end ProfiledRun

end Axionvera.Profiling
