import Axionvera.Errors
import Axionvera.Foundation.JsNumber

/-! The monitor of RPC endpoints (`monitoring/rpcHealthMonitor.ts`), step by step: rounds of checks,
and for each check an answer, a failure or a timeout, of which the first one decides. Times are in
milliseconds, and averages are exact.
-/

namespace Axionvera.Monitoring

open Axionvera.Errors
open Axionvera.Foundation

/-- `EndpointHealthState`. -/
inductive EndpointHealthState where
  | unknown
  | healthy
  | degraded
  | unhealthy
  deriving DecidableEq, Repr

/-- `RpcHealthResponse`. What cannot be read as one makes its check fail. -/
structure RpcHealthResponse where
  status : Option String := none
  version : Option String := none
  deriving DecidableEq, Repr

/-- `RpcEndpointMetrics`. -/
structure RpcEndpointMetrics where
  totalChecks : Nat
  successfulChecks : Nat
  failedChecks : Nat
  consecutiveFailures : Nat
  lastLatencyMs : Option Int
  averageLatencyMs : Option ℚ
  minLatencyMs : Option Int
  maxLatencyMs : Option Int
  availabilityPercentage : ℚ
  deriving DecidableEq

/-- `RpcEndpointStatus`. -/
structure RpcEndpointStatus where
  id : String
  url : String
  network : Option String
  state : EndpointHealthState
  available : Bool
  checkedAt : Option Int
  error : Option String
  response : Option RpcHealthResponse
  metrics : RpcEndpointMetrics
  deriving DecidableEq

/-- `RpcEndpointConfig`, of which the client is left to what the endpoints do. -/
structure RpcEndpointConfig where
  id : Option String := none
  url : String
  network : Option String := none

/-- The numbers of a monitor's configuration. -/
structure MonitorConfig where
  intervalMs : JsNumber
  timeoutMs : JsNumber
  degradedLatencyMs : JsNumber
  unhealthyAfterFailures : JsNumber

/-- A check that is not recorded yet: it waits for the endpoint and the timer, or one of them has
decided it.
-/
inductive CheckStage where
  | waiting
  | settled (outcome : Except String RpcHealthResponse)

/-- A check of an endpoint in a round. -/
structure HealthCheck where
  round : Nat
  startedAt : Int
  stage : CheckStage

/-- What a recorded check came to. -/
inductive CheckOutcome where
  | answered (latencyMs : Int) (response : RpcHealthResponse)
  | failed (error : String)
  deriving DecidableEq

/-- `InternalEndpoint`, with its checks that are going on and what the others came to, in order. -/
structure InternalEndpoint where
  status : RpcEndpointStatus
  latencySamples : List Int
  checks : List HealthCheck
  outcomes : List CheckOutcome

/-- `createDefaultMetrics`. -/
def createDefaultMetrics : RpcEndpointMetrics where
  totalChecks := 0
  successfulChecks := 0
  failedChecks := 0
  consecutiveFailures := 0
  lastLatencyMs := none
  averageLatencyMs := none
  minLatencyMs := none
  maxLatencyMs := none
  availabilityPercentage := 0

/-- An endpoint before its first check. -/
def InternalEndpoint.initial (endpoint : RpcEndpointConfig) : InternalEndpoint where
  status :=
    {
      id := endpoint.id.getD endpoint.url
      url := endpoint.url
      network := endpoint.network
      state := .unknown
      available := false
      checkedAt := none
      error := none
      response := none
      metrics := createDefaultMetrics
    }
  latencySamples := []
  checks := []
  outcomes := []

/-- The answer reports a healthy endpoint, or nothing about it. -/
def RpcHealthResponse.isHealthy (response : RpcHealthResponse) : Bool :=
  match response.status with
  | none => true
  | some status => toLowerCase status = "healthy".toList

/-- The share of successful checks, in percent. -/
def availabilityPercentage (successfulChecks totalChecks : Nat) : ℚ :=
  (successfulChecks : ℚ) / (totalChecks : ℚ) * 100

/-- The state after an answer. -/
def answeredState (config : MonitorConfig) (latencyMs : Int) (response : RpcHealthResponse)
    : EndpointHealthState :=
  if response.isHealthy then
    if config.degradedLatencyMs.lt (.finite latencyMs) then .degraded else .healthy
  else .unhealthy

/-- The average of samples. -/
def averageOf (latencySamples : List Int) : ℚ :=
  ((latencySamples.foldl (fun sum sample => sum + sample) 0 : Int) : ℚ)
    / (latencySamples.length : ℚ)

/-- The metrics after an answer, with all samples up to it. -/
def RpcEndpointMetrics.afterSuccess (metrics : RpcEndpointMetrics) (latencySamples : List Int)
    (latencyMs : Int)
    : RpcEndpointMetrics :=
  { metrics with
    totalChecks := metrics.totalChecks + 1
    successfulChecks := metrics.successfulChecks + 1
    consecutiveFailures := 0
    lastLatencyMs := some latencyMs
    minLatencyMs := some (match metrics.minLatencyMs with
      | none => latencyMs
      | some low => min low latencyMs)
    maxLatencyMs := some (match metrics.maxLatencyMs with
      | none => latencyMs
      | some high => max high latencyMs)
    averageLatencyMs := some (averageOf latencySamples)
    availabilityPercentage :=
      Monitoring.availabilityPercentage (metrics.successfulChecks + 1) (metrics.totalChecks + 1)
  }

/-- `recordSuccess`. -/
def InternalEndpoint.recordSuccess (endpoint : InternalEndpoint) (latencyMs : Int)
    (state : EndpointHealthState) (response : RpcHealthResponse) (now : Int)
    : InternalEndpoint :=
  let latencySamples := endpoint.latencySamples ++ [latencyMs]
  { endpoint with
    latencySamples := latencySamples
    status :=
      { endpoint.status with
        state := state
        available := state ≠ .unhealthy
        checkedAt := some now
        error := none
        response := some response
        metrics := endpoint.status.metrics.afterSuccess latencySamples latencyMs
      }
    outcomes := endpoint.outcomes ++ [.answered latencyMs response]
  }

/-- The metrics after a failure. -/
def RpcEndpointMetrics.afterFailure (metrics : RpcEndpointMetrics) : RpcEndpointMetrics :=
  { metrics with
    totalChecks := metrics.totalChecks + 1
    failedChecks := metrics.failedChecks + 1
    consecutiveFailures := metrics.consecutiveFailures + 1
    availabilityPercentage :=
      Monitoring.availabilityPercentage metrics.successfulChecks (metrics.totalChecks + 1)
  }

/-- `recordFailure`. -/
def InternalEndpoint.recordFailure (config : MonitorConfig) (endpoint : InternalEndpoint)
    (error : String) (now : Int)
    : InternalEndpoint :=
  let metrics := endpoint.status.metrics.afterFailure
  { endpoint with
    status :=
      { endpoint.status with
        state :=
          if config.unhealthyAfterFailures.isAtMost metrics.consecutiveFailures then .unhealthy
          else .degraded
        available := false
        checkedAt := some now
        error := some error
        response := none
        metrics := metrics
      }
    outcomes := endpoint.outcomes ++ [.failed error]
  }

/-- `checkEndpoint` up to what it waits for. -/
def InternalEndpoint.startCheck (round : Nat) (now : Int) (endpoint : InternalEndpoint)
    : InternalEndpoint :=
  { endpoint with checks := endpoint.checks ++ [⟨round, now, .waiting⟩] }

/-- The race of `withTimeout`: what comes first decides a check, and what comes later does nothing.
-/
def HealthCheck.settle (round : Nat) (outcome : Except String RpcHealthResponse)
    (check : HealthCheck)
    : HealthCheck :=
  match check.stage with
  | .waiting => if check.round = round then { check with stage := .settled outcome } else check
  | .settled _ => check

/-- An endpoint answers or fails, or a timer goes off. -/
def InternalEndpoint.settle (endpoint : InternalEndpoint) (round : Nat)
    (outcome : Except String RpcHealthResponse)
    : InternalEndpoint :=
  { endpoint with checks := endpoint.checks.map (HealthCheck.settle round outcome) }

/-- `checkEndpoint` behind what it waits for. -/
def InternalEndpoint.record (config : MonitorConfig) (endpoint : InternalEndpoint) (round : Nat)
    (now : Int)
    : Option InternalEndpoint :=
  match endpoint.checks.find? fun check => check.round = round with
  | some ⟨_, startedAt, .settled outcome⟩ =>
      let rest :=
        { endpoint with checks := endpoint.checks.filter fun check => check.round ≠ round }
      match outcome with
      | .ok response =>
          let latencyMs := now - startedAt
          some (rest.recordSuccess latencyMs (answeredState config latencyMs response) response now)
      | .error error => some (rest.recordFailure config error now)
  | _ => none

/-- The monitor, with the rounds that are going on and the number of those that were started. -/
structure RpcHealthMonitor where
  config : MonitorConfig
  running : Bool
  checkInProgress : Bool
  endpoints : List InternalEndpoint
  rounds : List Nat
  roundsStarted : Nat

/-- The constructor, without `autoStart`, which is a call of `start`. -/
def RpcHealthMonitor.initial (config : MonitorConfig) (endpoints : List RpcEndpointConfig)
    : RpcHealthMonitor where
  config := config
  running := false
  checkInProgress := false
  endpoints := endpoints.map InternalEndpoint.initial
  rounds := []
  roundsStarted := 0

/-- `runHealthChecks` up to what it waits for. -/
def RpcHealthMonitor.runHealthChecks (monitor : RpcHealthMonitor) (now : Int) : RpcHealthMonitor :=
  if monitor.checkInProgress then monitor
  else
    { monitor with
      checkInProgress := true
      endpoints := monitor.endpoints.map (InternalEndpoint.startCheck monitor.roundsStarted now)
      rounds := monitor.rounds ++ [monitor.roundsStarted]
      roundsStarted := monitor.roundsStarted + 1
    }

/-- Something happens at one endpoint. -/
def RpcHealthMonitor.atEndpoint (monitor : RpcHealthMonitor) (index : Nat)
    (change : InternalEndpoint → Option InternalEndpoint)
    : Option RpcHealthMonitor := do
  let endpoint ← monitor.endpoints[index]?
  let changed ← change endpoint
  return { monitor with endpoints := monitor.endpoints.set index changed }

/-- The next thing to happen: a call, a tick of the interval, an endpoint that answers or fails in a
round, a timer of a check, the continuation of a check that is decided, or the end of a round.
-/
inductive MonitorAction where
  | start (now : Int)
  | stop
  | tick (now : Int)
  | runHealthChecks (now : Int)
  | settle (endpoint round : Nat) (outcome : Except String RpcHealthResponse)
  | timeout (endpoint round : Nat)
  | record (endpoint round : Nat) (now : Int)
  | finish (round : Nat)

/-- One step of the monitor, for a way to write numbers. -/
def monitorStep (numberText : JsNumber → String) (monitor : RpcHealthMonitor)
    : MonitorAction → Option RpcHealthMonitor
  | .start now =>
      if monitor.running then some monitor
      else some ({ monitor with running := true }.runHealthChecks now)
  | .stop => some { monitor with running := false }
  | .tick now => if monitor.running then some (monitor.runHealthChecks now) else none
  | .runHealthChecks now => some (monitor.runHealthChecks now)
  | .settle index round outcome =>
      monitor.atEndpoint index fun endpoint => some (endpoint.settle round outcome)
  | .timeout index round =>
      monitor.atEndpoint index fun endpoint =>
        some (endpoint.settle round
          (.error
            ("RPC health check timed out after " ++ numberText monitor.config.timeoutMs ++ "ms")))
  | .record index round now =>
      monitor.atEndpoint index fun endpoint => endpoint.record monitor.config round now
  | .finish round =>
      if round ∈ monitor.rounds
          ∧ ∀ endpoint ∈ monitor.endpoints, ∀ check ∈ endpoint.checks, check.round ≠ round then
        some { monitor with checkInProgress := false, rounds := monitor.rounds.erase round }
      else none

-----------------------------------------------------------------------------------------
-- Reports
-----------------------------------------------------------------------------------------

/-- The summary of a report. -/
structure HealthSummary where
  total : Nat
  healthy : Nat
  degraded : Nat
  unhealthy : Nat
  unknown : Nat
  available : Nat
  deriving DecidableEq, Repr

/-- A summary of no endpoints. -/
def HealthSummary.empty : HealthSummary := ⟨0, 0, 0, 0, 0, 0⟩

/-- One more endpoint in a state. -/
def HealthSummary.count (summary : HealthSummary) : EndpointHealthState → HealthSummary
  | .unknown => { summary with unknown := summary.unknown + 1 }
  | .healthy => { summary with healthy := summary.healthy + 1 }
  | .degraded => { summary with degraded := summary.degraded + 1 }
  | .unhealthy => { summary with unhealthy := summary.unhealthy + 1 }

/-- The step of the summary's `reduce`. -/
def HealthSummary.add (summary : HealthSummary) (endpoint : RpcEndpointStatus) : HealthSummary :=
  let counted := { summary with total := summary.total + 1 }.count endpoint.state
  if endpoint.available then { counted with available := counted.available + 1 } else counted

/-- `RpcHealthStatusReport`. -/
structure RpcHealthStatusReport where
  generatedAt : Int
  running : Bool
  intervalMs : JsNumber
  timeoutMs : JsNumber
  endpoints : List RpcEndpointStatus
  summary : HealthSummary

/-- `getEndpointStatuses`. -/
def RpcHealthMonitor.getEndpointStatuses (monitor : RpcHealthMonitor) : List RpcEndpointStatus :=
  monitor.endpoints.map InternalEndpoint.status

/-- `getEndpointStatus`. -/
def RpcHealthMonitor.getEndpointStatus (monitor : RpcHealthMonitor) (endpointIdOrUrl : String)
    : Option RpcEndpointStatus :=
  monitor.getEndpointStatuses.find? fun status =>
    status.id = endpointIdOrUrl || status.url = endpointIdOrUrl

/-- `getHealthReport`. -/
def RpcHealthMonitor.getHealthReport (monitor : RpcHealthMonitor) (now : Int)
    : RpcHealthStatusReport where
  generatedAt := now
  running := monitor.running
  intervalMs := monitor.config.intervalMs
  timeoutMs := monitor.config.timeoutMs
  endpoints := monitor.getEndpointStatuses
  summary := monitor.getEndpointStatuses.foldl HealthSummary.add .empty

end Axionvera.Monitoring
