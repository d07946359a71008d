import Axionvera.Foundation.TransitionSystem
import Axionvera.Monitoring.RpcHealthMonitor
import Mathlib.Tactic.Linarith
import Mathlib.Tactic.Ring

/-! What the monitor says about an endpoint is what its recorded checks came to, whatever calls,
ticks, answers, failures and timeouts come in between, and rounds of checks do not overlap.
-/

namespace Axionvera.Monitoring

open Axionvera.Errors
open Axionvera.Foundation

/-- The check failed. -/
def CheckOutcome.isFailed : CheckOutcome → Bool
  | .answered .. => false
  | .failed _ => true

/-- The latency of an answer. -/
def CheckOutcome.latency? : CheckOutcome → Option Int
  | .answered latencyMs _ => some latencyMs
  | .failed _ => none

/-- The answer of a check, if it was answered. -/
def CheckOutcome.response? : CheckOutcome → Option RpcHealthResponse
  | .answered _ response => some response
  | .failed _ => none

/-- The number of failed checks behind the last answer. -/
def trailingFailures (outcomes : List CheckOutcome) : Nat :=
  (outcomes.reverse.takeWhile CheckOutcome.isFailed).length

/-- The last check failed. -/
def InternalEndpoint.LastCheckFailed (endpoint : InternalEndpoint) : Prop :=
  ∃ error, endpoint.outcomes.getLast? = some (.failed error)

/-- The last check was answered. -/
def InternalEndpoint.LastCheckSucceeded (endpoint : InternalEndpoint) : Prop :=
  ∃ latencyMs response, endpoint.outcomes.getLast? = some (.answered latencyMs response)

/-- The last check was answered, with a status other than healthy. -/
def InternalEndpoint.ReportedUnhealthy (endpoint : InternalEndpoint) : Prop :=
  ∃ latencyMs response,
    endpoint.outcomes.getLast? = some (.answered latencyMs response)
    ∧ response.isHealthy = false

/-- The relations between the fields of a status, and between them and the recorded checks. A status
keeps the answer of the last check only.
-/
structure InternalEndpoint.KeepsStatistics (config : MonitorConfig) (endpoint : InternalEndpoint)
    : Prop
    where
  total
    : endpoint.status.metrics.totalChecks
      = endpoint.status.metrics.successfulChecks + endpoint.status.metrics.failedChecks
  counted
    : endpoint.status.metrics.totalChecks = endpoint.outcomes.length
      ∧ endpoint.status.metrics.failedChecks = endpoint.outcomes.countP CheckOutcome.isFailed
  consecutiveFailures
    : endpoint.status.metrics.consecutiveFailures = trailingFailures endpoint.outcomes
  latencies
    : 0 < endpoint.status.metrics.successfulChecks
      → ∃ low average high,
          endpoint.status.metrics.minLatencyMs = some low
          ∧ endpoint.status.metrics.averageLatencyMs = some average
          ∧ endpoint.status.metrics.maxLatencyMs = some high
          ∧ (low : ℚ) ≤ average
          ∧ average ≤ high
  response
    : endpoint.status.response = endpoint.outcomes.getLast?.bind CheckOutcome.response?
  unhealthy
    : endpoint.status.state = .unhealthy
      ↔ endpoint.LastCheckFailed
          ∧ config.unhealthyAfterFailures.isAtMost
              endpoint.status.metrics.consecutiveFailures = true
        ∨ endpoint.ReportedUnhealthy
  available : endpoint.status.available = true → endpoint.LastCheckSucceeded

/-- Every endpoint keeps its statistics, at most one round is going on, every check that was started
is counted once, or not yet while its round goes on, what comes late changes nothing, and the
states in a report add up.
-/
structure RpcHealthMonitor.KeepsStatistics (numberText : JsNumber → String)
    (monitor : RpcHealthMonitor)
    : Prop where
  endpoints : ∀ endpoint ∈ monitor.endpoints, endpoint.KeepsStatistics monitor.config
  roundsApart : monitor.rounds.length ≤ 1
  countedOnce
    : ∀ endpoint ∈ monitor.endpoints,
        endpoint.status.metrics.totalChecks + endpoint.checks.length = monitor.roundsStarted
        ∧ endpoint.checks.length ≤ 1
  lateAnswers
    : ∀ index round outcome endpoint,
        monitor.endpoints[index]? = some endpoint
        → (∀ check ∈ endpoint.checks, check.round = round → check.stage ≠ .waiting)
        → monitorStep numberText monitor (.settle index round outcome) = some monitor
  report
    : ∀ now,
        (monitor.getHealthReport now).summary.healthy
          + (monitor.getHealthReport now).summary.degraded
            + (monitor.getHealthReport now).summary.unhealthy
            + (monitor.getHealthReport now).summary.unknown
          = (monitor.getHealthReport now).summary.total
        ∧ (monitor.getHealthReport now).summary.total
          = (monitor.getHealthReport now).endpoints.length

-----------------------------------------------------------------------------------------
-- Endpoints
-----------------------------------------------------------------------------------------

/-- The state, the availability and the answer in a status are those of the last recorded check. -/
def RpcEndpointStatus.FollowsLastCheck (config : MonitorConfig) (status : RpcEndpointStatus)
    : Option CheckOutcome → Prop
  | none => status.state = .unknown ∧ status.available = false ∧ status.response = none
  | some (.failed _) =>
      status.state
        = (if config.unhealthyAfterFailures.isAtMost status.metrics.consecutiveFailures then
            .unhealthy
          else .degraded)
      ∧ status.available = false
      ∧ status.response = none
  | some (.answered latencyMs response) =>
      status.state = answeredState config latencyMs response
      ∧ status.available = decide (status.state ≠ .unhealthy)
      ∧ status.response = some response

/-- The status of an endpoint is the one that follows from its recorded checks. -/
structure InternalEndpoint.IsAccounted (config : MonitorConfig) (endpoint : InternalEndpoint)
    : Prop where
  total : endpoint.status.metrics.totalChecks = endpoint.outcomes.length
  failed
    : endpoint.status.metrics.failedChecks = endpoint.outcomes.countP CheckOutcome.isFailed
  successful : endpoint.status.metrics.successfulChecks = endpoint.latencySamples.length
  samples : endpoint.latencySamples = endpoint.outcomes.filterMap CheckOutcome.latency?
  consecutiveFailures
    : endpoint.status.metrics.consecutiveFailures = trailingFailures endpoint.outcomes
  least
    : ∀ sample ∈ endpoint.latencySamples,
        ∃ low, endpoint.status.metrics.minLatencyMs = some low ∧ low ≤ sample
  greatest
    : ∀ sample ∈ endpoint.latencySamples,
        ∃ high, endpoint.status.metrics.maxLatencyMs = some high ∧ sample ≤ high
  average
    : endpoint.latencySamples ≠ []
      → endpoint.status.metrics.averageLatencyMs = some (averageOf endpoint.latencySamples)
  lastCheck : endpoint.status.FollowsLastCheck config endpoint.outcomes.getLast?

variable {config : MonitorConfig} {endpoint : InternalEndpoint}

/-- The sum of samples lies between bounds of the samples, by induction on them. -/
theorem sum_between {low high : Int} (samples : List Int)
    (within : ∀ sample ∈ samples, low ≤ sample ∧ sample ≤ high) (start : Int)
    : start + low * samples.length ≤ samples.foldl (fun sum sample => sum + sample) start
      ∧ samples.foldl (fun sum sample => sum + sample) start ≤ start + high * samples.length := by
  induction samples generalizing start with
  | nil => simp
  | cons sample samples ih =>
      obtain ⟨⟨atLeast, atMost⟩, others⟩ := List.forall_mem_cons.mp within
      obtain ⟨above, below⟩ := ih others (start + sample)
      rw [List.foldl_cons, List.length_cons, Nat.cast_add, Nat.cast_one, Int.mul_add, Int.mul_add]
      constructor <;> linarith

/-- The average of samples lies between bounds of the samples. -/
theorem averageOf_between {low high : Int} {samples : List Int} (some : samples ≠ [])
    (within : ∀ sample ∈ samples, low ≤ sample ∧ sample ≤ high)
    : (low : ℚ) ≤ averageOf samples ∧ averageOf samples ≤ high := by
  obtain ⟨above, below⟩ := sum_between samples within 0
  have positive : (0 : ℚ) < samples.length := by
    exact_mod_cast List.length_pos_iff.mpr some
  rw [averageOf, le_div_iff₀ positive, div_le_iff₀ positive]
  rw [Int.zero_add] at above below
  exact ⟨by exact_mod_cast above, by exact_mod_cast below⟩

/-- Checks either succeed with a latency or fail, by induction on them. -/
theorem length_outcomes (outcomes : List CheckOutcome)
    : outcomes.length
      = (outcomes.filterMap CheckOutcome.latency?).length
        + outcomes.countP CheckOutcome.isFailed := by
  induction outcomes with
  | nil => rfl
  | cons outcome outcomes ih =>
      cases outcome with
      | answered latencyMs response =>
          have isLatency
              : (CheckOutcome.answered latencyMs response).latency? = some latencyMs := rfl
          rw [List.filterMap_cons_some isLatency,
            List.countP_cons_of_neg (by simp [CheckOutcome.isFailed]), List.length_cons,
            List.length_cons, ih]
          omega
      | failed error =>
          have noLatency : (CheckOutcome.failed error).latency? = none := rfl
          rw [List.filterMap_cons_none noLatency, List.countP_cons_of_pos rfl, List.length_cons, ih]
          omega

/-- An answer makes an endpoint unhealthy exactly if it reports another status than healthy. -/
theorem answeredState_eq_unhealthy_iff {latencyMs : Int} {response : RpcHealthResponse}
    : answeredState config latencyMs response = .unhealthy ↔ response.isHealthy = false := by
  rw [answeredState]
  split_ifs with isHealthy isSlow
  · exact iff_of_false nofun (by rw [isHealthy]; nofun)
  · exact iff_of_false nofun (by rw [isHealthy]; nofun)
  · exact iff_of_true rfl (Bool.eq_false_iff.mpr isHealthy)

/-- An endpoint is unhealthy exactly after a failure too many or an answer that reports it. -/
theorem InternalEndpoint.IsAccounted.unhealthy_iff (accounted : endpoint.IsAccounted config)
    : endpoint.status.state = .unhealthy
      ↔ endpoint.LastCheckFailed
          ∧ config.unhealthyAfterFailures.isAtMost
              endpoint.status.metrics.consecutiveFailures = true
        ∨ endpoint.ReportedUnhealthy := by
  have lastCheck := accounted.lastCheck
  rw [InternalEndpoint.LastCheckFailed, InternalEndpoint.ReportedUnhealthy]
  cases isLast : endpoint.outcomes.getLast? with
  | none =>
      rw [isLast] at lastCheck
      refine iff_of_false (by rw [lastCheck.1]; nofun) ?_
      rintro (⟨⟨_, isFailed⟩, _⟩ | ⟨_, _, isAnswered, _⟩)
      · cases isFailed
      · cases isAnswered
  | some outcome =>
      rw [isLast] at lastCheck
      cases outcome with
      | answered latencyMs response =>
          rw [lastCheck.1, answeredState_eq_unhealthy_iff]
          constructor
          · exact fun reported => .inr ⟨latencyMs, response, rfl, reported⟩
          · rintro (⟨⟨_, isFailed⟩, _⟩ | ⟨_, _, isAnswered, reported⟩)
            · cases isFailed
            · cases isAnswered
              exact reported
      | failed error =>
          rw [lastCheck.1]
          split_ifs with tooMany
          · exact iff_of_true rfl (.inl ⟨⟨error, rfl⟩, tooMany⟩)
          · refine iff_of_false nofun ?_
            rintro (⟨_, isTooMany⟩ | ⟨_, _, isAnswered, _⟩)
            · exact tooMany isTooMany
            · cases isAnswered

/-- An endpoint whose status follows from its checks keeps its statistics. -/
theorem InternalEndpoint.IsAccounted.keepsStatistics (accounted : endpoint.IsAccounted config)
    : endpoint.KeepsStatistics config := by
  constructor
  case total =>
    rw [accounted.total, accounted.successful, accounted.failed, accounted.samples,
      ← length_outcomes]
  case counted => exact ⟨accounted.total, accounted.failed⟩
  case consecutiveFailures => exact accounted.consecutiveFailures
  case latencies =>
    intro successful
    rw [accounted.successful] at successful
    obtain ⟨sample, member⟩ := List.exists_mem_of_length_pos successful
    obtain ⟨low, isLow, _⟩ := accounted.least sample member
    obtain ⟨high, isHigh, _⟩ := accounted.greatest sample member
    have isSome := List.ne_nil_of_mem member
    have within : ∀ sample ∈ endpoint.latencySamples, low ≤ sample ∧ sample ≤ high := by
      intro other isOther
      obtain ⟨otherLow, isOtherLow, below⟩ := accounted.least other isOther
      obtain ⟨otherHigh, isOtherHigh, above⟩ := accounted.greatest other isOther
      rw [isLow, Option.some.injEq] at isOtherLow
      rw [isHigh, Option.some.injEq] at isOtherHigh
      exact ⟨isOtherLow ▸ below, isOtherHigh ▸ above⟩
    exact ⟨low, _, high, isLow, accounted.average isSome, isHigh, averageOf_between isSome within⟩
  case response =>
    have lastCheck := accounted.lastCheck
    cases isLast : endpoint.outcomes.getLast? with
    | none =>
        rw [isLast] at lastCheck
        exact lastCheck.2.2
    | some outcome =>
        rw [isLast] at lastCheck
        cases outcome <;> exact lastCheck.2.2
  case unhealthy => exact accounted.unhealthy_iff
  case available =>
    intro available
    have lastCheck := accounted.lastCheck
    cases isLast : endpoint.outcomes.getLast? with
    | none =>
        rw [isLast] at lastCheck
        rw [lastCheck.2.1] at available
        cases available
    | some outcome =>
        rw [isLast] at lastCheck
        cases outcome with
        | answered latencyMs response => exact ⟨latencyMs, response, isLast⟩
        | failed error =>
            rw [lastCheck.2.1] at available
            cases available

/-- An endpoint before its first check is accounted for. -/
theorem InternalEndpoint.isAccounted_initial (endpoint : RpcEndpointConfig)
    : (InternalEndpoint.initial endpoint).IsAccounted config where
  total := rfl
  failed := rfl
  successful := rfl
  samples := rfl
  consecutiveFailures := rfl
  least _ member := absurd member List.not_mem_nil
  greatest _ member := absurd member List.not_mem_nil
  average isSome := absurd rfl isSome
  lastCheck := ⟨rfl, rfl, rfl⟩

/-- An endpoint stays accounted for while nothing but its checks changes. -/
theorem InternalEndpoint.IsAccounted.withChecks (accounted : endpoint.IsAccounted config)
    (checks : List HealthCheck)
    : { endpoint with checks := checks }.IsAccounted config :=
  ⟨accounted.total, accounted.failed, accounted.successful, accounted.samples,
    accounted.consecutiveFailures, accounted.least, accounted.greatest, accounted.average,
    accounted.lastCheck⟩

/-- A failure is one more behind the last answer. -/
theorem trailingFailures_failed (outcomes : List CheckOutcome) (error : String)
    : trailingFailures (outcomes ++ [.failed error]) = trailingFailures outcomes + 1 := by
  rw [trailingFailures, List.reverse_append, List.reverse_singleton, List.singleton_append,
    List.takeWhile_cons_of_pos rfl, List.length_cons, trailingFailures]

/-- There is no failure behind an answer. -/
theorem trailingFailures_answered (outcomes : List CheckOutcome) (latencyMs : Int)
    (response : RpcHealthResponse)
    : trailingFailures (outcomes ++ [.answered latencyMs response]) = 0 := by
  rw [trailingFailures, List.reverse_append, List.reverse_singleton, List.singleton_append,
    List.takeWhile_cons_of_neg (by simp [CheckOutcome.isFailed]), List.length_nil]

/-- An endpoint stays accounted for with one more answer. -/
theorem InternalEndpoint.IsAccounted.recordSuccess (accounted : endpoint.IsAccounted config)
    (latencyMs : Int) (response : RpcHealthResponse) (now : Int)
    : (endpoint.recordSuccess latencyMs (answeredState config latencyMs response) response
        now).IsAccounted config := by
  constructor
  case total =>
    rw [InternalEndpoint.recordSuccess, List.length_append]
    exact congrArg (· + 1) accounted.total
  case failed =>
    have noFailure
        : [CheckOutcome.answered latencyMs response].countP CheckOutcome.isFailed = 0 := rfl
    rw [InternalEndpoint.recordSuccess, List.countP_append, noFailure]
    exact accounted.failed
  case successful =>
    rw [InternalEndpoint.recordSuccess, List.length_append]
    exact congrArg (· + 1) accounted.successful
  case samples =>
    rw [InternalEndpoint.recordSuccess, List.filterMap_append, accounted.samples]
    rfl
  case consecutiveFailures =>
    exact (trailingFailures_answered endpoint.outcomes latencyMs response).symm
  case least =>
    intro sample member
    rcases List.mem_append.mp member with isOld | isNew
    · obtain ⟨low, isLow, below⟩ := accounted.least sample isOld
      refine ⟨min low latencyMs, ?_, (min_le_left low latencyMs).trans below⟩
      rw [InternalEndpoint.recordSuccess, RpcEndpointMetrics.afterSuccess, isLow]
    · obtain rfl := List.mem_singleton.mp isNew
      refine ⟨_, rfl, ?_⟩
      split
      · exact le_rfl
      · exact min_le_right _ _
  case greatest =>
    intro sample member
    rcases List.mem_append.mp member with isOld | isNew
    · obtain ⟨high, isHigh, above⟩ := accounted.greatest sample isOld
      refine ⟨max high latencyMs, ?_, above.trans (le_max_left high latencyMs)⟩
      rw [InternalEndpoint.recordSuccess, RpcEndpointMetrics.afterSuccess, isHigh]
    · obtain rfl := List.mem_singleton.mp isNew
      refine ⟨_, rfl, ?_⟩
      split
      · exact le_rfl
      · exact le_max_right _ _
  case average => exact fun _ => rfl
  case lastCheck =>
    rw [InternalEndpoint.recordSuccess, List.getLast?_concat]
    exact ⟨rfl, rfl, rfl⟩

/-- An endpoint stays accounted for with one more failure. -/
theorem InternalEndpoint.IsAccounted.recordFailure (accounted : endpoint.IsAccounted config)
    (error : String) (now : Int)
    : (endpoint.recordFailure config error now).IsAccounted config := by
  constructor
  case total =>
    rw [InternalEndpoint.recordFailure, List.length_append]
    exact congrArg (· + 1) accounted.total
  case failed =>
    have oneFailure : [CheckOutcome.failed error].countP CheckOutcome.isFailed = 1 := rfl
    rw [InternalEndpoint.recordFailure, List.countP_append, oneFailure]
    exact congrArg (· + 1) accounted.failed
  case successful => exact accounted.successful
  case samples =>
    rw [InternalEndpoint.recordFailure, List.filterMap_append]
    exact accounted.samples.trans (List.append_nil _).symm
  case consecutiveFailures =>
    rw [InternalEndpoint.recordFailure, trailingFailures_failed]
    exact congrArg (· + 1) accounted.consecutiveFailures
  case least => exact accounted.least
  case greatest => exact accounted.greatest
  case average => exact accounted.average
  case lastCheck =>
    rw [InternalEndpoint.recordFailure, List.getLast?_concat]
    exact ⟨rfl, rfl, rfl⟩

/-- Recording a check takes it away and adds what it came to. -/
theorem InternalEndpoint.record_cases {round : Nat} {now : Int} {changed : InternalEndpoint}
    (recorded : endpoint.record config round now = some changed)
    : changed.checks = endpoint.checks.filter (fun check => check.round ≠ round)
      ∧ (∃ check ∈ endpoint.checks, check.round = round)
      ∧ changed.outcomes.length = endpoint.outcomes.length + 1
      ∧ (endpoint.IsAccounted config → changed.IsAccounted config) := by
  rw [InternalEndpoint.record] at recorded
  split at recorded
  · rename_i sameRound startedAt outcome isFirst
    have ofRound := List.find?_some isFirst
    rw [decide_eq_true_eq] at ofRound
    have isCheck : ∃ check ∈ endpoint.checks, check.round = round :=
      ⟨_, List.mem_of_find?_eq_some isFirst, ofRound⟩
    cases outcome with
    | ok response =>
        obtain rfl := Option.some.inj recorded
        refine ⟨rfl, isCheck, List.length_append, ?_⟩
        exact fun accounted => (accounted.withChecks _).recordSuccess _ _ now
    | error error =>
        obtain rfl := Option.some.inj recorded
        refine ⟨rfl, isCheck, List.length_append, ?_⟩
        exact fun accounted => (accounted.withChecks _).recordFailure error now
  · cases recorded

/-- What settles checks leaves their rounds as they are. -/
theorem HealthCheck.settle_round (round : Nat) (outcome : Except String RpcHealthResponse)
    (check : HealthCheck)
    : (check.settle round outcome).round = check.round := by
  rw [HealthCheck.settle]
  split
  · split_ifs <;> rfl
  · rfl

/-- What comes late leaves checks as they are. -/
theorem HealthCheck.settle_of_late {round : Nat} {outcome : Except String RpcHealthResponse}
    {check : HealthCheck} (late : check.round = round → check.stage ≠ .waiting)
    : check.settle round outcome = check := by
  rw [HealthCheck.settle]
  split
  · rename_i waiting
    rw [if_neg fun ofRound => late ofRound waiting]
  · rfl

-----------------------------------------------------------------------------------------
-- The monitor
-----------------------------------------------------------------------------------------

/-- One round is going on while a check is in progress, all endpoints are accounted for, and have
one check for every round that was started, recorded or going on.
-/
structure RpcHealthMonitor.IsAccounted (monitor : RpcHealthMonitor) : Prop where
  rounds
    : monitor.checkInProgress = true ∧ (∃ round, monitor.rounds = [round])
      ∨ monitor.checkInProgress = false ∧ monitor.rounds = []
  endpoints : ∀ endpoint ∈ monitor.endpoints, endpoint.IsAccounted monitor.config
  checks
    : ∀ endpoint ∈ monitor.endpoints,
        endpoint.outcomes.length + endpoint.checks.length = monitor.roundsStarted
        ∧ endpoint.checks.length ≤ 1
        ∧ ∀ check ∈ endpoint.checks, check.round ∈ monitor.rounds

variable {monitor next : RpcHealthMonitor}

/-- A monitor before its first round is accounted for. -/
theorem RpcHealthMonitor.isAccounted_initial (config : MonitorConfig)
    (endpoints : List RpcEndpointConfig)
    : (RpcHealthMonitor.initial config endpoints).IsAccounted := by
  refine ⟨.inr ⟨rfl, rfl⟩, ?_, ?_⟩
  · intro endpoint member
    obtain ⟨given, _, rfl⟩ := List.mem_map.mp member
    exact InternalEndpoint.isAccounted_initial given
  · intro endpoint member
    obtain ⟨given, _, rfl⟩ := List.mem_map.mp member
    exact ⟨rfl, Nat.zero_le 1, fun _ isCheck => absurd isCheck List.not_mem_nil⟩

/-- A new round starts only if none is going on, so that a monitor stays accounted for. -/
theorem RpcHealthMonitor.IsAccounted.runHealthChecks (accounted : monitor.IsAccounted) (now : Int)
    : (monitor.runHealthChecks now).IsAccounted := by
  rw [RpcHealthMonitor.runHealthChecks]
  split_ifs with inProgress
  · exact accounted
  · have noRounds : monitor.rounds = [] := by
      rcases accounted.rounds with ⟨isInProgress, _⟩ | ⟨_, noRounds⟩
      · exact absurd isInProgress inProgress
      · exact noRounds
    refine ⟨.inl ⟨rfl, monitor.roundsStarted, by rw [noRounds]; rfl⟩, ?_, ?_⟩
    · intro endpoint member
      obtain ⟨old, isOld, rfl⟩ := List.mem_map.mp member
      exact (accounted.endpoints old isOld).withChecks _
    · intro endpoint member
      obtain ⟨old, isOld, rfl⟩ := List.mem_map.mp member
      obtain ⟨counted, _, inRound⟩ := accounted.checks old isOld
      have noChecks : old.checks = [] := by
        apply List.eq_nil_iff_forall_not_mem.mpr
        intro check isCheck
        have ofRound := inRound check isCheck
        rw [noRounds] at ofRound
        exact absurd ofRound List.not_mem_nil
      rw [noChecks] at counted
      rw [InternalEndpoint.startCheck, noChecks, noRounds]
      refine ⟨congrArg (· + 1) counted, le_rfl, ?_⟩
      intro check isCheck
      obtain rfl := List.mem_singleton.mp isCheck
      exact List.mem_singleton.mpr rfl

/-- A change at one endpoint is a change of one of its list. -/
theorem RpcHealthMonitor.atEndpoint_eq_some {index : Nat}
    {change : InternalEndpoint → Option InternalEndpoint}
    (taken : monitor.atEndpoint index change = some next)
    : ∃ endpoint ∈ monitor.endpoints, ∃ changed,
        change endpoint = some changed
        ∧ next = { monitor with endpoints := monitor.endpoints.set index changed } := by
  rw [RpcHealthMonitor.atEndpoint] at taken
  simp only [bind, Option.bind_eq_some_iff, pure, Option.some.injEq] at taken
  obtain ⟨endpoint, isEndpoint, changed, isChanged, rfl⟩ := taken
  exact ⟨endpoint, List.mem_of_getElem? isEndpoint, changed, isChanged, rfl⟩

/-- A monitor stays accounted for if the endpoint that changes does. -/
theorem RpcHealthMonitor.IsAccounted.set (accounted : monitor.IsAccounted) (index : Nat)
    {changed : InternalEndpoint} (isAccounted : changed.IsAccounted monitor.config)
    (checks
      : changed.outcomes.length + changed.checks.length = monitor.roundsStarted
        ∧ changed.checks.length ≤ 1
        ∧ ∀ check ∈ changed.checks, check.round ∈ monitor.rounds)
    : { monitor with endpoints := monitor.endpoints.set index changed }.IsAccounted := by
  refine ⟨accounted.rounds, ?_, ?_⟩
  · intro endpoint member
    rcases List.mem_or_eq_of_mem_set member with isOld | rfl
    · exact accounted.endpoints endpoint isOld
    · exact isAccounted
  · intro endpoint member
    rcases List.mem_or_eq_of_mem_set member with isOld | rfl
    · exact accounted.checks endpoint isOld
    · exact checks

/-- A monitor stays accounted for when a check is settled. -/
theorem RpcHealthMonitor.IsAccounted.settle (accounted : monitor.IsAccounted) {index round : Nat}
    {outcome : Except String RpcHealthResponse}
    (taken
      : monitor.atEndpoint index (fun endpoint => some (endpoint.settle round outcome)) = some next)
    : next.IsAccounted := by
  obtain ⟨endpoint, member, _, ⟨⟩, rfl⟩ := RpcHealthMonitor.atEndpoint_eq_some taken
  obtain ⟨counted, atMostOne, inRound⟩ := accounted.checks endpoint member
  have sameLength : (endpoint.settle round outcome).checks.length = endpoint.checks.length :=
    List.length_map _
  apply accounted.set index ((accounted.endpoints endpoint member).withChecks _)
  refine ⟨sameLength.symm ▸ counted, sameLength.symm ▸ atMostOne, ?_⟩
  intro check isCheck
  obtain ⟨old, isOld, rfl⟩ := List.mem_map.mp isCheck
  rw [HealthCheck.settle_round]
  exact inRound old isOld

/-- A monitor stays accounted for when a check is recorded, which is the only one of its endpoint.
-/
theorem RpcHealthMonitor.IsAccounted.record (accounted : monitor.IsAccounted) {index round : Nat}
    {now : Int}
    (taken
      : monitor.atEndpoint index (fun endpoint => endpoint.record monitor.config round now)
        = some next)
    : next.IsAccounted := by
  obtain ⟨endpoint, member, changed, recorded, rfl⟩ := RpcHealthMonitor.atEndpoint_eq_some taken
  obtain ⟨fewer, ⟨check, isCheck, ofRound⟩, longer, isAccounted⟩
      := InternalEndpoint.record_cases recorded
  obtain ⟨counted, atMostOne, _⟩ := accounted.checks endpoint member
  apply accounted.set index (isAccounted (accounted.endpoints endpoint member))
  obtain ⟨only, isOnly⟩ : ∃ only, endpoint.checks = [only] :=
    List.length_eq_one_iff.mp (by have := List.length_pos_of_mem isCheck; omega)
  rw [isOnly] at isCheck counted fewer
  obtain rfl := List.mem_singleton.mp isCheck
  have noneLeft : changed.checks = [] := by
    rw [fewer, List.filter_cons_of_neg (by simp [ofRound]), List.filter_nil]
  rw [noneLeft, longer]
  exact ⟨counted, Nat.zero_le 1, fun _ isCheck => absurd isCheck List.not_mem_nil⟩

/-- A monitor stays accounted for when its round ends, in which every endpoint has been checked. -/
theorem RpcHealthMonitor.IsAccounted.finish (accounted : monitor.IsAccounted) {round : Nat}
    (isRound : round ∈ monitor.rounds)
    (ended : ∀ endpoint ∈ monitor.endpoints, ∀ check ∈ endpoint.checks, check.round ≠ round)
    : { monitor with
        checkInProgress := false, rounds := monitor.rounds.erase round }.IsAccounted := by
  rcases accounted.rounds with ⟨_, only, isOnly⟩ | ⟨_, noRounds⟩
  · rw [isOnly] at isRound
    obtain rfl := List.mem_singleton.mp isRound
    have noneLeft : monitor.rounds.erase round = [] := by
      rw [isOnly, List.erase_cons_head]
    refine ⟨.inr ⟨rfl, noneLeft⟩, accounted.endpoints, ?_⟩
    intro endpoint member
    obtain ⟨counted, atMostOne, inRound⟩ := accounted.checks endpoint member
    refine ⟨counted, atMostOne, ?_⟩
    intro check isCheck
    have ofRound := inRound check isCheck
    rw [isOnly] at ofRound
    exact absurd (List.mem_singleton.mp ofRound) (ended endpoint member check isCheck)
  · rw [noRounds] at isRound
    exact absurd isRound List.not_mem_nil

/-- Every step leaves a monitor accounted for. -/
theorem RpcHealthMonitor.IsAccounted.step {numberText : JsNumber → String} {action : MonitorAction}
    (accounted : monitor.IsAccounted)
    (taken : monitorStep numberText monitor action = some next)
    : next.IsAccounted := by
  have withRunning (running : Bool) : { monitor with running := running }.IsAccounted :=
    ⟨accounted.rounds, accounted.endpoints, accounted.checks⟩
  cases action with
  | start now =>
      rw [monitorStep] at taken
      split_ifs at taken
      · exact Option.some.inj taken ▸ accounted
      · exact Option.some.inj taken ▸ (withRunning true).runHealthChecks now
  | stop => exact Option.some.inj taken ▸ withRunning false
  | tick now =>
      rw [monitorStep] at taken
      split_ifs at taken
      exact Option.some.inj taken ▸ accounted.runHealthChecks now
  | runHealthChecks now => exact Option.some.inj taken ▸ accounted.runHealthChecks now
  | settle index round outcome => exact accounted.settle taken
  | timeout index round => exact accounted.settle taken
  | record index round now => exact accounted.record taken
  | finish round =>
      rw [monitorStep] at taken
      split_ifs at taken with ended
      exact Option.some.inj taken ▸ accounted.finish ended.1 ended.2

/-- What comes late changes nothing. -/
theorem monitorStep_of_late {numberText : JsNumber → String} {index round : Nat}
    {outcome : Except String RpcHealthResponse} {endpoint : InternalEndpoint}
    (isEndpoint : monitor.endpoints[index]? = some endpoint)
    (late : ∀ check ∈ endpoint.checks, check.round = round → check.stage ≠ .waiting)
    : monitorStep numberText monitor (.settle index round outcome) = some monitor := by
  have unchanged : endpoint.settle round outcome = endpoint := by
    have sameChecks : endpoint.checks.map (HealthCheck.settle round outcome) = endpoint.checks := by
      conv_rhs => rw [← List.map_id endpoint.checks]
      exact List.map_congr_left fun check isCheck => HealthCheck.settle_of_late (late check isCheck)
    rw [InternalEndpoint.settle, sameChecks]
  obtain ⟨within, isElement⟩ := List.getElem?_eq_some_iff.mp isEndpoint
  have sameEndpoints : monitor.endpoints.set index endpoint = monitor.endpoints := by
    rw [← isElement, List.set_getElem_self]
  simp only [monitorStep, RpcHealthMonitor.atEndpoint, isEndpoint, unchanged, bind,
    Option.bind_some, sameEndpoints, pure]

/-- Every state is counted once. -/
theorem HealthSummary.count_adds (summary : HealthSummary) (state : EndpointHealthState)
    : (summary.count state).healthy + (summary.count state).degraded
            + (summary.count state).unhealthy + (summary.count state).unknown
          = summary.healthy + summary.degraded + summary.unhealthy + summary.unknown + 1
        ∧ (summary.count state).total = summary.total := by
  cases state <;> refine ⟨?_, rfl⟩ <;> simp only [HealthSummary.count] <;> omega

/-- The states of a summary add up, by induction on the endpoints. -/
theorem summary_adds_up (statuses : List RpcEndpointStatus) (summary : HealthSummary)
    (addsUp
      : summary.healthy + summary.degraded + summary.unhealthy + summary.unknown = summary.total)
    : (statuses.foldl HealthSummary.add summary).healthy
            + (statuses.foldl HealthSummary.add summary).degraded
            + (statuses.foldl HealthSummary.add summary).unhealthy
            + (statuses.foldl HealthSummary.add summary).unknown
          = (statuses.foldl HealthSummary.add summary).total
        ∧ (statuses.foldl HealthSummary.add summary).total = summary.total + statuses.length := by
  induction statuses generalizing summary with
  | nil => exact ⟨addsUp, rfl⟩
  | cons status statuses ih =>
      have oneMore
          : (summary.add status).healthy + (summary.add status).degraded
                + (summary.add status).unhealthy + (summary.add status).unknown
              = (summary.add status).total
            ∧ (summary.add status).total = summary.total + 1 := by
        obtain ⟨counted, sameTotal⟩
            := HealthSummary.count_adds { summary with total := summary.total + 1 } status.state
        rw [HealthSummary.add]
        split_ifs
        all_goals exact ⟨counted.trans (by rw [sameTotal, addsUp]), sameTotal⟩
      obtain ⟨total, counted⟩ := ih (summary.add status) oneMore.1
      refine ⟨total, ?_⟩
      rw [List.foldl_cons, counted, oneMore.2, List.length_cons]
      omega

/-- A monitor that is accounted for keeps the statistics of its endpoints. -/
theorem RpcHealthMonitor.IsAccounted.keepsStatistics (numberText : JsNumber → String)
    (accounted : monitor.IsAccounted)
    : monitor.KeepsStatistics numberText := by
  constructor
  case endpoints =>
    intro endpoint member
    exact (accounted.endpoints endpoint member).keepsStatistics
  case roundsApart =>
    rcases accounted.rounds with ⟨_, round, isRound⟩ | ⟨_, noRounds⟩
    · rw [isRound]
      exact le_rfl
    · rw [noRounds]
      exact Nat.zero_le 1
  case countedOnce =>
    intro endpoint member
    obtain ⟨counted, atMostOne, _⟩ := accounted.checks endpoint member
    rw [(accounted.endpoints endpoint member).total]
    exact ⟨counted, atMostOne⟩
  case lateAnswers =>
    intro index round outcome endpoint isEndpoint late
    exact monitorStep_of_late isEndpoint late
  case report =>
    intro now
    obtain ⟨total, counted⟩ := summary_adds_up monitor.getEndpointStatuses .empty rfl
    exact ⟨total, counted.trans (Nat.zero_add _)⟩

/-- After every run of calls, ticks, answers, failures, timeouts and their records, the monitor
keeps the statistics of its endpoints, with at most one round at a time.
-/
theorem keepsStatistics_run (numberText : JsNumber → String) (config : MonitorConfig)
    (endpoints : List RpcEndpointConfig) {actions : List MonitorAction} {final : RpcHealthMonitor}
    (reached : run (monitorStep numberText) (.initial config endpoints) actions = some final)
    : final.KeepsStatistics numberText := by
  have accounted : final.IsAccounted :=
    run_preserves (fun _ _ _ taken accounted => accounted.step taken)
      (RpcHealthMonitor.isAccounted_initial config endpoints) reached
  exact accounted.keepsStatistics numberText

/-- The default configuration. -/
def defaultConfig : MonitorConfig where
  intervalMs := .finite 30000
  timeoutMs := .finite 5000
  degradedLatencyMs := .finite 1500
  unhealthyAfterFailures := .finite 2

/-- Two endpoints. -/
def twoEndpoints : List RpcEndpointConfig :=
  [{ url := "https://first.example" }, { url := "https://second.example" }]

/-- A round in which the first endpoint answers and the second one does so behind its timeout, while
another call of `runHealthChecks` comes in between.
-/
def lateRound : List MonitorAction :=
  [.start 0, .settle 0 0 (.ok {}), .runHealthChecks 10, .record 0 0 20, .timeout 1 0,
    .settle 1 0 (.ok {}), .record 1 0 5000, .finish 0, .stop]

/-- The monitor keeps its statistics in such a round. -/
theorem keepsStatistics_lateRound
    : ∃ final,
        run (monitorStep fun _ => "5000") (.initial defaultConfig twoEndpoints) lateRound
          = some final
        ∧ final.endpoints.map (·.outcomes)
          = [[.answered 20 {}], [.failed "RPC health check timed out after 5000ms"]]
        ∧ final.KeepsStatistics fun _ => "5000" := by
  have reached
      : run (monitorStep fun _ => "5000") (.initial defaultConfig twoEndpoints) lateRound
        = some _ :=
    rfl
  exact ⟨_, reached, rfl, keepsStatistics_run _ defaultConfig twoEndpoints reached⟩

end Axionvera.Monitoring
