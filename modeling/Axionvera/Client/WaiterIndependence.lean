import Axionvera.Client.TrackingRegistry

/-! Calls that wait for one transaction share a polling loop, its deadline and its cancel flag.
They do not disturb each other as long as no call joins a loop that is cancelled or ends too
early for it, and no loop is cancelled under a waiting call.
-/

namespace Axionvera.Client.Tracking

open Axionvera.Errors
open Axionvera.Foundation
open Axionvera.Client.Hydration

/-- The reports made since the call, the latest first. -/
def TrackingState.reportsSince (state : TrackingState) (waiter : Waiter) : List Report :=
  state.reports.take (state.reports.length - waiter.since)

/-- (Independent state waiter) requires the call to be served regardless of other calls: it
resolves with a final response whenever one was reported to a poll before its own timeout,
unless `getTransaction` itself failed at a poll of its loop; it is not rejected as cancelled,
nor as timed out before its own timeout.
-/
structure Independent (state : TrackingState) (waiter : Waiter) : Prop where
  resolves
    : ∀ report ∈ state.reportsSince waiter,
        report.hash = waiter.hash
        → isBefore report.polledAt waiter.deadline = true
        → (∃ answer ∈ state.reportsSince waiter,
            answer.hash = waiter.hash
            ∧ answer.response.status ≠ .notFound
            ∧ state.settled.get waiter.loop = some (.resolved answer.response))
          ∨ ∃ error, state.settled.get waiter.loop = some (.failed error)
  notCancelled : state.settled.get waiter.loop ≠ some .cancelled
  notTooEarly
    : ∀ time,
        state.settled.get waiter.loop = some (.timedOut time)
        → isBefore time waiter.deadline = false

/-- Every time before the call's own deadline is before the other deadline. -/
def covers (deadline own : JsDate) : Bool :=
  match own, deadline with
  | none, _ => true
  | some own, some deadline => own.ms ≤ deadline.ms
  | some _, none => false

/-- The step shares a loop only where that does no harm: a call joins a loop that is not
cancelled and goes on up to the call's own deadline, and no loop is cancelled that a call waits
for.
-/
def sharesSafely (state : TrackingState) : TrackingAction → Bool
  | .pollTransaction hash timeoutMs _ =>
      match state.pendingTransactions.get hash with
      | some existing =>
          covers existing.deadline
              (timeoutDeadline state.now (timeoutMs.getD (.finite 30000)))
          && (state.loops.get existing.loop).all (fun loop => !loop.cancelled)
      | none => true
  | .cancel id => (state.loops.get id).isNone || state.waiters.all (fun waiter => waiter.loop ≠ id)
  | _ => true

/-- A time before a covered deadline is before the covering one. -/
theorem isBefore_of_covers {now : Instant} {deadline own : JsDate}
    (covered : covers deadline own = true) (before : isBefore now own = true)
    : isBefore now deadline = true := by
  cases own with
  | none => cases before
  | some own =>
      cases deadline with
      | none => cases covered
      | some deadline =>
          simp only [covers, isBefore, decide_eq_true_eq] at *
          omega

/-- A deadline covers itself. -/
theorem covers_self (deadline : JsDate) : covers deadline deadline = true := by
  cases deadline <;> simp [covers]

/-- What a call that was only shared safely can rely on: until its promise is settled, its own
loop runs on, is not cancelled and covers its deadline, so that any report for its hash would
have settled it; afterwards, it was rejected by a timeout only after its own deadline, when
no poll for its hash is earlier than that, and it was resolved only with a reported response.
-/
structure Served (state : TrackingState) (waiter : Waiter) : Prop where
  started : waiter.loop < state.nextLoop
  recorded : waiter.since ≤ state.reports.length
  waits
    : state.settled.get waiter.loop = none
      → (∃ loop,
          state.loops.get waiter.loop = some loop
          ∧ loop.hash = waiter.hash
          ∧ loop.cancelled = false
          ∧ covers loop.deadline waiter.deadline = true)
        ∧ ∀ report ∈ state.reportsSince waiter, report.hash ≠ waiter.hash
  notCancelled : state.settled.get waiter.loop ≠ some .cancelled
  timedOut
    : ∀ time,
        state.settled.get waiter.loop = some (.timedOut time)
        → isBefore time waiter.deadline = false
          ∧ isBefore state.now waiter.deadline = false
          ∧ (∀ id loop,
              state.loops.get id = some loop
              → loop.hash = waiter.hash
              → isBefore loop.polledAt waiter.deadline = false)
          ∧ ∀ report ∈ state.reportsSince waiter,
              report.hash = waiter.hash → isBefore report.polledAt waiter.deadline = false
  resolved
    : ∀ response,
        state.settled.get waiter.loop = some (.resolved response)
        → ∃ answer ∈ state.reportsSince waiter,
            answer.hash = waiter.hash
            ∧ answer.response.status ≠ .notFound
            ∧ answer.response = response

/-- A served call is independent of others, by cases on the outcome of its promise. -/
theorem Served.independent {state : TrackingState} {waiter : Waiter} (served : Served state waiter)
    : Independent state waiter where
  resolves report member sameHash before := by
    cases outcome : state.settled.get waiter.loop with
    | none => exact absurd sameHash ((served.waits outcome).2 report member)
    | some outcome' =>
        cases outcome' with
        | resolved response =>
            obtain ⟨answer, reported, isHash, isFinal, rfl⟩ := served.resolved response outcome
            exact .inl ⟨answer, reported, isHash, isFinal, rfl⟩
        | failed error => exact .inr ⟨error, rfl⟩
        | cancelled => exact absurd outcome served.notCancelled
        | timedOut time =>
            -- A report of an earlier poll would have come before the promise was rejected.
            have late := (served.timedOut time outcome).2.2.2 report member sameHash
            rw [late] at before
            cases before
  notCancelled := served.notCancelled
  notTooEarly time outcome := (served.timedOut time outcome).1

/-- Time passes without harm to a served call. -/
theorem Served.elapse {state : TrackingState} {waiter : Waiter} (served : Served state waiter)
    {later : Instant} (forward : state.now.ms ≤ later.ms)
    : Served { state with now := later } waiter where
  started := served.started
  recorded := served.recorded
  waits := served.waits
  notCancelled := served.notCancelled
  timedOut time outcome := by
    obtain ⟨late, lateNow, lateLoops, lateReports⟩ := served.timedOut time outcome
    exact ⟨late, isBefore_later forward lateNow, lateLoops, lateReports⟩
  resolved := served.resolved

/-- A step that keeps what there is does no harm to a served call: new loops poll only now. -/
theorem Served.keeps {state next : TrackingState} {waiter : Waiter}
    (served : Served state waiter) (kept : Keeps state next)
    : Served next waiter where
  started := Nat.lt_of_lt_of_le served.started kept.nextLoop
  recorded := by
    rw [kept.reports]
    exact served.recorded
  waits outcome := by
    rw [kept.settled _ served.started] at outcome
    simpa only [kept.loops _ served.started, TrackingState.reportsSince, kept.reports] using
      served.waits outcome
  notCancelled := by
    rw [kept.settled _ served.started]
    exact served.notCancelled
  timedOut time outcome := by
    rw [kept.settled _ served.started] at outcome
    obtain ⟨late, lateNow, lateLoops, lateReports⟩ := served.timedOut time outcome
    refine ⟨late, by rw [kept.now]; exact lateNow, fun id loop runs sameHash => ?_, ?_⟩
    · rcases kept.newLoops id loop runs with older | new
      · exact lateLoops id loop older sameHash
      · rw [new]
        exact lateNow
    · simpa only [TrackingState.reportsSince, kept.reports] using lateReports
  resolved response outcome := by
    rw [kept.settled _ served.started] at outcome
    simpa only [TrackingState.reportsSince, kept.reports] using served.resolved response outcome

/-- A change to a loop that no served call waits for, or that leaves its cancel flag alone, does
no harm to a served call; the loop polls as before or now.
-/
theorem Served.changeLoop {state : TrackingState} {waiter : Waiter}
    (served : Served state waiter) {id : Nat} {loop changed : PollingLoop}
    (runs : state.loops.get id = some loop) (sameHash : changed.hash = loop.hash)
    (sameDeadline : changed.deadline = loop.deadline)
    (harmless : waiter.loop = id → changed.cancelled = loop.cancelled)
    (polls : changed.polledAt = loop.polledAt ∨ changed.polledAt = state.now)
    : Served { state with loops := state.loops.set id changed } waiter where
  started := served.started
  recorded := served.recorded
  waits outcome := by
    obtain ⟨⟨own, ownRuns, ownHash, notCancelled, covered⟩, unreported⟩ := served.waits outcome
    refine ⟨?_, unreported⟩
    by_cases isOwn : waiter.loop = id
    · obtain rfl : own = loop := by
        rw [isOwn, runs] at ownRuns
        exact (Option.some.inj ownRuns).symm
      refine ⟨changed, by simp [isOwn], sameHash.trans ownHash, ?_, sameDeadline ▸ covered⟩
      rw [harmless isOwn]
      exact notCancelled
    · exact ⟨own, by simpa [isOwn] using ownRuns, ownHash, notCancelled, covered⟩
  notCancelled := served.notCancelled
  timedOut time outcome := by
    obtain ⟨late, lateNow, lateLoops, lateReports⟩ := served.timedOut time outcome
    refine ⟨late, lateNow, fun other polling pollingRuns pollingHash => ?_, lateReports⟩
    by_cases isChanged : other = id
    · obtain rfl : changed = polling := by simpa [isChanged] using pollingRuns
      rcases polls with before | new
      · rw [before]
        exact lateLoops id loop runs (sameHash.symm.trans pollingHash)
      · rw [new]
        exact lateNow
    · exact lateLoops other polling (by simpa [isChanged] using pollingRuns) pollingHash
  resolved := served.resolved

/-- A further report is the latest one since any call before it. -/
theorem mem_reportsSince_append {state next : TrackingState} {waiter : Waiter}
    {reports : List Report} (recorded : waiter.since ≤ state.reports.length)
    (more : next.reports = reports ++ state.reports) {report : Report}
    : report ∈ next.reportsSince waiter
      ↔ report ∈ reports ∨ report ∈ state.reportsSince waiter := by
  have size : next.reports.length - waiter.since
      = reports.length + (state.reports.length - waiter.since) := by
    rw [more, List.length_append]
    omega
  rw [TrackingState.reportsSince, size, more, List.take_length_add_append, List.mem_append,
    TrackingState.reportsSince]

/-- The end of its own loop settles a served call without harm: the loop was not cancelled, and
its deadline covered the call's.
-/
theorem Served.ended_own {state : TrackingState} {waiter : Waiter}
    (served : Served state waiter) (matching : RegistryMatchesLoops state) {loop : PollingLoop}
    {outcome : PollOutcome} {reports : List Report}
    (runs : state.loops.get waiter.loop = some loop)
    (ends : LoopEnds state loop outcome reports)
    : Served
        { state.endLoop waiter.loop loop.hash outcome with
          reports := reports ++ state.reports }
        waiter := by
  have unsettled := ((matching.runsUntilSettled waiter.loop).mp ⟨loop, runs⟩).2
  obtain ⟨⟨own, ownRuns, ownHash, notCancelled, covered⟩, unreported⟩ := served.waits unsettled
  obtain rfl : loop = own := Option.some.inj (runs.symm.trans ownRuns)
  have settled
      : (state.endLoop waiter.loop loop.hash outcome).settled.get waiter.loop = some outcome := by
    simp [TrackingState.endLoop]
  constructor
  case started => exact served.started
  case recorded =>
    rw [List.length_append]
    exact Nat.le_add_left_of_le served.recorded
  case waits =>
    intro isNone
    cases settled.symm.trans isNone
  case notCancelled =>
    intro isCancelled
    obtain rfl := Option.some.inj (settled.symm.trans isCancelled)
    cases ends with
    | cancelled wasCancelled =>
        rw [notCancelled] at wasCancelled
        cases wasCancelled
  case timedOut =>
    intro time isTimedOut
    obtain rfl := Option.some.inj (settled.symm.trans isTimedOut)
    cases ends with
    | timedOut late =>
        have ownLate : isBefore state.now waiter.deadline = false := by
          cases before : isBefore state.now waiter.deadline with
          | false => rfl
          | true => exact (isBefore_of_covers covered before).symm.trans late
        refine ⟨ownLate, ownLate, fun id polling pollingRuns sameHash => ?_, ?_⟩
        · -- No other loop polls for the hash.
          have notOwn : id ≠ waiter.loop := by
            rintro rfl
            simp [TrackingState.endLoop] at pollingRuns
          have ran : state.loops.get id = some polling := by
            simpa [TrackingState.endLoop, notOwn] using pollingRuns
          exact absurd (matching.loop_unique ran runs (sameHash.trans ownHash.symm)) notOwn
        · exact fun report member sameHash => absurd sameHash (unreported report member)
  case resolved =>
    intro response isResolved
    obtain rfl := Option.some.inj (settled.symm.trans isResolved)
    cases ends with
    | resolved _ isFinal =>
        refine ⟨⟨loop.hash, response, loop.polledAt⟩, ?_, ownHash, isFinal, rfl⟩
        exact (mem_reportsSince_append served.recorded rfl).mpr (.inl (List.mem_singleton.mpr rfl))

/-- A loop reports for its own hash, as of its last poll. -/
theorem LoopEnds.report_eq {state : TrackingState} {loop : PollingLoop} {outcome : PollOutcome}
    {reports : List Report} (ends : LoopEnds state loop outcome reports) {report : Report}
    (member : report ∈ reports)
    : report.hash = loop.hash ∧ report.polledAt = loop.polledAt := by
  cases ends with
  | resolved response isFinal =>
      obtain rfl := List.mem_singleton.mp member
      exact ⟨rfl, rfl⟩
  | failed => cases member
  | cancelled => cases member
  | timedOut => cases member

/-- The end of another loop does no harm to a served call: while the call waits, that loop polls
for another hash, and after a timeout it has not polled too early.
-/
theorem Served.ended_other {state : TrackingState} {waiter : Waiter}
    (served : Served state waiter) (matching : RegistryMatchesLoops state) {id : Nat}
    {loop : PollingLoop} {outcome : PollOutcome} {reports : List Report}
    (runs : state.loops.get id = some loop) (ends : LoopEnds state loop outcome reports)
    (isOther : waiter.loop ≠ id)
    : Served
        { state.endLoop id loop.hash outcome with reports := reports ++ state.reports }
        waiter := by
  have settled
      : (state.endLoop id loop.hash outcome).settled.get waiter.loop
        = state.settled.get waiter.loop := by
    simp [TrackingState.endLoop, isOther]
  constructor
  case started => exact served.started
  case recorded =>
    rw [List.length_append]
    exact Nat.le_add_left_of_le served.recorded
  case waits =>
    intro isNone
    obtain ⟨⟨own, ownRuns, ownHash, alive⟩, unreported⟩ := served.waits (settled.symm.trans isNone)
    refine ⟨⟨own, by simpa [TrackingState.endLoop, isOther] using ownRuns, ownHash, alive⟩, ?_⟩
    intro report member sameHash
    rcases (mem_reportsSince_append served.recorded rfl).mp member with new | old
    -- A new report for the call's hash would come from its own loop.
    · have sameLoop := matching.loop_unique ownRuns runs
        (ownHash.trans (sameHash.symm.trans (ends.report_eq new).1))
      exact isOther sameLoop
    · exact unreported report old sameHash
  case notCancelled => exact settled ▸ served.notCancelled
  case timedOut =>
    intro time isTimedOut
    obtain ⟨late, lateNow, lateLoops, lateReports⟩ :=
      served.timedOut time (settled.symm.trans isTimedOut)
    refine ⟨late, lateNow, fun other polling pollingRuns sameHash => ?_, ?_⟩
    · have notEnded : other ≠ id := by
        rintro rfl
        simp [TrackingState.endLoop] at pollingRuns
      apply lateLoops other polling _ sameHash
      simpa [TrackingState.endLoop, notEnded] using pollingRuns
    · intro report member sameHash
      rcases (mem_reportsSince_append served.recorded rfl).mp member with new | old
      · obtain ⟨isHash, polledAt⟩ := ends.report_eq new
        rw [polledAt]
        exact lateLoops id loop runs (isHash.symm.trans sameHash)
      · exact lateReports report old sameHash
  case resolved =>
    intro response isResolved
    obtain ⟨answer, reported, described⟩ :=
      served.resolved response (settled.symm.trans isResolved)
    exact ⟨answer, (mem_reportsSince_append served.recorded rfl).mpr (.inr reported), described⟩

/-- Nothing has been reported since a call that was just made. -/
theorem reportsSince_new {state : TrackingState} {waiter : Waiter}
    (new : waiter.since = state.reports.length)
    : state.reportsSince waiter = [] := by
  rw [TrackingState.reportsSince, new, Nat.sub_self, List.take_zero]

/-- A call is served that joins a loop which is not cancelled and covers its deadline. -/
theorem served_joined {state : TrackingState} (matching : RegistryMatchesLoops state)
    {waiter : Waiter} {existing : TrackedTransaction}
    (found : state.pendingTransactions.get waiter.hash = some existing)
    (joins : waiter.loop = existing.loop) (new : waiter.since = state.reports.length)
    (notCancelled
      : (state.loops.get existing.loop).all (fun loop => !loop.cancelled) = true)
    (covered : covers existing.deadline waiter.deadline = true)
    : Served state waiter := by
  obtain ⟨isHash, loop, runs, polls⟩ := matching.loopOfEntry _ existing found
  obtain ⟨older, unsettled⟩ := (matching.runsUntilSettled existing.loop).mp ⟨loop, runs⟩
  rw [← joins] at runs older unsettled
  constructor
  case started => exact older
  case recorded => exact Nat.le_of_eq new
  case waits =>
    refine fun _ => ⟨⟨loop, runs, polls.1.trans isHash, ?_, polls.2.2 ▸ covered⟩, ?_⟩
    · simpa [← joins, runs] using notCancelled
    · simp [reportsSince_new new]
  case notCancelled => simp [unsettled]
  case timedOut => simp [unsettled]
  case resolved => simp [unsettled]

/-- A call is served that starts a loop of its own, even if that ends at once. -/
theorem served_started {state : TrackingState} (matching : RegistryMatchesLoops state)
    {waiter : Waiter} {tracked : TrackedTransaction}
    (sameHash : tracked.hash = waiter.hash) (sameDeadline : tracked.deadline = waiter.deadline)
    (isNew : waiter.loop = state.nextLoop) (new : waiter.since = state.reports.length)
    (absent : state.pendingTransactions.get tracked.hash = none)
    : Served
        (if isBefore state.now tracked.deadline then state.started tracked
          else state.startedLate tracked)
        waiter := by
  cases before : isBefore state.now tracked.deadline with
  | true =>
      have unsettled : (state.started tracked).settled.get waiter.loop = none := by
        rw [isNew]
        exact matching.nextLoop_unsettled
      rw [if_pos rfl]
      constructor
      case started => exact isNew ▸ Nat.lt_succ_self state.nextLoop
      case recorded => exact Nat.le_of_eq new
      case waits =>
        refine fun _ =>
          ⟨⟨⟨tracked.hash, tracked.submittedAt, tracked.deadline, false, .asking, state.now⟩,
            by simp [TrackingState.started, isNew], sameHash, rfl, ?_⟩, ?_⟩
        · exact sameDeadline ▸ covers_self tracked.deadline
        · simp [@reportsSince_new (state.started tracked) waiter new]
      case notCancelled => simp [unsettled]
      case timedOut => simp [unsettled]
      case resolved => simp [unsettled]
  | false =>
      have settled
          : (state.startedLate tracked).settled.get waiter.loop
            = some (.timedOut state.now) := by
        simp [TrackingState.startedLate, isNew]
      rw [if_neg (by simp)]
      constructor
      case started => exact isNew ▸ Nat.lt_succ_self state.nextLoop
      case recorded => exact Nat.le_of_eq new
      case waits => simp [settled]
      case notCancelled => simp [settled]
      case timedOut =>
        intro time isTimedOut
        obtain rfl := PollOutcome.timedOut.inj (Option.some.inj (settled.symm.trans isTimedOut))
        rw [sameDeadline] at before
        refine ⟨before, before, fun id loop runs pollsForHash => ?_, ?_⟩
        · -- The call's hash had no loop, and has none now.
          rw [startedLate_loops matching.nextLoop_free] at runs
          obtain ⟨other, found, _⟩ := matching.entryOfLoop id loop runs
          rw [pollsForHash, ← sameHash, absent] at found
          cases found
        · simp [@reportsSince_new (state.startedLate tracked) waiter new]
      case resolved => simp [settled]

/-- Being served does not depend on which calls are recorded. -/
theorem Served.withWaiters {state : TrackingState} {waiter : Waiter}
    (served : Served state waiter) (waiters : List Waiter)
    : Served { state with waiters := waiters } waiter :=
  ⟨served.started, served.recorded, served.waits, served.notCancelled, served.timedOut,
    served.resolved⟩

/-- A call that shares safely is served, as are all calls before it. -/
theorem served_pollTransaction {state : TrackingState} (matching : RegistryMatchesLoops state)
    {hash : String} {timeoutMs intervalMs : Option JsNumber}
    (safe : sharesSafely state (.pollTransaction hash timeoutMs intervalMs) = true)
    (served : ∀ waiter ∈ state.waiters, Served state waiter)
    : ∀ waiter ∈ (pollTransaction state hash timeoutMs intervalMs).waiters,
        Served (pollTransaction state hash timeoutMs intervalMs) waiter := by
  have older {waiter : Waiter} (member : waiter ∈ state.waiters)
      : Served
          (trackTransaction state
              { hash := hash, intervalMs := intervalMs, timeoutMs := timeoutMs }).2
          waiter :=
    (served waiter member).keeps (keeps_trackTransaction state _)
  unfold pollTransaction
  cases found : state.pendingTransactions.get hash with
  | some existing =>
      simp only [sharesSafely, found, Bool.and_eq_true] at safe
      rw [trackTransaction_registered found] at older ⊢
      intro waiter member
      rcases List.mem_cons.mp member with rfl | member
      · exact (served_joined matching found rfl rfl safe.2 safe.1).withWaiters _
      · exact (older member).withWaiters _
  | none =>
      have kept := (keeps_trackTransaction state
        { hash := hash, intervalMs := intervalMs, timeoutMs := timeoutMs }).waiters
      rw [trackTransaction_new found] at older kept ⊢
      intro waiter member
      rcases List.mem_cons.mp member with rfl | member
      · exact (served_started matching rfl rfl rfl rfl found).withWaiters _
      · exact (older (kept ▸ member)).withWaiters _

/-- The registry matches the loops, and every call is served. -/
structure AllServed (state : TrackingState) : Prop where
  matching : RegistryMatchesLoops state
  served : ∀ waiter ∈ state.waiters, Served state waiter

/-- After a step that shares safely all calls are served, by cases on what the step does. -/
theorem AllServed.step {dates : DateFormat} {state next : TrackingState}
    {action : TrackingAction} (safe : sharesSafely state action = true)
    (taken : trackingStep dates state action = some next) (all : AllServed state)
    : AllServed next := by
  obtain ⟨matching, served⟩ := all
  refine ⟨matching.step taken, ?_⟩
  cases trackingStep_effect taken with
  | elapsed later forward => exact fun waiter member => (served waiter member).elapse forward
  | tracked options =>
      have kept := keeps_trackTransaction state options
      rw [kept.waiters]
      exact fun waiter member => (served waiter member).keeps kept
  | polled hash timeoutMs intervalMs => exact served_pollTransaction matching safe served
  | imported exported restored _ ok =>
      have kept := keeps_importState ok
      rw [kept.waiters]
      exact fun waiter member => (served waiter member).keeps kept
  | notImported exported => exact served
  | cancelled id loop runs =>
      intro waiter member
      refine (served waiter member).changeLoop runs rfl rfl (fun isOwn => ?_) (.inl rfl)
      -- No call may wait for a loop that is cancelled.
      have notWaiting : waiter.loop ≠ id := by
        simp only [sharesSafely, runs, Option.isNone_some, Bool.false_or, List.all_eq_true,
          decide_eq_true_eq] at safe
        exact safe waiter member
      exact absurd isOwn notWaiting
  | nothingToCancel id => exact served
  | notFound id loop response runs =>
      exact fun waiter member =>
        (served waiter member).changeLoop runs rfl rfl (fun _ => rfl) (.inl rfl)
  | woken id loop runs =>
      exact fun waiter member =>
        (served waiter member).changeLoop runs rfl rfl (fun _ => rfl) (.inr rfl)
  | ended _ id loop outcome reports runs ends =>
      intro waiter member
      by_cases isOwn : waiter.loop = id
      · subst isOwn
        exact (served waiter member).ended_own matching runs ends
      · exact (served waiter member).ended_other matching runs ends isOwn

/-- In every run whose calls and cancellations share loops safely, every call that waits for a
transaction is served regardless of the others, by induction on the run.
-/
theorem waiters_independent (dates : DateFormat) (now : Instant) (actions : List TrackingAction)
    (state : TrackingState)
    (safe
      : stepsSatisfy (trackingStep dates) (fun state action => sharesSafely state action = true)
          (.initial now) actions)
    (reached : run (trackingStep dates) (.initial now) actions = some state)
    : ∀ waiter ∈ state.waiters, Independent state waiter := by
  have initial : AllServed (.initial now) :=
    ⟨registryMatchesLoops_initial now, fun _ member => nomatch member⟩
  have all : AllServed state :=
    run_preserves_of_stepsSatisfy (fun _ _ _ safe taken all => AllServed.step safe taken all)
      initial safe reached
  exact fun waiter member => (all.served waiter member).independent

/-- A call joins a loop that goes on for longer than the call asks for. -/
def sharedSafely : List TrackingAction :=
  [
    .trackTransaction { hash := "a", timeoutMs := some (.finite 60000) },
    .pollTransaction "a" none none,
    .answer 0 (.ok ⟨.notFound, 1⟩),
    .timer 0,
    .answer 0 (.ok ⟨.success, 2⟩)
  ]

/-- The call that joined the loop resolves with its final response. -/
theorem waiters_independent_shared
    : ∃ state,
        run (trackingStep sampleFormat) (.initial epoch) sharedSafely = some state
        ∧ state.waiters.map (fun waiter => state.settled.get waiter.loop)
          = [some (.resolved ⟨.success, 2⟩)]
        ∧ ∀ waiter ∈ state.waiters, Independent state waiter := by
  refine ⟨_, rfl, rfl, ?_⟩
  exact waiters_independent sampleFormat epoch sharedSafely _ (by decide) rfl

/-- A call joins a loop that its first caller has just cancelled. Once that loop has ended, the
hash is tracked again, and its success is reported within the call's timeout.
-/
def joinedCancelled : List TrackingAction :=
  [
    .trackTransaction { hash := "a" },
    .cancel 0,
    .pollTransaction "a" none none,
    .answer 0 (.ok ⟨.notFound, 1⟩),
    .timer 0,
    .trackTransaction { hash := "a" },
    .answer 1 (.ok ⟨.success, 2⟩)
  ]

/-- A call with the default timeout joins a loop that ends after one second. -/
def joinedShorter : List TrackingAction :=
  [
    .trackTransaction { hash := "a", timeoutMs := some (.finite 1000) },
    .pollTransaction "a" none none,
    .answer 0 (.ok ⟨.notFound, 1⟩),
    .elapse ⟨1000, by decide⟩,
    .timer 0
  ]

/-- The call that joined the cancelled loop is rejected as cancelled, and the one that joined the
shorter loop as timed out after one second.
-/
theorem waiters_disturbed
    : (∃ state waiter,
          run (trackingStep sampleFormat) (.initial epoch) joinedCancelled = some state
          ∧ state.waiters = [waiter]
          ∧ state.reportsSince waiter = [⟨"a", ⟨.success, 2⟩, epoch⟩]
          ∧ isBefore epoch waiter.deadline = true
          ∧ ¬ Independent state waiter)
      ∧ ∃ state waiter,
          run (trackingStep sampleFormat) (.initial epoch) joinedShorter = some state
          ∧ state.waiters = [waiter]
          ∧ ¬ Independent state waiter := by
  refine ⟨⟨_, _, rfl, rfl, rfl, rfl, fun independent => independent.notCancelled rfl⟩,
    _, _, rfl, rfl, fun independent => ?_⟩
  exact absurd (independent.notTooEarly _ rfl) (by decide)

end Axionvera.Client.Tracking
