import Axionvera.Client.SequenceCache
import Axionvera.Foundation.TransitionSystem

/-! Concurrent `getAccountWithCache` calls of a client (`client/stellarClient.ts`): each races a
fetch against a timeout and falls back to the cached sequence. One step of the system is one
piece of code that runs without awaiting.
-/

namespace Axionvera.Client.SequenceCache

open Axionvera.Errors
open Axionvera.Foundation

/-- An `Account`, as far as its sequence is concerned. -/
structure Account where
  accountId : String
  sequenceNumber : Int
  deriving DecidableEq, Repr

/-- `accountFetchTimeoutMs` and `cacheTtlMs`. -/
structure AccountConfig where
  accountFetchTimeoutMs : Nat
  cacheTtlMs : Nat

/-- What a `getAccountWithCache` call comes to. -/
inductive AccountResult where
  | fetched (account : Account)
  | fallback (account : Account)
  | rejected (error : AxionveraError)
  deriving DecidableEq

/-- The error that the timer of `getAccountWithTimeout` rejects with. -/
def fetchTimeout (timeoutMs : Nat) : Thrown :=
  .value { message := some ("Account fetch timeout after " ++ toString timeoutMs ++ "ms") }

/-- The error of a call without network and without cache. -/
def noValidCache (publicKey : String) (error : Thrown) : AxionveraError :=
  {
    name := .axionveraError
    message := "Failed to fetch account and no valid cache available for " ++ publicKey
    statusCode := none
    requestId := none
    rpcMethod := none
    originalError := error
  }

/-- The rest of `getAccountWithCache` once the race has come to an outcome. -/
def finishAccountFetch (config : AccountConfig) (cache : AccountSequenceCache) (now : Nat)
    (publicKey : String) (outcome : Except Thrown Account)
    : AccountResult × AccountSequenceCache :=
  match outcome with
  | .ok account => (.fetched account, updateCache cache now publicKey account.sequenceNumber)
  | .error error =>
      match getCachedSequence cache config.cacheTtlMs now publicKey with
      | (some cached, cache) =>
          -- The increased sequence is cached, with a new time stamp.
          let newSequence := cached.sequence + 1
          (.fallback ⟨publicKey, newSequence⟩, updateCache cache now publicKey newSequence)
      | (none, cache) => (.rejected (noValidCache publicKey error), cache)

/-- A call that has not returned: when its timer is due, and the outcome of its race once it
is decided.
-/
structure PendingFetch where
  publicKey : String
  deadline : Nat
  race : Option (Except Thrown Account)

/-- What callers can observe: returned accounts, and requests to clear the cache. -/
inductive CacheEvent where
  | returned (publicKey : String) (sequence : Int) (fallback : Bool) (time : Nat)
  | cleared (publicKey : Option String)
  deriving DecidableEq, Repr

/-- The client's cache with its calls, and the events so far, newest first. -/
structure AccountState where
  now : Nat
  cache : AccountSequenceCache
  nextCall : Nat
  pending : InsertionMap Nat PendingFetch
  history : List CacheEvent

/-- A client that has just been created. -/
def AccountState.initial (now : Nat) : AccountState := ⟨now, .empty, 0, .empty, []⟩

/-- Everything that can happen next. Answers and timeouts may come in any order and late. -/
inductive AccountAction where
  | elapse (ms : Nat)
  | getAccountWithCache (publicKey : String)
  | answer (call : Nat) (outcome : Except Thrown Account)
  | timeout (call : Nat)
  | resume (call : Nat)
  | cleanupExpiredCache
  | clearCache (publicKey : Option String)
  | handleSubmissionError (errorMessage : String) (publicKey : Option String)

/-- Decide the race of a pending call; a race decided before, or over, stays as it is. -/
def AccountState.settle (state : AccountState) (call : Nat) (outcome : Except Thrown Account)
    : AccountState :=
  match state.pending.get call with
  | some fetch =>
      if fetch.race.isSome then state
      else
        { state with pending := state.pending.set call { fetch with race := some outcome } }
  | none => state

/-- The event of a call that came to the given result. -/
def AccountResult.events (publicKey : String) (time : Nat) : AccountResult → List CacheEvent
  | .fetched account => [.returned publicKey account.sequenceNumber false time]
  | .fallback account => [.returned publicKey account.sequenceNumber true time]
  | .rejected _ => []

/-- Finish a call whose race came to the given outcome. -/
def AccountState.finish (config : AccountConfig) (state : AccountState) (call : Nat)
    (publicKey : String) (outcome : Except Thrown Account)
    : AccountState :=
  let (result, cache) := finishAccountFetch config state.cache state.now publicKey outcome
  { state with
    cache := cache
    pending := state.pending.delete call
    history := result.events publicKey state.now ++ state.history }

/-- One step. A timer fires only when it is due, and a call resumes only after its race. -/
def accountStep (config : AccountConfig) (state : AccountState)
    : AccountAction → Option AccountState
  | .elapse ms => some { state with now := state.now + ms }
  | .getAccountWithCache publicKey =>
      let fetch := ⟨publicKey, state.now + config.accountFetchTimeoutMs, none⟩
      some
        { state with
          nextCall := state.nextCall + 1
          pending := state.pending.set state.nextCall fetch }
  | .answer call outcome => some (state.settle call outcome)
  | .timeout call =>
      match state.pending.get call with
      | some fetch =>
          if fetch.deadline ≤ state.now then
            some (state.settle call (.error (fetchTimeout config.accountFetchTimeoutMs)))
          else none
      | none => some state
  | .resume call =>
      match state.pending.get call with
      -- The cache is read only now, so that other calls may have changed it since the race.
      | some ⟨publicKey, _, some outcome⟩ => some (state.finish config call publicKey outcome)
      | _ => none
  | .cleanupExpiredCache =>
      let (_, cache) := cleanupExpiredCache state.cache config.cacheTtlMs state.now
      some { state with cache := cache }
  | .clearCache publicKey =>
      some
        { state with
          cache := clearCache state.cache publicKey
          history := .cleared publicKey :: state.history }
  | .handleSubmissionError errorMessage publicKey =>
      let (wasCleared, cache) := handleSubmissionError state.cache errorMessage publicKey
      some
        { state with
          cache := cache
          history := if wasCleared then .cleared publicKey :: state.history else state.history }

/-- The sequences of a lifetime that is still running at the given time. -/
def stillRunning (cacheTtlMs now : Nat) : Option (Nat × List Int) → List Int
  | none => []
  | some (time, sequences) => if now - time ≤ cacheTtlMs then sequences else []

/-- The last time an account was returned for the key, with all sequences returned since its
cache entry came to live. A lifetime ends when the entry is cleared, or when no account is
returned for longer than the time to live.
-/
def lifetime (cacheTtlMs : Nat) (publicKey : String) : List CacheEvent → Option (Nat × List Int)
  | [] => none
  | .returned key sequence _ time :: earlier =>
      if key = publicKey then
        some
          (time,
            sequence :: stillRunning cacheTtlMs time (lifetime cacheTtlMs publicKey earlier))
      else lifetime cacheTtlMs publicKey earlier
  | .cleared cleared :: earlier =>
      if clears cleared publicKey then none else lifetime cacheTtlMs publicKey earlier

/-- The sequences of the accounts returned for the key within the cache lifetime that is
running at the given time.
-/
def returnedWithin (cacheTtlMs : Nat) (publicKey : String) (now : Nat)
    (history : List CacheEvent)
    : List Int :=
  stillRunning cacheTtlMs now (lifetime cacheTtlMs publicKey history)

/-- Every fallback returned a sequence above all that were returned for its key earlier
within the cache lifetime.
-/
def FallbacksIncrease (cacheTtlMs : Nat) (history : List CacheEvent) : Prop :=
  ∀ later earlier publicKey sequence time,
    history = later ++ .returned publicKey sequence true time :: earlier
    → ∀ previous ∈ returnedWithin cacheTtlMs publicKey time earlier, previous < sequence

/-- A fetch that completes successfully reports no sequence below that of a cache entry of
its key that has not expired. Every other step is free.
-/
def reportsNoOlder (config : AccountConfig) (state : AccountState) : AccountAction → Bool
  | .resume call =>
      match state.pending.get call with
      | some ⟨publicKey, _, some (.ok account)⟩ =>
          match (getCachedSequence state.cache config.cacheTtlMs state.now publicKey).1 with
          | some cached => cached.sequence ≤ account.sequenceNumber
          | none => true
      | _ => true
  | _ => true

/-- While a lifetime is running, its key has an entry from the time of the last returned
account, and no returned sequence exceeds the cached one.
-/
def Covered (cacheTtlMs now : Nat) (cache : AccountSequenceCache) (history : List CacheEvent)
    : Prop :=
  ∀ publicKey time sequences,
    lifetime cacheTtlMs publicKey history = some (time, sequences)
    → now - time ≤ cacheTtlMs
    → ∃ cached,
        cache.get publicKey = some cached
        ∧ cached.timestamp = time
        ∧ ∀ previous ∈ sequences, previous ≤ cached.sequence

variable {cacheTtlMs now : Nat} {cache : AccountSequenceCache} {history : List CacheEvent}

/-- An entry that is as old as a running lifetime has not expired. -/
theorem isExpired_eq_false {cached : CachedSequence}
    (running : now - cached.timestamp ≤ cacheTtlMs)
    : cached.isExpired cacheTtlMs now = false := by
  simpa [CachedSequence.isExpired] using running

/-- Every sequence of a running lifetime is bounded by the entry that a read finds. -/
theorem Covered.bounded (covered : Covered cacheTtlMs now cache history) {publicKey : String}
    {previous : Int} (member : previous ∈ returnedWithin cacheTtlMs publicKey now history)
    : ∃ cached,
        (getCachedSequence cache cacheTtlMs now publicKey).1 = some cached
        ∧ previous ≤ cached.sequence := by
  unfold returnedWithin stillRunning at member
  split at member
  · simp at member
  · rename_i time sequences found
    split at member
    · rename_i running
      obtain ⟨cached, entry, rfl, bound⟩ := covered publicKey time sequences found running
      refine ⟨cached, ?_, bound previous member⟩
      rw [getCachedSequence_fst, entry]
      simp [Option.filter, isExpired_eq_false running]
    · simp at member

/-- Time only ends lifetimes. -/
theorem Covered.elapse (covered : Covered cacheTtlMs now cache history) (ms : Nat)
    : Covered cacheTtlMs (now + ms) cache history := by
  intro publicKey time sequences found running
  exact covered publicKey time sequences found (by omega)

/-- Losing expired entries matters to no running lifetime. -/
theorem Covered.of_keeps {kept : AccountSequenceCache}
    (covered : Covered cacheTtlMs now cache history)
    (keeps
      : ∀ publicKey cached,
          cache.get publicKey = some cached
          → cached.isExpired cacheTtlMs now = false
          → kept.get publicKey = some cached)
    : Covered cacheTtlMs now kept history := by
  intro publicKey time sequences found running
  obtain ⟨cached, entry, rfl, bound⟩ := covered publicKey time sequences found running
  exact ⟨cached, keeps publicKey cached entry (isExpired_eq_false running), rfl, bound⟩

/-- Clearing ends the lifetimes of the entries it removes. -/
theorem Covered.clear (covered : Covered cacheTtlMs now cache history)
    (cleared : Option String)
    : Covered cacheTtlMs now (clearCache cache cleared) (.cleared cleared :: history) := by
  intro publicKey time sequences found running
  cases affected : clears cleared publicKey with
  | true => simp [lifetime, affected] at found
  | false =>
      simp only [lifetime, affected, Bool.false_eq_true, ↓reduceIte] at found
      rw [clearCache_keeps affected]
      exact covered publicKey time sequences found running

/-- Returning an account continues its key's lifetime when its sequence, which is cached,
bounds what was returned before.
-/
theorem Covered.return {publicKey : String} {sequence : Int}
    (covered : Covered cacheTtlMs now cache history)
    (bound
      : ∀ previous ∈ returnedWithin cacheTtlMs publicKey now history, previous ≤ sequence)
    (fallback : Bool)
    : Covered cacheTtlMs now (updateCache cache now publicKey sequence)
        (.returned publicKey sequence fallback now :: history) := by
  intro other time sequences found running
  simp only [updateCache, InsertionMap.get_set]
  by_cases same : other = publicKey
  · subst same
    simp only [lifetime, ↓reduceIte, Option.some.injEq, Prod.mk.injEq] at found ⊢
    obtain ⟨rfl, rfl⟩ := found
    refine ⟨_, rfl, rfl, ?_⟩
    exact List.forall_mem_cons.mpr ⟨Int.le_refl sequence, bound⟩
  · simp only [lifetime, Ne.symm same, same, ↓reduceIte] at found ⊢
    exact covered other time sequences found running

/-- A new event has to be looked at only when it is a fallback. -/
theorem fallbacksIncrease_cons {event : CacheEvent}
    : FallbacksIncrease cacheTtlMs (event :: history)
      ↔ (∀ publicKey sequence time,
            event = .returned publicKey sequence true time
            → ∀ previous ∈ returnedWithin cacheTtlMs publicKey time history,
                previous < sequence)
        ∧ FallbacksIncrease cacheTtlMs history := by
  constructor
  · intro increase
    refine ⟨fun publicKey sequence time same => ?_,
      fun later earlier publicKey sequence time whole => ?_⟩
    · exact increase [] history publicKey sequence time (by rw [same, List.nil_append])
    · exact increase (event :: later) earlier publicKey sequence time
        (by rw [whole, List.cons_append])
  · rintro ⟨newest, increase⟩ later earlier publicKey sequence time whole
    cases later with
    | nil =>
        obtain ⟨same, rfl⟩ := List.cons.inj whole
        exact newest publicKey sequence time same
    | cons head later =>
        obtain ⟨rfl, rest⟩ := List.cons.inj whole
        exact increase later earlier publicKey sequence time rest

/-- The invariant of a client whose fetches report no older sequences. -/
structure AccountState.Valid (config : AccountConfig) (state : AccountState) : Prop where
  covered : Covered config.cacheTtlMs state.now state.cache state.history
  increase : FallbacksIncrease config.cacheTtlMs state.history

/-- Deciding a race touches neither the cache nor the events. -/
theorem AccountState.Valid.settle {config : AccountConfig} {state : AccountState}
    (valid : state.Valid config) (call : Nat) (outcome : Except Thrown Account)
    : (state.settle call outcome).Valid config := by
  unfold AccountState.settle
  split
  · split
    · exact valid
    · exact ⟨valid.covered, valid.increase⟩
  · exact valid

/-- Finishing a call keeps the invariant: a fetched sequence bounds the earlier ones by
assumption, and a fallback exceeds the cached one, which bounds them.
-/
theorem AccountState.Valid.finish {config : AccountConfig} {state : AccountState}
    {call : Nat} {publicKey : String} {outcome : Except Thrown Account}
    (valid : state.Valid config)
    (noOlder
      : ∀ account cached,
          outcome = .ok account
          → (getCachedSequence state.cache config.cacheTtlMs state.now publicKey).1
              = some cached
          → cached.sequence ≤ account.sequenceNumber)
    : (state.finish config call publicKey outcome).Valid config := by
  cases outcome with
  | ok account =>
      refine ⟨valid.covered.return (fun previous member => ?_) false,
        fallbacksIncrease_cons.mpr ⟨by simp, valid.increase⟩⟩
      obtain ⟨cached, found, bound⟩ := valid.covered.bounded member
      exact Int.le_trans bound (noOlder account cached rfl found)
  | error error =>
      unfold AccountState.finish finishAccountFetch
      cases read : getCachedSequence state.cache config.cacheTtlMs state.now publicKey with
      | mk found cache =>
          have keeps : Covered config.cacheTtlMs state.now cache state.history := by
            refine valid.covered.of_keeps (fun other cached entry fresh => ?_)
            have kept
                : (getCachedSequence state.cache config.cacheTtlMs state.now publicKey).2.get other
                  = some cached := getCachedSequence_keeps entry fresh
            rwa [read] at kept
          cases found with
          | none => exact ⟨keeps, valid.increase⟩
          | some cached =>
              have below
                  : ∀ previous
                      ∈ returnedWithin config.cacheTtlMs publicKey state.now state.history,
                      previous < cached.sequence + 1 := by
                intro previous member
                obtain ⟨other, found, bound⟩ := valid.covered.bounded member
                rw [read, Option.some.injEq] at found
                subst found
                exact Int.lt_add_one_of_le bound
              have weakly
                  : ∀ previous
                      ∈ returnedWithin config.cacheTtlMs publicKey state.now state.history,
                      previous ≤ cached.sequence + 1 :=
                fun previous member => Int.le_of_lt (below previous member)
              refine ⟨keeps.return weakly true, fallbacksIncrease_cons.mpr ⟨?_, valid.increase⟩⟩
              intro other sequence time same
              obtain ⟨rfl, rfl, _, rfl⟩ := CacheEvent.returned.inj same
              exact below

/-- Every allowed step keeps the invariant, by cases on the action. -/
theorem AccountState.Valid.step {config : AccountConfig} {state next : AccountState}
    {action : AccountAction} (allowed : reportsNoOlder config state action = true)
    (taken : accountStep config state action = some next) (valid : state.Valid config)
    : next.Valid config := by
  cases action with
  | elapse ms =>
      cases taken
      exact ⟨valid.covered.elapse ms, valid.increase⟩
  | getAccountWithCache publicKey =>
      cases taken
      exact ⟨valid.covered, valid.increase⟩
  | answer call outcome =>
      cases taken
      exact valid.settle call outcome
  | timeout call =>
      simp only [accountStep] at taken
      split at taken
      · split at taken
        · cases taken
          exact valid.settle _ _
        · cases taken
      · cases taken
        exact valid
  | resume call =>
      simp only [accountStep] at taken
      split at taken
      · rename_i publicKey deadline outcome found
        cases taken
        refine valid.finish (fun account cached isOk read => ?_)
        subst isOk
        simpa [reportsNoOlder, found, read] using allowed
      · cases taken
  | cleanupExpiredCache =>
      cases taken
      refine ⟨valid.covered.of_keeps (fun _ _ entry fresh => ?_), valid.increase⟩
      exact cleanupExpiredCache_keeps entry fresh
  | clearCache publicKey =>
      cases taken
      exact ⟨valid.covered.clear publicKey, fallbacksIncrease_cons.mpr ⟨by simp, valid.increase⟩⟩
  | handleSubmissionError errorMessage publicKey =>
      simp only [accountStep, handleSubmissionError] at taken
      split at taken
      · cases taken
        exact ⟨valid.covered.clear publicKey,
          fallbacksIncrease_cons.mpr ⟨by simp, valid.increase⟩⟩
      · cases taken
        exact ⟨valid.covered, valid.increase⟩

/-- In every run whose completing fetches report no sequence below the cached one, every
fallback returns a sequence above all that were returned for its key earlier within the
cache lifetime. Witness: the cached sequence bounds them, by induction on the run.
-/
theorem fallbacks_increase (config : AccountConfig) (start : Nat)
    (actions : List AccountAction) (final : AccountState)
    (allSteps
      : stepsSatisfy (accountStep config)
          (fun state action => reportsNoOlder config state action = true)
          (.initial start) actions)
    (reached : run (accountStep config) (.initial start) actions = some final)
    : FallbacksIncrease config.cacheTtlMs final.history := by
  have initial : (AccountState.initial start).Valid config := by
    constructor
    · intro publicKey time sequences found
      cases found
    · intro later earlier publicKey sequence time whole
      simp [AccountState.initial] at whole
  have valid : final.Valid config :=
    run_preserves_of_stepsSatisfy
      (fun _ _ _ allowed taken valid => AccountState.Valid.step allowed taken valid)
      initial allSteps reached
  exact valid.increase

/-- The default timeout and time to live. -/
def defaultAccountConfig : AccountConfig := ⟨2000, 5000⟩

/-- A call of the given number for one account, answered and resumed at once. -/
def answeredCall (call : Nat) (outcome : Except Thrown Account) : List AccountAction :=
  [.getAccountWithCache "G", .answer call outcome, .resume call]

/-- The network is down. -/
def networkError : Except Thrown Account := .error (.value { message := some "Network error" })

/-- A fallback to 101, then a fetch that still reports 100, lead to a second fallback to 101. -/
theorem fallback_repeats
    : ∃ final,
        run (accountStep defaultAccountConfig) (.initial 0)
            (answeredCall 0 (.ok ⟨"G", 100⟩) ++ answeredCall 1 networkError
              ++ answeredCall 2 (.ok ⟨"G", 100⟩) ++ answeredCall 3 networkError)
          = some final
        ∧ final.history
          = [
              .returned "G" 101 true 0,
              .returned "G" 100 false 0,
              .returned "G" 101 true 0,
              .returned "G" 100 false 0
            ]
        ∧ ¬ FallbacksIncrease defaultAccountConfig.cacheTtlMs final.history := by
  refine ⟨_, rfl, rfl, fun increase => ?_⟩
  have above := increase [] _ "G" 101 0 rfl 101 (by decide)
  exact absurd above (by decide)

/-- Two fallbacks around a fetch that reports the sequence of the first one. -/
theorem fallbacks_increase_current
    : FallbacksIncrease defaultAccountConfig.cacheTtlMs
        [
          .returned "G" 102 true 0,
          .returned "G" 101 false 0,
          .returned "G" 101 true 0,
          .returned "G" 100 false 0
        ] :=
  fallbacks_increase defaultAccountConfig 0
    (answeredCall 0 (.ok ⟨"G", 100⟩) ++ answeredCall 1 networkError
      ++ answeredCall 2 (.ok ⟨"G", 101⟩) ++ answeredCall 3 networkError)
    _ (by decide) rfl

end Axionvera.Client.SequenceCache
