import Axionvera.Errors
import Axionvera.Foundation.JsArithmetic

/-! The retry wrapper around RPC calls (`utils/httpInterceptor.ts`). A call is a function on
the state of the outside world, which also says whether it resolved or threw.
-/

namespace Axionvera.Http

open Axionvera.Errors
open Axionvera.Foundation (JsNumber)

/-- `RetryConfig`, after merging with the defaults. Delays are in milliseconds. -/
structure RetryConfig where
  enabled : Bool
  maxRetries : Nat
  baseDelayMs : JsNumber
  maxDelayMs : JsNumber
  retryableMethods : List String
  retryableStatusCodes : List Nat
  deriving DecidableEq

/-- `DEFAULT_RETRY_CONFIG`. -/
def defaultRetryConfig : RetryConfig :=
  {
    enabled := true
    maxRetries := 3
    baseDelayMs := .finite 1000
    maxDelayMs := .finite 8000
    retryableMethods := ["GET", "PUT"]
    retryableStatusCodes := [429, 500, 502, 503, 504]
  }

/-- `calculateDelay`. -/
def calculateDelay (attemptNumber : Nat) (baseDelayMs maxDelayMs : JsNumber) : JsNumber :=
  (baseDelayMs.mul (.powTwo (attemptNumber - 1))).min maxDelayMs

/-- `isRetryableError`. -/
def isRetryableError (thrown : Thrown) (config : RetryConfig) : Bool :=
  match getErrorStatusCode thrown with
  | some statusCode => statusCode ∈ config.retryableStatusCodes
  | none => false

/-- What a retried call came to: its outcome, the world after it, and the waits between its
attempts.
-/
structure RetryResult (σ τ : Type*) where
  outcome : Except AxionveraError τ
  world : σ
  waits : List JsNumber

variable {σ τ : Type*}

/-- The attempts of `retry` from number `attempt` on, when `left` of them may be retried. -/
def retryFrom (config : RetryConfig) (fn : σ → Except Thrown τ × σ)
    : (left attempt : Nat) → (world : σ) → RetryResult σ τ
  | 0, _, world =>
      match fn world with
      | (.ok value, after) => ⟨.ok value, after, []⟩
      | (.error thrown, after) => ⟨.error (toAxionveraError thrown), after, []⟩
  | left + 1, attempt, world =>
      match fn world with
      | (.ok value, after) => ⟨.ok value, after, []⟩
      | (.error thrown, after) =>
          -- The wait comes before the next attempt; the last attempt is not waited after.
          if isRetryableError thrown config then
            let later := retryFrom config fn left (attempt + 1) after
            let delayMs := calculateDelay attempt config.baseDelayMs config.maxDelayMs
            { later with waits := delayMs :: later.waits }
          else ⟨.error (toAxionveraError thrown), after, []⟩

/-- `retry`: disabled retrying is a single attempt. -/
def retry (config : RetryConfig) (fn : σ → Except Thrown τ × σ) (world : σ)
    : RetryResult σ τ :=
  if config.enabled then retryFrom config fn config.maxRetries 1 world
  else retryFrom config fn 0 1 world

/-- (Attempts fn world thrown last) says that calling `fn` again and again from `world` throws
the listed errors in turn and leads to `last`.
-/
inductive Attempts (fn : σ → Except Thrown τ × σ) : σ → List Thrown → σ → Prop
  | none (world : σ) : Attempts fn world [] world
  | more {world middle last : σ} {thrown : Thrown} {rest : List Thrown}
    (failed : fn world = (.error thrown, middle)) (later : Attempts fn middle rest last)
    : Attempts fn world (thrown :: rest) last

/-- The result of `retry` is that of its deciding attempt, with an error normalised.
Witness: induction on the attempts left, prefixing each retried failure.
-/
theorem retryFrom_decided (config : RetryConfig) (fn : σ → Except Thrown τ × σ)
    (left attempt : Nat) (world : σ)
    : ∃ failures last,
        Attempts fn world failures last
        ∧ (retryFrom config fn left attempt world).outcome
            = (fn last).1.mapError toAxionveraError
        ∧ (retryFrom config fn left attempt world).world = (fn last).2 := by
  induction left generalizing attempt world with
  | zero =>
      refine ⟨[], world, .none world, ?_⟩
      cases called : fn world with
      | mk outcome after => cases outcome <;> simp [retryFrom, called, Except.mapError]
  | succ left ih =>
      cases called : fn world with
      | mk outcome after =>
          cases outcome with
          | ok value =>
              exact ⟨[], world, .none world, by simp [retryFrom, called, Except.mapError]⟩
          | error thrown =>
              by_cases retryable : isRetryableError thrown config = true
              · obtain ⟨failures, last, attempts, outcome, reached⟩ := ih (attempt + 1) after
                refine ⟨thrown :: failures, last, .more called attempts, ?_⟩
                simp only [retryFrom, called, retryable, ↓reduceIte]
                exact ⟨outcome, reached⟩
              · exact ⟨[], world, .none world, by
                  simp [retryFrom, called, retryable, Except.mapError]⟩

/-- `retry` ends with the outcome of one attempt, which follows some failed ones, by
`retryFrom_decided` for both settings of `enabled`.
-/
theorem retry_decided (config : RetryConfig) (fn : σ → Except Thrown τ × σ) (world : σ)
    : ∃ failures last,
        Attempts fn world failures last
        ∧ (retry config fn world).outcome = (fn last).1.mapError toAxionveraError
        ∧ (retry config fn world).world = (fn last).2 := by
  unfold retry
  split
  · exact retryFrom_decided config fn config.maxRetries 1 world
  · exact retryFrom_decided config fn 0 1 world

/-- Normalising errors keeps exactly the resolved outcomes. -/
theorem mapError_eq_ok {ε δ τ : Type*} {outcome : Except ε τ} {normalise : ε → δ} {value : τ}
    : Except.ok value = outcome.mapError normalise ↔ outcome = .ok value := by
  cases outcome <;> simp [Except.mapError, eq_comm]

/-- A normalised error comes from a thrown one. -/
theorem mapError_eq_error {ε δ τ : Type*} {outcome : Except ε τ} {normalise : ε → δ} {error : δ}
    : Except.error error = outcome.mapError normalise
      ↔ ∃ thrown, outcome = .error thrown ∧ normalise thrown = error := by
  cases outcome <;> simp [Except.mapError, eq_comm]

end Axionvera.Http
