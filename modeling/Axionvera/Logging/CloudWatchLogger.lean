import Axionvera.Foundation.JsNumber
import Axionvera.Foundation.TransitionSystem

/-! `CloudWatchLogger` (`utils/logging/cloudwatch/cloudWatchLogger.ts`) as a machine of small steps:
any number of initialisations, flushes and calls of `destroy` go on at once. Entries are of any
kind; which of them `JSON.stringify` can write is given. Times are left out.
-/

namespace Axionvera.Logging

open Axionvera.Foundation

/-- The part of `CloudWatchConfig` that decides about queue and retries. -/
structure CloudWatchConfig where
  batchSize : Option JsNumber := none
  maxRetries : Option JsNumber := none

namespace CloudWatchConfig

/-- `value || fallback`. -/
def orDefault (value : Option JsNumber) (fallback : JsNumber) : JsNumber :=
  (value.filter JsNumber.isTruthy).getD fallback

/-- The batch size, with its default. -/
def resolvedBatchSize (config : CloudWatchConfig) : JsNumber :=
  orDefault config.batchSize (.finite 100)

/-- The limit of attempts, with its default. -/
def resolvedMaxRetries (config : CloudWatchConfig) : JsNumber :=
  orDefault config.maxRetries (.finite 3)

/-- How many entries `splice` removes from a queue at most, which is a whole number. -/
def spliceCount (config : CloudWatchConfig) (length : Nat) : Nat :=
  match config.resolvedBatchSize with
  | .finite value => value.floor.toNat
  | .nan => 0
  | .infinity negative => if negative then 0 else length

end CloudWatchConfig

/-- Where a call of `putLogEventsWithRetry` is. `accepted` means that the service has got the batch
and the answer is under way; `described` and `waiting` are about the retry.
-/
inductive FlightPhase where
  | importing
  | sent
  | accepted
  | importingDescribe
  | describing
  | waiting
  deriving DecidableEq

/-- A flush whose batch has been written: `attempt` and the token of its parameters. -/
structure Flight (ε : Type) where
  number : Nat
  batch : List ε
  attempt : Nat := 1
  token : Option String
  phase : FlightPhase := .importing

/-- Where a call of `initialize` is: before the client is there, before or while a request creates
the log group or the log stream, or at its end.
-/
inductive InitializationStage where
  | importing
  | group (isSent : Bool)
  | stream (isSent : Bool)
  | finished
  deriving DecidableEq

/-- A call of `initialize`, with the entry that is logged after it. -/
structure Initialization (ε : Type) where
  stage : InitializationStage
  entry : Option ε

/-- A call of `destroy`: the flush it waits for, if it started one, and what had been accepted. -/
structure Destruction (ε : Type) where
  flush : Option Nat
  accepted : List ε

/-- A logger with everything that is going on. Recorded are the entries that have been accepted by
`log`, those that the service has got, in order, and the calls of `destroy` that have resolved.
-/
structure CloudWatchLogger (ε : Type) where
  client : Bool
  logQueue : List ε
  flushTimer : Bool
  sequenceToken : Option String
  isInitialized : Bool
  isDestroyed : Bool
  initializations : List (Initialization ε)
  flights : List (Flight ε)
  nextFlight : Nat
  destructions : List (Destruction ε)
  accepted : List ε
  delivered : List ε
  destroyed : List (Destruction ε)

namespace CloudWatchLogger

variable {ε : Type}

/-- A new logger. -/
def initial : CloudWatchLogger ε :=
  {
    client := false
    logQueue := []
    flushTimer := false
    sequenceToken := none
    isInitialized := false
    isDestroyed := false
    initializations := []
    flights := []
    nextFlight := 0
    destructions := []
    accepted := []
    delivered := []
    destroyed := []
  }

variable (isWritable : ε → Bool) (config : CloudWatchConfig) (logger : CloudWatchLogger ε)

/-- The batch of the next flush. -/
def nextBatch : List ε :=
  logger.logQueue.take (config.spliceCount logger.logQueue.length)

/-- A flush gets as far as sending a batch. -/
def startsFlight : Bool :=
  logger.client && logger.logQueue ≠ [] && (logger.nextBatch config).all isWritable

/-- `flush`, up to the first `await`. A batch that cannot be written is put back at once. -/
def flush : CloudWatchLogger ε :=
  if logger.startsFlight isWritable config then
    { logger with
      logQueue := logger.logQueue.drop (config.spliceCount logger.logQueue.length)
      flights :=
        logger.flights
        ++ [{
          number := logger.nextFlight
          batch := logger.nextBatch config
          token := logger.sequenceToken }]
      nextFlight := logger.nextFlight + 1 }
  else logger

/-- An entry is accepted. -/
def enqueue (entry : ε) : CloudWatchLogger ε :=
  { logger with logQueue := logger.logQueue ++ [entry], accepted := logger.accepted ++ [entry] }

/-- `log`, once the logger is initialised. -/
def push (entry : ε) : CloudWatchLogger ε :=
  if config.resolvedBatchSize.isAtMost (logger.enqueue entry).logQueue.length then
    (logger.enqueue entry).flush isWritable config
  else logger.enqueue entry

/-- `initialize`, up to its first `await`. It returns if the logger is initialised or destroyed. -/
def initializeLogger (entry : Option ε) : CloudWatchLogger ε :=
  let stage := if logger.isInitialized || logger.isDestroyed then .finished else .importing
  { logger with
    initializations := logger.initializations ++ [{ stage := stage, entry := entry }] }

/-- `log`. -/
def log (entry : ε) : CloudWatchLogger ε :=
  if logger.isInitialized then logger.push isWritable config entry
  else logger.initializeLogger (some entry)

/-- `destroy`, up to the end of its flush. -/
def destroy : CloudWatchLogger ε :=
  let stopped := { logger with isDestroyed := true, flushTimer := false }
  let flushed := stopped.flush isWritable config
  { flushed with
    destructions :=
      logger.destructions
      ++ [{
        flush := if stopped.startsFlight isWritable config then some logger.nextFlight else none
        accepted := logger.accepted }] }

end CloudWatchLogger

-----------------------------------------------------------------------------------------
-- Initialisations
-----------------------------------------------------------------------------------------

namespace CloudWatchLogger

variable {ε : Type} (isWritable : ε → Bool) (config : CloudWatchConfig)
  (logger : CloudWatchLogger ε)

/-- An initialisation reaches another stage. -/
def reachStage (index : Nat) (initialization : Initialization ε) (stage : InitializationStage)
    : CloudWatchLogger ε :=
  { logger with
    initializations := logger.initializations.set index { initialization with stage := stage } }

/-- An initialisation is over, or has thrown. -/
def dropInitialization (index : Nat) : CloudWatchLogger ε :=
  { logger with initializations := logger.initializations.eraseIdx index }

/-- A request about the group or the stream, which throws without a client. -/
def requestStage (index : Nat) (initialization : Initialization ε) (stage : InitializationStage)
    : CloudWatchLogger ε :=
  if logger.client then logger.reachStage index initialization stage
  else logger.dropInitialization index

/-- `startFlushTimer`, which replaces a timer that is set. -/
def startFlushTimer : CloudWatchLogger ε :=
  { logger with flushTimer := true }

/-- `initialize`, and `log` after it: from one `await` to the next, when nothing fails. A log group
or a log stream that exists already does not count as a failure.
-/
def continueInitialization (index : Nat) (initialization : Initialization ε)
    : CloudWatchLogger ε :=
  match initialization.stage with
  | .importing => { logger.reachStage index initialization (.group false) with client := true }
  | .group false => logger.requestStage index initialization (.group true)
  | .group true => logger.reachStage index initialization (.stream false)
  | .stream false => logger.requestStage index initialization (.stream true)
  | .stream true =>
      { (logger.reachStage index initialization .finished).startFlushTimer with
        isInitialized := true }
  | .finished =>
      match initialization.entry with
      | none => logger.dropInitialization index
      | some entry => (logger.dropInitialization index).push isWritable config entry

-----------------------------------------------------------------------------------------
-- Flushes
-----------------------------------------------------------------------------------------

/-- A flush reaches another phase, or another attempt. -/
def reachPhase (index : Nat) (flight : Flight ε) : CloudWatchLogger ε :=
  { logger with flights := logger.flights.set index flight }

/-- A flush fails for good: its batch is put back in front of the queue. -/
def giveUp (index : Nat) (flight : Flight ε) : CloudWatchLogger ε :=
  { logger with
    logQueue := flight.batch ++ logger.logQueue
    flights := logger.flights.eraseIdx index }

/-- `attempt >= this.config.maxRetries`. -/
def isLastAttempt (flight : Flight ε) : Bool :=
  config.resolvedMaxRetries.isAtMost flight.attempt

/-- What `putLogEventsWithRetry` does when a request fails, maybe because of its token. -/
def failAttempt (index : Nat) (flight : Flight ε) (invalidToken : Bool) : CloudWatchLogger ε :=
  if isLastAttempt config flight then logger.giveUp index flight
  else
    logger.reachPhase index
      { flight with phase := if invalidToken then .importingDescribe else .waiting }

/-- The request with the batch, which fails without a client. -/
def send (index : Nat) (flight : Flight ε) : CloudWatchLogger ε :=
  if logger.client then logger.reachPhase index { flight with phase := .sent }
  else logger.failAttempt config index flight false

/-- The service gets the batch. -/
def accept (index : Nat) (flight : Flight ε) : CloudWatchLogger ε :=
  { logger.reachPhase index { flight with phase := .accepted } with
    delivered := logger.delivered ++ flight.batch }

/-- A token that is missing or empty is not taken over. -/
def presentToken (token old : Option String) : Option String :=
  (token.filter fun token => token ≠ "").or old

/-- The answer to the request arrives, so that the flush is over. -/
def respond (index : Nat) (token : Option String) : CloudWatchLogger ε :=
  { logger with
    sequenceToken := presentToken token logger.sequenceToken
    flights := logger.flights.eraseIdx index }

/-- The request for the token, which ends the flush if there is no client. -/
def describe (index : Nat) (flight : Flight ε) : CloudWatchLogger ε :=
  if logger.client then logger.reachPhase index { flight with phase := .describing }
  else logger.giveUp index flight

/-- The token is known, if there is one, and the flush waits. -/
def described (index : Nat) (flight : Flight ε) (token : Option String) : CloudWatchLogger ε :=
  logger.reachPhase index
    { flight with phase := .waiting, token := presentToken token flight.token }

/-- The next attempt begins. -/
def wake (index : Nat) (flight : Flight ε) : CloudWatchLogger ε :=
  logger.reachPhase index { flight with phase := .importing, attempt := flight.attempt + 1 }

-----------------------------------------------------------------------------------------
-- The end of `destroy`
-----------------------------------------------------------------------------------------

/-- A call of `destroy` can go on: the flush that it waits for is over. -/
def isReady (destruction : Destruction ε) : Bool :=
  destruction.flush.all fun number => logger.flights.all fun flight => flight.number ≠ number

/-- `destroy`, after its flush. -/
def finishDestroy (index : Nat) (destruction : Destruction ε) : CloudWatchLogger ε :=
  { logger with
    client := false
    destructions := logger.destructions.eraseIdx index
    destroyed := logger.destroyed ++ [destruction] }

/-- Something that a flush in one of the phases can do. -/
def atFlight (index : Nat) (phases : List FlightPhase) (next : Flight ε → CloudWatchLogger ε)
    : Option (CloudWatchLogger ε) :=
  match logger.flights[index]? with
  | some flight => if flight.phase ∈ phases then some (next flight) else none
  | none => none

end CloudWatchLogger

/-- Everything that can happen next. -/
inductive CloudWatchAction (ε : Type) where
  | initializeLogger
  | log (entry : ε)
  | flush
  | tick
  | destroy
  | initializationGoesOn (index : Nat)
  | initializationFails (index : Nat)
  | send (index : Nat)
  | accept (index : Nat)
  | respond (index : Nat) (token : Option String)
  | fail (index : Nat) (invalidToken : Bool)
  | describe (index : Nat)
  | described (index : Nat) (token : Option String)
  | describeFails (index : Nat)
  | wake (index : Nat)
  | finishDestroy (index : Nat)

/-- One step of the machine. A request that fails delivers nothing. -/
def cloudWatchStep {ε : Type} (isWritable : ε → Bool) (config : CloudWatchConfig)
    (logger : CloudWatchLogger ε) : CloudWatchAction ε → Option (CloudWatchLogger ε)
  | .initializeLogger => some (logger.initializeLogger none)
  | .log entry => some (logger.log isWritable config entry)
  | .flush => some (logger.flush isWritable config)
  | .tick => if logger.flushTimer then some (logger.flush isWritable config) else none
  | .destroy => some (logger.destroy isWritable config)
  | .initializationGoesOn index =>
      match logger.initializations[index]? with
      | some initialization =>
          some (logger.continueInitialization isWritable config index initialization)
      | none => none
  | .initializationFails index =>
      match logger.initializations[index]? with
      | some initialization =>
          if initialization.stage ≠ .finished then some (logger.dropInitialization index) else none
      | none => none
  | .send index => logger.atFlight index [.importing] fun flight => logger.send config index flight
  | .accept index => logger.atFlight index [.sent] fun flight => logger.accept index flight
  | .respond index token => logger.atFlight index [.accepted] fun _ => logger.respond index token
  | .fail index invalidToken =>
      logger.atFlight index [.importing, .sent] fun flight =>
        logger.failAttempt config index flight invalidToken
  | .describe index =>
      logger.atFlight index [.importingDescribe] fun flight => logger.describe index flight
  | .described index token =>
      logger.atFlight index [.describing] fun flight => logger.described index flight token
  | .describeFails index =>
      logger.atFlight index [.importingDescribe, .describing] fun flight =>
        logger.giveUp index flight
  | .wake index => logger.atFlight index [.waiting] fun flight => logger.wake index flight
  | .finishDestroy index =>
      match logger.destructions[index]? with
      | some destruction =>
          if logger.isReady destruction then some (logger.finishDestroy index destruction) else none
      | none => none

end Axionvera.Logging
