import Axionvera.Foundation.InsertionMap
import Axionvera.Replay.ResultValue

/-! Recording calls, replaying them against handlers and comparing the outcomes
(`replay/recorder.ts`, `replay/engine.ts`, `replay/validator.ts`).
-/

namespace Axionvera.Replay

open Axionvera.Client.Hydration (DateFormat)
open Axionvera.Foundation

/-- What is kept of an error. -/
structure ErrorInfo where
  name : String
  message : String
  deriving DecidableEq

/-- What a call can throw: an `Error`, or another value, with its `String(err)`. -/
inductive CallError where
  | error (name message : String)
  | other (text : String)
  deriving DecidableEq

/-- What the recorder and the engine keep of what was thrown. -/
def CallError.info : CallError → ErrorInfo
  | .error name message => ⟨name, message⟩
  | .other text => ⟨"Error", text⟩

/-- How a call ends. -/
inductive CallOutcome where
  | returned (value : ResultValue)
  | threw (error : CallError)

/-- The call returned. -/
def CallOutcome.isReturn : CallOutcome → Bool
  | .returned _ => true
  | .threw _ => false

variable {Arg : Type}

-----------------------------------------------------------------------------------------
-- The recorder
-----------------------------------------------------------------------------------------

/-- `RecordedInteraction`. -/
structure RecordedInteraction (Arg : Type) where
  id : String
  contractId : String
  method : String
  args : List Arg
  result : ResultValue := .undefined
  error : Option ErrorInfo := none

/-- `ReplaySession`. -/
structure ReplaySession (Arg : Type) where
  id : String
  interactions : List (RecordedInteraction Arg)

/-- A call of `record` that has come to its end, with the id that it has got. -/
structure RecordedCall (Arg : Type) where
  id : String
  contractId : String
  method : String
  args : List Arg
  outcome : CallOutcome

/-- `InteractionRecorder`. -/
structure InteractionRecorder (Arg : Type) where
  interactions : List (RecordedInteraction Arg) := []

namespace InteractionRecorder

/-- `record`, at the end of the call. -/
def record (recorder : InteractionRecorder Arg) (call : RecordedCall Arg)
    : InteractionRecorder Arg :=
  let interaction : RecordedInteraction Arg :=
    { id := call.id, contractId := call.contractId, method := call.method, args := call.args }
  match call.outcome with
  | .returned value => ⟨recorder.interactions ++ [{ interaction with result := value }]⟩
  | .threw error => ⟨recorder.interactions ++ [{ interaction with error := some error.info }]⟩

/-- `exportSession`, with the id that the session gets. -/
def exportSession (recorder : InteractionRecorder Arg) (id : String) : ReplaySession Arg :=
  { id := id, interactions := recorder.interactions }

/-- `importSession`. -/
def importSession (recorder : InteractionRecorder Arg) (session : ReplaySession Arg)
    : InteractionRecorder Arg :=
  ⟨recorder.interactions ++ session.interactions⟩

end InteractionRecorder

/-- The session of a recorder that has recorded the calls one after the other. -/
def recordedSession (id : String) (calls : List (RecordedCall Arg)) : ReplaySession Arg :=
  (calls.foldl InteractionRecorder.record {}).exportSession id

-----------------------------------------------------------------------------------------
-- The engine
-----------------------------------------------------------------------------------------

/-- `ContractHandlers`, which may keep a state of their own from one call to the next. -/
abbrev ContractHandlers (State Arg : Type) :=
  String → String → Option (State → List Arg → State × CallOutcome)

/-- `ReplayResult`. -/
structure ReplayResult where
  interactionId : String
  contractId : String
  method : String
  success : Bool
  result : ResultValue := .undefined
  error : Option ErrorInfo := none

variable {State : Type}

/-- The error of an interaction without a handler. -/
def noHandler (interaction : RecordedInteraction Arg) : ErrorInfo :=
  ⟨"Error", "No handler registered for " ++ interaction.contractId ++ "." ++ interaction.method⟩

/-- `replayOne`. -/
def replayOne (handlers : ContractHandlers State Arg) (state : State)
    (interaction : RecordedInteraction Arg) : State × ReplayResult :=
  let failed (error : ErrorInfo) : ReplayResult :=
    {
      interactionId := interaction.id
      contractId := interaction.contractId
      method := interaction.method
      success := false
      error := some error
    }
  match handlers interaction.contractId interaction.method with
  | none => (state, failed (noHandler interaction))
  | some handler =>
      match handler state interaction.args with
      | (state, .returned value) =>
          (state,
            {
              interactionId := interaction.id
              contractId := interaction.contractId
              method := interaction.method
              success := true
              result := value
            })
      | (state, .threw error) => (state, failed error.info)

/-- `replay` of the interactions of a session. -/
def replay (handlers : ContractHandlers State Arg) (stopOnFailure : Bool)
    : State → List (RecordedInteraction Arg) → List ReplayResult
  | _, [] => []
  | state, interaction :: interactions =>
      let (state, result) := replayOne handlers state interaction
      if stopOnFailure && !result.success then [result]
      else result :: replay handlers stopOnFailure state interactions

-----------------------------------------------------------------------------------------
-- The validator
-----------------------------------------------------------------------------------------

/-- `ValidationResult`. -/
structure ValidationResult where
  interactionId : String
  passed : Bool
  diff : Option String

/-- `ReplayValidationReport`. -/
structure ReplayValidationReport where
  sessionId : String
  total : Nat
  passed : Nat
  failed : Nat
  results : List ValidationResult

/-- A text in a template, which shows a missing one as `undefined`. -/
def templateText (text : Option String) : String :=
  text.getD "undefined"

/-- `compareOne`. -/
def compareOne (dates : DateFormat) (recorded : RecordedInteraction Arg) (replayed : ReplayResult)
    : ValidationResult :=
  let replayedMessage := replayed.error.map ErrorInfo.message
  match recorded.error, replayed.success with
  | some error, false =>
      let isMatch : Bool := some error.message = replayedMessage
      {
        interactionId := recorded.id
        passed := isMatch
        diff :=
          if isMatch then none
          else
            some
              ("Error mismatch: recorded \"" ++ error.message ++ "\" vs replayed \""
                ++ templateText replayedMessage ++ "\"")
      }
  | some error, true =>
      {
        interactionId := recorded.id
        passed := false
        diff := some ("Expected an error (\"" ++ error.message ++ "\") but replay succeeded")
      }
  | none, false =>
      {
        interactionId := recorded.id
        passed := false
        diff :=
          some
            ("Expected success but replay errored: \"" ++ templateText replayedMessage ++ "\"")
      }
  | none, true =>
      let recordedJson := recorded.result.stringify dates
      let replayedJson := replayed.result.stringify dates
      let isMatch : Bool := recordedJson = replayedJson
      {
        interactionId := recorded.id
        passed := isMatch
        diff :=
          if isMatch then none
          else
            some
              ("Result mismatch:\n  recorded: " ++ templateText (recordedJson.map .ofList)
                ++ "\n  replayed: " ++ templateText (replayedJson.map .ofList))
      }

/-- The `resultMap`, in which a later result takes the place of an earlier one with its id. -/
def resultMap (replayResults : List ReplayResult) : InsertionMap String ReplayResult :=
  replayResults.foldl (fun results result => results.set result.interactionId result) .empty

/-- The result of the validation of one interaction. -/
def validateOne (dates : DateFormat) (results : InsertionMap String ReplayResult)
    (interaction : RecordedInteraction Arg) : ValidationResult :=
  match results.get interaction.id with
  | none =>
      {
        interactionId := interaction.id
        passed := false
        diff := some "Interaction was not replayed"
      }
  | some replayResult => compareOne dates interaction replayResult

/-- `validate`. -/
def validate (dates : DateFormat) (session : ReplaySession Arg)
    (replayResults : List ReplayResult) : ReplayValidationReport :=
  let results := session.interactions.map (validateOne dates (resultMap replayResults))
  let passed := (results.filter fun result => result.passed).length
  {
    sessionId := session.id
    total := results.length
    passed := passed
    failed := results.length - passed
    results := results
  }

end Axionvera.Replay
