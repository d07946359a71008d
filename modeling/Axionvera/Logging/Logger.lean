import Axionvera.Foundation.JsNumber
import Axionvera.Foundation.TextPattern

/-! `Logger` (`utils/logger.ts`): levels, redaction, and what is handed to the console or a custom
logger and to CloudWatch.
-/

namespace Axionvera.Logging

open Axionvera.Foundation

-----------------------------------------------------------------------------------------
-- Values
-----------------------------------------------------------------------------------------

/-- What can be logged, without values that contain themselves. Objects and errors list their own
enumerable properties in order.
-/
inductive LogValue where
  | undefined
  | null
  | boolean (value : Bool)
  | number (value : JsNumber)
  | bigint (value : Int)
  | text (value : String)
  | array (items : List LogValue)
  | object (fields : List (String × LogValue))
  | error (name message : String) (stack : Option String) (properties : List (String × LogValue))

/-- `typeof value === 'object' && value !== null`. -/
def LogValue.isObject : LogValue → Bool
  | .array _ | .object _ | .error _ _ _ _ => true
  | .undefined | .null | .boolean _ | .number _ | .bigint _ | .text _ => false

-----------------------------------------------------------------------------------------
-- Redaction
-----------------------------------------------------------------------------------------

/-- `\s` of a regular expression. -/
def isSpace (character : Char) : Bool :=
  character ∈
      ['\t', '\n', '\u000b', '\u000c', '\r', ' ', '\u00a0', '\u1680', '\u2028', '\u2029', '\u202f',
        '\u205f', '\u3000', '\ufeff']
  || ('\u2000' ≤ character && character ≤ '\u200a')

/-- The characters of a bearer token. -/
def isTokenCharacter (character : Char) : Bool :=
  character.isAlphanum || character ∈ ['-', '.', '_', '~', '+', '/']

/-- The characters of a value that is assigned. -/
def isValueCharacter (character : Char) : Bool :=
  character.isAlphanum || character ∈ ['-', '_', '.']

/-- `["']`. -/
def isQuote (character : Char) : Bool :=
  character = '"' || character = '\''

/-- `Bearer\s+[a-zA-Z0-9\-\._~+/]+=*`. -/
def bearerPattern : SecretPattern :=
  {
    keyword := .word "bearer"
    separator := .several isSpace
    secret := .followedBy (.several isTokenCharacter) (.any fun character => character = '=')
    trailer := fun _ => some 0
    replacement := fun _ => "Bearer [REDACTED]".toList
  }

/-- A word and `key`, with a stroke between them or without. -/
def keyNamed (letters : String) : TextPart :=
  .followedBy (.word letters)
    (.followedBy (.optional fun character => character = '_' || character = '-') (.word "key"))

/-- `(api[_-]?key|secret[_-]?key|password|token|private[_-]?key)` with the value assigned to it. -/
def assignmentPattern : SecretPattern :=
  {
    keyword :=
      .oneOf [keyNamed "api", keyNamed "secret", .word "password", .word "token",
        keyNamed "private"]
    separator :=
      .followedBy (.optional isQuote)
        (.followedBy (.any isSpace)
          (.followedBy (.single fun character => character = ':' || character = '=')
            (.followedBy (.any isSpace) (.optional isQuote))))
    secret := .several isValueCharacter
    trailer := .optional isQuote
    replacement := fun keyword => keyword ++ ": [REDACTED]".toList
  }

/-- The patterns, in the order in which they are replaced. -/
def redactionPatterns : List SecretPattern := [bearerPattern, assignmentPattern]

/-- `_redactValue` for a string. -/
def redactText (text : String) : String :=
  String.ofList
    (redactionPatterns.foldl (fun replaced pattern => pattern.replaceAll replaced) text.toList)

/-- `sensitiveKeys`. -/
def sensitiveKeys : List String :=
  ["authorization", "api-key", "apikey", "secret", "password", "token", "x-api-key", "privatekey",
    "private_key"]

/-- `toLowerCase` for a character. Of the characters beyond ASCII, only the Kelvin sign has a letter
of ASCII as its lower case, so that the others do not matter for the sensitive keys.
-/
def lowerCase (character : Char) : Char :=
  if character = '\u212a' then 'k' else character.toLower

/-- `sensitiveKeys.includes(key.toLowerCase())`. -/
def isSensitive (key : String) : Bool :=
  String.ofList (key.toList.map lowerCase) ∈ sensitiveKeys

/-- `'[REDACTED]'`. -/
def redactedMark : LogValue := .text "[REDACTED]"

/-- `redacted[key] = value`. Under `__proto__`, an object or `null` becomes the prototype, which is
handed over as well, and any other value is ignored.
-/
def isIgnored (key : String) (value : LogValue) : Bool :=
  key = "__proto__"
  && match value with
    | .array _ | .object _ | .error _ _ _ _ | .null => false
    | .undefined | .boolean _ | .number _ | .bigint _ | .text _ => true

/-- The properties of an error that are not copied with the others. -/
def ownErrorKeys : List String := ["name", "message", "stack"]

/-- The stack of an error, which counts as missing if it is empty. -/
def redactStack : Option String → LogValue
  | none => .undefined
  | some stack => if stack = "" then .undefined else .text (redactText stack)

mutual

/-- `_redactValue`. -/
def redactValue : LogValue → LogValue
  | .text value => .text (redactText value)
  | .error name message stack properties =>
      .object
        (("name", .text name)
          :: ("message", .text (redactText message))
          :: ("stack", redactStack stack)
          :: redactFields ownErrorKeys properties)
  | .array items => .array (redactItems items)
  | .object fields => .object (redactFields [] fields)
  | .undefined => .undefined
  | .null => .null
  | .boolean value => .boolean value
  | .number value => .number value
  | .bigint value => .bigint value

/-- The items of an array: objects are redacted, other values are copied. -/
def redactItems : List LogValue → List LogValue
  | [] => []
  | item :: rest => (if item.isObject then redactValue item else item) :: redactItems rest

/-- The properties of an object: those with sensitive keys are replaced, objects are redacted, other
values are copied.
-/
def redactFields (skipped : List String) : List (String × LogValue) → List (String × LogValue)
  | [] => []
  | (key, value) :: rest =>
      if key ∈ skipped then redactFields skipped rest
      else if isSensitive key then (key, redactedMark) :: redactFields skipped rest
      else if isIgnored key value then redactFields skipped rest
      else
        (key, if value.isObject then redactValue value else value) :: redactFields skipped rest

end

-----------------------------------------------------------------------------------------
-- Levels and sinks
-----------------------------------------------------------------------------------------

/-- `LogLevel`. -/
inductive LogLevel where
  | none
  | error
  | warn
  | info
  | debug
  deriving DecidableEq

/-- `LOG_LEVEL_PRIORITY`. -/
def LogLevel.priority : LogLevel → Nat
  | .none => 0
  | .error => 1
  | .warn => 2
  | .info => 3
  | .debug => 4

/-- The levels that have a method of the logger. -/
inductive CallLevel where
  | error
  | warn
  | info
  | debug
  deriving DecidableEq

/-- The level of a method. -/
def CallLevel.level : CallLevel → LogLevel
  | .error => .error
  | .warn => .warn
  | .info => .info
  | .debug => .debug

/-- The level as it is written. -/
def CallLevel.text : CallLevel → String
  | .error => "ERROR"
  | .warn => "WARN"
  | .info => "INFO"
  | .debug => "DEBUG"

/-- `LogEntry`. -/
structure LogEntry where
  timestamp : Int
  message : String
  level : CallLevel
  metadata : Option (List LogValue)

/-- A `Logger`: its level, and whether it has a custom logger and one for CloudWatch. -/
structure Logger where
  level : LogLevel
  customLogger : Bool
  cloudWatchLogger : Bool

/-- What a sink is given. -/
inductive Handed where
  | custom (level : CallLevel) (message : String) (args : List LogValue)
  | console (level : CallLevel) (line : String) (args : List LogValue)
  | cloudWatch (entry : LogEntry)

namespace Logger

/-- `shouldLog`. -/
def shouldLog (logger : Logger) (level : LogLevel) : Bool :=
  level.priority ≤ logger.level.priority && logger.level ≠ .none

/-- `sendToCloudWatch`, at the given time. -/
def sendToCloudWatch (logger : Logger) (now : Int) (level : CallLevel) (message : String)
    (metadata : Option (List LogValue)) : List Handed :=
  if logger.cloudWatchLogger then
    [.cloudWatch { timestamp := now, message := message, level := level, metadata := metadata }]
  else []

/-- `logWithCloudWatch`: everything that is handed to a sink. -/
def logWithCloudWatch (logger : Logger) (now : Int) (level : CallLevel) (message : String)
    (args : List LogValue) : List Handed :=
  if logger.shouldLog level.level then
    let redactedMessage := redactText message
    let redactedArgs := args.map redactValue
    (if logger.customLogger then .custom level redactedMessage redactedArgs
      else .console level ("[Axionvera][" ++ level.text ++ "] " ++ redactedMessage) redactedArgs)
    :: logger.sendToCloudWatch now level message (if args.length > 0 then some args else none)
  else []

end Logger

end Axionvera.Logging
