import Mathlib.Data.List.Infix

/-! The SDK's error classes and the normalisation of thrown values
(`errors/axionveraError.ts`).
-/

namespace Axionvera.Errors

/-- `text.includes(pattern)`. -/
def includesText (text pattern : List Char) : Bool :=
  decide (pattern <:+: text)

/-- `text.toLowerCase()`, for matching against patterns of ASCII letters. -/
def toLowerCase (text : String) : List Char :=
  text.toList.map Char.toLower

/-- The characters that `String.prototype.trim` removes. -/
def isTrimmed (c : Char) : Bool :=
  c.val ∈ [0x09, 0x0A, 0x0B, 0x0C, 0x0D, 0x20, 0xA0, 0x1680, 0x2028, 0x2029, 0x202F, 0x205F,
    0x3000, 0xFEFF]
  || (0x2000 ≤ c.val && c.val ≤ 0x200A)

/-- `text.trim().length > 0`. -/
def hasText (text : String) : Bool :=
  text.toList.any (fun c => !isTrimmed c)

/-- The subclasses of `AxionveraError`, as stored in an error's `name`. -/
inductive ErrorClass where
  | axionveraError
  | networkError
  | authenticationError
  | rateLimitError
  | validationError
  | transactionError
  | rpcError
  | timeoutError
  | insufficientFundsError
  | invalidSignatureError
  | axionveraRPCError
  | rpcValidationMismatchError
  deriving DecidableEq, Repr

/-- A header container: the answers of its `get` method, when it has one, and its own fields. -/
structure ErrorHeaders where
  get : Option (List (String × String)) := none
  fields : List (String × String) := []
  deriving DecidableEq, Repr

/-- The body of an error response, as far as a message is read from it. -/
inductive ResponseData where
  | text (text : String)
  | record (message error : Option String)
  | other
  deriving DecidableEq, Repr

/-- `ErrorResponseLike`: the HTTP response attached to an error. -/
structure ErrorResponse where
  status : Option Nat := none
  headers : Option ErrorHeaders := none
  data : ResponseData := .other
  deriving DecidableEq, Repr

/-- `ErrorLike`: the fields read from a thrown value that is no `AxionveraError`. A field is
`none` where the value has none of the type the code tests for; a thrown primitive has
none at all.
-/
structure ErrorLike where
  message : Option String := none
  code : Option String := none
  status : Option Nat := none
  requestId : Option String := none
  response : Option ErrorResponse := none
  deriving DecidableEq, Repr

mutual
/-- An instance of `AxionveraError`; `rpcMethod` belongs to the `AxionveraRPCError` subclass. -/
structure AxionveraError where
  name : ErrorClass
  message : String
  statusCode : Option Nat
  requestId : Option String
  rpcMethod : Option String
  originalError : Thrown

/-- Anything a promise can reject with. -/
inductive Thrown where
  | undefined
  | value (error : ErrorLike)
  | axionvera (error : AxionveraError)
end

deriving instance DecidableEq, Repr for AxionveraError, Thrown

/-- A new error of the given class, made without options. -/
def newError (name : ErrorClass) (message : String) : AxionveraError :=
  {
    name := name
    message := message
    statusCode := none
    requestId := none
    rpcMethod := none
    originalError := .undefined
  }

/-- `asErrorLike`: `undefined` and instances of the SDK's own classes carry none of the
fields of a foreign error apart from their message.
-/
def asErrorLike : Thrown → ErrorLike
  | .undefined => {}
  | .value error => error
  | .axionvera error => { message := some error.message, requestId := error.requestId }

/-- `getHeaderValue`, for a key that is already in lower case. -/
def getHeaderValue (headers : Option ErrorHeaders) (key upperKey : String) : Option String :=
  headers.bind fun container =>
    (container.get.bind (List.lookup key))
      <|> List.lookup key container.fields
      <|> List.lookup upperKey container.fields

/-- `getMessageFromResponseData`. -/
def getMessageFromResponseData : ResponseData → Option String
  | .text text => some text
  | .record message error => message.filter hasText <|> error.filter hasText
  | .other => none

/-- `getErrorStatusCode`. -/
def getErrorStatusCode : Thrown → Option Nat
  | .axionvera error => error.statusCode
  | thrown =>
      let errorLike := asErrorLike thrown
      (errorLike.response.bind ErrorResponse.status) <|> errorLike.status

/-- `getErrorRequestId`. -/
def getErrorRequestId : Thrown → Option String
  | .axionvera error => error.requestId
  | thrown =>
      let errorLike := asErrorLike thrown
      let headers := errorLike.response.bind ErrorResponse.headers
      getHeaderValue headers "x-request-id" "X-REQUEST-ID"
        <|> getHeaderValue headers "x-requestid" "X-REQUESTID"
        <|> getHeaderValue headers "request-id" "REQUEST-ID"
        <|> getHeaderValue headers "x-correlation-id" "X-CORRELATION-ID"
        <|> errorLike.requestId

/-- `getErrorMessage`: the error's own message, else one from the response body. An empty
body text counts as no message.
-/
def getErrorMessage (thrown : Thrown) (fallbackMessage : String) : String :=
  let errorLike := asErrorLike thrown
  let fromResponse := errorLike.response.bind fun response =>
    (getMessageFromResponseData response.data).filter (fun text => text ≠ "")
  ((errorLike.message.filter hasText) <|> fromResponse).getD fallbackMessage

/-- `isNetworkCode`. -/
def isNetworkCode (code : Option String) : Bool :=
  match code with
  | some code =>
      code ∈ ["ECONNABORTED", "ECONNRESET", "ENOTFOUND", "ETIMEDOUT", "ERR_NETWORK"]
  | none => false

/-- The class `toAxionveraError` chooses for a foreign error. -/
def errorClassOf (statusCode : Option Nat) (code : Option String) : ErrorClass :=
  match statusCode with
  | none => .networkError
  | some status =>
      if status = 401 ∨ status = 403 then .authenticationError
      else if status = 429 then .rateLimitError
      else if 400 ≤ status ∧ status < 500 then .validationError
      else if 500 ≤ status ∨ isNetworkCode code then .networkError
      else .axionveraError

/-- `toAxionveraError`. -/
def toAxionveraError (thrown : Thrown) (fallbackMessage : String := "API request failed")
    : AxionveraError :=
  match thrown with
  | .axionvera error => error
  | thrown =>
      {
        name := errorClassOf (getErrorStatusCode thrown) (asErrorLike thrown).code
        message := getErrorMessage thrown fallbackMessage
        statusCode := getErrorStatusCode thrown
        requestId := getErrorRequestId thrown
        rpcMethod := none
        originalError := thrown
      }

/-- The error classes and messages that `normalizeTransactionError` recognises. -/
def transactionErrorOf (message : String) (txHash : Option String) : ErrorClass × String :=
  let lowerMessage := toLowerCase message
  let hashText := match txHash with
    | some hash => if hash = "" then "" else " (" ++ hash ++ ")"
    | none => ""
  if includesText lowerMessage "insufficient".toList
      && includesText lowerMessage "fund".toList then
    (.insufficientFundsError, "Insufficient funds for transaction" ++ hashText)
  else if includesText lowerMessage "invalid".toList
      && includesText lowerMessage "signature".toList then
    (.invalidSignatureError, "Invalid signature for transaction" ++ hashText)
  else if includesText lowerMessage "timeout".toList
      || includesText lowerMessage "timed out".toList then
    (.timeoutError, "Transaction timeout" ++ hashText)
  else (.transactionError, message)

/-- `normalizeTransactionError`. -/
def normalizeTransactionError (thrown : Thrown) (txHash : Option String := none)
    : AxionveraError :=
  match thrown with
  | .axionvera error => error
  | thrown =>
      let found := transactionErrorOf (getErrorMessage thrown "Transaction failed") txHash
      {
        name := found.1
        message := found.2
        statusCode := none
        requestId := none
        rpcMethod := none
        originalError := thrown
      }

end Axionvera.Errors
