import Axionvera.Foundation.JsNumber

/-! The values that JavaScript code can throw, which are all values: whether they count as
true, and how they turn into text, which can throw again.
-/

namespace Axionvera.Foundation

/-- A thrown value. Reading an error's fields, or printing an object, runs code of its own. -/
inductive ThrownValue where
  | undefined
  | null
  | boolean (value : Bool)
  | number (value : JsNumber)
  | bigint (value : Int)
  | text (value : String)
  | symbol (description : String)
  | error (name message : Except ThrownValue String)
  | object (asText : Except ThrownValue String)

namespace ThrownValue

/-- The value counts as true in a condition. -/
def isTruthy : ThrownValue → Bool
  | .undefined | .null => false
  | .boolean value => value
  | .number value => value.isTruthy
  | .bigint value => value ≠ 0
  | .text value => value ≠ ""
  | .symbol _ | .error _ _ | .object _ => true

/-- `String(value)`, given how numbers are printed. -/
def toText (printed : JsNumber → String) : ThrownValue → Except ThrownValue String
  | .undefined => .ok "undefined"
  | .null => .ok "null"
  | .boolean value => .ok (if value then "true" else "false")
  | .number value => .ok (printed value)
  | .bigint value => .ok (toString value)
  | .text value => .ok value
  | .symbol description => .ok ("Symbol(" ++ description ++ ")")
  | .error name message => do
      let name ← name
      let message ← message
      if name = "" then return message
      if message = "" then return name
      return name ++ ": " ++ message
  | .object asText => asText

end ThrownValue

end Axionvera.Foundation
