import Axionvera.Foundation.CodeUnits

/-! The check of untrusted texts of XDR before they are decoded (`utils/xdrValidator.ts`), and the
error that it throws (`errors/axionveraError.ts`). Texts are sequences of UTF-16 units.
-/

namespace Axionvera.Xdr

open Axionvera.Foundation

/-- `InvalidXDRError`, with what was thrown before it. -/
structure InvalidXDRError (δ : Type*) where
  message : CodeUnits
  input : CodeUnits
  originalError : Option δ
  deriving DecidableEq, Repr

variable {δ : Type*}

/-- `new InvalidXDRError(message, input, { originalError })`. Of a long input it keeps the
beginning.
-/
def InvalidXDRError.new (message input : CodeUnits) (originalError : Option δ)
    : InvalidXDRError δ :=
  {
    message := message
    input := if 64 < input.length then input.take 64 ++ codeUnits "…" else input
    originalError := originalError
  }

/-- `MAX_XDR_STRING_LENGTH`. -/
def maxXdrStringLength : Nat := 65536

/-- The first class of characters of `BASE64_RE`. -/
def isBase64 (unit : UInt16) : Bool :=
  isBetween 'A' 'Z' unit || isBetween 'a' 'z' unit || isBetween '0' '9' unit
  || unit ∈ codeUnits "+/-_"

/-- `BASE64_RE.test(xdrString)`. What the first class takes need not be given back, since padding is
not in it.
-/
def matchesBase64 (xdrString : CodeUnits) : Bool :=
  let padding := xdrString.dropWhile isBase64
  4 ≤ (xdrString.takeWhile isBase64).length
  && padding.length ≤ 2
  && padding.all (fun unit => unit = unitOf '=')

/-- `isValidXDR`, for texts. -/
def isValidXDR (xdrString : CodeUnits) (maxLength : Nat := maxXdrStringLength) : Bool :=
  if xdrString.length = 0 then false
  else if maxLength < xdrString.length then false
  else matchesBase64 xdrString

/-- `assertValidXDR`, for texts. -/
def assertValidXDR (xdrString : CodeUnits) (context : String)
    (maxLength : Nat := maxXdrStringLength)
    : Except (InvalidXDRError δ) Unit :=
  let location := if context = "" then "" else " in " ++ context
  let refuse (complaint : String) : Except (InvalidXDRError δ) Unit :=
    .error (.new (codeUnits ("XDR input" ++ location ++ complaint)) xdrString none)
  if xdrString.length = 0 then refuse " must not be empty"
  else if maxLength < xdrString.length then
    refuse
      (" exceeds the maximum allowed length of " ++ toString maxLength ++ " characters "
        ++ "(received " ++ toString xdrString.length ++ " characters). "
        ++ "Oversized XDR inputs can exhaust server CPU and memory.")
  else if !matchesBase64 xdrString then
    refuse
      (" contains invalid characters. Only base64-encoded strings (A-Z, a-z, 0-9, +, /, -, _, "
        ++ "with optional = padding) are accepted.")
  else .ok ()

/-- What is asserted to be valid is what is valid. -/
theorem assertValidXDR_eq_ok_iff (xdrString : CodeUnits) (context : String) (maxLength : Nat)
    : (assertValidXDR xdrString context maxLength : Except (InvalidXDRError δ) Unit) = .ok ()
      ↔ isValidXDR xdrString maxLength = true := by
  unfold assertValidXDR isValidXDR
  split_ifs with isEmpty tooLong mismatch <;> simp_all

end Axionvera.Xdr
