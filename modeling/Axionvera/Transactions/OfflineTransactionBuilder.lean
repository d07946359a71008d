import Axionvera.Foundation.AsciiCharacter
import Axionvera.Foundation.Base64
import Axionvera.Foundation.JsNumber
import Axionvera.Foundation.NumberText
import Axionvera.Xdr.XdrValidator
import Mathlib.Data.List.TakeWhile

/-! Transactions that are prepared without a network (`builders/offlineTransactionBuilder.ts`). -/

namespace Axionvera.Transactions

open Axionvera.Foundation
open Axionvera.Xdr (InvalidXDRError assertValidXDR isBase64 isValidXDR matchesBase64
  maxXdrStringLength)

/-- What is thrown: a `ValidationError`, an `InvalidXDRError`, or what the library throws. -/
inductive OfflineError where
  | validationError (message : String)
  | invalidXDRError (error : InvalidXDRError String)
  | thrown (message : String)
  deriving DecidableEq, Repr

-----------------------------------------------------------------------------------------
-- Texts of XDR
-----------------------------------------------------------------------------------------

/-- The characters of encodings are of ASCII, and are accepted. -/
theorem isBase64_unitOf {character : Char} (isEncoded : isBase64Character character = true)
    : character.toNat < 128 ∧ isBase64 (unitOf character) = true := by
  have ascii : character.toNat < 128 := by
    simp only [isBase64Character, Bool.or_eq_true, decide_eq_true_eq] at isEncoded
    rcases isEncoded with (isAlphanum | rfl) | rfl
    · exact ascii_of_isAlphanum isAlphanum
    · decide
    · decide
  have accepted :=
    forall_ascii (fun character => !isBase64Character character || isBase64 (unitOf character))
      (by decide) ascii
  rw [isEncoded] at accepted
  exact ⟨ascii, accepted⟩

/-- The standard encoding of at least three bytes matches base64, and is as long in units. -/
theorem matchesBase64_encodeBase64 {bytes : List UInt8} (long : 3 ≤ bytes.length)
    : matchesBase64 (codeUnits (String.ofList (encodeBase64 bytes))) = true
      ∧ (codeUnits (String.ofList (encodeBase64 bytes))).length
        = (encodeBase64 bytes).length := by
  obtain ⟨body, padding, isEncoding, characters, short, enough⟩ := encodeBase64_eq bytes
  have ascii : ∀ character ∈ body ++ List.replicate padding '=', character.toNat < 128 := by
    refine List.forall_mem_append.mpr ⟨fun character member => ?_, fun character member => ?_⟩
    · exact (isBase64_unitOf (characters character member)).1
    · rw [List.eq_of_mem_replicate member]
      decide
  have accepted : ∀ unit ∈ body.map unitOf, isBase64 unit = true :=
    List.forall_mem_map.mpr fun character member =>
      (isBase64_unitOf (characters character member)).2
  have noMore : (List.replicate padding (unitOf '=')).takeWhile isBase64 = [] := by
    cases padding <;> rfl
  have all
      : (List.replicate padding (unitOf '=')).dropWhile isBase64
        = List.replicate padding (unitOf '=') := by
    cases padding <;> rfl
  rw [isEncoding, codeUnits_of_ascii ascii, List.map_append, List.map_replicate]
  refine ⟨?_, by simp⟩
  rw [matchesBase64, List.takeWhile_append_of_pos accepted, List.dropWhile_append_of_pos accepted,
    noMore, all]
  simp only [List.append_nil, List.length_map, List.length_replicate, Bool.and_eq_true,
    decide_eq_true_eq, List.all_eq_true]
  refine ⟨⟨by omega, short⟩, fun unit member => ?_⟩
  exact List.eq_of_mem_replicate member

/-- The standard encoding of at least three bytes is valid up to 49152 bytes. -/
theorem isValidXDR_encodeBase64 {bytes : List UInt8} (long : 3 ≤ bytes.length)
    : isValidXDR (codeUnits (String.ofList (encodeBase64 bytes))) = true
      ↔ bytes.length ≤ 49152 := by
  obtain ⟨isMatch, sameLength⟩ := matchesBase64_encodeBase64 long
  have length := length_encodeBase64 bytes
  rw [isValidXDR, sameLength, isMatch, maxXdrStringLength]
  split_ifs with isEmpty tooLong
  · exact absurd isEmpty (by omega)
  · exact iff_of_false id (by omega)
  · exact iff_of_true rfl (by omega)

-----------------------------------------------------------------------------------------
-- The library
-----------------------------------------------------------------------------------------

/-- A `Transaction` of the library: its envelope, and what is read from the envelope. The fee is a
decimal text in the library.
-/
structure Transaction (η ω : Type) where
  envelope : η
  networkPassphrase : String
  source : String
  sequence : String
  fee : Nat
  operations : List ω
  timeBounds : Option (Nat × Nat)

/-- What the library reads from a text of XDR. -/
inductive ParsedEnvelope (η ω : Type) where
  | transaction (transaction : Transaction η ω)
  | feeBump

/-- `OfflineSourceAccount`. -/
structure OfflineSourceAccount where
  accountId : String
  sequence : String

/-- The fields of an `OfflineTransactionBuilder`. -/
structure OfflineTransactionBuilder (ω : Type) where
  sourceAccount : OfflineSourceAccount
  networkPassphrase : String
  fee : JsNumber
  timeoutInSeconds : JsNumber
  memo : Option String
  operations : List ω

/-- What is used of the library: the bytes of an envelope, the reader of texts of XDR, the check of
account ids, and the building of a transaction from the fields of a builder, which throws a text.
-/
structure StellarSdk (η ω : Type) where
  envelopeBytes : η → List UInt8
  fromXDR : String → String → Except String (ParsedEnvelope η ω)
  isValidEd25519PublicKey : String → Bool
  buildTransaction : OfflineTransactionBuilder ω → Except String (Transaction η ω)

variable {η ω : Type}

/-- `transaction.toXDR()`. -/
def StellarSdk.toXDR (sdk : StellarSdk η ω) (transaction : Transaction η ω) : String :=
  .ofList (encodeBase64 (sdk.envelopeBytes transaction.envelope))

-----------------------------------------------------------------------------------------
-- The builder
-----------------------------------------------------------------------------------------

/-- `MAX_OPERATIONS_PER_TRANSACTION`. -/
def maxOperationsPerTransaction : Nat := 100

/-- `OfflineTransactionBuilderOptions`. -/
structure OfflineTransactionBuilderOptions where
  sourceAccount : OfflineSourceAccount
  networkPassphrase : String
  fee : Option JsNumber := none
  timeoutInSeconds : Option JsNumber := none
  memo : Option String := none

/-- `/^\d+$/.test(text)`. -/
def isNumericText (text : String) : Bool :=
  text ≠ "" && text.toList.all Char.isDigit

/-- `Number.isInteger(number)`. -/
def isInteger : JsNumber → Bool
  | .finite value => value.isInt
  | _ => false

/-- The constructor. -/
def newOfflineTransactionBuilder (sdk : StellarSdk η ω) (options : OfflineTransactionBuilderOptions)
    : Except OfflineError (OfflineTransactionBuilder ω) :=
  if sdk.isValidEd25519PublicKey options.sourceAccount.accountId = false
      ∨ options.sourceAccount.accountId = "" then
    .error (.validationError
      ("OfflineTransactionBuilder: sourceAccount.accountId must be a valid G-prefixed Stellar "
        ++ "account ID"))
  else if isNumericText options.sourceAccount.sequence = false then
    .error (.validationError
      "OfflineTransactionBuilder: sourceAccount.sequence must be a non-negative integer string")
  else if options.networkPassphrase = "" then
    .error (.validationError "OfflineTransactionBuilder: networkPassphrase is required")
  else if options.fee.any fun fee => !isInteger fee || fee.isAtMost 0 then
    .error (.validationError "OfflineTransactionBuilder: fee must be a positive integer")
  else if
    options.timeoutInSeconds.any fun timeout => !isInteger timeout || !timeout.isAtLeast 0
  then
    .error (.validationError
      "OfflineTransactionBuilder: timeoutInSeconds must be a non-negative integer")
  else
    .ok {
      sourceAccount := options.sourceAccount
      networkPassphrase := options.networkPassphrase
      fee := options.fee.getD (.finite 100000)
      timeoutInSeconds := options.timeoutInSeconds.getD (.finite 60)
      memo := options.memo
      operations := []
    }

/-- `addOperation`. -/
def OfflineTransactionBuilder.addOperation (builder : OfflineTransactionBuilder ω) (operation : ω)
    : OfflineTransactionBuilder ω :=
  { builder with operations := builder.operations ++ [operation] }

/-- The errors that `validate` finds. -/
def validate (sdk : StellarSdk η ω) (transaction : Transaction η ω) : List String :=
  (if transaction.operations.length = 0 then ["Transaction must contain at least one operation"]
    else [])
  ++ (if maxOperationsPerTransaction < transaction.operations.length then
        ["Transaction exceeds the maximum of " ++ toString maxOperationsPerTransaction
          ++ " operations"]
      else [])
  ++ (if transaction.fee = 0 then ["Transaction fee must be a positive number"] else [])
  ++ (if transaction.source = "" ∨ sdk.isValidEd25519PublicKey transaction.source = false then
        ["Transaction must have a valid source account"]
      else [])
  ++ (if isNumericText transaction.sequence then []
      else ["Transaction must have a valid numeric sequence number"])
  ++ (if transaction.timeBounds.isSome then []
      else ["Transaction must have time bounds set (call setTimeout before building)"])

/-- `build`. -/
def OfflineTransactionBuilder.build (builder : OfflineTransactionBuilder ω) (sdk : StellarSdk η ω)
    : Except OfflineError (Transaction η ω) :=
  if builder.operations.length = 0 then
    .error (.validationError
      "OfflineTransactionBuilder: at least one operation is required to build a transaction")
  else if maxOperationsPerTransaction < builder.operations.length then
    .error (.validationError
      ("OfflineTransactionBuilder: a transaction cannot contain more than "
        ++ toString maxOperationsPerTransaction ++ " operations"))
  else
    match sdk.buildTransaction builder with
    | .error message => .error (.thrown message)
    | .ok transaction =>
        let errors := validate sdk transaction
        if errors = [] then .ok transaction
        else
          .error (.validationError
            ("OfflineTransactionBuilder: built transaction failed validation: "
              ++ "; ".intercalate errors))

/-- `OfflineTransactionPackage`. -/
structure OfflineTransactionPackage where
  version : FiniteNumber
  xdr : String
  networkPassphrase : String
  sourceAccountId : String
  sequence : String
  operationCount : Nat
  createdAt : Nat

/-- One is a digit. -/
theorem one_lt_ten : 1 < 10 := Nat.one_lt_succ_succ 8

/-- The number one does not begin with a zero. -/
theorem one_leading : ∃ first ∈ [(⟨1, one_lt_ten⟩ : Fin 10)].head?, first ≠ 0 :=
  ⟨_, rfl, Fin.ne_of_val_ne Nat.one_ne_zero⟩

/-- The number one does not end with a zero. -/
theorem one_trailing : ∀ last ∈ [(⟨1, one_lt_ten⟩ : Fin 10)].getLast?, last ≠ 0 :=
  fun _ isLast => Option.some.inj isLast ▸ Fin.ne_of_val_ne Nat.one_ne_zero

/-- `OFFLINE_TRANSACTION_PACKAGE_VERSION`. -/
def offlineTransactionPackageVersion : FiniteNumber :=
  .signed false
    { digits := [⟨1, one_lt_ten⟩], point := 1, leading := one_leading, trailing := one_trailing }

/-- `export`, at a time. -/
def OfflineTransactionBuilder.exportTransaction (builder : OfflineTransactionBuilder ω)
    (sdk : StellarSdk η ω) (transaction : Transaction η ω) (now : Nat)
    : Except OfflineError OfflineTransactionPackage :=
  let errors := validate sdk transaction
  if errors = [] then
    .ok {
      version := offlineTransactionPackageVersion
      xdr := sdk.toXDR transaction
      networkPassphrase := builder.networkPassphrase
      sourceAccountId := builder.sourceAccount.accountId
      sequence := builder.sourceAccount.sequence
      operationCount := transaction.operations.length
      createdAt := now
    }
  else
    .error (.validationError
      ("OfflineTransactionBuilder: cannot export an invalid transaction: "
        ++ "; ".intercalate errors))

/-- `fromXDR`. -/
def fromXDR (sdk : StellarSdk η ω) (xdrString networkPassphrase : String)
    : Except OfflineError (Transaction η ω) :=
  match assertValidXDR (codeUnits xdrString) "OfflineTransactionBuilder.fromXDR" with
  | .error error => .error (.invalidXDRError error)
  | .ok () =>
      match sdk.fromXDR xdrString networkPassphrase with
      | .error message =>
          .error (.invalidXDRError
            (.new
              (codeUnits ("OfflineTransactionBuilder.fromXDR: failed to parse XDR: " ++ message))
              (codeUnits xdrString) (some message)))
      | .ok .feeBump =>
          .error (.validationError
            ("OfflineTransactionBuilder.fromXDR: expected an inner transaction, received a fee "
              ++ "bump transaction envelope"))
      | .ok (.transaction parsed) => .ok parsed

/-- `import`. -/
def importPackage (sdk : StellarSdk η ω) (pkg : OfflineTransactionPackage)
    : Except OfflineError (Transaction η ω) :=
  if pkg.version.toText ≠ offlineTransactionPackageVersion.toText then
    .error (.validationError
      ("OfflineTransactionBuilder: unsupported offline package version \""
        ++ .ofList pkg.version.toText ++ "\""))
  else fromXDR sdk pkg.xdr pkg.networkPassphrase

end Axionvera.Transactions
