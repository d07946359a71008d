import Axionvera.Foundation.AsciiCharacter
import Axionvera.Foundation.HexText
import Axionvera.Foundation.LowerCase

/-! The signatures of webhooks (`utils/webhooks.ts`): a header is accepted if it is the message
authentication code of the payload, as a hexadecimal text.
-/

namespace Axionvera.Webhooks

open Axionvera.Foundation

/-- `InvalidSignatureError`. -/
structure InvalidSignatureError where
  message : String
  deriving DecidableEq, Repr

/-- `number.toString(16)`. -/
def toHexText (number : Nat) : CodeUnits :=
  (Nat.toDigits 16 number).map unitOf

/-- `text.padStart(width, fill)`, for a fill of one unit. -/
def padStart (text : CodeUnits) (width : Nat) (fill : UInt16) : CodeUnits :=
  List.replicate (width - text.length) fill ++ text

/-- `bytesToHex`. -/
def bytesToHex (bytes : List UInt8) : CodeUnits :=
  bytes.foldl (fun hex byte => hex ++ padStart (toHexText byte.toNat) 2 (unitOf '0')) []

/-- What differs between two texts of one length: the bits in which units at one place differ. -/
def mismatch (computedHex providedHex : CodeUnits) : UInt16 :=
  (computedHex.zip providedHex).foldl
    (fun mismatch units => mismatch ||| (units.1 ^^^ units.2)) 0

/-- HMAC with SHA-256, from the bytes of a key and of a payload to 32 bytes. -/
abbrev Hmac := List UInt8 → List UInt8 → Vector UInt8 32

/-- What is thrown when a signature is not accepted. -/
def verificationFailed : InvalidSignatureError :=
  ⟨"Webhook signature verification failed"⟩

/-- `verifyWebhookSignature`, given HMAC and where a capital sigma is final. -/
def verifyWebhookSignature (hmac : Hmac) (isFinalSigma : List Nat → List Nat → Bool)
    (payloadString signatureHeader secretKey : CodeUnits)
    : Except InvalidSignatureError Bool :=
  let keyData := encodeText secretKey
  let payload := encodeText payloadString
  let computedHex := bytesToHex (hmac keyData payload).toList
  let providedHex := CodeUnits.toLowerCase isFinalSigma signatureHeader
  if computedHex.length ≠ providedHex.length then .error verificationFailed
  else if mismatch computedHex providedHex ≠ 0 then .error verificationFailed
  else .ok true

-----------------------------------------------------------------------------------------
-- Which headers are accepted
-----------------------------------------------------------------------------------------

/-- The hexadecimal text of a message authentication code. -/
def macText (mac : Vector UInt8 32) : CodeUnits :=
  (encodeHex mac.toList).map unitOf

/-- Two texts are equal up to the case of letters of ASCII. -/
def equalsIgnoringAsciiCase (first second : CodeUnits) : Prop :=
  first.map lowerAscii = second.map lowerAscii

/-- Whether two texts are so can be computed. -/
instance (first second : CodeUnits) : Decidable (equalsIgnoringAsciiCase first second) :=
  inferInstanceAs (Decidable (first.map lowerAscii = second.map lowerAscii))

/-- The digits of each byte are padded to two. -/
theorem padStart_toHexText
    : ∀ byte : UInt8,
        padStart (toHexText byte.toNat) 2 (unitOf '0') = (hexDigits byte).map unitOf :=
  forall_byte_of_forall_fin (by decide +kernel)

/-- The loop over the bytes appends the digits of each to those before, by induction on the bytes.
-/
theorem bytesToHex_eq (bytes : List UInt8) : bytesToHex bytes = (encodeHex bytes).map unitOf := by
  have loop (hex : CodeUnits)
      : bytes.foldl (fun hex byte => hex ++ padStart (toHexText byte.toNat) 2 (unitOf '0')) hex
        = hex ++ (encodeHex bytes).map unitOf := by
    induction bytes generalizing hex with
    | nil => exact (List.append_nil hex).symm
    | cons byte rest ih =>
        rw [List.foldl_cons, ih, padStart_toHexText, List.append_assoc]
        exact congrArg (hex ++ ·) List.map_append.symm
  exact loop []

/-- The bits that are collected are none exactly if there were none before and the texts are equal,
by induction along the texts.
-/
theorem foldl_mismatch_eq_zero_iff {first second : CodeUnits}
    (sameLength : first.length = second.length) (collected : UInt16)
    : (first.zip second).foldl (fun mismatch units => mismatch ||| (units.1 ^^^ units.2)) collected
        = 0
      ↔ collected = 0 ∧ first = second := by
  induction first generalizing second collected with
  | nil =>
      obtain rfl := List.length_eq_zero_iff.mp sameLength.symm
      simp
  | cons unit rest ih =>
      cases second with
      | nil => cases sameLength
      | cons other others =>
          rw [List.zip_cons_cons, List.foldl_cons, ih (Nat.succ.inj sameLength),
            UInt16.or_eq_zero_iff, UInt16.xor_eq_zero_iff, List.cons.injEq, and_assoc]

/-- Texts of one length do not differ exactly if they are equal. -/
theorem mismatch_eq_zero_iff {first second : CodeUnits} (sameLength : first.length = second.length)
    : mismatch first second = 0 ↔ first = second :=
  (foldl_mismatch_eq_zero_iff sameLength 0).trans (and_iff_right rfl)

/-- The units of a code's text are of ASCII and no capital letters, and the letter k is not among
them.
-/
theorem plain_of_mem_macText {mac : Vector UInt8 32} {unit : UInt16} (member : unit ∈ macText mac)
    : (unit.toNat < 128 ∧ unit ≠ unitOf 'k') ∧ lowerAscii unit = unit := by
  have plain
      : ∀ digit ∈ "0123456789abcdef".toList,
          ((unitOf digit).toNat < 128 ∧ unitOf digit ≠ unitOf 'k')
          ∧ lowerAscii (unitOf digit) = unitOf digit :=
    forall_mem_of_all (by decide)
  obtain ⟨digit, isDigit, rfl⟩ := List.mem_map.mp member
  exact plain digit (mem_encodeHex isDigit)

/-- A code's text has two units for each byte. -/
theorem length_macText (mac : Vector UInt8 32) : (macText mac).length = 64 := by
  rw [macText, List.length_map, length_encodeHex, Vector.length_toList]

/-- Different codes have different texts, since the digits are read back from their units. -/
theorem macText_injective : Function.Injective macText := by
  have isInverse
      : ∀ digit ∈ "0123456789abcdef".toList, Char.ofNat (unitOf digit).toNat = digit :=
    forall_mem_of_all (by decide)
  have readBack (mac : Vector UInt8 32)
      : (macText mac).map (fun unit => Char.ofNat unit.toNat) = encodeHex mac.toList := by
    rw [macText, List.map_map]
    exact (List.map_congr_left fun digit member => isInverse digit (mem_encodeHex member)).trans
      (List.map_id _)
  intro first second same
  have sameDigits : encodeHex first.toList = encodeHex second.toList := by
    rw [← readBack, same, readBack]
  exact Vector.toList_inj.mp (encodeHex_injective sameDigits)

/-- A header equals a code's text up to the case of letters of ASCII exactly if its lower case, by
the rules for all texts, is that text.
-/
theorem toLowerCase_eq_macText_iff (isFinalSigma : List Nat → List Nat → Bool) (header : CodeUnits)
    (mac : Vector UInt8 32)
    : CodeUnits.toLowerCase isFinalSigma header = macText mac
      ↔ equalsIgnoringAsciiCase header (macText mac) := by
  have unchanged : (macText mac).map lowerAscii = macText mac :=
    (List.map_congr_left fun unit member => (plain_of_mem_macText member).2).trans (List.map_id _)
  rw [toLowerCase_eq_iff fun unit member => (plain_of_mem_macText member).1,
    equalsIgnoringAsciiCase, unchanged]

/-- What becomes of a header. -/
theorem verifyWebhookSignature_eq (hmac : Hmac) (isFinalSigma : List Nat → List Nat → Bool)
    (payloadString signatureHeader secretKey : CodeUnits)
    : verifyWebhookSignature hmac isFinalSigma payloadString signatureHeader secretKey
      = if equalsIgnoringAsciiCase signatureHeader
            (macText (hmac (encodeText secretKey) (encodeText payloadString))) then .ok true
        else .error verificationFailed := by
  simp only [verifyWebhookSignature, bytesToHex_eq, ← toLowerCase_eq_macText_iff isFinalSigma]
  change (if (macText _).length ≠ _ then _ else if mismatch (macText _) _ ≠ 0 then _ else _) = _
  generalize macText _ = computed
  generalize CodeUnits.toLowerCase _ _ = provided
  by_cases sameLength : computed.length = provided.length
  · rw [if_neg (not_not_intro sameLength)]
    by_cases same : provided = computed
    · rw [if_pos same, if_neg (not_not_intro ((mismatch_eq_zero_iff sameLength).mpr same.symm))]
    · rw [if_neg same, if_pos fun none => same ((mismatch_eq_zero_iff sameLength).mp none).symm]
  · rw [if_pos sameLength, if_neg fun same => sameLength (congrArg List.length same.symm)]

/-- A header is accepted exactly if it is the hexadecimal text of the payload's authentication code,
in capital or small letters, and is refused with an `InvalidSignatureError` otherwise. No header is
accepted for two different codes.
-/
theorem webhook_signature_exact (hmac : Hmac) (isFinalSigma : List Nat → List Nat → Bool)
    (payloadString signatureHeader secretKey : CodeUnits)
    : let mac := hmac (encodeText secretKey) (encodeText payloadString)
      (macText mac).length = 64
      ∧ verifyWebhookSignature hmac isFinalSigma payloadString signatureHeader secretKey
          = (if equalsIgnoringAsciiCase signatureHeader (macText mac) then .ok true
            else .error verificationFailed)
      ∧ ∀ otherPayload otherSecret,
          hmac (encodeText otherSecret) (encodeText otherPayload) ≠ mac
          → verifyWebhookSignature hmac isFinalSigma payloadString signatureHeader secretKey
              = .ok true
          → verifyWebhookSignature hmac isFinalSigma otherPayload signatureHeader otherSecret
              = .error verificationFailed := by
  refine ⟨length_macText _, verifyWebhookSignature_eq .., ?_⟩
  intro otherPayload otherSecret different accepted
  rw [verifyWebhookSignature_eq] at accepted ⊢
  split at accepted
  · rename_i isText
    rw [if_neg]
    intro isOtherText
    rw [← toLowerCase_eq_macText_iff isFinalSigma] at isText isOtherText
    exact different (macText_injective (isOtherText.symm.trans isText))
  · cases accepted

end Axionvera.Webhooks
