import Axionvera.Foundation.MixedValue
import Axionvera.Soroban.Authorization
import Mathlib.Logic.Equiv.List
import Mathlib.Tactic.DeriveEncodable

/-! A library whose texts are numbers: the envelopes and entries that the builders of authorization
entries make are written as their codes, and read again as what they were.
-/

namespace Axionvera.Soroban

open Axionvera.Foundation (isDigits isDigits_toDigits parseDigits parseDigits_toDigits)

-----------------------------------------------------------------------------------------
-- Entries that are not signed
-----------------------------------------------------------------------------------------

/-- Bytes by their numbers. -/
instance encodableUInt8 : Encodable UInt8 :=
  Encodable.ofLeftInverse UInt8.toNat UInt8.ofNat fun _ => UInt8.ofNat_toNat

/-- Words by their numbers. -/
instance encodableBitVec (width : Nat) : Encodable (BitVec width) :=
  Encodable.ofLeftInverse BitVec.toNat (BitVec.ofNat width) fun word =>
    (BitVec.ofNat_toNat width word).trans word.setWidth_eq

deriving instance Encodable for ScAddress

/-- An argument that holds no other values. -/
inductive FlatArgument where
  | bool (b : Bool)
  | u32 (word : BitVec 32)
  | i128 (hi lo : BitVec 64)
  | symbol (name : List UInt8)
  | string (text : List UInt8)
  | address (party : ScAddress)
  deriving Encodable

/-- The value of an argument. -/
def FlatArgument.scVal : FlatArgument → ScVal
  | .bool b => .bool b
  | .u32 word => .u32 word
  | .i128 hi lo => .i128 hi lo
  | .symbol name => .symbol name
  | .string text => .string text
  | .address party => .address party

/-- The argument with a value, if it is of such a kind. -/
def ScVal.flat? : ScVal → Option FlatArgument
  | .bool b => some (.bool b)
  | .u32 word => some (.u32 word)
  | .i128 hi lo => some (.i128 hi lo)
  | .symbol name => some (.symbol name)
  | .string text => some (.string text)
  | .address party => some (.address party)
  | _ => none

/-- An entry as `buildSorobanAddressAuthEntry` and `buildSorobanSourceAccountAuthEntry` make it: not
signed, for one call.
-/
structure FlatEntry where
  credentials : Option (ScAddress × Int × Int)
  contractAddress : ScAddress
  functionName : List UInt8
  args : List FlatArgument
  deriving Encodable

/-- The entry itself. -/
def FlatEntry.entry (flat : FlatEntry) : SorobanAuthorizationEntry where
  credentials :=
    match flat.credentials with
    | none => .sourceAccount
    | some (party, nonce, ledger) => .address ⟨party, nonce, ledger, .void⟩
  rootInvocation :=
    .mk (.contractFn ⟨flat.contractAddress, flat.functionName, flat.args.map FlatArgument.scVal⟩) []

/-- The parts of credentials that are not signed. -/
def SorobanCredentials.flat? : SorobanCredentials → Option (Option (ScAddress × Int × Int))
  | .sourceAccount => some none
  | .address ⟨party, nonce, ledger, .void⟩ => some (some (party, nonce, ledger))
  | .address _ => none

/-- The parts of an entry that is not signed and for one call. -/
def SorobanAuthorizationEntry.flat? (entry : SorobanAuthorizationEntry) : Option FlatEntry :=
  match entry.rootInvocation with
  | .mk (.contractFn call) [] => do
      let credentials ← entry.credentials.flat?
      let args ← call.args.mapM ScVal.flat?
      return ⟨credentials, call.contractAddress, call.functionName, args⟩
  | _ => none

/-- An operation with entries that are not signed. -/
abbrev FlatOperation := (List UInt8 × List FlatEntry) ⊕ List UInt8

/-- The operation itself. -/
def FlatOperation.operation : FlatOperation → EnvelopeOperation
  | .inl (hostFunction, auth) => .invokeHostFunction hostFunction (auth.map FlatEntry.entry)
  | .inr body => .other body

/-- The parts of an operation whose entries are not signed. -/
def EnvelopeOperation.flat? : EnvelopeOperation → Option FlatOperation
  | .invokeHostFunction hostFunction auth =>
      (auth.mapM SorobanAuthorizationEntry.flat?).map fun entries => .inl (hostFunction, entries)
  | .other body => some (.inr body)

/-- An envelope of version 1 with entries that are not signed. -/
abbrev FlatEnvelope := List FlatOperation × List UInt8

/-- The envelope itself. -/
def FlatEnvelope.envelope (flat : FlatEnvelope) : TransactionEnvelope :=
  .v1 (flat.1.map FlatOperation.operation) flat.2

/-- The parts of an envelope of version 1 whose entries are not signed. -/
def TransactionEnvelope.flat? : TransactionEnvelope → Option FlatEnvelope
  | .v1 operations others =>
      (operations.mapM EnvelopeOperation.flat?).map fun flats => (flats, others)
  | .other _ => none

/-- A list is found again in the parts of its items, by induction on it. -/
theorem map_of_mapM_eq_some {α β : Type*} {parts : α → Option β} {whole : β → α}
    (inverse : ∀ item part, parts item = some part → whole part = item) {items : List α}
    {found : List β} (areParts : items.mapM parts = some found)
    : found.map whole = items := by
  induction items generalizing found with
  | nil =>
      obtain rfl := Option.some.inj areParts
      rfl
  | cons item rest ih =>
      simp only [List.mapM_cons, Option.bind_eq_bind, Option.bind_eq_some_iff] at areParts
      obtain ⟨part, isPart, others, areOthers, isFound⟩ := areParts
      obtain rfl := Option.some.inj isFound
      rw [List.map_cons, inverse item part isPart, ih areOthers]

/-- A value is that of its argument. -/
theorem scVal_of_flat? (scVal : ScVal) (flat : FlatArgument) (isFlat : scVal.flat? = some flat)
    : flat.scVal = scVal := by
  cases scVal <;> cases isFlat <;> rfl

/-- An entry is that of its parts. -/
theorem entry_of_flat? (entry : SorobanAuthorizationEntry) (flat : FlatEntry)
    (isFlat : entry.flat? = some flat)
    : flat.entry = entry := by
  obtain ⟨credentials, function, subInvocations⟩ := entry
  cases function with
  | createContract preimage => cases isFlat
  | contractFn call =>
      cases subInvocations with
      | cons first rest => cases isFlat
      | nil =>
          simp only [SorobanAuthorizationEntry.flat?, Option.bind_eq_bind,
            Option.bind_eq_some_iff] at isFlat
          obtain ⟨parts, areParts, args, areArgs, isFlat⟩ := isFlat
          obtain rfl := Option.some.inj isFlat
          have sameArgs := map_of_mapM_eq_some scVal_of_flat? areArgs
          rw [FlatEntry.entry, sameArgs]
          cases credentials with
          | sourceAccount =>
              obtain rfl := Option.some.inj areParts
              rfl
          | address credentials =>
              obtain ⟨address, nonce, ledger, signature⟩ := credentials
              cases signature <;> cases areParts
              rfl

/-- An operation is that of its parts. -/
theorem operation_of_flat? (operation : EnvelopeOperation) (flat : FlatOperation)
    (isFlat : operation.flat? = some flat)
    : flat.operation = operation := by
  cases operation with
  | invokeHostFunction hostFunction auth =>
      obtain ⟨entries, areEntries, rfl⟩ := Option.map_eq_some_iff.mp isFlat
      rw [FlatOperation.operation, map_of_mapM_eq_some entry_of_flat? areEntries]
  | other body =>
      obtain rfl := Option.some.inj isFlat
      rfl

/-- An envelope is that of its parts. -/
theorem envelope_of_flat? {envelope : TransactionEnvelope} {flat : FlatEnvelope}
    (isFlat : envelope.flat? = some flat)
    : flat.envelope = envelope := by
  cases envelope with
  | v1 operations others =>
      obtain ⟨flats, areFlats, rfl⟩ := Option.map_eq_some_iff.mp isFlat
      rw [FlatEnvelope.envelope, map_of_mapM_eq_some operation_of_flat? areFlats]
  | other bytes => cases isFlat

-----------------------------------------------------------------------------------------
-- The library
-----------------------------------------------------------------------------------------

/-- The characters of a text as bytes. -/
def keyBytes (characters : List Char) : List UInt8 :=
  characters.map fun character => UInt8.ofNat character.toNat

/-- The digits of a number. -/
def digitText (number : Nat) : String :=
  String.ofList (Nat.toDigits 10 number)

/-- The number that a text of digits denotes. -/
def digitNumber (text : String) : Option Nat :=
  if isDigits text.toList then some (parseDigits text.toList) else none

/-- The digits of a number denote it. -/
theorem digitNumber_digitText (number : Nat) : digitNumber (digitText number) = some number := by
  rw [digitNumber, digitText, String.toList_ofList, if_pos (isDigits_toDigits number),
    parseDigits_toDigits]

/-- A library that knows addresses by their first letters and writes envelopes with entries that are
not signed.
-/
def AuthSdk.numbered : AuthSdk where
  addressOf text :=
    match text.toList with
    | 'G' :: key => some (.account (keyBytes key))
    | 'C' :: id => some (.contract (keyBytes id))
    | _ => none
  toXDR envelope := envelope.flat?.map fun flat => digitText (Encodable.encode flat)
  fromXDR text := ((digitNumber text).bind Encodable.decode).map FlatEnvelope.envelope
  entryFromXDR text := ((digitNumber text).bind Encodable.decode).map FlatEntry.entry
  encodeEd25519PublicKey publicKey :=
    some (String.ofList ('G' :: publicKey.map fun byte => Char.ofNat byte.toNat))
  fromXDR_toXDR envelope text isWritten := by
    obtain ⟨flat, isFlat, rfl⟩ := Option.map_eq_some_iff.mp isWritten
    rw [digitNumber_digitText, Option.bind_some, Encodable.encodek, Option.map_some,
      envelope_of_flat? isFlat]

end Axionvera.Soroban
