import Axionvera.Codegen.ArgumentValues

/-! Authorization entries of contract calls (`utils/sorobanAuth.ts`) and the accounts that have to
sign for them (`utils/getRequiredSigners.ts`).
-/

namespace Axionvera.Soroban

-----------------------------------------------------------------------------------------
-- Entries
-----------------------------------------------------------------------------------------

/-- `xdr.InvokeContractArgs`. -/
structure InvokeContractArgs where
  contractAddress : ScAddress
  functionName : List UInt8
  args : List ScVal

/-- `xdr.SorobanAuthorizedFunction`: a call, or the creation of a contract. -/
inductive SorobanAuthorizedFunction where
  | contractFn (call : InvokeContractArgs)
  | createContract (preimage : List UInt8)

/-- `xdr.SorobanAuthorizedInvocation`. -/
inductive SorobanAuthorizedInvocation where
  | mk (function : SorobanAuthorizedFunction) (subInvocations : List SorobanAuthorizedInvocation)

/-- `xdr.SorobanAddressCredentials`. -/
structure SorobanAddressCredentials where
  address : ScAddress
  nonce : Int
  signatureExpirationLedger : Int
  signature : ScVal

/-- `xdr.SorobanCredentials`. -/
inductive SorobanCredentials where
  | sourceAccount
  | address (credentials : SorobanAddressCredentials)

/-- `xdr.SorobanAuthorizationEntry`. -/
structure SorobanAuthorizationEntry where
  credentials : SorobanCredentials
  rootInvocation : SorobanAuthorizedInvocation

/-- An operation of an envelope: a call of the host with its entries, or any other one. -/
inductive EnvelopeOperation where
  | invokeHostFunction (hostFunction : List UInt8) (auth : List SorobanAuthorizationEntry)
  | other (body : List UInt8)

/-- `xdr.TransactionEnvelope`: one of version 1, with its operations and all its other parts, or one
of which `v1()` throws.
-/
inductive TransactionEnvelope where
  | v1 (operations : List EnvelopeOperation) (others : List UInt8)
  | other (bytes : List UInt8)

/-- What is used of `stellar-sdk`: addresses, and the texts of envelopes, entries and keys. A text
that an envelope was written to is read as that envelope.
-/
structure AuthSdk where
  addressOf : String → Option ScAddress
  toXDR : TransactionEnvelope → Option String
  fromXDR : String → Option TransactionEnvelope
  entryFromXDR : String → Option SorobanAuthorizationEntry
  encodeEd25519PublicKey : List UInt8 → Option String
  fromXDR_toXDR : ∀ envelope text, toXDR envelope = some text → fromXDR text = some envelope

-----------------------------------------------------------------------------------------
-- Building entries, and adding them to envelopes
-----------------------------------------------------------------------------------------

/-- `buildInvocation`, `none` when it throws. -/
def AuthSdk.buildInvocation (sdk : AuthSdk) (contractId methodName : String) (args : List ScVal)
    : Option SorobanAuthorizedInvocation :=
  (sdk.addressOf contractId).map fun contractAddress =>
    .mk (.contractFn ⟨contractAddress, Codegen.utf8Bytes methodName, args⟩) []

/-- `BuildAddressAuthEntryParams`. -/
structure BuildAddressAuthEntryParams where
  contractId : String
  methodName : String
  args : List ScVal
  signerAddress : String
  nonce : Option Int := none
  signatureExpirationLedger : Option Int := none

/-- `new xdr.Int64(nonce)`, which throws for what does not fit. -/
def int64 (nonce : Int) : Option Int :=
  if -(2 ^ 63) ≤ nonce ∧ nonce < 2 ^ 63 then some nonce else none

/-- `buildSorobanAddressAuthEntry`, `none` when it throws. -/
def AuthSdk.buildSorobanAddressAuthEntry (sdk : AuthSdk) (params : BuildAddressAuthEntryParams)
    : Option SorobanAuthorizationEntry := do
  let address ← sdk.addressOf params.signerAddress
  let nonce ← int64 (params.nonce.getD 0)
  let rootInvocation ← sdk.buildInvocation params.contractId params.methodName params.args
  return {
    credentials :=
      .address
        {
          address := address
          nonce := nonce
          signatureExpirationLedger := params.signatureExpirationLedger.getD 0
          signature := .void
        }
    rootInvocation := rootInvocation
  }

/-- `buildSorobanSourceAccountAuthEntry`, `none` when it throws. -/
def AuthSdk.buildSorobanSourceAccountAuthEntry (sdk : AuthSdk) (contractId methodName : String)
    (args : List ScVal) : Option SorobanAuthorizationEntry :=
  (sdk.buildInvocation contractId methodName args).map fun rootInvocation =>
    ⟨.sourceAccount, rootInvocation⟩

/-- What the loop of `addAuthEntry` makes of an operation. -/
def EnvelopeOperation.addAuth (entry : SorobanAuthorizationEntry)
    : EnvelopeOperation → EnvelopeOperation
  | .invokeHostFunction hostFunction auth => .invokeHostFunction hostFunction (auth ++ [entry])
  | .other body => .other body

/-- `addAuthEntry`. The text comes back as it was if it is no envelope of version 1, or if the
envelope cannot be written.
-/
def AuthSdk.addAuthEntry (sdk : AuthSdk) (envelopeXdr : String) (entry : SorobanAuthorizationEntry)
    : String :=
  match sdk.fromXDR envelopeXdr with
  | some (.v1 operations others) =>
      (sdk.toXDR (.v1 (operations.map (·.addAuth entry)) others)).getD envelopeXdr
  | _ => envelopeXdr

/-- The entries of a call, added one after another. -/
def AuthSdk.addAuthEntries (sdk : AuthSdk) (envelopeXdr : String)
    (entries : List SorobanAuthorizationEntry) : String :=
  entries.foldl sdk.addAuthEntry envelopeXdr

-----------------------------------------------------------------------------------------
-- Who has to sign
-----------------------------------------------------------------------------------------

/-- An item of a list of entries in a simulation: an entry, its base64 form, or anything else. -/
inductive AuthItem where
  | entry (entry : SorobanAuthorizationEntry)
  | text (base64 : String)
  | other

/-- The fields `result.auth` and `results` of a simulation, `none` where there is no array. -/
structure SimulationAuth where
  auth : Option (List AuthItem) := none
  results : Option (List (Option (List AuthItem))) := none

/-- `decodeAuthEntry`. -/
def AuthSdk.decodeAuthEntry (sdk : AuthSdk) : AuthItem → Option SorobanAuthorizationEntry
  | .entry entry => some entry
  | .text base64 => sdk.entryFromXDR base64
  | .other => none

/-- `collectAuthEntries`. -/
def AuthSdk.collectAuthEntries (sdk : AuthSdk) (simulationResult : SimulationAuth)
    : List SorobanAuthorizationEntry :=
  (simulationResult.auth.getD []).filterMap sdk.decodeAuthEntry
  ++ (simulationResult.results.getD []).flatMap fun auth =>
    (auth.getD []).filterMap sdk.decodeAuthEntry

/-- `extractAccountSigner`. -/
def AuthSdk.extractAccountSigner (sdk : AuthSdk) (entry : SorobanAuthorizationEntry)
    : Option String :=
  match entry.credentials with
  | .sourceAccount => none
  | .address credentials =>
      match credentials.address with
      | .account publicKey => sdk.encodeEd25519PublicKey publicKey
      | _ => none

/-- `signers.add(publicKey)` on a set in the order of insertion. -/
def addSigner (signers : List String) (publicKey : String) : List String :=
  if publicKey ∈ signers then signers else signers ++ [publicKey]

/-- The loop of `getRequiredSigners` over entries; an empty key does not count. -/
def AuthSdk.collectSigners (sdk : AuthSdk) (signers : List String)
    (entries : List SorobanAuthorizationEntry) : List String :=
  entries.foldl
    (fun signers entry =>
      match (sdk.extractAccountSigner entry).filter (· ≠ "") with
      | some publicKey => addSigner signers publicKey
      | none => signers)
    signers

/-- `getRequiredSigners`. -/
def AuthSdk.getRequiredSigners (sdk : AuthSdk) (simulationResult : SimulationAuth)
    : List String :=
  sdk.collectSigners [] (sdk.collectAuthEntries simulationResult)

end Axionvera.Soroban
