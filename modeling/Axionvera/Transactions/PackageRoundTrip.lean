import Axionvera.Transactions.OfflineTransactionBuilder

/-! An exported transaction comes back exactly if the builder that exports it has the transaction's
passphrase and source account, and the envelope is short enough for the importer.
-/

namespace Axionvera.Transactions

open Axionvera.Foundation

variable {η ω : Type} {sdk : StellarSdk η ω} {builder : OfflineTransactionBuilder ω}
  {transaction : Transaction η ω} {now : Nat} {pkg : OfflineTransactionPackage}

/-- The package is imported as the transaction, and is labelled with the transaction's own account,
passphrase and number of operations.
-/
structure SurvivesExport (sdk : StellarSdk η ω) (transaction : Transaction η ω)
    (pkg : OfflineTransactionPackage)
    : Prop where
  imported
    : ∃ restored,
        importPackage sdk pkg = .ok restored
        ∧ restored.envelope = transaction.envelope
        ∧ restored.networkPassphrase = transaction.networkPassphrase
        ∧ restored.source = transaction.source
        ∧ restored.sequence = transaction.sequence
  sourceAccountId : pkg.sourceAccountId = transaction.source
  networkPassphrase : pkg.networkPassphrase = transaction.networkPassphrase
  operationCount : pkg.operationCount = transaction.operations.length

/-- What a package holds: the encoded transaction, and the account and the passphrase of the
builder.
-/
theorem exportTransaction_eq_ok
    (exported : builder.exportTransaction sdk transaction now = .ok pkg)
    : pkg
      = {
          version := offlineTransactionPackageVersion
          xdr := sdk.toXDR transaction
          networkPassphrase := builder.networkPassphrase
          sourceAccountId := builder.sourceAccount.accountId
          sequence := builder.sourceAccount.sequence
          operationCount := transaction.operations.length
          createdAt := now
        } := by
  rw [OfflineTransactionBuilder.exportTransaction] at exported
  split_ifs at exported
  exact (Except.ok.inj exported).symm

/-- A text of XDR is read exactly if it is valid and the library reads a transaction from it. -/
theorem fromXDR_eq_ok_iff {xdrString networkPassphrase : String}
    : fromXDR sdk xdrString networkPassphrase = .ok transaction
      ↔ Xdr.isValidXDR (codeUnits xdrString) = true
        ∧ sdk.fromXDR xdrString networkPassphrase = .ok (.transaction transaction) := by
  rw [fromXDR,
    ← Xdr.assertValidXDR_eq_ok_iff (δ := String) _ "OfflineTransactionBuilder.fromXDR"]
  cases Xdr.assertValidXDR (codeUnits xdrString) "OfflineTransactionBuilder.fromXDR" with
  | error error => exact iff_of_false nofun fun isValid => nomatch isValid.1
  | ok checked =>
      rw [eq_self, true_and]
      dsimp only
      split
      · rename_i failed
        exact iff_of_false nofun (by rw [failed]; nofun)
      · rename_i isFeeBump
        exact iff_of_false nofun (by rw [isFeeBump]; nofun)
      · rename_i parsed isParsed
        rw [isParsed, Except.ok.injEq, Except.ok.injEq, ParsedEnvelope.transaction.injEq]

/-- An exported transaction survives the round trip exactly if the builder has its passphrase and
its source account, and its envelope has at most 49152 bytes. The library reads the transaction back
under its own passphrase, and envelopes begin with four bytes for their type.
-/
theorem survivesExport_iff (exported : builder.exportTransaction sdk transaction now = .ok pkg)
    (reproduces
      : sdk.fromXDR (sdk.toXDR transaction) transaction.networkPassphrase
        = .ok (.transaction transaction))
    (hasType : 4 ≤ (sdk.envelopeBytes transaction.envelope).length)
    : SurvivesExport sdk transaction pkg
      ↔ builder.networkPassphrase = transaction.networkPassphrase
        ∧ builder.sourceAccount.accountId = transaction.source
        ∧ (sdk.envelopeBytes transaction.envelope).length ≤ 49152 := by
  obtain rfl := exportTransaction_eq_ok exported
  have isValid := isValidXDR_encodeBase64 (Nat.le_of_succ_le hasType)
  constructor
  · intro survives
    obtain ⟨restored, imported, -⟩ := survives.imported
    rw [importPackage, if_neg (by simp), fromXDR_eq_ok_iff] at imported
    exact ⟨survives.networkPassphrase, survives.sourceAccountId, isValid.mp imported.1⟩
  · rintro ⟨samePassphrase, sameAccount, short⟩
    refine ⟨⟨transaction, ?_, rfl, rfl, rfl, rfl⟩, sameAccount, samePassphrase, rfl⟩
    rw [importPackage, if_neg (by simp), fromXDR_eq_ok_iff, samePassphrase]
    exact ⟨isValid.mpr short, reproduces⟩

/-- An account id. -/
def sampleAccountId : String := "GAAAAAAAAAAAAAAAAAAAAAAAAAAAAAAAAAAAAAAAAAAAAAAAAAAAAWHF"

/-- A transaction for the test network, whose envelope is nothing but its type. -/
def sampleTransaction : Transaction (List UInt8) Unit where
  envelope := [0, 0, 0, 2]
  networkPassphrase := "Test SDF Network ; September 2015"
  source := sampleAccountId
  sequence := "8"
  fee := 100000
  operations := [()]
  timeBounds := some (0, 60)

/-- A library that knows this transaction. -/
def sampleSdk : StellarSdk (List UInt8) Unit where
  envelopeBytes envelope := envelope
  fromXDR xdrString networkPassphrase :=
    if xdrString = "AAAAAg==" then
      .ok (.transaction { sampleTransaction with networkPassphrase := networkPassphrase })
    else .error "unknown"
  isValidEd25519PublicKey accountId := accountId = sampleAccountId
  buildTransaction _ := .ok sampleTransaction

/-- A builder with a passphrase for the account. -/
def sampleBuilder (networkPassphrase : String) : OfflineTransactionBuilder Unit where
  sourceAccount := ⟨sampleAccountId, "7"⟩
  networkPassphrase := networkPassphrase
  fee := .finite 100000
  timeoutInSeconds := .finite 60
  memo := none
  operations := [()]

/-- The transaction that was built for the test network survives the round trip. -/
theorem survivesExport_iff_testNetwork
    : ∃ pkg,
        (sampleBuilder "Test SDF Network ; September 2015").exportTransaction sampleSdk
            sampleTransaction 0
          = .ok pkg
        ∧ SurvivesExport sampleSdk sampleTransaction pkg := by
  refine ⟨_, rfl, ?_⟩
  have exported
      : (sampleBuilder "Test SDF Network ; September 2015").exportTransaction sampleSdk
          sampleTransaction 0
        = .ok _ :=
    rfl
  exact (survivesExport_iff exported rfl (by decide)).mpr ⟨rfl, rfl, by decide⟩

/-- A transaction for the test network that is exported by a builder for the public one comes back
as one for the public network.
-/
theorem not_survivesExport
    : sampleSdk.fromXDR (sampleSdk.toXDR sampleTransaction) sampleTransaction.networkPassphrase
        = .ok (.transaction sampleTransaction)
      ∧ 4 ≤ (sampleSdk.envelopeBytes sampleTransaction.envelope).length
      ∧ ∃ pkg,
          (sampleBuilder "Public Global Stellar Network ; September 2015").exportTransaction
              sampleSdk sampleTransaction 0
            = .ok pkg
          ∧ ¬ SurvivesExport sampleSdk sampleTransaction pkg := by
  refine ⟨rfl, by decide, _, rfl, ?_⟩
  intro survives
  exact absurd survives.networkPassphrase (by decide)

end Axionvera.Transactions
