import Axionvera.Soroban.NumberedEnvelopes
import Mathlib.Data.List.Nodup

/-! Which accounts have to sign for entries, and what becomes of that when entries are added to an
envelope.
-/

namespace Axionvera.Soroban

variable {sdk : AuthSdk}

-----------------------------------------------------------------------------------------
-- The signers of a list of entries
-----------------------------------------------------------------------------------------

/-- The accounts that entries name, as often as they do. -/
def AuthSdk.namedAccounts (sdk : AuthSdk) (entries : List SorobanAuthorizationEntry)
    : List String :=
  entries.filterMap fun entry => (sdk.extractAccountSigner entry).filter (· ≠ "")

/-- Entries add the accounts that they name, one after another, by induction on them. -/
theorem collectSigners_eq_foldl (signers : List String) (entries : List SorobanAuthorizationEntry)
    : sdk.collectSigners signers entries = (sdk.namedAccounts entries).foldl addSigner signers := by
  induction entries generalizing signers with
  | nil => rfl
  | cons entry rest ih =>
      rw [AuthSdk.collectSigners, List.foldl_cons, AuthSdk.namedAccounts, List.filterMap_cons]
      cases (sdk.extractAccountSigner entry).filter (· ≠ "") with
      | none => exact ih signers
      | some publicKey => exact ih (addSigner signers publicKey)

/-- Signers are added behind those that are there, each that is new once and in the order in which
they first come, by induction on what is added.
-/
theorem foldl_addSigner (signers names : List String)
    : names.foldl addSigner signers = signers ++ (names.removeAll signers).eraseDups := by
  induction names generalizing signers with
  | nil => rw [List.nil_removeAll, List.eraseDups_nil, List.append_nil]; rfl
  | cons name rest ih =>
      rw [List.foldl_cons, addSigner]
      by_cases isKnown : name ∈ signers
      · rw [if_pos isKnown, ih, List.cons_removeAll, if_neg (by simpa using isKnown)]
      · rw [if_neg isKnown, ih, List.cons_removeAll, if_pos (by simpa using isKnown),
          List.eraseDups_cons, List.append_assoc, List.singleton_append]
        congr 3
        simp only [List.removeAll, List.filter_filter, List.elem_eq_contains,
          List.contains_eq_mem, List.mem_append, List.mem_singleton]
        refine List.filter_congr fun other _ => ?_
        by_cases same : other = name <;> simp [same]

/-- A signer is not added twice, by induction on what is added. -/
theorem nodup_foldl_addSigner {signers : List String} (distinct : signers.Nodup)
    (names : List String)
    : (names.foldl addSigner signers).Nodup := by
  induction names generalizing signers with
  | nil => exact distinct
  | cons name rest ih =>
      refine ih ?_
      rw [addSigner]
      split_ifs with isKnown
      · exact distinct
      · exact distinct.append (List.nodup_singleton name) (List.disjoint_singleton.mpr isKnown)

/-- The signers of entries are the accounts that they name, each once and in the order in which they
first come.
-/
theorem collectSigners_eq (entries : List SorobanAuthorizationEntry)
    : sdk.collectSigners [] entries = (sdk.namedAccounts entries).eraseDups := by
  rw [collectSigners_eq_foldl, foldl_addSigner, List.nil_append, List.removeAll_nil]

/-- The signers of the entries of an operation, as a simulation gives them. -/
def AuthSdk.signersOf (sdk : AuthSdk) (auth : List SorobanAuthorizationEntry) : List String :=
  sdk.getRequiredSigners { auth := some (auth.map .entry) }

/-- Entries are collected as they are. -/
theorem signersOf_eq (auth : List SorobanAuthorizationEntry)
    : sdk.signersOf auth = (sdk.namedAccounts auth).eraseDups := by
  have collected : (auth.map AuthItem.entry).filterMap sdk.decodeAuthEntry = auth := by
    rw [List.filterMap_map]
    exact List.filterMap_some
  rw [AuthSdk.signersOf, AuthSdk.getRequiredSigners, AuthSdk.collectAuthEntries,
    Option.getD_some, collected, Option.getD_none, List.flatMap_nil, List.append_nil,
    collectSigners_eq]

/-- Further entries add the accounts that they name and that did not have to sign before. -/
theorem signersOf_append (auth added : List SorobanAuthorizationEntry)
    : sdk.signersOf (auth ++ added)
      = sdk.signersOf auth
        ++ ((sdk.namedAccounts added).removeAll (sdk.signersOf auth)).eraseDups := by
  simp only [signersOf_eq, AuthSdk.namedAccounts, List.filterMap_append, List.eraseDups_append]
  congr 2
  refine List.filter_congr fun name _ => ?_
  simp

-----------------------------------------------------------------------------------------
-- Entries that are added to an envelope
-----------------------------------------------------------------------------------------

/-- An operation with further entries, if it calls the host. -/
def EnvelopeOperation.addAuths (entries : List SorobanAuthorizationEntry)
    : EnvelopeOperation → EnvelopeOperation
  | .invokeHostFunction hostFunction auth => .invokeHostFunction hostFunction (auth ++ entries)
  | .other body => .other body

/-- An envelope with further entries in its calls of the host, if it is of version 1. -/
def TransactionEnvelope.addAuths (entries : List SorobanAuthorizationEntry)
    : TransactionEnvelope → TransactionEnvelope
  | .v1 operations others => .v1 (operations.map (·.addAuths entries)) others
  | .other bytes => .other bytes

/-- Nothing is added to an operation. -/
theorem EnvelopeOperation.addAuths_nil (operation : EnvelopeOperation)
    : operation.addAuths [] = operation := by
  cases operation with
  | invokeHostFunction hostFunction auth => exact congrArg _ (List.append_nil auth)
  | other body => rfl

/-- Some entries are added, then others. -/
theorem EnvelopeOperation.addAuths_addAuths (operation : EnvelopeOperation)
    (front back : List SorobanAuthorizationEntry)
    : (operation.addAuths front).addAuths back = operation.addAuths (front ++ back) := by
  cases operation with
  | invokeHostFunction hostFunction auth => exact congrArg _ (List.append_assoc auth front back)
  | other body => rfl

/-- Nothing is added to an envelope. -/
theorem TransactionEnvelope.addAuths_nil (envelope : TransactionEnvelope)
    : envelope.addAuths [] = envelope := by
  cases envelope with
  | v1 operations others =>
      rw [addAuths, funext EnvelopeOperation.addAuths_nil, List.map_id']
  | other bytes => rfl

/-- Some entries are added to an envelope, then others. -/
theorem TransactionEnvelope.addAuths_addAuths (envelope : TransactionEnvelope)
    (front back : List SorobanAuthorizationEntry)
    : (envelope.addAuths front).addAuths back = envelope.addAuths (front ++ back) := by
  cases envelope with
  | v1 operations others =>
      simp only [addAuths, List.map_map]
      congr 2
      funext operation
      exact operation.addAuths_addAuths front back
  | other bytes => rfl

/-- (CanWrite sdk envelope entries) requires the envelope to have a text with any first part of the
entries.
-/
def AuthSdk.CanWrite (sdk : AuthSdk) (envelope : TransactionEnvelope)
    (entries : List SorobanAuthorizationEntry) : Prop :=
  ∀ front, front <+: entries → (sdk.toXDR (envelope.addAuths front)).isSome = true

/-- An entry is added to the text of an envelope of version 1, if it can be written with it. -/
theorem addAuthEntry_of_v1 {envelopeXdr : String} {operations : List EnvelopeOperation}
    {others : List UInt8} (isRead : sdk.fromXDR envelopeXdr = some (.v1 operations others))
    (entry : SorobanAuthorizationEntry)
    : sdk.addAuthEntry envelopeXdr entry
      = (sdk.toXDR (TransactionEnvelope.addAuths [entry] (.v1 operations others))).getD
          envelopeXdr := by
  have same : EnvelopeOperation.addAuth entry = EnvelopeOperation.addAuths [entry] := by
    funext operation
    cases operation <;> rfl
  rw [AuthSdk.addAuthEntry, isRead, TransactionEnvelope.addAuths, same]

/-- What is no envelope of version 1 stays as it is. -/
theorem addAuthEntry_of_not_v1 {envelopeXdr : String}
    (notV1 : ∀ operations others, sdk.fromXDR envelopeXdr ≠ some (.v1 operations others))
    (entry : SorobanAuthorizationEntry)
    : sdk.addAuthEntry envelopeXdr entry = envelopeXdr := by
  rw [AuthSdk.addAuthEntry]
  split
  next operations others isRead => exact absurd isRead (notV1 operations others)
  next => rfl

/-- A text is read, after entries were added to it, as the envelope that it was with some of the
entries: with all, if the envelope can always be written. Witness: induction on the entries, passing
over one with which the envelope cannot be written.
-/
theorem fromXDR_addAuthEntries (sdk : AuthSdk) (envelopeXdr : String)
    (entries : List SorobanAuthorizationEntry)
    : ∃ added : List SorobanAuthorizationEntry,
        added.Sublist entries
        ∧ sdk.fromXDR (sdk.addAuthEntries envelopeXdr entries)
          = (sdk.fromXDR envelopeXdr).map (·.addAuths added)
        ∧ ((∀ envelope ∈ sdk.fromXDR envelopeXdr, sdk.CanWrite envelope entries)
          → added = entries) := by
  induction entries generalizing envelopeXdr with
  | nil =>
      refine ⟨[], .slnil, ?_, fun _ => rfl⟩
      rw [funext TransactionEnvelope.addAuths_nil, Option.map_id']
      rfl
  | cons entry rest ih =>
      rw [AuthSdk.addAuthEntries, List.foldl_cons]
      by_cases isV1
          : ∃ operations others, sdk.fromXDR envelopeXdr = some (.v1 operations others)
      · obtain ⟨operations, others, isRead⟩ := isV1
        rw [addAuthEntry_of_v1 isRead]
        cases written
            : sdk.toXDR (TransactionEnvelope.addAuths [entry] (.v1 operations others)) with
        | none =>
            obtain ⟨added, isSublist, read, _⟩ := ih envelopeXdr
            refine ⟨added, isSublist.cons entry, read, fun canWrite => ?_⟩
            have first := canWrite _ isRead [entry] (List.prefix_append [entry] rest)
            rw [written] at first
            exact absurd first Bool.false_ne_true
        | some text =>
            have isReadAgain := sdk.fromXDR_toXDR _ _ written
            obtain ⟨added, isSublist, read, whole⟩ := ih text
            refine ⟨entry :: added, isSublist.cons_cons entry, ?_, fun canWrite => ?_⟩
            · rw [Option.getD_some, ← AuthSdk.addAuthEntries, read, isReadAgain, isRead,
                Option.map_some, Option.map_some, TransactionEnvelope.addAuths_addAuths]
              rfl
            · refine congrArg (entry :: ·) (whole fun envelope isEnvelope front isPrefix => ?_)
              obtain rfl := Option.some.inj (isReadAgain.symm.trans isEnvelope)
              rw [TransactionEnvelope.addAuths_addAuths]
              exact canWrite _ isRead _ ((List.prefix_cons_inj entry).mpr isPrefix)
      · have notV1 : ∀ operations others, sdk.fromXDR envelopeXdr ≠ some (.v1 operations others) :=
          fun operations others isRead => isV1 ⟨operations, others, isRead⟩
        have same
            : ∀ envelope ∈ sdk.fromXDR envelopeXdr, ∀ front,
                envelope.addAuths (entry :: front) = envelope.addAuths front := by
          intro envelope isRead front
          cases envelope with
          | v1 operations others => exact absurd isRead (notV1 operations others)
          | other bytes => rfl
        obtain ⟨added, isSublist, read, whole⟩ := ih envelopeXdr
        rw [addAuthEntry_of_not_v1 notV1, ← AuthSdk.addAuthEntries, read]
        refine ⟨entry :: added, isSublist.cons_cons entry, ?_, fun canWrite => ?_⟩
        · exact Option.map_congr fun envelope isRead => (same envelope isRead added).symm
        · refine congrArg (entry :: ·) (whole fun envelope isRead front isPrefix => ?_)
          rw [← same envelope isRead front]
          exact canWrite envelope isRead _ ((List.prefix_cons_inj entry).mpr isPrefix)

/-- Entries that are built for an account name it, those for contracts and source accounts name no
account.
-/
theorem extractAccountSigner_of_built {params : BuildAddressAuthEntryParams}
    {entry : SorobanAuthorizationEntry}
    (isBuilt : sdk.buildSorobanAddressAuthEntry params = some entry)
    : sdk.extractAccountSigner entry
      = (sdk.addressOf params.signerAddress).bind fun address =>
        match address with
        | .account publicKey => sdk.encodeEd25519PublicKey publicKey
        | _ => none := by
  simp only [AuthSdk.buildSorobanAddressAuthEntry, Option.bind_eq_bind, Option.bind_eq_some_iff]
    at isBuilt
  obtain ⟨address, isAddress, nonce, isNonce, invocation, isInvocation, isEntry⟩ := isBuilt
  obtain rfl := Option.some.inj isEntry
  rw [isAddress]
  rfl

/-- Entries that are added to an envelope are appended to those of each call of the host, in order,
and nothing else in the envelope changes; none is left out if the envelope can be written. An
operation then needs the signers that it needed before and behind them, each once and in the order
in which they first come, the accounts that the new entries name.
-/
theorem added_entries_add_their_signers (sdk : AuthSdk) (envelopeXdr : String)
    (entries : List SorobanAuthorizationEntry)
    : ∃ added : List SorobanAuthorizationEntry,
        added.Sublist entries
        ∧ sdk.fromXDR (sdk.addAuthEntries envelopeXdr entries)
          = (sdk.fromXDR envelopeXdr).map (·.addAuths added)
        ∧ ((∀ envelope ∈ sdk.fromXDR envelopeXdr, sdk.CanWrite envelope entries)
          → added = entries)
        ∧ ∀ auth : List SorobanAuthorizationEntry,
            (sdk.signersOf (auth ++ added)).Nodup
            ∧ sdk.signersOf (auth ++ added)
              = sdk.signersOf auth
                ++ ((sdk.namedAccounts added).removeAll (sdk.signersOf auth)).eraseDups := by
  obtain ⟨added, isSublist, read, whole⟩ := fromXDR_addAuthEntries sdk envelopeXdr entries
  refine ⟨added, isSublist, read, whole, fun auth => ⟨?_, signersOf_append auth added⟩⟩
  rw [signersOf_eq, ← collectSigners_eq, collectSigners_eq_foldl]
  exact nodup_foldl_addSigner List.nodup_nil _

/-- A claim that an account has to authorize. -/
def claimEntry (account : String) (nonce : Int) : SorobanAuthorizationEntry where
  credentials := .address ⟨.account (keyBytes account.toList), nonce, 0, .void⟩
  rootInvocation := .mk (.contractFn ⟨.contract (keyBytes ['V']), keyBytes ['c'], [.u32 7]⟩) []

/-- An envelope with a claim of the account `GA`, and with an operation that calls nothing. -/
def claimEnvelope : TransactionEnvelope :=
  .v1 [.invokeHostFunction [0] [claimEntry "A" 1], .other [1]] [2]

/-- A second claim of the same account and a claim that is built for another one are added to the
envelope. All is written and read again, and the other account has to sign too.
-/
theorem added_entries_add_their_signers_secondAccount
    : AuthSdk.numbered.buildSorobanAddressAuthEntry
          {
            contractId := "CV"
            methodName := "c"
            args := [.u32 7]
            signerAddress := "GB"
            nonce := some 3
          }
        = some (claimEntry "B" 3)
      ∧ ((AuthSdk.numbered.toXDR claimEnvelope).map
          (AuthSdk.numbered.addAuthEntries · [claimEntry "A" 2, claimEntry "B" 3])).bind
          AuthSdk.numbered.fromXDR
        = some
          (.v1
            [.invokeHostFunction [0] [claimEntry "A" 1, claimEntry "A" 2, claimEntry "B" 3],
              .other [1]]
            [2])
      ∧ AuthSdk.numbered.signersOf [claimEntry "A" 1, claimEntry "A" 2, claimEntry "B" 3]
        = ["GA", "GB"] := by
  obtain ⟨text, isWritten⟩ : ∃ text, AuthSdk.numbered.toXDR claimEnvelope = some text := ⟨_, rfl⟩
  have isRead := AuthSdk.numbered.fromXDR_toXDR _ _ isWritten
  obtain ⟨added, _, read, whole, signers⟩ :=
    added_entries_add_their_signers .numbered text [claimEntry "A" 2, claimEntry "B" 3]
  have isWhole := whole fun envelope isEnvelope front isPrefix => by
    obtain rfl := Option.some.inj (isRead.symm.trans isEnvelope)
    simp only [List.prefix_cons_iff, List.prefix_nil] at isPrefix
    obtain rfl | ⟨_, rfl, rfl | ⟨_, rfl, rfl⟩⟩ := isPrefix <;> rfl
  subst isWhole
  refine ⟨rfl, ?_, ?_⟩
  · rw [isWritten, Option.map_some, Option.bind_some, read, isRead]
    rfl
  · refine (signers [claimEntry "A" 1]).2.trans ?_
    decide

end Axionvera.Soroban
