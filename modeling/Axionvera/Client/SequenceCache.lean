import Axionvera.Errors
import Axionvera.Foundation.InsertionMap

/-! The account sequence cache of `StellarClient` (`client/stellarClient.ts`). Times are in
milliseconds.
-/

namespace Axionvera.Client.SequenceCache

open Axionvera.Errors
open Axionvera.Foundation

/-- An entry of `accountSequenceCache`. -/
structure CachedSequence where
  sequence : Int
  timestamp : Nat
  deriving DecidableEq, Repr

/-- `accountSequenceCache`. -/
abbrev AccountSequenceCache := InsertionMap String CachedSequence

/-- The entry is older than the cache's time to live. -/
def CachedSequence.isExpired (cached : CachedSequence) (cacheTtlMs now : Nat) : Bool :=
  cacheTtlMs < now - cached.timestamp

/-- `updateCache`. -/
def updateCache (cache : AccountSequenceCache) (now : Nat) (publicKey : String) (sequence : Int)
    : AccountSequenceCache :=
  cache.set publicKey ⟨sequence, now⟩

/-- `getCachedSequence`, with the cache after it: an expired entry is deleted. -/
def getCachedSequence (cache : AccountSequenceCache) (cacheTtlMs now : Nat) (publicKey : String)
    : Option CachedSequence × AccountSequenceCache :=
  match cache.get publicKey with
  | none => (none, cache)
  | some cached =>
      if cached.isExpired cacheTtlMs now then (none, cache.delete publicKey)
      else (some cached, cache)

/-- Whether clearing the cache for the given key concerns another key. An empty key counts as
none, which stands for all accounts.
-/
def clears (cleared : Option String) (publicKey : String) : Bool :=
  match cleared with
  | none => true
  | some key => key = "" || key = publicKey

/-- `clearCache`. -/
def clearCache (cache : AccountSequenceCache) (publicKey : Option String) : AccountSequenceCache :=
  match publicKey with
  | none => .empty
  | some key => if key = "" then .empty else cache.delete key

/-- `sequenceErrorPatterns`. -/
def sequenceErrorPatterns : List String :=
  ["tx_bad_seq", "bad sequence", "sequence number", "sequence mismatch"]

/-- The message names a sequence error. -/
def isSequenceError (errorMessage : String) : Bool :=
  sequenceErrorPatterns.any fun pattern =>
    includesText (toLowerCase errorMessage) pattern.toList

/-- `handleSubmissionError`: whether the cache was cleared, and the cache after it. -/
def handleSubmissionError (cache : AccountSequenceCache) (errorMessage : String)
    (publicKey : Option String)
    : Bool × AccountSequenceCache :=
  if isSequenceError errorMessage then (true, clearCache cache publicKey) else (false, cache)

/-- `cleanupExpiredCache`: the number of removed entries, and the cache after it. -/
def cleanupExpiredCache (cache : AccountSequenceCache) (cacheTtlMs now : Nat)
    : Nat × AccountSequenceCache :=
  let kept := cache.filter fun _ cached => !cached.isExpired cacheTtlMs now
  (cache.entries.length - kept.entries.length, kept)

variable {cache : AccountSequenceCache} {cacheTtlMs now : Nat} {publicKey : String}

/-- Reading the cache finds the key's entry unless it has expired. -/
theorem getCachedSequence_fst
    : (getCachedSequence cache cacheTtlMs now publicKey).1
      = (cache.get publicKey).filter fun cached => !cached.isExpired cacheTtlMs now := by
  unfold getCachedSequence
  cases cache.get publicKey with
  | none => rfl
  | some cached =>
      cases expired : cached.isExpired cacheTtlMs now <;> simp [Option.filter, expired]

/-- Reading the cache loses no entry that has not expired. -/
theorem getCachedSequence_keeps {other : String} {cached : CachedSequence}
    (found : cache.get other = some cached)
    (fresh : cached.isExpired cacheTtlMs now = false)
    : (getCachedSequence cache cacheTtlMs now publicKey).2.get other = some cached := by
  unfold getCachedSequence
  split
  · exact found
  · rename_i own ownFound
    split
    · rename_i expired
      rw [InsertionMap.get_delete, if_neg]
      · exact found
      -- The deleted entry had expired, unlike the one looked for.
      · rintro rfl
        rw [found, Option.some.injEq] at ownFound
        simp [← ownFound, fresh] at expired
    · exact found

/-- Cleaning up loses no entry that has not expired. -/
theorem cleanupExpiredCache_keeps {other : String} {cached : CachedSequence}
    (found : cache.get other = some cached)
    (fresh : cached.isExpired cacheTtlMs now = false)
    : (cleanupExpiredCache cache cacheTtlMs now).2.get other = some cached := by
  simp [cleanupExpiredCache, found, fresh]

/-- Clearing keeps the entries of the keys that it does not concern. -/
theorem clearCache_keeps {cleared : Option String} {other : String}
    (unaffected : clears cleared other = false)
    : (clearCache cache cleared).get other = cache.get other := by
  cases cleared with
  | none => simp [clears] at unaffected
  | some key =>
      simp only [clears, Bool.or_eq_false_iff, decide_eq_false_iff_not] at unaffected
      simp [clearCache, unaffected.1, Ne.symm unaffected.2]

end Axionvera.Client.SequenceCache
