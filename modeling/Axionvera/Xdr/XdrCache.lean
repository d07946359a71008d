import Axionvera.Foundation.InsertionMap
import Axionvera.Foundation.RecentlyUsed
import Axionvera.Foundation.TransitionSystem
import Axionvera.Xdr.XdrValidator

/-! The cache of decoded texts of XDR (`utils/xdrCache.ts`): it answers like decoding again, and
keeps the texts that were decoded most recently.
-/

namespace Axionvera.Xdr

open Axionvera.Foundation

/-- The decoder of the Stellar SDK, `xdr.ScVal.fromXDR`, which returns a value or throws one, and
the text of what is thrown.
-/
structure XdrDecoder (σ δ : Type*) where
  fromXDR : CodeUnits → Except δ σ
  errorText : δ → CodeUnits

/-- `MAX_CACHE_SIZE`. -/
def maxCacheSize : Nat := 50

/-- `cache`, a map in the order in which its entries were set. -/
abbrev XdrCache (σ : Type*) := InsertionMap CodeUnits σ

variable {σ δ : Type*} (decoder : XdrDecoder σ δ)

/-- The call of the decoder, with what it throws wrapped. -/
def decodeText (input : CodeUnits) : Except (InvalidXDRError δ) σ :=
  match decoder.fromXDR input with
  | .ok decoded => .ok decoded
  | .error err =>
      .error (.new (codeUnits "XDR decoding failed in decodeXdrBase64: " ++ decoder.errorText err)
        input (some err))

/-- `cache.delete(cache.keys().next().value!)`. -/
def evictOldest (cache : XdrCache σ) : XdrCache σ :=
  match cache.keys with
  | [] => cache
  | oldest :: _ => cache.delete oldest

/-- `decodeXdrBase64`, with the cache after it. -/
def decodeXdrBase64 (cache : XdrCache σ) (input : CodeUnits)
    : Except (InvalidXDRError δ) σ × XdrCache σ :=
  match assertValidXDR input "decodeXdrBase64" with
  | .error refused => (.error refused, cache)
  | .ok () =>
      match cache.get input with
      | some cached => (.ok cached, (cache.delete input).set input cached)
      | none =>
          match decodeText decoder input with
          | .error failed => (.error failed, cache)
          | .ok decoded =>
              let room := if maxCacheSize ≤ cache.entries.length then evictOldest cache else cache
              (.ok decoded, room.set input decoded)

/-- `clearXdrCache`. -/
def clearXdrCache : XdrCache σ := .empty

/-- `getXdrCacheSize`. -/
def getXdrCacheSize (cache : XdrCache σ) : Nat :=
  cache.entries.length

/-- The functions that change the cache. -/
inductive CacheCall where
  | decodeXdrBase64 (input : CodeUnits)
  | clearXdrCache
  deriving DecidableEq, Repr

/-- What a call returns or throws, which is nothing for clearing, and the cache after it. -/
def performCall (cache : XdrCache σ)
    : CacheCall → Option (Except (InvalidXDRError δ) σ) × XdrCache σ
  | .decodeXdrBase64 input =>
      let (answer, after) := decodeXdrBase64 decoder cache input
      (some answer, after)
  | .clearXdrCache => (none, clearXdrCache)

/-- The cache after the calls, which is empty at first. -/
def cacheAfter (calls : List CacheCall) : XdrCache σ :=
  calls.foldl (fun cache call => (performCall decoder cache call).2) .empty

-----------------------------------------------------------------------------------------
-- What the cache is for
-----------------------------------------------------------------------------------------

/-- Validate a text and decode it, without a cache. -/
def decodeUncached (input : CodeUnits) : Except (InvalidXDRError δ) σ :=
  match assertValidXDR input "decodeXdrBase64" with
  | .error refused => .error refused
  | .ok () => decodeText decoder input

/-- What a call answers without a cache. -/
def uncachedAnswer : CacheCall → Option (Except (InvalidXDRError δ) σ)
  | .decodeXdrBase64 input => some (decodeUncached decoder input)
  | .clearXdrCache => none

/-- The text that a call decodes successfully. -/
def decodedBy : CacheCall → Option CodeUnits
  | .decodeXdrBase64 input =>
      match decodeUncached decoder input with
      | .ok _ => some input
      | .error _ => none
  | .clearXdrCache => none

/-- The texts that were decoded successfully since the cache was cleared, in order. -/
def decodedSinceClear (calls : List CacheCall) : List CodeUnits :=
  (calls.rtakeWhile (· ≠ .clearXdrCache)).filterMap (decodedBy decoder)

/-- What holds after every call, given the texts that were decoded since the cache was cleared. -/
structure KeepsRecent (uses : List CodeUnits) (cache : XdrCache σ) : Prop where
  keys : cache.keys = recent maxCacheSize uses
  decoded
    : ∀ input value, (input, value) ∈ cache.entries → decodeUncached decoder input = .ok value

variable {decoder} {cache : XdrCache σ} {uses : List CodeUnits} {input : CodeUnits}

/-- The empty cache has no entries that could be wrong. -/
theorem KeepsRecent.empty : KeepsRecent decoder [] .empty :=
  ⟨rfl, nofun⟩

/-- There are as many entries as recent texts, and so not too many. -/
theorem KeepsRecent.length_eq (kept : KeepsRecent decoder uses cache)
    : cache.entries.length = (recent maxCacheSize uses).length :=
  kept.keys ▸ (List.length_map Prod.fst).symm

/-- Evicting removes the first of the keys. -/
theorem keys_evictOldest (cache : XdrCache σ) : (evictOldest cache).keys = cache.keys.tail := by
  unfold evictOldest
  cases isKeys : cache.keys with
  | nil => exact isKeys
  | cons oldest others =>
      have distinct : (oldest :: others).Nodup := isKeys ▸ cache.unique
      rw [InsertionMap.keys_delete, isKeys, List.tail_cons, List.filter_cons_of_neg (by simp),
        filter_ne_of_notMem (List.nodup_cons.mp distinct).1]

/-- Evicting adds no entry. -/
theorem mem_of_mem_evictOldest {entry : CodeUnits × σ}
    (member : entry ∈ (evictOldest cache).entries)
    : entry ∈ cache.entries := by
  unfold evictOldest at member
  split at member
  · exact member
  · exact List.mem_of_mem_filter member

/-- A decoded text that has no entry can be given one, where there is room for it. -/
theorem KeepsRecent.set {room : XdrCache σ} {value : σ} (absent : input ∉ room.keys)
    (keys : room.keys ++ [input] = recent maxCacheSize (uses ++ [input]))
    (others
      : ∀ input value, (input, value) ∈ room.entries → decodeUncached decoder input = .ok value)
    (decoded : decodeUncached decoder input = .ok value)
    : KeepsRecent decoder (uses ++ [input]) (room.set input value) := by
  refine ⟨(InsertionMap.keys_set_of_absent absent value).trans keys, fun other found member => ?_⟩
  rw [InsertionMap.mem_set] at member
  split at member
  · rename_i same
    rw [same, member, decoded]
  · exact others other found member

/-- A text that is decoded again moves to the end. -/
theorem KeepsRecent.refresh {cached : σ} (kept : KeepsRecent decoder uses cache)
    (found : cache.get input = some cached)
    : KeepsRecent decoder (uses ++ [input]) ((cache.delete input).set input cached) := by
  have isKey : input ∈ cache.keys := InsertionMap.mem_keys_iff.mpr ⟨cached, found⟩
  refine KeepsRecent.set ?absent ?keys ?others
    (kept.decoded input cached (InsertionMap.get_eq_some_iff.mp found))
  case absent => simp [InsertionMap.keys_delete]
  case keys =>
    rw [InsertionMap.keys_delete, recent_concat_of_mem (kept.keys ▸ isKey), kept.keys]
  case others =>
    exact fun other value member => kept.decoded other value (List.mem_of_mem_filter member)

/-- A text that is decoded for the first time joins at the end, if need be in place of the oldest
one.
-/
theorem KeepsRecent.insert {value : σ} (kept : KeepsRecent decoder uses cache)
    (missing : cache.get input = none) (decoded : decodeUncached decoder input = .ok value)
    : KeepsRecent decoder (uses ++ [input])
        ((if maxCacheSize ≤ cache.entries.length then evictOldest cache else cache).set input
          value) := by
  have absent : input ∉ cache.keys := by
    rw [InsertionMap.mem_keys_iff, missing]
    exact nofun
  have isNew : input ∉ recent maxCacheSize uses := kept.keys ▸ absent
  split
  · rename_i isFull
    have full : (recent maxCacheSize uses).length = maxCacheSize :=
      le_antisymm length_recent_le (kept.length_eq ▸ isFull)
    refine KeepsRecent.set ?absent ?keys ?others decoded
    case absent =>
      rw [keys_evictOldest]
      exact fun member => absent (List.mem_of_mem_tail member)
    case keys => rw [keys_evictOldest, kept.keys, recent_concat_of_full isNew full (by decide)]
    case others =>
      exact fun other found member => kept.decoded other found (mem_of_mem_evictOldest member)
  · rename_i hasRoom
    have room : (recent maxCacheSize uses).length < maxCacheSize :=
      kept.length_eq ▸ not_le.mp hasRoom
    exact KeepsRecent.set absent (by rw [kept.keys, recent_concat_of_lt isNew room]) kept.decoded
      decoded

/-- One call of `decodeXdrBase64` answers as without the cache, and keeps what the cache is for. -/
theorem KeepsRecent.decodeXdrBase64 (kept : KeepsRecent decoder uses cache) (input : CodeUnits)
    : (decodeXdrBase64 decoder cache input).1 = decodeUncached decoder input
      ∧ KeepsRecent decoder (uses ++ (decodedBy decoder (.decodeXdrBase64 input)).toList)
          (decodeXdrBase64 decoder cache input).2 := by
  unfold Xdr.decodeXdrBase64
  split
  · rename_i refused isRefused
    have failed : decodeUncached decoder input = .error refused := by
      rw [decodeUncached, isRefused]
    rw [decodedBy, failed]
    exact ⟨rfl, (List.append_nil uses).symm ▸ kept⟩
  · rename_i isValid
    have uncached : decodeUncached decoder input = decodeText decoder input := by
      rw [decodeUncached, isValid]
    split
    · rename_i cached found
      have decoded := kept.decoded input cached (InsertionMap.get_eq_some_iff.mp found)
      rw [decodedBy, decoded]
      exact ⟨rfl, kept.refresh found⟩
    · rename_i missing
      split
      · rename_i failed isFailed
        rw [decodedBy, uncached, isFailed]
        exact ⟨rfl, (List.append_nil uses).symm ▸ kept⟩
      · rename_i value isDecoded
        have decoded := uncached.trans isDecoded
        rw [decodedBy, decoded]
        exact ⟨rfl, kept.insert missing decoded⟩

/-- A call answers as without the cache, and keeps what the cache is for. -/
theorem performCall_eq {cache : XdrCache σ} (call : CacheCall)
    (kept : ∃ uses, KeepsRecent decoder uses cache)
    : (performCall decoder cache call).1 = uncachedAnswer decoder call
      ∧ ∃ uses, KeepsRecent decoder uses (performCall decoder cache call).2 := by
  obtain ⟨uses, kept⟩ := kept
  cases call with
  | decodeXdrBase64 input =>
      obtain ⟨same, keeps⟩ := kept.decodeXdrBase64 input
      exact ⟨congrArg some same, _, keeps⟩
  | clearXdrCache => exact ⟨rfl, _, .empty⟩

/-- After the calls, the cache has what it is for, by induction on the calls from their end. -/
theorem keepsRecent_cacheAfter (decoder : XdrDecoder σ δ) (calls : List CacheCall)
    : KeepsRecent decoder (decodedSinceClear decoder calls) (cacheAfter decoder calls) := by
  induction calls using List.reverseRecOn with
  | nil => exact .empty
  | append_singleton calls call ih =>
      rw [cacheAfter, List.foldl_append, List.foldl_cons, List.foldl_nil, decodedSinceClear,
        List.rtakeWhile_concat]
      cases call with
      | clearXdrCache => exact .empty
      | decodeXdrBase64 input =>
          rw [if_pos (decide_eq_true nofun), List.filterMap_append]
          exact (ih.decodeXdrBase64 input).2

/-- The cache cannot be told from decoding each text again, and after all calls it has the texts
that were decoded most recently since it was cleared, in the order of their last use, each with
what it decodes to. There are never more than `MAX_CACHE_SIZE` of them.
-/
theorem xdr_cache_is_transparent_and_lru (decoder : XdrDecoder σ δ) (calls : List CacheCall)
    : outputs (performCall decoder) .empty calls = calls.map (uncachedAnswer decoder)
      ∧ getXdrCacheSize (cacheAfter decoder calls) ≤ 50
      ∧ (∀ input value, (input, value) ∈ (cacheAfter decoder calls).entries
          → decodeUncached decoder input = .ok value)
      ∧ (cacheAfter decoder calls).keys = recent 50 (decodedSinceClear decoder calls) := by
  have kept := keepsRecent_cacheAfter decoder calls
  have size : getXdrCacheSize (cacheAfter decoder calls) ≤ 50 :=
    kept.length_eq.trans_le length_recent_le
  refine ⟨outputs_eq_map performCall_eq ⟨[], .empty⟩ calls, size, kept.decoded, kept.keys⟩

/-- A text that is not valid is refused, and a valid one stays in the cache when decoded twice. -/
example
    : let decoder : XdrDecoder Nat Unit := ⟨fun input => .ok input.length, fun _ => []⟩
      (cacheAfter decoder
          [.decodeXdrBase64 (codeUnits "AAAA"), .decodeXdrBase64 (codeUnits "AA=A"),
            .decodeXdrBase64 (codeUnits "BBBBBBBB"), .decodeXdrBase64 (codeUnits "AAAA")]).entries
        = [(codeUnits "BBBBBBBB", 8), (codeUnits "AAAA", 4)] := by
  decide

end Axionvera.Xdr
