import Mathlib.Data.List.Induction
import Axionvera.Foundation.InsertionMap

/-! Registries that store their values under a key computed from an identifier, and when what
is found for an identifier is what was registered for it.
-/

namespace Axionvera.Foundation

variable {ι κ ν : Type*}

/-- A call that registers a value for an identifier or removes it. -/
inductive RegistryCall (ι ν : Type*) where
  | register (identifier : ι) (value : ν)
  | unregister (identifier : ι)

namespace RegistryCall

/-- The identifier of a call. -/
def identifier : RegistryCall ι ν → ι
  | register identifier _ => identifier
  | unregister identifier => identifier

/-- The value that a call leaves registered. -/
def registered : RegistryCall ι ν → Option ν
  | register _ value => some value
  | unregister _ => none

/-- (Identifies key call) requires the key of a registration to be that of its identifier
alone; a removal is unrestricted.
-/
def Identifies (key : ι → κ) : RegistryCall ι ν → Prop
  | register identifier _ => ∀ other, key other = key identifier → other = identifier
  | unregister _ => True

end RegistryCall

/-- The value last registered for an identifier and not removed since. -/
def lastRegistered [DecidableEq ι] (calls : List (RegistryCall ι ν)) (identifier : ι) : Option ν :=
  (calls.reverse.find? (fun call => call.identifier = identifier)).bind RegistryCall.registered

/-- A call decides what is registered for its own identifier and nothing else. -/
theorem lastRegistered_concat [DecidableEq ι] (calls : List (RegistryCall ι ν))
    (call : RegistryCall ι ν) (identifier : ι)
    : lastRegistered (calls ++ [call]) identifier
      = if call.identifier = identifier then call.registered
        else lastRegistered calls identifier := by
  by_cases same : call.identifier = identifier
  · simp [lastRegistered, same]
  · simp [lastRegistered, same]

/-- Nothing is registered for an identifier that no registration names. -/
theorem lastRegistered_eq_none [DecidableEq ι] {calls : List (RegistryCall ι ν)} {identifier : ι}
    (never : ∀ value, RegistryCall.register identifier value ∉ calls)
    : lastRegistered calls identifier = none := by
  rw [lastRegistered, Option.bind_eq_none_iff]
  intro call found
  have member : call ∈ calls := List.mem_reverse.mp (List.mem_of_find?_eq_some found)
  have same : call.identifier = identifier := by simpa using List.find?_some found
  cases call with
  | register named value => exact absurd (same ▸ member) (never value)
  | unregister named => rfl

variable [DecidableEq κ]

/-- What a call does to the values under their keys. -/
def applyCall (key : ι → κ) (map : InsertionMap κ ν) : RegistryCall ι ν → InsertionMap κ ν
  | .register identifier value => map.set (key identifier) value
  | .unregister identifier => map.delete (key identifier)

/-- The values under their keys after some calls on an empty registry. -/
def afterCalls (key : ι → κ) (calls : List (RegistryCall ι ν)) : InsertionMap κ ν :=
  calls.foldl (applyCall key) .empty

theorem afterCalls_concat (key : ι → κ) (calls : List (RegistryCall ι ν))
    (call : RegistryCall ι ν)
    : afterCalls key (calls ++ [call]) = applyCall key (afterCalls key calls) call := by
  rw [afterCalls, List.foldl_concat, afterCalls]

/-- A call decides what is found for the identifiers that share its key. -/
theorem get_applyCall (key : ι → κ) (map : InsertionMap κ ν) (call : RegistryCall ι ν)
    (identifier : ι)
    : (applyCall key map call).get (key identifier)
      = if key identifier = key call.identifier then call.registered
        else map.get (key identifier) := by
  cases call with
  | register named value => exact InsertionMap.get_set map (key named) (key identifier) value
  | unregister named => exact InsertionMap.get_delete map (key named) (key identifier)

variable [DecidableEq ι]

/-- (FindsRegistered key calls) requires every identifier to find what was last registered for
it.
-/
def FindsRegistered (key : ι → κ) (calls : List (RegistryCall ι ν)) : Prop :=
  ∀ identifier, (afterCalls key calls).get (key identifier) = lastRegistered calls identifier

/-- An identifier other than that of the last call finds what it found before, as long as each
finds what was registered for it.
-/
theorem get_afterCalls_concat {key : ι → κ} {calls : List (RegistryCall ι ν)}
    {call : RegistryCall ι ν} (before : FindsRegistered key calls)
    (after : FindsRegistered key (calls ++ [call])) {identifier : ι}
    (isOther : identifier ≠ call.identifier)
    : (afterCalls key (calls ++ [call])).get (key identifier)
      = (afterCalls key calls).get (key identifier) := by
  rw [after, before, lastRegistered_concat, if_neg isOther.symm]

/-- After calls that all identify, a further call lets each identifier find what was registered
for it exactly if it identifies as well. Witness: another identifier with its key has nothing
registered, since a registration for it would not have identified.
-/
theorem findsRegistered_concat_iff {key : ι → κ} {calls : List (RegistryCall ι ν)}
    {call : RegistryCall ι ν} (allIdentify : ∀ earlier ∈ calls, earlier.Identifies key)
    (before : FindsRegistered key calls)
    : FindsRegistered key (calls ++ [call]) ↔ call.Identifies key := by
  have unregisteredIfShared {named other : ι} (shared : key other = key named)
      (isOther : other ≠ named)
      : lastRegistered calls named = none :=
    lastRegistered_eq_none fun value member =>
      isOther (allIdentify (.register named value) member other shared)
  constructor
  · intro after
    cases call with
    | unregister named => trivial
    | register named value =>
        intro other shared
        by_contra isOther
        have found : lastRegistered (calls ++ [.register named value]) other = some value := by
          rw [← after other, afterCalls_concat, get_applyCall]
          exact if_pos shared
        have notFound : lastRegistered (calls ++ [.register named value]) other = none := by
          rw [lastRegistered_concat]
          exact (if_neg (Ne.symm isOther)).trans
            (unregisteredIfShared shared.symm (Ne.symm isOther))
        rw [notFound] at found
        cases found
  · intro identifies identifier
    rw [afterCalls_concat, get_applyCall, lastRegistered_concat, before identifier]
    by_cases same : call.identifier = identifier
    · rw [if_pos same, if_pos (congrArg key same.symm)]
    · rw [if_neg same]
      split
      · rename_i shared
        cases call with
        | register named value => exact absurd (identifies identifier shared).symm same
        | unregister named =>
            exact (unregisteredIfShared shared.symm same).symm
      · rfl

/-- All along some calls each identifier finds what was registered for it exactly if every
registration has a key of its own, by induction on the calls from the last one.
-/
theorem forall_prefix_findsRegistered_iff {key : ι → κ} {calls : List (RegistryCall ι ν)}
    : (∀ front, front <+: calls → FindsRegistered key front)
      ↔ ∀ call ∈ calls, call.Identifies key := by
  induction calls using List.reverseRecOn with
  | nil =>
      refine ⟨fun _ call member => absurd member List.not_mem_nil, fun _ front isPrefix => ?_⟩
      obtain rfl := List.prefix_nil.mp isPrefix
      exact fun _ => rfl
  | append_singleton earlier last ih =>
      constructor
      · intro always
        have allIdentify := ih.mp fun front isPrefix =>
          always front (isPrefix.trans (List.prefix_append earlier [last]))
        have lastIdentifies :=
          (findsRegistered_concat_iff allIdentify
            (always earlier (List.prefix_append earlier [last]))).mp (always _ List.prefix_rfl)
        intro call member
        rcases List.mem_append.mp member with isEarlier | isLast
        · exact allIdentify call isEarlier
        · obtain rfl := List.mem_singleton.mp isLast
          exact lastIdentifies
      · intro allIdentify front isPrefix
        have earlierIdentify : ∀ call ∈ earlier, call.Identifies key :=
          fun call member => allIdentify call (List.mem_append_left _ member)
        rcases List.prefix_concat_iff.mp isPrefix with rfl | within
        · exact (findsRegistered_concat_iff earlierIdentify
            (ih.mpr earlierIdentify earlier List.prefix_rfl)).mpr
              (allIdentify last (List.mem_append_right _ (List.mem_singleton.mpr rfl)))
        · exact ih.mpr earlierIdentify front within

end Axionvera.Foundation
