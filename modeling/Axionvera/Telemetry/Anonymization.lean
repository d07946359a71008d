import Axionvera.Telemetry.TelemetryService

/-! What anonymising the data of telemetry events hides, and what it keeps. -/

namespace Axionvera.Telemetry

open Axionvera.Foundation

variable {π κ : Type}

-----------------------------------------------------------------------------------------
-- What is hidden
-----------------------------------------------------------------------------------------

mutual
/-- A value with one and the same text under all sensitive keys. -/
def maskValue : TelemetryData π → TelemetryData π
  | .text text => .text text
  | .primitive value => .primitive value
  | .array items => .array (maskItems items)
  | .object entries => .object (maskEntries entries)

/-- Items with one and the same text under all sensitive keys. -/
def maskItems : List (TelemetryData π) → List (TelemetryData π)
  | [] => []
  | item :: rest => maskValue item :: maskItems rest

/-- Entries with one and the same text under all sensitive keys. -/
def maskEntries : List (String × TelemetryData π) → List (String × TelemetryData π)
  | [] => []
  | (key, value) :: rest =>
      (key, if isSensitiveKey key then .text "" else maskValue value) :: maskEntries rest
end

mutual
/-- Values under sensitive keys do not matter to what a value becomes. -/
theorem anonymizeValue_maskValue (value : TelemetryData π)
    : anonymizeValue (maskValue value) = anonymizeValue value := by
  match value with
  | .text _ => rfl
  | .primitive _ => rfl
  | .array items => rw [maskValue, anonymizeValue, anonymizeItems_maskItems, anonymizeValue]
  | .object entries => rw [maskValue, anonymizeValue, anonymize_maskEntries, anonymizeValue]

/-- They do not matter to what items become. -/
theorem anonymizeItems_maskItems (index : Nat) (items : List (TelemetryData π))
    : anonymizeItems index (maskItems items) = anonymizeItems index items := by
  match items with
  | [] => rfl
  | item :: rest =>
      rw [maskItems, anonymizeItems, anonymizeItems, anonymizeValue_maskValue item,
        anonymizeItems_maskItems (index + 1) rest]

/-- They do not matter to what entries become. -/
theorem anonymize_maskEntries (entries : List (String × TelemetryData π))
    : anonymize (maskEntries entries) = anonymize entries := by
  match entries with
  | [] => rfl
  | (key, value) :: rest =>
      rw [maskEntries, anonymize, anonymize, anonymize_maskEntries rest]
      by_cases sensitive : isSensitiveKey key = true
      · rw [if_pos sensitive, if_pos sensitive]
      · rw [if_neg sensitive, if_neg sensitive, if_neg sensitive, anonymizeValue_maskValue value]
end

-----------------------------------------------------------------------------------------
-- What is kept
-----------------------------------------------------------------------------------------

/-- A step from an object to a value of it, or from an array to an item. -/
inductive PathStep where
  | key (key : String)
  | index (index : Nat)
  deriving DecidableEq, Repr

/-- (Reached value path found) requires the path to lead from the value to the one that was found.
-/
inductive Reached : TelemetryData π → List PathStep → TelemetryData π → Prop
  | here {value} : Reached value [] value
  | entry {entries key value path found} (member : (key, value) ∈ entries)
    (below : Reached value path found)
    : Reached (.object entries) (.key key :: path) found
  | item {items index value path found} (isItem : items[index]? = some value)
    (below : Reached value path found)
    : Reached (.array items) (.index index :: path) found

/-- No key on the path is sensitive. -/
def outsideSensitive (path : List PathStep) : Prop :=
  ∀ key, .key key ∈ path → isSensitiveKey key = false

/-- Two values are equal, or both are arrays of one length, or both are objects. -/
def sameKind : TelemetryData π → TelemetryData π → Prop
  | .text first, .text second => first = second
  | .primitive first, .primitive second => first = second
  | .array first, .array second => first.length = second.length
  | .object _, .object _ => True
  | _, _ => False

/-- Every value of a record that is not under a sensitive key is in the other record, too, at the
same path and with the same structure.
-/
def keepsOthers (data result : List (String × TelemetryData π)) : Prop :=
  ∀ path found,
    outsideSensitive path
    → Reached (.object data) path found
    → ∃ kept, Reached (.object result) path kept ∧ sameKind found kept

/-- No value that is not under a sensitive key is an array, and none has the key `__proto__`. -/
def withoutArrays (data : List (String × TelemetryData π)) : Prop :=
  ∀ path found,
    outsideSensitive path
    → Reached (.object data) path found
    → (∀ items, found ≠ .array items) ∧ .key "__proto__" ∉ path

/-- Results of anonymising have no entries for `__proto__`, and have anonymised values, by induction
on the entries.
-/
theorem mem_anonymize {entries : List (String × TelemetryData π)} {key : String}
    {value : TelemetryData π} (member : (key, value) ∈ anonymize entries)
    : key ≠ "__proto__" ∧ ∃ original, value = anonymizeValue original := by
  induction entries with
  | nil => cases member
  | cons entry rest ih =>
      rw [anonymize] at member
      split_ifs at member with isProto sensitive
      · exact ih member
      · rcases List.mem_cons.mp member with same | inRest
        · obtain ⟨rfl, rfl⟩ := Prod.mk.inj same
          exact ⟨isProto, .text "[REDACTED]", rfl⟩
        · exact ih inRest
      · rcases List.mem_cons.mp member with same | inRest
        · obtain ⟨rfl, rfl⟩ := Prod.mk.inj same
          exact ⟨isProto, entry.2, rfl⟩
        · exact ih inRest

/-- An index is no name that starts with a letter or another sign. -/
theorem toString_ne_proto (index : Nat) : toString index ≠ "__proto__" := by
  intro isProto
  have digits : ∀ character ∈ (toString index).toList, character.isDigit = true :=
    fun character member =>
      Nat.isDigit_of_mem_toDigits (b := 10) (n := index) (by decide) (by decide)
        (by simpa using member)
  rw [isProto] at digits
  exact absurd (digits '_' (by decide)) (by decide)

/-- So do the results for arrays, by induction on the items. -/
theorem mem_anonymizeItems {index : Nat} {items : List (TelemetryData π)} {key : String}
    {value : TelemetryData π} (member : (key, value) ∈ anonymizeItems index items)
    : key ≠ "__proto__" ∧ ∃ original, value = anonymizeValue original := by
  induction items generalizing index with
  | nil => cases member
  | cons item rest ih =>
      rw [anonymizeItems] at member
      split_ifs at member with sensitive
      · rcases List.mem_cons.mp member with same | inRest
        · obtain ⟨rfl, rfl⟩ := Prod.mk.inj same
          exact ⟨toString_ne_proto index, .text "[REDACTED]", rfl⟩
        · exact ih inRest
      · rcases List.mem_cons.mp member with same | inRest
        · obtain ⟨rfl, rfl⟩ := Prod.mk.inj same
          exact ⟨toString_ne_proto index, item, rfl⟩
        · exact ih inRest

/-- What is reached in the result of anonymising has been anonymised, and the path to it has no
`__proto__`, by induction on the path.
-/
theorem reached_anonymizeValue {value found : TelemetryData π} {path : List PathStep}
    (reached : Reached (anonymizeValue value) path found)
    : (∃ original, found = anonymizeValue original) ∧ .key "__proto__" ∉ path := by
  generalize isResult : anonymizeValue value = result at reached
  induction reached generalizing value with
  | here => exact ⟨⟨value, isResult.symm⟩, nofun⟩
  | @entry entries key below path found member _ ih =>
      have ofEntry : key ≠ "__proto__" ∧ ∃ original, below = anonymizeValue original := by
        cases value with
        | text text => cases isResult
        | primitive value => cases isResult
        | array items =>
            obtain rfl := TelemetryData.object.inj isResult
            exact mem_anonymizeItems member
        | object originals =>
            obtain rfl := TelemetryData.object.inj isResult
            exact mem_anonymize member
      obtain ⟨notProto, original, isBelow⟩ := ofEntry
      obtain ⟨anonymized, noProto⟩ := ih isBelow.symm
      refine ⟨anonymized, fun isProto => ?_⟩
      rcases List.mem_cons.mp isProto with isKey | later
      · exact notProto (PathStep.key.inj isKey).symm
      · exact noProto later
  | item _ _ _ => cases value <;> cases isResult

/-- An entry whose key is neither sensitive nor `__proto__` is kept with its value anonymised, by
induction on the entries.
-/
theorem mem_anonymize_of_mem {entries : List (String × TelemetryData π)} {key : String}
    {value : TelemetryData π} (member : (key, value) ∈ entries)
    (insensitive : isSensitiveKey key = false) (notProto : key ≠ "__proto__")
    : (key, anonymizeValue value) ∈ anonymize entries := by
  induction entries with
  | nil => cases member
  | cons entry rest ih =>
      rw [anonymize]
      rcases List.mem_cons.mp member with rfl | inRest
      · rw [if_neg notProto, if_neg (Bool.eq_false_iff.mp insensitive)]
        exact List.mem_cons_self
      · split_ifs
        · exact ih inRest
        · exact .tail _ (ih inRest)
        · exact .tail _ (ih inRest)

/-- A value that is not under a sensitive key is kept if there are no arrays and no `__proto__`, by
induction on the path.
-/
theorem exists_reached_anonymizeValue {value found : TelemetryData π} {path : List PathStep}
    (reached : Reached value path found) (outside : outsideSensitive path)
    (noArrays
      : ∀ path found,
          outsideSensitive path
          → Reached value path found
          → (∀ items, found ≠ .array items) ∧ .key "__proto__" ∉ path)
    : ∃ kept, Reached (anonymizeValue value) path kept ∧ sameKind found kept := by
  induction reached with
  | @here value =>
      refine ⟨anonymizeValue value, .here, ?_⟩
      cases value with
      | text text => rfl
      | primitive value => rfl
      | array items => exact absurd rfl ((noArrays [] _ nofun .here).1 items)
      | object entries => trivial
  | @entry entries key below path found member reachedBelow ih =>
      have insensitive : isSensitiveKey key = false := outside key List.mem_cons_self
      have outsideBelow : outsideSensitive path := fun other later => outside other (.tail _ later)
      have onwards {path : List PathStep} (outside : outsideSensitive path)
          : outsideSensitive (.key key :: path) := by
        intro other onPath
        rcases List.mem_cons.mp onPath with isKey | later
        · exact PathStep.key.inj isKey ▸ insensitive
        · exact outside other later
      have notProto : key ≠ "__proto__" := by
        rintro rfl
        exact (noArrays _ _ outside (.entry member reachedBelow)).2 List.mem_cons_self
      obtain ⟨kept, isKept, same⟩ := ih outsideBelow fun path found outside reached =>
        have both := noArrays _ _ (onwards outside) (.entry member reached)
        ⟨both.1, fun isProto => both.2 (.tail _ isProto)⟩
      exact ⟨kept, .entry (mem_anonymize_of_mem member insensitive notProto) isKept, same⟩
  | @item items index below path found _ _ _ =>
      exact absurd rfl ((noArrays [] _ nofun .here).1 items)

/-- Anonymising keeps all values that are not under sensitive keys exactly if none of them is an
array and none has the key `__proto__`.
-/
theorem keepsOthers_anonymize_iff (data : List (String × TelemetryData π))
    : keepsOthers data (anonymize data) ↔ withoutArrays data := by
  constructor
  · intro keeps path found outside reached
    obtain ⟨kept, isKept, same⟩ := keeps path found outside reached
    obtain ⟨⟨original, rfl⟩, noProto⟩ := @reached_anonymizeValue π (.object data) _ _ isKept
    refine ⟨?_, noProto⟩
    rintro items rfl
    cases original <;> exact same
  · intro noArrays path found outside reached
    exact exists_reached_anonymizeValue reached outside noArrays

/-- The data of the event that a call of `track` records. -/
def trackedData (service : TelemetryService π κ) (type : String)
    (data : List (String × TelemetryData π)) (now : Int) (random : String)
    : Option (List (String × TelemetryData π)) :=
  (service.track type data now random).tracked[service.tracked.length]?.map TelemetryEvent.data

/-- Flushing records no event. -/
theorem tracked_flush (service : TelemetryService π κ) (now : Int)
    : (service.flush now).tracked = service.tracked := by
  unfold TelemetryService.flush
  dsimp only
  split_ifs <;> rfl

/-- A service that is enabled and anonymises records what is left of the data. -/
theorem trackedData_eq {service : TelemetryService π κ} (enabled : service.config.enabled = true)
    (anonymizes : service.config.anonymize = true) (type : String)
    (data : List (String × TelemetryData π)) (now : Int) (random : String)
    : trackedData service type data now random = some (anonymize data) := by
  have recorded
      : (service.track type data now random).tracked
        = service.tracked ++ [service.newEvent type data now random] := by
    rw [TelemetryService.track, if_pos enabled]
    dsimp only
    split_ifs
    · exact tracked_flush _ now
    · rfl
  rw [trackedData, recorded, List.getElem?_concat_length, Option.map_some,
    TelemetryService.newEvent, if_pos anonymizes]

/-- The data that a service records which anonymises does not depend on the values under sensitive
keys. It has all other values, at the same paths and with the same structure, exactly if none of
them is an array and none has the key `__proto__`.
-/
theorem telemetry_keeps_others_iff {service : TelemetryService π κ}
    (enabled : service.config.enabled = true) (anonymizes : service.config.anonymize = true)
    (data : List (String × TelemetryData π)) (type : String) (now : Int) (random : String)
    : (∀ other, maskEntries other = maskEntries data
        → trackedData service type other now random = trackedData service type data now random)
      ∧ ((∃ result, trackedData service type data now random = some result
            ∧ keepsOthers data result)
          ↔ withoutArrays data) := by
  simp only [trackedData_eq enabled anonymizes, Option.some.injEq, exists_eq_left']
  refine ⟨fun other sameMask => ?_, keepsOthers_anonymize_iff data⟩
  rw [← anonymize_maskEntries other, sameMask, anonymize_maskEntries]

/-- A service that is enabled, with the defaults otherwise. -/
def enabledService : TelemetryService Unit Unit :=
  newTelemetryService { enabled := some true }

/-- A record with an address under a sensitive key, and an action. -/
theorem telemetry_keeps_others_of_login
    : (∃ result,
        trackedData enabledService "login"
            [("address", .text "GABC"), ("action", .text "connect")] 0 "0" = some result
        ∧ keepsOthers [("address", .text "GABC"), ("action", .text "connect")] result)
      ↔ withoutArrays
          [("address", (.text "GABC" : TelemetryData Unit)), ("action", .text "connect")] :=
  (@telemetry_keeps_others_iff Unit Unit enabledService rfl rfl _ "login" 0 "0").2

/-- An array becomes an object. -/
theorem telemetry_loses_an_array
    : ¬ ∃ result,
          trackedData enabledService "login" [("tags", .array [.text "a"])] 0 "0" = some result
          ∧ keepsOthers [("tags", .array [.text "a"])] result := by
  have insensitive : isSensitiveKey "tags" = false := by decide +kernel
  rintro ⟨result, recorded, keeps⟩
  rw [trackedData_eq rfl rfl, Option.some.injEq] at recorded
  subst recorded
  have outside : outsideSensitive [.key "tags"] := by
    intro key onPath
    obtain rfl : key = "tags" := by simpa using onPath
    exact insensitive
  have reached
      : Reached (.object [("tags", (.array [.text "a"] : TelemetryData Unit))]) [.key "tags"]
          (.array [.text "a"]) :=
    .entry List.mem_cons_self .here
  exact ((keepsOthers_anonymize_iff _).mp keeps _ _ outside reached).1 _ rfl

end Axionvera.Telemetry
