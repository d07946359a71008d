import Axionvera.Replay.InteractionReplay

/-! A replay that reproduces what was recorded passes the validation, and what passes is what was
recorded, as far as messages tell errors apart and JSON tells results apart.
-/

namespace Axionvera.Replay

open Axionvera.Client.Hydration (DateFormat sampleFormat)
open Axionvera.Foundation
open ResultValue (LooksAlike)

variable {State Arg : Type} {dates : DateFormat}

-----------------------------------------------------------------------------------------
-- What the handlers answer
-----------------------------------------------------------------------------------------

/-- How the handler of an interaction ends, if there is one. -/
abbrev Answer := Option CallOutcome

/-- Call the handler of an interaction. -/
def answer (handlers : ContractHandlers State Arg) (state : State)
    (interaction : RecordedInteraction Arg) : State × Answer :=
  match handlers interaction.contractId interaction.method with
  | none => (state, none)
  | some handler =>
      let (state, outcome) := handler state interaction.args
      (state, some outcome)

/-- The handler has returned. -/
def Answer.isReturn (answer : Answer) : Bool :=
  answer.any CallOutcome.isReturn

/-- Call the handlers of the interactions one after the other, and with `stopOnFailure` up to the
first one that does not return.
-/
def answers (handlers : ContractHandlers State Arg) (stopOnFailure : Bool)
    : State → List (RecordedInteraction Arg) → List (RecordedInteraction Arg × Answer)
  | _, [] => []
  | state, interaction :: interactions =>
      let (state, answered) := answer handlers state interaction
      if stopOnFailure && !answered.isReturn then [(interaction, answered)]
      else (interaction, answered) :: answers handlers stopOnFailure state interactions

/-- A handler ends as the recorded call did. -/
def reproduces (interaction : RecordedInteraction Arg) : Answer → Prop
  | none => False
  | some (.returned value) => interaction.error = none ∧ interaction.result = value
  | some (.threw error) => interaction.error = some error.info

/-- The recorded call and its replay both succeeded with one result, or both failed with one error.
-/
def SameOutcome (interaction : RecordedInteraction Arg) (result : ReplayResult) : Prop :=
  (result.success = true ∧ interaction.error = none ∧ result.result = interaction.result)
  ∨ (result.success = false ∧ interaction.error.isSome = true ∧ result.error = interaction.error)

/-- The report on a replay of a session. -/
def replayReport (dates : DateFormat) (session : ReplaySession Arg)
    (handlers : ContractHandlers State Arg) (state : State) (stopOnFailure : Bool)
    : ReplayValidationReport :=
  validate dates session (replay handlers stopOnFailure state session.interactions)

/-- What holds of the report on a replay: if all handlers end as the recorded calls did, every
interaction passes; an interaction passes only if it was replayed with the same outcome; and passed
and failed interactions together are all interactions.
-/
structure Faithful (dates : DateFormat) (session : ReplaySession Arg)
    (handlers : ContractHandlers State Arg) (state : State) (stopOnFailure : Bool) : Prop where
  complete
    : (∀ pair ∈ answers handlers false state session.interactions, reproduces pair.1 pair.2)
      → ∀ result ∈ (replayReport dates session handlers state stopOnFailure).results,
          result.passed = true
  sound
    : ∀ interaction ∈ session.interactions,
        ∀ verdict ∈ (replayReport dates session handlers state stopOnFailure).results,
          verdict.interactionId = interaction.id
          → verdict.passed = true
          → ∃ result ∈ replay handlers stopOnFailure state session.interactions,
              result.interactionId = interaction.id ∧ SameOutcome interaction result
  counted
    : let report := replayReport dates session handlers state stopOnFailure
      report.passed + report.failed = report.total
      ∧ report.total = session.interactions.length

/-- A handler can be told from the recorded call: results that look alike are equal, and errors with
one message have one name.
-/
def toldApart (dates : DateFormat) (interaction : RecordedInteraction Arg) (answer : Answer)
    : Prop :=
  match interaction.error, answer with
  | none, some (.returned value) =>
      LooksAlike dates interaction.result value → value = interaction.result
  | some error, some (.threw thrown) =>
      thrown.info.message = error.message → thrown.info.name = error.name
  | some error, none =>
      (noHandler interaction).message = error.message → (noHandler interaction).name = error.name
  | some _, some (.returned _) | none, some (.threw _) | none, none => True

/-- All handlers that are called can be told from the recorded calls. A replay that is to stop at
the first failure goes on to the end if all handlers end as the recorded calls did.
-/
structure TellsApart (dates : DateFormat) (session : ReplaySession Arg)
    (handlers : ContractHandlers State Arg) (state : State) (stopOnFailure : Bool) : Prop where
  goesOn
    : stopOnFailure = true
      → (∀ pair ∈ answers handlers false state session.interactions, reproduces pair.1 pair.2)
      → ∀ interaction ∈ session.interactions.dropLast, interaction.error = none
  toldApart
    : ∀ pair ∈ answers handlers stopOnFailure state session.interactions,
        toldApart dates pair.1 pair.2

-----------------------------------------------------------------------------------------
-- Results of the replay
-----------------------------------------------------------------------------------------

/-- The result of a replay for the answer of a handler. -/
def resultOf (interaction : RecordedInteraction Arg) (answer : Answer) : ReplayResult :=
  let failed (error : ErrorInfo) : ReplayResult :=
    {
      interactionId := interaction.id
      contractId := interaction.contractId
      method := interaction.method
      success := false
      error := some error
    }
  match answer with
  | none => failed (noHandler interaction)
  | some (.threw error) => failed error.info
  | some (.returned value) =>
      {
        interactionId := interaction.id
        contractId := interaction.contractId
        method := interaction.method
        success := true
        result := value
      }

/-- A result carries the id of its interaction. -/
theorem resultOf_interactionId (interaction : RecordedInteraction Arg) (answer : Answer)
    : (resultOf interaction answer).interactionId = interaction.id := by
  rcases answer with _ | _ | _ <;> rfl

/-- A result is a success if the handler has returned. -/
theorem resultOf_success (interaction : RecordedInteraction Arg) (answer : Answer)
    : (resultOf interaction answer).success = answer.isReturn := by
  rcases answer with _ | _ | _ <;> rfl

/-- One replay is one call of a handler. -/
theorem replayOne_eq (handlers : ContractHandlers State Arg) (state : State)
    (interaction : RecordedInteraction Arg)
    : replayOne handlers state interaction
      = ((answer handlers state interaction).1,
          resultOf interaction (answer handlers state interaction).2) := by
  unfold replayOne answer
  cases handlers interaction.contractId interaction.method with
  | none => rfl
  | some handler =>
      dsimp only
      rcases handler state interaction.args with ⟨next, value | error⟩ <;> rfl

/-- The results of a replay are those of the handlers' answers, by induction on the interactions. -/
theorem replay_eq (handlers : ContractHandlers State Arg) (stopOnFailure : Bool) (state : State)
    (interactions : List (RecordedInteraction Arg))
    : replay handlers stopOnFailure state interactions
      = (answers handlers stopOnFailure state interactions).map fun pair =>
          resultOf pair.1 pair.2 := by
  induction interactions generalizing state with
  | nil => rfl
  | cons interaction interactions ih =>
      rw [replay, answers, replayOne_eq]
      dsimp only
      rw [resultOf_success]
      split
      · rfl
      · rw [List.map_cons, ih]

/-- Answers belong to the first interactions of a session, in their order, by induction on them. -/
theorem answers_isPrefix (handlers : ContractHandlers State Arg) (stopOnFailure : Bool)
    (state : State) (interactions : List (RecordedInteraction Arg))
    : (answers handlers stopOnFailure state interactions).map Prod.fst <+: interactions := by
  induction interactions generalizing state with
  | nil => exact List.prefix_refl _
  | cons interaction interactions ih =>
      rw [answers]
      dsimp only
      split
      · exact ⟨interactions, rfl⟩
      · exact List.cons_prefix_cons.mpr ⟨rfl, ih _⟩

/-- With distinct ids, the map holds every result under its id, by induction from the end. -/
theorem get_resultMap {results : List ReplayResult} {id : String} {result : ReplayResult}
    (distinct : (results.map ReplayResult.interactionId).Nodup)
    : (resultMap results).get id = some result ↔ result ∈ results ∧ result.interactionId = id := by
  induction results using List.reverseRecOn with
  | nil => simp [resultMap]
  | append_singleton front last ih =>
      rw [List.map_append, List.map_singleton, List.nodup_append] at distinct
      obtain ⟨frontDistinct, _, differs⟩ := distinct
      have extended
          : resultMap (front ++ [last]) = (resultMap front).set last.interactionId last := by
        rw [resultMap, List.foldl_append]
        rfl
      have lastDiffers (member : result ∈ front) : result.interactionId ≠ last.interactionId :=
        differs _ (List.mem_map_of_mem member) _ List.mem_cons_self
      rw [extended, InsertionMap.get_set, List.mem_append, List.mem_singleton]
      by_cases isLast : id = last.interactionId
      · subst isLast
        rw [if_pos rfl, Option.some.injEq]
        constructor
        · rintro rfl
          exact ⟨.inr rfl, rfl⟩
        · rintro ⟨member | rfl, isId⟩
          · exact absurd isId (lastDiffers member)
          · rfl
      · rw [if_neg isLast, ih frontDistinct]
        constructor
        · exact fun ⟨member, isId⟩ => ⟨.inl member, isId⟩
        · rintro ⟨member | rfl, isId⟩
          · exact ⟨member, isId⟩
          · exact absurd isId.symm isLast

-----------------------------------------------------------------------------------------
-- Verdicts
-----------------------------------------------------------------------------------------

/-- The verdict on an interaction carries its id. -/
theorem compareOne_interactionId (interaction : RecordedInteraction Arg) (result : ReplayResult)
    : (compareOne dates interaction result).interactionId = interaction.id := by
  unfold compareOne
  split <;> rfl

/-- Two results have one text exactly if they look alike. -/
theorem stringify_eq_iff {value other : ResultValue}
    : value.stringify dates = other.stringify dates ↔ LooksAlike dates value other := by
  rw [ResultValue.looksAlike_iff, ResultValue.stringify, ResultValue.stringify]
  exact (Option.map_injective JsonValue.toText_injective).eq_iff

/-- An interaction can be told from its replay exactly if it passes with the same outcome only. -/
theorem toldApart_iff (interaction : RecordedInteraction Arg) (answer : Answer)
    : toldApart dates interaction answer
      ↔ ((compareOne dates interaction (resultOf interaction answer)).passed = true
          → SameOutcome interaction (resultOf interaction answer)) := by
  have named {first second : ErrorInfo}
      : (first.message = second.message → first.name = second.name)
        ↔ (second.message = first.message → first = second) := by
    obtain ⟨name, message⟩ := first
    obtain ⟨otherName, otherMessage⟩ := second
    simp only [ErrorInfo.mk.injEq]
    exact ⟨fun told same => ⟨told same.symm, same.symm⟩, fun told same => (told same.symm).1⟩
  unfold toldApart compareOne SameOutcome resultOf
  cases recorded : interaction.error with
  | none =>
      rcases answer with _ | value | thrown
      · simp
      · simp [stringify_eq_iff]
      · simp
  | some error =>
      rcases answer with _ | value | thrown
      · simpa using named
      · simp
      · simpa using named

/-- A handler that ends as the recorded call did lets the interaction pass. -/
theorem passed_of_reproduces {interaction : RecordedInteraction Arg} {answer : Answer}
    (same : reproduces interaction answer)
    : (compareOne dates interaction (resultOf interaction answer)).passed = true := by
  rcases answer with _ | value | thrown
  · cases same
  · obtain ⟨noError, rfl⟩ := same
    simp [compareOne, resultOf, noError]
  · have isError : interaction.error = some thrown.info := same
    simp [compareOne, resultOf, isError]

-----------------------------------------------------------------------------------------
-- Sessions with distinct ids
-----------------------------------------------------------------------------------------

section DistinctIds

variable {handlers : ContractHandlers State Arg} {state : State} {stopOnFailure : Bool}
  {interactions : List (RecordedInteraction Arg)}

/-- Interactions with distinct ids are known by them. -/
theorem eq_of_id_eq (distinct : (interactions.map RecordedInteraction.id).Nodup)
    {first second : RecordedInteraction Arg} (isFirst : first ∈ interactions)
    (isSecond : second ∈ interactions) (same : first.id = second.id)
    : first = second :=
  List.inj_on_of_nodup_map distinct isFirst isSecond same

/-- The answers of a replay belong to interactions of the session. -/
theorem mem_of_mem_answers {pair : RecordedInteraction Arg × Answer}
    (member : pair ∈ answers handlers stopOnFailure state interactions)
    : pair.1 ∈ interactions :=
  (answers_isPrefix handlers stopOnFailure state interactions).subset (List.mem_map_of_mem member)

/-- The results of a replay have distinct ids, too. -/
theorem replay_distinct (distinct : (interactions.map RecordedInteraction.id).Nodup)
    : ((replay handlers stopOnFailure state interactions).map
        ReplayResult.interactionId).Nodup := by
  have ids
      : (replay handlers stopOnFailure state interactions).map ReplayResult.interactionId
        = ((answers handlers stopOnFailure state interactions).map Prod.fst).map
            RecordedInteraction.id := by
    rw [replay_eq, List.map_map, List.map_map]
    exact List.map_congr_left fun pair _ => resultOf_interactionId pair.1 pair.2
  rw [ids]
  have isPrefix := answers_isPrefix handlers stopOnFailure state interactions
  exact distinct.sublist (isPrefix.sublist.map _)

/-- An interaction that was replayed is compared with its own result. -/
theorem validateOne_of_mem (distinct : (interactions.map RecordedInteraction.id).Nodup)
    {interaction : RecordedInteraction Arg} {answer : Answer}
    (member : (interaction, answer) ∈ answers handlers stopOnFailure state interactions)
    : validateOne dates (resultMap (replay handlers stopOnFailure state interactions)) interaction
      = compareOne dates interaction (resultOf interaction answer) := by
  have found
      : (resultMap (replay handlers stopOnFailure state interactions)).get interaction.id
        = some (resultOf interaction answer) := by
    refine (get_resultMap (replay_distinct distinct)).mpr ⟨?_, resultOf_interactionId _ _⟩
    rw [replay_eq]
    exact List.mem_map.mpr ⟨(interaction, answer), member, rfl⟩
  rw [validateOne, found]

/-- An interaction that passes was replayed. -/
theorem mem_answers_of_passed (distinct : (interactions.map RecordedInteraction.id).Nodup)
    {interaction : RecordedInteraction Arg} (isInteraction : interaction ∈ interactions)
    (passed
      : (validateOne dates (resultMap (replay handlers stopOnFailure state interactions))
          interaction).passed = true)
    : ∃ answer, (interaction, answer) ∈ answers handlers stopOnFailure state interactions := by
  unfold validateOne at passed
  split at passed
  · cases passed
  · rename_i result found
    obtain ⟨member, isId⟩ := (get_resultMap (replay_distinct distinct)).mp found
    rw [replay_eq] at member
    obtain ⟨⟨other, answer⟩, isAnswer, rfl⟩ := List.mem_map.mp member
    rw [resultOf_interactionId] at isId
    obtain rfl := eq_of_id_eq distinct (mem_of_mem_answers isAnswer) isInteraction isId
    exact ⟨answer, isAnswer⟩

/-- What passes was replayed with the same outcome exactly if all handlers that are called can be
told from the recorded calls.
-/
theorem sound_iff (distinct : (interactions.map RecordedInteraction.id).Nodup)
    : (∀ interaction ∈ interactions,
        ∀ verdict
          ∈ interactions.map
              (validateOne dates (resultMap (replay handlers stopOnFailure state interactions))),
          verdict.interactionId = interaction.id
          → verdict.passed = true
          → ∃ result ∈ replay handlers stopOnFailure state interactions,
              result.interactionId = interaction.id ∧ SameOutcome interaction result)
      ↔ ∀ pair ∈ answers handlers stopOnFailure state interactions,
          toldApart dates pair.1 pair.2 := by
  constructor
  · rintro sound ⟨interaction, answer⟩ member
    have isInteraction := mem_of_mem_answers member
    have verdict
        : validateOne dates (resultMap (replay handlers stopOnFailure state interactions))
              interaction
          = compareOne dates interaction (resultOf interaction answer) :=
      validateOne_of_mem distinct member
    refine (toldApart_iff interaction answer).mpr fun passed => ?_
    rw [← verdict] at passed
    obtain ⟨result, isResult, isId, same⟩ := sound interaction isInteraction _
      (List.mem_map_of_mem isInteraction) (by rw [verdict, compareOne_interactionId]) passed
    have found := (get_resultMap (replay_distinct distinct)).mpr ⟨isResult, isId⟩
    have alsoFound := (get_resultMap (replay_distinct distinct)).mpr
      ⟨by rw [replay_eq]; exact List.mem_map.mpr ⟨_, member, rfl⟩, resultOf_interactionId _ _⟩
    obtain rfl := Option.some.inj (found.symm.trans alsoFound)
    exact same
  · intro told interaction isInteraction verdict isVerdict isId passed
    obtain ⟨other, isOther, rfl⟩ := List.mem_map.mp isVerdict
    obtain ⟨answer, member⟩ := mem_answers_of_passed distinct isOther passed
    rw [validateOne_of_mem distinct member] at isId passed
    rw [compareOne_interactionId] at isId
    obtain rfl := eq_of_id_eq distinct isOther isInteraction isId
    refine ⟨resultOf other answer, ?_, resultOf_interactionId _ _,
      (toldApart_iff other answer).mp (told _ member) passed⟩
    rw [replay_eq]
    exact List.mem_map.mpr ⟨_, member, rfl⟩

/-- A replay that stops at a failure has called the first of the handlers, by induction on the
interactions.
-/
theorem answers_isPrefix_answers (handlers : ContractHandlers State Arg) (stopOnFailure : Bool)
    (state : State) (interactions : List (RecordedInteraction Arg))
    : answers handlers stopOnFailure state interactions
      <+: answers handlers false state interactions := by
  induction interactions generalizing state with
  | nil => exact List.prefix_refl _
  | cons interaction interactions ih =>
      rw [answers, answers]
      dsimp only
      split
      · exact ⟨_, rfl⟩
      · exact List.cons_prefix_cons.mpr ⟨rfl, ih _⟩

/-- A handler that ends as the recorded call did returns exactly if nothing was thrown. -/
theorem isReturn_of_reproduces {interaction : RecordedInteraction Arg} {answer : Answer}
    (same : reproduces interaction answer)
    : answer.isReturn = true ↔ interaction.error = none := by
  rcases answer with _ | value | thrown
  · cases same
  · exact iff_of_true rfl same.1
  · have isError : interaction.error = some thrown.info := same
    simp [isError, Answer.isReturn, CallOutcome.isReturn]

/-- If all handlers end as the recorded calls did, all are called exactly if the replay does not
stop or nothing was thrown before the last call, by induction on the interactions.
-/
theorem all_called_iff (distinct : (interactions.map RecordedInteraction.id).Nodup)
    (same : ∀ pair ∈ answers handlers false state interactions, reproduces pair.1 pair.2)
    : (∀ interaction ∈ interactions,
        ∃ answer, (interaction, answer) ∈ answers handlers stopOnFailure state interactions)
      ↔ (stopOnFailure = true
          → ∀ interaction ∈ interactions.dropLast, interaction.error = none) := by
  induction interactions generalizing state with
  | nil => simp
  | cons interaction interactions ih =>
      rw [List.map_cons, List.nodup_cons] at distinct
      obtain ⟨isNew, laterDistinct⟩ := distinct
      have differs {other : RecordedInteraction Arg} (member : other ∈ interactions)
          : other ≠ interaction := by
        rintro rfl
        exact isNew (List.mem_map_of_mem member)
      rw [answers] at same ⊢
      dsimp only at same ⊢
      rw [Bool.false_and, if_neg Bool.false_ne_true, List.forall_mem_cons] at same
      obtain ⟨sameFirst, sameLater⟩ := same
      have returns := isReturn_of_reproduces sameFirst
      split
      · rename_i stops
        rw [Bool.and_eq_true, Bool.not_eq_true'] at stops
        cases interactions with
        | nil => simp
        | cons second others =>
            refine iff_of_false (fun all => ?_) (fun noErrors => ?_)
            · obtain ⟨answer, member⟩ := all second (List.mem_cons_of_mem _ List.mem_cons_self)
              exact differs List.mem_cons_self (Prod.mk.inj (List.mem_singleton.mp member)).1
            · have returned := returns.mpr (noErrors stops.1 interaction List.mem_cons_self)
              rw [stops.2] at returned
              cases returned
      · rename_i goesOn
        have firstReturns (stops : stopOnFailure = true) : interaction.error = none := by
          refine returns.mp ?_
          rw [stops, Bool.true_and, Bool.not_eq_true, Bool.not_eq_false'] at goesOn
          exact goesOn
        have laterCalled
            : (∀ other ∈ interaction :: interactions,
                ∃ answered,
                  (other, answered)
                    ∈ (interaction, (answer handlers state interaction).2)
                      :: answers handlers stopOnFailure (answer handlers state interaction).1
                          interactions)
              ↔ ∀ other ∈ interactions,
                  ∃ answered,
                    (other, answered)
                      ∈ answers handlers stopOnFailure (answer handlers state interaction).1
                          interactions := by
          constructor
          · intro all other member
            obtain ⟨answered, called⟩ := all other (List.mem_cons_of_mem _ member)
            rcases List.mem_cons.mp called with isFirst | isLater
            · exact absurd (Prod.mk.inj isFirst).1 (differs member)
            · exact ⟨answered, isLater⟩
          · intro all other member
            rcases List.mem_cons.mp member with rfl | isLater
            · exact ⟨_, List.mem_cons_self⟩
            · obtain ⟨answered, called⟩ := all other isLater
              exact ⟨answered, List.mem_cons_of_mem _ called⟩
        rw [laterCalled, ih laterDistinct sameLater]
        refine imp_congr_right fun stops => ?_
        cases interactions with
        | nil => simp
        | cons second others =>
            rw [List.dropLast_cons_of_ne_nil (List.cons_ne_nil _ _), List.forall_mem_cons]
            exact (and_iff_right (firstReturns stops)).symm

/-- If all handlers end as the recorded calls did, every interaction passes exactly if all handlers
are called.
-/
theorem complete_iff (distinct : (interactions.map RecordedInteraction.id).Nodup)
    (same : ∀ pair ∈ answers handlers false state interactions, reproduces pair.1 pair.2)
    : (∀ result
          ∈ interactions.map
              (validateOne dates (resultMap (replay handlers stopOnFailure state interactions))),
        result.passed = true)
      ↔ (stopOnFailure = true
          → ∀ interaction ∈ interactions.dropLast, interaction.error = none) := by
  rw [← all_called_iff distinct same, List.forall_mem_map]
  refine forall_congr' fun interaction => imp_congr_right fun isInteraction => ?_
  constructor
  · exact mem_answers_of_passed distinct isInteraction
  · rintro ⟨answer, member⟩
    rw [validateOne_of_mem distinct member]
    exact passed_of_reproduces
      (same _ ((answers_isPrefix_answers handlers stopOnFailure state interactions).subset member))

end DistinctIds

-----------------------------------------------------------------------------------------
-- Recorded sessions
-----------------------------------------------------------------------------------------

/-- The interaction that is recorded for a call. -/
def RecordedCall.interaction (call : RecordedCall Arg) : RecordedInteraction Arg :=
  {
    id := call.id
    contractId := call.contractId
    method := call.method
    args := call.args
    result := match call.outcome with
      | .returned value => value
      | .threw _ => .undefined
    error := match call.outcome with
      | .returned _ => none
      | .threw error => some error.info
  }

/-- Every call is recorded once and in order, by induction on the calls. -/
theorem foldl_record (recorder : InteractionRecorder Arg) (calls : List (RecordedCall Arg))
    : (calls.foldl InteractionRecorder.record recorder).interactions
      = recorder.interactions ++ calls.map RecordedCall.interaction := by
  induction calls generalizing recorder with
  | nil => simp
  | cons call calls ih =>
      have first
          : (recorder.record call).interactions
            = recorder.interactions ++ [call.interaction] := by
        unfold InteractionRecorder.record RecordedCall.interaction
        cases call.outcome <;> rfl
      rw [List.foldl_cons, ih, first, List.map_cons, List.append_assoc]
      rfl

/-- A recorder that imports a recorded session goes on as if it had recorded the calls itself. -/
theorem importSession_recordedSession (recorder : InteractionRecorder Arg) (id : String)
    (calls : List (RecordedCall Arg))
    : recorder.importSession (recordedSession id calls)
      = calls.foldl InteractionRecorder.record recorder := by
  have imported
      : (recordedSession id calls).interactions = calls.map RecordedCall.interaction := by
    rw [recordedSession, InteractionRecorder.exportSession, foldl_record, List.nil_append]
  refine congrArg InteractionRecorder.mk ?_
  rw [imported, foldl_record]

/-- For every sequence of recorded calls with distinct ids and all handlers: the report on the
replay is complete, sound and counts all interactions exactly if all handlers that are called can be
told from the recorded calls, and the replay does not stop before its end although it reproduces
them.
-/
theorem faithful_iff_tellsApart (dates : DateFormat) (id : String)
    (calls : List (RecordedCall Arg)) (handlers : ContractHandlers State Arg) (state : State)
    (stopOnFailure : Bool) (distinct : (calls.map RecordedCall.id).Nodup)
    : Faithful dates (recordedSession id calls) handlers state stopOnFailure
      ↔ TellsApart dates (recordedSession id calls) handlers state stopOnFailure := by
  have sessionDistinct
      : ((recordedSession id calls).interactions.map RecordedInteraction.id).Nodup := by
    rw [recordedSession, InteractionRecorder.exportSession, foldl_record, List.nil_append,
      List.map_map]
    exact distinct
  constructor
  · intro faithful
    exact ⟨fun stops same => (complete_iff sessionDistinct same).mp (faithful.complete same) stops,
      (sound_iff sessionDistinct).mp faithful.sound⟩
  · intro told
    refine ⟨fun same => (complete_iff sessionDistinct same).mpr fun stops => told.goesOn stops same,
      (sound_iff sessionDistinct).mpr told.toldApart, ?_, ?_⟩
    · exact Nat.add_sub_cancel' (List.length_filter_le _ _)
    · exact List.length_map _

/-- A deposit that returns, and a second one that is out of funds. -/
def twoDeposits : List (RecordedCall Int) :=
  [
    {
      id := "first"
      contractId := "VAULT"
      method := "deposit"
      args := [500]
      outcome :=
        .returned
          (.object [("txHash", .text "abc"), ("amount", .bigint 500), ("memo", .undefined)])
    },
    {
      id := "second"
      contractId := "VAULT"
      method := "deposit"
      args := [700]
      outcome := .threw (.error "InsufficientFundsError" "out of funds")
    }
  ]

/-- A vault that takes deposits as long as its funds last. -/
def vaultHandlers : ContractHandlers Int Int := fun contractId method =>
  if contractId = "VAULT" ∧ method = "deposit" then
    some fun funds args =>
      let amount := args.sum
      if amount ≤ funds then
        (funds - amount,
          .returned
            (.object [("txHash", .text "abc"), ("amount", .bigint amount), ("memo", .undefined)]))
      else (funds, .threw (.error "InsufficientFundsError" "out of funds"))
  else none

/-- Both deposits are replayed as they were recorded. -/
theorem faithful_of_deposits
    : Faithful sampleFormat (recordedSession "session" twoDeposits) vaultHandlers 1000 true := by
  refine (faithful_iff_tellsApart sampleFormat "session" twoDeposits vaultHandlers 1000 true
    (by decide)).mpr ⟨fun _ _ interaction member => ?_, fun pair member => ?_⟩
  · obtain rfl := List.mem_singleton.mp member
    rfl
  · rcases List.mem_cons.mp member with rfl | member
    · exact fun _ => rfl
    · obtain rfl := List.mem_singleton.mp member
      exact fun _ => rfl

/-- The session of a single call. -/
def singleCall (outcome : CallOutcome) : ReplaySession Unit :=
  recordedSession "session"
    [{ id := "call", contractId := "VAULT", method := "info", args := [], outcome := outcome }]

/-- A single id is distinct. -/
theorem singleCall_distinct (outcome : CallOutcome)
    : ((singleCall outcome).interactions.map RecordedInteraction.id).Nodup := by
  cases outcome <;> exact List.nodup_singleton "call"

/-- Handlers that all end in the same way. -/
def endingWith (outcome : CallOutcome) : ContractHandlers Unit Unit :=
  fun _ _ => some fun state _ => (state, outcome)

/-- A text passes for a big integer, an empty object for a map with entries, and an error for one of
another name.
-/
theorem not_faithful
    : ¬ Faithful sampleFormat (singleCall (.returned (.bigint 5)))
          (endingWith (.returned (.text "__bigint__5"))) () false
      ∧ ¬ Faithful sampleFormat
          (singleCall (.returned (.map [(.text "GABC", .bigint 5)])))
          (endingWith (.returned (.object []))) () false
      ∧ ¬ Faithful sampleFormat (singleCall (.threw (.error "TimeoutError" "failed")))
          (endingWith (.threw (.error "NetworkError" "failed"))) () false := by
  refine ⟨fun faithful => ?_, fun faithful => ?_, fun faithful => ?_⟩
  · have told := (sound_iff (singleCall_distinct _)).mp faithful.sound _ List.mem_cons_self
    exact nomatch told rfl
  · have told := (sound_iff (singleCall_distinct _)).mp faithful.sound _ List.mem_cons_self
    exact nomatch told rfl
  · have told := (sound_iff (singleCall_distinct _)).mp faithful.sound _ List.mem_cons_self
    exact absurd (told rfl) (by decide)

end Axionvera.Replay
