import Axionvera.Foundation.Dialogue
import Axionvera.Foundation.TransitionSystem

/-! Several programs that ask their surroundings at the same time. They are answered one question at
a time and in any order; what each of them has asked is what it asks on its own.
-/

namespace Axionvera.Foundation

variable {Q : Type} {A : Q → Type} {ε α : Type}

/-- Programs in conversation with their surroundings: what was asked and by which of them, and what
is left of each.
-/
structure Conversations (Q : Type) (A : Q → Type) (ε α : Type) where
  asked : List (Nat × Exchange Q A ε)
  programs : List (Dialogue Q A ε α)

/-- A program whose questions carry a number. -/
def Dialogue.tagged (number : Nat)
    : Dialogue Q A ε α → Dialogue (Nat × Q) (fun tagged => A tagged.2) ε α
  | .done value => .done value
  | .fail error => .fail error
  | .ask question next => .ask (number, question) fun answer => (next answer).tagged number

/-- How a program has ended, if it has. -/
def Dialogue.ended : Dialogue Q A ε α → Option (Except ε α)
  | .done value => some (.ok value)
  | .fail error => some (.error error)
  | .ask _ _ => none

/-- A program that has ended asks nothing more. -/
theorem Dialogue.run_of_ended {surroundings : Surroundings Q A ε} {program : Dialogue Q A ε α}
    {result : Except ε α} {history : List (Exchange Q A ε)}
    (ended : program.ended = some result)
    : (program.run surroundings history).2 = result := by
  cases program with
  | done value => exact Option.some.inj ended
  | fail error => exact Option.some.inj ended
  | ask question next => exact absurd ended.symm (Option.some_ne_none result)

namespace Conversations

/-- Programs that have not asked yet. -/
def start (programs : List (Dialogue Q A ε α)) : Conversations Q A ε α :=
  ⟨[], programs⟩

/-- What one of the programs has asked. -/
def own (state : Conversations Q A ε α) (number : Nat) : List (Exchange Q A ε) :=
  (state.asked.filter fun tagged => tagged.1 = number).map (·.2)

/-- A turn of the surroundings: the program that is answered, and the answer to what it asks. -/
abbrev Turn (Q : Type) (A : Q → Type) (ε : Type) :=
  Nat × ((question : Q) → Except ε (A question))

/-- Answer the question of one of the programs; it is `none` if this program asks nothing. -/
def answer (state : Conversations Q A ε α) (turn : Turn Q A ε)
    : Option (Conversations Q A ε α) :=
  match state.programs[turn.1]? with
  | some (.ask question next) =>
      some {
        asked := state.asked ++ [(turn.1, ⟨question, turn.2 question⟩)]
        programs := state.programs.set turn.1 (next (turn.2 question))
      }
  | _ => none

/-- Answer one of the programs as its own surroundings do, which know what it has asked itself. -/
def serve (surroundings : Nat → Surroundings Q A ε) (state : Conversations Q A ε α) (number : Nat)
    : Option (Conversations Q A ε α) :=
  state.answer (number, surroundings number (state.own number))

variable {state next : Conversations Q A ε α} {turn : Turn Q A ε}

/-- An answer goes to a program that asks, which goes on from it; nothing else changes. -/
theorem answer_cases (taken : state.answer turn = some next)
    : ∃ question answered,
        state.programs[turn.1]? = some (.ask question answered)
        ∧ next.programs = state.programs.set turn.1 (answered (turn.2 question))
        ∧ next.asked = state.asked ++ [(turn.1, ⟨question, turn.2 question⟩)] := by
  rw [answer.eq_def] at taken
  split at taken
  next question answered isAsking =>
    obtain rfl := Option.some.inj taken
    exact ⟨question, answered, isAsking, rfl, rfl⟩
  next => exact absurd taken.symm (Option.some_ne_none next)

/-- What is asked is added to what the program that asks it has asked. -/
theorem own_of_asked {number other : Nat} {exchange : Exchange Q A ε}
    (isAsked : next.asked = state.asked ++ [(number, exchange)])
    : next.own other = if number = other then state.own other ++ [exchange] else state.own other
      := by
  simp only [own, isAsked, List.filter_append, List.map_append, List.filter_cons, List.filter_nil,
    decide_eq_true_eq]
  split_ifs with same
  · rfl
  · exact List.append_nil _

/-- (EachSatisfies holds state) requires something of every program and of what it has asked. -/
def EachSatisfies (holds : Nat → List (Exchange Q A ε) → Dialogue Q A ε α → Prop)
    (state : Conversations Q A ε α) : Prop :=
  ∀ number program, state.programs[number]? = some program → holds number (state.own number) program

/-- What one answer keeps of the program that it is for, it keeps of each. -/
theorem EachSatisfies.answer {holds : Nat → List (Exchange Q A ε) → Dialogue Q A ε α → Prop}
    (kept
      : ∀ question answered,
          holds turn.1 (state.own turn.1) (.ask question answered)
          → holds turn.1 (state.own turn.1 ++ [⟨question, turn.2 question⟩])
              (answered (turn.2 question)))
    (taken : state.answer turn = some next) (each : EachSatisfies holds state)
    : EachSatisfies holds next := by
  obtain ⟨question, answered, isAsking, programs, asked⟩ := answer_cases taken
  intro number program isProgram
  rw [own_of_asked asked]
  rw [programs, List.getElem?_set] at isProgram
  split_ifs with same
  · subst same
    rw [if_pos rfl] at isProgram
    split_ifs at isProgram with isThere
    · obtain rfl := Option.some.inj isProgram
      exact kept question answered (each _ _ isAsking)
  · rw [if_neg same] at isProgram
    exact each number program isProgram

/-- What each program keeps on its own, it keeps whatever the others ask and however all of them are
answered.
-/
theorem keeps_of_run {allowed : Nat → List (Exchange Q A ε) → Q → Prop}
    {ends : Nat → List (Exchange Q A ε) → Except ε α → Prop} {programs : List (Dialogue Q A ε α)}
    (keeps
      : ∀ number (program : Dialogue Q A ε α),
          programs[number]? = some program
          → program.Keeps (allowed number) (ends number) [])
    {turns : List (Turn Q A ε)} (reached : run answer (start programs) turns = some state)
    : EachSatisfies
        (fun number history program =>
          Dialogue.Justified (allowed number) history
          ∧ program.Keeps (allowed number) (ends number) history)
        state := by
  refine run_preserves (fun state turn next taken each => ?_) ?_ reached
  · refine EachSatisfies.answer (fun question answered holds => ?_) taken each
    exact ⟨Dialogue.Throughout.append holds.1 holds.2.1, holds.2.2 _⟩
  · exact fun number program isProgram => ⟨Dialogue.throughout_nil, keeps number program isProgram⟩

/-- Each program comes to what it comes to on its own, in the surroundings that it has. -/
theorem run_of_serve {surroundings : Nat → Surroundings Q A ε}
    {programs : List (Dialogue Q A ε α)} {numbers : List Nat}
    (reached : run (serve surroundings) (start programs) numbers = some state)
    : EachSatisfies
        (fun number history program =>
          ∃ first,
            programs[number]? = some first
            ∧ program.run (surroundings number) history
              = first.run (surroundings number) [])
        state := by
  refine run_preserves (fun state number next taken each => ?_) ?_ reached
  · refine EachSatisfies.answer (fun question answered holds => ?_) taken each
    obtain ⟨first, isFirst, same⟩ := holds
    exact ⟨first, isFirst, same⟩
  · exact fun number program isProgram => ⟨program, isProgram, rfl⟩

/-- An answer adds no program and takes none away. -/
theorem length_of_answer (taken : state.answer turn = some next)
    : next.programs.length = state.programs.length := by
  obtain ⟨_, _, _, isSet, _⟩ := answer_cases taken
  rw [isSet, List.length_set]

/-- There are as many programs as before, however they are answered. -/
theorem length_of_run {programs : List (Dialogue Q A ε α)} {turns : List (Turn Q A ε)}
    (reached : run answer (start programs) turns = some state)
    : state.programs.length = programs.length := by
  have kept (state : Conversations Q A ε α) (turn : Turn Q A ε) (next : Conversations Q A ε α)
      (taken : state.answer turn = some next) (same : state.programs.length = programs.length)
      : next.programs.length = programs.length :=
    (length_of_answer taken).trans same
  exact run_preserves kept rfl reached

/-- Where there is one program for each item of a list, it keeps what programs for this item keep.
-/
theorem keeps_of_run_map {ι : Type} {items : List ι} {program : ι → Dialogue Q A ε α}
    {allowed : ι → List (Exchange Q A ε) → Q → Prop}
    {ends : ι → List (Exchange Q A ε) → Except ε α → Prop} {turns : List (Turn Q A ε)}
    (keeps : ∀ item, (program item).Keeps (allowed item) (ends item) [])
    (reached : run answer (start (items.map program)) turns = some state) {number : Nat} {item : ι}
    (isItem : items[number]? = some item)
    : Dialogue.Justified (allowed item) (state.own number)
      ∧ ∃ left,
          state.programs[number]? = some left
          ∧ left.Keeps (allowed item) (ends item) (state.own number) := by
  have keepsEach (number : Nat) (first : Dialogue Q A ε α)
      (isFirst : (items.map program)[number]? = some first)
      : first.Keeps
          (fun history question =>
            ∀ item, items[number]? = some item → allowed item history question)
          (fun history result => ∀ item, items[number]? = some item → ends item history result)
          [] := by
    obtain ⟨own, isOwn, rfl⟩ := Option.map_eq_some_iff.mp (List.getElem?_map.symm.trans isFirst)
    refine (keeps own).mono (fun history question isAllowed other isOther => ?_)
      fun history result isEnd other isOther => ?_
    · exact Option.some.inj (isOwn.symm.trans isOther) ▸ isAllowed
    · exact Option.some.inj (isOwn.symm.trans isOther) ▸ isEnd
  have within : number < state.programs.length := by
    rw [length_of_run reached, List.length_map]
    exact (List.getElem?_eq_some_iff.mp isItem).1
  have isLeft := List.getElem?_eq_getElem within
  obtain ⟨justified, keepsLeft⟩ := keeps_of_run keepsEach reached number _ isLeft
  refine ⟨fun earlier exchange later split => justified earlier exchange later split item isItem,
    _, isLeft, ?_⟩
  exact keepsLeft.mono (fun _ _ isAllowed => isAllowed item isItem)
    fun _ _ isEnd => isEnd item isItem

/-- There are as many programs as before, in the surroundings that they have. -/
theorem length_of_serve {surroundings : Nat → Surroundings Q A ε}
    {programs : List (Dialogue Q A ε α)} {numbers : List Nat}
    (reached : run (serve surroundings) (start programs) numbers = some state)
    : state.programs.length = programs.length := by
  have kept (state : Conversations Q A ε α) (number : Nat) (next : Conversations Q A ε α)
      (taken : state.serve surroundings number = some next)
      (same : state.programs.length = programs.length)
      : next.programs.length = programs.length :=
    (length_of_answer taken).trans same
  exact run_preserves kept rfl reached

/-- Once all programs have ended, they have ended as on their own. -/
theorem ended_of_serve {surroundings : Nat → Surroundings Q A ε}
    {programs : List (Dialogue Q A ε α)} {numbers : List Nat} {results : List (Except ε α)}
    (reached : run (serve surroundings) (start programs) numbers = some state)
    (ended : state.programs.map Dialogue.ended = results.map some)
    : results
      = programs.mapIdx fun number program => (program.run (surroundings number) []).2 := by
  have length : state.programs.length = results.length := by
    rw [← List.length_map Dialogue.ended, ended, List.length_map]
  refine List.ext_getElem ?_ fun number isResult _ => ?_
  · rw [List.length_mapIdx, ← length, length_of_serve reached]
  · have within : number < state.programs.length := length ▸ isResult
    obtain ⟨first, isFirst, same⟩ :=
      run_of_serve reached number _ (List.getElem?_eq_getElem within)
    have endsSo : (state.programs[number]).ended = some results[number] := by
      simpa only [List.getElem?_map, List.getElem?_eq_getElem within,
        List.getElem?_eq_getElem isResult, Option.map_some, Option.some.injEq]
        using congrArg (·[number]?) ended
    obtain ⟨isThere, rfl⟩ := List.getElem?_eq_some_iff.mp isFirst
    rw [List.getElem_mapIdx, ← same]
    exact (Dialogue.run_of_ended endsSo).symm

/-- What all programs have asked, in the order of the programs. -/
def owns (state : Conversations Q A ε α) : List (Exchange Q A ε) :=
  (List.range state.programs.length).flatMap state.own

/-- An exchange at the end of one of several lists is one more of all of them, by induction on the
lists.
-/
theorem perm_flatMap_append {β : Type*} (lists more : Nat → List β) (bound number : Nat) (item : β)
    (within : number < bound)
    (isMore
      : ∀ other, more other = if number = other then lists other ++ [item] else lists other)
    : ((List.range bound).flatMap lists ++ [item]).Perm ((List.range bound).flatMap more) := by
  induction bound with
  | zero => exact absurd within (Nat.not_lt_zero number)
  | succ bound ih =>
      simp only [List.range_succ, List.flatMap_append, List.flatMap_singleton]
      rcases Nat.lt_succ_iff_lt_or_eq.mp within with isEarlier | isLast
      · rw [isMore bound, if_neg isEarlier.ne, List.append_assoc]
        exact ((List.perm_append_comm).append_left _).trans
          (by rw [← List.append_assoc]; exact (ih isEarlier).append_right _)
      · subst isLast
        rw [isMore number, if_pos rfl, List.append_assoc]
        refine List.Perm.append_right _ (List.Perm.of_eq ?_)
        refine List.flatMap_congr fun other isOther => ?_
        rw [isMore other, if_neg (List.mem_range.mp isOther).ne']

/-- Everything that is asked is asked by one of the programs. -/
theorem perm_owns_of_run {programs : List (Dialogue Q A ε α)} {turns : List (Turn Q A ε)}
    (reached : run answer (start programs) turns = some state)
    : (state.asked.map (·.2)).Perm state.owns := by
  have kept (state : Conversations Q A ε α) (turn : Turn Q A ε) (next : Conversations Q A ε α)
      (taken : state.answer turn = some next) (perm : (state.asked.map (·.2)).Perm state.owns)
      : (next.asked.map (·.2)).Perm next.owns := by
    obtain ⟨question, answered, isAsking, _, asked⟩ := answer_cases taken
    rw [asked, List.map_append, owns, length_of_answer taken]
    refine (perm.append_right _).trans ?_
    exact perm_flatMap_append _ _ _ turn.1 _ (List.getElem?_eq_some_iff.mp isAsking).1
      fun other => own_of_asked asked
  refine run_preserves kept ?_ reached
  have noneAsked : (start programs).owns = [] := List.flatMap_eq_nil_iff.mpr fun _ _ => rfl
  rw [noneAsked]
  exact List.Perm.nil

-----------------------------------------------------------------------------------------
-- One program that asks for several, one after another
-----------------------------------------------------------------------------------------

/-- The exchanges of a history with the given number. -/
def ownOf (number : Nat) (history : List (Exchange (Nat × Q) (fun tagged => A tagged.2) ε))
    : List (Exchange Q A ε) :=
  history.filterMap fun exchange =>
    if exchange.question.1 = number then some ⟨exchange.question.2, exchange.answer⟩ else none

/-- Surroundings in which questions with a number are answered as in those of this number. -/
def together (surroundings : Nat → Surroundings Q A ε)
    : Surroundings (Nat × Q) (fun tagged => A tagged.2) ε :=
  fun history tagged => surroundings tagged.1 (ownOf tagged.1 history) tagged.2

/-- A question is added to those with its number. -/
theorem ownOf_append (number other : Nat) (question : Q) (answer : Except ε (A question))
    (history : List (Exchange (Nat × Q) (fun tagged => A tagged.2) ε))
    : ownOf other (history ++ [⟨(number, question), answer⟩])
      = if number = other then ownOf other history ++ [⟨question, answer⟩]
        else ownOf other history := by
  simp only [ownOf, List.filterMap_append, List.filterMap_cons, List.filterMap_nil]
  split_ifs with same
  · rfl
  · exact List.append_nil _

/-- A number that no question has. -/
theorem ownOf_eq_nil {number : Nat}
    {history : List (Exchange (Nat × Q) (fun tagged => A tagged.2) ε)}
    (isNone : ∀ exchange ∈ history, exchange.question.1 ≠ number) : ownOf number history = [] :=
  List.filterMap_eq_nil_iff.mpr fun exchange member => if_neg (isNone exchange member)

/-- A program whose questions carry a number runs as it does on its own, and leaves those with
other numbers as they are, by induction on the program.
-/
theorem run_tagged (surroundings : Nat → Surroundings Q A ε) (number : Nat)
    (program : Dialogue Q A ε α)
    (history : List (Exchange (Nat × Q) (fun tagged => A tagged.2) ε))
    : ((program.tagged number).run (together surroundings) history).2
        = (program.run (surroundings number) (ownOf number history)).2
      ∧ ∀ other,
          number ≠ other
          → ownOf other ((program.tagged number).run (together surroundings) history).1
            = ownOf other history := by
  induction program generalizing history with
  | done value => exact ⟨rfl, fun _ _ => rfl⟩
  | fail error => exact ⟨rfl, fun _ _ => rfl⟩
  | ask question next ih =>
      have isOwn :=
        ownOf_append number number question
          (surroundings number (ownOf number history) question) history
      rw [if_pos rfl] at isOwn
      obtain ⟨same, others⟩ :=
        ih (surroundings number (ownOf number history) question)
          (history
            ++ [⟨(number, question), surroundings number (ownOf number history) question⟩])
      rw [isOwn] at same
      refine ⟨same, fun other isOther => (others other isOther).trans ?_⟩
      rw [ownOf_append, if_neg isOther]

/-- What a program keeps on its own, it keeps of the exchanges with its number, and it adds no
others; by induction on the program.
-/
theorem keeps_tagged {allowed : List (Exchange Q A ε) → Q → Prop}
    {ends : List (Exchange Q A ε) → Except ε α → Prop} (number : Nat) {program : Dialogue Q A ε α}
    {first history : List (Exchange (Nat × Q) (fun tagged => A tagged.2) ε)}
    (added : ∀ exchange ∈ history, exchange ∈ first ∨ exchange.question.1 = number)
    (others : ∀ other, number ≠ other → ownOf other history = ownOf other first)
    (keeps : program.Keeps allowed ends (ownOf number history))
    : (program.tagged number).Keeps
        (fun later tagged =>
          tagged.1 = number
          ∧ (∀ exchange ∈ later, exchange ∈ first ∨ exchange.question.1 = number)
          ∧ allowed (ownOf number later) tagged.2)
        (fun later result =>
          (∀ exchange ∈ later, exchange ∈ first ∨ exchange.question.1 = number)
          ∧ (∀ other, number ≠ other → ownOf other later = ownOf other first)
          ∧ ends (ownOf number later) result)
        history := by
  induction program generalizing history with
  | done value => exact ⟨added, others, keeps⟩
  | fail error => exact ⟨added, others, keeps⟩
  | ask question next ih =>
      refine ⟨⟨rfl, added, keeps.1⟩, fun answer => ih answer ?_ ?_ ?_⟩
      · exact List.forall_mem_append.mpr ⟨added, List.forall_mem_singleton.mpr (.inr rfl)⟩
      · intro other isOther
        rw [ownOf_append, if_neg isOther]
        exact others other isOther
      · rw [ownOf_append, if_pos rfl]
        exact keeps.2 answer

end Conversations

end Axionvera.Foundation
