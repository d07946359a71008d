import Mathlib.Data.List.Basic
import Mathlib.Data.List.Infix

/-! Programs that ask their surroundings and go on with the answers. Whatever is asked can be
answered in any way or fail; rules say what holds of all that a program has asked, for programs that
are put together from others and for several of them at a time.
-/

namespace Axionvera.Foundation

variable {Q : Type} {A : Q → Type} {ε α β : Type}

/-- A program that asks questions. A question `q` is answered by a value of `A q`, or it fails. -/
inductive Dialogue (Q : Type) (A : Q → Type) (ε α : Type) where
  | done (value : α)
  | fail (error : ε)
  | ask (question : Q) (next : Except ε (A question) → Dialogue Q A ε α)

/-- A question with its answer. -/
structure Exchange (Q : Type) (A : Q → Type) (ε : Type) where
  question : Q
  answer : Except ε (A question)

/-- What answers questions; it knows all that was asked before. -/
abbrev Surroundings (Q : Type) (A : Q → Type) (ε : Type) :=
  List (Exchange Q A ε) → (question : Q) → Except ε (A question)

/-- What becomes of a result: of its value, or of its error. -/
def onResult {γ : Type*} (ofValue : α → γ) (ofError : ε → γ) : Except ε α → γ
  | .ok value => ofValue value
  | .error error => ofError error

-----------------------------------------------------------------------------------------
-- What was answered
-----------------------------------------------------------------------------------------

/-- (Answered history question answer) requires the question to have been answered so. -/
def Answered (history : List (Exchange Q A ε)) (question : Q) (answer : A question) : Prop :=
  ⟨question, .ok answer⟩ ∈ history

/-- Nothing has failed so far. -/
def NothingFailed (history : List (Exchange Q A ε)) : Prop :=
  ∀ exchange ∈ history, ∃ answer, exchange.answer = .ok answer

variable {history later : List (Exchange Q A ε)}

/-- Answers do not fail. -/
theorem NothingFailed.append (clean : NothingFailed history) (question : Q) (answer : A question)
    : NothingFailed (history ++ [⟨question, .ok answer⟩]) :=
  List.forall_mem_append.mpr ⟨clean, List.forall_mem_singleton.mpr ⟨answer, rfl⟩⟩

/-- What was answered stays so. -/
theorem Answered.append {question : Q} {answer : A question}
    (answered : Answered history question answer) (more : List (Exchange Q A ε))
    : Answered (history ++ more) question answer :=
  List.mem_append_left more answered

/-- What was answered stays so while the history goes on. -/
theorem Answered.still {question : Q} {answer : A question}
    (answered : Answered history question answer) (goesOn : history <+: later)
    : Answered later question answer :=
  goesOn.subset answered

/-- What is answered last was answered. -/
theorem answered_last (question : Q) (answer : A question)
    : Answered (history ++ [⟨question, .ok answer⟩]) question answer :=
  List.mem_append_right history (List.mem_singleton.mpr rfl)

namespace Dialogue

-----------------------------------------------------------------------------------------
-- Programs and their runs
-----------------------------------------------------------------------------------------

/-- One program, then another that knows its value; an error ends both. -/
def bind : Dialogue Q A ε α → (α → Dialogue Q A ε β) → Dialogue Q A ε β
  | .done value, next => next value
  | .fail error, _ => .fail error
  | .ask question answered, next => .ask question fun answer => (answered answer).bind next

instance : Monad (Dialogue Q A ε) where
  pure := .done
  bind := bind

/-- Going on with the value itself changes nothing, by induction on the program. -/
theorem bind_done (program : Dialogue Q A ε α) : program.bind .done = program := by
  induction program with
  | done value => rfl
  | fail error => rfl
  | ask question answered ih => exact congrArg (ask question) (funext ih)

/-- Three programs one after another, by induction on the first. -/
theorem bind_bind {γ : Type} (program : Dialogue Q A ε α) (next : α → Dialogue Q A ε β)
    (last : β → Dialogue Q A ε γ)
    : (program.bind next).bind last = program.bind fun value => (next value).bind last := by
  induction program with
  | done value => rfl
  | fail error => rfl
  | ask question answered ih => exact congrArg (ask question) (funext ih)

instance : LawfulMonad (Dialogue Q A ε) :=
  LawfulMonad.mk' (Dialogue Q A ε) bind_done (fun _ _ => rfl) bind_bind

/-- A value is gone on with. -/
@[simp] theorem done_bind (value : α) (next : α → Dialogue Q A ε β)
    : ((done value : Dialogue Q A ε α) >>= next) = next value :=
  rfl

/-- Ask one question; a failing answer is the error of the program. -/
def request (question : Q) : Dialogue Q A ε (A question) :=
  .ask question fun
    | .ok value => .done value
    | .error error => .fail error

/-- The value of a computation without questions, or its error. -/
def ofExcept : Except ε α → Dialogue Q A ε α
  | .ok value => .done value
  | .error error => .fail error

/-- `try` and `catch`. -/
def tryCatch : Dialogue Q A ε α → (ε → Dialogue Q A ε α) → Dialogue Q A ε α
  | .done value, _ => .done value
  | .fail error, handler => handler error
  | .ask question answered, handler =>
      .ask question fun answer => (answered answer).tryCatch handler

/-- How a program ends, as a value. -/
def outcome : Dialogue Q A ε α → Dialogue Q A ε (Except ε α)
  | .done value => .done (.ok value)
  | .fail error => .done (.error error)
  | .ask question answered => .ask question fun answer => (answered answer).outcome

/-- All that has been asked at the end, behind a history, and how the program ends. -/
def run (surroundings : Surroundings Q A ε)
    : Dialogue Q A ε α → List (Exchange Q A ε) → List (Exchange Q A ε) × Except ε α
  | .done value, history => (history, .ok value)
  | .fail error, history => (history, .error error)
  | .ask question answered, history =>
      let answer := surroundings history question
      (answered answer).run surroundings (history ++ [⟨question, answer⟩])

-----------------------------------------------------------------------------------------
-- What holds whatever the answers are
-----------------------------------------------------------------------------------------

/-- (Keeps allowed ends program history) requires every question that the program asks behind the
history to be allowed by all that was asked until then, and every end of the program to be one of
the ends.
-/
def Keeps (allowed : List (Exchange Q A ε) → Q → Prop)
    (ends : List (Exchange Q A ε) → Except ε α → Prop)
    : Dialogue Q A ε α → List (Exchange Q A ε) → Prop
  | .done value, history => ends history (.ok value)
  | .fail error, history => ends history (.error error)
  | .ask question answered, history =>
      allowed history question
      ∧ ∀ answer, (answered answer).Keeps allowed ends (history ++ [⟨question, answer⟩])

/-- (Throughout holds history) requires something of every exchange of the history and of what was
asked before it.
-/
def Throughout (holds : List (Exchange Q A ε) → Exchange Q A ε → Prop)
    (history : List (Exchange Q A ε)) : Prop :=
  ∀ earlier exchange later, history = earlier ++ exchange :: later → holds earlier exchange

/-- (Justified allowed history) requires every question of the history to be allowed by what was
asked before it.
-/
def Justified (allowed : List (Exchange Q A ε) → Q → Prop) (history : List (Exchange Q A ε))
    : Prop :=
  Throughout (fun earlier exchange => allowed earlier exchange.question) history

/-- Nothing was asked. -/
theorem throughout_nil {holds : List (Exchange Q A ε) → Exchange Q A ε → Prop}
    : Throughout holds [] := by
  intro earlier exchange later split
  exact absurd split (List.append_ne_nil_of_right_ne_nil _ (List.cons_ne_nil _ _) ∘ Eq.symm)

/-- What holds throughout a history goes on to hold behind an exchange of which it holds. -/
theorem Throughout.append {holds : List (Exchange Q A ε) → Exchange Q A ε → Prop}
    {history : List (Exchange Q A ε)} {exchange : Exchange Q A ε}
    (throughout : Throughout holds history) (last : holds history exchange)
    : Throughout holds (history ++ [exchange]) := by
  intro earlier other later split
  rcases List.eq_nil_or_concat later with rfl | ⟨front, final, rfl⟩
  · obtain ⟨rfl, same⟩ := List.append_inj' split rfl
    exact (List.cons.inj same).1 ▸ last
  · rw [List.concat_eq_append, ← List.cons_append, ← List.append_assoc] at split
    exact throughout earlier other front (List.append_inj' split rfl).1

/-- What is asked in a run is answered by the surroundings, by induction on the program. -/
theorem answers_of_run (surroundings : Surroundings Q A ε) (program : Dialogue Q A ε α)
    {history : List (Exchange Q A ε)}
    (answered
      : Throughout
          (fun earlier exchange => exchange.answer = surroundings earlier exchange.question)
          history)
    : Throughout (fun earlier exchange => exchange.answer = surroundings earlier exchange.question)
        (program.run surroundings history).1 := by
  induction program generalizing history with
  | done value => exact answered
  | fail error => exact answered
  | ask question next ih => exact ih _ (answered.append rfl)

variable {allowed weaker : List (Exchange Q A ε) → Q → Prop}
  {ends others : List (Exchange Q A ε) → Except ε α → Prop}

/-- What is kept may be weakened, by induction on the program. -/
theorem Keeps.mono {program : Dialogue Q A ε α} {history : List (Exchange Q A ε)}
    (allows : ∀ history question, allowed history question → weaker history question)
    (ending : ∀ history result, ends history result → others history result)
    (keeps : program.Keeps allowed ends history)
    : program.Keeps weaker others history := by
  induction program generalizing history with
  | done value => exact ending _ _ keeps
  | fail error => exact ending _ _ keeps
  | ask question answered ih =>
      exact ⟨allows _ _ keeps.1, fun answer => ih answer (keeps.2 answer)⟩

/-- A program that goes on with the value of another: the first one ends where the second one keeps
what is required, by induction on the first.
-/
theorem keeps_bind {program : Dialogue Q A ε α} {next : α → Dialogue Q A ε β}
    {ends : List (Exchange Q A ε) → Except ε β → Prop} {history : List (Exchange Q A ε)}
    : (program >>= next).Keeps allowed ends history
      ↔ program.Keeps allowed
          (fun later =>
            onResult (fun value => (next value).Keeps allowed ends later) fun error =>
              ends later (.error error))
          history := by
  induction program generalizing history with
  | done value => rfl
  | fail error => rfl
  | ask question answered ih => exact and_congr_right fun _ => forall_congr' fun answer => ih answer

/-- A program whose error is handled, by induction on it. -/
theorem keeps_tryCatch {program : Dialogue Q A ε α} {handler : ε → Dialogue Q A ε α}
    {history : List (Exchange Q A ε)}
    : (program.tryCatch handler).Keeps allowed ends history
      ↔ program.Keeps allowed
          (fun later =>
            onResult (fun value => ends later (.ok value)) fun error =>
              (handler error).Keeps allowed ends later)
          history := by
  induction program generalizing history with
  | done value => rfl
  | fail error => rfl
  | ask question answered ih => exact and_congr_right fun _ => forall_congr' fun answer => ih answer

/-- A program whose end is a value, by induction on it. -/
theorem keeps_outcome {program : Dialogue Q A ε α}
    {ends : List (Exchange Q A ε) → Except ε (Except ε α) → Prop}
    {history : List (Exchange Q A ε)}
    : program.outcome.Keeps allowed ends history
      ↔ program.Keeps allowed (fun later result => ends later (.ok result)) history := by
  induction program generalizing history with
  | done value => rfl
  | fail error => rfl
  | ask question answered ih => exact and_congr_right fun _ => forall_congr' fun answer => ih answer

/-- Nothing is asked for a value. -/
theorem keeps_pure {value : α} {history : List (Exchange Q A ε)}
    : (pure value : Dialogue Q A ε α).Keeps allowed ends history ↔ ends history (.ok value) :=
  .rfl

/-- One question is allowed, and both kinds of answers lead to an end. -/
theorem keeps_request {question : Q}
    {ends : List (Exchange Q A ε) → Except ε (A question) → Prop}
    {history : List (Exchange Q A ε)}
    : (request question).Keeps allowed ends history
      ↔ allowed history question
        ∧ ∀ answer, ends (history ++ [⟨question, answer⟩]) answer := by
  refine and_congr_right fun _ => forall_congr' fun answer => ?_
  cases answer <;> rfl

/-- Nothing is asked for what is computed. -/
theorem keeps_ofExcept {result : Except ε α} {history : List (Exchange Q A ε)}
    : (ofExcept result).Keeps allowed ends history ↔ ends history result := by
  cases result <;> rfl

/-- A question before other things: it is allowed, an error is an end, and the rest keeps what is
required behind every answer.
-/
theorem keeps_request_bind {question : Q} {next : A question → Dialogue Q A ε α}
    {history : List (Exchange Q A ε)}
    : (request question >>= next).Keeps allowed ends history
      ↔ allowed history question
        ∧ (∀ error, ends (history ++ [⟨question, .error error⟩]) (.error error))
        ∧ ∀ answer,
            (next answer).Keeps allowed ends (history ++ [⟨question, .ok answer⟩]) := by
  rw [keeps_bind, keeps_request]
  refine and_congr_right fun _ => ⟨fun answered => ?_, fun answered answer => ?_⟩
  · exact ⟨fun error => answered (.error error), fun answer => answered (.ok answer)⟩
  · cases answer with
    | ok value => exact answered.2 value
    | error error => exact answered.1 error

/-- What a program keeps holds of its run in any surroundings, by induction on the program. -/
theorem Keeps.run (surroundings : Surroundings Q A ε) {program : Dialogue Q A ε α}
    {history : List (Exchange Q A ε)} (justified : Justified allowed history)
    (keeps : program.Keeps allowed ends history)
    : Justified allowed (program.run surroundings history).1
      ∧ ends (program.run surroundings history).1 (program.run surroundings history).2 := by
  induction program generalizing history with
  | done value => exact ⟨justified, keeps⟩
  | fail error => exact ⟨justified, keeps⟩
  | ask question answered ih => exact ih _ (Throughout.append justified keeps.1) (keeps.2 _)

/-- The run of a program that goes on with the value of another is a run of the first, then of the
second, by induction on the first.
-/
theorem run_bind (surroundings : Surroundings Q A ε) (program : Dialogue Q A ε α)
    (next : α → Dialogue Q A ε β) (history : List (Exchange Q A ε))
    : (program >>= next).run surroundings history
      = onResult
          (fun value => (next value).run surroundings (program.run surroundings history).1)
          (fun error => ((program.run surroundings history).1, .error error))
          (program.run surroundings history).2 := by
  induction program generalizing history with
  | done value => rfl
  | fail error => rfl
  | ask question answered ih => exact ih _ _

/-- The run of a program whose error is handled is its own run, then that of the handler, by
induction on the program.
-/
theorem run_tryCatch (surroundings : Surroundings Q A ε) (program : Dialogue Q A ε α)
    (handler : ε → Dialogue Q A ε α) (history : List (Exchange Q A ε))
    : (program.tryCatch handler).run surroundings history
      = onResult (fun value => ((program.run surroundings history).1, .ok value))
          (fun error => (handler error).run surroundings (program.run surroundings history).1)
          (program.run surroundings history).2 := by
  induction program generalizing history with
  | done value => rfl
  | fail error => rfl
  | ask question answered ih => exact ih _ _

/-- The run of a program whose end is a value never fails, by induction on the program. -/
theorem run_outcome (surroundings : Surroundings Q A ε) (program : Dialogue Q A ε α)
    (history : List (Exchange Q A ε))
    : program.outcome.run surroundings history
      = ((program.run surroundings history).1, .ok (program.run surroundings history).2) := by
  induction program generalizing history with
  | done value => rfl
  | fail error => rfl
  | ask question answered ih => exact ih _ _

/-- A run asks its first question, then goes on with the answer. -/
theorem run_request_bind (surroundings : Surroundings Q A ε) (question : Q)
    (next : A question → Dialogue Q A ε α) (history : List (Exchange Q A ε))
    : (request question >>= next).run surroundings history
      = onResult
          (fun answer =>
            (next answer).run surroundings (history ++ [⟨question, .ok answer⟩]))
          (fun error => (history ++ [⟨question, .error error⟩], .error error))
          (surroundings history question) := by
  rw [run_bind, request, run]
  cases surroundings history question <;> rfl

/-- A run goes on from the history that it starts with, by induction on the program. -/
theorem history_prefix_run (surroundings : Surroundings Q A ε) (program : Dialogue Q A ε α)
    (history : List (Exchange Q A ε))
    : history <+: (program.run surroundings history).1 := by
  induction program generalizing history with
  | done value => exact List.prefix_refl history
  | fail error => exact List.prefix_refl history
  | ask question answered ih => exact (List.prefix_append history _).trans (ih _ _)

end Dialogue

end Axionvera.Foundation
