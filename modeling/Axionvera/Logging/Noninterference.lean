import Axionvera.Logging.RedactedTexts

/-! Two calls that differ in secrets only, and when all that is handed to the sinks is the same.
What CloudWatch gets is not redacted, nor are texts within other values.
-/

namespace Axionvera.Logging

open Axionvera.Foundation

-----------------------------------------------------------------------------------------
-- Values that differ in secrets only
-----------------------------------------------------------------------------------------

/-- Two texts that differ in what the patterns find only. -/
def textsDiffer (left right : String) : Prop :=
  SameButSecrets redactionPatterns left.toList right.toList

/-- Two stacks are missing, or differ in secrets only. -/
def stacksDiffer : Option String → Option String → Prop
  | none, none => True
  | some left, some right => textsDiffer left right
  | _, _ => False

mutual

/-- Two values of the same shape that differ in secrets only. -/
def differInSecrets : LogValue → LogValue → Prop
  | .text left, .text right => textsDiffer left right
  | .array left, .array right => itemsDiffer left right
  | .object left, .object right => fieldsDiffer left right
  | .error name message stack properties, .error otherName otherMessage otherStack others =>
      textsDiffer name otherName
      ∧ textsDiffer message otherMessage
      ∧ stacksDiffer stack otherStack
      ∧ fieldsDiffer properties others
  | .undefined, .undefined | .null, .null => True
  | .boolean left, .boolean right => left = right
  | .number left, .number right => left = right
  | .bigint left, .bigint right => left = right
  | _, _ => False

/-- Lists whose items differ in secrets only. -/
def itemsDiffer : List LogValue → List LogValue → Prop
  | [], [] => True
  | left :: lefts, right :: rights => differInSecrets left right ∧ itemsDiffer lefts rights
  | _, _ => False

/-- Properties under the same keys. Under a sensitive key values can differ in any way. -/
def fieldsDiffer : List (String × LogValue) → List (String × LogValue) → Prop
  | [], [] => True
  | (key, left) :: lefts, (other, right) :: rights =>
      key = other
      ∧ (isSensitive key = true ∨ differInSecrets left right)
      ∧ fieldsDiffer lefts rights
  | _, _ => False

end

-----------------------------------------------------------------------------------------
-- Differences that redaction removes
-----------------------------------------------------------------------------------------

mutual

/-- The differences are where they are redacted. Texts outside all objects can differ as long as
they are alike, also messages and stacks of errors; texts within objects are the same, and so are
names of errors.
-/
def redactedAlike (isOuter : Bool) : LogValue → LogValue → Prop
  | .text left, .text right => if isOuter then textsAlike left right else left = right
  | .array left, .array right => itemsRedactedAlike left right
  | .object left, .object right => fieldsRedactedAlike [] left right
  | .error name message stack properties, .error otherName otherMessage otherStack others =>
      name = otherName
      ∧ textsAlike message otherMessage
      ∧ stacksAlike stack otherStack
      ∧ fieldsRedactedAlike ownErrorKeys properties others
  | left, right => left = right

/-- The differences between items are where they are redacted. -/
def itemsRedactedAlike : List LogValue → List LogValue → Prop
  | left :: lefts, right :: rights =>
      redactedAlike false left right ∧ itemsRedactedAlike lefts rights
  | lefts, rights => lefts = rights

/-- The differences between properties are under keys that are skipped or sensitive, in values that
are ignored, or where they are redacted.
-/
def fieldsRedactedAlike (skipped : List String)
    : List (String × LogValue) → List (String × LogValue) → Prop
  | (key, left) :: lefts, (_, right) :: rights =>
      (key ∈ skipped
        ∨ isSensitive key = true
        ∨ isIgnored key left = true
        ∨ redactedAlike false left right)
      ∧ fieldsRedactedAlike skipped lefts rights
  | lefts, rights => lefts = rights

end

/-- Values that differ in secrets have the same shape, by cases on both. -/
theorem shape_of_differInSecrets {left right : LogValue} (differ : differInSecrets left right)
    (key : String)
    : left.isObject = right.isObject ∧ isIgnored key left = isIgnored key right := by
  cases left <;> cases right <;> first
    | exact ⟨rfl, rfl⟩
    | simp [differInSecrets] at differ

/-- Inside another value it does not matter for an object that it is inside. -/
theorem redactedAlike_isOuter {left right : LogValue} (isObject : left.isObject = true)
    (isOuter : Bool)
    : redactedAlike isOuter left right ↔ redactedAlike true left right := by
  cases left <;> cases right <;> first
    | (simp [redactedAlike]; done)
    | cases isObject

/-- What redaction leaves within another value is the same exactly when the values differ where they
are redacted, if that is so for objects.
-/
theorem nested_eq_iff {left right : LogValue} (differ : differInSecrets left right)
    (outer : redactValue left = redactValue right ↔ redactedAlike true left right)
    : ((if left.isObject then redactValue left else left)
        = (if right.isObject then redactValue right else right))
      ↔ redactedAlike false left right := by
  rw [← (shape_of_differInSecrets differ "").1]
  by_cases isObject : left.isObject = true
  · rw [if_pos isObject, if_pos isObject, outer, redactedAlike_isOuter isObject false]
  · rw [if_neg isObject, if_neg isObject]
    cases left <;> cases right <;> first
      | exact absurd rfl isObject
      | simp [redactedAlike]

mutual

/-- Redaction leaves the same exactly when values differ where they are redacted, by induction on
the first.
-/
theorem redactValue_eq_iff
    : (left right : LogValue) → differInSecrets left right
      → (redactValue left = redactValue right ↔ redactedAlike true left right)
  | .text left, .text right, _ => by simp [redactValue, redactedAlike, redactText_eq_iff]
  | .array left, .array right, differ => by
      simp only [redactValue, redactedAlike, LogValue.array.injEq]
      exact redactItems_eq_iff left right differ
  | .object left, .object right, differ => by
      simp only [redactValue, redactedAlike, LogValue.object.injEq]
      exact redactFields_eq_iff [] left right differ
  | .error name message stack properties, .error otherName otherMessage otherStack others,
    differ => by
      simp only [redactValue, redactedAlike, LogValue.object.injEq, List.cons.injEq, Prod.mk.injEq,
        LogValue.text.injEq, true_and, redactText_eq_iff, redactStack_eq_iff]
      rw [redactFields_eq_iff ownErrorKeys properties others differ.2.2.2]
  | .undefined, .undefined, _ => by simp [redactValue, redactedAlike]
  | .null, .null, _ => by simp [redactValue, redactedAlike]
  | .boolean left, .boolean right, _ => by simp [redactValue, redactedAlike]
  | .number left, .number right, _ => by simp [redactValue, redactedAlike]
  | .bigint left, .bigint right, _ => by simp [redactValue, redactedAlike]

/-- The items of an array, by induction on the first list. -/
theorem redactItems_eq_iff
    : (lefts rights : List LogValue) → itemsDiffer lefts rights
      → (redactItems lefts = redactItems rights ↔ itemsRedactedAlike lefts rights)
  | [], [], _ => by simp [redactItems, itemsRedactedAlike]
  | left :: lefts, right :: rights, differ => by
      obtain ⟨first, rest⟩ := differ
      simp only [redactItems, itemsRedactedAlike, List.cons.injEq]
      rw [nested_eq_iff first (redactValue_eq_iff left right first),
        redactItems_eq_iff lefts rights rest]

/-- The properties of an object, by induction on the first list. -/
theorem redactFields_eq_iff (skipped : List String)
    : (lefts rights : List (String × LogValue)) → fieldsDiffer lefts rights
      → (redactFields skipped lefts = redactFields skipped rights
        ↔ fieldsRedactedAlike skipped lefts rights)
  | [], [], _ => by simp [redactFields, fieldsRedactedAlike]
  | (key, left) :: lefts, (other, right) :: rights, differ => by
      obtain ⟨rfl, first, rest⟩ := differ
      have later := redactFields_eq_iff skipped lefts rights rest
      simp only [redactFields, fieldsRedactedAlike]
      by_cases isSkipped : key ∈ skipped
      · simp [isSkipped, later]
      · by_cases sensitive : isSensitive key = true
        · simp [isSkipped, sensitive, later]
        · have values := first.resolve_left sensitive
          rw [← (shape_of_differInSecrets values key).2]
          by_cases ignored : isIgnored key left = true
          · simp [isSkipped, sensitive, ignored, later]
          · have nested := nested_eq_iff values (redactValue_eq_iff left right values)
            simp only [isSkipped, sensitive, ignored, if_false, List.cons.injEq, Prod.mk.injEq,
              true_and, false_or, nested, later, Bool.false_eq_true]

end

-----------------------------------------------------------------------------------------
-- Calls
-----------------------------------------------------------------------------------------

/-- What is logged: a message and further arguments. -/
structure LogCall where
  message : String
  args : List LogValue

/-- Two calls that differ in secrets only. -/
def LogCall.differ (call other : LogCall) : Prop :=
  textsDiffer call.message other.message ∧ itemsDiffer call.args other.args

/-- The differences between the messages and between the arguments are where they are redacted. -/
def LogCall.redactedAlike (call other : LogCall) : Prop :=
  textsAlike call.message other.message
  ∧ List.Forall₂ (Logging.redactedAlike true) call.args other.args

/-- Everything that a logger hands to sinks is the same for both calls. -/
def LogCall.handedAlike (call other : LogCall) (logger : Logger) (now : Int) (level : CallLevel)
    : Prop :=
  logger.logWithCloudWatch now level call.message call.args
    = logger.logWithCloudWatch now level other.message other.args

/-- The arguments of a call are redacted one by one. -/
theorem map_redactValue_eq_iff
    : (lefts rights : List LogValue) → itemsDiffer lefts rights
      → (lefts.map redactValue = rights.map redactValue
        ↔ List.Forall₂ (redactedAlike true) lefts rights)
  | [], [], _ => by simp
  | left :: lefts, right :: rights, differ => by
      rw [List.map_cons, List.map_cons, List.cons.injEq, List.forall₂_cons,
        redactValue_eq_iff left right differ.1, map_redactValue_eq_iff lefts rights differ.2]

/-- The line for the console says the message. -/
theorem consoleLine_eq_iff {level : CallLevel} {left right : String}
    : "[Axionvera][" ++ level.text ++ "] " ++ left = "[Axionvera][" ++ level.text ++ "] " ++ right
      ↔ left = right :=
  String.append_right_inj _

/-- What CloudWatch gets is the same exactly when the calls are. -/
theorem sendToCloudWatch_eq_iff {logger : Logger} {now : Int} {level : CallLevel}
    {call other : LogCall}
    : logger.sendToCloudWatch now level call.message
          (if call.args.length > 0 then some call.args else none)
        = logger.sendToCloudWatch now level other.message
          (if other.args.length > 0 then some other.args else none)
      ↔ (logger.cloudWatchLogger = true → call = other) := by
  unfold Logger.sendToCloudWatch
  obtain ⟨message, args⟩ := call
  obtain ⟨otherMessage, others⟩ := other
  by_cases configured : logger.cloudWatchLogger = true
  · cases args <;> cases others <;> simp [configured]
  · simp [configured]

/-- Calls that are logged hand the same to all sinks exactly when their differences are where they
are redacted and CloudWatch, if there is one, finds none.
-/
theorem handedAlike_iff_of_shouldLog {logger : Logger} {now : Int} {level : CallLevel}
    {call other : LogCall} (differ : call.differ other)
    (logged : logger.shouldLog level.level = true)
    : call.handedAlike other logger now level
      ↔ call.redactedAlike other ∧ (logger.cloudWatchLogger = true → call = other) := by
  have first
      : ((if logger.customLogger
            then .custom level (redactText call.message) (call.args.map redactValue)
            else
              Handed.console level ("[Axionvera][" ++ level.text ++ "] " ++ redactText call.message)
                (call.args.map redactValue))
          = (if logger.customLogger
            then .custom level (redactText other.message) (other.args.map redactValue)
            else
              Handed.console level
                ("[Axionvera][" ++ level.text ++ "] " ++ redactText other.message)
                (other.args.map redactValue)))
        ↔ call.redactedAlike other := by
    rw [LogCall.redactedAlike, ← redactText_eq_iff, ← map_redactValue_eq_iff _ _ differ.2]
    by_cases custom : logger.customLogger = true
    · simp [custom]
    · simp only [custom, if_false, Handed.console.injEq, consoleLine_eq_iff, true_and,
        Bool.false_eq_true]
  unfold LogCall.handedAlike Logger.logWithCloudWatch
  simp only [logged, if_true, List.cons.injEq, first, sendToCloudWatch_eq_iff]

/-- Two calls that differ in secrets hand the same to all sinks exactly when nothing is logged, or
their differences are where they are redacted and CloudWatch, if there is one, finds none. Witness:
the redaction of the values, sink by sink.
-/
theorem handedAlike_iff (logger : Logger) (now : Int) (level : CallLevel) {call other : LogCall}
    (differ : call.differ other)
    : call.handedAlike other logger now level
      ↔ logger.shouldLog level.level = false
        ∨ call.redactedAlike other ∧ (logger.cloudWatchLogger = true → call = other) := by
  cases logged : logger.shouldLog level.level with
  | true => simp [handedAlike_iff_of_shouldLog differ logged]
  | false => simp [LogCall.handedAlike, Logger.logWithCloudWatch, logged]

/-- Tokens are found as secrets. -/
private theorem bearer_textsDiffer : textsDiffer "Bearer abc" "Bearer xyz" := by
  have found
      : bearerPattern.find "Bearer abc".toList
        = some ⟨"Bearer".toList, " ".toList, "abc".toList, []⟩ := by decide
  have other
      : bearerPattern.find "Bearer xyz".toList
        = some ⟨"Bearer".toList, " ".toList, "xyz".toList, []⟩ := by decide
  refine .secret List.mem_cons_self found other rfl rfl ?_
  simpa [FoundSecret.throughSecret] using SameButSecrets.nil

/-- Passwords are found as secrets. -/
private theorem password_textsDiffer : textsDiffer "password=abc" "password=xyz" := by
  have found
      : assignmentPattern.find "password=abc".toList
        = some ⟨"password".toList, "=".toList, "abc".toList, []⟩ := by decide
  have other
      : assignmentPattern.find "password=xyz".toList
        = some ⟨"password".toList, "=".toList, "xyz".toList, []⟩ := by decide
  refine .secret (List.mem_cons_of_mem _ List.mem_cons_self) found other rfl rfl ?_
  simpa [FoundSecret.throughSecret] using SameButSecrets.nil

/-- A text in the message and a password in an object. -/
private def withSecrets (message password : String) : LogCall :=
  { message := message, args := [.object [("user", .text "a"), ("password", .text password)]] }

/-- Calls with other secrets look the same on the console. -/
theorem handedAlike_of_console
    : (withSecrets "Bearer abc" "x").handedAlike (withSecrets "Bearer xyz" "y")
        { level := .info, customLogger := false, cloudWatchLogger := false } 0 .info := by
  have differ : (withSecrets "Bearer abc" "x").differ (withSecrets "Bearer xyz" "y") :=
    ⟨bearer_textsDiffer, ⟨⟨rfl, .inr (.refl _), rfl, .inl (by decide), trivial⟩, trivial⟩⟩
  have messages : textsAlike "Bearer abc" "Bearer xyz" := redactText_eq_iff.mp (by decide)
  refine (handedAlike_iff _ 0 .info differ).mpr (.inr ⟨⟨messages, .cons ?_ .nil⟩, nofun⟩)
  exact ⟨.inr (.inr (.inr rfl)), .inr (.inl (by decide)), rfl⟩

/-- A header within an object. -/
private def withHeader (header : String) : LogCall :=
  { message := "request", args := [.object [("header", .text header)]] }

/-- A message without arguments. -/
private def onlyMessage (message : String) : LogCall :=
  { message := message, args := [] }

/-- A token within an object is handed to the console as it is, and CloudWatch gets a message as it
is.
-/
theorem not_handedAlike_of_header_of_cloudWatch
    : ((withHeader "Bearer abc").differ (withHeader "Bearer xyz")
        ∧ ¬(withHeader "Bearer abc").handedAlike (withHeader "Bearer xyz")
          { level := .info, customLogger := false, cloudWatchLogger := false } 0 .info)
      ∧ (onlyMessage "password=abc").differ (onlyMessage "password=xyz")
        ∧ ¬(onlyMessage "password=abc").handedAlike (onlyMessage "password=xyz")
          { level := .info, customLogger := false, cloudWatchLogger := true } 0 .info := by
  have headers : (withHeader "Bearer abc").differ (withHeader "Bearer xyz") :=
    ⟨.refl _, ⟨⟨rfl, .inr bearer_textsDiffer, trivial⟩, trivial⟩⟩
  have passwords : (onlyMessage "password=abc").differ (onlyMessage "password=xyz") :=
    ⟨password_textsDiffer, trivial⟩
  refine ⟨⟨headers, fun alike => ?_⟩, passwords, fun alike => ?_⟩
  · have condition := (handedAlike_iff_of_shouldLog headers rfl).mp alike
    cases condition.1.2 with
    | cons first _ =>
        have sameHeader := first.1
        simp only [redactedAlike, Bool.false_eq_true, if_false] at sameHeader
        revert sameHeader
        decide
  · have condition := (handedAlike_iff_of_shouldLog passwords rfl).mp alike
    have sameMessage := congrArg LogCall.message (condition.2 rfl)
    revert sameMessage
    decide

end Axionvera.Logging
