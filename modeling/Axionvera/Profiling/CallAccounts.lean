import Axionvera.Profiling.ProfilingService

/-! Every call that began while profiling was on, and whose end can be described, is recorded once,
with its own data, whatever else goes on.
-/

namespace Axionvera.Profiling

open Axionvera.Foundation

variable {ω ρ : Type} {printed : JsNumber → String}

/-- What is recorded as the message of a call. -/
def messageOf (printed : JsNumber → String) : Except ThrownValue ρ → Option String
  | .ok _ => none
  | .error error => (errorMessage printed error).toOption

/-- The metric is that of a call with these variables and this outcome. -/
structure Describes (printed : JsNumber → String) (frame : ProfileFrame ω)
    (outcome : Except ThrownValue ρ) (metric : ProfiledCallMetric ω) : Prop where
  name : metric.name = frame.name
  type : metric.type = frame.options.type.getD .custom
  metadata : metric.metadata = frame.options.metadata
  startedAt : metric.startedAt = frame.startedAt
  success : metric.success = outcome.isOk
  message : metric.errorMessage = messageOf printed outcome

/-- The metrics are numbered in the order in which they were recorded, also across `clear`, which
leaves the later ones. They are those of the calls that were profiled and came to an end that can
be described, one for each.
-/
structure ProfiledRun.Accounts (printed : JsNumber → String) (run : ProfiledRun ω ρ) : Prop where
  numbered
    : run.recorded.map (fun entry => entry.2.id)
      = (List.range run.recorded.length).map (fun number => "profile-" ++ toString (number + 1))
  next : run.service.nextId = run.recorded.length + 1
  kept : run.service.metrics <:+ run.recorded.map Prod.snd
  once : (run.recorded.map Prod.fst).Nodup
  own
    : ∀ entry ∈ run.recorded,
        ∃ frame outcome,
          run.calls[entry.1]? = some (.ended (some frame) outcome)
          ∧ isDescribed printed outcome = true
          ∧ Describes printed frame outcome entry.2
  complete
    : ∀ call frame outcome,
        run.calls[call]? = some (.ended (some frame) outcome)
        → isDescribed printed outcome = true
        → call ∈ run.recorded.map Prod.fst

namespace ProfiledRun

/-- A new service has nothing to account for. -/
theorem accounts_new (enabled : Option Bool) (level : Option ProfilingLevel)
    : (ProfiledRun.new enabled level : ProfiledRun ω ρ).Accounts printed where
  numbered := rfl
  next := rfl
  kept := List.suffix_refl _
  once := List.nodup_nil
  own := fun _ member => absurd member List.not_mem_nil
  complete := fun _ _ _ found => by cases found

/-- Switching and clearing the service lets the accounts stand. -/
theorem Accounts.ofService {run : ProfiledRun ω ρ} (accounts : run.Accounts printed)
    {service : ProfilingService ω} (sameNext : service.nextId = run.service.nextId)
    (fewer : service.metrics <:+ run.service.metrics)
    : { run with service := service }.Accounts printed :=
  { accounts with
    next := sameNext.trans accounts.next
    kept := fewer.trans accounts.kept }

/-- So does a call that begins. -/
theorem Accounts.ofBegin {run : ProfiledRun ω ρ} (accounts : run.Accounts printed)
    (frame : Option (ProfileFrame ω))
    : { run with calls := run.calls ++ [ProfileCall.going frame] }.Accounts printed :=
  { accounts with
    own := by
      intro entry member
      obtain ⟨own, outcome, isEnded, rest⟩ := accounts.own entry member
      refine ⟨own, outcome, ?_, rest⟩
      have below := (List.getElem?_eq_some_iff.mp isEnded).1
      exact (List.getElem?_append_left below).trans isEnded
    complete := by
      intro call own outcome isEnded
      rcases Nat.lt_or_ge call run.calls.length with below | above
      · exact accounts.complete call own outcome
          ((List.getElem?_append_left below).symm.trans isEnded)
      · rw [List.getElem?_append_right above] at isEnded
        have member := List.mem_of_getElem? isEnded
        cases List.mem_singleton.mp member }

/-- A call that goes on is not recorded. -/
theorem Accounts.notRecorded {run : ProfiledRun ω ρ} (accounts : run.Accounts printed) {call : Nat}
    {frame : Option (ProfileFrame ω)} (going : run.calls[call]? = some (.going frame))
    : call ∉ run.recorded.map Prod.fst := by
  intro member
  obtain ⟨entry, isEntry, rfl⟩ := List.mem_map.mp member
  obtain ⟨own, outcome, isEnded, _⟩ := accounts.own entry isEntry
  cases going.symm.trans isEnded

/-- The end of one call leaves the other calls as they are. -/
theorem getElem?_set_of_ne {run : ProfiledRun ω ρ} {call other : Nat} (differs : other ≠ call)
    (next : ProfileCall ω ρ)
    : (run.calls.set call next)[other]? = run.calls[other]? :=
  List.getElem?_set_ne differs.symm

/-- The accounts stand when a call ends that is not to be recorded. -/
theorem Accounts.ofUnrecorded {run : ProfiledRun ω ρ} (accounts : run.Accounts printed) {call : Nat}
    {frame : Option (ProfileFrame ω)} (going : run.calls[call]? = some (.going frame))
    {outcome : Except ThrownValue ρ}
    (unrecorded : frame = none ∨ isDescribed printed outcome = false)
    : { run with calls := run.calls.set call (ProfileCall.ended frame outcome) }.Accounts
        printed :=
  { accounts with
    own := by
      intro entry member
      obtain ⟨own, other, isEnded, rest⟩ := accounts.own entry member
      have differs : entry.1 ≠ call := by
        intro same
        cases (same ▸ going).symm.trans isEnded
      exact ⟨own, other, (getElem?_set_of_ne differs _).trans isEnded, rest⟩
    complete := by
      intro other own otherOutcome isEnded described
      by_cases same : other = call
      · subst same
        have below := (List.getElem?_eq_some_iff.mp going).1
        rw [List.getElem?_set_self below] at isEnded
        obtain ⟨rfl, rfl⟩ := ProfileCall.ended.inj (Option.some.inj isEnded)
        rcases unrecorded with isNone | undescribed
        · cases isNone
        · cases undescribed.symm.trans described
      · exact accounts.complete other own otherOutcome
          ((getElem?_set_of_ne same _).symm.trans isEnded) described }

/-- The accounts stand when a call ends and is recorded. -/
theorem Accounts.ofRecorded {run : ProfiledRun ω ρ} (accounts : run.Accounts printed) {call : Nat}
    {frame : ProfileFrame ω} (going : run.calls[call]? = some (.going (some frame)))
    {outcome : Except ThrownValue ρ} (described : isDescribed printed outcome = true)
    {success : Bool} {message : Option String} (isSuccess : success = outcome.isOk)
    (isMessage : message = messageOf printed outcome) (reading : Reading)
    : ({ run with calls := run.calls.set call (ProfileCall.ended (some frame) outcome) }.record call
        frame
        success message reading).Accounts printed where
  numbered := by
    have before := accounts.numbered
    simp only [record, ProfilingService.metric, List.map_append, List.map_cons, List.map_nil,
      List.length_append, List.length_singleton, List.range_succ, before, accounts.next]
  next := by
    simp [record, ProfilingService.record, accounts.next]
  kept := by
    simp only [record, ProfilingService.record, List.map_append, List.map_cons, List.map_nil]
    obtain ⟨front, whole⟩ := accounts.kept
    exact ⟨front, by rw [← whole, List.append_assoc]⟩
  once := by
    simp only [record, List.map_append, List.map_cons, List.map_nil]
    rw [← List.concat_eq_append]
    exact accounts.once.concat (accounts.notRecorded going)
  own := by
    have below := (List.getElem?_eq_some_iff.mp going).1
    intro entry member
    rcases List.mem_append.mp member with old | new
    · obtain ⟨own, other, isEnded, rest⟩ := accounts.own entry old
      have differs : entry.1 ≠ call := by
        intro same
        cases (same ▸ going).symm.trans isEnded
      exact ⟨own, other, (getElem?_set_of_ne differs _).trans isEnded, rest⟩
    · obtain rfl := List.mem_singleton.mp new
      exact ⟨frame, outcome, List.getElem?_set_self below, described, rfl, rfl, rfl, rfl,
        isSuccess, isMessage⟩
  complete := by
    intro other own otherOutcome isEnded isOther
    simp only [record, List.map_append, List.map_cons, List.map_nil, List.mem_append,
      List.mem_singleton]
    by_cases same : other = call
    · exact .inr same
    · exact .inl (accounts.complete other own otherOutcome
        ((getElem?_set_of_ne same _).symm.trans isEnded) isOther)

/-- Every event lets the accounts stand. -/
theorem Accounts.step {run next : ProfiledRun ω ρ} {event : ProfilingEvent ω ρ}
    (taken : run.step printed event = some next) (accounts : run.Accounts printed)
    : next.Accounts printed := by
  cases event with
  | enable level =>
      obtain rfl := Option.some.inj taken
      exact accounts.ofService rfl (List.suffix_refl _)
  | disable =>
      obtain rfl := Option.some.inj taken
      exact accounts.ofService rfl (List.suffix_refl _)
  | clear =>
      obtain rfl := Option.some.inj taken
      exact accounts.ofService rfl List.nil_suffix
  | begin name options reading =>
      obtain rfl := Option.some.inj taken
      exact accounts.ofBegin _
  | settle call outcome reading =>
      simp only [ProfiledRun.step] at taken
      cases found : run.calls[call]? with
      | none =>
          rw [found] at taken
          cases taken
      | some current =>
          rw [found] at taken
          cases current with
          | ended frame earlier => cases taken
          | going frame =>
              cases frame with
              | none =>
                  obtain rfl := Option.some.inj taken
                  exact accounts.ofUnrecorded found (.inl rfl)
              | some frame =>
                  obtain rfl := Option.some.inj taken
                  cases outcome with
                  | ok result => exact accounts.ofRecorded found rfl rfl rfl reading
                  | error error =>
                      simp only [settled]
                      cases described : errorMessage printed error with
                      | ok message =>
                          have isOk
                              : isDescribed printed (.error error : Except ThrownValue ρ)
                                = true := by
                            simp [isDescribed, described, Except.isOk, Except.toBool]
                          have isMessage
                              : some message
                                = messageOf printed (.error error : Except ThrownValue ρ) := by
                            simp [messageOf, described, Except.toOption]
                          exact accounts.ofRecorded found isOk rfl isMessage reading
                      | error thrown =>
                          refine accounts.ofUnrecorded found (.inr ?_)
                          simp [isDescribed, described, Except.isOk, Except.toBool]

/-- The variables of a call never change, and calls are only added. -/
theorem frames_step {run next : ProfiledRun ω ρ} {event : ProfilingEvent ω ρ}
    (taken : run.step printed event = some next)
    : run.calls.map ProfileCall.frame <+: next.calls.map ProfileCall.frame := by
  cases event with
  | enable level =>
      obtain rfl := Option.some.inj taken
      exact List.prefix_refl _
  | disable =>
      obtain rfl := Option.some.inj taken
      exact List.prefix_refl _
  | clear =>
      obtain rfl := Option.some.inj taken
      exact List.prefix_refl _
  | begin name options reading =>
      obtain rfl := Option.some.inj taken
      rw [List.map_append]
      exact List.prefix_append _ _
  | settle call outcome reading =>
      simp only [ProfiledRun.step] at taken
      cases found : run.calls[call]? with
      | none =>
          rw [found] at taken
          cases taken
      | some current =>
          rw [found] at taken
          cases current with
          | ended frame earlier => cases taken
          | going frame =>
              have same
                  : (run.calls.set call (.ended frame outcome)).map ProfileCall.frame
                    = run.calls.map ProfileCall.frame := by
                have isFrame : (run.calls.map ProfileCall.frame)[call]? = some frame := by
                  rw [List.getElem?_map, found]
                  rfl
                obtain ⟨below, isThere⟩ := List.getElem?_eq_some_iff.mp isFrame
                rw [List.map_set, ProfileCall.frame, ← isThere]
                exact List.set_getElem_self below
              have isNext
                  : next.calls = run.calls.set call (.ended frame outcome) := by
                cases frame with
                | none =>
                    obtain rfl := Option.some.inj taken
                    rfl
                | some frame =>
                    obtain rfl := Option.some.inj taken
                    unfold settled
                    split
                    · rfl
                    · split
                      · rfl
                      · rfl
              rw [isNext, same]

end ProfiledRun

/-- In every run of a service, every call that began while profiling was on is recorded once it
ends in a way that can be described, also if profiling is switched off meanwhile; no other call is
recorded, also if profiling is switched on meanwhile. The metric of a call has its own name, type,
metadata, start and outcome, however the calls overlap, and the metrics that are kept are the
latest ones, numbered from one on in the order in which they were recorded.
-/
theorem profiled_calls_are_recorded_once (printed : JsNumber → String) (enabled : Option Bool)
    (level : Option ProfilingLevel) {events : List (ProfilingEvent ω ρ)} {final : ProfiledRun ω ρ}
    (reached : run (ProfiledRun.step printed) (.new enabled level) events = some final)
    : final.Accounts printed
      ∧ ∀ front name options reading back,
          events = front ++ .begin name options reading :: back
          → ∃ middle,
              run (ProfiledRun.step printed) (.new enabled level) front = some middle
              ∧ (final.calls[middle.calls.length]?).map ProfileCall.frame
                = some (middle.service.frame name options reading) := by
  constructor
  · exact run_preserves (fun _ _ _ taken accounts => accounts.step taken)
      (ProfiledRun.accounts_new enabled level) reached
  · rintro front name options reading back rfl
    rw [run_append] at reached
    obtain ⟨middle, isMiddle, later⟩ := Option.bind_eq_some_iff.mp reached
    refine ⟨middle, isMiddle, ?_⟩
    obtain ⟨next, taken, onwards⟩ := run_cons_iff.mp later
    obtain rfl := Option.some.inj taken
    let begun := middle.calls ++ [ProfileCall.going (middle.service.frame name options reading)]
    have keeps (state : ProfiledRun ω ρ) (event : ProfilingEvent ω ρ) (after : ProfiledRun ω ρ)
        (taken : state.step printed event = some after)
        (before : begun.map ProfileCall.frame <+: state.calls.map ProfileCall.frame)
        : begun.map ProfileCall.frame <+: after.calls.map ProfileCall.frame :=
      before.trans (ProfiledRun.frames_step taken)
    obtain ⟨more, whole⟩ := run_preserves keeps (List.prefix_refl _) onwards
    rw [← List.getElem?_map, ← whole, List.map_append, List.append_assoc,
      List.getElem?_append_right (by simp)]
    simp [ProfileCall.frame]

/-- Two calls: profiling is switched on after the first began, and off before either ends. -/
def switchedCalls : List (ProfilingEvent Empty Nat) :=
  let options : ProfileOptions Empty := ⟨none, none⟩
  let reading : Reading := ⟨"", .finite 0, none⟩
  [
    .begin "first" options reading,
    .enable .basic,
    .begin "second" options reading,
    .disable,
    .settle 1 (.error (.text "down")) reading,
    .settle 0 (.ok 42) reading
  ]

/-- The second is recorded. -/
theorem profiled_calls_are_recorded_once_switched
    : ∃ final : ProfiledRun Empty Nat,
        run (ProfiledRun.step fun _ => "") (.new none none) switchedCalls = some final
        ∧ final.Accounts (fun _ => "")
        ∧ final.recorded.map Prod.fst = [1] := by
  obtain ⟨final, reached⟩
      : ∃ final : ProfiledRun Empty Nat,
          run (ProfiledRun.step fun _ => "") (.new none none) switchedCalls = some final :=
    Option.isSome_iff_exists.mp rfl
  refine ⟨final, reached, (profiled_calls_are_recorded_once _ none none reached).1, ?_⟩
  obtain rfl := Option.some.inj reached
  rfl

end Axionvera.Profiling
