import Axionvera.React.VaultHook
import Mathlib.Data.List.Perm.Subperm

/-! What `useVault` shows of its calls, and what `onSuccess` is told: while at most one call goes
on, and when calls overlap.
-/

namespace Axionvera.React

open Axionvera.Foundation

variable {ε : Type} {hook next : VaultHook ε} {event : HookEvent ε}

-----------------------------------------------------------------------------------------
-- One event
-----------------------------------------------------------------------------------------

/-- (Advances hook next event) requires a call to go on, and no other one. -/
def Advances (hook next : VaultHook ε) (event : HookEvent ε) : Prop :=
  ∃ number callEvent atOnce before did,
    event = .call number callEvent atOnce
    ∧ hook.calls[number]? = some before
    ∧ Continues before callEvent did
    ∧ next.pending = hook.pending.after did.updates
    ∧ next.calls = hook.calls.set number did.next
    ∧ next.notified = hook.notified ++ did.told.toList

/-- An event begins a call, resets what was set, renders it, or has a call go on. -/
theorem step_cases (taken : hook.step event = some next)
    : ((∃ atOnce, event = .begin atOnce)
        ∧ next.pending = ExecuteCall.acting.view
        ∧ next.calls = hook.calls ++ [.acting]
        ∧ next.notified = hook.notified)
      ∨ ((∃ atOnce, event = .reset atOnce)
        ∧ next.pending = .initial
        ∧ next.calls = hook.calls
        ∧ next.notified = hook.notified)
      ∨ (event = .render ∧ next = { hook with shown := hook.pending })
      ∨ Advances hook next event := by
  cases event with
  | begin atOnce =>
      obtain rfl := Option.some.inj taken
      refine .inl ⟨⟨atOnce, rfl⟩, ?_, VaultHook.calls_setAll .., VaultHook.notified_setAll ..⟩
      rw [VaultHook.pending_setAll]
      rfl
  | reset atOnce =>
      obtain rfl := Option.some.inj taken
      refine .inr (.inl ⟨⟨atOnce, rfl⟩, ?_, VaultHook.calls_setAll .., ?_⟩)
      · rw [VaultHook.pending_setAll]
        rfl
      · exact VaultHook.notified_setAll ..
  | render => exact .inr (.inr (.inl ⟨rfl, (Option.some.inj taken).symm⟩))
  | call number event atOnce =>
      simp only [VaultHook.step, Option.bind_eq_bind, Option.bind_eq_some_iff, Option.pure_def,
        Option.some.injEq] at taken
      obtain ⟨before, isCall, did, isDone, rfl⟩ := taken
      refine .inr (.inr (.inr ⟨number, event, atOnce, before, did, rfl, isCall,
        continues_of_step isDone, ?_⟩))
      exact ⟨VaultHook.pending_setAll .., VaultHook.calls_setAll .., VaultHook.notified_setAll ..⟩

-----------------------------------------------------------------------------------------
-- One call at a time
-----------------------------------------------------------------------------------------

/-- The event is one that a user causes. -/
def HookEvent.isCaused : HookEvent ε → Bool
  | .begin _ | .reset _ => true
  | .call _ _ _ | .render => false

/-- (IsGuarded hook event) requires calls to begin, and what was set to be reset, only while no call
goes on.
-/
def IsGuarded (hook : VaultHook ε) (event : HookEvent ε) : Prop :=
  event.isCaused = true → ∀ call ∈ hook.calls, call.isSettled = true

instance (hook : VaultHook ε) (event : HookEvent ε) : Decidable (IsGuarded hook event) :=
  inferInstanceAs (Decidable (_ → _))

/-- The state of the last call, if there is one. -/
def lastView (calls : List (ExecuteCall ε)) : UseVaultState ε :=
  (calls.getLast?.map ExecuteCall.view).getD .initial

/-- (IsOfLastCall state calls) requires all calls but the last one to have come to an end, and the
state to be that of the last one, unless it has come to an end as well and the state was reset.
-/
structure IsOfLastCall (state : UseVaultState ε) (calls : List (ExecuteCall ε)) : Prop where
  others : ∀ call ∈ calls.dropLast, call.isSettled = true
  last
    : state = lastView calls
      ∨ (state = .initial ∧ ∀ call ∈ calls, call.isSettled = true)

/-- The last of several calls. -/
theorem lastView_concat (earlier : List (ExecuteCall ε)) (last : ExecuteCall ε)
    : lastView (earlier ++ [last]) = last.view := by
  rw [lastView, List.getLast?_concat]
  rfl

/-- A state of the last call is loading exactly while a call goes on. -/
theorem IsOfLastCall.isLoading_iff {state : UseVaultState ε} {calls : List (ExecuteCall ε)}
    (isOf : IsOfLastCall state calls)
    : state.isLoading = false ↔ ∀ call ∈ calls, call.isSettled = true := by
  obtain ⟨others, rfl | ⟨rfl, settled⟩⟩ := isOf
  · rcases List.eq_nil_or_concat' calls with rfl | ⟨earlier, last, rfl⟩
    · exact iff_of_true rfl (List.forall_mem_nil _)
    · rw [List.dropLast_concat] at others
      rw [lastView_concat, ExecuteCall.view_isLoading, Bool.not_eq_false', List.forall_mem_append,
        and_iff_right others, List.forall_mem_singleton]
  · exact iff_of_true rfl settled

/-- A state of the last call has a confirmed hash only if it is that of the last call. -/
theorem IsOfLastCall.confirmed {state : UseVaultState ε} {calls : List (ExecuteCall ε)}
    (isOf : IsOfLastCall state calls) (isConfirmed : state.step = .confirmed)
    : ∃ earlier last hash,
        calls = earlier ++ [last]
        ∧ (last = .polled hash (.ok ()) ∨ last = .succeeded hash)
        ∧ state.txHash = some hash := by
  obtain ⟨-, rfl | ⟨rfl, -⟩⟩ := isOf
  · rcases List.eq_nil_or_concat' calls with rfl | ⟨earlier, last, rfl⟩
    · cases isConfirmed
    · rw [lastView_concat] at isConfirmed ⊢
      rcases last with _ | _ | _ | ⟨hash, _ | _⟩ | hash | _
      case polled.ok => exact ⟨earlier, _, hash, rfl, .inl rfl, rfl⟩
      case succeeded => exact ⟨earlier, _, hash, rfl, .inr rfl, rfl⟩
      all_goals cases isConfirmed
  · cases isConfirmed

/-- A call that goes on is the last one. -/
theorem IsOfLastCall.advance (isOf : IsOfLastCall hook.pending hook.calls)
    (advances : Advances hook next event)
    : IsOfLastCall next.pending next.calls := by
  obtain ⟨number, _, _, before, did, -, isCall, continues, pending, calls, -⟩ := advances
  obtain ⟨others, isView | ⟨-, settled⟩⟩ := isOf
  · rcases List.eq_nil_or_concat' hook.calls with none | ⟨earlier, last, split⟩
    · rw [none] at isCall
      cases isCall
    · rw [split, List.dropLast_concat] at others
      rw [split] at isCall calls
      have isLast : number = earlier.length := by
        obtain ⟨inRange, -⟩ := List.getElem?_eq_some_iff.mp isCall
        rw [List.length_append, List.length_singleton] at inRange
        by_contra isOther
        rw [List.getElem?_append_left (by omega)] at isCall
        have settled := others before (List.mem_of_getElem? isCall)
        exact Bool.false_ne_true (continues.running.symm.trans settled)
      subst isLast
      rw [List.getElem?_concat_length] at isCall
      obtain rfl := Option.some.inj isCall
      rw [List.set_append_right _ _ (le_refl _), Nat.sub_self, List.set_cons_zero] at calls
      rw [split, lastView_concat] at isView
      refine ⟨?_, .inl ?_⟩
      · rw [calls, List.dropLast_concat]
        exact others
      · rw [calls, lastView_concat, pending, isView, continues.view]
  · have isSettled := settled before (List.mem_of_getElem? isCall)
    exact absurd (continues.running.symm.trans isSettled) Bool.false_ne_true

/-- What was set is the state of the last call. -/
def FollowsLastCall (hook : VaultHook ε) : Prop :=
  IsOfLastCall hook.pending hook.calls

/-- What was set follows the last call. -/
theorem FollowsLastCall.step (isOf : FollowsLastCall hook) (guarded : IsGuarded hook event)
    (taken : hook.step event = some next)
    : FollowsLastCall next := by
  obtain ⟨⟨_, rfl⟩, pending, calls, -⟩ | ⟨⟨_, rfl⟩, pending, calls, -⟩ | ⟨rfl, rfl⟩ | advances :=
    step_cases taken
  · rw [FollowsLastCall, pending, calls]
    refine ⟨?_, .inl (lastView_concat _ _).symm⟩
    rw [List.dropLast_concat]
    exact guarded rfl
  · rw [FollowsLastCall, pending, calls]
    exact ⟨isOf.others, .inr ⟨rfl, guarded rfl⟩⟩
  · exact isOf
  · exact IsOfLastCall.advance isOf advances

/-- As long as calls begin and `reset` is called only while no call goes on, a hook of which all
that was set is rendered shows its last call, or nothing after a reset: it shows that it is loading
exactly while a call goes on, and a hash as confirmed only if it is that of the last call, which the
client has answered to be successful.
-/
theorem guarded_hook_shows_last_call {events : List (HookEvent ε)}
    (reached : run VaultHook.step VaultHook.initial events = some hook)
    (guarded : stepsSatisfy VaultHook.step IsGuarded VaultHook.initial events)
    (isRendered : hook.IsRendered)
    : IsOfLastCall hook.shown hook.calls
      ∧ (hook.shown.isLoading = false ↔ ∀ call ∈ hook.calls, call.isSettled = true)
      ∧ (hook.shown.step = .confirmed
        → ∃ earlier last hash,
            hook.calls = earlier ++ [last]
            ∧ (last = .polled hash (.ok ()) ∨ last = .succeeded hash)
            ∧ hook.shown.txHash = some hash) := by
  have follows : FollowsLastCall hook :=
    run_preserves_of_stepsSatisfy (fun _ _ _ guarded taken follows => follows.step guarded taken)
      ⟨List.forall_mem_nil _, .inl rfl⟩ guarded reached
  have isOf : IsOfLastCall hook.shown hook.calls := isRendered.symm ▸ follows
  exact ⟨isOf, isOf.isLoading_iff, isOf.confirmed⟩

/-- The second of two calls that began one after the other. -/
def secondCall : VaultHook Unit :=
  ⟨⟨.idle, true, none, none⟩, ⟨.idle, true, none, none⟩, [.succeeded "tx", .acting], ["tx"]⟩

/-- A call begins when the one before it was successful, and React renders at the end. -/
theorem guarded_hook_shows_last_call_second
    : IsOfLastCall secondCall.shown secondCall.calls
      ∧ (secondCall.shown.isLoading = false ↔ ∀ call ∈ secondCall.calls, call.isSettled = true)
      ∧ (secondCall.shown.step = .confirmed
        → ∃ earlier last hash,
            secondCall.calls = earlier ++ [last]
            ∧ (last = .polled hash (.ok ()) ∨ last = .succeeded hash)
            ∧ secondCall.shown.txHash = some hash) :=
  @guarded_hook_shows_last_call Unit secondCall
    [
      .begin fun _ => false,
      .call 0 (.acted (.ok ⟨some "tx", none, .ok ""⟩) 0 0) fun _ => false,
      .render,
      .call 0 (.answered (.ok (some "SUCCESS"))) fun _ => true,
      .call 0 (.returned (.ok ())) fun _ => false,
      .begin fun _ => false,
      .render
    ]
    rfl (by decide) rfl

-----------------------------------------------------------------------------------------
-- Any calls
-----------------------------------------------------------------------------------------

/-- (TellsTruly hook) requires `onSuccess` to have been told each hash of a call that ended with
success, and at most one hash of each call that has come to an end; and the last call to go on while
it is set that the hook is loading.
-/
structure TellsTruly (hook : VaultHook ε) : Prop where
  succeeded : (hook.calls.filterMap ExecuteCall.succeededHash).Subperm hook.notified
  settled : hook.notified.Subperm (hook.calls.filterMap ExecuteCall.settledHash)
  loading
    : hook.pending.isLoading = true
      → ∃ earlier last, hook.calls = earlier ++ [last] ∧ last.isSettled = false

/-- What is collected of calls is added for the one that goes on. -/
theorem filterMap_set_perm {β : Type} {calls : List (ExecuteCall ε)} {number : Nat}
    {before : ExecuteCall ε} (collect : ExecuteCall ε → Option β)
    (isCall : calls[number]? = some before) (isNone : collect before = none)
    (after : ExecuteCall ε)
    : ((calls.set number after).filterMap collect).Perm
        ((collect after).toList ++ calls.filterMap collect) := by
  obtain ⟨inRange, isBefore⟩ := List.getElem?_eq_some_iff.mp isCall
  have without
      : calls.filterMap collect
        = (calls.take number ++ calls.drop (number + 1)).filterMap collect := by
    conv_lhs =>
      rw [← List.take_append_drop number calls, List.drop_eq_getElem_cons inRange, isBefore]
    rw [List.filterMap_append, List.filterMap_cons, isNone, List.filterMap_append]
  rw [without, List.set_eq_take_append_cons_drop, if_pos inRange, List.filterMap_append,
    List.filterMap_append, List.filterMap_cons]
  cases collect after with
  | none => exact .refl _
  | some found => exact List.perm_middle

/-- What is told stays true when a call goes on. -/
theorem TellsTruly.advance (tells : TellsTruly hook) (advances : Advances hook next event)
    : TellsTruly next := by
  obtain ⟨number, _, _, before, did, -, isCall, continues, pending, calls, isTold⟩ := advances
  have isRunning := continues.running
  have succeededBefore : before.succeededHash = none := by
    cases before <;> first | rfl | cases isRunning
  have settledBefore : before.settledHash = none := by
    cases before <;> first | rfl | cases isRunning
  constructor
  case succeeded =>
    rw [calls, isTold]
    refine (filterMap_set_perm _ isCall succeededBefore did.next).subperm.trans ?_
    refine List.perm_append_comm.subperm.trans (tells.succeeded.append ?_)
    obtain isNone | same := continues.succeeded
    · rw [isNone]
      exact List.nil_subperm
    · rw [same]
  case settled =>
    rw [calls, isTold]
    refine List.Subperm.trans ?_ (filterMap_set_perm _ isCall settledBefore _).symm.subperm
    refine List.Subperm.trans (tells.settled.append ?_) List.perm_append_comm.subperm
    obtain isNone | same := continues.settled
    · rw [isNone]
      exact List.nil_subperm
    · rw [same]
  case loading =>
    intro isLoading
    rw [pending, continues.loading, Bool.and_eq_true, Bool.not_eq_true'] at isLoading
    obtain ⟨earlier, last, split, lastRuns⟩ := tells.loading isLoading.1
    rw [split] at isCall calls
    rcases Nat.lt_or_ge number earlier.length with isEarlier | isLast
    · refine ⟨earlier.set number did.next, last, ?_, lastRuns⟩
      rw [calls, List.set_append_left _ _ isEarlier]
    · obtain ⟨inRange, -⟩ := List.getElem?_eq_some_iff.mp isCall
      rw [List.length_append, List.length_singleton] at inRange
      obtain rfl : number = earlier.length := by omega
      refine ⟨earlier, did.next, ?_, isLoading.2⟩
      rw [calls, List.set_append_right _ _ isLast, Nat.sub_self, List.set_cons_zero]

/-- What is told stays true. -/
theorem TellsTruly.step (tells : TellsTruly hook) (taken : hook.step event = some next)
    : TellsTruly next := by
  obtain ⟨-, _, calls, told⟩ | ⟨-, pending, calls, told⟩ | ⟨-, rfl⟩ | advances :=
    step_cases taken
  · refine ⟨?_, ?_, fun _ => ⟨hook.calls, .acting, calls, rfl⟩⟩
    · rw [calls, told, List.filterMap_append]
      exact (List.append_nil _).symm ▸ tells.succeeded
    · rw [calls, told, List.filterMap_append]
      exact (List.append_nil _).symm ▸ tells.settled
  · refine ⟨calls ▸ told ▸ tells.succeeded, calls ▸ told ▸ tells.settled, fun isLoading => ?_⟩
    rw [pending] at isLoading
    cases isLoading
  · exact ⟨tells.succeeded, tells.settled, tells.loading⟩
  · exact tells.advance advances

/-- The client answers that a transaction was successful. -/
def HookEvent.isSuccess : HookEvent ε → Bool
  | .call _ event _ => event.isSuccess
  | .begin _ | .reset _ | .render => false

/-- Of how many successes `onSuccess` is told, or still to be told. -/
def VaultHook.successes (hook : VaultHook ε) : Nat :=
  hook.notified.length + hook.calls.countP ExecuteCall.isConfirmed

/-- `onSuccess` is told of each answer that a transaction was successful, now or later. -/
theorem successes_step (taken : hook.step event = some next)
    : next.successes = hook.successes + [event].countP HookEvent.isSuccess := by
  unfold VaultHook.successes
  obtain ⟨⟨_, rfl⟩, _, calls, told⟩ | ⟨⟨_, rfl⟩, _, calls, told⟩ | ⟨rfl, rfl⟩ | advances :=
    step_cases taken
  · rw [calls, told, List.countP_append]
    rfl
  · rw [calls, told]
    rfl
  · rfl
  · obtain ⟨number, callEvent, atOnce, before, did, rfl, isCall, continues, _, calls, told⟩ :=
      advances
    obtain ⟨inRange, isBefore⟩ := List.getElem?_eq_some_iff.mp isCall
    have answers := continues.answers
    have counted
        : [before].countP ExecuteCall.isConfirmed
          ≤ hook.calls.countP ExecuteCall.isConfirmed :=
      (List.singleton_sublist.mpr (List.mem_of_getElem? isCall)).countP_le
    have sameAnswer
        : [HookEvent.call number callEvent atOnce].countP HookEvent.isSuccess
          = [callEvent].countP CallEvent.isSuccess := rfl
    rw [calls, told, List.length_append, List.countP_set inRange, isBefore, sameAnswer]
    simp only [List.countP_singleton] at answers counted ⊢
    omega

/-- There are as many successes to tell as answers, by induction on the events. -/
theorem successes_of_run {start : VaultHook ε} {events : List (HookEvent ε)}
    (reached : run VaultHook.step start events = some hook)
    : hook.successes = start.successes + events.countP HookEvent.isSuccess := by
  induction events generalizing start with
  | nil =>
      obtain rfl := Option.some.inj reached
      rfl
  | cons event rest ih =>
      obtain ⟨next, taken, later⟩ := run_cons_iff.mp reached
      rw [ih later, successes_step taken, Nat.add_assoc, ← List.countP_append,
        List.singleton_append]

/-- (IsBatched event) requires React not to render before the code of the event has run, which
renders what it sets together.
-/
def HookEvent.IsBatched : HookEvent ε → Prop
  | .begin atOnce | .reset atOnce | .call _ _ atOnce => ∀ place, atOnce place = false
  | .render => True

/-- The step is not `signed`, neither in what was set nor in what is shown. -/
def NeverSigned (hook : VaultHook ε) : Prop :=
  hook.pending.step ≠ .signed ∧ hook.shown.step ≠ .signed

/-- What is rendered together never has the step `signed`. -/
theorem NeverSigned.step (never : NeverSigned hook) (isBatched : event.IsBatched)
    (taken : hook.step event = some next)
    : NeverSigned next := by
  have isShown : next.shown = hook.shown ∨ next.shown = hook.pending := by
    cases event with
    | begin atOnce | reset atOnce =>
        obtain rfl := Option.some.inj taken
        exact .inl (VaultHook.shown_setAll _ isBatched _)
    | render =>
        obtain rfl := Option.some.inj taken
        exact .inr rfl
    | call number event atOnce =>
        simp only [VaultHook.step, Option.bind_eq_bind, Option.bind_eq_some_iff, Option.pure_def,
          Option.some.injEq] at taken
        obtain ⟨_, _, _, _, rfl⟩ := taken
        exact .inl (VaultHook.shown_setAll _ isBatched _)
  refine ⟨?_, ?_⟩
  · obtain ⟨-, pending, -⟩ | ⟨-, pending, -⟩ | ⟨-, rfl⟩ | advances := step_cases taken
    · rw [pending]
      exact TxStep.noConfusion
    · rw [pending]
      exact TxStep.noConfusion
    · exact never.1
    · obtain ⟨_, _, _, _, did, -, -, continues, pending, -⟩ := advances
      rw [pending]
      exact continues.noSigned _ never.1
  · obtain same | same := isShown
    · rw [same]
      exact never.2
    · rw [same]
      exact never.1

/-- Two actions that are begun, the second one before the first one has come to an end. -/
def overlapping (number : Nat) (first second : String) : List (HookEvent ε) :=
  let result (hash : String) : Except ε (ActionResult ε) := .ok ⟨some hash, none, .ok hash⟩
  let later (_ : Nat) := false
  [
    .begin later, .begin later,
    .call number (.acted (result first) 0 0) later,
    .call (number + 1) (.acted (result second) 0 0) later,
    .call number (.answered (.ok (some "SUCCESS"))) later,
    .call number (.returned (.ok ())) later,
    .render
  ]

/-- The second one is shown as confirmed because the first one is. -/
theorem run_overlapping (hook : VaultHook ε) (first second : String)
    : ∃ later : VaultHook ε,
        run VaultHook.step hook (overlapping hook.calls.length first second) = some later
        ∧ later.shown = ⟨.confirmed, false, none, some second⟩
        ∧ later.calls
          = hook.calls ++ [.succeeded first, .polling second POLL_TIMEOUT_MS] := by
  refine ⟨⟨⟨.confirmed, false, none, some second⟩, ⟨.confirmed, false, none, some second⟩,
    hook.calls ++ [.succeeded first, .polling second POLL_TIMEOUT_MS],
    hook.notified ++ [first]⟩, ?_, rfl, rfl⟩
  simp [run, overlapping, VaultHook.step, ExecuteCall.step, ActionResult.hashOf, VaultHook.setAll,
    ExecuteCall.pollAgain, SetState.apply, POLL_TIMEOUT_MS]

/-- Whatever calls there are, in any order, `onSuccess` is told of each answer that a transaction
was successful, now or later, with the hash of a call that ends with it, and at most once for a
call. The hook is set to be loading only while the last call goes on, and never shows the step
`signed` if React renders together what is set together. But if a call begins while another one goes
on, a hash can be shown as confirmed, and not loading, that is still being polled for.
-/
theorem onSuccess_is_called_once {events : List (HookEvent ε)}
    (reached : run VaultHook.step VaultHook.initial events = some hook)
    : hook.notified.length + hook.calls.countP ExecuteCall.isConfirmed
        = events.countP HookEvent.isSuccess
      ∧ TellsTruly hook
      ∧ ((∀ event ∈ events, event.IsBatched) → hook.shown.step ≠ .signed)
      ∧ ∀ first second,
          ∃ later : VaultHook ε,
            run VaultHook.step hook (overlapping hook.calls.length first second) = some later
            ∧ later.shown = ⟨.confirmed, false, none, some second⟩
            ∧ later.calls
              = hook.calls ++ [.succeeded first, .polling second POLL_TIMEOUT_MS] := by
  refine ⟨(successes_of_run reached).trans (Nat.zero_add _), ?_, fun areBatched => ?_,
    run_overlapping hook⟩
  · refine run_preserves (fun _ _ _ taken tells => tells.step taken) ?_ reached
    exact ⟨List.Subperm.refl _, List.Subperm.refl _,
      fun isLoading => absurd isLoading Bool.false_ne_true⟩
  · have never : NeverSigned hook :=
      run_preserves_of_stepsSatisfy (fun _ _ _ isBatched taken never => never.step isBatched taken)
        ⟨TxStep.noConfusion, TxStep.noConfusion⟩
        (stepsSatisfy_of_forall_mem _ fun event member _ => areBatched event member) reached
    exact never.2

/-- A call whose transaction was successful, behind which another one shows its own as confirmed. -/
def overlapped : VaultHook Unit :=
  ⟨⟨.confirmed, false, none, some "b"⟩, ⟨.confirmed, false, none, some "b"⟩,
    [.succeeded "a", .polling "b" POLL_TIMEOUT_MS], ["a"]⟩

/-- Of the two calls, `onSuccess` is told of the one that was successful. -/
theorem onSuccess_is_called_once_overlapped
    : overlapped.notified.length + overlapped.calls.countP ExecuteCall.isConfirmed = 1
      ∧ TellsTruly overlapped
      ∧ overlapped.shown.step ≠ .signed :=
  have reached : run VaultHook.step VaultHook.initial (overlapping 0 "a" "b") = some overlapped :=
    rfl
  have areBatched : ∀ event ∈ (overlapping 0 "a" "b" : List (HookEvent Unit)), event.IsBatched := by
    simp [overlapping, HookEvent.IsBatched]
  have ⟨told, tells, noSigned, _⟩ := onSuccess_is_called_once reached
  ⟨told, tells, noSigned areBatched⟩

end Axionvera.React
