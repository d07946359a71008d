import Axionvera.Session.SessionManager

/-! What the manager lists is what it has created and nobody has closed, exactly as long as sessions
are closed through the manager and generated ids are new.
-/

namespace Axionvera.Session

open Axionvera.Foundation
open ContractSession (asksForId contractsValid generateId newId)

variable {Client Wallet : Type}

/-- The id that is asked for belongs to a session already, as it is or without its blanks. -/
def SessionManager.idInUse (manager : SessionManager Client Wallet) (id : Option String) : Bool :=
  id.any fun asked =>
    (asked ≠ "" && manager.sessions.has asked)
    || (trim asked ≠ "" && manager.sessions.has (trim asked))

/-- There is a reason not to create a session: as many as there may be are open, there is no client,
the contracts are not valid or the id is in use.
-/
def SessionManager.mayRefuse (manager : SessionManager Client Wallet) (openCount : Nat)
    (config : SessionConfig Client Wallet) : Prop :=
  manager.maxSessions.isAtMost openCount = true
  ∨ (config.client <|> manager.defaultClient).isNone = true
  ∨ ¬ contractsValid config.contracts
  ∨ manager.idInUse config.id = true

instance (manager : SessionManager Client Wallet) (openCount : Nat)
    (config : SessionConfig Client Wallet) : Decidable (manager.mayRefuse openCount config) :=
  inferInstanceAs (Decidable (_ ∨ _))

/-- What holds of a manager: every session that it lists is open and listed under its own id, `size`
is the number of open sessions and not above the maximum, and every call of `createSession` that has
thrown had a reason and left the manager as it was.
-/
structure SessionProcess.Consistent (process : SessionProcess Client Wallet) : Prop where
  listed
    : ∀ entry ∈ process.manager.sessions.entries,
        ∃ session,
          process.created[entry.2]? = some session
          ∧ session.isClosed = false
          ∧ session.id = entry.1
  size : process.manager.size = process.openCount
  bounded : ¬ process.manager.maxSessions.lt (.finite process.manager.size)
  refused
    : ∀ failure ∈ process.failures,
        failure.before.mayRefuse failure.openCount failure.config ∧ failure.after = failure.before

/-- A session that the manager lists is not closed directly. A session that is created without a
reason against it does not exceed the maximum, and its id is new if it is generated.
-/
def leavesSessionsListed (process : SessionProcess Client Wallet)
    : SessionAction Client Wallet → Prop
  | .createSession config =>
      process.manager.mayRefuse process.manager.size config
      ∨ ((asksForId config.id = true
            ∨ process.manager.sessions.has (generateId process.sessionCounter).2 = false)
          ∧ ¬ process.manager.maxSessions.lt (.finite ↑(process.manager.size + 1)))
  | .operate number .close => number ∉ process.manager.sessions.values
  | .operate _ _ | .closeSession _ | .closeAll | .generateId => True

instance (process : SessionProcess Client Wallet) : DecidablePred (leavesSessionsListed process)
  | .createSession _ => inferInstanceAs (Decidable (_ ∨ (_ ∨ _) ∧ ¬ _))
  | .operate _ .close => inferInstanceAs (Decidable (_ ∉ _))
  | .operate _ (.registerContract _) | .operate _ (.unregisterContract _) | .operate _ .suspend
  | .operate _ .resume | .operate _ .run | .closeSession _ | .closeAll | .generateId =>
      .isTrue trivial

variable {process next : SessionProcess Client Wallet}

-----------------------------------------------------------------------------------------
-- The outcome of `createSession`
-----------------------------------------------------------------------------------------

/-- An id that belongs to a session as it is, is in use. -/
theorem SessionManager.idInUse_of_untrimmed {manager : SessionManager Client Wallet}
    {id : Option String}
    (inUse : (id.any fun asked => asked ≠ "" && manager.sessions.has asked) = true)
    : manager.idInUse id = true := by
  cases id with
  | none => cases inUse
  | some asked =>
      change (_ && _) = true at inUse
      rw [idInUse, Option.any_some, inUse, Bool.true_or]

/-- The id of a new session belongs to another one if the id that is asked for is in use, or if none
is asked for and the generated one does.
-/
theorem SessionManager.has_newId_iff {manager : SessionManager Client Wallet} {id : Option String}
    (sessionCounter : Nat)
    (notUntrimmed : ¬ (id.any fun asked => asked ≠ "" && manager.sessions.has asked) = true)
    : manager.sessions.has (newId id sessionCounter).2 = true
      ↔ manager.idInUse id = true
        ∨ asksForId id = false ∧ manager.sessions.has (generateId sessionCounter).2 = true := by
  have inUse
      : manager.idInUse id = true
        ↔ asksForId id = true ∧ manager.sessions.has (trim (id.getD "")) = true := by
    cases id with
    | none => simp [idInUse, asksForId, trim]
    | some asked =>
        rw [Option.any_some, Bool.not_eq_true] at notUntrimmed
        rw [idInUse, Option.any_some, notUntrimmed, Bool.false_or, Bool.and_eq_true]
        rfl
  rw [inUse, newId]
  cases asksForId id <;> simp

/-- A session is created if there is no reason against it and its id is new; otherwise only the
counter may change.
-/
theorem SessionProcess.createSession_cases (process : SessionProcess Client Wallet)
    (config : SessionConfig Client Wallet)
    : (∃ sessionCounter error,
        process.createSession config
          = ({ process with sessionCounter := sessionCounter }, .error error)
        ∧ (process.manager.mayRefuse process.manager.size config
            ∨ asksForId config.id = false
              ∧ process.manager.sessions.has (generateId process.sessionCounter).2 = true))
      ∨ ∃ sessionCounter session,
          process.createSession config
            = ({ process with
                  sessionCounter := sessionCounter
                  manager :=
                    { process.manager with
                      sessions := process.manager.sessions.set session.id process.created.length }
                  created := process.created ++ [session] },
                .ok process.created.length)
          ∧ session.isClosed = false
          ∧ process.manager.sessions.has session.id = false
          ∧ ¬ process.manager.mayRefuse process.manager.size config
          ∧ (asksForId config.id = true
              ∨ process.manager.sessions.has (generateId process.sessionCounter).2 = false) := by
  unfold createSession
  by_cases full : process.manager.maxSessions.isAtMost process.manager.size = true
  · simp only [full, if_true]
    exact .inl ⟨process.sessionCounter, _, rfl, .inl (.inl full)⟩
  simp only [full, Bool.false_eq_true, if_false]
  cases available : (config.client <|> process.manager.defaultClient) with
  | none => exact .inl ⟨process.sessionCounter, _, rfl, .inl (.inr (.inl (by rw [available]; rfl)))⟩
  | some client =>
      simp only
      by_cases asked : (config.id.any fun id => id ≠ "" && process.manager.sessions.has id) = true
      · rw [if_pos asked]
        refine .inl ⟨process.sessionCounter, _, rfl, .inl (.inr (.inr (.inr ?_)))⟩
        exact SessionManager.idInUse_of_untrimmed asked
      rw [if_neg asked]
      let given : SessionConfig Client Wallet :=
        { config with
          client := some client, wallet := config.wallet <|> process.manager.defaultWallet }
      obtain ⟨succeeds, result⟩ := ContractSession.construct_of_client
        (show given.client = some client from rfl)
        process.sessionCounter
      cases made : ContractSession.construct given process.sessionCounter with
      | mk sessionCounter constructed =>
          rw [made] at succeeds result
          cases constructed with
          | error error =>
              refine .inl ⟨sessionCounter, error, rfl, .inl (.inr (.inr (.inl fun valid => ?_)))⟩
              obtain ⟨session, done⟩ := succeeds.mpr valid
              cases done
          | ok session =>
              obtain ⟨isNew, isOpen⟩ := result session rfl
              have valid : contractsValid config.contracts := succeeds.mp ⟨session, rfl⟩
              change session.id = (newId config.id process.sessionCounter).2 at isNew
              have taken := SessionManager.has_newId_iff process.sessionCounter asked
              rw [← isNew] at taken
              cases present : process.manager.sessions.has session.id with
              | true =>
                  refine .inl
                    ⟨sessionCounter, .alreadyExists session.id, by simp only [present, if_true], ?_⟩
                  exact (taken.mp present).imp (fun inUse => .inr (.inr (.inr inUse))) id
              | false =>
                  rw [present] at taken
                  obtain ⟨notInUse, notGenerated⟩ := not_or.mp (mt taken.mpr Bool.false_ne_true)
                  refine .inr
                    ⟨sessionCounter, session, by simp only [present]; rfl, isOpen, present, ?_, ?_⟩
                  · rintro (isFull | isMissing | notValid | inUse)
                    · exact full isFull
                    · rw [available] at isMissing
                      cases isMissing
                    · exact notValid valid
                    · exact notInUse inUse
                  · simpa only [not_and_or, Bool.not_eq_false, Bool.not_eq_true] using notGenerated

-----------------------------------------------------------------------------------------
-- The sessions that are listed
-----------------------------------------------------------------------------------------

/-- Every session that is open is listed under its own id. -/
def SessionProcess.ListsOpen (process : SessionProcess Client Wallet) : Prop :=
  ∀ number session,
    process.created[number]? = some session
    → session.isClosed = false
    → (session.id, number) ∈ process.manager.sessions.entries

/-- Every session that is listed is open and listed under its own id. -/
def SessionProcess.AllListedOpen (process : SessionProcess Client Wallet) : Prop :=
  ∀ entry ∈ process.manager.sessions.entries,
    ∃ session,
      process.created[entry.2]? = some session
      ∧ session.isClosed = false
      ∧ session.id = entry.1

/-- Counting the elements of a list is counting their positions, by induction from the end. -/
theorem countP_range_getElem? {α : Type} (list : List α) (test : α → Bool)
    : ((List.range list.length).filter fun number => list[number]?.any test).length
      = list.countP test := by
  induction list using List.reverseRecOn with
  | nil => rfl
  | append_singleton front last ih =>
      have same
          : (List.range front.length).filter (fun number => (front ++ [last])[number]?.any test)
            = (List.range front.length).filter fun number => front[number]?.any test := by
        refine List.filter_congr fun number member => ?_
        rw [List.getElem?_append_left (List.mem_range.mp member)]
      rw [List.length_append, List.length_singleton, List.range_succ, List.filter_append,
        List.length_append, same, ih, List.countP_append]
      cases isTested : test last <;> simp [isTested]

/-- If exactly the open sessions are listed, `size` is their number. -/
theorem SessionProcess.size_eq (listed : process.AllListedOpen) (all : process.ListsOpen)
    : process.manager.size = process.openCount := by
  have entriesNodup : process.manager.sessions.entries.Nodup :=
    process.manager.sessions.unique.of_map _
  have numbersNodup : (process.manager.sessions.entries.map Prod.snd).Nodup := by
    refine entriesNodup.map_on fun first isFirst second isSecond same => ?_
    obtain ⟨session, found, _, isOwn⟩ := listed first isFirst
    obtain ⟨other, alsoFound, _, alsoOwn⟩ := listed second isSecond
    rw [same, alsoFound] at found
    obtain rfl := Option.some.inj found
    exact Prod.ext (isOwn.symm.trans alsoOwn) same
  have permuted
      : (process.manager.sessions.entries.map Prod.snd).Perm
          ((List.range process.created.length).filter fun number =>
            process.created[number]?.any fun session => !session.isClosed) := by
    refine
      (List.perm_ext_iff_of_nodup numbersNodup (List.nodup_range.filter _)).mpr fun number => ?_
    rw [List.mem_map, List.mem_filter, List.mem_range]
    constructor
    · rintro ⟨entry, member, rfl⟩
      obtain ⟨session, found, isOpen, _⟩ := listed entry member
      exact ⟨(List.getElem?_eq_some_iff.mp found).1, by simp [found, isOpen]⟩
    · rintro ⟨inRange, isOpen⟩
      rw [List.getElem?_eq_getElem inRange, Option.any_some, Bool.not_eq_true'] at isOpen
      exact ⟨_, all number _ (List.getElem?_eq_getElem inRange) isOpen, rfl⟩
  rw [SessionManager.size, openCount, ← countP_range_getElem?, ← permuted.length_eq,
    List.length_map]

/-- If exactly the open sessions are listed before and after a step, no session is added and nothing
throws, the step keeps what holds.
-/
theorem SessionProcess.Consistent.shrinks (consistent : process.Consistent)
    (listed : next.AllListedOpen) (all : next.ListsOpen)
    (maximum : next.manager.maxSessions = process.manager.maxSessions)
    (size : next.manager.size ≤ process.manager.size) (failures : next.failures = process.failures)
    : next.Consistent := by
  refine
    ⟨listed, SessionProcess.size_eq listed all, fun exceeded => ?_, failures ▸ consistent.refused⟩
  rw [maximum] at exceeded
  exact consistent.bounded (JsNumber.lt_finite_of_le exceeded (by exact_mod_cast size))

-----------------------------------------------------------------------------------------
-- Operations
-----------------------------------------------------------------------------------------

/-- An operation that does not close a session keeps what is listed and open. -/
theorem SessionProcess.operated {number : Nat} {session after : ContractSession Client Wallet}
    (found : process.created[number]? = some session) (sameId : after.id = session.id)
    (sameOpen : after.isClosed = session.isClosed)
    (is : next = { process with created := process.created.set number after })
    : (process.AllListedOpen → next.AllListedOpen) ∧ (process.ListsOpen → next.ListsOpen) := by
  subst is
  have inRange := (List.getElem?_eq_some_iff.mp found).1
  constructor
  · intro listed entry member
    obtain ⟨other, alsoFound, isOpen, isOwn⟩ := listed entry member
    by_cases same : number = entry.2
    · rw [← same, found] at alsoFound
      obtain rfl := Option.some.inj alsoFound
      refine ⟨after, ?_, sameOpen.trans isOpen, sameId.trans isOwn⟩
      simp [← same, inRange]
    · exact ⟨other, by simpa [same] using alsoFound, isOpen, isOwn⟩
  · intro all other one foundOne isOpen
    by_cases same : number = other
    · subst same
      obtain rfl : after = one := by simpa [inRange] using foundOne
      exact sameId ▸ all number session found (sameOpen ▸ isOpen)
    · exact all other one (by simpa [same] using foundOne) isOpen

/-- A session that is closed is the only one that changes. -/
theorem SessionProcess.close_created (number other : Nat)
    : (process.close number).created[other]?
      = process.created[other]?.map fun session =>
          if number = other then session.close else session := by
  rw [close, List.getElem?_modify]
  rfl

/-- Sessions that are closed one after the other are the only ones that change, by induction on
them.
-/
theorem SessionProcess.foldl_close_created (numbers : List Nat) (other : Nat)
    : (numbers.foldl close process).created[other]?
      = process.created[other]?.map fun session =>
          if other ∈ numbers then session.close else session := by
  induction numbers generalizing process with
  | nil => simp
  | cons number others ih =>
      rw [List.foldl_cons, ih, close_created, Option.map_map]
      congr 1
      funext session
      by_cases same : number = other
      · by_cases later : other ∈ others <;> simp [same, later]
      · have differs : other ≠ number := Ne.symm same
        simp [same, differs]

/-- Closing sessions one after the other changes nothing but them, by induction on them. -/
theorem SessionProcess.foldl_close_failures (numbers : List Nat)
    : (numbers.foldl close process).failures = process.failures := by
  induction numbers generalizing process with
  | nil => rfl
  | cons number others ih => exact ih

/-- `closeSession` takes the session that it closes from the list, and no other. -/
theorem SessionProcess.closeSession_listed (id : String) (listed : process.AllListedOpen)
    : (process.closeSession id).1.AllListedOpen
      ∧ (process.ListsOpen → (process.closeSession id).1.ListsOpen) := by
  cases given : process.manager.sessions.get id with
  | none =>
      simp only [closeSession, given]
      exact ⟨listed, fun all => all⟩
  | some number =>
      simp only [closeSession, given]
      have isListed := InsertionMap.get_eq_some_iff.mp given
      have remains (other : String) (value : Nat)
          : (other, value) ∈ (process.manager.sessions.delete id).entries
            ↔ other ≠ id ∧ (other, value) ∈ process.manager.sessions.entries := by
        rw [← InsertionMap.get_eq_some_iff, InsertionMap.get_delete, ← InsertionMap.get_eq_some_iff]
        by_cases same : other = id <;> simp [same]
      constructor
      · rintro ⟨other, value⟩ member
        obtain ⟨differs, member⟩ := (remains other value).mp member
        obtain ⟨session, found, isOpen, isOwn⟩ := listed (other, value) member
        obtain ⟨closed, isClosed, _, closedId⟩ := listed (id, number) isListed
        have notClosed : number ≠ value := by
          rintro rfl
          rw [isClosed] at found
          obtain rfl := Option.some.inj found
          exact differs (isOwn.symm.trans closedId)
        refine ⟨session, ?_, isOpen, isOwn⟩
        rw [close_created, found]
        simp [notClosed]
      · intro all value session found isOpen
        rw [close_created, Option.map_eq_some_iff] at found
        obtain ⟨before, found, rfl⟩ := found
        by_cases same : number = value
        · rw [if_pos same, ContractSession.close_isClosed] at isOpen
          cases isOpen
        · rw [if_neg same] at isOpen ⊢
          have member := all value before found isOpen
          refine (remains before.id value).mpr ⟨fun isId => same ?_, member⟩
          rw [isId] at member
          have alsoGiven := InsertionMap.get_eq_some_iff.mpr member
          rw [given] at alsoGiven
          exact Option.some.inj alsoGiven

/-- After `closeAll` no session is listed, and none is open that was listed before. -/
theorem SessionProcess.closeAll_listed
    : process.closeAll.AllListedOpen ∧ (process.ListsOpen → process.closeAll.ListsOpen) := by
  refine ⟨fun entry member => (by cases member), fun all number session found isOpen => ?_⟩
  rw [closeAll, foldl_close_created, Option.map_eq_some_iff] at found
  obtain ⟨before, found, rfl⟩ := found
  split at isOpen
  · rw [ContractSession.close_isClosed] at isOpen
    cases isOpen
  · rename_i notListed
    exact absurd (List.mem_map_of_mem (all number before found isOpen)) notListed

/-- A new session comes last among those listed and open. -/
theorem SessionProcess.created_listed {session : ContractSession Client Wallet}
    (isOpen : session.isClosed = false)
    (isFree : process.manager.sessions.has session.id = false)
    (sessions
      : next.manager.sessions = process.manager.sessions.set session.id process.created.length)
    (created : next.created = process.created ++ [session])
    : (process.AllListedOpen → next.AllListedOpen) ∧ (process.ListsOpen → next.ListsOpen) := by
  have missing (other : String) (value : Nat)
      (member : (other, value) ∈ process.manager.sessions.entries)
      : other ≠ session.id := by
    rintro rfl
    rw [← InsertionMap.get_eq_none_iff, InsertionMap.get_eq_some_iff.mpr member] at isFree
    cases isFree
  constructor
  · rintro listed ⟨other, value⟩ member
    rw [sessions, InsertionMap.mem_set] at member
    rw [created]
    split at member
    · rename_i isNew
      exact ⟨session, by simp [member], isOpen, isNew.symm⟩
    · obtain ⟨found, isAt, foundOpen, isOwn⟩ := listed (other, value) member
      refine ⟨found, ?_, foundOpen, isOwn⟩
      rw [List.getElem?_append_left (List.getElem?_eq_some_iff.mp isAt).1, isAt]
  · intro all number found isAt foundOpen
    rw [created, List.getElem?_append] at isAt
    rw [sessions, InsertionMap.mem_set]
    split at isAt
    · have member := all number found isAt foundOpen
      rwa [if_neg (missing _ _ member)]
    · obtain ⟨isLast, rfl⟩ : number - process.created.length = 0 ∧ session = found := by
        simpa [List.getElem?_singleton] using isAt
      rw [if_pos rfl]
      omega

/-- A session that is closed directly is not open, and no other changes. -/
theorem SessionProcess.closed_listsOpen {number : Nat} {session : ContractSession Client Wallet}
    (found : process.created[number]? = some session) (all : process.ListsOpen)
    : SessionProcess.ListsOpen
        { process with created := process.created.set number session.close } := by
  intro other one foundOne isOpen
  have inRange := (List.getElem?_eq_some_iff.mp found).1
  by_cases same : number = other
  · subst same
    obtain rfl : session.close = one := by simpa [inRange] using foundOne
    rw [ContractSession.close_isClosed] at isOpen
    cases isOpen
  · exact all other one (by simpa [same] using foundOne) isOpen

-----------------------------------------------------------------------------------------
-- Runs
-----------------------------------------------------------------------------------------

/-- Every step keeps every open session listed, by cases on the step. -/
theorem SessionProcess.ListsOpen.step {action : SessionAction Client Wallet}
    (taken : sessionStep process action = some next) (all : process.ListsOpen)
    (consistent : process.Consistent)
    : next.ListsOpen := by
  cases action with
  | createSession config =>
      rcases SessionProcess.createSession_cases process config with
        ⟨sessionCounter, error, fails, _⟩ | ⟨sessionCounter, session, creates, isOpen, isFree, _⟩
      · simp only [sessionStep, fails] at taken
        obtain rfl := Option.some.inj taken
        exact all
      · simp only [sessionStep, creates] at taken
        obtain rfl := Option.some.inj taken
        exact (SessionProcess.created_listed isOpen isFree rfl rfl).2 all
  | closeSession id =>
      obtain rfl := Option.some.inj taken
      exact (SessionProcess.closeSession_listed id consistent.listed).2 all
  | closeAll =>
      obtain rfl := Option.some.inj taken
      exact SessionProcess.closeAll_listed.2 all
  | operate number operation =>
      obtain ⟨session, found, rfl⟩ := Option.map_eq_some_iff.mp taken
      cases done : session.operate operation with
      | error error => exact all
      | ok after =>
          obtain ⟨sameId, closes⟩ := ContractSession.operate_eq_ok done
          split at closes
          · rename_i isClose
            subst isClose
            obtain rfl := Except.ok.inj done
            exact SessionProcess.closed_listsOpen found all
          · exact (SessionProcess.operated found sameId closes rfl).2 all
  | generateId =>
      obtain rfl := Option.some.inj taken
      exact all

/-- A session is created, or `createSession` throws, in accordance with what holds of a manager
exactly if one of the reasons is given or the new id is free and there is room.
-/
theorem createSession_consistent_iff {config : SessionConfig Client Wallet}
    (taken : sessionStep process (.createSession config) = some next) (all : process.ListsOpen)
    (consistent : process.Consistent)
    : leavesSessionsListed process (.createSession config) ↔ next.Consistent := by
  rcases SessionProcess.createSession_cases process config with
    ⟨sessionCounter, error, fails, reason⟩
    | ⟨sessionCounter, session, creates, isOpen, isFree, noReason, isNew⟩
  · simp only [sessionStep, fails] at taken
    obtain rfl := Option.some.inj taken
    have isRefusal
        : leavesSessionsListed process (.createSession config)
          ↔ process.manager.mayRefuse process.manager.size config := by
      refine ⟨fun allowed => ?_, .inl⟩
      rcases allowed with refuses | ⟨isNew, _⟩
      · exact refuses
      · rcases reason with refuses | ⟨notAsked, taken⟩
        · exact refuses
        · rcases isNew with asks | isFree
          · rw [notAsked] at asks
            cases asks
          · rw [taken] at isFree
            cases isFree
    rw [isRefusal, consistent.size]
    constructor
    · intro refuses
      refine ⟨consistent.listed, consistent.size, consistent.bounded, fun failure member => ?_⟩
      rcases List.mem_append.mp member with old | new
      · exact consistent.refused failure old
      · obtain rfl := List.mem_singleton.mp new
        exact ⟨refuses, rfl⟩
    · intro kept
      exact (kept.refused _ (List.mem_append_right _ (List.mem_singleton.mpr rfl))).1
  · simp only [sessionStep, creates] at taken
    have is := Option.some.inj taken
    obtain ⟨keepsListed, keepsAll⟩ :=
      show (process.AllListedOpen → next.AllListedOpen) ∧ (process.ListsOpen → next.ListsOpen) from
        SessionProcess.created_listed isOpen isFree (by rw [← is]) (by rw [← is])
    have listed := keepsListed consistent.listed
    have nowAll := keepsAll all
    subst is
    have larger
        : (process.manager.sessions.set session.id process.created.length).entries.length
          = process.manager.size + 1 := by
      have lengths := congrArg List.length
        (InsertionMap.values_set_of_absent (InsertionMap.get_eq_none_iff.mpr isFree)
          process.created.length)
      simp only [InsertionMap.values, List.length_map, List.length_append, List.length_singleton]
        at lengths
      rw [SessionManager.size, lengths]
    constructor
    · intro allowed
      rcases allowed with refuses | ⟨_, hasRoom⟩
      · exact absurd refuses noReason
      · refine ⟨listed, SessionProcess.size_eq listed nowAll, ?_, consistent.refused⟩
        rwa [SessionManager.size, larger]
    · intro kept
      have hasRoom := kept.bounded
      rw [SessionManager.size, larger] at hasRoom
      exact .inr ⟨isNew, hasRoom⟩

/-- A session is closed directly in accordance with what holds of a manager exactly if it is not
listed, that is, if it is closed already.
-/
theorem close_consistent_iff {number : Nat} {session : ContractSession Client Wallet}
    (found : process.created[number]? = some session) (all : process.ListsOpen)
    (consistent : process.Consistent)
    : number ∉ process.manager.sessions.values
      ↔ SessionProcess.Consistent
          { process with created := process.created.set number session.close } := by
  have inRange := (List.getElem?_eq_some_iff.mp found).1
  constructor
  · intro notListed
    have isClosed : session.status = .closed := by
      by_contra notClosed
      have isOpen : session.isClosed = false := by simpa [ContractSession.isClosed] using notClosed
      exact notListed (List.mem_map_of_mem (all number session found isOpen))
    have same : process.created.set number session.close = process.created := by
      rw [ContractSession.close, if_pos isClosed]
      rw [← (List.getElem?_eq_some_iff.mp found).2]
      exact List.set_getElem_self inRange
    rwa [same]
  · intro kept isListed
    obtain ⟨entry, member, rfl⟩ := List.mem_map.mp isListed
    obtain ⟨other, isAt, isOpen, _⟩ := kept.listed entry member
    obtain rfl : session.close = other := by simpa [inRange] using isAt
    rw [ContractSession.close_isClosed] at isOpen
    cases isOpen

/-- A step keeps what holds of a manager exactly if it leaves the sessions listed, by cases on the
step.
-/
theorem leavesSessionsListed_iff {action : SessionAction Client Wallet}
    (taken : sessionStep process action = some next) (all : process.ListsOpen)
    (consistent : process.Consistent)
    : leavesSessionsListed process action ↔ next.Consistent := by
  cases action with
  | createSession config => exact createSession_consistent_iff taken all consistent
  | closeSession id =>
      refine iff_of_true trivial ?_
      have nowAll := SessionProcess.ListsOpen.step taken all consistent
      obtain rfl := Option.some.inj taken
      obtain ⟨listed, _⟩ := SessionProcess.closeSession_listed id consistent.listed
      unfold SessionProcess.closeSession at listed nowAll ⊢
      split
      · exact consistent
      · rename_i given
        simp only [given] at listed nowAll
        refine consistent.shrinks listed nowAll rfl ?_ rfl
        exact List.length_filter_le _ _
  | closeAll =>
      refine iff_of_true trivial ?_
      obtain rfl := Option.some.inj taken
      exact consistent.shrinks SessionProcess.closeAll_listed.1
        (SessionProcess.closeAll_listed.2 all) rfl (Nat.zero_le _)
        (SessionProcess.foldl_close_failures _)
  | operate number operation =>
      obtain ⟨session, found, rfl⟩ := Option.map_eq_some_iff.mp taken
      by_cases isClose : operation = .close
      · subst isClose
        exact close_consistent_iff found all consistent
      · have allowed : leavesSessionsListed process (.operate number operation) := by
          cases operation <;> trivial
        refine iff_of_true allowed ?_
        cases done : session.operate operation with
        | error error => exact consistent
        | ok after =>
            obtain ⟨sameId, closes⟩ := ContractSession.operate_eq_ok done
            rw [if_neg isClose] at closes
            obtain ⟨listed, nowAll⟩ := SessionProcess.operated found sameId closes rfl
            exact consistent.shrinks (listed consistent.listed) (nowAll all) rfl le_rfl rfl
  | generateId =>
      obtain rfl := Option.some.inj taken
      exact iff_of_true trivial (consistent.shrinks consistent.listed all rfl le_rfl rfl)

/-- In every run, a manager lists exactly the open sessions, within its maximum, and throws for a
reason, exactly when no listed session is closed directly, generated ids are new and the maximum is
not passed by a fraction. Witness: `leavesSessionsListed_iff` along the run.
-/
theorem consistent_iff_leavesSessionsListed (config : SessionManagerConfig Client Wallet)
    (manager : SessionManager Client Wallet) (sessionCounter : Nat)
    (actions : List (SessionAction Client Wallet)) (final : SessionProcess Client Wallet)
    (constructed : SessionManager.construct config = .ok manager)
    (reached : run sessionStep (.initial manager sessionCounter) actions = some final)
    : (∀ front process,
        front <+: actions
        → run sessionStep (.initial manager sessionCounter) front = some process
        → process.Consistent)
      ↔ stepsSatisfy sessionStep leavesSessionsListed (.initial manager sessionCounter)
          actions := by
  have isEmpty : manager.sessions = .empty ∧ manager.maxSessions.isAtMost 0 = false := by
    simp only [SessionManager.construct] at constructed
    split at constructed
    · cases constructed
    · rename_i positive
      obtain rfl := Except.ok.inj constructed
      exact ⟨rfl, by simpa using positive⟩
  have noEntries
      : (SessionProcess.initial manager sessionCounter).manager.sessions.entries = [] := by
    rw [SessionProcess.initial, isEmpty.1]
    rfl
  have consistent : (SessionProcess.initial manager sessionCounter).Consistent := by
    refine ⟨fun entry member => ?_, ?_, fun exceeded => ?_, fun failure member => ?_⟩
    · rw [noEntries] at member
      cases member
    · rw [SessionManager.size, noEntries]
      rfl
    · rw [SessionManager.size, noEntries] at exceeded
      exact JsNumber.not_lt_of_isAtMost_eq_false isEmpty.2 (by exact_mod_cast exceeded)
    · cases member
  have all : (SessionProcess.initial manager sessionCounter).ListsOpen :=
    fun number session found => by simp [SessionProcess.initial] at found
  exact forall_prefix_iff_stepsSatisfy
    (fun _ _ _ _ taken all consistent _ => SessionProcess.ListsOpen.step taken all consistent)
    (fun _ _ _ _ taken all consistent => leavesSessionsListed_iff taken all consistent)
    all consistent (stepsSatisfy_of_forall_mem _ fun _ _ _ => trivial) reached

/-- A client for all sessions and room for one of them. -/
def oneSession : SessionManagerConfig Unit Unit :=
  { client := some (), maxSessions := some (.finite 1) }

/-- One session is created, takes a contract and is closed through the manager; then another is. -/
def oneAfterTheOther : List (SessionAction Unit Unit) :=
  [
    .createSession { id := some " vault " },
    .operate 0 (.registerContract ⟨some "vault", some "CAAA"⟩),
    .operate 0 .suspend,
    .createSession {},
    .closeSession "vault",
    .operate 0 .close,
    .createSession { contracts := [⟨some "rewards", some "CBBB"⟩] }
  ]

/-- Sessions that are closed through the manager make room for others. -/
theorem consistent_of_closeSession
    : ∃ manager final,
        SessionManager.construct oneSession = .ok manager
        ∧ run sessionStep (.initial manager 0) oneAfterTheOther = some final
        ∧ final.manager.size = 1
        ∧ final.Consistent := by
  refine ⟨_, _, rfl, rfl, rfl, ?_⟩
  refine (consistent_iff_leavesSessionsListed oneSession _ 0 oneAfterTheOther _ rfl rfl).mpr ?_
    oneAfterTheOther _ (List.prefix_refl _) rfl
  decide

/-- A session that is closed directly is listed on and takes the only place; and a generated id can
be one that another session was given.
-/
theorem not_consistent
    : (∃ manager final,
        SessionManager.construct oneSession = .ok manager
        ∧ run sessionStep (.initial manager 0)
            [.createSession {}, .operate 0 .close, .createSession {}] = some final
        ∧ final.openCount = 0
        ∧ final.manager.size = 1
        ∧ final.failures.length = 1
        ∧ ¬ final.Consistent)
      ∧ ∃ manager final,
          SessionManager.construct { oneSession with maxSessions := none } = .ok manager
          ∧ run sessionStep (.initial manager 0)
              [.createSession { id := some "session-1" }, .createSession {}] = some final
          ∧ final.manager.size = 1
          ∧ final.failures.length = 1
          ∧ ¬ final.Consistent := by
  refine ⟨⟨_, _, rfl, rfl, rfl, rfl, rfl, fun consistent => ?_⟩,
    ⟨_, _, rfl, rfl, rfl, rfl, fun consistent => ?_⟩⟩
  · exact absurd consistent.size (by decide)
  · have reason := (consistent.refused _ List.mem_cons_self).1
    exact absurd reason (by decide)

end Axionvera.Session
