import Axionvera.Session.ContractSession
import Mathlib.Data.List.DropRight

/-! The names under which a session finds its contracts. `registerContract` trims a name, and the
other operations look it up as it is given.
-/

namespace Axionvera.Session

open Axionvera.Errors (isTrimmed)
open Axionvera.Foundation

/-- The error of `getContract`, which is of the class `ValidationError`. -/
structure ContractNotFound where
  name : String
  id : String
  deriving DecidableEq

/-- The message of the error. -/
def ContractNotFound.message (error : ContractNotFound) : String :=
  "No contract named \"" ++ error.name ++ "\" is registered in session \"" ++ error.id ++ "\""

namespace ContractSession

variable {Client Wallet : Type} {session after : ContractSession Client Wallet}

/-- `hasContract`. -/
def hasContract (session : ContractSession Client Wallet) (name : String) : Bool :=
  session.contracts.has name

/-- `getContract`. -/
def getContract (session : ContractSession Client Wallet) (name : String)
    : Except ContractNotFound ContractContext :=
  match session.contracts.get name with
  | none => .error ⟨name, session.id⟩
  | some context => .ok context

/-- `listContracts`. -/
def listContracts (session : ContractSession Client Wallet) : List ContractContext :=
  session.contracts.values

/-- What `unregisterContract` returns: whether the contract was there. -/
def unregisterContractResult (session : ContractSession Client Wallet) (name : String)
    : Except SessionError Bool := do
  session.assertNotClosed
  return session.contracts.has name

/-- A new session before its constructor registers contracts. -/
def opened (id : String) (client : Client) (wallet : Option Wallet)
    : ContractSession Client Wallet :=
  { id := id, client := client, wallet := wallet, status := .active, contracts := .empty }

/-- The session after an operation; one that throws changes nothing. -/
def afterOperation (session : ContractSession Client Wallet) (operation : SessionOperation)
    : ContractSession Client Wallet :=
  (session.operate operation).toOption.getD session

/-- The session after some operations. -/
def performed (session : ContractSession Client Wallet) (history : List SessionOperation)
    : ContractSession Client Wallet :=
  history.foldl afterOperation session

/-- Registering contracts one by one is a history, by induction on them. -/
theorem performed_of_registerContracts {contracts : List RegisterContractParams}
    (done : session.registerContracts contracts = .ok after)
    : session.performed (contracts.map .registerContract) = after := by
  induction contracts generalizing session with
  | nil => exact Except.ok.inj done
  | cons params others ih =>
      rw [registerContracts] at done
      cases registered : session.registerContract params with
      | error error =>
          rw [registered] at done
          cases done
      | ok next =>
          rw [registered] at done
          rw [List.map_cons, performed, List.foldl_cons, afterOperation, operate, registered]
          exact ih done

/-- What the constructor makes is a new session with a history of registrations. -/
theorem performed_of_construct {config : SessionConfig Client Wallet} {sessionCounter : Nat}
    (constructed : (construct config sessionCounter).2 = .ok session)
    : ∃ id client,
        session
          = (opened id client config.wallet).performed
              (config.contracts.map .registerContract) := by
  unfold construct at constructed
  split at constructed
  · cases constructed
  · rename_i client _
    exact ⟨_, client, (performed_of_registerContracts constructed).symm⟩

theorem performed_append (session : ContractSession Client Wallet)
    (front back : List SessionOperation)
    : session.performed (front ++ back) = (session.performed front).performed back :=
  List.foldl_append

theorem performed_cons (session : ContractSession Client Wallet) (operation : SessionOperation)
    (rest : List SessionOperation)
    : session.performed (operation :: rest) = (session.afterOperation operation).performed rest :=
  rfl

/-- A registration that succeeds leads to the session that it makes. -/
theorem afterOperation_of_registered {params : RegisterContractParams}
    (registered : session.registerContract params = .ok after)
    : session.afterOperation (.registerContract params) = after := by
  rw [afterOperation, operate, registered]
  rfl

-----------------------------------------------------------------------------------------
-- Trimmed names

/-- Trimming twice is trimming once. Witness: the text trimmed at its end begins as the one before,
unless it is empty.
-/
theorem trim_trim (name : String) : trim (trim name) = trim name := by
  have asRight (characters : List Char)
      : ((characters.dropWhile isTrimmed).reverse.dropWhile isTrimmed).reverse
        = (characters.dropWhile isTrimmed).rdropWhile isTrimmed := rfl
  have startsAlike
      : ((name.toList.dropWhile isTrimmed).rdropWhile isTrimmed).dropWhile isTrimmed
        = (name.toList.dropWhile isTrimmed).rdropWhile isTrimmed := by
    rw [List.dropWhile_eq_self_iff]
    intro notEmpty
    have isPrefix := List.rdropWhile_prefix isTrimmed (l := name.toList.dropWhile isTrimmed)
    rw [isPrefix.getElem notEmpty]
    exact List.dropWhile_get_zero_not isTrimmed _ _
  simp only [trim, String.toList_ofList, asRight]
  rw [startsAlike, List.rdropWhile_idempotent]

/-- What is registered is found under its own name, which is trimmed and not empty. -/
def KeepsTrimmedNames (session : ContractSession Client Wallet) : Prop :=
  ∀ name context,
    session.contracts.get name = some context
    → context.name = name ∧ trim name = name ∧ name ≠ ""

/-- What an operation does to the contracts: it registers one under its trimmed name, removes one
under the name that is given, removes all, or none of this.
-/
theorem afterOperation_contracts (session : ContractSession Client Wallet)
    (operation : SessionOperation)
    : let next := session.afterOperation operation
      (∃ params,
        operation = .registerContract params
        ∧ params.trimmedName ≠ ""
        ∧ session.contracts.has params.trimmedName = false
        ∧ next.contracts
          = session.contracts.set params.trimmedName
              ⟨params.trimmedName, params.trimmedContractId⟩)
      ∨ (∃ name,
          operation = .unregisterContract name
          ∧ next.contracts = session.contracts.delete name)
      ∨ (operation = .close ∧ next.contracts = .empty)
      ∨ next.contracts = session.contracts := by
  unfold afterOperation
  cases done : session.operate operation with
  | error error => exact .inr (.inr (.inr rfl))
  | ok next =>
      cases operation with
      | registerContract params =>
          obtain ⟨_, notEmpty, _, isNew, rfl⟩ := registerContract_eq_ok_iff.mp done
          exact .inl ⟨params, rfl, notEmpty, isNew, rfl⟩
      | unregisterContract name =>
          obtain ⟨_, rfl⟩ := unregisterContract_eq_ok_iff.mp done
          exact .inr (.inl ⟨name, rfl, rfl⟩)
      | suspend =>
          obtain ⟨_, rfl⟩ := suspend_eq_ok_iff.mp done
          exact .inr (.inr (.inr rfl))
      | resume =>
          obtain ⟨_, rfl⟩ := resume_eq_ok_iff.mp done
          exact .inr (.inr (.inr rfl))
      | close =>
          obtain rfl := Except.ok.inj done
          rw [close]
          split
          · exact .inr (.inr (.inr rfl))
          · exact .inr (.inr (.inl ⟨rfl, rfl⟩))
      | run =>
          obtain rfl := operate_run_eq_ok done
          exact .inr (.inr (.inr rfl))

/-- An operation keeps names trimmed. -/
theorem KeepsTrimmedNames.afterOperation (kept : session.KeepsTrimmedNames)
    (operation : SessionOperation)
    : (session.afterOperation operation).KeepsTrimmedNames := by
  intro name context found
  rcases session.afterOperation_contracts operation with
    ⟨params, _, notEmpty, _, contracts⟩ | ⟨removed, _, contracts⟩ | ⟨_, contracts⟩ | contracts
  · rw [contracts, InsertionMap.get_set] at found
    split at found
    · rename_i isName
      obtain rfl := Option.some.inj found
      refine ⟨isName.symm, ?_, isName ▸ notEmpty⟩
      rw [isName, RegisterContractParams.trimmedName]
      cases params.name with
      | none => decide
      | some given => exact trim_trim given
    · exact kept name context found
  · rw [contracts, InsertionMap.get_delete] at found
    split at found
    · cases found
    · exact kept name context found
  · rw [contracts, InsertionMap.get_empty] at found
    cases found
  · rw [contracts] at found
    exact kept name context found

/-- Names are trimmed after every history. -/
theorem keepsTrimmedNames_performed (id : String) (client : Client) (wallet : Option Wallet)
    (history : List SessionOperation)
    : ((opened id client wallet).performed history).KeepsTrimmedNames := by
  have initial : (opened id client wallet).KeepsTrimmedNames := by
    intro name context found
    cases found
  exact List.foldlRecOn history _ initial fun _ kept operation _ => kept.afterOperation operation

/-- What is listed is found by `getContract` under its own name, and nothing else is found. -/
theorem mem_listContracts_iff (kept : session.KeepsTrimmedNames) (context : ContractContext)
    : context ∈ session.listContracts ↔ session.getContract context.name = .ok context := by
  unfold getContract
  constructor
  · intro member
    obtain ⟨name, found⟩ := InsertionMap.exists_get_of_mem_values member
    rw [(kept name context found).1, found]
  · intro found
    cases isThere : session.contracts.get context.name with
    | none =>
        rw [isThere] at found
        cases found
    | some other =>
        rw [isThere] at found
        exact InsertionMap.mem_values_of_get (Except.ok.inj found ▸ isThere)

-----------------------------------------------------------------------------------------
-- A registered name

/-- (FindsContract session name context) requires a name to be known, to find the context, to be
the name that removes it, and to be rejected when it is registered again exactly while it is
found. (With a blank contract id it is rejected for the id.)
-/
structure FindsContract (session : ContractSession Client Wallet) (name : String)
    (context : ContractContext) : Prop where
  isKnown : session.hasContract name = true
  isFound : session.getContract name = .ok context
  isRemoved
    : session.unregisterContractResult name = .ok true
      ∧ ∃ after,
          session.unregisterContract name = .ok after
          ∧ after.hasContract name = false
          ∧ context ∉ after.listContracts
  isDuplicate
    : ∀ params,
        params.name = some name
        → params.trimmedContractId ≠ ""
        → (session.registerContract params = .error (.alreadyRegistered (trim name) session.id)
          ↔ ∃ found, session.getContract name = .ok found)

/-- A name that was registered stays known until it is unregistered or the session is closed, by
induction on the history from its end. The session stays open.
-/
theorem get_performed_of_registered {name : String} {context : ContractContext}
    (notClosed : session.isClosed = false) (found : session.contracts.get name = some context)
    {history : List SessionOperation}
    (noRemoval : ∀ operation ∈ history, operation ≠ .close ∧ operation ≠ .unregisterContract name)
    : (session.performed history).isClosed = false
      ∧ (session.performed history).contracts.get name = some context := by
  induction history generalizing session with
  | nil => exact ⟨notClosed, found⟩
  | cons operation rest ih =>
      obtain ⟨allowed, others⟩ := List.forall_mem_cons.mp noRemoval
      refine ih ?_ ?_ others
      · unfold afterOperation
        cases done : session.operate operation with
        | error error => exact notClosed
        | ok next =>
            have kept := (operate_eq_ok done).2
            rw [if_neg allowed.1] at kept
            exact kept.trans notClosed
      · rcases session.afterOperation_contracts operation with
          ⟨params, _, _, isNew, contracts⟩ | ⟨removed, isRemoval, contracts⟩ | ⟨isClose, _⟩
          | contracts
        · have isOther : name ≠ params.trimmedName := by
            intro same
            have isThere := InsertionMap.has_iff.mpr ⟨context, found⟩
            rw [same, isNew] at isThere
            cases isThere
          rw [contracts, InsertionMap.get_set, if_neg isOther]
          exact found
        · have isOther : name ≠ removed := fun same => allowed.2 (same ▸ isRemoval)
          rw [contracts, InsertionMap.get_delete, if_neg isOther]
          exact found
        · exact absurd isClose allowed.1
        · rw [contracts]
          exact found

/-- An open session that keeps a contract under a name finds it under this name. -/
theorem findsContract_of_get {name : String} {context : ContractContext}
    (kept : session.KeepsTrimmedNames) (notClosed : session.isClosed = false)
    (found : session.contracts.get name = some context)
    : session.FindsContract name context := by
  have isThere : session.contracts.has name = true := InsertionMap.has_iff.mpr ⟨context, found⟩
  have isOpen : session.assertNotClosed = .ok () := by
    rw [assertNotClosed, notClosed]
    rfl
  have isFound : session.getContract name = .ok context := by
    rw [getContract, found]
  refine ⟨isThere, isFound, ⟨?_, ?_⟩, fun params given hasId => ?_⟩
  · rw [unregisterContractResult, isOpen, isThere]
    rfl
  · refine ⟨{ session with contracts := session.contracts.delete name }, ?_, ?_, fun listed => ?_⟩
    · rw [unregisterContract, isOpen]
      rfl
    · exact InsertionMap.get_eq_none_iff.mp
        ((InsertionMap.get_delete ..).trans (if_pos rfl))
    · obtain ⟨other, isOther⟩ := InsertionMap.exists_get_of_mem_values listed
      rw [InsertionMap.get_delete] at isOther
      split at isOther
      · cases isOther
      · rename_i differs
        exact differs ((kept other context isOther).1.symm.trans (kept name context found).1)
  · have isName : params.trimmedName = name := by
      rw [RegisterContractParams.trimmedName, given]
      exact (kept name context found).2.1
    refine ⟨fun _ => ⟨context, isFound⟩, fun _ => ?_⟩
    have notEmpty : name ≠ "" := (kept name context found).2.2
    have isTrimmedName : trim name = name := (kept name context found).2.1
    simp [registerContract, isOpen, notEmpty, hasId, isName, isTrimmedName, isThere, bind,
      Except.bind]

/-- The context that `registerContract` returns. -/
def registeredContext (params : RegisterContractParams) : ContractContext :=
  ⟨params.trimmedName, params.trimmedContractId⟩

/-- The name of a contract that an operation is about. -/
def contractName : SessionOperation → Option String
  | .registerContract params => params.name
  | .unregisterContract name => some name
  | .suspend | .resume | .close | .run => none

/-- An operation on a name leaves all names alone that differ from it when trimmed. -/
theorem getContract_afterOperation {operation : SessionOperation} {name other : String}
    (isAbout : contractName operation = some name) (differs : trim other ≠ trim name)
    : (session.afterOperation operation).getContract other
      = session.getContract other := by
  have sameId : (session.afterOperation operation).id = session.id := by
    unfold afterOperation
    cases done : session.operate operation with
    | error error => rfl
    | ok next => exact (operate_eq_ok done).1
  have sameContract
      : (session.afterOperation operation).contracts.get other
        = session.contracts.get other := by
    rcases session.afterOperation_contracts operation with
      ⟨params, rfl, _, _, contracts⟩ | ⟨removed, rfl, contracts⟩ | ⟨rfl, _⟩ | contracts
    · have isOther : other ≠ params.trimmedName := by
        intro same
        have isGiven : params.name = some name := isAbout
        rw [RegisterContractParams.trimmedName, isGiven] at same
        exact differs (same ▸ trim_trim name)
      rw [contracts, InsertionMap.get_set, if_neg isOther]
    · have isOther : other ≠ removed := by
        intro same
        exact differs (congrArg trim (same.trans (Option.some.inj isAbout)))
      rw [contracts, InsertionMap.get_delete, if_neg isOther]
    · cases isAbout
    · rw [contracts]
  rw [getContract, getContract, sameId, sameContract]

/-- In every history of a session, a name that `registerContract` accepted finds its contract, and
is the one to remove it by and to be rejected by, until it is unregistered or the session closed,
exactly if it has no white space around it; and operations never affect contracts whose trimmed
names differ from theirs.
-/
theorem registered_name_is_uniform_iff_trimmed (id : String) (client : Client)
    (wallet : Option Wallet) (history : List SessionOperation)
    : (∀ front params name later,
        history = front ++ .registerContract params :: later
        → params.name = some name
        → (∃ next, ((opened id client wallet).performed front).registerContract params = .ok next)
        → (∀ operation ∈ later, operation ≠ .close ∧ operation ≠ .unregisterContract name)
        → (FindsContract ((opened id client wallet).performed history) name
              (registeredContext params)
            ↔ trim name = name))
      ∧ ∀ operation name other,
          contractName operation = some name
          → trim other ≠ trim name
          → ((opened id client wallet).performed (history ++ [operation])).getContract other
            = ((opened id client wallet).performed history).getContract other := by
  constructor
  · intro front params name later isHistory given accepted noRemoval
    have kept := keepsTrimmedNames_performed id client wallet history
    constructor
    · intro finds
      obtain ⟨context, found⟩ := InsertionMap.has_iff.mp finds.isKnown
      exact (kept name context found).2.1
    · intro isTrimmedName
      obtain ⟨next, registered⟩ := accepted
      obtain ⟨notClosed, _, _, _, isNext⟩ := registerContract_eq_ok_iff.mp registered
      have isName : params.trimmedName = name := by
        rw [RegisterContractParams.trimmedName, given]
        exact isTrimmedName
      have found : next.contracts.get name = some (registeredContext params) := by
        rw [isNext, InsertionMap.get_set, if_pos isName.symm, registeredContext]
      have nextOpen : next.isClosed = false := by
        rw [isNext]
        exact notClosed
      have goesOn : (opened id client wallet).performed history = next.performed later := by
        rw [isHistory, performed_append, performed_cons, afterOperation_of_registered registered]
      obtain ⟨stillOpen, stillFound⟩ := get_performed_of_registered nextOpen found noRemoval
      rw [goesOn] at kept ⊢
      exact findsContract_of_get kept stillOpen stillFound
  · intro operation name other isAbout differs
    rw [performed_append]
    exact getContract_afterOperation isAbout differs

/-- A contract that is registered with a blank before its name is not known by this name. -/
theorem untrimmed_name_is_not_known
    : ¬ ∀ (history : List SessionOperation) (params : RegisterContractParams) (name : String),
        params.name = some name
        → (∃ next,
            ((opened "session-1" () (none : Option Unit)).performed history).registerContract params
              = .ok next)
        → FindsContract
            ((opened "session-1" () (none : Option Unit)).performed
              (history ++ [.registerContract params]))
            name (registeredContext params) := by
  intro always
  have finds := always [] ⟨some " vault", some "C1"⟩ " vault" rfl ⟨_, rfl⟩
  have unknown
      : ((opened "session-1" () (none : Option Unit)).performed
          [.registerContract ⟨some " vault", some "C1"⟩]).hasContract " vault" = false := by
    decide
  exact Bool.false_ne_true (unknown.symm.trans finds.isKnown)

end ContractSession

end Axionvera.Session
