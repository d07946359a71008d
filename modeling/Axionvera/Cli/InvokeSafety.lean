import Axionvera.Cli.CommandItems
import Axionvera.Cli.InvokeCommand
import Axionvera.Cli.TypedArguments
import Axionvera.Client.SerializableValue

/-! What `axionvera-cli invoke` asks of a server, and which command lines have it submit something.
-/

namespace Axionvera.Cli

open Axionvera.Client.Hydration (bind_eq_ok return_eq_ok)
open Axionvera.Client.SequenceCache (Account)
open Axionvera.Foundation

-----------------------------------------------------------------------------------------
-- What is asked for a request
-----------------------------------------------------------------------------------------

/-- The question submits a transaction. -/
def CliQuestion.isSending : CliQuestion → Bool
  | .sendTransaction _ => true
  | _ => false

/-- The question asks for the state of a transaction. -/
def CliQuestion.isPolling : CliQuestion → Bool
  | .getTransaction _ => true
  | _ => false

/-- The question waits for the timer. -/
def CliQuestion.isWaiting : CliQuestion → Bool
  | .wait _ => true
  | _ => false

/-- No call of the server has failed. -/
def NoCallFailed (history : List CliExchange) : Prop :=
  ∀ exchange ∈ history,
    exchange.question.isWaiting = false → ∃ answer, exchange.answer = .ok answer

/-- Something was submitted. -/
def Sends (history : List CliExchange) : Prop :=
  ∃ exchange ∈ history, exchange.question.isSending = true

/-- How often the state of a transaction was asked for. -/
def polls (history : List CliExchange) : Nat :=
  history.countP (·.question.isPolling)

/-- (IsSource sdk request history account) requires the account to be that of the secret or of
`--as`, as the server has given it, or one that need not exist if neither is given.
-/
def IsSource (sdk : CliSdk) (request : InvokeRequest) (history : List CliExchange)
    (account : Account) : Prop :=
  match request.source, request.asAccount with
  | some secret, _ =>
      ∃ publicKey,
        sdk.publicKeyOfSecret secret = some publicKey
        ∧ Answered history (.getAccount publicKey) account
  | none, some publicKey => Answered history (.getAccount publicKey) account
  | none, none => account = ⟨String.ofList sdk.randomPublicKey, 0⟩

/-- (IsPermitted request) requires a write to the main network to be confirmed. -/
def InvokeRequest.IsPermitted (request : InvokeRequest) : Prop :=
  request.config.network = "mainnet".toList → request.yes = true

/-- (CanDecode sdk value) requires the value to have a text, if there is one. -/
def CliSdk.CanDecode (sdk : CliSdk) (value : Option Soroban.ScVal) : Prop :=
  ∃ text, sdk.decoded value = .ok text

/-- (IsDueFor sdk request history question) requires a question to be the next one for a request:
an account is that of the source, what is simulated is the call on this account, what is sent was
simulated with success and is signed with the secret, once and with permission, and what was sent is
polled for at most 30 times.
-/
def IsDueFor (sdk : CliSdk) (request : InvokeRequest) (history : List CliExchange)
    : CliQuestion → Prop
  | .getAccount publicKey =>
      history = []
      ∧ if request.source.isSome then request.source.bind sdk.publicKeyOfSecret = some publicKey
        else request.asAccount = some publicKey
  | .simulateTransaction transaction =>
      ¬ Sends history
      ∧ sdk.build transaction = .ok ()
      ∧ ∃ account, IsSource sdk request history account ∧ transaction = request.transaction account
  | .sendTransaction signed =>
      ¬ Sends history
      ∧ request.IsPermitted
      ∧ request.source = some signed.secret
      ∧ Answered history (.simulateTransaction signed.transaction) (.success signed.simulation)
      ∧ sdk.build signed.transaction = .ok ()
      ∧ sdk.CanDecode signed.simulation.retval
      ∧ sdk.assemble signed.transaction signed.simulation = .ok ()
      ∧ ∃ account,
          IsSource sdk request history account
          ∧ signed.transaction = request.transaction account
  | .getTransaction hash =>
      polls history < 30
      ∧ ∃ signed sent, Answered history (.sendTransaction signed) sent ∧ sent.hash = hash
  | .wait milliseconds =>
      milliseconds = 1000
      ∧ ∃ hash answer,
          Answered history (.getTransaction hash) answer ∧ answer.status = "NOT_FOUND"

/-- (IsOutput sdk request history result) requires what is printed to be what has happened. Without
a source nothing was sent, and the result is that of a simulation of the call on the account, which
was answered with success. With one a transaction was sent that was simulated with success, the
server has told its state, and the result is what it has returned with this state, or else that of
the simulation.
-/
def IsOutput (sdk : CliSdk) (request : InvokeRequest) (history : List CliExchange)
    : Except String InvokeOutput → Prop
  | .ok (.simulated own result) =>
      own = request
      ∧ request.source = none
      ∧ ¬ Sends history
      ∧ ∃ account simulation,
          IsSource sdk request history account
          ∧ Answered history (.simulateTransaction (request.transaction account))
              (.success simulation)
          ∧ sdk.decoded simulation.retval = .ok result
  | .ok (.submitted own hash status result) =>
      own = request
      ∧ status ≠ "NOT_FOUND"
      ∧ ∃ signed sent answer,
          Answered history (.simulateTransaction signed.transaction) (.success signed.simulation)
          ∧ Answered history (.sendTransaction signed) sent
          ∧ sent.hash = hash
          ∧ sent.status ≠ "ERROR"
          ∧ Answered history (.getTransaction hash) answer
          ∧ answer.status = status
          ∧ sdk.decoded (answer.returnValue.or signed.simulation.retval) = .ok result
  | .ok .help => False
  | .error _ => True

/-- The questions that are in order for a request: each is due, and nothing has failed before. -/
def IsInOrder (sdk : CliSdk) (request : InvokeRequest) (history : List CliExchange)
    (question : CliQuestion) : Prop :=
  NoCallFailed history ∧ IsDueFor sdk request history question

variable {sdk : CliSdk} {request : InvokeRequest} {history : List CliExchange}

/-- Answers do not fail. -/
theorem NoCallFailed.append (clean : NoCallFailed history) (question : CliQuestion)
    (answer : CliAnswer question)
    : NoCallFailed (history ++ [⟨question, .ok answer⟩]) :=
  List.forall_mem_append.mpr ⟨clean, List.forall_mem_singleton.mpr fun _ => ⟨answer, rfl⟩⟩

/-- However a wait ends, no call has failed. -/
theorem NoCallFailed.wait (clean : NoCallFailed history) (milliseconds : Nat)
    (answer : Except String Unit)
    : NoCallFailed (history ++ [⟨.wait milliseconds, answer⟩]) :=
  List.forall_mem_append.mpr
    ⟨clean, List.forall_mem_singleton.mpr fun noWait => (Bool.false_ne_true noWait.symm).elim⟩

/-- Nothing is sent by what does not send. -/
theorem not_sends_append (question : CliQuestion) (answer : Except String (CliAnswer question))
    (nothing : ¬ Sends history) (isOther : question.isSending = false)
    : ¬ Sends (history ++ [⟨question, answer⟩]) := by
  rintro ⟨exchange, member, isSending⟩
  rcases List.mem_append.mp member with isOld | isNew
  · exact nothing ⟨exchange, isOld, isSending⟩
  · obtain rfl := List.mem_singleton.mp isNew
    exact Bool.false_ne_true (isOther.symm.trans isSending)

-----------------------------------------------------------------------------------------
-- The parts of a command
-----------------------------------------------------------------------------------------

section Parts

variable {α : Type} {allowed : List CliExchange → CliQuestion → Prop}
  {ends : List CliExchange → Except String α → Prop}

/-- A question with a text in front of its error is allowed, an error is an end, and the rest goes
on from every answer.
-/
theorem keeps_askOr_bind {front : String} {question : CliQuestion}
    {next : CliAnswer question → CliCall α}
    (isAllowed : allowed history question) (fails : ∀ later message, ends later (.error message))
    (keeps
      : ∀ answer, (next answer).Keeps allowed ends (history ++ [⟨question, .ok answer⟩]))
    : (askOr front question >>= next).Keeps allowed ends history := by
  refine ⟨isAllowed, fun answer => ?_⟩
  cases answer with
  | ok answer => exact keeps answer
  | error message => exact fails _ _

/-- What is computed is gone on with, or its error is an end. -/
theorem keeps_ofExcept_bind {β : Type} {result : Except String β} {next : β → CliCall α}
    (fails : ∀ later message, ends later (.error message))
    (keeps : ∀ value, result = .ok value → (next value).Keeps allowed ends history)
    : (Dialogue.ofExcept result >>= next).Keeps allowed ends history := by
  cases result with
  | ok value => exact keeps value rfl
  | error message => exact fails _ _

end Parts

/-- What was sent is polled for until its state is known, by induction on the attempts. -/
theorem keeps_poll {signed : SignedTransaction} {sent : CliSendAnswer} {attempts : Nat}
    {ends : List CliExchange → Except String CliTransactionAnswer → Prop}
    (clean : NoCallFailed history) (fewPolls : polls history + attempts ≤ 30)
    (isSent : Answered history (.sendTransaction signed) sent)
    (fails : ∀ later message, ends later (.error message))
    (tells
      : ∀ later answer,
          history <+: later
          → Answered later (.getTransaction sent.hash) answer
          → answer.status ≠ "NOT_FOUND"
          → ends later (.ok answer))
    : (poll sent.hash attempts).Keeps (IsInOrder sdk request) ends history := by
  induction attempts generalizing history with
  | zero => exact fails _ _
  | succ attempts ih =>
      rw [poll, getTransaction, Dialogue.keeps_request_bind]
      refine ⟨⟨clean, by omega, signed, sent, isSent, rfl⟩, fun message => fails _ _,
        fun answer => ?_⟩
      have isTold : Answered (history ++ [⟨.getTransaction sent.hash, .ok answer⟩])
          (.getTransaction sent.hash) answer := answered_last (A := CliAnswer) _ answer
      split_ifs with isKnown
      · exact tells _ answer (List.prefix_append history _) isTold isKnown
      · have isUnknown : answer.status = "NOT_FOUND" := not_not.mp isKnown
        have cleanStill := clean.append (.getTransaction sent.hash) answer
        refine ⟨⟨cleanStill, rfl, sent.hash, answer, isTold, isUnknown⟩, fun waited => ?_⟩
        refine ih (cleanStill.wait 1000 waited) ?_ ((isSent.append _).append _) ?_
        · simp only [polls, List.countP_append, List.countP_singleton, CliQuestion.isPolling]
            at fewPolls ⊢
          simp
          omega
        · exact fun later answer goesOn =>
            tells later answer
              (((List.prefix_append history _).trans (List.prefix_append _ _)).trans goesOn)

/-- What is returned takes the place of what was simulated. -/
theorem decoded_or {returned simulated : Option Soroban.ScVal} {result decoded : Option String}
    (isReturned : sdk.decoded returned = .ok result)
    (isSimulated : sdk.decoded simulated = .ok decoded)
    : sdk.decoded (returned.or simulated) = .ok (result.or decoded) := by
  cases returned with
  | none =>
      obtain rfl := Except.ok.inj isReturned
      exact isSimulated
  | some value =>
      rw [Option.some_or]
      rw [CliSdk.decoded] at isReturned ⊢
      cases isNative : sdk.scValToNative value with
      | error message =>
          rw [isNative] at isReturned
          cases isReturned
      | ok text =>
          rw [isNative] at isReturned
          obtain rfl := Except.ok.inj isReturned
          rfl

/-- What was sent is polled for, unless it was rejected. -/
theorem keeps_follow {signed : SignedTransaction} {sent : CliSendAnswer} {decoded : Option String}
    (clean : NoCallFailed history) (noPolls : polls history = 0)
    (isSimulated
      : Answered history (.simulateTransaction signed.transaction) (.success signed.simulation))
    (isDecoded : sdk.decoded signed.simulation.retval = .ok decoded)
    (isSent : Answered history (.sendTransaction signed) sent)
    : (sdk.follow request decoded sent).Keeps (IsInOrder sdk request) (IsOutput sdk request)
        history := by
  have fails (later : List CliExchange) (message : String)
      : IsOutput sdk request later (.error message) := trivial
  rw [CliSdk.follow]
  split_ifs with isRejected
  · exact trivial
  · rw [Dialogue.keeps_bind]
    refine keeps_poll clean (by omega) isSent (fun _ _ => trivial)
      fun later answer goesOn isTold isKnown => ?_
    refine keeps_ofExcept_bind fails fun result isReturned => Dialogue.keeps_pure.mpr ?_
    exact ⟨rfl, isKnown, signed, sent, answer, isSimulated.still goesOn, isSent.still goesOn, rfl,
      isRejected, isTold, rfl, decoded_or isReturned isDecoded⟩

/-- With permission, what was simulated is signed with the secret, sent once, and polled for. -/
theorem keeps_submit {secret : Token} {account : Account} {simulation : CliSimulation}
    {decoded : Option String} (clean : NoCallFailed history) (nothing : ¬ Sends history)
    (noPolls : polls history = 0) (isSecret : request.source = some secret)
    (isSource : IsSource sdk request history account)
    (isSimulated
      : Answered history (.simulateTransaction (request.transaction account)) (.success simulation))
    (isBuilt : sdk.build (request.transaction account) = .ok ())
    (isDecoded : sdk.decoded simulation.retval = .ok decoded)
    : (sdk.submit request secret (request.transaction account) simulation decoded).Keeps
        (IsInOrder sdk request) (IsOutput sdk request) history := by
  have fails (later : List CliExchange) (message : String)
      : IsOutput sdk request later (.error message) := trivial
  rw [CliSdk.submit]
  split_ifs with isRefused
  · exact trivial
  · have isPermitted : request.IsPermitted := fun isMain =>
      Bool.eq_true_of_not_eq_false fun noYes => isRefused ⟨isMain, noYes⟩
    refine keeps_ofExcept_bind fails fun _ isAssembled => ?_
    refine keeps_askOr_bind
      ⟨clean, nothing, isPermitted, isSecret, isSimulated, isBuilt, ⟨decoded, isDecoded⟩,
        isAssembled, account, isSource, rfl⟩ fails fun sent => ?_
    refine keeps_follow (clean.append _ sent) ?_ (isSimulated.append _) isDecoded
      (answered_last (A := CliAnswer) _ sent)
    simpa [polls, CliQuestion.isPolling] using noPolls

/-- The source of a request is loaded, if there is one. -/
theorem keeps_loadSource_bind {α : Type} {next : Account → CliCall α}
    {ends : List CliExchange → Except String α → Prop}
    (fails : ∀ later message, ends later (.error message))
    (keeps
      : ∀ later account,
          NoCallFailed later
          → ¬ Sends later
          → polls later = 0
          → IsSource sdk request later account
          → (next account).Keeps (IsInOrder sdk request) ends later)
    : (sdk.loadSource request >>= next).Keeps (IsInOrder sdk request) ends [] := by
  have clean : NoCallFailed [] := List.forall_mem_nil _
  have nothing : ¬ Sends [] := fun ⟨_, member, _⟩ => List.not_mem_nil member
  -- an account that the server is asked for
  have loads {publicKey : Token}
      (isOwn
        : if request.source.isSome then request.source.bind sdk.publicKeyOfSecret = some publicKey
          else request.asAccount = some publicKey)
      (isSource
        : ∀ account,
            IsSource sdk request [⟨.getAccount publicKey, .ok account⟩] account)
      : (loadAccount publicKey request.config.network >>= next).Keeps (IsInOrder sdk request) ends
          [] := by
    refine keeps_askOr_bind ⟨clean, rfl, isOwn⟩ fails fun account => ?_
    refine keeps _ account (clean.append _ account) (not_sends_append _ _ nothing rfl) rfl ?_
    exact isSource account
  cases hasSource : request.source with
  | some secret =>
      simp only [CliSdk.loadSource, hasSource, CliSdk.loadOwn]
      cases isKey : sdk.publicKeyOfSecret secret with
      | none => exact fails _ _
      | some publicKey =>
          refine loads ?_ fun account => ?_
          · rw [hasSource]
            exact isKey
          · simp only [IsSource, hasSource]
            exact ⟨publicKey, isKey, List.mem_singleton.mpr rfl⟩
  | none =>
      cases hasAccount : request.asAccount with
      | none =>
          simp only [CliSdk.loadSource, hasSource, hasAccount]
          refine keeps [] _ clean nothing rfl ?_
          simp only [IsSource, hasSource, hasAccount]
      | some publicKey =>
          simp only [CliSdk.loadSource, hasSource, hasAccount]
          split_ifs with isValid
          · refine loads ?_ fun account => ?_
            · rw [hasSource]
              exact hasAccount
            · simp only [IsSource, hasSource, hasAccount]
              exact List.mem_singleton.mpr rfl
          · exact fails _ _

/-- The source stays what it is while the history goes on. -/
theorem IsSource.still {later : List CliExchange} {account : Account}
    (isSource : IsSource sdk request history account) (goesOn : history <+: later)
    : IsSource sdk request later account := by
  unfold IsSource at isSource ⊢
  cases hasSource : request.source with
  | some secret =>
      rw [hasSource] at isSource
      obtain ⟨publicKey, isKey, isLoaded⟩ := isSource
      exact ⟨publicKey, isKey, isLoaded.still goesOn⟩
  | none =>
      rw [hasSource] at isSource
      cases hasAccount : request.asAccount with
      | some publicKey =>
          rw [hasAccount] at isSource
          exact Answered.still isSource goesOn
      | none =>
          rw [hasAccount] at isSource
          exact isSource

/-- A request is performed in order. -/
theorem keeps_perform
    : (sdk.perform request).Keeps (IsInOrder sdk request) (IsOutput sdk request) [] := by
  have fails (later : List CliExchange) (message : String)
      : IsOutput sdk request later (.error message) := trivial
  rw [CliSdk.perform]
  refine keeps_loadSource_bind fails fun later account clean nothing noPolls isSource => ?_
  refine keeps_ofExcept_bind fails fun _ isBuilt => ?_
  rw [simulate, bind_assoc]
  refine keeps_askOr_bind ⟨clean, nothing, isBuilt, account, isSource, rfl⟩ fails fun answer => ?_
  cases answer with
  | error message => exact trivial
  | success simulation =>
      rw [pure_bind]
      have cleanStill := clean.append (.simulateTransaction (request.transaction account))
        (.success simulation)
      have nothingStill := not_sends_append (.simulateTransaction (request.transaction account))
        (.ok (.success simulation)) nothing rfl
      have isSourceStill (exchange : CliExchange) :=
        isSource.still (List.prefix_append later [exchange])
      refine keeps_ofExcept_bind fails fun decoded isDecoded => ?_
      cases hasSource : request.source with
      | none =>
          exact ⟨rfl, hasSource, nothingStill, account, simulation, isSourceStill _,
            answered_last (A := CliAnswer) _ _, isDecoded⟩
      | some secret =>
          refine keeps_submit cleanStill nothingStill ?_ hasSource (isSourceStill _)
            (answered_last (A := CliAnswer) _ _) isBuilt isDecoded
          simpa [polls, CliQuestion.isPolling] using noPolls

/-- Whatever a server answers, a command asks nothing unless its command line asks for something. It
simulates before it sends, it sends at most once, what it sends was simulated with success on the
account of the secret and is signed with it, on the main network only with permission, and it polls
for what it sent at most 30 times. It asks nothing more once a call has failed, and what it prints
is what has happened.
-/
theorem invoke_asks_in_order (sdk : CliSdk) (env : CliEnvironment) (argv : List Token)
    (server : CliServer)
    : (∀ request,
        sdk.request env argv = .ok (some request)
        → Dialogue.Justified (IsInOrder sdk request) ((sdk.run env argv).run server []).1
          ∧ IsOutput sdk request ((sdk.run env argv).run server []).1
              ((sdk.run env argv).run server []).2)
      ∧ ((∀ request, sdk.request env argv ≠ .ok (some request))
        → ((sdk.run env argv).run server []).1 = []) := by
  refine ⟨fun request isRequest => ?_, fun noRequest => ?_⟩
  · rw [CliSdk.run, isRequest]
    exact keeps_perform.run server Dialogue.throughout_nil
  · rw [CliSdk.run]
    rcases isRequest : sdk.request env argv with message | _ | request
    · rfl
    · rfl
    · exact absurd isRequest (noRequest request)

-----------------------------------------------------------------------------------------
-- Which command lines submit something
-----------------------------------------------------------------------------------------

/-- (CanSubmit sdk request) requires a request to have a secret with an account, permission, and a
transaction on some account with a simulation that it can be assembled with.
-/
def CanSubmit (sdk : CliSdk) (request : InvokeRequest) : Prop :=
  request.IsPermitted
  ∧ (∃ secret, request.source = some secret ∧ (sdk.publicKeyOfSecret secret).isSome = true)
  ∧ ∃ account simulation,
      sdk.build (request.transaction account) = .ok ()
      ∧ sdk.CanDecode simulation.retval
      ∧ sdk.assemble (request.transaction account) simulation = .ok ()

/-- A server with one account and one simulation, which takes nothing. -/
def simulatingServer (account : Account) (simulation : CliSimulation) : CliServer
  | _, .getAccount _ => .ok account
  | _, .simulateTransaction _ => .ok (.success simulation)
  | _, .sendTransaction _ | _, .getTransaction _ => .error "unreachable"
  | _, .wait _ => .ok ()

variable {server : CliServer}

/-- A question that is answered is gone on from. -/
theorem run_askOr_bind {α : Type} {front : String} {question : CliQuestion}
    (answer : CliAnswer question) {next : CliAnswer question → CliCall α}
    (isAnswered : server history question = .ok answer)
    : (askOr front question >>= next).run server history
      = (next answer).run server (history ++ [⟨question, .ok answer⟩]) := by
  change Dialogue.run server (.ask question _) history = _
  rw [Dialogue.run, isAnswered]
  rfl

/-- What is sent stays part of what is asked. -/
theorem sends_askOr_bind {α : Type} {front : String} {signed : SignedTransaction}
    {next : CliSendAnswer → CliCall α}
    : Sends ((askOr front (.sendTransaction signed) >>= next).run server history).1 := by
  change Sends (Dialogue.run server (.ask (.sendTransaction signed) _) history).1
  rw [Dialogue.run]
  refine ⟨⟨.sendTransaction signed, server history (.sendTransaction signed)⟩, ?_, rfl⟩
  exact (Dialogue.history_prefix_run server _ _).subset
    (List.mem_append_right history (List.mem_singleton.mpr rfl))

/-- A request that can be submitted is submitted by some server. -/
theorem sends_of_canSubmit (canSubmit : CanSubmit sdk request)
    : ∃ server, Sends ((sdk.perform request).run server []).1 := by
  obtain ⟨isPermitted, ⟨secret, hasSource, hasKey⟩, account, simulation, isBuilt, isDecoded,
    isAssembled⟩ := canSubmit
  obtain ⟨publicKey, isKey⟩ := Option.isSome_iff_exists.mp hasKey
  have notRefused : ¬ (request.config.network = "mainnet".toList ∧ request.yes = false) :=
    fun ⟨isMain, noYes⟩ => Bool.false_ne_true (noYes.symm.trans (isPermitted isMain))
  refine ⟨simulatingServer account simulation, ?_⟩
  simp only [CliSdk.perform, CliSdk.loadSource, hasSource, CliSdk.loadOwn, isKey, loadAccount]
  rw [run_askOr_bind account rfl, isBuilt]
  change Sends (Dialogue.run _ (simulate _ >>= _) _).1
  rw [simulate, bind_assoc, run_askOr_bind (CliSimulationAnswer.success simulation) rfl, pure_bind]
  obtain ⟨decoded, isText⟩ := isDecoded
  rw [isText]
  change Sends (Dialogue.run _ (sdk.submit ..) _).1
  rw [CliSdk.submit, if_neg notRefused, isAssembled]
  exact sends_askOr_bind

/-- What is sent is what can be submitted. -/
theorem canSubmit_of_sends (isSent : Sends ((sdk.perform request).run server []).1)
    : CanSubmit sdk request := by
  obtain ⟨exchange, member, isSending⟩ := isSent
  obtain ⟨earlier, later, split⟩ := List.append_of_mem member
  obtain ⟨_, isDue⟩ := (keeps_perform.run server Dialogue.throughout_nil).1 earlier exchange later
    split
  obtain ⟨question, answer⟩ := exchange
  cases question with
  | sendTransaction signed =>
      obtain ⟨_, isPermitted, hasSource, _, isBuilt, isDecoded, isAssembled, account, isSource,
        isOwn⟩ := isDue
      rw [IsSource, hasSource] at isSource
      obtain ⟨publicKey, isKey, _⟩ := isSource
      rw [isOwn] at isBuilt isAssembled
      exact ⟨isPermitted, ⟨signed.secret, hasSource, Option.isSome_iff_exists.mpr ⟨_, isKey⟩⟩,
        account, signed.simulation, isBuilt, isDecoded, isAssembled⟩
  | _ => cases isSending

-----------------------------------------------------------------------------------------
-- What is submitted is what was said
-----------------------------------------------------------------------------------------

/-- The last text that the items give an option, unless it is empty. -/
def lastText (items : List CommandItem) (key : String) : Option Token :=
  truthy (items.filterMap (·.valueFor key.toList)).getLast?

/-- The network that the items name, or the environment, or neither. -/
def CliSdk.namedNetwork (sdk : CliSdk) (env : CliEnvironment) (items : List CommandItem) : Token :=
  sdk.toLowerCase (((lastText items "network").or (truthy env.network)).getD "testnet".toList)

/-- (IsArgument sdk text value) requires a value to be what `parseScVal` makes of a text with the
library. If the text names a type and denotes a value of this type, it is this value.
-/
def CliSdk.IsArgument (sdk : CliSdk) (text : Token) (value : Soroban.ScVal) : Prop :=
  parseScVal sdk.toStellarSdk text = some value
  ∧ ∀ (type : ArgumentType) rest denoted,
      text = type.name.toList ++ ':' :: rest
      → denotes sdk.toStellarSdk type rest = some denoted
      → value = denoted

/-- (IsSaidBy sdk env items signed) requires what is signed to be what the items of a command line
say: the secret and the fee that were given last, the call of the first two positional arguments
with all arguments in their order, for the network that is named; and if that is the main network, a
flag that confirms it. The passphrase does not have to be the one of the network.
-/
structure IsSaidBy (sdk : CliSdk) (env : CliEnvironment) (items : List CommandItem)
    (signed : SignedTransaction) : Prop where
  secret : lastText items "source" = some signed.secret
  fee : signed.transaction.fee = (lastText items "fee").getD "100".toList
  call
    : ∃ contractId method scArgs,
        truthy (items.filterMap (·.positional?))[0]? = some contractId
        ∧ truthy (items.filterMap (·.positional?))[1]? = some method
        ∧ List.Forall₂ sdk.IsArgument (items.filterMap (·.valueFor "arg".toList)) scArgs
        ∧ signed.transaction.operation = ⟨String.ofList contractId, String.ofList method, scArgs⟩
  network
    : ∃ defaults,
        networkDefaults (sdk.namedNetwork env items) = some defaults
        ∧ signed.transaction.networkPassphrase
          = ((lastText items "passphrase").or (truthy env.passphrase)).or defaults.passphrase
  confirmed
    : sdk.namedNetwork env items = "mainnet".toList
      → ∃ item ∈ items, item.sets "yes".toList = true

/-- An argument is what its text denotes, if it denotes something. -/
theorem isArgument_of_parseScVal {text : Token} {value : Soroban.ScVal}
    (isParsed : parseScVal sdk.toStellarSdk text = some value)
    : sdk.IsArgument text value := by
  refine ⟨isParsed, fun type rest denoted isTyped isDenoted => ?_⟩
  subst isTyped
  exact Option.some.inj (isParsed.symm.trans (parseScVal_of_denotes isDenoted))

/-- Arguments are converted one by one, by induction on them. -/
theorem areArguments_of_scArgs {texts : List Token} {values : List Soroban.ScVal}
    (areArgs : sdk.scArgs texts = .ok values)
    : List.Forall₂ sdk.IsArgument texts values := by
  induction texts generalizing values with
  | nil =>
      obtain rfl := Except.ok.inj areArgs
      exact .nil
  | cons text texts ih =>
      simp only [CliSdk.scArgs, List.mapM_cons, bind_eq_ok] at areArgs
      obtain ⟨value, isValue, others, areOthers, areAll⟩ := areArgs
      obtain rfl := Except.ok.inj areAll
      refine .cons (isArgument_of_parseScVal ?_) (ih areOthers)
      cases isParsed : parseScVal sdk.toStellarSdk text with
      | none =>
          rw [isParsed] at isValue
          cases isValue
      | some own =>
          rw [isParsed] at isValue
          exact congrArg some (Except.ok.inj isValue)

/-- A command line that asks for something does so by its positional arguments and options. -/
theorem request_eq_ok {env : CliEnvironment} {argv : List Token}
    (isRequest : sdk.request env argv = .ok (some request))
    : ∃ parsed contractId method config scArgs,
        invokeSpec.parseArgs argv = .ok parsed
        ∧ truthy parsed.positionals[0]? = some contractId
        ∧ truthy parsed.positionals[1]? = some method
        ∧ sdk.resolveNetwork env parsed = .ok config
        ∧ sdk.scArgs (parsed.texts "arg") = .ok scArgs
        ∧ request
          = parsed.toRequest ⟨String.ofList contractId, String.ofList method, scArgs⟩ config := by
  rw [CliSdk.request] at isRequest
  split_ifs at isRequest
  · cases isRequest
  · simp only [bind_eq_ok, return_eq_ok] at isRequest
    obtain ⟨parsed, isParsed, contractId, isContract, method, isMethod, config, isConfig, _, _,
      scArgs, areArgs, isWhole⟩ := isRequest
    refine ⟨parsed, contractId, method, config, scArgs, isParsed, ?_, ?_, isConfig, areArgs,
      (Option.some.inj isWhole).symm⟩
    · rw [CliSdk.contractIdOf] at isContract
      cases first : truthy parsed.positionals[0]? with
      | none =>
          rw [first] at isContract
          cases isContract
      | some own =>
          rw [first] at isContract
          simp only at isContract
          split_ifs at isContract
          exact congrArg some (Except.ok.inj isContract)
    · rw [methodOf] at isMethod
      cases second : truthy parsed.positionals[1]? with
      | none =>
          rw [second] at isMethod
          cases isMethod
      | some own =>
          rw [second] at isMethod
          exact congrArg some (Except.ok.inj isMethod)

/-- The network of a configuration is one that has defaults. -/
theorem resolveNetwork_eq_ok {env : CliEnvironment} {parsed : ParsedArgs} {config : NetworkConfig}
    (isConfig : sdk.resolveNetwork env parsed = .ok config)
    : config.network
        = sdk.toLowerCase
            (((parsed.text "network").or (truthy env.network)).getD "testnet".toList)
      ∧ ∃ defaults,
          networkDefaults config.network = some defaults
          ∧ config.passphrase
            = ((parsed.text "passphrase").or (truthy env.passphrase)).or defaults.passphrase := by
  rw [CliSdk.resolveNetwork] at isConfig
  cases isKnown
      : networkDefaults
          (sdk.toLowerCase
            (((parsed.text "network").or (truthy env.network)).getD "testnet".toList)) with
  | none =>
      simp only [isKnown] at isConfig
      cases isConfig
  | some defaults =>
      simp only [isKnown] at isConfig
      obtain rfl := Except.ok.inj isConfig
      exact ⟨rfl, defaults, isKnown, rfl⟩

section Options

variable {items : List CommandItem} {parsed : ParsedArgs}

/-- An option with one text holds the last one it was given. -/
theorem text_eq_lastText {key : String}
    (isFound : parsed.flags.get key.toList = invokeSpec.found items key.toList)
    (noProto : key.toList ≠ protoKey) (noBoolean : key.toList ∉ invokeSpec.booleans)
    (noArray : key.toList ∉ invokeSpec.arrays)
    : parsed.text key = lastText items key := by
  rw [ParsedArgs.text, isFound, ArgsSpec.found, if_neg noProto, if_neg noBoolean, if_neg noArray,
    lastText]
  cases (items.filterMap (·.valueFor key.toList)).getLast? <;> rfl

/-- An option that is collected holds all its texts. -/
theorem texts_eq_valuesFor {key : String}
    (isFound : parsed.flags.get key.toList = invokeSpec.found items key.toList)
    (noProto : key.toList ≠ protoKey) (noBoolean : key.toList ∉ invokeSpec.booleans)
    (isArray : key.toList ∈ invokeSpec.arrays)
    : parsed.texts key = items.filterMap (·.valueFor key.toList) := by
  rw [ParsedArgs.texts, isFound, ArgsSpec.found, if_neg noProto, if_neg noBoolean, if_pos isArray]
  by_cases noValue : items.filterMap (·.valueFor key.toList) = []
  · rw [if_pos noValue, noValue]
  · rw [if_neg noValue]

/-- A flag that is set was said. -/
theorem exists_sets_of_isSet {key : String}
    (isFound : parsed.flags.get key.toList = invokeSpec.found items key.toList)
    (noProto : key.toList ≠ protoKey) (isBoolean : key.toList ∈ invokeSpec.booleans)
    (isSet : parsed.isSet key = true)
    : ∃ item ∈ items, item.sets key.toList = true := by
  rw [ParsedArgs.isSet, isFound, ArgsSpec.found, if_neg noProto, if_pos isBoolean] at isSet
  by_cases isSaid : items.any (·.sets key.toList) = true
  · exact List.any_eq_true.mp isSaid
  · rw [if_neg isSaid] at isSet
    exact absurd (of_decide_eq_true isSet) (Option.some_ne_none _).symm

end Options

/-- What is sent for a request is its own: its secret signs its transaction, with permission. -/
theorem own_of_sent {signed : SignedTransaction} {answer : Except String CliSendAnswer}
    (isSent : ⟨.sendTransaction signed, answer⟩ ∈ ((sdk.perform request).run server []).1)
    : request.IsPermitted
      ∧ request.source = some signed.secret
      ∧ ∃ account, signed.transaction = request.transaction account := by
  obtain ⟨earlier, later, split⟩ := List.append_of_mem isSent
  obtain ⟨_, isDue⟩ := (keeps_perform.run server Dialogue.throughout_nil).1 earlier _ later split
  obtain ⟨_, isPermitted, hasSource, _, _, _, _, account, _, isOwn⟩ := isDue
  exact ⟨isPermitted, hasSource, account, isOwn⟩

/-- Some server has a command submit something exactly if its command line asks for what can be
submitted. And whatever a server answers, what is submitted is what the command line says, in the
one way of reading it: with the secret and the fee that were given last, the call with all its
arguments in their order, as the library converts them, and on a network that is named `mainnet`
only with a flag that confirms it.
-/
theorem invoke_submits_what_is_said (sdk : CliSdk) (env : CliEnvironment) (argv : List Token)
    : ((∃ server, Sends ((sdk.run env argv).run server []).1)
      ↔ ∃ request, sdk.request env argv = .ok (some request) ∧ CanSubmit sdk request)
      ∧ ∀ server signed answer,
          ⟨.sendTransaction signed, answer⟩ ∈ ((sdk.run env argv).run server []).1
          → ∃ items parts,
              List.Forall₂ (IsSaid invokeSpec) items parts
              ∧ argv = parts.flatten
              ∧ IsSaidBy sdk env items signed := by
  -- only a command line that asks for something has questions asked
  have asks {server : CliServer} {exchange : CliExchange}
      (member : exchange ∈ ((sdk.run env argv).run server []).1)
      : ∃ request,
          sdk.request env argv = .ok (some request)
          ∧ (sdk.run env argv).run server [] = (sdk.perform request).run server [] := by
    rcases isRequest : sdk.request env argv with message | _ | request
    · rw [CliSdk.run, isRequest] at member
      exact absurd member List.not_mem_nil
    · rw [CliSdk.run, isRequest] at member
      exact absurd member List.not_mem_nil
    · exact ⟨request, rfl, by rw [CliSdk.run, isRequest]⟩
  refine ⟨⟨?submitted, ?submits⟩, fun server signed answer isSent => ?_⟩
  case submitted =>
    rintro ⟨server, sends⟩
    obtain ⟨_, member, _⟩ := id sends
    obtain ⟨request, isRequest, same⟩ := asks member
    exact ⟨request, isRequest, canSubmit_of_sends (same ▸ sends)⟩
  case submits =>
    rintro ⟨request, isRequest, canSubmit⟩
    rw [CliSdk.run, isRequest]
    exact sends_of_canSubmit canSubmit
  obtain ⟨request, isRequest, same⟩ := asks isSent
  obtain ⟨isPermitted, hasSource, account, isOwn⟩ := own_of_sent (same ▸ isSent)
  obtain ⟨parsed, contractId, method, config, scArgs, isParsed, isContract, isMethod, isConfig,
    areArgs, rfl⟩ := request_eq_ok isRequest
  obtain ⟨isNamed, defaults, areDefaults, isPassphrase⟩ := resolveNetwork_eq_ok isConfig
  obtain ⟨items, parts, areItems, whole, rfl⟩ := items_of_parseArgs isParsed
  obtain ⟨positionals, areFound⟩ := collect_eq_found (isOf_of_forall₂ areItems)
  have source := text_eq_lastText (areFound "source".toList) (by decide) (by decide) (by decide)
  have fee := text_eq_lastText (areFound "fee".toList) (by decide) (by decide) (by decide)
  have network := text_eq_lastText (areFound "network".toList) (by decide) (by decide) (by decide)
  have passphrase :=
    text_eq_lastText (areFound "passphrase".toList) (by decide) (by decide) (by decide)
  have args := texts_eq_valuesFor (areFound "arg".toList) (by decide) (by decide) (by decide)
  rw [network] at isNamed
  rw [isNamed] at areDefaults
  rw [passphrase] at isPassphrase
  rw [positionals] at isContract isMethod
  refine ⟨items, parts, areItems.imp fun _ _ => isSaid_of_isItemOf, whole, ?_⟩
  exact {
    secret := source.symm.trans hasSource
    fee := by
      rw [isOwn, ← fee]
      rfl
    call := ⟨contractId, method, scArgs, isContract, isMethod,
      areArguments_of_scArgs (args ▸ areArgs), by rw [isOwn]; rfl⟩
    network := ⟨defaults, areDefaults, by rw [isOwn, ← isPassphrase]; rfl⟩
    confirmed := fun isMain =>
      exists_sets_of_isSet (areFound "yes".toList) (by decide) (by decide)
        (isPermitted (isNamed.trans isMain))
  }

end Axionvera.Cli
