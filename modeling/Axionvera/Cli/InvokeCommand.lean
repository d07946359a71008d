import Axionvera.Cli.ArgumentParsing
import Axionvera.Cli.CommandLine
import Axionvera.Client.SequenceCache
import Axionvera.Foundation.Dialogue
import Axionvera.Foundation.LowerCase
import Axionvera.Signing.TransactionSigner

/-! `axionvera-cli invoke` (`bin/commands/invoke.js`, with `resolveNetwork` of
`bin/commands/shared.js`), as a program that asks an RPC server. How results are printed is left
out.
-/

namespace Axionvera.Cli

open Axionvera.Client.SequenceCache (Account)
open Axionvera.Codegen (StellarSdk)
open Axionvera.Foundation
open Axionvera.Soroban

-----------------------------------------------------------------------------------------
-- The network
-----------------------------------------------------------------------------------------

/-- A network of `NETWORKS`. -/
structure NetworkDefaults where
  passphrase : Option Token
  rpcUrl : Option Token
  horizonUrl : Option Token
  friendbotUrl : Option Token

/-- The networks with their names. -/
def NETWORKS : List (Token × NetworkDefaults) :=
  [
    ("testnet".toList, {
      passphrase := some "Test SDF Network ; September 2015".toList
      rpcUrl := some "https://soroban-testnet.stellar.org".toList
      horizonUrl := some "https://horizon-testnet.stellar.org".toList
      friendbotUrl := some "https://friendbot.stellar.org".toList
    }),
    ("futurenet".toList, {
      passphrase := some "Test SDF Future Network ; October 2022".toList
      rpcUrl := some "https://rpc-futurenet.stellar.org".toList
      horizonUrl := some "https://horizon-futurenet.stellar.org".toList
      friendbotUrl := some "https://friendbot-futurenet.stellar.org".toList
    }),
    ("mainnet".toList, {
      passphrase := some "Public Global Stellar Network ; September 2015".toList
      rpcUrl := some "https://mainnet.sorobanrpc.com".toList
      horizonUrl := some "https://horizon.stellar.org".toList
      friendbotUrl := none
    })
  ]

/-- `NETWORKS[name]`, where a property that every object has is something without these fields. -/
def networkDefaults (name : Token) : Option NetworkDefaults :=
  match NETWORKS.find? (·.1 = name) with
  | some (_, defaults) => some defaults
  | none => if name ∈ inheritedNames then some ⟨none, none, none, none⟩ else none

/-- The variables of the environment that are read. -/
structure CliEnvironment where
  network : Option Token := none
  rpcUrl : Option Token := none
  horizonUrl : Option Token := none
  passphrase : Option Token := none

/-- What `resolveNetwork` returns. -/
structure NetworkConfig where
  network : Token
  passphrase : Option Token
  rpcUrl : Option Token
  horizonUrl : Option Token
  friendbotUrl : Option Token

/-- A text that counts as true in a condition. -/
def truthy (text : Option Token) : Option Token :=
  text.filter (· ≠ [])

/-- The text of an option, if it counts as true. -/
def ParsedArgs.text (parsed : ParsedArgs) (key : String) : Option Token :=
  match parsed.flags.get key.toList with
  | some (.text value) => truthy (some value)
  | _ => none

/-- The texts of an option that is collected. -/
def ParsedArgs.texts (parsed : ParsedArgs) (key : String) : List Token :=
  match parsed.flags.get key.toList with
  | some (.texts values) => values
  | _ => []

/-- Whether a flag is set. -/
def ParsedArgs.isSet (parsed : ParsedArgs) (key : String) : Bool :=
  parsed.flags.get key.toList = some .yes

/-- A transaction with one call, on an account whose number it follows. -/
structure CliTransaction where
  account : Account
  fee : Token
  networkPassphrase : Option Token
  operation : Signing.Operation
  timeout : Nat := 30

/-- A simulation that succeeded: its result, if there is one, and what else it says. -/
structure CliSimulation where
  retval : Option ScVal
  details : String

/-- What is used of the library and of the language: which texts are contracts and accounts, which
servers and transactions can be made (or the message of what is thrown), keys of secrets, texts of
values, and which sigmas end a word.
-/
structure CliSdk extends StellarSdk where
  isFinalSigma : List Nat → List Nat → Bool
  isValidContract : Token → Bool
  isValidEd25519PublicKey : Token → Bool
  newServer : Token → Bool → Except String Unit
  publicKeyOfSecret : Token → Option Token
  randomPublicKey : Token
  argumentError : Token → String
  build : CliTransaction → Except String Unit
  assemble : CliTransaction → CliSimulation → Except String Unit
  scValToNative : ScVal → Except String String

/-- `text.toLowerCase()`. -/
def CliSdk.toLowerCase (sdk : CliSdk) (text : Token) : Token :=
  (lowerPoints sdk.isFinalSigma [] (text.map Char.toNat)).map Char.ofNat

/-- `resolveNetwork`. The error is the message of `fail`. -/
def CliSdk.resolveNetwork (sdk : CliSdk) (env : CliEnvironment) (opts : ParsedArgs)
    : Except String NetworkConfig :=
  let name :=
    sdk.toLowerCase (((opts.text "network").or (truthy env.network)).getD "testnet".toList)
  match networkDefaults name with
  | none =>
      .error
        ("Unknown network \"" ++ String.ofList name
          ++ "\". Supported: testnet, futurenet, mainnet.")
  | some base =>
      .ok {
        network := name
        passphrase := ((opts.text "passphrase").or (truthy env.passphrase)).or base.passphrase
        rpcUrl := ((opts.text "rpc").or (truthy env.rpcUrl)).or base.rpcUrl
        horizonUrl := ((opts.text "horizon").or (truthy env.horizonUrl)).or base.horizonUrl
        friendbotUrl := base.friendbotUrl
      }

-----------------------------------------------------------------------------------------
-- What is asked for
-----------------------------------------------------------------------------------------

/-- The options of `invoke`. -/
def invokeSpec : ArgsSpec where
  aliases := [("-n".toList, "network".toList), ("-y".toList, "yes".toList)]
  booleans := ["yes".toList, "json".toList]
  arrays := ["arg".toList]

/-- What a command line asks for. -/
structure InvokeRequest where
  operation : Signing.Operation
  config : NetworkConfig
  source : Option Token
  asAccount : Option Token
  fee : Token
  yes : Bool
  json : Bool

/-- `(flags.arg || []).map(parseScVal)`, or what the first argument that throws says. -/
def CliSdk.scArgs (sdk : CliSdk) (texts : List Token) : Except String (List ScVal) :=
  texts.mapM fun text =>
    match parseScVal sdk.toStellarSdk text with
    | some value => .ok value
    | none => .error ("Could not parse arguments: " ++ sdk.argumentError text)

/-- The contract of the positional arguments, which has to be one. -/
def CliSdk.contractIdOf (sdk : CliSdk) (positionals : List Token) : Except String Token :=
  match truthy positionals[0]? with
  | some contractId =>
      if sdk.isValidContract contractId then .ok contractId
      else
        .error
          ("\"" ++ String.ofList contractId ++ "\" is not a valid contract id (expected C...).")
  | none => .error "A <contractId> is required."

/-- The method of the positional arguments. -/
def methodOf (positionals : List Token) : Except String Token :=
  match truthy positionals[1]? with
  | some method => .ok method
  | none => .error "A <method> name is required."

/-- `new sdk.rpc.Server(..)` for a configuration. -/
def CliSdk.openServer (sdk : CliSdk) (config : NetworkConfig) : Except String Unit :=
  match config.rpcUrl with
  | some rpcUrl => sdk.newServer rpcUrl ("http://".toList.isPrefixOf rpcUrl)
  | none => .error "Cannot read properties of undefined (reading 'startsWith')"

/-- What the options say, with what was made of the positional arguments. -/
def ParsedArgs.toRequest (parsed : ParsedArgs) (operation : Signing.Operation)
    (config : NetworkConfig) : InvokeRequest where
  operation := operation
  config := config
  source := parsed.text "source"
  asAccount := parsed.text "as"
  fee := (parsed.text "fee").getD "100".toList
  yes := parsed.isSet "yes"
  json := parsed.isSet "json"

/-- The beginning of `run`, which asks nothing: `none` shows the help, and the error is the message
of `fail` or of what is thrown.
-/
def CliSdk.request (sdk : CliSdk) (env : CliEnvironment) (argv : List Token)
    : Except String (Option InvokeRequest) :=
  if argv = [] ∨ "--help".toList ∈ argv ∨ "-h".toList ∈ argv then .ok none
  else do
    let parsed ← invokeSpec.parseArgs argv
    let contractId ← sdk.contractIdOf parsed.positionals
    let method ← methodOf parsed.positionals
    let config ← sdk.resolveNetwork env parsed
    sdk.openServer config
    let scArgs ← sdk.scArgs (parsed.texts "arg")
    return some
      (parsed.toRequest ⟨String.ofList contractId, String.ofList method, scArgs⟩ config)

-----------------------------------------------------------------------------------------
-- What is asked of the server
-----------------------------------------------------------------------------------------

/-- A transaction that was assembled with its simulation, and signed with a secret. -/
structure SignedTransaction where
  transaction : CliTransaction
  simulation : CliSimulation
  secret : Token

/-- What a simulation comes to. -/
inductive CliSimulationAnswer where
  | success (simulation : CliSimulation)
  | error (message : String)

/-- What `sendTransaction` resolves with. -/
structure CliSendAnswer where
  status : String
  hash : String
  errorText : String

/-- What `getTransaction` resolves with. -/
structure CliTransactionAnswer where
  status : String
  returnValue : Option ScVal

/-- Calls of the server, and waits for a timer. -/
inductive CliQuestion where
  | getAccount (publicKey : Token)
  | simulateTransaction (transaction : CliTransaction)
  | sendTransaction (signed : SignedTransaction)
  | getTransaction (hash : String)
  | wait (milliseconds : Nat)

/-- What a call resolves with. -/
abbrev CliAnswer : CliQuestion → Type
  | .getAccount _ => Account
  | .simulateTransaction _ => CliSimulationAnswer
  | .sendTransaction _ => CliSendAnswer
  | .getTransaction _ => CliTransactionAnswer
  | .wait _ => Unit

/-- A command; its error is the message that is printed. -/
abbrev CliCall := Dialogue CliQuestion CliAnswer String

/-- Some server. -/
abbrev CliServer := Surroundings CliQuestion CliAnswer String

/-- A call of the server with how it was answered. -/
abbrev CliExchange := Exchange CliQuestion CliAnswer String

/-- A call whose error is reported with a text in front. -/
def askOr (front : String) (question : CliQuestion) : CliCall (CliAnswer question) :=
  .ask question fun
    | .ok answer => .done answer
    | .error message => .fail (front ++ message)

/-- `loadAccount`. -/
def loadAccount (publicKey network : Token) : CliCall Account :=
  askOr
    ("Could not load account " ++ String.ofList publicKey ++ " on " ++ String.ofList network
      ++ ": ")
    (.getAccount publicKey)

/-- `server.getTransaction`. -/
def getTransaction (hash : String) : CliCall CliTransactionAnswer :=
  Dialogue.request (CliQuestion.getTransaction hash)

/-- `poll`. -/
def poll (hash : String) : Nat → CliCall CliTransactionAnswer
  | 0 => .fail ("Timed out waiting for transaction " ++ hash ++ ".")
  | attempts + 1 => do
      let answer ← getTransaction hash
      if answer.status ≠ "NOT_FOUND" then return answer
      .ask (.wait 1000) fun _ => poll hash attempts

/-- What `run` prints. -/
inductive InvokeOutput where
  | help
  | simulated (request : InvokeRequest) (result : Option String)
  | submitted (request : InvokeRequest) (hash status : String) (result : Option String)

/-- The account of a secret. -/
def CliSdk.loadOwn (sdk : CliSdk) (secret network : Token) : CliCall Account :=
  match sdk.publicKeyOfSecret secret with
  | some publicKey => loadAccount publicKey network
  | none => .fail "Invalid --source secret key (expected S...)."

/-- The account of a transaction: that of the secret, that of `--as`, or one that need not exist. -/
def CliSdk.loadSource (sdk : CliSdk) (request : InvokeRequest) : CliCall Account :=
  match request.source, request.asAccount with
  | some secret, _ => sdk.loadOwn secret request.config.network
  | none, some publicKey =>
      if sdk.isValidEd25519PublicKey publicKey then
        loadAccount publicKey request.config.network
      else
        .fail
          ("\"" ++ String.ofList publicKey
            ++ "\" is not a valid account public key (expected G...).")
  | none, none => pure ⟨String.ofList sdk.randomPublicKey, 0⟩

/-- The transaction of a request. -/
def InvokeRequest.transaction (request : InvokeRequest) (account : Account) : CliTransaction where
  account := account
  fee := request.fee
  networkPassphrase := request.config.passphrase
  operation := request.operation

/-- A simulation that has to succeed. -/
def simulate (transaction : CliTransaction) : CliCall CliSimulation := do
  let answer ← askOr "Simulation request failed: " (.simulateTransaction transaction)
  match answer with
  | .success simulation => pure simulation
  | .error message => .fail ("Simulation failed: " ++ message)

/-- The text of a value, if there is one. -/
def CliSdk.decoded (sdk : CliSdk) : Option ScVal → Except String (Option String)
  | some value => (sdk.scValToNative value).map some
  | none => .ok none

/-- The end of `run` for what was sent: unless it was rejected, it is polled for. -/
def CliSdk.follow (sdk : CliSdk) (request : InvokeRequest) (decoded : Option String)
    (sent : CliSendAnswer) : CliCall InvokeOutput :=
  if sent.status = "ERROR" then .fail ("Submission rejected: " ++ sent.errorText)
  else do
    let final ← poll sent.hash 30
    let result ← .ofExcept (sdk.decoded final.returnValue)
    return .submitted request sent.hash final.status (result.or decoded)

/-- What `run` does with `--source`: the transaction is assembled, signed and sent. -/
def CliSdk.submit (sdk : CliSdk) (request : InvokeRequest) (secret : Token)
    (transaction : CliTransaction) (simulation : CliSimulation) (decoded : Option String)
    : CliCall InvokeOutput :=
  if request.config.network = "mainnet".toList ∧ request.yes = false then
    .fail "Refusing to submit a mainnet transaction without --yes."
  else do
    .ofExcept (sdk.assemble transaction simulation)
    let sent ← askOr "Submission failed: " (.sendTransaction ⟨transaction, simulation, secret⟩)
    sdk.follow request decoded sent

/-- What is done for a request. -/
def CliSdk.perform (sdk : CliSdk) (request : InvokeRequest) : CliCall InvokeOutput := do
  let account ← sdk.loadSource request
  let transaction := request.transaction account
  Dialogue.ofExcept (sdk.build transaction)
  let simulation ← simulate transaction
  let decoded ← .ofExcept (sdk.decoded simulation.retval)
  match request.source with
  | none => return .simulated request decoded
  | some secret => sdk.submit request secret transaction simulation decoded

/-- `run`. -/
def CliSdk.run (sdk : CliSdk) (env : CliEnvironment) (argv : List Token)
    : CliCall InvokeOutput :=
  match sdk.request env argv with
  | .error message => .fail message
  | .ok none => .done .help
  | .ok (some request) => sdk.perform request

end Axionvera.Cli
