import Axionvera.Foundation.InsertionMap
import Axionvera.Session.ContractSession

/-! The registry of contract descriptors (`registry/capabilityRegistry.ts`). Registered descriptors
are objects, to which the keys of the map refer.
-/

namespace Axionvera.Registry

open Axionvera.Foundation
open Axionvera.Session (trim)

/-- `ContractCapability`. -/
inductive ContractCapability where
  | balanceRead
  | assetsRead
  | sharesConvert
  | assetsDeposit
  | assetsWithdraw
  | rewardsClaim
  | rewardsRead
  deriving DecidableEq, Repr

/-- The text of a capability. -/
def ContractCapability.text : ContractCapability → String
  | .balanceRead => "balance:read"
  | .assetsRead => "assets:read"
  | .sharesConvert => "shares:convert"
  | .assetsDeposit => "assets:deposit"
  | .assetsWithdraw => "assets:withdraw"
  | .rewardsClaim => "rewards:claim"
  | .rewardsRead => "rewards:read"

/-- What a method does to the state and takes with it. -/
inductive Mutability where
  | view
  | payable
  | nonpayable
  deriving DecidableEq, Repr

/-- `ContractMethodDescriptor`. -/
structure ContractMethodDescriptor where
  name : String
  capability : ContractCapability
  mutability : Mutability
  description : String
  deriving DecidableEq, Repr

/-- `ContractDescriptor`, with metadata of any kind. A missing text is an empty one, which is
checked alike.
-/
structure ContractDescriptor (μ : Type) where
  type : String
  displayName : String
  version : String
  contractId : Option String
  capabilities : List ContractCapability
  methods : List ContractMethodDescriptor
  metadata : Option μ
  deriving DecidableEq, Repr

/-- `[a-fA-F0-9]`. -/
def isHexDigit (character : Char) : Bool :=
  character.isDigit || ('a' ≤ character && character ≤ 'f') || ('A' ≤ character && character ≤ 'F')

/-- `CONTRACT_ID_PATTERN.test(id)`. -/
def isContractId (id : String) : Bool :=
  let characters := id.toList
  (characters.take 2 = ['0', 'x'] && (characters.drop 2).length = 40
    && (characters.drop 2).all isHexDigit)
  || (characters.length = 56
    && characters.all fun character => character.isUpper || character.isDigit)
  || (characters.length = 64 && characters.all isHexDigit)

variable {μ : Type}

/-- The errors of a method, for the capabilities of its contract. -/
def methodErrors (capabilities : List ContractCapability) (method : ContractMethodDescriptor)
    : List String :=
  (if trim method.name = "" then ["method name is required"] else [])
  ++ (if method.capability ∈ capabilities then []
      else
        ["method " ++ method.name ++ " references unsupported capability "
          ++ method.capability.text])

/-- The errors that `validate` finds. -/
def validate (descriptor : ContractDescriptor μ) : List String :=
  (if trim descriptor.type = "" then ["type is required"] else [])
  ++ (if trim descriptor.displayName = "" then ["displayName is required"] else [])
  ++ (if trim descriptor.version = "" then ["version is required"] else [])
  ++ (if descriptor.contractId.any fun id => id ≠ "" && !isContractId id then
        ["contractId must be a valid EVM, Soroban, or 32-byte hex identifier"]
      else [])
  ++ (if descriptor.capabilities = [] then ["at least one capability is required"] else [])
  ++ (if descriptor.methods = [] then ["at least one method is required"] else [])
  ++ descriptor.methods.flatMap (methodErrors descriptor.capabilities)

/-- `normalize`. -/
def normalize (descriptor : ContractDescriptor μ) : ContractDescriptor μ :=
  { descriptor with
    type := trim descriptor.type
    displayName := trim descriptor.displayName
    version := trim descriptor.version
    contractId := descriptor.contractId.map trim
    capabilities := descriptor.capabilities.eraseDups
  }

/-- The contract id of a descriptor, of which an empty one counts as none. -/
def ContractDescriptor.idKey (descriptor : ContractDescriptor μ) : Option String :=
  descriptor.contractId.filter (· ≠ "")

/-- The registry: the objects that were registered, in order, and `contracts` with references to
them, by their places.
-/
structure CapabilityRegistry (μ : Type) where
  objects : List (ContractDescriptor μ)
  contracts : InsertionMap String Nat

/-- The registry without descriptors. -/
def CapabilityRegistry.initial : CapabilityRegistry μ where
  objects := []
  contracts := .empty

/-- The registry with one more object, under its type and its contract id. -/
def CapabilityRegistry.add (registry : CapabilityRegistry μ) (normalized : ContractDescriptor μ)
    : CapabilityRegistry μ where
  objects := registry.objects ++ [normalized]
  contracts :=
    let reference := registry.objects.length
    let contracts := registry.contracts.set normalized.type reference
    match normalized.idKey with
    | some id => contracts.set id reference
    | none => contracts

/-- `register`. -/
def CapabilityRegistry.register (registry : CapabilityRegistry μ)
    (descriptor : ContractDescriptor μ)
    : Except String (ContractDescriptor μ × CapabilityRegistry μ) :=
  let errors := validate descriptor
  if errors = [] then .ok (normalize descriptor, registry.add (normalize descriptor))
  else .error ("Invalid contract descriptor: " ++ "; ".intercalate errors)

/-- `list`. -/
def CapabilityRegistry.list (registry : CapabilityRegistry μ) : List (ContractDescriptor μ) :=
  registry.contracts.values.eraseDups.filterMap fun reference => registry.objects[reference]?

/-- `lookup`. -/
def CapabilityRegistry.lookup (registry : CapabilityRegistry μ) (typeOrId : String)
    : Option (ContractDescriptor μ) :=
  (registry.contracts.get typeOrId).bind fun reference => registry.objects[reference]?

/-- `getCapabilities`. -/
def CapabilityRegistry.getCapabilities (registry : CapabilityRegistry μ) (typeOrId : String)
    : List ContractCapability :=
  ((registry.lookup typeOrId).map ContractDescriptor.capabilities).getD []

/-- `supportsCapability`. -/
def CapabilityRegistry.supportsCapability (registry : CapabilityRegistry μ) (typeOrId : String)
    (capability : ContractCapability)
    : Bool :=
  (registry.getCapabilities typeOrId).contains capability

end Axionvera.Registry
