import Mathlib.Data.List.Nodup
import ModemStack.Domain.Operation

/-!
What a provider declares, what it is asked, and what a match says.

The functions of a provider that answer later are known by reference; what they answer is up to
the device.
-/

namespace ModemStack.Providers

open ModemStack.Domain ModemStack.Text

inductive ProviderTransport where
  | usb
  | pci
  | network
  | modemmanager
deriving DecidableEq

def ProviderTransport.text : ProviderTransport → JsString
  | .usb => js "usb"
  | .pci => js "pci"
  | .network => js "network"
  | .modemmanager => js "modemmanager"

inductive PassiveFactKind where
  | usb
  | pci
  | interface
  | driver
  | gateway
  | model
  | firmware
deriving DecidableEq

def PassiveFactKind.text : PassiveFactKind → JsString
  | .usb => js "usb"
  | .pci => js "pci"
  | .interface => js "interface"
  | .driver => js "driver"
  | .gateway => js "gateway"
  | .model => js "model"
  | .firmware => js "firmware"

inductive EvidenceStrength where
  | none
  | weak
  | moderate
  | strong
deriving DecidableEq

/-- `Exclude<EvidenceStrength, 'none'>`: what a matcher or an answer may claim. -/
abbrev ClaimedStrength := { strength : EvidenceStrength // strength ≠ .none }

theorem strong_ne_none : EvidenceStrength.strong ≠ .none := by decide

inductive MatcherScore where
  | unsupported
  | maybe
  | likely
  | supported
deriving DecidableEq

inductive MatcherSignal where
  | match
  | mismatch
  | unknown
deriving DecidableEq

structure PassiveFact where
  kind : PassiveFactKind
  value : JsString
deriving DecidableEq

structure ProviderMatchRequest where
  physicalModemId : PhysicalModemId
  generation : DeviceGeneration
  transport : ProviderTransport
  passiveFacts : List PassiveFact
  composition : JsString
  firmware : Option JsString
deriving DecidableEq

structure ProviderExecutionContext where
  request : ProviderMatchRequest
  profile : JsString
deriving DecidableEq

/-! ### Providers -/

/-- An async function, told apart from every other. -/
abbrev FunctionRef := Nat

structure PassiveMatcher where
  id : JsString
  fact : PassiveFactKind
  expected : List JsString
  profiles : List JsString
  strength : ClaimedStrength
  required : Bool

structure FingerprintResult where
  signal : MatcherSignal
  strength : ClaimedStrength
  profiles : List JsString
  detail : JsString

structure UnauthenticatedProbe where
  id : JsString
  run : FunctionRef

structure CapabilityResult where
  signal : MatcherSignal
  strength : ClaimedStrength
  detail : JsString

structure CapabilityReader where
  id : JsString
  read : FunctionRef

inductive AuthenticatedProfileResult where
  | matched (profile detail : JsString)
  | refused (detail : JsString)
  | unavailable (detail : JsString)

def AuthenticatedProfileResult.detail : AuthenticatedProfileResult → JsString
  | .matched _ detail | .refused detail | .unavailable detail => detail

structure AuthenticatedProfile where
  algorithm : JsString
  authenticate : FunctionRef

inductive ProviderAccess where
  | readOnly
  | readWrite
deriving DecidableEq

structure ProviderOperationsSurface where
  access : ProviderAccess
deriving DecidableEq

/-- `operations` may throw. -/
structure ProviderDefinition (ε : Type) where
  id : JsString
  profileVersion : JsString
  eligibleTransports : List ProviderTransport
  passiveMatchers : List PassiveMatcher
  unauthenticatedProbes : List UnauthenticatedProbe
  authenticatedProfile : Option AuthenticatedProfile
  capabilityReaders : List CapabilityReader
  operations : JsString → Except ε ProviderOperationsSurface

/-! ### Results -/

inductive MatcherStage where
  | transportEligibility
  | passiveFacts
  | unauthenticatedFingerprint
  | authenticatedProfile
  | capabilityRead
deriving DecidableEq

structure MatcherEvidence where
  provider : JsString
  profile : Option JsString
  stage : MatcherStage
  source : JsString
  signal : MatcherSignal
  strength : EvidenceStrength
  detail : JsString
deriving DecidableEq

/-- `confidence` is an exact rational. -/
structure MatchResultBase where
  score : MatcherScore
  confidence : Rat
  evidence : List MatcherEvidence
  conflicts : List MatcherEvidence
  generation : DeviceGeneration
  physicalModemId : PhysicalModemId
deriving DecidableEq

inductive UnresolvedStatus where
  | unsupported
  | ambiguous
deriving DecidableEq

/-- A provider, its profile and its operations come with the status `selected` only. -/
inductive ProviderMatchResult where
  | unresolved (status : UnresolvedStatus) (base : MatchResultBase)
  | selected (provider profile : JsString) (operations : ProviderOperationsSurface)
      (writable : Bool) (base : MatchResultBase)
deriving DecidableEq

/-! ### The registry -/

/-- The revision counts the registrations. -/
structure ProviderRegistry (ε : Type) where
  definitions : List (ProviderDefinition ε)
  revision : Nat
  distinct : (definitions.map ProviderDefinition.id).Nodup
  counted : revision = definitions.length

namespace ProviderRegistry

variable {ε : Type}

def list (registry : ProviderRegistry ε) : List (ProviderDefinition ε) := registry.definitions

/-- Two registries with the same definitions are the same. -/
theorem ext_definitions {registry other : ProviderRegistry ε}
    (same : registry.definitions = other.definitions) : registry = other := by
  obtain ⟨definitions, revision, distinct, counted⟩ := registry
  obtain ⟨definitions', revision', distinct', counted'⟩ := other
  cases same
  cases counted
  cases counted'
  rfl

end ProviderRegistry

end ModemStack.Providers
