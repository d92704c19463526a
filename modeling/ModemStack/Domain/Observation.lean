import ModemStack.Domain.Operation

/-!
Observations: a value and where it comes from, the state-separation slots, and the envelopes that
normalizers build.
-/

namespace ModemStack.Domain

open ModemStack.Text

abbrev EpochMillis := Nat

abbrev SourceEpoch := Nat

inductive ObservationAuthority where
  | authoritative
  | derived
  | advisory
deriving DecidableEq

inductive ObservationStaleReason where
  | sourceEpochSuperseded
  | ttlExpired
  | sourceDegraded
deriving DecidableEq

inductive ObservationUnavailableReason where
  | sourceUnavailable
  | deviceAbsent
  | providerUnavailable
deriving DecidableEq

/-- How fresh an observation is. A value is kept while stale; unavailable carries none. -/
inductive ObservationReading (α : Type) where
  | fresh (value : α)
  | stale (since : EpochMillis) (reason : ObservationStaleReason) (value : α)
  | unavailable (since : EpochMillis) (reason : ObservationUnavailableReason)
deriving DecidableEq

structure ObservationEnvelope (α : Type) where
  stableKey : JsString
  generation : DeviceGeneration
  source : JsString
  sourceEpoch : SourceEpoch
  observedAt : EpochMillis
  authority : ObservationAuthority
  reading : ObservationReading α
deriving DecidableEq

/-- What a normalizer needs that it cannot derive from the payload. -/
structure NormalizationContext where
  stableKey : JsString
  generation : DeviceGeneration
  sourceEpoch : SourceEpoch
  observedAt : EpochMillis
  authority : Option ObservationAuthority
deriving DecidableEq

def contextAuthority (context : NormalizationContext) : ObservationAuthority :=
  context.authority.getD .authoritative

def freshObservation {α : Type} (source : JsString) (context : NormalizationContext) (value : α) :
    ObservationEnvelope α where
  stableKey := context.stableKey
  generation := context.generation
  source
  sourceEpoch := context.sourceEpoch
  observedAt := context.observedAt
  authority := contextAuthority context
  reading := .fresh value

def unavailableObservation {α : Type} (source : JsString) (context : NormalizationContext)
    (reason : ObservationUnavailableReason) : ObservationEnvelope α where
  stableKey := context.stableKey
  generation := context.generation
  source
  sourceEpoch := context.sourceEpoch
  observedAt := context.observedAt
  authority := contextAuthority context
  reading := .unavailable context.observedAt reason

/-! ### Desired, applied and observed -/

/-- What an operator asked for. -/
structure DesiredProfile (α : Type) where
  profile : α
  requestedAt : EpochMillis
  requestedBy : JsString
deriving DecidableEq

/-- What was put into force, by which operation and in which generation. -/
structure AppliedConfiguration (α : Type) where
  configuration : α
  appliedAt : EpochMillis
  generation : DeviceGeneration
  operationId : JsString
deriving DecidableEq

/-- What the device itself reports. -/
structure ObservedState (α : Type) where
  observation : ObservationEnvelope α
deriving DecidableEq

end ModemStack.Domain
