import ModemStack.Text.JsString

/-!
The dimensions of a modem's state, and its identity.
-/

namespace ModemStack.Domain

open ModemStack.Text

/-! ### Dimensions -/

inductive Presence where
  | present
  | absent
deriving DecidableEq

inductive SourceHealth where
  | live
  | stale
  | sourceUnavailable
deriving DecidableEq

inductive SimLock where
  | unknown
  | none
  | simPin
  | simPuk
  | simPin2
  | simPuk2
  | netPers
  | permanentlyBlocked
deriving DecidableEq

structure SimSlot where
  index : Nat
  occupied : Bool
  active : Bool
  lock : SimLock
deriving DecidableEq

/-- Membership in `SIM_LOCK_REQUIRES_CARD`. -/
def SimLock.requiresCard : SimLock → Bool
  | .unknown | .none => false
  | _ => true

inductive RadioPower where
  | unknown
  | off
  | low
  | on
deriving DecidableEq

inductive MmState where
  | failed
  | unknown
  | initializing
  | locked
  | disabled
  | disabling
  | enabling
  | enabled
  | searching
  | registered
  | disconnecting
  | connecting
  | connected
deriving DecidableEq

/-- Membership in `MM_STATES_REQUIRING_RADIO`. -/
def MmState.requiresRadio : MmState → Bool
  | .enabled | .searching | .registered | .connecting | .connected | .disconnecting => true
  | _ => false

inductive RegistrationStatus where
  | idle
  | home
  | searching
  | denied
  | unknown
  | roaming
deriving DecidableEq

inductive RadioAccessTechnology where
  | gsm
  | umts
  | lte
  | nr
deriving DecidableEq

/-- The active technologies are a set, listed in the order of insertion. -/
structure Registration where
  status : RegistrationStatus
  activeRats : List RadioAccessTechnology
deriving DecidableEq

def isRegistered (status : RegistrationStatus) : Bool :=
  status = .home || status = .roaming

inductive NmActivation where
  | unmanaged
  | unavailable
  | disconnected
  | activating
  | activated
  | deactivating
  | failed
deriving DecidableEq

structure DataInterface where
  present : Bool
  name : Option JsString
deriving DecidableEq

inductive ReconcileStatus where
  | converged
  | reconciling
  | pending
  | divergent
  | unsupported
deriving DecidableEq

inductive RecoveryStage where
  | idle
  | attributing
  | nmCycle
  | mmCycle
  | reset
  | powerCycle
  | cooldown
  | exhausted
deriving DecidableEq

/-- The number of attempts is an integer; it may be negative until it is checked. -/
structure RecoveryState where
  stage : RecoveryStage
  attempts : Int
  cooldownUntil : Option Nat
deriving DecidableEq

/-! ### Identity -/

inductive IdentityConfidence where
  | high
  | medium
  | low
deriving DecidableEq

inductive EquipmentId where
  | imei (value : JsString) (confidence : IdentityConfidence)
  | serial (value : JsString) (confidence : IdentityConfidence)
  | none
deriving DecidableEq

structure ModemIdentity where
  logicalSlotId : Option JsString
  equipmentId : EquipmentId
  subscriptionId : Option JsString
  ownNumbers : Option (List JsString)
  runtimePath : JsString
deriving DecidableEq

/-- The message of a `DomainError`. -/
structure DomainError where
  message : JsString
deriving DecidableEq

def nonEmptyString (value label : JsString) : Except DomainError JsString :=
  if value = [] then .error ⟨label ++ js " must be a non-empty string"⟩ else .ok value

def logicalSlotId (value : JsString) : Except DomainError JsString :=
  nonEmptyString value (js "logicalSlotId")

def subscriptionId (value : JsString) : Except DomainError JsString :=
  nonEmptyString value (js "subscriptionId")

def subscriberNumber (value : JsString) : Except DomainError JsString :=
  nonEmptyString value (js "subscriberNumber")

def runtimePath (value : JsString) : Except DomainError JsString :=
  nonEmptyString value (js "runtimePath")

def isDigit (c : UInt16) : Bool := 0x30 ≤ c.toNat && c.toNat ≤ 0x39

def gradeImei (value : JsString) : IdentityConfidence :=
  let trimmed := trim value
  if trimmed.all (· = 0x30) then .low
  else if trimmed.all isDigit && (trimmed.length = 15 || trimmed.length = 16) then .high
  else .medium

def imeiEquipmentId (value : JsString) : EquipmentId := .imei value (gradeImei value)

def demoteToLowConfidence : EquipmentId → EquipmentId
  | .imei value _ => .imei value .low
  | .serial value _ => .serial value .low
  | .none => .none

def EquipmentId.confidence : EquipmentId → IdentityConfidence
  | .imei _ confidence => confidence
  | .serial _ confidence => confidence
  | .none => .low

/-- An ambiguous identity must not become the key of a policy. -/
def canBindPolicy (identity : ModemIdentity) : Bool := identity.equipmentId.confidence ≠ .low

/-! ### Names -/

def Presence.text : Presence → JsString
  | .present => js "present"
  | .absent => js "absent"

def SimLock.text : SimLock → JsString
  | .unknown => js "unknown"
  | .none => js "none"
  | .simPin => js "sim-pin"
  | .simPuk => js "sim-puk"
  | .simPin2 => js "sim-pin2"
  | .simPuk2 => js "sim-puk2"
  | .netPers => js "net-pers"
  | .permanentlyBlocked => js "permanently-blocked"

def RadioPower.text : RadioPower → JsString
  | .unknown => js "unknown"
  | .off => js "off"
  | .low => js "low"
  | .on => js "on"

def MmState.text : MmState → JsString
  | .failed => js "failed"
  | .unknown => js "unknown"
  | .initializing => js "initializing"
  | .locked => js "locked"
  | .disabled => js "disabled"
  | .disabling => js "disabling"
  | .enabling => js "enabling"
  | .enabled => js "enabled"
  | .searching => js "searching"
  | .registered => js "registered"
  | .disconnecting => js "disconnecting"
  | .connecting => js "connecting"
  | .connected => js "connected"

def RegistrationStatus.text : RegistrationStatus → JsString
  | .idle => js "idle"
  | .home => js "home"
  | .searching => js "searching"
  | .denied => js "denied"
  | .unknown => js "unknown"
  | .roaming => js "roaming"

def RadioAccessTechnology.text : RadioAccessTechnology → JsString
  | .gsm => js "gsm"
  | .umts => js "umts"
  | .lte => js "lte"
  | .nr => js "5gnr"

def NmActivation.text : NmActivation → JsString
  | .unmanaged => js "unmanaged"
  | .unavailable => js "unavailable"
  | .disconnected => js "disconnected"
  | .activating => js "activating"
  | .activated => js "activated"
  | .deactivating => js "deactivating"
  | .failed => js "failed"

def ReconcileStatus.text : ReconcileStatus → JsString
  | .converged => js "converged"
  | .reconciling => js "reconciling"
  | .pending => js "pending"
  | .divergent => js "divergent"
  | .unsupported => js "unsupported"

def RecoveryStage.text : RecoveryStage → JsString
  | .idle => js "idle"
  | .attributing => js "attributing"
  | .nmCycle => js "nm-cycle"
  | .mmCycle => js "mm-cycle"
  | .reset => js "reset"
  | .powerCycle => js "power-cycle"
  | .cooldown => js "cooldown"
  | .exhausted => js "exhausted"

def IdentityConfidence.text : IdentityConfidence → JsString
  | .high => js "high"
  | .medium => js "medium"
  | .low => js "low"

end ModemStack.Domain
