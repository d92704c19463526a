import ModemStack.Backend.TransitionPorts
import ModemStack.Domain.Policy

/-!
The desired-state planner: from what is applied, what is desired and what the modem
can do, the operations to run and one receipt for each dimension of the policy.
-/

namespace ModemStack.Ports

open ModemStack.Backend (ReceiptStatus)
open ModemStack.Domain ModemStack.Text

/-! ### Profiles, operations and receipts -/

structure GsmProfileInput where
  connectionName : JsString
  apn : JsString
  username : Option JsString
  password : Option JsString
  homeOnly : Bool
  autoConfig : Bool
  networkId : Option JsString
deriving DecidableEq

/-- `Partial<GsmProfileInput>` -/
structure GsmProfilePatch where
  connectionName : Option JsString
  apn : Option JsString
  username : Option JsString
  password : Option JsString
  homeOnly : Option Bool
  autoConfig : Option Bool
  networkId : Option JsString
deriving DecidableEq

/-- A whole profile is a patch that leaves no required field out. -/
def GsmProfileInput.patch (profile : GsmProfileInput) : GsmProfilePatch where
  connectionName := some profile.connectionName
  apn := some profile.apn
  username := profile.username
  password := profile.password
  homeOnly := some profile.homeOnly
  autoConfig := some profile.autoConfig
  networkId := profile.networkId

inductive MmOp where
  | setRadioModes (preference : DesiredRadio)
  | setPrimarySimSlot (slotIndex : Double)
deriving DecidableEq

inductive NmOp where
  | createGsmProfile (profile : GsmProfileInput)
  | updateGsmProfile (connectionId : JsString) (patch : GsmProfilePatch)
  | activate (connectionId deviceIfname : JsString)
  | deactivate (connectionId deviceIfname : JsString)
deriving DecidableEq

inductive PortTaggedOp where
  | mm (op : MmOp)
  | nm (op : NmOp)
deriving DecidableEq

inductive PolicyDimension where
  | enabled
  | connection
  | roaming
  | radio
  | band
  | simSlot
  | recovery
  | usage
deriving DecidableEq

structure PolicyReceipt where
  dimension : PolicyDimension
  status : ReceiptStatus
  reason : JsString
deriving DecidableEq

structure Plan where
  ops : List PortTaggedOp
  receipts : List PolicyReceipt
deriving DecidableEq

/-! ### The planner's inputs -/

/-- `supportedRats` is a set, listed in the order of insertion. -/
structure ModemCapabilities where
  supportedRats : List RadioAccessTechnology
  simSlotCount : Double
  supportsAutoApn : Bool

structure AppliedCellularState where
  nmActivation : NmActivation
  hasProfile : Bool
  connectionId : Option JsString
  deviceIfname : Option JsString
  appliedApn : Option JsString
  appliedRoaming : Option Bool
  appliedRadioPreference : Option (List RadioAccessTechnology)
  activePrimarySlot : Option Double
  activationFailureReason : Option JsString

/-- A dimension's receipt and its operation, if it needs one. -/
structure DimensionResult where
  receipt : PolicyReceipt
  op : Option PortTaggedOp

structure ProfilePlan where
  connection : PolicyReceipt
  roaming : PolicyReceipt
  op : Option PortTaggedOp

/-- `ranks.join(separator)` -/
def joinRats (separator : JsString) (rats : List RadioAccessTechnology) : JsString :=
  separator.intercalate (rats.map RadioAccessTechnology.text)

/-! ### Profile -/

def profileFromPolicy (desired : DesiredCellularPolicy) : GsmProfileInput :=
  let auto := desired.connection.isAuto
  let auth := if auto then none else desired.connection.auth
  { connectionName := js "ceralive-cellular"
    apn := if auto then [] else desired.connection.apn
    username := auth.bind DesiredAuth.username
    password := auth.bind DesiredAuth.password
    homeOnly := !desired.roaming
    autoConfig := auto
    networkId := none }

/-- `needsWrite` -/
def needsProfileWrite (current : AppliedCellularState) (desired : DesiredCellularPolicy) : Bool :=
  !current.hasProfile || current.appliedApn ≠ some desired.connection.apn ||
    current.appliedRoaming ≠ some desired.roaming

def profileOp (current : AppliedCellularState) (desired : DesiredCellularPolicy) : PortTaggedOp :=
  match current.hasProfile, current.connectionId with
  | true, some connectionId =>
    .nm (.updateGsmProfile connectionId (profileFromPolicy desired).patch)
  | _, _ => .nm (.createGsmProfile (profileFromPolicy desired))

def planNmProfile (current : AppliedCellularState) (desired : DesiredCellularPolicy)
    (capabilities : ModemCapabilities) : ProfilePlan :=
  let apn := desired.connection.apn
  let state := if desired.roaming then js "enabled" else js "disabled"
  if desired.connection.isAuto && !capabilities.supportsAutoApn then
    ⟨⟨.connection, .unsupported, js "Auto-APN is not available on this NetworkManager / modem"⟩,
      ⟨.roaming, .unsupported, js "roaming cannot be applied without a connection profile"⟩, none⟩
  else if needsProfileWrite current desired then
    let verb := if current.hasProfile then js "updating" else js "creating"
    ⟨⟨.connection, .pending, verb ++ js " connection profile for APN '" ++ apn ++ js "'"⟩,
      ⟨.roaming, .pending, js "roaming " ++ state ++ js " via connection profile"⟩,
      some (profileOp current desired)⟩
  else
    ⟨⟨.connection, .applied, js "connection APN '" ++ apn ++ js "' already configured"⟩,
      ⟨.roaming, .applied, js "roaming already " ++ state⟩, none⟩

/-! ### Radio -/

def radioMatches (applied : Option (List RadioAccessTechnology))
    (desired : List RadioAccessTechnology) : Bool :=
  match applied with
  | none => false
  | some applied =>
    if applied.length ≠ desired.length then false
    else (applied.zip desired).all fun pair => pair.1 = pair.2

def planRadio (current : AppliedCellularState) (desired : DesiredCellularPolicy)
    (capabilities : ModemCapabilities) : DimensionResult :=
  let preference := desired.radio.preferenceOrdered
  match preference with
  | [] => ⟨⟨.radio, .failed, js "radio preference must list at least one access technology"⟩, none⟩
  | top :: _ =>
    if top ∉ capabilities.supportedRats then
      let listed := joinRats (js ", ") capabilities.supportedRats
      let supported := if listed = [] then js "none" else listed
      ⟨⟨.radio, .unsupported, js "preferred radio access technology '" ++ top.text ++
        js "' is not supported by this modem (supports " ++ supported ++ js ")"⟩, none⟩
    else if radioMatches current.appliedRadioPreference preference then
      ⟨⟨.radio, .applied, js "radio preference already " ++ joinRats (js " > ") preference⟩, none⟩
    else
      ⟨⟨.radio, .pending, js "setting radio preference to " ++ joinRats (js " > ") preference⟩,
        some (.mm (.setRadioModes desired.radio))⟩

/-! ### SIM slot -/

def planSimSlot (current : AppliedCellularState) (desired : DesiredCellularPolicy)
    (capabilities : ModemCapabilities) : DimensionResult :=
  match desired.simSlot with
  | none => ⟨⟨.simSlot, .applied, js "no primary SIM slot preference set"⟩, none⟩
  | some slot =>
    let count := capabilities.simSlotCount
    if count.le (.finite 1) then
      ⟨⟨.simSlot, .unsupported,
        js "primary SIM slot selection requires a multi-slot modem (this modem has " ++
          count.text ++ js ")"⟩, none⟩
    else if slot.lt (.finite 1) || count.lt slot then
      ⟨⟨.simSlot, .failed, js "SIM slot " ++ slot.text ++ js " is out of range (1.." ++
        count.text ++ js ")"⟩, none⟩
    else if current.activePrimarySlot.any fun active => active.same slot then
      ⟨⟨.simSlot, .applied, js "SIM slot " ++ slot.text ++ js " already primary"⟩, none⟩
    else
      ⟨⟨.simSlot, .pending, js "switching primary SIM slot to " ++ slot.text⟩,
        some (.mm (.setPrimarySimSlot slot))⟩

/-! ### Activation -/

/-- The connection and the device to address it on, when both are known. -/
def AppliedCellularState.address (current : AppliedCellularState) : Option (JsString × JsString) :=
  match current.connectionId, current.deviceIfname with
  | some connectionId, some deviceIfname => some (connectionId, deviceIfname)
  | _, _ => none

/-- `nm === 'activated' || nm === 'activating'` -/
def isUp (nm : NmActivation) : Bool := nm = .activated || nm = .activating

def planConnect (current : AppliedCellularState) : DimensionResult :=
  match current.nmActivation with
  | .activated => ⟨⟨.enabled, .applied, js "connection is active"⟩, none⟩
  | .activating => ⟨⟨.enabled, .pending, js "connection activation in progress"⟩, none⟩
  | .failed =>
    let reason := current.activationFailureReason.getD []
    ⟨⟨.enabled, .failed, js "connection activation failed" ++
      if reason = [] then [] else js ": " ++ reason⟩, none⟩
  | .unmanaged => ⟨⟨.enabled, .unsupported, js "device is not managed by NetworkManager"⟩, none⟩
  | .unavailable | .disconnected | .deactivating =>
    match current.address with
    | none => ⟨⟨.enabled, .pending,
        js "awaiting connection profile and data interface before activation"⟩, none⟩
    | some (connectionId, deviceIfname) => ⟨⟨.enabled, .pending, js "activating connection"⟩,
        some (.nm (.activate connectionId deviceIfname))⟩

def planDisconnect (current : AppliedCellularState) : DimensionResult :=
  match isUp current.nmActivation, current.address with
  | true, some (connectionId, deviceIfname) =>
    ⟨⟨.enabled, .pending, js "deactivating connection"⟩,
      some (.nm (.deactivate connectionId deviceIfname))⟩
  | _, _ => ⟨⟨.enabled, .applied, js "connection is inactive"⟩, none⟩

def planEnabled (current : AppliedCellularState) (desired : DesiredCellularPolicy) :
    DimensionResult :=
  if desired.enabled then planConnect current else planDisconnect current

/-! ### Recovery and usage -/

def planRecovery (desired : DesiredCellularPolicy) : PolicyReceipt :=
  ⟨.recovery, .applied, if desired.recoveryEnabled then js "recovery policy recorded (enabled)"
    else js "recovery disabled (default)"⟩

def planUsage (desired : DesiredCellularPolicy) : PolicyReceipt :=
  let cycleDay := desired.usage.cycleDay.map fun day => js "cycle day " ++ day.text
  let threshold := desired.usage.thresholdBytes.map fun bytes =>
    js "threshold " ++ bytes.text ++ js " bytes"
  let parts := cycleDay.toList ++ threshold.toList
  ⟨.usage, .applied, if parts = [] then js "no usage policy set"
    else js "usage policy recorded (" ++ (js ", ").intercalate parts ++ js ")"⟩

/-! ### The plan -/

def planReconcile (current : AppliedCellularState) (desired : DesiredCellularPolicy)
    (capabilities : ModemCapabilities) : Plan :=
  let profile := planNmProfile current desired capabilities
  let radio := planRadio current desired capabilities
  let simSlot := planSimSlot current desired capabilities
  let enabled := planEnabled current desired
  { ops := profile.op.toList ++ radio.op.toList ++ simSlot.op.toList ++ enabled.op.toList
    receipts := [profile.connection, profile.roaming, radio.receipt, simSlot.receipt,
      enabled.receipt, planRecovery desired, planUsage desired] }

end ModemStack.Ports
