import ModemStack.Data.OrderedMap
import ModemStack.Domain.Observation

/-!
The slots of a connection, and the fold of one complete readout of NetworkManager into them.
-/

namespace ModemStack.NetworkManager

open ModemStack.Data ModemStack.Domain ModemStack.Text

inductive NmDeviceState where
  | unknown
  | unmanaged
  | unavailable
  | disconnected
  | prepare
  | config
  | needAuth
  | ipConfig
  | ipCheck
  | secondaries
  | activated
  | deactivating
  | failed
deriving DecidableEq

/-- `TRANSITIONAL_STATES.has(state)` -/
def NmDeviceState.transitional : NmDeviceState → Bool
  | .prepare | .config | .needAuth | .ipConfig | .ipCheck | .secondaries | .deactivating => true
  | _ => false

structure NmBearerBinding where
  connectionId : JsString
  deviceIfname : JsString
  apn : JsString
  autoConfig : Bool
  homeOnly : Bool
deriving DecidableEq

/-- A bearer, or the positive absence of one on a device. -/
inductive NmBearerState where
  | bound (binding : NmBearerBinding)
  | unbound (deviceIfname : JsString)
deriving DecidableEq

def NmBearerState.deviceIfname : NmBearerState → JsString
  | .bound binding => binding.deviceIfname
  | .unbound deviceIfname => deviceIfname

structure NmObservedActiveConnection where
  connectionId : JsString
  apn : JsString
  autoConfig : Bool
  homeOnly : Bool
deriving DecidableEq

structure NmObservedDevice where
  ifname : JsString
  state : NmDeviceState
  activeConnection : Option NmObservedActiveConnection
deriving DecidableEq

/-- One complete readout. -/
structure NmObservationInput where
  context : NormalizationContext
  devices : List NmObservedDevice

inductive NmAppliedLossReason where
  | interfaceAbsent
  | interfaceDetached
  | connectionReplaced
  | activationFailed
deriving DecidableEq

structure NmAppliedLoss where
  connectionId : JsString
  deviceIfname : JsString
  reason : NmAppliedLossReason
  lostAt : EpochMillis
  generation : DeviceGeneration
  previous : AppliedConfiguration NmBearerState
deriving DecidableEq

inductive NmAppliedOutcome where
  | unapplied
  | retained (applied : AppliedConfiguration NmBearerState)
  | pending (applied : AppliedConfiguration NmBearerState) (deviceState : NmDeviceState)
  | lost (loss : NmAppliedLoss)
deriving DecidableEq

structure NmConnectionOutcome where
  connectionId : JsString
  outcome : NmAppliedOutcome
deriving DecidableEq

inductive NmObservationResult where
  | refused (currentGeneration : DeviceGeneration)
  | accepted (generation : DeviceGeneration) (observedAt : EpochMillis)
      (outcomes : List NmConnectionOutcome) (losses : List NmAppliedLoss)
deriving DecidableEq

/-! ### Slots -/

structure ConnectionSlots where
  desired : Option (DesiredProfile NmBearerState)
  applied : Option (AppliedConfiguration NmBearerState)
  observed : Option (ObservedState NmBearerState)
deriving DecidableEq

def ConnectionSlots.empty : ConnectionSlots := ⟨none, none, none⟩

abbrev SlotsByConnection := OrderedMap JsString ConnectionSlots

def slotsFor (slotsByConnection : SlotsByConnection) (id : JsString) : ConnectionSlots :=
  (slotsByConnection.get id).getD .empty

/-- The device the connection is on: as applied, else as desired. -/
def targetIfname (slots : ConnectionSlots) : Option JsString :=
  match slots.applied with
  | some applied => some applied.configuration.deviceIfname
  | none => slots.desired.map fun desired => desired.profile.deviceIfname

/-! ### The fold -/

def SOURCE : JsString := js "networkmanager"

/-- What becomes of the applied slot; a loss clears it. -/
def classifyApplied (id : JsString) (slots : ConnectionSlots) (ifname : JsString)
    (device : Option NmObservedDevice) (observedAt : EpochMillis) : NmAppliedOutcome :=
  match slots.applied with
  | none => .unapplied
  | some applied =>
    let lose (reason : NmAppliedLossReason) : NmAppliedOutcome :=
      .lost ⟨id, ifname, reason, observedAt, applied.generation, applied⟩
    match device with
    | none => lose .interfaceAbsent
    | some device =>
      if device.state = .failed then lose .activationFailed
      else
        match applied.configuration, device.activeConnection with
        | .unbound _, none => .retained applied
        | .unbound _, some _ => lose .connectionReplaced
        | .bound _, none => lose .interfaceDetached
        | .bound _, some active =>
          if active.connectionId ≠ id then lose .connectionReplaced
          else if device.state = .activated then .retained applied
          else if device.state.transitional then .pending applied device.state
          else lose .interfaceDetached

def observedBearer (device : NmObservedDevice) : NmBearerState :=
  match device.activeConnection with
  | none => .unbound device.ifname
  | some active =>
    .bound ⟨active.connectionId, device.ifname, active.apn, active.autoConfig, active.homeOnly⟩

/-- The devices of a readout by name; a later one of a name replaces the earlier. -/
def NmObservationInput.deviceMap (input : NmObservationInput) :
    OrderedMap JsString NmObservedDevice :=
  .ofItems (input.devices.map fun device => (device.ifname, device))

/-- One connection in the loop of the fold: its slots, and its outcome if it has a device. -/
def foldSlots (input : NmObservationInput) (id : JsString) (slots : ConnectionSlots) :
    ConnectionSlots × Option NmConnectionOutcome :=
  match targetIfname slots with
  | none => (slots, none)
  | some ifname =>
    let device := input.deviceMap.get ifname
    let observation :=
      match device with
      | none => unavailableObservation SOURCE input.context .deviceAbsent
      | some device => freshObservation SOURCE input.context (observedBearer device)
    let outcome := classifyApplied id slots ifname device input.context.observedAt
    let applied :=
      match outcome with
      | .lost _ => none
      | _ => slots.applied
    ({ slots with observed := some ⟨observation⟩, applied }, some ⟨id, outcome⟩)

def NmConnectionOutcome.loss? (outcome : NmConnectionOutcome) : Option NmAppliedLoss :=
  match outcome.outcome with
  | .lost loss => some loss
  | _ => none

structure ObservationFold where
  slotsByConnection : SlotsByConnection
  generation : DeviceGeneration
  result : NmObservationResult

/-- A readout of an earlier generation than the last one folded is refused. -/
def foldObservation (slotsByConnection : SlotsByConnection)
    (observedGeneration : Option DeviceGeneration) (input : NmObservationInput) :
    ObservationFold :=
  let generation := input.context.generation
  let accept : ObservationFold :=
    let folded := slotsByConnection.items.map fun item => (item.1, foldSlots input item.1 item.2)
    let outcomes := folded.filterMap fun item => item.2.2
    { slotsByConnection := ⟨folded.map fun item => (item.1, item.2.1)⟩
      generation
      result := .accepted generation input.context.observedAt outcomes
        (outcomes.filterMap NmConnectionOutcome.loss?) }
  match observedGeneration with
  | none => accept
  | some observed =>
    if generation < observed then ⟨slotsByConnection, observed, .refused observed⟩ else accept

end ModemStack.NetworkManager
