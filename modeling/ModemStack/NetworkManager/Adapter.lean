import ModemStack.NetworkManager.ObserveFold
import ModemStack.Ports.Reconcile

/-!
The NetworkManager adapter: desired profiles, applied bearers, and the readouts folded into them.

An event is a call, or the answer of the port to what a call awaits. `now` is the clock at that
moment.
-/

namespace ModemStack.NetworkManager

open ModemStack.Domain ModemStack.Ports ModemStack.Text

/-- What a call of the port throws: an error with its message, or another value. -/
inductive NmThrown where
  | error (message : JsString)
  | value
deriving DecidableEq

def describeError : NmThrown → JsString
  | .error message => message
  | .value => js "NetworkManager rejected the request"

structure GsmProfile extends GsmProfileInput where
  connectionId : JsString

structure NmDesiredRequest where
  profile : GsmProfileInput
  deviceIfname : JsString
  requestedBy : JsString
  connectionId : Option JsString

inductive NmAdapterRefusalReason where
  | noDesiredProfile
  | profileAbsent
  | activationFailed
  | deactivationFailed
  | writeFailed
deriving DecidableEq

inductive NmSaveResult where
  | saved (connectionId : JsString) (desired : DesiredProfile NmBearerState)
  | refused (reason : NmAdapterRefusalReason) (receipt : PolicyReceipt)
deriving DecidableEq

inductive NmApplyResult where
  | applied (applied : AppliedConfiguration NmBearerState) (receipt : PolicyReceipt)
  | refused (reason : NmAdapterRefusalReason) (receipt : PolicyReceipt)
deriving DecidableEq

structure NmApplyOptions where
  operationId : JsString
  generation : DeviceGeneration

namespace NetworkManagerAdapter

/-- Where a call stands. A save awaits `createGsmProfile` or `updateGsmProfile`; an apply awaits
`readGsmProfile` and then `activate`, or `deactivate`. -/
inductive Call where
  | saving (request : NmDesiredRequest)
  | reading (id ifname : JsString) (options : NmApplyOptions)
  | activating (id ifname : JsString) (options : NmApplyOptions) (saved : GsmProfile)
  | deactivating (id ifname : JsString) (options : NmApplyOptions)
  | saved (result : NmSaveResult)
  | applied (result : NmApplyResult)
  | rejected (thrown : NmThrown)

inductive Answer where
  | profile (answer : Except NmThrown GsmProfile)
  | read (answer : Except NmThrown (Option GsmProfile))
  | receipt (answer : Except NmThrown PolicyReceipt)

inductive Event where
  | saveDesiredProfile (request : NmDesiredRequest)
  | releaseDesired (id requestedBy : JsString) (now : EpochMillis)
  | applyDesired (id : JsString) (options : NmApplyOptions)
  | answered (call : Nat) (answer : Answer) (now : EpochMillis)
  | observe (input : NmObservationInput)

end NetworkManagerAdapter

/-- The adapter and its calls. Kept for the proofs: which call recorded the applied slot of a
connection last. -/
structure NetworkManagerAdapter where
  slots : SlotsByConnection
  observedGeneration : Option DeviceGeneration
  calls : Nat → Option NetworkManagerAdapter.Call
  called : Nat
  recordedBy : JsString → Nat

namespace NetworkManagerAdapter

def new : NetworkManagerAdapter := ⟨.empty, none, fun _ => none, 0, fun _ => 0⟩

def failed (message : JsString) : PolicyReceipt := ⟨.connection, .failed, message⟩

def desiredFor (a : NetworkManagerAdapter) (id : JsString) : Option (DesiredProfile NmBearerState) :=
  (a.slots.get id).bind ConnectionSlots.desired

def appliedFor (a : NetworkManagerAdapter) (id : JsString) :
    Option (AppliedConfiguration NmBearerState) :=
  (a.slots.get id).bind ConnectionSlots.applied

def setDesired (a : NetworkManagerAdapter) (id : JsString)
    (desired : DesiredProfile NmBearerState) : NetworkManagerAdapter :=
  { a with slots := a.slots.set id { slotsFor a.slots id with desired := some desired } }

def put (a : NetworkManagerAdapter) (call : Nat) (stands : Call) : NetworkManagerAdapter :=
  { a with calls := Function.update a.calls call (some stands) }

def add (a : NetworkManagerAdapter) (stands : Call) : NetworkManagerAdapter :=
  { a.put a.called stands with called := a.called + 1 }

def refuse (a : NetworkManagerAdapter) (call : Nat) (reason : NmAdapterRefusalReason)
    (message : JsString) : NetworkManagerAdapter :=
  a.put call (.applied (.refused reason (failed message)))

/-- The applied slot is recorded, and the call settles. -/
def record (a : NetworkManagerAdapter) (call : Nat) (id : JsString) (configuration : NmBearerState)
    (options : NmApplyOptions) (now : EpochMillis) (receipt : PolicyReceipt) :
    NetworkManagerAdapter :=
  let applied : AppliedConfiguration NmBearerState :=
    ⟨configuration, now, options.generation, options.operationId⟩
  { a.put call (.applied (.applied applied receipt)) with
    slots := a.slots.set id { slotsFor a.slots id with applied := some applied }
    recordedBy := Function.update a.recordedBy id call }

/-- `saveDesiredProfile` goes on with the profile that was written. -/
def saved (a : NetworkManagerAdapter) (call : Nat) (request : NmDesiredRequest)
    (answer : Except NmThrown GsmProfile) (now : EpochMillis) : NetworkManagerAdapter :=
  match answer with
  | .error thrown => a.put call (.saved (.refused .writeFailed (failed (describeError thrown))))
  | .ok saved =>
    let id := saved.connectionId
    let desired : DesiredProfile NmBearerState :=
      ⟨.bound ⟨id, request.deviceIfname, request.profile.apn, request.profile.autoConfig,
        request.profile.homeOnly⟩, now, request.requestedBy⟩
    (a.setDesired id desired).put call (.saved (.saved id desired))

def releaseDesired (a : NetworkManagerAdapter) (id requestedBy : JsString) (now : EpochMillis) :
    NetworkManagerAdapter × NmSaveResult :=
  match (a.slots.get id).bind targetIfname with
  | none => (a, .refused .noDesiredProfile (failed (js "no tracked device for connection " ++ id)))
  | some ifname =>
    let desired : DesiredProfile NmBearerState := ⟨.unbound ifname, now, requestedBy⟩
    (a.setDesired id desired, .saved id desired)

/-- `applyDesired`, to its first await. -/
def applyDesired (a : NetworkManagerAdapter) (id : JsString) (options : NmApplyOptions) :
    NetworkManagerAdapter :=
  match a.desiredFor id with
  | none =>
    a.add (.applied (.refused .noDesiredProfile
      (failed (js "connection " ++ id ++ js " has no desired profile"))))
  | some desired =>
    match desired.profile with
    | .unbound deviceIfname => a.add (.deactivating id deviceIfname options)
    | .bound binding => a.add (.reading id binding.deviceIfname options)

/-- `#activate` goes on with the profile as NetworkManager holds it. A read that throws is not
caught. -/
def profileRead (a : NetworkManagerAdapter) (call : Nat) (id ifname : JsString)
    (options : NmApplyOptions) : Except NmThrown (Option GsmProfile) → NetworkManagerAdapter
  | .error thrown => a.put call (.rejected thrown)
  | .ok none =>
    a.refuse call .profileAbsent
      (js "connection " ++ id ++ js " is no longer saved in NetworkManager")
  | .ok (some saved) => a.put call (.activating id ifname options saved)

/-- `#activate` goes on with the receipt. -/
def activated (a : NetworkManagerAdapter) (call : Nat) (id ifname : JsString)
    (options : NmApplyOptions) (saved : GsmProfile) (answer : Except NmThrown PolicyReceipt)
    (now : EpochMillis) : NetworkManagerAdapter :=
  match answer with
  | .error thrown => a.refuse call .activationFailed (describeError thrown)
  | .ok activation =>
    if activation.status ≠ .applied then
      a.put call (.applied (.refused .activationFailed activation))
    else
      a.record call id (.bound ⟨id, ifname, saved.apn, saved.autoConfig, saved.homeOnly⟩) options
        now activation

/-- `#deactivate` goes on with the receipt. -/
def deactivated (a : NetworkManagerAdapter) (call : Nat) (id ifname : JsString)
    (options : NmApplyOptions) (answer : Except NmThrown PolicyReceipt) (now : EpochMillis) :
    NetworkManagerAdapter :=
  match answer with
  | .error thrown => a.refuse call .deactivationFailed (describeError thrown)
  | .ok result =>
    if result.status ≠ .applied then
      a.put call (.applied (.refused .deactivationFailed result))
    else a.record call id (.unbound ifname) options now result

def answered (a : NetworkManagerAdapter) (call : Nat) (answer : Answer) (now : EpochMillis) :
    NetworkManagerAdapter :=
  match a.calls call, answer with
  | some (.saving request), .profile answer => a.saved call request answer now
  | some (.reading id ifname options), .read answer => a.profileRead call id ifname options answer
  | some (.activating id ifname options saved), .receipt answer =>
    a.activated call id ifname options saved answer now
  | some (.deactivating id ifname options), .receipt answer =>
    a.deactivated call id ifname options answer now
  | _, _ => a

def observe (a : NetworkManagerAdapter) (input : NmObservationInput) :
    NetworkManagerAdapter × NmObservationResult :=
  let folded := foldObservation a.slots a.observedGeneration input
  ({ a with slots := folded.slotsByConnection, observedGeneration := some folded.generation },
    folded.result)

def step (a : NetworkManagerAdapter) : Event → NetworkManagerAdapter
  | .saveDesiredProfile request => a.add (.saving request)
  | .releaseDesired id requestedBy now => (a.releaseDesired id requestedBy now).1
  | .applyDesired id options => a.applyDesired id options
  | .answered call answer now => a.answered call answer now
  | .observe input => (a.observe input).1

def run (events : List Event) : NetworkManagerAdapter := events.foldl step new

end NetworkManagerAdapter

end ModemStack.NetworkManager
