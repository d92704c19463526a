import ModemStack.Backend.AtLease
import ModemStack.Backend.TransitionPreconditions

/-!
The USB-mode transition: one async function, from the entry check to the release of
the interlock.

The outcome of a run carries the step log as it stands when the run ends, which is
`Locals.steps` of its last state. How often a wait polls before its deadline is up
to the clock, so the two waits are given their numbers of polls.
-/

namespace ModemStack.Backend

open ModemStack.Async ModemStack.Async.Program ModemStack.Text ModemStack.UsbMode

inductive TransitionStage where
  | entry
  | inActor
deriving DecidableEq

inductive UsbModeTransitionOutcome where
  | refused (stage : TransitionStage) (reason : JsString)
  | succeeded (newIfname : JsString)
  | failed (degraded : Bool) (reason : JsString)
deriving DecidableEq

/-- How many polls each wait makes before its deadline. -/
structure Polls where
  drop : Nat
  device : Nat

/-- A transition with its construction options. `portMapped`: it was given its own
`resolveIfname`. -/
structure UsbModeTransition where
  catalog : CertifiedCatalog
  audited : Bool
  portMapped : Bool
  watchdogMs : Nat
  reenumerationTimeoutMs : Nat

/-! ### The parts -/

/-- `steps.push(name)` -/
def step (name : String) : TransitionTask Unit :=
  modify fun l => { l with steps := l.steps ++ [js name] }

def releaseInhibit : Option InhibitLease → TransitionTask Unit
  | none => pure ()
  | some lease => do
      step "force-uninhibit"
      attempt (.uninhibit lease)

/-- Give up the inhibition held, if any; also what the watchdog does. -/
def forceUninhibit : TransitionTask Unit := do
  let held := (← get).inhibit
  modify fun l => { l with inhibit := none }
  releaseInhibit held

def defaultResolveIfname (device : UsbDeviceSnapshot) : Option JsString :=
  match device.ifname with
  | none => none
  | some ifname => if ifname = [] then none else some ifname

namespace UsbModeTransition

def lease (self : UsbModeTransition) (allowlistedCommands : List JsString) : AtCommandLease where
  allowlist := computeAtAllowlist allowlistedCommands
  timeoutMs := self.watchdogMs
  audited := self.audited
  onWatchdog := forceUninhibit

def resolveIfname (self : UsbModeTransition) (device : UsbDeviceSnapshot) :
    TransitionTask (Option JsString) :=
  if self.portMapped then ask (.resolveIfname device) else pure (defaultResolveIfname device)

/-! ### The waits -/

def awaitPortDrop (self : UsbModeTransition) (uid : JsString) : Nat → TransitionTask Unit
  | 0 => .fail (.other (js "control port did not drop within " ++
      printNat self.reenumerationTimeoutMs ++ js "ms (uid " ++ uid ++ js ")"))
  | polls + 1 => do
      let devices : List UsbDeviceSnapshot ← ask .enumerate
      if devices.any fun device => device.physicalUid = some uid then do
        attempt .sleep
        self.awaitPortDrop uid polls
      else pure ()

def awaitDevice (self : UsbModeTransition) (uid : JsString) :
    Nat → TransitionTask UsbDeviceSnapshot
  | 0 => .fail (.other (js "device did not re-enumerate within " ++
      printNat self.reenumerationTimeoutMs ++ js "ms (uid " ++ uid ++ js ")"))
  | polls + 1 => do
      let devices : List UsbDeviceSnapshot ← ask .enumerate
      match devices.find? fun candidate => candidate.physicalUid = some uid with
      | some device => pure device
      | none => do
          attempt .sleep
          self.awaitDevice uid polls

end UsbModeTransition

/-! ### The postcondition -/

/-- Why the device that came back is not what the plan promised. -/
def transitionPostconditionFailure (plan : UsbModeTransitionPlan) (device : UsbDeviceSnapshot)
    (lease : AtCommandLease) (inhibitUid : JsString) : TransitionTask (Option JsString) :=
  match plan.proof with
  | .catalogDescriptors transition =>
    let observedMode := detectUsbMode device
    let descriptorsOk := descriptorsMatch device transition.expectedDescriptors
    if observedMode = some transition.target.canonical ∧ descriptorsOk = true then pure none
    else pure (some (js "postcondition mismatch: observed " ++
      observedMode.elim (js "unknown") CanonicalUsbMode.text ++ js " vs target " ++
      transition.target.text ++ js "; descriptors " ++
      if descriptorsOk then js "ok" else js "mismatch"))
  | .runtimeRequery vendor target currentQuery => do
      step "postcondition-runtime-read"
      let response ← lease.run currentQuery inhibitUid
      let observed := readRuntimeCompositionCurrent vendor.name response.raw
      if observed = some target then pure none
      else pure (some (js "runtime readback mismatch: observed " ++
        observed.elim (js "unknown") RuntimeCompositionMode.text ++ js " vs target " ++
        target.text))

/-! ### The transaction -/

/-- Step 3b, for a device whose AT command only writes the configuration. -/
def applySwitch (lease : AtCommandLease) (plan : UsbModeTransitionPlan) (inhibitUid : JsString) :
    TransitionTask Unit :=
  match plan.applyCommand with
  | none => pure ()
  | some applyCommand => do
      step "apply-command"
      let _ ← lease.run applyCommand inhibitUid

/-- Step 5. -/
def uninhibitHeld : TransitionTask Unit := do
  match (← get).inhibit with
  | none => pure ()
  | some held => do
      modify fun l => { l with inhibit := none }
      ask (.uninhibit held)

namespace UsbModeTransition

/-- Steps 2 to 5 and the wait for the device: the switch itself. -/
def switchMode (self : UsbModeTransition) (polls : Polls) (request : UsbModeTransitionRequest)
    (lease : AtCommandLease) (plan : UsbModeTransitionPlan) :
    TransitionTask UsbDeviceSnapshot := do
  step "inhibit"
  let held : InhibitLease ← ask (.inhibit request.inhibitUid)
  modify fun l => { l with inhibit := some held }
  step "at-command"
  let _ ← lease.run plan.atCommand request.inhibitUid
  applySwitch lease plan request.inhibitUid
  step "await-port-drop"
  self.awaitPortDrop request.cachedPhysicalUid polls.drop
  step "uninhibit"
  uninhibitHeld
  step "await-reenumeration"
  self.awaitDevice request.cachedPhysicalUid polls.device

/-- Steps 7 to 9: the proof of success, the new interface and its activation. -/
def conclude (self : UsbModeTransition) (request : UsbModeTransitionRequest)
    (lease : AtCommandLease) (plan : UsbModeTransitionPlan) (device : UsbDeviceSnapshot) :
    TransitionTask UsbModeTransitionOutcome := do
  step "postcondition"
  match ← transitionPostconditionFailure plan device lease request.inhibitUid with
  | some reason => pure (.failed true reason)
  | none => do
      step "resolve-ifname"
      match ← self.resolveIfname device with
      | none => pure (.failed true (js "could not resolve new ifname"))
      | some newIfname => do
          step "reactivate"
          let _ ← ask (.activate request.connectionId newIfname)
          modify fun l => { l with reactivated := true }
          pure (.succeeded newIfname)

/-- The recovery of a step that threw. -/
def recover (error : Failure) : TransitionTask UsbModeTransitionOutcome := do
  forceUninhibit
  attempt .enumerate
  pure (.failed true error.message)

/-- The old connection is restored unless the new interface has been activated. -/
def restore (quiesce : QuiesceLease) : TransitionTask Unit := do
  forceUninhibit
  if (← get).reactivated then pure ()
  else do
    step "release-quiesce"
    attempt (.releaseQuiesce quiesce)

def runTransaction (self : UsbModeTransition) (polls : Polls)
    (request : UsbModeTransitionRequest) (allowlistedCommands : List JsString)
    (plan : UsbModeTransitionPlan) : TransitionTask UsbModeTransitionOutcome := do
  let lease := self.lease allowlistedCommands
  step "nm-quiesce"
  let quiesce : QuiesceLease ← ask (.acquireQuiesce request.connectionId request.deviceIfname)
  (Program.catch (do
    let device ← self.switchMode polls request lease plan
    self.conclude request lease plan device) recover).ensuring (restore quiesce)

def inActor (self : UsbModeTransition) (polls : Polls) (request : UsbModeTransitionRequest) :
    TransitionTask UsbModeTransitionOutcome := do
  step "actor-enter"
  match ← checkTransitionPreconditions self.catalog request with
  | .refused reason => pure (.refused .inActor reason)
  | .accepted plan allowlistedCommands => do
      let _ ← ask (.hold request.stableKey)
      (self.runTransaction polls request allowlistedCommands plan).ensuring do
        step "release-interlock"
        attempt .releaseHold

def execute (self : UsbModeTransition) (polls : Polls) (request : UsbModeTransitionRequest) :
    TransitionTask UsbModeTransitionOutcome := do
  match ← checkTransitionPreconditions self.catalog request with
  | .refused reason => pure (.refused .entry reason)
  | .accepted _ _ => do
      attempt (.enterActor request.stableKey)
      self.inActor polls request

end UsbModeTransition

/-! ### A bench to run it on -/

def benchTransition : PermittedTransition where
  source := .qmi
  target := .mbim
  atCommand := js "AT+QCFG=\"usbnet\",2"
  applyCommand := none
  expectedResponse := js "OK"
  expectsPortDrop := true
  expectedDescriptors := ⟨0, [⟨0x02, 0x0e, 0x00⟩]⟩
  evidenceBundleSha256 := none

def benchSku : SkuDiscriminator := ⟨js "2c7c:0125", js "SKU", js "FW01"⟩

def bench : UsbModeTransition where
  catalog := ⟨[⟨js "2c7c:0125", js "SKU", js "FW01", .qmi, [benchTransition]⟩]⟩
  audited := false
  portMapped := false
  watchdogMs := 200
  reenumerationTimeoutMs := 500

def benchRequest : UsbModeTransitionRequest where
  stableKey := js "slot"
  connectionId := js "uuid-1"
  deviceIfname := js "wwan0"
  cachedPhysicalUid := js "usb-1"
  inhibitUid := js "usb-1"
  confirm := true
  maintenance := true
  strategy := .catalog benchSku .qmi .mbim

/-- The same request without a catalog entry: a Fibocom module goes from 41 to 40. -/
def benchRuntimeRequest : UsbModeTransitionRequest :=
  let mode := fun n : Rat => RuntimeCompositionMode.number (.finite n)
  { benchRequest with
    strategy := .runtime .fibocom none (mode 41) (mode 40) (.available (mode 41) true [mode 40]) }

def benchDevice : UsbDeviceSnapshot where
  bDeviceClass := 0
  interfaces := [⟨0x02, 0x0e, 0x00, some (js "cdc_mbim")⟩]
  physicalUid := some (js "usb-1")
  ifname := some (js "wwan1")

def benchInhibit : InhibitLease := ⟨js "usb-1", 0⟩

def benchQuiesce : QuiesceLease := ⟨js "uuid-1", js "wwan0", 0⟩

/-- A world in which the switch goes well, up to the three answers given. -/
def benchWorld (uninhibited : Except Failure Unit) (activation : ReceiptStatus) (readOk : Bool) :
    Async.World Locals Call Call.Answer Failure := fun history op =>
  match op with
  | .probeReadiness => .ok .high
  | .canDisrupt _ => .ok .allow
  | .enterActor _ | .hold _ | .releaseHold | .releaseQuiesce _ | .record _ | .sleep => .ok ()
  | .acquireQuiesce _ _ => .ok benchQuiesce
  | .inhibit _ => .ok benchInhibit
  | .uninhibit _ => uninhibited
  | .send _ => .ok (some ⟨readOk, js "+GTUSBMODE: 40"⟩)
  | .enumerate => .ok (if history.any fun event => event.op = .enumerate then [benchDevice] else [])
  | .resolveIfname _ => .ok none
  | .activate _ _ => .ok ⟨activation, []⟩

end ModemStack.Backend
