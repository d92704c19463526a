import ModemStack.Async.Drive
import ModemStack.Backend.DeviceClassifier
import ModemStack.Certify.Bundle

/-!
Transition evidence: a certified mode switch, watched while it is carried out.

What is sent comes from the catalog, but only `atCommand` is sent and recorded.
-/

namespace ModemStack.Certify

open ModemStack.Async ModemStack.Backend ModemStack.Text ModemStack.UsbMode Program

/-- A device with all that the capture reads of it. -/
structure Snapshot extends UsbDeviceSnapshot, TargetDevice

def descriptorsOf (device : UsbDeviceSnapshot) : ExpectedDescriptors where
  deviceClass := device.bDeviceClass
  interfaces := device.interfaces.map fun i =>
    ⟨i.interfaceClass, i.interfaceSubClass, i.interfaceProtocol⟩

/-! ### The dependencies -/

inductive CaptureCall where
  | enumerate
  | send (command : JsString)
  | now
  /-- `now() >= deadline` -/
  | expired
  | sleep

abbrev CaptureCall.Answer : CaptureCall → Type
  | .enumerate => List Snapshot
  | .send _ => Unit
  | .now => Double
  | .expired => Bool
  | .sleep => Unit

abbrev CaptureTask : Type → Type := Program Unit CaptureCall CaptureCall.Answer CertifyError

structure TransitionCaptureInput where
  targetMode : MmUsbMode
  device : Snapshot
  firmwareRevision : Option JsString

/-! ### What is certified -/

def isMmMode : CanonicalUsbMode → Option MmUsbMode
  | .qmi => some .qmi
  | .mbim => some .mbim
  | .ecmNcm => some .ecmNcm
  | .rndis | .routerEthernet => none

/-- The device's place, and the transition that is carried out. -/
structure CertifiedTransition where
  physicalUid : JsString
  fromMode : MmUsbMode
  transition : PermittedTransition

/-- The value, or a `CertifyError` thrown for its lack. -/
def require {α : Type} (value : Option α) (message : JsString) : Except CertifyError α :=
  value.elim (.error ⟨message⟩) .ok

/-- The checks before anything is sent. -/
def certifiedTransition (catalog : CertifiedCatalog) (input : TransitionCaptureInput) :
    Except CertifyError CertifiedTransition := do
  let before := input.device
  let physicalUid ← require before.physicalUid
    (js "device has no stable physical UID; cannot track re-enumeration")
  let detected := detectUsbMode before.toUsbDeviceSnapshot
  let fromMode ← require (detected.bind isMmMode)
    (js "device is not in an MM-manageable mode (detected " ++
      detected.elim (js "none") CanonicalUsbMode.text ++ js "); cannot certify a transition")
  let sku ← require (skuOf before.toTargetDevice input.firmwareRevision)
    (js "device is missing a model or ModemManager firmware revision; SKU is not certifiable")
  let entry ← require (findCatalogEntry catalog sku)
    (js "no certified catalog entry for SKU " ++ sku.vidPid ++ js "/" ++ sku.model ++ js "/" ++
      sku.firmwarePrefix)
  let transition ← require (findPermittedTransition entry fromMode input.targetMode)
    (js "no permitted transition " ++ fromMode.text ++ js " -> " ++ input.targetMode.text ++
      js " in the catalog for " ++ sku.vidPid)
  return ⟨physicalUid, fromMode, transition⟩

/-! ### The capture -/

def byPhysicalUid (devices : List Snapshot) (physicalUid : JsString) : Option Snapshot :=
  devices.find? fun device => device.physicalUid = some physicalUid

def awaited (what : JsString) : CertifyError := ⟨js "transition timed out waiting for " ++ what⟩

/-- Polls until something is found; `polls` is how often at most. -/
def pollUntil {α : Type} (found : List Snapshot → Option α) (what : JsString) :
    Nat → CaptureTask α
  | 0 => .fail (awaited what)
  | polls + 1 => do
      let devices : List Snapshot ← perform CaptureCall.enumerate
      match found devices with
      | some value => pure value
      | none => do
          let expired : Bool ← perform CaptureCall.expired
          if expired then .fail (awaited what)
          else do
            let _ : Unit ← perform CaptureCall.sleep
            pollUntil found what polls

/-- A wait begins with a look at the clock, for its deadline. -/
def wait {α : Type} (found : List Snapshot → Option α) (what : JsString) (polls : Nat) :
    CaptureTask α := do
  let _ : Double ← perform CaptureCall.now
  pollUntil found what polls

def portDropped (physicalUid : JsString) (devices : List Snapshot) : Option Unit :=
  if (byPhysicalUid devices physicalUid).isNone then some () else none

/-- The composition tells the mode: a `usbnet` switch keeps the PID. -/
def reEnumerated (physicalUid : JsString) (targetMode : MmUsbMode) (devices : List Snapshot) :
    Option Snapshot :=
  (byPhysicalUid devices physicalUid).filter fun candidate =>
    detectUsbMode candidate.toUsbDeviceSnapshot = some targetMode.canonical

def stamp (event : TimelineStep) : CaptureTask (TimelineStep × Double) := do
  let atMs : Double ← perform CaptureCall.now
  pure (event, atMs)

def awaitPortDrop (polls : Nat) (certified : CertifiedTransition) :
    CaptureTask (List (TimelineStep × Double)) :=
  if certified.transition.expectsPortDrop then do
    wait (portDropped certified.physicalUid) (js "port drop") polls
    let dropped ← stamp .portDrop
    pure [dropped]
  else pure []

def captureTransitionEvidence (polls : Nat) (catalog : CertifiedCatalog)
    (input : TransitionCaptureInput) : CaptureTask TransitionEvidence :=
  match certifiedTransition catalog input with
  | .error error => .fail error
  | .ok certified => do
      let sent ← stamp .commandSent
      let _ : Unit ← perform (CaptureCall.send certified.transition.atCommand)
      let dropped ← awaitPortDrop polls certified
      let after ← wait (reEnumerated certified.physicalUid input.targetMode)
        (js "re-enumeration in the target mode") polls
      let back ← stamp .reEnumeration
      pure {
        source := certified.fromMode
        target := input.targetMode
        atCommand := certified.transition.atCommand
        expectedResponse := certified.transition.expectedResponse
        expectsPortDrop := certified.transition.expectsPortDrop
        beforeDescriptors := descriptorsOf input.device.toUsbDeviceSnapshot
        afterDescriptors := descriptorsOf after.toUsbDeviceSnapshot
        timeline := [sent] ++ dropped ++ [back] }

/-! ### What the evidence says -/

/-- The evidence of a transition, and the device that came back. -/
structure EvidenceOf (input : TransitionCaptureInput) (certified : CertifiedTransition)
    (evidence : TransitionEvidence) : Prop where
  source : evidence.source = certified.fromMode
  target : evidence.target = input.targetMode
  atCommand : evidence.atCommand = certified.transition.atCommand
  expectedResponse : evidence.expectedResponse = certified.transition.expectedResponse
  expectsPortDrop : evidence.expectsPortDrop = certified.transition.expectsPortDrop
  after : ∃ after : Snapshot, evidence.afterDescriptors = descriptorsOf after.toUsbDeviceSnapshot ∧
    after.physicalUid = some certified.physicalUid ∧
    detectUsbMode after.toUsbDeviceSnapshot = some input.targetMode.canonical

section Waits

variable {α : Type} {found : List Snapshot → Option α} {what : JsString}
  {history : List (Event Unit CaptureCall CaptureCall.Answer CertifyError)}

/-- What a wait returns was found. -/
theorem ends_pollUntil (polls : Nat) :
    (pollUntil found what polls).Ends (fun _ outcome _ =>
      OnOutcome (fun value => ∃ devices, found devices = some value) (fun _ => True) outcome)
      () history := by
  induction polls generalizing history with
  | zero => trivial
  | succ polls ih =>
    refine ends_monad_bind.mpr (ends_perform.mpr ?_)
    intro answer
    cases answer with
    | error => trivial
    | ok devices =>
      rw [onOutcome_ok]
      cases isFound : found devices with
      | some => exact ⟨devices, isFound⟩
      | none =>
        dsimp only
        refine ends_monad_bind.mpr (ends_perform.mpr ?_)
        intro answer
        cases answer with
        | error => trivial
        | ok =>
          rw [onOutcome_ok]
          split
          · trivial
          · refine ends_monad_bind.mpr (ends_perform.mpr ?_)
            intro answer
            cases answer with
            | error => trivial
            | ok => exact ih

theorem ends_wait (polls : Nat) :
    (wait found what polls).Ends (fun _ outcome _ =>
      OnOutcome (fun value => ∃ devices, found devices = some value) (fun _ => True) outcome)
      () history := by
  refine ends_monad_bind.mpr (ends_perform.mpr ?_)
  intro answer
  cases answer with
  | error => trivial
  | ok => exact ends_pollUntil polls

end Waits

theorem reEnumerated_some {physicalUid : JsString} {targetMode : MmUsbMode}
    {devices : List Snapshot} {after : Snapshot}
    (back : reEnumerated physicalUid targetMode devices = some after) :
    after.physicalUid = some physicalUid ∧
      detectUsbMode after.toUsbDeviceSnapshot = some targetMode.canonical := by
  rw [reEnumerated, Option.filter_eq_some_iff] at back
  obtain ⟨found, inMode⟩ := back
  have samePlace := List.find?_some found
  exact ⟨of_decide_eq_true samePlace, of_decide_eq_true inMode⟩

/-- A capture that succeeds has seen the certified transition through. -/
theorem ends_capture (polls : Nat) (catalog : CertifiedCatalog) (input : TransitionCaptureInput) :
    (captureTransitionEvidence polls catalog input).Ends (fun _ outcome _ =>
      OnOutcome (fun evidence => ∃ certified, certifiedTransition catalog input = .ok certified ∧
        EvidenceOf input certified evidence) (fun _ => True) outcome) () [] := by
  unfold captureTransitionEvidence
  cases isCertified : certifiedTransition catalog input with
  | error => trivial
  | ok certified =>
    dsimp only
    refine ends_monad_bind.mpr (ends_of_forall fun history outcome s => ?_)
    cases outcome with
    | error => trivial
    | ok =>
      rw [onOutcome_ok]
      refine ends_monad_bind.mpr (ends_perform.mpr fun answer => ?_)
      cases answer with
      | error => trivial
      | ok =>
        rw [onOutcome_ok]
        refine ends_monad_bind.mpr (ends_of_forall fun history outcome s => ?_)
        cases outcome with
        | error => trivial
        | ok =>
          rw [onOutcome_ok]
          refine ends_monad_bind.mpr ((ends_wait polls).mono fun history outcome s found => ?_)
          cases outcome with
          | error => trivial
          | ok after =>
            obtain ⟨devices, back⟩ := found
            rw [onOutcome_ok]
            refine ends_monad_bind.mpr (ends_of_forall fun history outcome s => ?_)
            cases outcome with
            | error => trivial
            | ok =>
              exact ⟨certified, rfl, rfl, rfl, rfl, rfl, rfl, after, rfl,
                reEnumerated_some back⟩

end ModemStack.Certify
