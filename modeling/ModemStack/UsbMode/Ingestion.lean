import ModemStack.Certify.Bundle

/-!
From a certification bundle to a candidate for the catalog.

The bundle is read through a view that names only the fields it needs; what it does not name is
ignored. The candidate is checked as a catalog entry is.
-/

namespace ModemStack.UsbMode

open ModemStack.Certify ModemStack.Text

/-! ### Reading values -/

def readText (least : Nat) : JsValue → Option JsString
  | .string text => if least ≤ text.length then some text else none
  | _ => none

def readVidPid : JsValue → Option JsString
  | .string text => if isVidPid text then some text else none
  | _ => none

def readFlag : JsValue → Option Bool
  | .bool value => some value
  | _ => none

def readNumber : JsValue → Option Double
  | .number .nan | .number (.infinite _) => none
  | .number value => some value
  | _ => none

def readByte : JsValue → Option Nat
  | .number .negativeZero => some 0
  | .number (.finite value) =>
    if value.den = 1 ∧ 0 ≤ value.num ∧ value.num ≤ 255 then some value.num.toNat else none
  | _ => none

def MM_USB_MODES : List MmUsbMode := [.qmi, .mbim, .ecmNcm]

def readMode : JsValue → Option MmUsbMode
  | .string text => MM_USB_MODES.find? fun mode => mode.text = text
  | _ => none

def readTexts : JsValue → Option (List (JsString × JsString))
  | .object true members => members.mapM fun entry => (readText 0 entry.2).map (Prod.mk entry.1)
  | _ => none

def readItems {α : Type} (read : JsValue → Option α) (least : Nat) : JsValue → Option (List α)
  | .array items => if least ≤ items.length then items.mapM read else none
  | _ => none

/-- A field that must be there. -/
def required {α : Type} (key : String) (read : JsValue → Option α) (value : JsValue) : Option α :=
  (value.get (js key)).bind read

def optionally {α : Type} (key : String) (read : JsValue → Option α) (value : JsValue) :
    Option (Option α) :=
  match value.get (js key) with
  | none => some none
  | some found => (read found).map some

/-- Of a strict object. -/
def onlyKeys (keys : List String) (value : JsValue) : Option Unit :=
  if value.keys.all fun key => (keys.map js).contains key then some () else none

/-! ### The view -/

def expectedInterface (value : JsValue) : Option ExpectedInterface := do
  onlyKeys ["interfaceClass", "interfaceSubClass", "interfaceProtocol"] value
  let interfaceClass ← required "interfaceClass" readByte value
  let interfaceSubClass ← required "interfaceSubClass" readByte value
  let interfaceProtocol ← required "interfaceProtocol" readByte value
  return ⟨interfaceClass, interfaceSubClass, interfaceProtocol⟩

def expectedDescriptors (value : JsValue) : Option ExpectedDescriptors := do
  onlyKeys ["deviceClass", "interfaces"] value
  let deviceClass ← required "deviceClass" readByte value
  let interfaces ← required "interfaces" (readItems expectedInterface 1) value
  return ⟨deviceClass, interfaces⟩

structure TransitionView where
  source : MmUsbMode
  target : MmUsbMode
  atCommand : JsString
  expectedResponse : JsString
  expectsPortDrop : Bool
  afterDescriptors : ExpectedDescriptors
deriving DecidableEq

structure EvidenceBundleView where
  synthetic : Bool
  capturedAtMs : Double
  slot : JsString
  sku : Option SkuDiscriminator
  usbDevices : JsString
  udevProperties : List (JsString × JsString)
  transition : Option TransitionView
deriving DecidableEq

def schemaVersion : JsValue → Option Unit
  | .number given => if given = .finite 1 then some () else none
  | _ => none

def skuView (value : JsValue) : Option SkuDiscriminator := do
  let vidPid ← required "vidPid" readVidPid value
  let model ← required "model" (readText 1) value
  let firmwarePrefix ← required "firmwarePrefix" (readText 1) value
  return ⟨vidPid, model, firmwarePrefix⟩

def usbView (value : JsValue) : Option (JsString × List (JsString × JsString)) := do
  let usbDevices ← required "usbDevices" (readText 1) value
  let udevProperties ← required "udevProperties" readTexts value
  return (usbDevices, udevProperties)

def transitionView (value : JsValue) : Option TransitionView := do
  let source ← required "from" readMode value
  let target ← required "to" readMode value
  let atCommand ← required "atCommand" (readText 1) value
  let expectedResponse ← required "expectedResponse" (readText 1) value
  let expectsPortDrop ← required "expectsPortDrop" readFlag value
  let afterDescriptors ← required "afterDescriptors" expectedDescriptors value
  return ⟨source, target, atCommand, expectedResponse, expectsPortDrop, afterDescriptors⟩

def evidenceBundleView (bundle : JsValue) : Option EvidenceBundleView := do
  required "schemaVersion" schemaVersion bundle
  let synthetic ← required "synthetic" readFlag bundle
  let capturedAtMs ← required "capturedAtMs" readNumber bundle
  let slot ← required "slot" (readText 1) bundle
  let sku ← optionally "sku" skuView bundle
  let usb ← required "usb" usbView bundle
  let transition ← optionally "transition" transitionView bundle
  return ⟨synthetic, capturedAtMs, slot, sku, usb.1, usb.2, transition⟩

/-! ### Requests -/

inductive IngestionRefusalReason where
  | bundleMalformed
  | sha256Malformed
  | skuMissing
  | syntheticBundle
  | transitionModeMismatch
  | entrySchemaInvalid
deriving DecidableEq

/-- `detail` is `none` where it is the schema library's text. -/
structure IngestionRefusal where
  reason : IngestionRefusalReason
  detail : Option JsString
deriving DecidableEq

structure IngestionRequest where
  bundle : JsValue
  bundleSha256 : JsString

def isSha256 (text : JsString) : Bool := text.length = 64 && text.all isHexDigit

def parseIngestionRequest (request : IngestionRequest) :
    Except IngestionRefusal EvidenceBundleView :=
  if isSha256 request.bundleSha256 = false then
    .error ⟨.sha256Malformed, some (js "bundle sha256 must be 64 lowercase hex characters, got '" ++
      request.bundleSha256 ++ js "'")⟩
  else
    match evidenceBundleView request.bundle with
    | none => .error ⟨.bundleMalformed, none⟩
    | some view => .ok view

/-! ### Candidates -/

def ExpectedDescriptors.valid (descriptors : ExpectedDescriptors) : Bool :=
  descriptors.deviceClass ≤ 255 && descriptors.interfaces ≠ [] &&
    descriptors.interfaces.all fun interface => interface.interfaceClass ≤ 255 &&
      interface.interfaceSubClass ≤ 255 && interface.interfaceProtocol ≤ 255

/-- `permittedTransitionSchema` -/
def PermittedTransition.valid (t : PermittedTransition) : Bool :=
  t.atCommand ≠ [] && t.applyCommand.all (· ≠ []) && t.expectedResponse ≠ [] &&
    t.expectedDescriptors.valid && t.evidenceBundleSha256.all isSha256 && t.source ≠ t.target

/-- `catalogEntrySchema` -/
def CatalogEntry.valid (entry : CatalogEntry) : Bool :=
  isVidPid entry.vidPid && entry.model ≠ [] && entry.firmwarePrefix ≠ [] &&
    entry.permittedTransitions.all PermittedTransition.valid &&
    (entry.permittedTransitions = [] ||
      MM_USB_MODES.any fun mode => mode.canonical = entry.canonicalMode)

/-- What a reviewer says of the SKU. -/
structure CatalogClaim where
  canonicalMode : CanonicalUsbMode

/-- The transition that a bundle is the evidence of. -/
def candidateTransition (bundleSha256 : JsString) (transition : TransitionView) :
    PermittedTransition where
  source := transition.source
  target := transition.target
  atCommand := transition.atCommand
  applyCommand := none
  expectedResponse := transition.expectedResponse
  expectsPortDrop := transition.expectsPortDrop
  expectedDescriptors := transition.afterDescriptors
  evidenceBundleSha256 := some bundleSha256

def buildCatalogEntryCandidate (request : IngestionRequest) (claim : CatalogClaim) :
    Except IngestionRefusal CatalogEntry := do
  let bundle ← parseIngestionRequest request
  if bundle.synthetic then
    .error ⟨.syntheticBundle, some (js "bundle for slot '" ++ bundle.slot ++
      js "' is marked synthetic:true; a catalog entry requires a real capture (synthetic:false)")⟩
  else
    match bundle.sku with
    | none => .error ⟨.skuMissing, some (js ("bundle carries no `sku` — a catalog entry needs all " ++
        "three discriminators (vidPid, model, firmwarePrefix)"))⟩
    | some sku =>
      match bundle.transition.filter fun transition =>
          transition.source.canonical ≠ claim.canonicalMode with
      | some transition => .error ⟨.transitionModeMismatch, some (js "claimed canonicalMode '" ++
          claim.canonicalMode.text ++ js "' contradicts the captured transition.from '" ++
          transition.source.text ++ js "'")⟩
      | none =>
        let entry : CatalogEntry := {
          vidPid := sku.vidPid
          model := sku.model
          firmwarePrefix := sku.firmwarePrefix
          canonicalMode := claim.canonicalMode
          permittedTransitions :=
            bundle.transition.toList.map (candidateTransition request.bundleSha256) }
        if entry.valid then .ok entry else .error ⟨.entrySchemaInvalid, none⟩

end ModemStack.UsbMode
