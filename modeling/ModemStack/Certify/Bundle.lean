import ModemStack.Certify.Transform
import ModemStack.Redact
import ModemStack.Text.Schema

/-!
A certification bundle: assembled, redacted, validated and hashed.

The hash is a parameter, and so are the texts of schema errors.
-/

namespace ModemStack.Certify

open ModemStack.Data ModemStack.Text ModemStack.UsbMode

/-! ### The parts of a bundle as values -/

inductive TimelineStep where
  | commandSent
  | portDrop
  | reEnumeration

def TimelineStep.text : TimelineStep → JsString
  | .commandSent => js "command-sent"
  | .portDrop => js "port-drop"
  | .reEnumeration => js "re-enumeration"

structure TransitionEvidence where
  source : MmUsbMode
  target : MmUsbMode
  atCommand : JsString
  expectedResponse : JsString
  expectsPortDrop : Bool
  beforeDescriptors : ExpectedDescriptors
  afterDescriptors : ExpectedDescriptors
  timeline : List (TimelineStep × Double)

structure BundleInput where
  slot : JsString
  synthetic : Bool
  capturedAtMs : Double
  base : BaseCaptureParts
  transition : Option TransitionEvidence

/-- An object literal. -/
def record (members : List (String × JsValue)) : JsValue :=
  .object true (members.map fun entry => (js entry.1, entry.2))

def strings (items : List JsString) : JsValue := .array (items.map .string)

def natural (n : Nat) : JsValue := .number (.finite n)

def SkuValue (sku : SkuDiscriminator) : JsValue :=
  record [("vidPid", .string sku.vidPid), ("model", .string sku.model),
    ("firmwarePrefix", .string sku.firmwarePrefix)]

def signalValue (signal : SignalRecord) : JsValue :=
  record [("atMs", .number signal.atMs), ("path", .string signal.path),
    ("interface", .string signal.interface), ("member", .string signal.member),
    ("changed", strings signal.changed), ("invalidated", strings signal.invalidated)]

def descriptorsValue (descriptors : ExpectedDescriptors) : JsValue :=
  record [("deviceClass", natural descriptors.deviceClass),
    ("interfaces", .array (descriptors.interfaces.map fun interface =>
      record [("interfaceClass", natural interface.interfaceClass),
        ("interfaceSubClass", natural interface.interfaceSubClass),
        ("interfaceProtocol", natural interface.interfaceProtocol)]))]

def transitionValue (transition : TransitionEvidence) : JsValue :=
  record [("from", .string transition.source.text), ("to", .string transition.target.text),
    ("atCommand", .string transition.atCommand),
    ("expectedResponse", .string transition.expectedResponse),
    ("expectsPortDrop", .bool transition.expectsPortDrop),
    ("beforeDescriptors", descriptorsValue transition.beforeDescriptors),
    ("afterDescriptors", descriptorsValue transition.afterDescriptors),
    ("timeline", .array (transition.timeline.map fun step =>
      record [("event", .string step.1.text), ("atMs", .number step.2)]))]

def udevValue (properties : List (JsString × JsString)) : JsValue :=
  .object true (properties.map fun property => (property.1, .string property.2))

def usbValue (base : BaseCaptureParts) : JsValue :=
  record [("lsusb", .string base.lsusb), ("usbDevices", .string base.usbDevices),
    ("udevProperties", udevValue base.udevProperties)]

def modemManagerValue (base : BaseCaptureParts) : JsValue :=
  record [("mmcliKeyfile", base.mmcliKeyfile), ("managedObjects", base.managedObjects),
    ("signalWindow", .array (base.signalWindow.map signalValue))]

def CERTIFY_SCHEMA_VERSION : Nat := 1

def assembled (input : BundleInput) : JsValue :=
  record ([("schemaVersion", natural CERTIFY_SCHEMA_VERSION),
    ("synthetic", .bool input.synthetic), ("capturedAtMs", .number input.capturedAtMs),
    ("slot", .string input.slot)] ++
    (input.base.sku.map fun sku => ("sku", SkuValue sku)).toList ++
    [("usb", usbValue input.base), ("modemManager", modemManagerValue input.base)] ++
    (input.transition.map fun transition => ("transition", transitionValue transition)).toList)

/-! ### The schema -/

section Schemas

open Schema

def isHexDigit (c : UInt16) : Bool :=
  (0x30 ≤ c.toNat && c.toNat ≤ 0x39) || (0x61 ≤ c.toNat && c.toNat ≤ 0x66)

/-- `/^[0-9a-f]{4}:[0-9a-f]{4}$/` -/
def isVidPid (text : JsString) : Bool :=
  text.length = 9 && (text.take 4).all isHexDigit && text.getD 4 0 = colon &&
    (text.drop 5).all isHexDigit

def mmMode : Schema := enum [js "qmi", js "mbim", js "ecm-ncm"]

def skuSchema : Schema :=
  strictObject [field "vidPid" (.matching isVidPid), field "model" (.string 1),
    field "firmwarePrefix" (.string 1)]

def signalRecordSchema : Schema :=
  strictObject [field "atMs" .number, field "path" (.string 0), field "interface" (.string 0),
    field "member" (.string 0), field "changed" (.array (.string 0) 0),
    field "invalidated" (.array (.string 0) 0)]

def timelineEventSchema : Schema :=
  strictObject [field "event" (enum [js "command-sent", js "port-drop", js "re-enumeration"]),
    field "atMs" .number]

def usbByte : Schema := .natural 255

def expectedDescriptorsSchema : Schema :=
  strictObject [field "deviceClass" usbByte,
    field "interfaces" (.array (strictObject [field "interfaceClass" usbByte,
      field "interfaceSubClass" usbByte, field "interfaceProtocol" usbByte]) 1)]

def transitionEvidenceSchema : Schema :=
  strictObject [field "from" mmMode, field "to" mmMode, field "atCommand" (.string 1),
    field "expectedResponse" (.string 1), field "expectsPortDrop" .boolean,
    field "beforeDescriptors" expectedDescriptorsSchema,
    field "afterDescriptors" expectedDescriptorsSchema,
    field "timeline" (.array timelineEventSchema 1)]

def usbSchema : Schema :=
  strictObject [field "lsusb" (.string 1), field "usbDevices" (.string 1),
    field "udevProperties" (.record (.string 0))]

def modemManagerSchema : Schema :=
  strictObject [field "mmcliKeyfile" (.record (.string 0)),
    field "managedObjects" (.record (.record .unknown)),
    field "signalWindow" (.array signalRecordSchema 0)]

def certificationBundleSchema : Schema :=
  strictObject [field "schemaVersion" (.literal CERTIFY_SCHEMA_VERSION),
    field "synthetic" .boolean, field "capturedAtMs" .number, field "slot" (.string 1),
    optionalField "sku" skuSchema, field "usb" usbSchema,
    field "modemManager" modemManagerSchema, optionalField "transition" transitionEvidenceSchema]

end Schemas

/-! ### The canonical text -/

mutual

/-- The value as a document, its keys sorted. -/
def sortKeys : JsValue → Json Double
  | .null => .null
  | .bool value => .bool value
  | .number value => .number value
  | .string value => .string value
  | .array items => .array (sortItems items)
  | .object _ members => .object (propertyOrder
      ((sortMembers members).mergeSort fun left right => unitsLe left.1 right.1))

def sortItems : List JsValue → List (Json Double)
  | [] => []
  | item :: rest => sortKeys item :: sortItems rest

def sortMembers : List (JsString × JsValue) → List (JsString × Json Double)
  | [] => []
  | (key, value) :: rest => (key, sortKeys value) :: sortMembers rest

end

def canonicalJson (bundle : JsValue) : JsString := stringify numberText (sortKeys bundle)

/-! ### Building -/

structure CertificationResult where
  bundle : JsValue
  sha256 : JsString

/-- The schema changes nothing in what it accepts. -/
def buildCertificationBundle (sha256 : JsString → JsString) (input : BundleInput) :
    Except CertifyError CertificationResult :=
  let redacted := redact (assembled input)
  if certificationBundleSchema.accepts redacted then
    .ok ⟨redacted, sha256 (canonicalJson redacted)⟩
  else .error ⟨js "bundle failed schema validation"⟩

end ModemStack.Certify
