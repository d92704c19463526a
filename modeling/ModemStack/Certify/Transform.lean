import ModemStack.Backend.ManagedObjects
import ModemStack.Text.JsValue
import ModemStack.UsbMode.Catalog

/-!
What `certify` makes of the raw output of its tools: objects that the redactor can walk.

D-Bus dicts stay what the transport decodes them to, arrays of pairs.
-/

namespace ModemStack.Certify

open ModemStack.Text ModemStack.UsbMode

/-! ### The managed objects -/

/-- A decoded value of D-Bus, its doubles told apart. -/
inductive DecodedValue where
  | string (value : JsString)
  | number (value : Double)
  | boolean (value : Bool)
  | bigint (value : Int)
  | bytes (value : List UInt8)
  | variant (signature : JsString) (value : DecodedValue)
  | array (items : List DecodedValue)

structure DecodedVariant where
  signature : JsString
  value : DecodedValue

/-- A path on the bus: it is rooted, and has no dot. -/
structure ObjectPath where
  text : JsString
  rooted : text.head? = some 0x2F
  dotless : fullStop ∉ text
deriving DecidableEq

/-- An interface name on the bus: it has two parts at least. -/
structure InterfaceName where
  text : JsString
  dotted : fullStop ∈ text
deriving DecidableEq

abbrev DecodedProps : Type := List (JsString × DecodedVariant)

abbrev DecodedInterfaces : Type := List (InterfaceName × DecodedProps)

abbrev DecodedManagedObjects : Type := List (ObjectPath × DecodedInterfaces)

def bigintText (value : Int) : JsString :=
  if value < 0 then js "-" ++ printNat value.natAbs else printNat value.natAbs

mutual

def jsonValue : DecodedValue → JsValue
  | .string value => .string value
  | .number value => .number value
  | .boolean value => .bool value
  | .bigint value => .string (bigintText value)
  | .bytes value => .array (value.map fun byte => .number (.finite byte.toNat))
  | .variant _ value => jsonValue value
  | .array items => .array (jsonItems items)

def jsonItems : List DecodedValue → List JsValue
  | [] => []
  | item :: rest => jsonValue item :: jsonItems rest

end

def SIM_IDENTIFIER_PROP : JsString := js "SimIdentifier"

/-- The redactor does not know ModemManager's name of the ICCID. -/
def propertyKey (name : JsString) : JsString :=
  if name = SIM_IDENTIFIER_PROP then js "iccid" else name

def propertyEntry (property : JsString × DecodedVariant) : JsString × JsValue :=
  (propertyKey property.1, jsonValue property.2.value)

def objectifyProps (props : DecodedProps) : JsValue := .objectOf (props.map propertyEntry)

def objectifyInterfaces (interfaces : DecodedInterfaces) : JsValue :=
  .objectOf (interfaces.map fun interface => (interface.1.text, objectifyProps interface.2))

def objectifyManagedObjects (tree : DecodedManagedObjects) : JsValue :=
  .objectOf (tree.map fun object => (object.1.text, objectifyInterfaces object.2))

/-- `Modem.Revision`, where it is reported and not empty. -/
def readRevision (tree : DecodedManagedObjects) (modemPath : JsString) : Option JsString := do
  let object ← tree.find? fun object => object.1.text = modemPath
  let props ← object.2.find? fun interface => interface.1.text = Backend.modemIface
  let revision ← props.2.find? fun property => property.1 = js "Revision"
  match revision.2.value with
  | .string text => if text = [] then none else some text
  | _ => none

/-! ### The keyfile -/

/-- A line `key : value`. The key ends at the first colon. -/
def keyfileEntry (line : JsString) : Option (JsString × JsString) :=
  let key := trim (line.takeWhile (· ≠ colon))
  if colon ∈ line ∧ key ≠ [] then some (key, trim ((line.dropWhile (· ≠ colon)).drop 1)) else none

def keyfileLines (text : JsString) : List JsString := text.splitOn 0x0A

/-- `mmcli -K` -/
def parseKeyfile (text : JsString) : JsValue :=
  .objectOf (((keyfileLines text).filterMap keyfileEntry).map fun entry => (entry.1, .string entry.2))

/-! ### The base capture -/

structure CommandResult where
  stdout : JsString
  stderr : JsString
  exitCode : Int

structure SignalRecord where
  atMs : Double
  path : JsString
  interface : JsString
  member : JsString
  changed : List JsString
  invalidated : List JsString

/-- What the capture reads of the matched USB device. -/
structure TargetDevice where
  vendorId : JsString
  productId : JsString
  model : Option JsString
  udevProperties : List (JsString × JsString)

/-- A partial SKU is none. -/
def skuOf (device : TargetDevice) (firmwareRevision : Option JsString) :
    Option SkuDiscriminator := do
  let model ← device.model
  let firmwarePrefix ← firmwareRevision
  return ⟨device.vendorId ++ js ":" ++ device.productId, model, firmwarePrefix⟩

structure BaseCaptureParts where
  sku : Option SkuDiscriminator
  lsusb : JsString
  usbDevices : JsString
  udevProperties : List (JsString × JsString)
  mmcliKeyfile : JsValue
  managedObjects : JsValue
  signalWindow : List SignalRecord

/-- What the tools have printed and the bus has told. -/
structure CaptureInput where
  lsusb : CommandResult
  usbDevices : CommandResult
  mmcli : CommandResult
  mmcliTarget : JsString
  managedObjects : DecodedManagedObjects
  modemPath : JsString
  device : Option TargetDevice
  signalWindow : List SignalRecord

/-- The message of a `CertifyError`. -/
structure CertifyError where
  message : JsString

def runOrThrow (command : JsString) (result : CommandResult) : Except CertifyError JsString :=
  if result.exitCode ≠ 0 then
    let detail := trim result.stderr
    .error ⟨command ++ js " failed (exit " ++ bigintText result.exitCode ++ js "): " ++
      (if detail = [] then js "no stderr" else detail)⟩
  else .ok result.stdout

def includesText (text part : JsString) : Bool := text.tails.any fun rest => part.isPrefixOf rest

def captureLsusb (result : CommandResult) : Except CertifyError JsString := do
  let stdout ← runOrThrow (js "lsusb -v") result
  if trim stdout = [] then
    .error ⟨js "lsusb -v produced no output (truncated or failed capture)"⟩
  else if !includesText stdout (js "Device Descriptor:") then
    .error ⟨js "lsusb -v output is truncated or malformed (no \"Device Descriptor:\" block)"⟩
  else .ok stdout

def captureUsbDevices (result : CommandResult) : Except CertifyError JsString := do
  let stdout ← runOrThrow (js "usb-devices ") result
  if trim stdout = [] then
    .error ⟨js "usb-devices produced no output (truncated or failed capture)"⟩
  else .ok stdout

def captureMmcli (target : JsString) (result : CommandResult) : Except CertifyError JsValue := do
  let stdout ← runOrThrow (js "mmcli -m " ++ target ++ js " -K") result
  let keyfile := parseKeyfile stdout
  if keyfile.keys = [] then
    .error ⟨js "mmcli -K output is malformed (no keyfile properties parsed)"⟩
  else .ok keyfile

def captureBase (input : CaptureInput) : Except CertifyError BaseCaptureParts := do
  let lsusb ← captureLsusb input.lsusb
  let usbDevices ← captureUsbDevices input.usbDevices
  let mmcliKeyfile ← captureMmcli input.mmcliTarget input.mmcli
  let firmwareRevision := readRevision input.managedObjects input.modemPath
  return {
    sku := input.device.bind fun device => skuOf device firmwareRevision
    lsusb
    usbDevices
    udevProperties := input.device.elim [] TargetDevice.udevProperties
    mmcliKeyfile
    managedObjects := objectifyManagedObjects input.managedObjects
    signalWindow := input.signalWindow }

end ModemStack.Certify
