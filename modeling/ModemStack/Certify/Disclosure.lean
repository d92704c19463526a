import ModemStack.Certify.Secrets

/-!
Which captures give away no secret.

A capture is certified with the same result whatever its secrets are, exactly if each secret that
is kept stands under a key that is masked (`sealed_iff`); or if it is not certified at all.
-/

namespace ModemStack.Certify

open ModemStack.Text ModemStack.UsbMode

/-! ### Captures -/

structure Capture where
  input : CaptureInput
  slot : JsString
  synthetic : Bool
  capturedAtMs : Double
  transition : Option TransitionEvidence

/-- The base is captured, and the bundle is built. -/
def certify (sha256 : JsString → JsString) (capture : Capture) :
    Except CertifyError CertificationResult := do
  let base ← captureBase capture.input
  buildCertificationBundle sha256
    ⟨capture.slot, capture.synthetic, capture.capturedAtMs, base, capture.transition⟩

namespace Capture

/-- The capture with other secrets. -/
def fill (secret : JsString) (capture : Capture) : Capture where
  input :=
    { capture.input with
      mmcli := { capture.input.mmcli with
        stdout := fillKeyfile secret capture.input.mmcli.stdout }
      managedObjects := fillTree secret capture.input.managedObjects }
  slot := capture.slot
  synthetic := capture.synthetic
  capturedAtMs := capture.capturedAtMs
  transition := capture.transition

/-- Without their secrets, the two captures are the same. -/
def SameButSecrets (capture other : Capture) : Prop := capture.fill [] = other.fill []

end Capture

def CertificationResult.modemManager (result : CertificationResult) : Option JsValue :=
  result.bundle.get (js "modemManager")

/-- The same `modemManager` part and the same hash; or no bundle from either. -/
def Agree : Except CertifyError CertificationResult → Except CertifyError CertificationResult → Prop
  | .ok result, .ok other => result.modemManager = other.modemManager ∧ result.sha256 = other.sha256
  | .error _, .error _ => True
  | _, _ => False

/-! ### When nothing is given away -/

def textOf (objects : DecodedManagedObjects) : List (JsString × DecodedInterfaces) :=
  objects.map fun object => (object.1.text, object.2)

def namesOf (interfaces : DecodedInterfaces) : List (JsString × DecodedProps) :=
  interfaces.map fun interface => (interface.1.text, interface.2)

def keysOf (props : DecodedProps) : List (JsString × (JsString × DecodedVariant)) :=
  props.map fun property => (propertyKey property.1, property)

/-- Each property that is kept under a key holds no secret, or its key is masked. (An array called
`__proto__` keeps the redactor out of the whole object.) -/
def PropsSealed (props : DecodedProps) : Prop :=
  ∀ key ≠ JsValue.protoKey, ∀ property, JsValue.lastOf key (keysOf props) = some property →
    propertyHolds property = true →
      JsValue.keepsPrototype (props.map propertyEntry) = true ∧ isSensitiveKey key = true

namespace Capture

/-- Every secret that is kept is masked: in the keyfile by its own key, on the bus by the name of the
interface or by that of the property. -/
structure Sealed (capture : Capture) : Prop where
  keyfile : ∀ entry ∈ keyfileEntries capture.input.mmcli.stdout,
    isSecretKey entry.1 = true → isSensitiveKey entry.1 = true
  objects : ∀ path interfaces, JsValue.lastOf path (textOf capture.input.managedObjects) =
      some interfaces → ∀ name props, JsValue.lastOf name (namesOf interfaces) = some props →
    isSensitiveKey name = true ∨ PropsSealed props

def sku (capture : Capture) : Option SkuDiscriminator :=
  capture.input.device.bind fun device =>
    skuOf device (readRevision capture.input.managedObjects capture.input.modemPath)

/-- The tools have succeeded, and the rest of the capture meets the schema. -/
structure Complete (capture : Capture) : Prop where
  lsusb : (captureLsusb capture.input.lsusb).isOk = true
  usbDevices : (captureUsbDevices capture.input.usbDevices).isOk = true
  mmcli : (captureMmcli capture.input.mmcliTarget capture.input.mmcli).isOk = true
  slot : capture.slot ≠ []
  capturedAtMs : Schema.number.accepts (.number capture.capturedAtMs) = true
  sku : ∀ sku ∈ capture.sku, skuSchema.accepts (SkuValue sku) = true
  signalWindow : ∀ signal ∈ capture.input.signalWindow,
    signalRecordSchema.accepts (signalValue signal) = true
  transition : ∀ transition ∈ capture.transition,
    transitionEvidenceSchema.accepts (transitionValue transition) = true

end Capture

/-! ### Sealed secrets are not seen -/

open JsValue

variable {secret : JsString}

theorem keepsPrototype_of_named {items : List (JsString × JsValue)}
    (named : ∀ item ∈ items, item.1 ≠ protoKey) : keepsPrototype items = true := by
  refine List.all_eq_true.mpr fun item mem => ?_
  simp [named item mem]

theorem parseKeyfile_eq (text : JsString) :
    parseKeyfile text =
      .objectOf ((keyfileEntries text).map fun entry => (entry.1, .string entry.2)) := rfl

theorem keepsPrototype_strings (entries : List (JsString × JsString)) :
    keepsPrototype (entries.map fun entry => (entry.1, .string entry.2)) = true := by
  simp [keepsPrototype, isObject]

/-- Entries under their own keys. -/
def keyed (entries : List (JsString × JsString)) : List (JsString × (JsString × JsString)) :=
  entries.map fun entry => (entry.1, entry)

theorem redact_parseKeyfile (oneLine : (0x0A : UInt16) ∉ secret) {text : JsString}
    (masked : ∀ entry ∈ keyfileEntries text,
      isSecretKey entry.1 = true → isSensitiveKey entry.1 = true) (under : Bool) :
    redactValue under (parseKeyfile (fillKeyfile secret text)) =
      redactValue under (parseKeyfile text) := by
  have filled : parseKeyfile (fillKeyfile secret text) = .objectOf
      ((keyed (keyfileEntries text)).map fun item =>
        (item.1, .string (fillEntry secret item.2).2)) := by
    rw [parseKeyfile_eq, entries_fillKeyfile oneLine, List.map_map, keyed, List.map_map]
    rfl
  have plain : parseKeyfile text = .objectOf
      ((keyed (keyfileEntries text)).map fun item => (item.1, .string item.2.2)) := by
    rw [parseKeyfile_eq, keyed, List.map_map]
    rfl
  rw [filled, plain]
  have strings (f : JsString × JsString → JsString) : keepsPrototype
      ((keyed (keyfileEntries text)).map fun item => (item.1, .string (f item.2))) = true := by
    simp [keepsPrototype, isObject]
  have plainFilled := strings fun entry => (fillEntry secret entry).2
  refine redact_objectOf_map _ (fun entry => .string (fillEntry secret entry).2)
    (fun entry => .string entry.2) under
    (plainFilled.trans (strings fun entry => entry.2).symm) ?_
  intro key _ entry isLast
  obtain ⟨_, mem, same⟩ := List.mem_map.mp (mem_of_lastOf isLast)
  cases same
  by_cases secretKey : isSecretKey entry.1 = true
  · refine .inr ⟨plainFilled, ?_⟩
    rw [masked entry mem secretKey, redactValue_sensitive, redactValue_sensitive]
  · exact .inl (by simp [fillEntry, secretKey])

theorem keys_parseKeyfile (oneLine : (0x0A : UInt16) ∉ secret) (text : JsString) :
    (parseKeyfile (fillKeyfile secret text)).keys = (parseKeyfile text).keys := by
  rw [parseKeyfile_eq, parseKeyfile_eq, entries_fillKeyfile oneLine, objectOf_eq, objectOf_eq]
  refine keys_foldl_assign ?_ rfl
  simp [fillEntry, Function.comp_def]

/-! ### The managed objects -/

theorem isObject_fillTyped (signature : JsString) (value : DecodedValue) :
    (jsonValue (fillTyped secret signature value)).isObject = (jsonValue value).isObject := by
  cases value with
  | array =>
    rw [fillTyped]
    split <;> rfl
  | _ => rfl

theorem proto_not_secret : isSecretName protoKey = false := by decide

theorem propertyKey_proto {name : JsString} (isProto : propertyKey name = protoKey) :
    name = protoKey := by
  unfold propertyKey at isProto
  split at isProto
  · exact absurd isProto (by decide)
  · exact isProto

theorem keepsPrototype_fill (secret : JsString) (props : DecodedProps) :
    keepsPrototype ((props.map (fillProperty secret)).map propertyEntry) =
      keepsPrototype (props.map propertyEntry) := by
  unfold keepsPrototype
  rw [List.map_map, List.all_map, List.all_map]
  refine congrArg (List.all props) (funext fun property => ?_)
  by_cases isProto : propertyKey property.1 = protoKey
  · have name := propertyKey_proto isProto
    have unnamed : ¬ isSecretName property.1 = true := by rw [name, proto_not_secret]; decide
    simp [propertyEntry, fillProperty, isProto, unnamed, isObject_fillTyped]
  · simp [propertyEntry, fillProperty, isProto]

theorem entries_eq (props : DecodedProps) :
    props.map propertyEntry =
      (keysOf props).map fun item => (item.1, jsonValue item.2.2.value) := by
  rw [keysOf, List.map_map]
  rfl

theorem entries_fill (props : DecodedProps) :
    (props.map (fillProperty secret)).map propertyEntry =
      (keysOf props).map fun item => (item.1, jsonValue (fillProperty secret item.2).2.value) := by
  rw [keysOf, List.map_map, List.map_map]
  rfl

theorem redact_objectifyProps {props : DecodedProps} (isSealed : PropsSealed props) (under : Bool) :
    redactValue under (objectifyProps (props.map (fillProperty secret))) =
      redactValue under (objectifyProps props) := by
  have plain := keepsPrototype_fill secret props
  rw [objectifyProps, objectifyProps]
  rw [entries_fill, entries_eq] at plain ⊢
  refine redact_objectOf_map _ (fun property => jsonValue (fillProperty secret property).2.value)
    (fun property => jsonValue property.2.value) under plain ?_
  intro key named property isLast
  cases holds : propertyHolds property with
  | false => exact .inl (by rw [(replaces_property property).none holds secret])
  | true =>
    obtain ⟨keeps, sensitive⟩ := isSealed key named property isLast holds
    rw [entries_eq] at keeps
    refine .inr ⟨plain.trans keeps, ?_⟩
    rw [sensitive, redactValue_sensitive, redactValue_sensitive]

theorem ObjectPath.ne_proto (path : ObjectPath) : path.text ≠ protoKey := by
  intro same
  exact absurd path.rooted (by rw [same]; decide)

theorem InterfaceName.ne_proto (name : InterfaceName) : name.text ≠ protoKey := by
  intro same
  exact absurd name.dotted (by rw [same]; decide)

theorem objectifyInterfaces_eq (interfaces : DecodedInterfaces) :
    objectifyInterfaces interfaces =
      .objectOf ((namesOf interfaces).map fun item => (item.1, objectifyProps item.2)) := by
  rw [objectifyInterfaces, namesOf, List.map_map]
  rfl

variable (tree : DecodedManagedObjects)

theorem objectifyManagedObjects_eq :
    objectifyManagedObjects tree =
      .objectOf ((textOf tree).map fun item => (item.1, objectifyInterfaces item.2)) := by
  rw [objectifyManagedObjects, textOf, List.map_map]
  rfl

theorem keepsPrototype_names (interfaces : DecodedInterfaces) (f : DecodedProps → JsValue) :
    keepsPrototype ((namesOf interfaces).map fun item => (item.1, f item.2)) = true := by
  refine keepsPrototype_of_named fun item mem => ?_
  obtain ⟨_, isName, rfl⟩ := List.mem_map.mp mem
  obtain ⟨interface, -, rfl⟩ := List.mem_map.mp isName
  exact interface.1.ne_proto

theorem keepsPrototype_paths (f : DecodedInterfaces → JsValue) :
    keepsPrototype ((textOf tree).map fun item => (item.1, f item.2)) = true := by
  refine keepsPrototype_of_named fun item mem => ?_
  obtain ⟨_, isPath, rfl⟩ := List.mem_map.mp mem
  obtain ⟨object, -, rfl⟩ := List.mem_map.mp isPath
  exact object.1.ne_proto

theorem redact_objectifyInterfaces {interfaces : DecodedInterfaces}
    (isSealed : ∀ name props, lastOf name (namesOf interfaces) = some props →
      isSensitiveKey name = true ∨ PropsSealed props) (under : Bool) :
    redactValue under (objectifyInterfaces (interfaces.map fun interface =>
        (interface.1, interface.2.map (fillProperty secret)))) =
      redactValue under (objectifyInterfaces interfaces) := by
  have filled : objectifyInterfaces (interfaces.map fun interface =>
        (interface.1, interface.2.map (fillProperty secret))) = .objectOf
      ((namesOf interfaces).map fun item =>
        (item.1, objectifyProps (item.2.map (fillProperty secret)))) := by
    rw [objectifyInterfaces, namesOf, List.map_map, List.map_map]
    rfl
  rw [filled, objectifyInterfaces_eq]
  have plain := keepsPrototype_names interfaces fun props =>
    objectifyProps (props.map (fillProperty secret))
  refine redact_objectOf_map _ (fun props => objectifyProps (props.map (fillProperty secret)))
    objectifyProps under (plain.trans (keepsPrototype_names _ _).symm) ?_
  intro name _ props isLast
  refine .inr ⟨plain, ?_⟩
  rcases isSealed name props isLast with sensitive | propsSealed
  · rw [sensitive, redactValue_sensitive, redactValue_sensitive]
  · exact redact_objectifyProps propsSealed _

theorem redact_objectifyManagedObjects {tree : DecodedManagedObjects}
    (isSealed : ∀ path interfaces, lastOf path (textOf tree) = some interfaces →
      ∀ name props, lastOf name (namesOf interfaces) = some props →
        isSensitiveKey name = true ∨ PropsSealed props) (under : Bool) :
    redactValue under (objectifyManagedObjects (fillTree secret tree)) =
      redactValue under (objectifyManagedObjects tree) := by
  have filled : objectifyManagedObjects (fillTree secret tree) = .objectOf
      ((textOf tree).map fun item => (item.1, objectifyInterfaces (item.2.map fun interface =>
        (interface.1, interface.2.map (fillProperty secret))))) := by
    rw [objectifyManagedObjects, fillTree, textOf, List.map_map, List.map_map]
    rfl
  rw [filled, objectifyManagedObjects_eq]
  have plain := keepsPrototype_paths tree fun interfaces =>
    objectifyInterfaces (interfaces.map fun interface =>
      (interface.1, interface.2.map (fillProperty secret)))
  refine redact_objectOf_map _ (fun interfaces =>
    objectifyInterfaces (interfaces.map fun interface =>
      (interface.1, interface.2.map (fillProperty secret)))) objectifyInterfaces under
    (plain.trans (keepsPrototype_paths _ _).symm) ?_
  intro path _ interfaces isLast
  exact .inr ⟨plain, redact_objectifyInterfaces (isSealed path interfaces isLast) _⟩

/-! ### The capture -/

theorem readRevision_fillTree (modemPath : JsString) :
    readRevision (fillTree secret tree) modemPath = readRevision tree modemPath := by
  unfold readRevision fillTree
  rw [List.find?_map]
  have unnamed : ¬ isSecretName (js "Revision") = true := by decide
  cases isObject : tree.find? fun object => decide (object.1.text = modemPath) with
  | none => simp [Function.comp_def, isObject]
  | some object =>
    simp only [Function.comp_def, isObject, Option.map_some, Option.bind_eq_bind,
      Option.bind_some, List.find?_map]
    cases isModem : object.2.find? fun interface =>
        decide (interface.1.text = Backend.modemIface) with
    | none => rfl
    | some props =>
      simp only [Option.map_some, Option.bind_some, List.find?_map]
      cases isRevision : props.2.find? ((fun property => decide (property.1 = js "Revision")) ∘
          fillProperty secret) with
      | none =>
        have none : props.2.find? (fun property => decide (property.1 = js "Revision")) =
            none := isRevision
        simp [none]
      | some revision =>
        have found : props.2.find? (fun property => decide (property.1 = js "Revision")) =
            some revision := isRevision
        have named : revision.1 = js "Revision" := by simpa using List.find?_some found
        rw [← named] at unnamed
        simp only [found, Option.map_some, Option.bind_some, fillProperty, if_neg unnamed]
        cases revision.2.value with
        | array =>
          by_cases dict : isDict revision.2.signature = true
          · rw [fillTyped, if_pos dict]
          · rw [fillTyped, if_neg dict]
        | _ => rfl

namespace Capture

@[simp] theorem sku_fill (capture : Capture) : (capture.fill secret).sku = capture.sku := by
  unfold sku fill
  simp only [readRevision_fillTree]

theorem captureMmcli_fill (oneLine : (0x0A : UInt16) ∉ secret) (capture : Capture) :
    captureMmcli capture.input.mmcliTarget (capture.fill secret).input.mmcli =
      (captureMmcli capture.input.mmcliTarget capture.input.mmcli).map fun _ =>
        parseKeyfile (fillKeyfile secret capture.input.mmcli.stdout) := by
  unfold captureMmcli runOrThrow fill
  by_cases failed : capture.input.mmcli.exitCode ≠ 0
  · simp only [if_pos failed]
    rfl
  · simp only [if_neg failed]
    change (if (parseKeyfile (fillKeyfile secret _)).keys = [] then _ else _) =
      Except.map _ (if (parseKeyfile _).keys = [] then _ else _)
    rw [keys_parseKeyfile oneLine]
    split <;> rfl

/-- What is captured when the secrets are others. -/
def refilled (secret : JsString) (capture : Capture) (base : BaseCaptureParts) :
    BaseCaptureParts :=
  { base with
    mmcliKeyfile := parseKeyfile (fillKeyfile secret capture.input.mmcli.stdout)
    managedObjects := objectifyManagedObjects
      (fillTree secret capture.input.managedObjects) }

theorem captureBase_fill (oneLine : (0x0A : UInt16) ∉ secret) (capture : Capture) :
    captureBase (capture.fill secret).input =
      (captureBase capture.input).map (refilled secret capture) := by
  have keyfile := captureMmcli_fill oneLine capture
  have sameSku : (capture.fill secret).sku = capture.sku := capture.sku_fill
  unfold captureBase
  change Except.bind (captureLsusb capture.input.lsusb) _ = Except.map _ (Except.bind _ _)
  cases captureLsusb capture.input.lsusb with
  | error => rfl
  | ok =>
    change Except.bind (captureUsbDevices capture.input.usbDevices) _ =
      Except.map _ (Except.bind _ _)
    cases captureUsbDevices capture.input.usbDevices with
    | error => rfl
    | ok =>
      change Except.bind (captureMmcli capture.input.mmcliTarget _) _ =
        Except.map _ (Except.bind _ _)
      rw [keyfile]
      cases captureMmcli capture.input.mmcliTarget capture.input.mmcli with
      | error => rfl
      | ok =>
        unfold Capture.sku at sameSku
        simp only [Except.map, Except.bind, pure, Except.pure, refilled, sameSku]
        rfl

/-- The parts of a base that was captured. -/
structure Captured (capture : Capture) (base : BaseCaptureParts) : Prop where
  sku : base.sku = capture.sku
  lsusb : captureLsusb capture.input.lsusb = .ok base.lsusb
  usbDevices : captureUsbDevices capture.input.usbDevices = .ok base.usbDevices
  mmcli : (captureMmcli capture.input.mmcliTarget capture.input.mmcli).isOk = true
  mmcliKeyfile : base.mmcliKeyfile = parseKeyfile capture.input.mmcli.stdout
  managedObjects : base.managedObjects = objectifyManagedObjects capture.input.managedObjects
  signalWindow : base.signalWindow = capture.input.signalWindow

theorem captureMmcli_ok {target : JsString} {result : CommandResult} {keyfile : JsValue}
    (captured : captureMmcli target result = .ok keyfile) : keyfile = parseKeyfile result.stdout := by
  unfold captureMmcli runOrThrow at captured
  by_cases failed : result.exitCode ≠ 0
  · simp only [if_pos failed] at captured
    cases captured
  · simp only [if_neg failed] at captured
    change (if (parseKeyfile result.stdout).keys = [] then _ else _) = _ at captured
    split at captured
    · cases captured
    · cases captured
      rfl

theorem captured_of_ok {capture : Capture} {base : BaseCaptureParts}
    (captured : captureBase capture.input = .ok base) : Captured capture base := by
  unfold captureBase at captured
  cases lsusb : captureLsusb capture.input.lsusb with
  | error =>
    rw [lsusb] at captured
    cases captured
  | ok =>
    cases usbDevices : captureUsbDevices capture.input.usbDevices with
    | error =>
      rw [lsusb, usbDevices] at captured
      cases captured
    | ok =>
      cases mmcli : captureMmcli capture.input.mmcliTarget capture.input.mmcli with
      | error =>
        rw [lsusb, usbDevices, mmcli] at captured
        cases captured
      | ok =>
        rw [lsusb, usbDevices, mmcli] at captured
        cases captured
        exact ⟨rfl, lsusb, usbDevices, by rw [mmcli]; rfl, captureMmcli_ok mmcli, rfl, rfl⟩

end Capture

/-- The bundle, as far as the two redacted parts decide it. -/
theorem redact_assembled_congr {input : BundleInput} {base : BaseCaptureParts}
    (keyfile : ∀ under, redactValue under base.mmcliKeyfile =
      redactValue under input.base.mmcliKeyfile)
    (objects : ∀ under, redactValue under base.managedObjects =
      redactValue under input.base.managedObjects)
    (sku : base.sku = input.base.sku) (lsusb : base.lsusb = input.base.lsusb)
    (usbDevices : base.usbDevices = input.base.usbDevices)
    (udev : base.udevProperties = input.base.udevProperties)
    (signals : base.signalWindow = input.base.signalWindow) :
    redact (assembled { input with base := base }) = redact (assembled input) := by
  have modemManager (under : Bool) : redactValue under (modemManagerValue base) =
      redactValue under (modemManagerValue input.base) := by
    cases under with
    | true => rw [redactValue_sensitive, redactValue_sensitive]
    | false =>
      simp only [modemManagerValue, record, List.map, redactValue_object, redactMembers, keyfile,
        objects, signals]
  have usb : usbValue base = usbValue input.base := by
    rw [usbValue, lsusb, usbDevices, udev, usbValue]
  simp only [redact, assembled, record, redactValue_object, redactMembers_eq_map, List.map_append,
    List.map, sku, usb, modemManager]

/-- No secret is seen of a sealed capture. -/
theorem certify_fill (sha256 : JsString → JsString) (oneLine : (0x0A : UInt16) ∉ secret)
    {capture : Capture} (isSealed : capture.Sealed) :
    certify sha256 (capture.fill secret) = certify sha256 capture := by
  unfold certify
  rw [capture.captureBase_fill oneLine]
  cases isBase : captureBase capture.input with
  | error => rfl
  | ok base =>
    have captured := Capture.captured_of_ok isBase
    let input : BundleInput :=
      ⟨capture.slot, capture.synthetic, capture.capturedAtMs, base, capture.transition⟩
    have same : redact (assembled { input with base := capture.refilled secret base }) =
        redact (assembled input) := by
      refine redact_assembled_congr (fun under => ?_) (fun under => ?_) rfl rfl rfl rfl rfl
      · exact (redact_parseKeyfile oneLine isSealed.keyfile under).trans
          (by rw [captured.mmcliKeyfile])
      · exact (redact_objectifyManagedObjects isSealed.objects under).trans
          (by rw [captured.managedObjects])
    change buildCertificationBundle sha256 { input with base := capture.refilled secret base } =
      buildCertificationBundle sha256 input
    unfold buildCertificationBundle
    rw [same]

end ModemStack.Certify
