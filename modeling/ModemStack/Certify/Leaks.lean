import Mathlib.Data.List.Nodup
import ModemStack.Certify.Disclosure
import ModemStack.Data.Except

/-!
Captures that are certified, and what is seen of the secrets in them.
-/

namespace ModemStack.Certify

open ModemStack.Data ModemStack.Text ModemStack.UsbMode JsValue

attribute [local simp] Schema.accepts Schema.acceptsFields

variable {secret : JsString}

/-! ### The parts of a bundle, redacted -/

/-- The keys that every bundle has. -/
def bundleKeys : List String :=
  ["schemaVersion", "synthetic", "capturedAtMs", "slot", "sku", "usb", "modemManager",
    "transition", "vidPid", "model", "firmwarePrefix", "lsusb", "usbDevices", "udevProperties",
    "mmcliKeyfile", "managedObjects", "signalWindow", "atMs", "path", "interface", "member",
    "changed", "invalidated", "from", "to", "atCommand", "expectedResponse", "expectsPortDrop",
    "beforeDescriptors", "afterDescriptors", "timeline", "event", "deviceClass", "interfaces",
    "interfaceClass", "interfaceSubClass", "interfaceProtocol"]

theorem bundleKeys_insensitive : ∀ key ∈ bundleKeys, isSensitiveKey (js key) = false := by
  decide +kernel

/-- Keys of a literal that no redaction touches. -/
def Untouched (keys : List String) : Prop :=
  (keys.map js).Nodup ∧ protoKey ∉ keys.map js ∧ keys ⊆ bundleKeys

theorem Untouched.of {keys : List String}
    (untouched : keys.Nodup ∧ "__proto__" ∉ keys ∧ keys ⊆ bundleKeys) : Untouched keys := by
  obtain ⟨nodup, named, known⟩ := untouched
  refine ⟨nodup.map fun _ _ => js_inj.mp, ?_, known⟩
  intro isProto
  obtain ⟨key, mem, same⟩ := List.mem_map.mp isProto
  exact named (js_inj.mp same ▸ mem)

theorem redact_record {members : List (String × JsValue)} {keys : List String}
    (untouched : Untouched keys) (areKeys : members.map Prod.fst = keys) :
    redact (record members) = record (members.map fun entry => (entry.1, redact entry.2)) := by
  subst areKeys
  obtain ⟨nodup, named, known⟩ := untouched
  have keys : (redactMembers (members.map fun entry => (js entry.1, entry.2))).map Prod.fst =
      (members.map Prod.fst).map js := by
    simp [redactMembers_eq_map, Function.comp_def]
  rw [redact, record, redactValue_object, objectOf_of_nodup (by rwa [keys]) (by rwa [keys]), record,
    redactMembers_eq_map, List.map_map, List.map_map]
  congr 1
  refine List.map_congr_left fun entry mem => ?_
  have key := bundleKeys_insensitive entry.1 (known (List.mem_map_of_mem mem))
  simp [key, redact]

@[simp] theorem redact_string (text : JsString) : redact (.string text) = .string text := rfl

@[simp] theorem redact_number (value : Double) : redact (.number value) = .number value := rfl

@[simp] theorem redact_bool (value : Bool) : redact (.bool value) = .bool value := rfl

@[simp] theorem redact_natural (n : Nat) : redact (natural n) = natural n := rfl

theorem redact_array (items : List JsValue) : redact (.array items) = .array (items.map redact) := by
  rw [redact, redactValue, redactItems_eq_map]
  rfl

/-- Items that no redaction changes. -/
theorem redact_array_map {α : Type} {f : α → JsValue} (same : ∀ item, redact (f item) = f item)
    (items : List α) : redact (.array (items.map f)) = .array (items.map f) := by
  rw [redact_array, List.map_map]
  exact congrArg _ (List.map_congr_left fun item _ => same item)

@[simp] theorem redact_strings (items : List JsString) : redact (strings items) = strings items :=
  redact_array_map redact_string items

@[simp] theorem redact_SkuValue (sku : SkuDiscriminator) :
    redact (SkuValue sku) = SkuValue sku := by
  have untouched : Untouched ["vidPid", "model", "firmwarePrefix"] := .of (by decide)
  rw [SkuValue, redact_record untouched rfl]
  rfl

@[simp] theorem redact_signalValue (signal : SignalRecord) :
    redact (signalValue signal) = signalValue signal := by
  have untouched : Untouched ["atMs", "path", "interface", "member", "changed", "invalidated"] :=
    .of (by decide)
  rw [signalValue, redact_record untouched rfl]
  simp only [List.map, redact_number, redact_string, redact_strings]

@[simp] theorem redact_descriptorsValue (descriptors : ExpectedDescriptors) :
    redact (descriptorsValue descriptors) = descriptorsValue descriptors := by
  have outer : Untouched ["deviceClass", "interfaces"] := .of (by decide)
  have inner : Untouched ["interfaceClass", "interfaceSubClass", "interfaceProtocol"] :=
    .of (by decide)
  rw [descriptorsValue, redact_record outer rfl]
  simp only [List.map, redact_natural]
  rw [redact_array_map fun interface => ?_]
  rw [redact_record inner rfl]
  rfl

@[simp] theorem redact_transitionValue (transition : TransitionEvidence) :
    redact (transitionValue transition) = transitionValue transition := by
  have outer : Untouched ["from", "to", "atCommand", "expectedResponse", "expectsPortDrop",
    "beforeDescriptors", "afterDescriptors", "timeline"] := .of (by decide)
  have inner : Untouched ["event", "atMs"] := .of (by decide)
  rw [transitionValue, redact_record outer rfl]
  simp only [List.map, redact_string, redact_bool, redact_descriptorsValue]
  rw [redact_array_map fun step => ?_]
  rw [redact_record inner rfl]
  rfl

theorem redact_usbValue (base : BaseCaptureParts) :
    redact (usbValue base) = record [("lsusb", .string base.lsusb),
      ("usbDevices", .string base.usbDevices),
      ("udevProperties", redact (udevValue base.udevProperties))] := by
  have untouched : Untouched ["lsusb", "usbDevices", "udevProperties"] := .of (by decide)
  rw [usbValue, redact_record untouched rfl]
  rfl

theorem redact_modemManagerValue (base : BaseCaptureParts) :
    redact (modemManagerValue base) = record [("mmcliKeyfile", redact base.mmcliKeyfile),
      ("managedObjects", redact base.managedObjects),
      ("signalWindow", .array (base.signalWindow.map signalValue))] := by
  have untouched : Untouched ["mmcliKeyfile", "managedObjects", "signalWindow"] := .of (by decide)
  rw [modemManagerValue, redact_record untouched rfl]
  simp only [List.map, redact_array_map redact_signalValue]

variable (input : BundleInput)

theorem redact_assembled :
    redact (assembled input) =
      record ([("schemaVersion", natural CERTIFY_SCHEMA_VERSION),
        ("synthetic", .bool input.synthetic), ("capturedAtMs", .number input.capturedAtMs),
        ("slot", .string input.slot)] ++
        (input.base.sku.map fun sku => ("sku", SkuValue sku)).toList ++
        [("usb", redact (usbValue input.base)),
          ("modemManager", redact (modemManagerValue input.base))] ++
        (input.transition.map fun transition =>
          ("transition", transitionValue transition)).toList) := by
  rw [assembled]
  have untouched : Untouched (["schemaVersion", "synthetic", "capturedAtMs", "slot"] ++
      (input.base.sku.map fun _ => "sku").toList ++ ["usb", "modemManager"] ++
      (input.transition.map fun _ => "transition").toList) := by
    cases input.base.sku <;> cases input.transition <;>
      simp only [Option.map_none, Option.map_some, Option.toList_none, Option.toList_some] <;>
      exact .of (by decide)
  rw [redact_record untouched]
  · cases input.base.sku <;> cases input.transition <;> simp
  · cases input.base.sku <;> cases input.transition <;> rfl

/-! ### What the schema accepts -/

theorem accepts_record {schema : Schema} {entries : List (JsString × JsValue)}
    (accepted : ∀ entry ∈ entries, schema.accepts entry.2 = true) :
    (Schema.record schema).accepts (.object true entries) = true := by
  rw [Schema.accepts, Bool.true_and]
  exact List.all_eq_true.mpr accepted

/-- Strings stay strings. -/
theorem accepts_redacted_string (under : Bool) (text : JsString) :
    (Schema.string 0).accepts (redactValue under (.string text)) = true := by
  cases under <;> simp [redactValue]

theorem accepts_udev (properties : List (JsString × JsString)) :
    (Schema.record (.string 0)).accepts (redact (udevValue properties)) = true := by
  rw [redact, udevValue, redactValue_object, objectOf_eq, redactMembers_eq_map, List.map_map]
  have plain : keepsPrototype (properties.map ((fun entry : JsString × JsValue =>
      (entry.1, redactValue (isSensitiveKey entry.1) entry.2)) ∘
        fun property => (property.1, .string property.2))) = true := by
    refine List.all_eq_true.mpr fun entry mem => ?_
    obtain ⟨property, -, rfl⟩ := List.mem_map.mp mem
    cases sensitive : isSensitiveKey property.1 <;> simp [sensitive, redactValue, isObject]
  rw [plain]
  refine accepts_record fun entry mem => ?_
  rcases mem_foldl_assign mem with none | assigned
  · cases none
  · obtain ⟨property, -, rfl⟩ := List.mem_map.mp assigned
    exact accepts_redacted_string _ _

theorem accepts_keyfile (text : JsString) :
    (Schema.record (.string 0)).accepts (redact (parseKeyfile text)) = true := by
  rw [redact, parseKeyfile_eq, redact_objectOf, keepsPrototype_strings]
  refine accepts_record fun entry mem => ?_
  obtain ⟨kept, isKept, rfl⟩ := List.mem_map.mp mem
  rcases mem_foldl_assign isKept with none | assigned
  · cases none
  · obtain ⟨property, -, rfl⟩ := List.mem_map.mp assigned
    exact accepts_redacted_string _ _

/-! ### Paths are not sensitive -/

variable {key : JsString} {tree : DecodedManagedObjects} {props : DecodedProps}

theorem slash_mem_lowerKey (mem : (0x2F : UInt16) ∈ key) : (0x2F : UInt16) ∈ lowerKey key := by
  rw [lowerKey, lowerAscii, List.map_map]
  exact List.mem_map.mpr ⟨0x2F, mem, by decide⟩

theorem dot_mem_lowerKey (mem : fullStop ∈ lowerKey key) : fullStop ∈ key := by
  rw [lowerKey, lowerAscii, List.map_map] at mem
  obtain ⟨c, isUnit, same⟩ := List.mem_map.mp mem
  have isDot : c = fullStop := by
    simp only [Function.comp_apply] at same
    split at same
    · next kelvin => cases same
    · split at same
      · next upper =>
        have toNat : (c.toNat + 0x20) % 65536 = 0x2E := by
          simpa [fullStop] using congrArg UInt16.toNat same
        omega
      · exact same
  exact isDot ▸ isUnit

variable {text : JsString}

theorem not_contains_slash {names : List JsString} (plain : ∀ name ∈ names, (0x2F : UInt16) ∉ name)
    (mem : (0x2F : UInt16) ∈ text) : names.contains text = false := by
  rw [Bool.eq_false_iff]
  intro contains
  exact plain text (List.contains_iff_mem.mp contains) mem

theorem ObjectPath.insensitive (path : ObjectPath) : isSensitiveKey path.text = false := by
  have rooted : (0x2F : UInt16) ∈ path.text := List.mem_of_mem_head? path.rooted
  have lower := slash_mem_lowerKey rooted
  have kept {dropped : JsString} (other : dropped.contains 0x2F = false) :
      (0x2F : UInt16) ∈ without dropped (lowerKey path.text) :=
    List.mem_filter.mpr ⟨lower, by simpa using other⟩
  have leaf : dottedLeaf (lowerKey path.text) = none := by
    rw [dottedLeaf, if_neg]
    exact fun dotted => path.dotless (dot_mem_lowerKey (List.contains_iff_mem.mp dotted))
  rw [isSensitiveKey, isSmsSensitiveKey, isUssdSensitiveKey, isOwnNumberSensitiveKey, leaf]
  rw [not_contains_slash (by decide) lower, not_contains_slash (by decide) lower,
    not_contains_slash (by decide) (kept (by decide)),
    not_contains_slash (by decide) (kept (by decide)),
    not_contains_slash (by decide) (kept (by decide))]
  rfl

theorem accepts_objects (tree : DecodedManagedObjects) :
    (Schema.record (.record .unknown)).accepts (redact (objectifyManagedObjects tree)) = true := by
  rw [redact, objectifyManagedObjects_eq, redact_objectOf, keepsPrototype_paths]
  refine accepts_record fun entry mem => ?_
  obtain ⟨kept, isKept, rfl⟩ := List.mem_map.mp mem
  rcases mem_foldl_assign isKept with none | assigned
  · cases none
  · obtain ⟨_, isObject, rfl⟩ := List.mem_map.mp assigned
    obtain ⟨object, -, rfl⟩ := List.mem_map.mp isObject
    simp only [if_true, object.1.insensitive]
    rw [objectifyInterfaces_eq, redact_objectOf, keepsPrototype_names]
    exact accepts_record fun _ _ => by rw [Schema.accepts]

/-! ### Captures that are certified -/

theorem accepts_usb {base : BaseCaptureParts} :
    usbSchema.accepts (redact (usbValue base)) = true ↔ base.lsusb ≠ [] ∧ base.usbDevices ≠ [] := by
  rw [redact_usbValue]
  simp [usbSchema, Schema.field, record, js_inj, OrderedMap.getItem, accepts_udev,
    Nat.one_le_iff_ne_zero]

theorem accepts_modemManager {base : BaseCaptureParts}
    (keyfile : base.mmcliKeyfile = parseKeyfile text)
    (objects : base.managedObjects = objectifyManagedObjects tree) :
    modemManagerSchema.accepts (redact (modemManagerValue base)) = true ↔
      ∀ signal ∈ base.signalWindow, signalRecordSchema.accepts (signalValue signal) = true := by
  rw [redact_modemManagerValue, keyfile, objects]
  simp [modemManagerSchema, Schema.field, record, js_inj, OrderedMap.getItem, accepts_keyfile,
    accepts_objects]

theorem accepts_assembled :
    certificationBundleSchema.accepts (redact (assembled input)) = true ↔
      Schema.number.accepts (.number input.capturedAtMs) = true ∧ input.slot ≠ [] ∧
        (∀ sku ∈ input.base.sku, skuSchema.accepts (SkuValue sku) = true) ∧
        usbSchema.accepts (redact (usbValue input.base)) = true ∧
        modemManagerSchema.accepts (redact (modemManagerValue input.base)) = true ∧
        ∀ transition ∈ input.transition,
          transitionEvidenceSchema.accepts (transitionValue transition) = true := by
  rw [redact_assembled]
  generalize redact (usbValue input.base) = usb
  generalize redact (modemManagerValue input.base) = modemManager
  cases input.base.sku <;> cases input.transition <;>
    simp [certificationBundleSchema, Schema.field, Schema.optionalField, record, js_inj,
      OrderedMap.getItem, natural, CERTIFY_SCHEMA_VERSION, Nat.one_le_iff_ne_zero]

theorem accepts_bundle (keyfile : input.base.mmcliKeyfile = parseKeyfile text)
    (objects : input.base.managedObjects = objectifyManagedObjects tree) :
    certificationBundleSchema.accepts (redact (assembled input)) = true ↔
      Schema.number.accepts (.number input.capturedAtMs) = true ∧ input.slot ≠ [] ∧
        (∀ sku ∈ input.base.sku, skuSchema.accepts (SkuValue sku) = true) ∧
        (input.base.lsusb ≠ [] ∧ input.base.usbDevices ≠ []) ∧
        (∀ signal ∈ input.base.signalWindow,
          signalRecordSchema.accepts (signalValue signal) = true) ∧
        ∀ transition ∈ input.transition,
          transitionEvidenceSchema.accepts (transitionValue transition) = true := by
  rw [accepts_assembled, accepts_usb, accepts_modemManager keyfile objects]

theorem trim_nonempty (printed : trim text ≠ []) : text ≠ [] := by
  rintro rfl
  exact printed rfl

theorem captureLsusb_ok {result : CommandResult} (captured : captureLsusb result = .ok text) :
    text ≠ [] := by
  obtain ⟨stdout, -, ended⟩ := except_bind_ok.mp captured
  split at ended
  · cases ended
  · next printed =>
    split at ended
    · cases ended
    · cases ended
      exact trim_nonempty printed

theorem captureUsbDevices_ok {result : CommandResult}
    (captured : captureUsbDevices result = .ok text) : text ≠ [] := by
  obtain ⟨stdout, -, ended⟩ := except_bind_ok.mp captured
  split at ended
  · cases ended
  · next printed =>
    cases ended
    exact trim_nonempty printed

namespace Capture

variable {capture : Capture}

theorem Complete.base (complete : capture.Complete) :
    ∃ base, captureBase capture.input = .ok base := by
  cases lsusb : captureLsusb capture.input.lsusb with
  | error => exact absurd complete.lsusb (by rw [lsusb]; exact Bool.false_ne_true)
  | ok =>
    cases usbDevices : captureUsbDevices capture.input.usbDevices with
    | error => exact absurd complete.usbDevices (by rw [usbDevices]; exact Bool.false_ne_true)
    | ok =>
      cases mmcli : captureMmcli capture.input.mmcliTarget capture.input.mmcli with
      | error => exact absurd complete.mmcli (by rw [mmcli]; exact Bool.false_ne_true)
      | ok =>
        unfold captureBase
        rw [lsusb, usbDevices, mmcli]
        exact ⟨_, rfl⟩

/-- The input of the bundle. -/
def bundleInput (capture : Capture) (base : BaseCaptureParts) : BundleInput :=
  ⟨capture.slot, capture.synthetic, capture.capturedAtMs, base, capture.transition⟩

/-- Of a capture whose base is there, the schema decides. -/
theorem certify_of_base (sha256 : JsString → JsString) {base : BaseCaptureParts}
    (isBase : captureBase capture.input = .ok base) :
    certify sha256 capture = buildCertificationBundle sha256 (capture.bundleInput base) := by
  unfold certify
  rw [isBase]
  rfl

theorem accepts_iff {base : BaseCaptureParts} (isBase : captureBase capture.input = .ok base) :
    certificationBundleSchema.accepts (redact (assembled (capture.bundleInput base))) = true ↔
      capture.Complete := by
  have captured := captured_of_ok isBase
  have accepted := accepts_bundle (capture.bundleInput base) captured.mmcliKeyfile
    captured.managedObjects
  rw [accepted]
  simp only [bundleInput, captured.sku, captured.signalWindow]
  constructor
  · rintro ⟨capturedAtMs, slot, sku, -, signalWindow, transition⟩
    exact ⟨by rw [captured.lsusb]; rfl, by rw [captured.usbDevices]; rfl, captured.mmcli, slot,
      capturedAtMs, sku, signalWindow, transition⟩
  · intro complete
    exact ⟨complete.capturedAtMs, complete.slot, complete.sku,
      ⟨captureLsusb_ok captured.lsusb, captureUsbDevices_ok captured.usbDevices⟩,
      complete.signalWindow, complete.transition⟩

theorem certify_isOk (sha256 : JsString → JsString) (capture : Capture) :
    (certify sha256 capture).isOk = true ↔ capture.Complete := by
  cases isBase : captureBase capture.input with
  | error =>
    constructor
    · intro isOk
      unfold certify at isOk
      rw [isBase] at isOk
      exact absurd isOk Bool.false_ne_true
    · intro complete
      obtain ⟨base, found⟩ := complete.base
      rw [isBase] at found
      cases found
  | ok =>
    rw [certify_of_base sha256 isBase, ← accepts_iff isBase, buildCertificationBundle]
    split
    · next accepted => exact ⟨fun _ => accepted, fun _ => rfl⟩
    · next refused => exact ⟨fun isOk => absurd isOk Bool.false_ne_true, fun h => absurd h refused⟩

/-! ### What does not depend on the secrets -/

theorem fill_again {secret : JsString} (oneLine : (0x0A : UInt16) ∉ secret) (other : JsString)
    (capture : Capture) : (capture.fill secret).fill other = capture.fill other := by
  have tree : fillTree other (fillTree secret capture.input.managedObjects) =
      fillTree other capture.input.managedObjects := by
    unfold fillTree
    rw [List.map_map]
    refine List.map_congr_left fun object _ => ?_
    simp only [Function.comp_apply, List.map_map]
    congr 1
    refine List.map_congr_left fun interface _ => ?_
    simp only [Function.comp_apply, List.map_map]
    congr 1
    exact List.map_congr_left fun property _ => (replaces_property property).again secret other
  unfold fill
  simp only [fillKeyfile_again oneLine, tree]

theorem complete_fill (oneLine : (0x0A : UInt16) ∉ secret) :
    (capture.fill secret).Complete ↔ capture.Complete := by
  have mmcli : (captureMmcli capture.input.mmcliTarget (capture.fill secret).input.mmcli).isOk =
      (captureMmcli capture.input.mmcliTarget capture.input.mmcli).isOk := by
    rw [capture.captureMmcli_fill oneLine]
    cases captureMmcli capture.input.mmcliTarget capture.input.mmcli <;> rfl
  constructor
  · intro complete
    exact ⟨complete.lsusb, complete.usbDevices, mmcli ▸ complete.mmcli, complete.slot,
      complete.capturedAtMs, capture.sku_fill ▸ complete.sku, complete.signalWindow,
      complete.transition⟩
  · intro complete
    exact ⟨complete.lsusb, complete.usbDevices, mmcli.trans complete.mmcli, complete.slot,
      complete.capturedAtMs, by rw [capture.sku_fill]; exact complete.sku, complete.signalWindow,
      complete.transition⟩

end Capture

theorem lastOf_keysOf_fill (key secret : JsString) (props : DecodedProps) :
    lastOf key (keysOf (props.map (fillProperty secret))) =
      (lastOf key (keysOf props)).map (fillProperty secret) := by
  rw [← lastOf_map fun _ property => fillProperty secret property]
  simp only [keysOf, List.map_map]
  rfl

theorem propsSealed_fill : PropsSealed (props.map (fillProperty secret)) ↔ PropsSealed props := by
  unfold PropsSealed
  refine forall₂_congr fun key named => ?_
  rw [lastOf_keysOf_fill, keepsPrototype_fill]
  cases lastOf key (keysOf props) with
  | none => simp
  | some property => simp [(replaces_property property).keeps]

theorem lastOf_namesOf_fill (name secret : JsString) (interfaces : DecodedInterfaces) :
    lastOf name (namesOf (interfaces.map fun interface =>
        (interface.1, interface.2.map (fillProperty secret)))) =
      (lastOf name (namesOf interfaces)).map fun props => props.map (fillProperty secret) := by
  rw [← lastOf_map fun _ props => List.map (fillProperty secret) props]
  simp only [namesOf, List.map_map]
  rfl

theorem lastOf_textOf_fill (path secret : JsString) (tree : DecodedManagedObjects) :
    lastOf path (textOf (fillTree secret tree)) =
      (lastOf path (textOf tree)).map fun interfaces => interfaces.map fun interface =>
        (interface.1, interface.2.map (fillProperty secret)) := by
  rw [← lastOf_map fun _ interfaces => List.map (fun interface : InterfaceName × DecodedProps =>
    (interface.1, interface.2.map (fillProperty secret))) interfaces]
  simp only [textOf, fillTree, List.map_map]
  rfl

theorem Capture.sealed_fill (oneLine : (0x0A : UInt16) ∉ secret) {capture : Capture} :
    (capture.fill secret).Sealed ↔ capture.Sealed := by
  have keyfile : (∀ entry ∈ keyfileEntries (capture.fill secret).input.mmcli.stdout,
      isSecretKey entry.1 = true → isSensitiveKey entry.1 = true) ↔
      ∀ entry ∈ keyfileEntries capture.input.mmcli.stdout,
        isSecretKey entry.1 = true → isSensitiveKey entry.1 = true := by
    unfold Capture.fill
    simp only [entries_fillKeyfile oneLine, List.forall_mem_map, fillEntry]
  have objects : (∀ path interfaces,
      lastOf path (textOf (capture.fill secret).input.managedObjects) = some interfaces →
        ∀ name props, lastOf name (namesOf interfaces) = some props →
          isSensitiveKey name = true ∨ PropsSealed props) ↔
      ∀ path interfaces, lastOf path (textOf capture.input.managedObjects) = some interfaces →
        ∀ name props, lastOf name (namesOf interfaces) = some props →
          isSensitiveKey name = true ∨ PropsSealed props := by
    unfold Capture.fill
    refine forall_congr' fun path => ?_
    simp only [lastOf_textOf_fill]
    cases lastOf path (textOf capture.input.managedObjects) with
    | none => simp
    | some interfaces =>
      simp only [Option.map_some, Option.some.injEq, forall_eq']
      refine forall_congr' fun name => ?_
      rw [lastOf_namesOf_fill]
      cases lastOf name (namesOf interfaces) with
      | none => simp
      | some => simp [propsSealed_fill]
  constructor
  · intro isSealed
    exact ⟨keyfile.mp isSealed.keyfile, objects.mp isSealed.objects⟩
  · intro isSealed
    exact ⟨keyfile.mpr isSealed.keyfile, objects.mpr isSealed.objects⟩


/-! ### Secrets that are seen -/

mutual

/-- An array of pairs has no key to be masked by. -/
theorem redact_jsonValue : ∀ value : DecodedValue, redactValue false (jsonValue value) = jsonValue value
  | .string _ | .number _ | .boolean _ | .bigint _ => rfl
  | .bytes value => by
    rw [jsonValue, redactValue, if_neg Bool.false_ne_true, redactItems_eq_map, List.map_map]
    rfl
  | .variant _ value => redact_jsonValue value
  | .array items => by
    rw [jsonValue, redactValue, if_neg Bool.false_ne_true, redact_jsonItems items]

theorem redact_jsonItems : ∀ items : List DecodedValue, redactItems (jsonItems items) = jsonItems items
  | [] => rfl
  | item :: rest => by
    rw [jsonItems, redactItems, redact_jsonValue item, redact_jsonItems rest]

end

theorem get_modemManager :
    (redact (assembled input)).get (js "modemManager") =
      some (redact (modemManagerValue input.base)) := by
  rw [redact_assembled]
  cases input.base.sku <;> cases input.transition <;>
    simp [record, js_inj, JsValue.get, OrderedMap.getItem]

theorem lastOf_isSome {α : Type} {value : α} {entries : List (JsString × α)}
    (mem : (key, value) ∈ entries) : ∃ last, lastOf key entries = some last := by
  unfold lastOf
  have mem : (key, value) ∈ entries.reverse := List.mem_reverse.mpr mem
  generalize entries.reverse = reversed at mem
  induction reversed with
  | nil => cases mem
  | cons entry rest ih =>
    by_cases same : entry.1 = key
    · exact ⟨entry.2, if_pos same⟩
    · rw [OrderedMap.getItem, if_neg same]
      refine ih ((List.mem_cons.mp mem).resolve_left fun isEntry => same ?_)
      rw [← isEntry]

/-- A secret that is not masked is seen in the keyfile. -/
theorem keyfile_seen {entry : JsString × JsString} (mem : entry ∈ keyfileEntries text)
    (isSecret : isSecretKey entry.1 = true) (unmasked : isSensitiveKey entry.1 = false)
    (oneLine : (0x0A : UInt16) ∉ secret) :
    (redact (parseKeyfile (fillKeyfile secret text))).get entry.1 = some (.string (trim secret)) := by
  have named : entry.1 ≠ protoKey := by
    intro isProto
    rw [isProto] at isSecret
    exact absurd isSecret (by decide)
  obtain ⟨last, isLast⟩ := lastOf_isSome mem
  have filled : (keyfileEntries text).map (fillEntry secret) =
      (keyfileEntries text).map fun entry =>
        (entry.1, if isSecretKey entry.1 then trim secret else entry.2) := rfl
  rw [redact, parseKeyfile_eq, get_redact_objectOf named, keepsPrototype_strings,
    entries_fillKeyfile oneLine, filled, lastOf_map fun _ value => JsValue.string value,
    lastOf_map fun key value => if isSecretKey key then trim secret else value, isLast]
  simp [isSecret, unmasked, redactValue]

theorem newline_not_mem : (0x0A : UInt16) ∉ js "a" ∧ (0x0A : UInt16) ∉ js "b" := by decide

/-- So that two secrets are told apart. -/
theorem keyfile_differs {entry : JsString × JsString} (mem : entry ∈ keyfileEntries text)
    (isSecret : isSecretKey entry.1 = true) (unmasked : isSensitiveKey entry.1 = false) :
    redact (parseKeyfile (fillKeyfile (js "a") text)) ≠
      redact (parseKeyfile (fillKeyfile (js "b") text)) := by
  intro same
  have seen (secret : JsString) (oneLine : (0x0A : UInt16) ∉ secret) :=
    keyfile_seen mem isSecret unmasked oneLine
  have seenA := seen (js "a") newline_not_mem.1
  rw [same, seen (js "b") newline_not_mem.2] at seenA
  simp only [Option.some.injEq, JsValue.string.injEq] at seenA
  exact absurd seenA (by decide)

/-- What is seen of a property. -/
def seenProperty (props : DecodedProps) (key : JsString) (property : JsString × DecodedVariant) :
    JsValue :=
  if keepsPrototype (props.map propertyEntry) ∧ isSensitiveKey key = true then .string REDACTED
  else jsonValue property.2.value

theorem get_redact_objectifyProps (props : DecodedProps) (named : key ≠ protoKey) :
    (redact (objectifyProps props)).get key =
      (lastOf key (keysOf props)).map (seenProperty props key) := by
  rw [redact, objectifyProps, get_redact_objectOf named]
  unfold seenProperty
  generalize keepsPrototype (props.map propertyEntry) = plain
  rw [entries_eq, lastOf_map fun _ (property : JsString × DecodedVariant) => jsonValue property.2.value,
    Option.map_map]
  refine congrArg (Option.map · _) (funext fun property => ?_)
  cases plain <;> cases sensitive : isSensitiveKey key <;> simp [redact_jsonValue]

/-- What is seen of an interface. -/
theorem get_redact_objectifyInterfaces (interfaces : DecodedInterfaces) {name : JsString}
    (isLast : lastOf name (namesOf interfaces) = some props)
    (unmasked : isSensitiveKey name = false) :
    (redact (objectifyInterfaces interfaces)).get name = some (redact (objectifyProps props)) := by
  obtain ⟨interface, -, same⟩ := List.mem_map.mp (mem_of_lastOf isLast)
  have named : name ≠ protoKey := (Prod.mk.inj same).1 ▸ interface.1.ne_proto
  rw [redact, objectifyInterfaces_eq, get_redact_objectOf named, keepsPrototype_names,
    lastOf_map fun _ props => objectifyProps props, isLast]
  simp [unmasked, redact]

theorem get_redact_objectifyManagedObjects (tree : DecodedManagedObjects) {path : JsString}
    {interfaces : DecodedInterfaces} (isLast : lastOf path (textOf tree) = some interfaces) :
    (redact (objectifyManagedObjects tree)).get path =
      some (redact (objectifyInterfaces interfaces)) := by
  obtain ⟨object, -, same⟩ := List.mem_map.mp (mem_of_lastOf isLast)
  have named : path ≠ protoKey := (Prod.mk.inj same).1 ▸ object.1.ne_proto
  have unmasked : isSensitiveKey path = false := (Prod.mk.inj same).1 ▸ object.1.insensitive
  rw [redact, objectifyManagedObjects_eq, get_redact_objectOf named, keepsPrototype_paths,
    lastOf_map fun _ interfaces => objectifyInterfaces interfaces, isLast]
  simp [unmasked, redact]

/-- A secret that is not masked is seen among the managed objects. -/
theorem objects_seen {path name key : JsString} {interfaces : DecodedInterfaces}
    {property : JsString × DecodedVariant} (isPath : lastOf path (textOf tree) = some interfaces)
    (isName : lastOf name (namesOf interfaces) = some props)
    (isKey : lastOf key (keysOf props) = some property) (named : key ≠ protoKey)
    (unmasked : isSensitiveKey name = false)
    (shown : ¬ (keepsPrototype (props.map propertyEntry) = true ∧ isSensitiveKey key = true))
    (secret : JsString) :
    (((redact (objectifyManagedObjects (fillTree secret tree))).get path).bind (·.get name)).bind
      (·.get key) = some (jsonValue (fillProperty secret property).2.value) := by
  have filledPath := lastOf_textOf_fill path secret tree
  rw [isPath, Option.map_some] at filledPath
  have filledName := lastOf_namesOf_fill name secret interfaces
  rw [isName, Option.map_some] at filledName
  have filledKey := lastOf_keysOf_fill key secret props
  rw [isKey, Option.map_some] at filledKey
  rw [get_redact_objectifyManagedObjects _ filledPath, Option.bind_some,
    get_redact_objectifyInterfaces _ filledName unmasked, Option.bind_some,
    get_redact_objectifyProps _ named, filledKey, Option.map_some, seenProperty,
    keepsPrototype_fill, if_neg shown]

/-! ### The result -/

theorem agree_self (result : Except CertifyError CertificationResult) : Agree result result := by
  cases result with
  | error => trivial
  | ok => exact ⟨rfl, rfl⟩

theorem agree_errors {first second : Except CertifyError CertificationResult}
    (failed : ¬ first.isOk = true) (failed' : ¬ second.isOk = true) : Agree first second := by
  cases first with
  | ok => exact absurd rfl failed
  | error error =>
    cases second with
    | ok => exact absurd rfl failed'
    | error => trivial

theorem Agree.symm {first second : Except CertifyError CertificationResult}
    (agree : Agree first second) : Agree second first := by
  cases first <;> cases second <;> first | exact ⟨agree.1.symm, agree.2.symm⟩ | exact agree

theorem Agree.trans {first second third : Except CertifyError CertificationResult}
    (agree : Agree first second) (next : Agree second third) : Agree first third := by
  cases first <;> cases second <;> cases third <;>
    first | exact ⟨agree.1.trans next.1, agree.2.trans next.2⟩ | trivial

theorem agree_modemManager {sha256 : JsString → JsString} {capture other : Capture}
    {base base' : BaseCaptureParts} (isBase : captureBase capture.input = .ok base)
    (isBase' : captureBase other.input = .ok base') (complete : capture.Complete)
    (agree : Agree (certify sha256 capture) (certify sha256 other)) :
    redact base.mmcliKeyfile = redact base'.mmcliKeyfile ∧
      redact base.managedObjects = redact base'.managedObjects := by
  have accepted := (Capture.accepts_iff isBase).mpr complete
  rw [Capture.certify_of_base sha256 isBase, Capture.certify_of_base sha256 isBase',
    buildCertificationBundle, if_pos accepted, buildCertificationBundle] at agree
  split at agree
  · obtain ⟨same, -⟩ := agree
    unfold CertificationResult.modemManager at same
    rw [get_modemManager, get_modemManager, Option.some.injEq, redact_modemManagerValue,
      redact_modemManagerValue] at same
    simp only [record, List.map, JsValue.object.injEq, List.cons.injEq, Prod.mk.injEq] at same
    exact ⟨same.2.1.2, same.2.2.1.2⟩
  · exact agree.elim

namespace Capture

variable {capture : Capture}

/-- What two captures that agree show of their secrets. -/
theorem shown_of_agree {sha256 : JsString → JsString} (complete : capture.Complete) {x y : JsString}
    (oneLineX : (0x0A : UInt16) ∉ x) (oneLineY : (0x0A : UInt16) ∉ y)
    (agree : Agree (certify sha256 (capture.fill x)) (certify sha256 (capture.fill y))) :
    redact (parseKeyfile (fillKeyfile x capture.input.mmcli.stdout)) =
        redact (parseKeyfile (fillKeyfile y capture.input.mmcli.stdout)) ∧
      redact (objectifyManagedObjects (fillTree x capture.input.managedObjects)) =
        redact (objectifyManagedObjects (fillTree y capture.input.managedObjects)) := by
  obtain ⟨base, isBase⟩ := complete.base
  have isX := capture.captureBase_fill oneLineX
  have isY := capture.captureBase_fill oneLineY
  rw [isBase] at isX isY
  exact agree_modemManager isX isY ((complete_fill oneLineX).mpr complete) agree

theorem sameButSecrets_fill (capture : Capture) {x y : JsString}
    (oneLineX : (0x0A : UInt16) ∉ x) (oneLineY : (0x0A : UInt16) ∉ y) :
    (capture.fill x).SameButSecrets (capture.fill y) :=
  (fill_again oneLineX [] capture).trans (fill_again oneLineY [] capture).symm

/-- If all fillings agree, then every secret that is kept is masked. -/
theorem sealed_of_agree (sha256 : JsString → JsString) (complete : capture.Complete)
    (agree : ∀ x y, (0x0A : UInt16) ∉ x → (0x0A : UInt16) ∉ y →
      Agree (certify sha256 (capture.fill x)) (certify sha256 (capture.fill y))) :
    capture.Sealed := by
  obtain ⟨keyfile, objects⟩ := shown_of_agree complete newline_not_mem.1 newline_not_mem.2
    (agree (js "a") (js "b") newline_not_mem.1 newline_not_mem.2)
  constructor
  · intro entry mem isSecret
    by_contra unmasked
    have unmasked := eq_false_of_ne_true unmasked
    exact keyfile_differs mem isSecret unmasked keyfile
  · intro path interfaces isPath name props isName
    by_contra notMasked
    rw [not_or] at notMasked
    obtain ⟨unmasked, notSealed⟩ := notMasked
    refine notSealed fun key named property isKey holds => ?_
    by_contra shown
    have unmasked := eq_false_of_ne_true unmasked
    have seenA := objects_seen isPath isName isKey named unmasked shown (js "a")
    have seenB := objects_seen isPath isName isKey named unmasked shown (js "b")
    rw [objects, seenB, Option.some.injEq] at seenA
    exact absurd ((replaces_property property).seen holds _ _ seenA) (by decide)

/-- A key of the keyfile that no set of sensitive keys knows. -/
theorem not_agree (sha256 : JsString → JsString) (complete : capture.Complete)
    {entry : JsString × JsString} (mem : entry ∈ keyfileEntries capture.input.mmcli.stdout)
    (isSecret : isSecretKey entry.1 = true) (unmasked : isSensitiveKey entry.1 = false) :
    ¬ Agree (certify sha256 (capture.fill (js "a"))) (certify sha256 (capture.fill (js "b"))) :=
  fun agree => keyfile_differs mem isSecret unmasked
    (shown_of_agree complete newline_not_mem.1 newline_not_mem.2 agree).1

end Capture

/-- A capture is certified with the same `modemManager` part and the same hash whatever its secrets
are, exactly if each secret that is kept stands under a masked key, or the capture is not certified
at all. -/
theorem sealed_iff (sha256 : JsString → JsString) (capture : Capture) :
    (∀ other, capture.SameButSecrets other →
        Agree (certify sha256 capture) (certify sha256 other)) ↔
      capture.Sealed ∨ ¬ capture.Complete := by
  have empty : (0x0A : UInt16) ∉ ([] : JsString) := List.not_mem_nil
  constructor
  · intro agree
    by_cases complete : capture.Complete
    · refine .inl (Capture.sealed_of_agree sha256 complete fun x y oneLineX oneLineY => ?_)
      have same (secret : JsString) (oneLine : (0x0A : UInt16) ∉ secret) :
          capture.SameButSecrets (capture.fill secret) := (Capture.fill_again oneLine [] capture).symm
      exact (agree _ (same x oneLineX)).symm.trans (agree _ (same y oneLineY))
    · exact .inr complete
  · rintro (isSealed | incomplete) other same
    · have otherSealed : other.Sealed := by
        rw [← Capture.sealed_fill empty, ← same]
        exact (Capture.sealed_fill empty).mpr isSealed
      rw [← certify_fill sha256 empty isSealed, ← certify_fill sha256 empty otherSealed, same]
      exact agree_self _
    · have otherIncomplete : ¬ other.Complete := by
        intro complete
        rw [← Capture.complete_fill empty, ← same] at complete
        exact incomplete ((Capture.complete_fill empty).mp complete)
      rw [← Capture.certify_isOk sha256] at incomplete otherIncomplete
      exact agree_errors incomplete otherIncomplete

/-- A capture of a modem without objects on the bus, whose SIM has one number. -/
def ownNumberCapture : Capture where
  input :=
    { lsusb := ⟨js "Device Descriptor:", [], 0⟩
      usbDevices := ⟨js "T:", [], 0⟩
      mmcli := ⟨js "modem.generic.own-numbers.value[1] : +1555", [], 0⟩
      mmcliTarget := js "0"
      managedObjects := []
      modemPath := js "/m"
      device := none
      signalWindow := [] }
  slot := js "1"
  synthetic := false
  capturedAtMs := .finite 0
  transition := none

theorem ownNumberCapture_complete : ownNumberCapture.Complete where
  lsusb := by decide
  usbDevices := by decide
  mmcli := by decide
  slot := by decide
  capturedAtMs := by decide
  sku sku found := by cases found
  signalWindow signal mem := by cases mem
  transition transition found := by cases found

/-- An item of a keyfile list has a key that no set of sensitive keys knows. -/
theorem exists_unmasked : ∃ capture : Capture, capture.Complete ∧
    ∃ entry ∈ keyfileEntries capture.input.mmcli.stdout,
      isSecretKey entry.1 = true ∧ isSensitiveKey entry.1 = false :=
  ⟨ownNumberCapture, ownNumberCapture_complete,
    (js "modem.generic.own-numbers.value[1]", js "+1555"), by decide, by decide,
    by decide⟩

theorem ownNumber_seen : ¬ ∀ (sha256 : JsString → JsString) (capture other : Capture),
    capture.SameButSecrets other → Agree (certify sha256 capture) (certify sha256 other) := by
  intro alike
  obtain ⟨capture, complete, entry, mem, isSecret, unmasked⟩ := exists_unmasked
  have same := capture.sameButSecrets_fill newline_not_mem.1 newline_not_mem.2
  exact Capture.not_agree id complete mem isSecret unmasked (alike id _ _ same)

end ModemStack.Certify
