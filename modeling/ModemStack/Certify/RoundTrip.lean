import ModemStack.Certify.Leaks
import ModemStack.Certify.TransitionEvidence
import ModemStack.UsbMode.Ingestion

/-!
From a certified switch through its bundle to the catalog.

The candidate is the transition that was carried out, exactly if that one has no `applyCommand`
(`roundTrips_iff`): the evidence has no field for it.
-/

namespace ModemStack.Certify

open ModemStack.Async ModemStack.Data ModemStack.Text ModemStack.UsbMode

/-! ### Descriptors -/

theorem accepts_usbByte (n : Nat) : usbByte.accepts (natural n) = decide (n ≤ 255) := by
  simp only [usbByte, natural, Schema.accepts]
  have bound : (n : Int) ≤ 255 ↔ n ≤ 255 := by omega
  simp [bound]

theorem readByte_natural {n : Nat} (small : n ≤ 255) : readByte (natural n) = some n := by
  have bound : (n : Int) ≤ 255 := by omega
  simp [natural, readByte, bound]

theorem accepts_descriptors (descriptors : ExpectedDescriptors) :
    expectedDescriptorsSchema.accepts (descriptorsValue descriptors) = descriptors.valid := by
  rw [expectedDescriptorsSchema, descriptorsValue]
  simp [js_inj, Schema.accepts, Schema.acceptsFields, Schema.field, record, OrderedMap.getItem,
    accepts_usbByte, ExpectedDescriptors.valid, Function.comp_def]
  cases descriptors.interfaces <;> simp [Bool.and_assoc]

theorem expectedInterface_value {i : ExpectedInterface} (class' : i.interfaceClass ≤ 255)
    (subClass : i.interfaceSubClass ≤ 255) (protocol : i.interfaceProtocol ≤ 255) :
    expectedInterface (record [("interfaceClass", natural i.interfaceClass),
      ("interfaceSubClass", natural i.interfaceSubClass),
      ("interfaceProtocol", natural i.interfaceProtocol)]) = some i := by
  simp [js_inj, expectedInterface, onlyKeys, required, record, JsValue.keys, JsValue.get,
    OrderedMap.getItem, readByte_natural class', readByte_natural subClass,
    readByte_natural protocol]

theorem mapM_some {α β : Type} {read : β → Option α} {value : α → β} {items : List α}
    (reads : ∀ item ∈ items, read (value item) = some item) :
    (items.map value).mapM read = some items := by
  induction items with
  | nil => rfl
  | cons item rest ih =>
    have later := ih fun other mem => reads other (List.mem_cons_of_mem _ mem)
    rw [List.map_cons, List.mapM_cons, reads item List.mem_cons_self, later]
    rfl

/-- Descriptors are read back as they were captured. -/
theorem expectedDescriptors_value {descriptors : ExpectedDescriptors}
    (valid : descriptors.valid = true) :
    expectedDescriptors (descriptorsValue descriptors) = some descriptors := by
  simp only [ExpectedDescriptors.valid, Bool.and_eq_true, decide_eq_true_eq, List.all_eq_true]
    at valid
  obtain ⟨⟨deviceClass, some⟩, bytes⟩ := valid
  have interfaces := mapM_some fun i mem =>
    expectedInterface_value (bytes i mem).1.1 (bytes i mem).1.2 (bytes i mem).2
  have least : 1 ≤ descriptors.interfaces.length := List.length_pos_iff.mpr some
  simp only [record, List.map_cons, List.map_nil] at interfaces
  simp [js_inj, expectedDescriptors, descriptorsValue, onlyKeys, required, record, JsValue.keys,
    JsValue.get, OrderedMap.getItem, readItems, readByte_natural deviceClass, interfaces, least]

theorem readMode_text (mode : MmUsbMode) : readMode (.string mode.text) = some mode := by
  cases mode <;> decide

/-! ### The transition -/

variable {transition : TransitionEvidence}

/-- What the schema asks of the evidence of a transition. -/
theorem accepts_transition
    (accepted : transitionEvidenceSchema.accepts (transitionValue transition) = true) :
    transition.atCommand ≠ [] ∧ transition.expectedResponse ≠ [] ∧
      transition.afterDescriptors.valid = true := by
  simp [js_inj, transitionEvidenceSchema, Schema.accepts, Schema.acceptsFields, Schema.field,
    transitionValue, record, OrderedMap.getItem, accepts_descriptors] at accepted
  obtain ⟨-, -, command, response, -, after, -⟩ := accepted
  exact ⟨List.length_pos_iff.mp command, List.length_pos_iff.mp response, after⟩

/-- The evidence, as the view has it. -/
def viewOf (transition : TransitionEvidence) : TransitionView where
  source := transition.source
  target := transition.target
  atCommand := transition.atCommand
  expectedResponse := transition.expectedResponse
  expectsPortDrop := transition.expectsPortDrop
  afterDescriptors := transition.afterDescriptors

theorem readText_nonempty {text : JsString} (nonempty : text ≠ []) :
    readText 1 (.string text) = some text := by
  simp [readText, Nat.one_le_iff_ne_zero, nonempty]

theorem transitionView_value
    (accepted : transitionEvidenceSchema.accepts (transitionValue transition) = true) :
    transitionView (transitionValue transition) = some (viewOf transition) := by
  obtain ⟨command, response, after⟩ := accepts_transition accepted
  simp [js_inj, transitionView, transitionValue, required, record, JsValue.get, OrderedMap.getItem,
    readMode_text, readText_nonempty command, readText_nonempty response, readFlag,
    expectedDescriptors_value after, viewOf]

/-! ### The bundle -/

variable {sku : SkuDiscriminator}

theorem accepts_sku (accepted : skuSchema.accepts (SkuValue sku) = true) :
    isVidPid sku.vidPid = true ∧ sku.model ≠ [] ∧ sku.firmwarePrefix ≠ [] := by
  simp [js_inj, skuSchema, Schema.accepts, Schema.acceptsFields, Schema.field, SkuValue, record,
    OrderedMap.getItem] at accepted
  exact ⟨accepted.1, List.length_pos_iff.mp accepted.2.1, List.length_pos_iff.mp accepted.2.2⟩

theorem skuView_value (accepted : skuSchema.accepts (SkuValue sku) = true) :
    skuView (SkuValue sku) = some sku := by
  obtain ⟨vidPid, model, firmwarePrefix⟩ := accepts_sku accepted
  simp [js_inj, skuView, SkuValue, required, record, JsValue.get, OrderedMap.getItem, readVidPid,
    vidPid, readText_nonempty model, readText_nonempty firmwarePrefix]

theorem readTexts_accepted {value : JsValue}
    (accepted : (Schema.record (.string 0)).accepts value = true) :
    ∃ properties, readTexts value = some properties := by
  cases value with
  | object plain members =>
    simp only [Schema.accepts, Bool.and_eq_true, List.all_eq_true] at accepted
    obtain ⟨isPlain, strings⟩ := accepted
    rw [isPlain, readTexts]
    induction members with
    | nil => exact ⟨[], rfl⟩
    | cons entry rest ih =>
      obtain ⟨properties, later⟩ := ih fun other mem => strings other (List.mem_cons_of_mem _ mem)
      have isString := strings entry List.mem_cons_self
      cases isText : entry.2 with
      | string text =>
        refine ⟨(entry.1, text) :: properties, ?_⟩
        rw [List.mapM_cons, later]
        simp [isText, readText]
      | _ => simp [isText, Schema.accepts] at isString
  | _ => simp [Schema.accepts] at accepted

theorem usbView_redacted {base : BaseCaptureParts}
    (accepted : usbSchema.accepts (redact (usbValue base)) = true) :
    ∃ properties, usbView (redact (usbValue base)) = some (base.usbDevices, properties) := by
  obtain ⟨-, usbDevices⟩ := accepts_usb.mp accepted
  obtain ⟨properties, read⟩ := readTexts_accepted (accepts_udev base.udevProperties)
  refine ⟨properties, ?_⟩
  rw [redact_usbValue]
  simp [js_inj, usbView, required, record, JsValue.get, OrderedMap.getItem,
    readText_nonempty usbDevices, read]

theorem readNumber_accepted {value : Double} (accepted : Schema.number.accepts (.number value) = true) :
    readNumber (.number value) = some value := by
  cases value with
  | nan | infinite => simp [Schema.accepts] at accepted
  | _ => rfl

/-- The view reads of an accepted bundle what was put in. -/
theorem evidenceBundleView_accepted {input : BundleInput} (isSku : input.base.sku = some sku)
    (isTransition : input.transition = some transition)
    (accepted : certificationBundleSchema.accepts (redact (assembled input)) = true) :
    ∃ properties, evidenceBundleView (redact (assembled input)) =
      some ⟨input.synthetic, input.capturedAtMs, input.slot, some sku, input.base.usbDevices,
        properties, some (viewOf transition)⟩ := by
  obtain ⟨capturedAtMs, slot, skuOk, usb, -, transitionOk⟩ := (accepts_assembled input).mp accepted
  obtain ⟨properties, usbRead⟩ := usbView_redacted usb
  have skuRead := skuView_value (skuOk sku isSku)
  have transitionRead := transitionView_value (transitionOk transition isTransition)
  refine ⟨properties, ?_⟩
  rw [redact_assembled, isSku, isTransition]
  generalize redact (usbValue input.base) = usbPart at usbRead
  generalize redact (modemManagerValue input.base) = modemManagerPart
  simp [js_inj, evidenceBundleView, required, optionally, record, JsValue.get, OrderedMap.getItem,
    schemaVersion, natural, CERTIFY_SCHEMA_VERSION, readFlag, readNumber_accepted capturedAtMs,
    readText_nonempty slot, usbRead, skuRead, transitionRead]

/-! ### The candidate -/

def candidateEntry (sku : SkuDiscriminator) (evidence : TransitionEvidence)
    (bundleSha256 : JsString) : CatalogEntry where
  vidPid := sku.vidPid
  model := sku.model
  firmwarePrefix := sku.firmwarePrefix
  canonicalMode := evidence.source.canonical
  permittedTransitions := [candidateTransition bundleSha256 (viewOf evidence)]

theorem candidateEntry_valid {evidence : TransitionEvidence} {bundleSha256 : JsString}
    (hex : isSha256 bundleSha256 = true) (skuOk : skuSchema.accepts (SkuValue sku) = true)
    (transitionOk : transitionEvidenceSchema.accepts (transitionValue evidence) = true) :
    (candidateEntry sku evidence bundleSha256).valid =
      decide (evidence.source ≠ evidence.target) := by
  obtain ⟨vidPid, model, firmwarePrefix⟩ := accepts_sku skuOk
  obtain ⟨command, response, after⟩ := accepts_transition transitionOk
  have isMode : MM_USB_MODES.any (fun mode => mode.canonical = evidence.source.canonical) = true := by
    cases evidence.source <;> decide
  simp [CatalogEntry.valid, candidateEntry, PermittedTransition.valid, candidateTransition, viewOf,
    vidPid, model, firmwarePrefix, command, response, after, hex] at isMode ⊢
  intro _
  obtain ⟨mode, mem, same⟩ := isMode
  exact ⟨mode, mem, decide_eq_true same⟩

section Candidate

variable {sha256 : JsString → JsString} {input : BundleInput} {sku : SkuDiscriminator}
  {evidence : TransitionEvidence} {result : CertificationResult}

/-- The bundle that was built, and what it was accepted for. -/
theorem built_ok (built : buildCertificationBundle sha256 input = .ok result) :
    certificationBundleSchema.accepts (redact (assembled input)) = true ∧
      result = ⟨redact (assembled input), sha256 (canonicalJson (redact (assembled input)))⟩ := by
  unfold buildCertificationBundle at built
  by_cases accepted : certificationBundleSchema.accepts (redact (assembled input)) = true
  · simp only [if_pos accepted] at built
    exact ⟨accepted, (Except.ok.inj built).symm⟩
  · simp only [if_neg accepted] at built
    cases built

theorem parse_built (hex : ∀ text, isSha256 (sha256 text) = true)
    (built : buildCertificationBundle sha256 input = .ok result)
    (isSku : input.base.sku = some sku) (isTransition : input.transition = some evidence) :
    ∃ properties, parseIngestionRequest ⟨result.bundle, result.sha256⟩ =
      .ok ⟨input.synthetic, input.capturedAtMs, input.slot, some sku, input.base.usbDevices,
        properties, some (viewOf evidence)⟩ := by
  obtain ⟨accepted, rfl⟩ := built_ok built
  obtain ⟨properties, read⟩ := evidenceBundleView_accepted isSku isTransition accepted
  refine ⟨properties, ?_⟩
  rw [parseIngestionRequest, if_neg (by simp [hex])]
  simp only [read]

/-- The candidate is built of all that was captured, if the modes differ. -/
theorem candidate_built (hex : ∀ text, isSha256 (sha256 text) = true)
    (built : buildCertificationBundle sha256 input = .ok result) (real : input.synthetic = false)
    (isSku : input.base.sku = some sku) (isTransition : input.transition = some evidence) :
    buildCatalogEntryCandidate ⟨result.bundle, result.sha256⟩ ⟨evidence.source.canonical⟩ =
      if evidence.source ≠ evidence.target then .ok (candidateEntry sku evidence result.sha256)
      else .error ⟨.entrySchemaInvalid, none⟩ := by
  obtain ⟨properties, parsed⟩ := parse_built hex built isSku isTransition
  obtain ⟨accepted, same⟩ := built_ok built
  obtain ⟨-, -, skuOk, -, -, transitionOk⟩ := (accepts_assembled input).mp accepted
  have isHex : isSha256 result.sha256 = true := by rw [same, hex]
  have valid := candidateEntry_valid isHex (skuOk sku isSku) (transitionOk evidence isTransition)
  rw [buildCatalogEntryCandidate, parsed]
  have agreed : (some (viewOf evidence)).filter (fun transition =>
      transition.source.canonical ≠ evidence.source.canonical) = none := by
    simp [viewOf]
  change (if input.synthetic = true then _ else _) = _
  rw [if_neg (by simp [real])]
  dsimp only
  rw [agreed]
  change (if (candidateEntry sku evidence result.sha256).valid = true then _ else _) = _
  rw [valid]
  by_cases differ : evidence.source ≠ evidence.target
  · rw [if_pos (decide_eq_true differ), if_pos differ]
    rfl
  · rw [if_neg (by simpa using differ), if_neg differ]

end Candidate

/-! ### The round trip -/

/-- The commands, and what is expected of them. -/
structure SameCommands (candidate carried : PermittedTransition) : Prop where
  atCommand : candidate.atCommand = carried.atCommand
  applyCommand : candidate.applyCommand = carried.applyCommand
  expectedResponse : candidate.expectedResponse = carried.expectedResponse
  expectsPortDrop : candidate.expectsPortDrop = carried.expectsPortDrop

/-- The bundle is ingested, and the entry made of it permits the transition that was carried out. -/
structure RoundTrips (sku : SkuDiscriminator) (evidence : TransitionEvidence)
    (carried : PermittedTransition) (request : IngestionRequest) : Prop where
  parsed : ∃ view, parseIngestionRequest request = .ok view
  candidate : ∃ entry,
    buildCatalogEntryCandidate request ⟨evidence.source.canonical⟩ = .ok entry ∧
      (⟨entry.vidPid, entry.model, entry.firmwarePrefix⟩ : SkuDiscriminator) = sku ∧
      ∃ found, findPermittedTransition entry evidence.source evidence.target = some found ∧
        SameCommands found carried ∧ found.expectedDescriptors = evidence.afterDescriptors ∧
        found.evidenceBundleSha256 = some request.bundleSha256

theorem roundTrips_evidence {sha256 : JsString → JsString} {input : BundleInput}
    {evidence : TransitionEvidence} {result : CertificationResult}
    {capture : TransitionCaptureInput} {certified : CertifiedTransition}
    (hex : ∀ text, isSha256 (sha256 text) = true)
    (built : buildCertificationBundle sha256 input = .ok result) (real : input.synthetic = false)
    (isSku : input.base.sku = some sku) (isTransition : input.transition = some evidence)
    (isEvidence : EvidenceOf capture certified evidence) :
    RoundTrips sku evidence certified.transition ⟨result.bundle, result.sha256⟩ ↔
      certified.transition.applyCommand = none ∧ certified.fromMode ≠ capture.targetMode := by
  have candidate := candidate_built hex built real isSku isTransition
  rw [isEvidence.source, isEvidence.target] at candidate
  have found : findPermittedTransition (candidateEntry sku evidence result.sha256) evidence.source
      evidence.target = some (candidateTransition result.sha256 (viewOf evidence)) := by
    simp [findPermittedTransition, candidateEntry, candidateTransition, viewOf]
  constructor
  · rintro ⟨-, entry, isEntry, -, transition, isFound, same, -, -⟩
    rw [isEvidence.source, candidate] at isEntry
    by_cases differ : certified.fromMode ≠ capture.targetMode
    · rw [if_pos differ] at isEntry
      cases isEntry
      rw [found] at isFound
      cases isFound
      exact ⟨same.applyCommand.symm, differ⟩
    · rw [if_neg differ] at isEntry
      cases isEntry
  · rintro ⟨noApply, differ⟩
    obtain ⟨properties, parsed⟩ := parse_built hex built isSku isTransition
    refine ⟨⟨_, parsed⟩, candidateEntry sku evidence result.sha256, ?_, rfl, _, found, ?_, rfl, rfl⟩
    · rw [isEvidence.source, candidate, if_pos differ]
    · exact ⟨isEvidence.atCommand, noApply.symm, isEvidence.expectedResponse,
        isEvidence.expectsPortDrop⟩

/-- A certified switch comes back from its bundle as it was carried out, exactly if it has no
`applyCommand` and changes the mode. -/
theorem roundTrips_iff {sha256 : JsString → JsString} (hex : ∀ text, isSha256 (sha256 text) = true)
    {polls : Nat} {catalog : CertifiedCatalog} {capture : TransitionCaptureInput}
    {world : World Unit CaptureCall CaptureCall.Answer CertifyError}
    {certified : CertifiedTransition} {evidence : TransitionEvidence}
    (isCertified : certifiedTransition catalog capture = .ok certified)
    (captured : ((captureTransitionEvidence polls catalog capture).drive world () []).outcome =
      .ok evidence)
    {slot : JsString} {capturedAtMs : Double} {base : BaseCaptureParts} {sku : SkuDiscriminator}
    (isSku : base.sku = some sku) {result : CertificationResult}
    (built : buildCertificationBundle sha256 ⟨slot, false, capturedAtMs, base, some evidence⟩ =
      .ok result) :
    RoundTrips sku evidence certified.transition ⟨result.bundle, result.sha256⟩ ↔
      certified.transition.applyCommand = none ∧ certified.fromMode ≠ capture.targetMode := by
  have ends := (ends_capture polls catalog capture).drive world
  rw [captured, onOutcome_ok] at ends
  obtain ⟨_, again, isEvidence⟩ := ends
  rw [isCertified] at again
  cases again
  exact roundTrips_evidence hex built rfl isSku rfl isEvidence

/-! ### A bench -/

def benchTransition (applyCommand : Option JsString) : PermittedTransition where
  source := .qmi
  target := .mbim
  atCommand := js "AT+QCFG=\"usbnet\",2"
  applyCommand := applyCommand
  expectedResponse := js "OK"
  expectsPortDrop := true
  expectedDescriptors := ⟨0, [⟨2, 14, 0⟩]⟩
  evidenceBundleSha256 := none

def benchSku : SkuDiscriminator := ⟨js "2c7c:0125", js "SKU", js "FW01"⟩

def benchCatalog (applyCommand : Option JsString) : CertifiedCatalog :=
  ⟨[⟨js "2c7c:0125", js "SKU", js "FW01", .qmi, [benchTransition applyCommand]⟩]⟩

/-- The device, in the mode that its interfaces show. -/
def benchSnapshot (interfaces : List Backend.UsbInterface) : Snapshot where
  bDeviceClass := 0
  interfaces := interfaces
  physicalUid := some (js "usb-1-2")
  ifname := some (js "wwan0")
  vendorId := js "2c7c"
  productId := js "0125"
  model := some (js "SKU")
  udevProperties := []

def benchInput : TransitionCaptureInput :=
  ⟨.mbim, benchSnapshot [⟨255, 255, 255, some (js "qmi_wwan")⟩], some (js "FW01")⟩

/-- The port drops, and the device is back. -/
def benchWorld : World Unit CaptureCall CaptureCall.Answer CertifyError := fun history call =>
  match call with
  | .enumerate => .ok (match history with
      | ⟨.now, _, _, _⟩ :: ⟨.send _, _, _, _⟩ :: _ => []
      | _ => [benchSnapshot [⟨2, 14, 0, some (js "cdc_mbim")⟩]])
  | .send _ => .ok ()
  | .now => .ok (.finite 0)
  | .expired => .ok false
  | .sleep => .ok ()

def benchEvidence : TransitionEvidence where
  source := .qmi
  target := .mbim
  atCommand := js "AT+QCFG=\"usbnet\",2"
  expectedResponse := js "OK"
  expectsPortDrop := true
  beforeDescriptors := ⟨0, [⟨255, 255, 255⟩]⟩
  afterDescriptors := ⟨0, [⟨2, 14, 0⟩]⟩
  timeline := [(.commandSent, .finite 0), (.portDrop, .finite 0), (.reEnumeration, .finite 0)]

theorem captured_bench (applyCommand : Option JsString) :
    ((captureTransitionEvidence 1 (benchCatalog applyCommand) benchInput).drive benchWorld ()
      []).outcome = .ok benchEvidence := by
  rfl

theorem certified_bench (applyCommand : Option JsString) :
    certifiedTransition (benchCatalog applyCommand) benchInput =
      .ok ⟨js "usb-1-2", .qmi, benchTransition applyCommand⟩ := by
  rfl

def benchBase : BaseCaptureParts where
  sku := some benchSku
  lsusb := js "Device Descriptor:"
  usbDevices := js "T:"
  udevProperties := []
  mmcliKeyfile := parseKeyfile (js "modem.generic.model : SKU")
  managedObjects := objectifyManagedObjects []
  signalWindow := []

def benchBundle : BundleInput := ⟨js "1", false, .finite 0, benchBase, some benchEvidence⟩

theorem accepted_bench :
    certificationBundleSchema.accepts (redact (assembled benchBundle)) = true := by
  decide +kernel

/-- The SHA-256 of the bench's bundle. -/
def benchSha256 : JsString :=
  js "5263e90bd2547dbd2f049dcebf3ea82332006ad4ad43cd1603d0e3691b5a2a87"

theorem built_bench : buildCertificationBundle (fun _ => benchSha256) benchBundle =
    .ok ⟨redact (assembled benchBundle), benchSha256⟩ := by
  rw [buildCertificationBundle, if_pos accepted_bench]

/-- A device whose command takes effect at once comes back from its bundle. -/
theorem roundTrips_bench : RoundTrips benchSku benchEvidence (benchTransition none)
    ⟨redact (assembled benchBundle), benchSha256⟩ := by
  have hex : ∀ _ : JsString, isSha256 benchSha256 = true := fun _ => by decide
  exact (roundTrips_iff hex (certified_bench none) (captured_bench none) rfl built_bench).mpr
    ⟨rfl, by decide⟩

/-- A device that has to be told to apply its configuration comes back without that command. -/
theorem roundTrip_dropsApply : ¬ RoundTrips benchSku benchEvidence
    (benchTransition (some (js "AT+CFUN=1,1"))) ⟨redact (assembled benchBundle), benchSha256⟩ ∧
    ((captureTransitionEvidence 1 (benchCatalog (some (js "AT+CFUN=1,1"))) benchInput).drive
      benchWorld () []).outcome = .ok benchEvidence ∧
    buildCertificationBundle (fun _ => benchSha256) benchBundle =
      .ok ⟨redact (assembled benchBundle), benchSha256⟩ := by
  refine ⟨fun tripped => ?_, captured_bench _, built_bench⟩
  have hex : ∀ _ : JsString, isSha256 benchSha256 = true := fun _ => by decide
  have ends := (ends_capture 1 (benchCatalog (some (js "AT+CFUN=1,1"))) benchInput).drive benchWorld
  rw [captured_bench, onOutcome_ok] at ends
  obtain ⟨_, isCertified, isEvidence⟩ := ends
  rw [certified_bench] at isCertified
  cases isCertified
  have noApply := ((roundTrips_evidence hex built_bench rfl rfl rfl isEvidence).mp tripped).1
  cases noApply

end ModemStack.Certify
