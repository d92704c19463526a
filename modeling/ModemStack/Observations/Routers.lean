import ModemStack.Observations.ModemManager
import ModemStack.Observations.RouterParsers

/-!
The answers of router APIs as normalized observations.

Values come from the parsers, the raw record from the same texts by another way. A value names the
field that it is from.
-/

namespace ModemStack.Observations

open ModemStack.Data ModemStack.Domain ModemStack.HuaweiHilink ModemStack.Text
open ModemManager (Metrics)

/-! ### What the router APIs share -/

def metricUnknownReasonFromRouter : RouterSignalUnknownReason → MetricUnknownReason
  | .unsupported => .unsupported
  | .notReported => .notReported
  | .malformed => .malformed
  | .authExpired => .authExpired
  | .unreachable => .unreachable

def metricFromRouterSignal (metric : RouterSignalMetric) (provenance : MetricProvenance) :
    NormalizedMetric Double :=
  match metric with
  | .known value => .known value provenance
  | .unknown reason => .unknown (metricUnknownReasonFromRouter reason) provenance

abbrev RouterProvenance : Type :=
  List JsString → Option ObservationAuthority → Reading MetricProvenance

/-- A text that a parser decoded, and the raw field that it is claimed from. -/
structure NamedText where
  text : JsString
  field : JsString

section Shared

variable (provenance : RouterProvenance)

/-- A metric that is never read. -/
def unclaimed {α : Type} (reason : MetricUnknownReason) : Reading (NormalizedMetric α) := do
  let source ← provenance [] none
  pure (.unknown reason source)

def unsupportedRadioMetric : Reading (NormalizedMetric JsString) :=
  unclaimed provenance .unsupported

def unsupportedQualityRecent : Reading (NormalizedMetric Bool) := unclaimed provenance .unsupported

/-- The vendor's presence code is named and not decoded. -/
def routerSim (vendorPresenceField : Option JsString) : Reading NormalizedSim := do
  let presence ← unclaimed provenance .notReported
  let lockRequired ← unclaimed provenance .unsupported
  let kind ← unclaimed provenance .unsupported
  let esimStatus ← unclaimed provenance .unsupported
  pure
    { presence
      presenceEvidence := match vendorPresenceField with
        | none => .noEvidence []
        | some field => .vendorCodeUnclaimed field
      lockRequired, kind, esimStatus }

def claimedText (named : Option NamedText) : Reading (NormalizedMetric JsString) :=
  match named with
  | none => unclaimed provenance .notReported
  | some named => do
      let source ← provenance [named.field] none
      pure (.known named.text source)

def routerCell (cell : Option NamedText) : Reading NormalizedCell := do
  let cellId ← claimedText provenance cell
  let tac ← unclaimed provenance .notReported
  pure { cellId, tac }

/-- The name of the operator, and its code. -/
def routerOperator (operator : Option NamedText) :
    Reading (NormalizedMetric JsString × NormalizedMetric JsString) := do
  let operatorName ← claimedText provenance operator
  let operatorCode ← unclaimed provenance .notReported
  pure (operatorName, operatorCode)

def productIdentity (name : JsString) : ModemHardwareIdentity := ⟨some name, none, none, none⟩

def routerHardware (product : Option NamedText) : Reading NormalizedHardware :=
  match product with
  | none => do
      let source ← provenance [] none
      pure ⟨.unknown .notReported source, .unknown .notReported source⟩
  | some product => do
      let source ← provenance [product.field] none
      if isUninformativeIdentity (some product.text) then
        pure ⟨.unknown .notReported source, .unknown .notReported source⟩
      else
        pure ⟨.known (modemHardwareLabel (productIdentity product.text)) source,
          .known (modemHardwareName (productIdentity product.text)) source⟩

/-- The metrics of the radio that no router API reports. -/
def routerRadio (modeLabel : Reading (NormalizedMetric JsString)) (operator : Option NamedText) :
    Reading NormalizedRadio := do
  let modemState ← unsupportedRadioMetric provenance
  let registration ← unsupportedRadioMetric provenance
  let accessTechnologies ← unclaimed provenance .unsupported
  let modeLabel ← modeLabel
  let (operatorName, operatorCode) ← routerOperator provenance operator
  pure { modemState, registration, accessTechnologies, modeLabel, operatorName, operatorCode }

end Shared

/-- The raw fields that each signal metric is claimed from. Bars are derived. -/
structure SignalFields where
  bars : List JsString
  maxBars : List JsString
  dbm : List JsString
  rsrp : List JsString
  rsrq : List JsString
  snr : List JsString
  sinr : List JsString
  barsAuthority : Option ObservationAuthority

def routerSignal (provenance : RouterProvenance) (model : RouterSignalModel)
    (fields : SignalFields) : Reading NormalizedSignal := do
  let quality ← unclaimed provenance .unsupported
  let qualityRecent ← unsupportedQualityRecent provenance
  let bars ← provenance fields.bars fields.barsAuthority
  let maxBars ← provenance fields.maxBars fields.barsAuthority
  let dbm ← provenance fields.dbm none
  let rsrp ← provenance fields.rsrp none
  let rsrq ← provenance fields.rsrq none
  let snr ← provenance fields.snr none
  let sinr ← provenance fields.sinr none
  pure
    { quality, qualityRecent
      bars := metricFromRouterSignal model.bars bars
      maxBars := metricFromRouterSignal model.maxBars maxBars
      dbm := metricFromRouterSignal model.dbm dbm
      rsrp := metricFromRouterSignal model.rsrp rsrp
      rsrq := metricFromRouterSignal model.rsrq rsrq
      snr := metricFromRouterSignal model.snr snr
      sinr := metricFromRouterSignal model.sinr sinr }

def routerObservation (source : ObservationSourceKind) (raw : RawFieldRecord)
    (metrics : Reading Metrics) (notes : List ObservationDiagnosticNote) :
    NormalizedModemObservation where
  source
  hardware := metrics.value.hardware
  radio := metrics.value.radio
  signal := metrics.value.signal
  sim := metrics.value.sim
  cell := metrics.value.cell
  diagnostics := createObservationDiagnostics source raw metrics.consumed notes

/-! ### ZTE -/

namespace Zte

def BODY : JsString := js "goform"

def key (field : String) : JsString := rawKey BODY (js field)

def simCardState : JsString := key "simcard_state"

def normalizeModeLabel (networkType : Option JsString) (parsed : Bool)
    (provenance : RouterProvenance) : Reading (NormalizedMetric JsString) := do
  let source ← provenance [key "network_type"] none
  match networkType with
  | some networkType => pure (.known networkType source)
  | none => pure (.unknown (if parsed then .notReported else .malformed) source)

def signalFields : SignalFields where
  bars := [key "signalbar"]
  maxBars := []
  dbm := [key "rssi"]
  rsrp := [key "lte_rsrp"]
  rsrq := [key "lte_rsrq"]
  snr := [key "lte_snr"]
  sinr := []
  barsAuthority := some .derived

variable (jsonParse : JsString → Option (Json Double)) (context : NormalizationContext)

def raw (body : JsString) : RawFieldRecord := prefixRawRecord BODY (parseJsonRecord jsonParse body)

def notes (body : JsString) : List ObservationDiagnosticNote :=
  match parseJsonRecord jsonParse body with
  | none => [⟨if trim body = [] then .emptyBody else .unparseableBody, BODY⟩]
  | some _ => []

def normalizeMetrics (body : JsString) : Reading Metrics := do
  let provenance := Observations.provenance .zteGoform context
  let signalModel := parseZteSignal jsonParse body
  let detail := fun name => (parseZteDetails jsonParse body).bind (·.get (js name))
  let hardware ← routerHardware provenance none
  let radio ← routerRadio provenance
    (normalizeModeLabel (detail "network_type") (parseJsonRecord jsonParse body).isSome provenance)
    ((detail "provider").map fun name => ⟨name, key "network_provider_fullname"⟩)
  let signal ← routerSignal provenance signalModel signalFields
  let sim ← routerSim provenance
    (if hasRawField (raw jsonParse body) simCardState then some simCardState else none)
  let cell ← routerCell provenance ((detail "cell_id").map fun id => ⟨id, key "cell_id"⟩)
  pure { hardware, radio, signal, sim, cell }

def normalizeZteObservation (body : JsString) : ObservationEnvelope NormalizedModemObservation :=
  freshObservation ObservationSourceKind.zteGoform.text context
    (routerObservation .zteGoform (raw jsonParse body) (normalizeMetrics jsonParse context body)
      (notes jsonParse body))

end Zte

/-! ### UFI -/

namespace Ufi

def SYSINFO : JsString := js "sysinfo"

def OVERVIEW : JsString := js "overview"

def STATUS : JsString := js "status"

def PRODUCE_INFO : JsString := js "produce-info"

def SESSION_REFUSAL : JsString := js "SessionOut"

def simState : JsString := rawKey SYSINFO (js "simstate")

structure UfiObservationInput where
  sysinfo : JsString
  overview : JsString
  status : JsString
  produceInfo : Option JsString

def UfiObservationInput.bodies (input : UfiObservationInput) : List (JsString × JsString) :=
  [(SYSINFO, input.sysinfo), (OVERVIEW, input.overview), (STATUS, input.status),
    (PRODUCE_INFO, input.produceInfo.getD [])]

def signalFields : SignalFields where
  bars := []
  maxBars := []
  dbm := [rawKey SYSINFO (js "SIGNAL"), rawKey OVERVIEW (js "SIGNAL"),
    rawKey STATUS (js "signalStrength")]
  rsrp := []
  rsrq := []
  snr := []
  sinr := []
  barsAuthority := none

variable (jsonParse : JsString → Option (Json Double)) (context : NormalizationContext)
  (input : UfiObservationInput)

def records : Bodies :=
  input.bodies.map fun body =>
    (body.1, some (flattenUfiEnvelope (parseJsonObject jsonParse body.2)))

def raw : RawFieldRecord := mergeBodies (records jsonParse input)

/-- What is noted about a body. -/
def bodyNotes (body : JsString × JsString) : List ObservationDiagnosticNote :=
  match parseJsonObject jsonParse body.2 with
  | none => if trim body.2 = [] then [] else [⟨.unparseableBody, body.1⟩]
  | some members =>
    match OrderedMap.getItem (js "reply") members with
    | some (.string reply) =>
      if reply = SESSION_REFUSAL then [⟨.authExpired, rawKey body.1 (js "reply")⟩] else []
    | _ => []

def notes : List ObservationDiagnosticNote := input.bodies.flatMap (bodyNotes jsonParse)

def normalizeMetrics : Reading Metrics := do
  let provenance := Observations.provenance .ufiHimiapi context
  let signalModel := parseUfiSignal jsonParse input.sysinfo input.overview input.status
  let detail := fun name =>
    (parseUfiDetails jsonParse (some input.overview) (some input.sysinfo) input.produceInfo).bind
      (·.get (js name))
  let hardware ← routerHardware provenance
    ((detail "product").map fun name => ⟨name, rawKey PRODUCE_INFO (js "productname")⟩)
  let radio ← routerRadio provenance (unclaimed provenance .notReported) none
  let signal ← routerSignal provenance signalModel signalFields
  let sim ← routerSim provenance
    (if hasRawField (raw jsonParse input) simState then some simState else none)
  let cell ← routerCell provenance
    ((detail "cell_id").map fun id => ⟨id, rawKey SYSINFO (js "cellid")⟩)
  pure { hardware, radio, signal, sim, cell }

def normalizeUfiObservation : ObservationEnvelope NormalizedModemObservation :=
  freshObservation ObservationSourceKind.ufiHimiapi.text context
    (routerObservation .ufiHimiapi (raw jsonParse input) (normalizeMetrics jsonParse context input)
      (notes jsonParse input))

end Ufi

/-! ### HiLink -/

namespace Hilink

def STATUS : JsString := js "monitoring-status"

def SIGNAL : JsString := js "device-signal"

def NET_MODE_LIST : JsString := js "net-mode-list"

def NET_MODE : JsString := js "net-mode"

def simStatus : JsString := rawKey STATUS (js "SimStatus")

structure HilinkObservationInput where
  status : JsString
  signal : JsString
  netModeList : Option JsString
  netMode : Option JsString

def HilinkObservationInput.bodies (input : HilinkObservationInput) : List (JsString × JsString) :=
  [(STATUS, input.status), (SIGNAL, input.signal), (NET_MODE_LIST, input.netModeList.getD []),
    (NET_MODE, input.netMode.getD [])]

def signalFields : SignalFields where
  bars := [rawKey STATUS (js "SignalIcon")]
  maxBars := [rawKey STATUS (js "maxsignal")]
  dbm := [rawKey SIGNAL (js "rssi")]
  rsrp := [rawKey SIGNAL (js "rsrp")]
  rsrq := [rawKey SIGNAL (js "rsrq")]
  snr := []
  sinr := [rawKey SIGNAL (js "sinr")]
  barsAuthority := some .derived

def unavailableReason : UnavailableReason → MetricUnknownReason
  | .notReported => .notReported
  | .malformed => .malformed
  | .authExpired => .authExpired
  | .unreachable => .unreachable
  | .refused _ => .refused

def normalizeModeLabel (capability : HilinkNetModeCapability) (provenance : RouterProvenance) :
    Reading (NormalizedMetric JsString) := do
  let source ← provenance [rawKey NET_MODE (js "NetworkMode")] none
  match capability with
  | .unavailable reason => pure (.unknown (unavailableReason reason) source)
  | .reported _ none => pure (.unknown .notReported source)
  | .reported _ (some current) => pure (.known current source)

variable (context : NormalizationContext) (input : HilinkObservationInput)

def raw : RawFieldRecord :=
  mergeRawRecords (input.bodies.map fun body => flattenXmlBody body.2 body.1)

def holdsRefusal (text : JsString) : Bool :=
  text.tails.any fun rest => (js "<code>" ++ authRefusalCode ++ js "</code>").isPrefixOf rest

def notes : List ObservationDiagnosticNote :=
  [(STATUS, input.status), (SIGNAL, input.signal)].filterMap fun body =>
    if holdsRefusal body.2 then some ⟨.authExpired, rawKey body.1 (js "code")⟩ else none

def normalizeMetrics : Reading Metrics := do
  let provenance := Observations.provenance .huaweiHilink context
  let signalModel := parseHilinkSignal input.status input.signal
  let capabilities := parseHilinkCapabilities (input.netModeList.getD []) input.netMode
  let hardware ← routerHardware provenance none
  let radio ← routerRadio provenance (normalizeModeLabel capabilities provenance) none
  let signal ← routerSignal provenance signalModel signalFields
  let sim ← routerSim provenance
    (if hasRawField (raw input) simStatus then some simStatus else none)
  let cell ← routerCell provenance none
  pure { hardware, radio, signal, sim, cell }

def normalizeHilinkObservation : ObservationEnvelope NormalizedModemObservation :=
  freshObservation ObservationSourceKind.huaweiHilink.text context
    (routerObservation .huaweiHilink (raw input) (normalizeMetrics context input) (notes input))

end Hilink

/-! ### Every metric of an observation -/

/-- A value of a metric, of whatever type. -/
inductive MetricValue where
  | text (value : JsString)
  | number (value : Double)
  | bool (value : Bool)
  | technologies (value : List RadioAccessTechnology)
  | presence (value : SimPresenceValue)

def mapMetric {α β : Type} (metric : NormalizedMetric α) (transform : α → β) :
    NormalizedMetric β :=
  match metric with
  | .known value provenance => .known (transform value) provenance
  | .unknown reason provenance => .unknown reason provenance

inductive ObservedMetric where
  | label
  | displayName
  | modemState
  | registration
  | accessTechnologies
  | modeLabel
  | operatorName
  | operatorCode
  | quality
  | qualityRecent
  | bars
  | maxBars
  | dbm
  | rsrp
  | rsrq
  | snr
  | sinr
  | presence
  | lockRequired
  | kind
  | esimStatus
  | cellId
  | tac

def NormalizedModemObservation.metric (observation : NormalizedModemObservation) :
    ObservedMetric → NormalizedMetric MetricValue
  | .label => mapMetric observation.hardware.label .text
  | .displayName => mapMetric observation.hardware.displayName .text
  | .modemState => mapMetric observation.radio.modemState .text
  | .registration => mapMetric observation.radio.registration .text
  | .accessTechnologies => mapMetric observation.radio.accessTechnologies .technologies
  | .modeLabel => mapMetric observation.radio.modeLabel .text
  | .operatorName => mapMetric observation.radio.operatorName .text
  | .operatorCode => mapMetric observation.radio.operatorCode .text
  | .quality => mapMetric observation.signal.quality .number
  | .qualityRecent => mapMetric observation.signal.qualityRecent .bool
  | .bars => mapMetric observation.signal.bars .number
  | .maxBars => mapMetric observation.signal.maxBars .number
  | .dbm => mapMetric observation.signal.dbm .number
  | .rsrp => mapMetric observation.signal.rsrp .number
  | .rsrq => mapMetric observation.signal.rsrq .number
  | .snr => mapMetric observation.signal.snr .number
  | .sinr => mapMetric observation.signal.sinr .number
  | .presence => mapMetric observation.sim.presence .presence
  | .lockRequired => mapMetric observation.sim.lockRequired .text
  | .kind => mapMetric observation.sim.kind .text
  | .esimStatus => mapMetric observation.sim.esimStatus .text
  | .cellId => mapMetric observation.cell.cellId .text
  | .tac => mapMetric observation.cell.tac .text

/-- The number that the parsers read in a raw value. -/
def numberOf (held : RawFieldValue) : Option Double :=
  match numericMetric (flatField held) with
  | .known value => some value
  | .unknown _ => none

def textOf (held : RawFieldValue) : Option JsString := stated (flatField held)

/-- What each metric makes of a raw value, `read` being how a source reads its texts. -/
def decodeMetric (read : RawFieldValue → Option JsString) :
    ObservedMetric → RawFieldValue → Option MetricValue
  | .label, held => (read held).map fun name => .text (modemHardwareLabel (productIdentity name))
  | .displayName, held =>
    (read held).map fun name => .text (modemHardwareName (productIdentity name))
  | .modeLabel, held | .operatorName, held | .cellId, held => (read held).map .text
  | .bars, held | .maxBars, held | .dbm, held | .rsrp, held | .rsrq, held | .snr, held
  | .sinr, held => (numberOf held).map .number
  | _, _ => none

/-- A field that a metric names is in the record, and what it holds is such. -/
def Names (raw : RawFieldRecord) (source : MetricProvenance) (such : RawFieldValue → Prop) : Prop :=
  ∃ field ∈ source.rawFields, ∃ held, raw.get field = some held ∧ such held

section Metrics

variable {raw : RawFieldRecord} {source : MetricProvenance}

/-- The parser's value of a field is the one that the record holds, where it has one. -/
def Holds (raw : RawFieldRecord) (field : JsString) (value : Option FlatValue) : Prop :=
  ∀ flat, value = some flat → ∃ held, raw.get field = some held ∧ flatField held = some flat

variable {value : MetricValue} {product : Option NamedText}

theorem known_signal {metric : RouterSignalMetric} {provenance : MetricProvenance}
    (known : mapMetric (metricFromRouterSignal metric provenance) .number = .known value source) :
    source = provenance ∧ ∃ number, metric = .known number ∧ value = .number number := by
  cases metric with
  | known number =>
    cases known
    exact ⟨rfl, number, rfl, rfl⟩
  | unknown => cases known

theorem malformed_signal {metric : RouterSignalMetric} {provenance : MetricProvenance}
    (malformed : mapMetric (metricFromRouterSignal metric provenance) MetricValue.number =
      .unknown .malformed source) : source = provenance ∧ metric = .unknown .malformed := by
  cases metric with
  | known => cases malformed
  | unknown reason =>
    cases reason with
    | malformed =>
      cases malformed
      exact ⟨rfl, rfl⟩
    | unsupported | notReported | authExpired | unreachable => cases malformed

/-- A number that is known is the one in a field that the metric names. -/
theorem names_number {field : JsString} {value : Option FlatValue} {number : Double}
    (named : field ∈ source.rawFields) (holds : Holds raw field value)
    (known : numericMetric value = .known number) :
    Names raw source fun held => numberOf held = some number := by
  cases value with
  | none => cases known
  | some flat =>
    obtain ⟨held, isHeld, isFlat⟩ := holds flat rfl
    refine ⟨field, named, held, isHeld, ?_⟩
    show numberOf held = some number
    rw [numberOf, isFlat, known]

theorem names_unread {field : JsString} {value : Option FlatValue}
    (named : field ∈ source.rawFields) (holds : Holds raw field value)
    (malformed : numericMetric value = .unknown .malformed) :
    Names raw source fun held => numberOf held = none := by
  cases value with
  | none => cases malformed
  | some flat =>
    obtain ⟨held, isHeld, isFlat⟩ := holds flat rfl
    refine ⟨field, named, held, isHeld, ?_⟩
    show numberOf held = none
    rw [numberOf, isFlat, malformed]

theorem names_text {field name : JsString} {value : Option FlatValue}
    (named : field ∈ source.rawFields) (holds : Holds raw field value)
    (known : stated value = some name) : Names raw source fun held => textOf held = some name := by
  cases value with
  | none => cases known
  | some flat =>
    obtain ⟨held, isHeld, isFlat⟩ := holds flat rfl
    refine ⟨field, named, held, isHeld, ?_⟩
    show textOf held = some name
    rw [textOf, isFlat, known]

variable {provenance : RouterProvenance}

theorem known_claimed {named : Option NamedText}
    (known : mapMetric (claimedText provenance named).value .text = .known value source) :
    ∃ claimed, named = some claimed ∧ source = (provenance [claimed.field] none).value ∧
      value = .text claimed.text := by
  cases named with
  | none => cases known
  | some claimed =>
    cases known
    exact ⟨claimed, rfl, rfl, rfl⟩

theorem claimed_not_malformed {named : Option NamedText} :
    mapMetric (claimedText provenance named).value MetricValue.text ≠
      .unknown .malformed source := by
  cases named <;> nofun

theorem known_label (known : mapMetric (routerHardware provenance product).value.label .text =
      .known value source) :
    ∃ named, product = some named ∧ source = (provenance [named.field] none).value ∧
      value = .text (modemHardwareLabel (productIdentity named.text)) := by
  cases product with
  | none => cases known
  | some named =>
    unfold routerHardware at known
    dsimp only at known
    split at known
    · cases known
    · cases known
      exact ⟨named, rfl, rfl, rfl⟩

theorem known_displayName
    (known : mapMetric (routerHardware provenance product).value.displayName .text =
      .known value source) :
    ∃ named, product = some named ∧ source = (provenance [named.field] none).value ∧
      value = .text (modemHardwareName (productIdentity named.text)) := by
  cases product with
  | none => cases known
  | some named =>
    unfold routerHardware at known
    dsimp only at known
    split at known
    · cases known
    · cases known
      exact ⟨named, rfl, rfl, rfl⟩

theorem hardware_not_malformed :
    (routerHardware provenance product).value.label.reason ≠ some .malformed ∧
      (routerHardware provenance product).value.displayName.reason ≠ some .malformed := by
  cases product with
  | none => exact ⟨nofun, nofun⟩
  | some =>
    unfold routerHardware
    dsimp only
    split <;> exact ⟨nofun, nofun⟩

theorem reason_mapMetric {α β : Type} (metric : NormalizedMetric α) (transform : α → β) :
    (mapMetric metric transform).reason = metric.reason := by
  cases metric <;> rfl

theorem Names.imp {such such' : RawFieldValue → Prop} (names : Names raw source such)
    (implied : ∀ held, such held → such' held) : Names raw source such' := by
  obtain ⟨field, named, held, isHeld, isSuch⟩ := names
  exact ⟨field, named, held, isHeld, implied held isSuch⟩

end Metrics

/-! ### What a ZTE observation names -/

namespace Zte

variable (jsonParse : JsString → Option (Json Double)) (context : NormalizationContext)
  (body : JsString)

/-- Every member is in the record under its own key, and what is known, the five bars of the scale
apart, is decoded from a member that it names. What is malformed was noted, unless it is in a
member of another type or the text of the member has no number at its head. -/
structure Traced (observation : NormalizedModemObservation) : Prop where
  kept : ∀ members, parseJsonObject jsonParse body = some members →
    (members.map Prod.fst).Nodup ∧ ∀ entry ∈ members, entry.1 ≠ JsValue.protoKey →
      observation.diagnostics.raw.get (rawKey BODY entry.1) = some (normalizeRawValue entry.2)
  backed : ∀ metric ≠ .maxBars,
    (metric = .operatorName → ((parseFlatRecord jsonParse body).bind fun record =>
      stated (OrderedMap.getItem (js "network_provider_fullname") record)).isSome = true) →
    ∀ value source, observation.metric metric = .known value source →
      Names observation.diagnostics.raw source fun held =>
        decodeMetric textOf metric held = some value
  scale : ∀ value source, observation.metric .maxBars = .known value source →
    value = .number (.finite 5) ∧ source.authority = .derived ∧
      ∃ bars barsSource, observation.metric .bars = .known bars barsSource
  noted : parseJsonObject jsonParse body = none →
    ∃ note ∈ observation.diagnostics.notes, note.field = BODY
  malformed : ∀ metric source, observation.metric metric = .unknown .malformed source →
    (∃ note ∈ observation.diagnostics.notes, note.field = BODY) ∨
      (parseJsonObject jsonParse body).isSome = true ∧ parseFlatRecord jsonParse body = none ∨
      Names observation.diagnostics.raw source fun held => decodeMetric textOf metric held = none

theorem plain_BODY : fullStop ∉ BODY := by decide

variable {jsonParse body}

theorem get_raw {members : List (JsString × Json Double)}
    (parsed : parseJsonObject jsonParse body = some members) {entry : JsString × Json Double}
    (mem : entry ∈ members) (named : entry.1 ≠ JsValue.protoKey) :
    (raw jsonParse body).get (rawKey BODY entry.1) = some (normalizeRawValue entry.2) := by
  rw [raw, get_prefixRawRecord plain_BODY, parseJsonRecord, parsed]
  apply get_assigned (mem_rawFields mem) named
  apply single_of_nodup
  rw [rawFields_keys]
  exact members_nodup parsed

theorem holds {record : FlatRecord} (parsed : parseFlatRecord jsonParse body = some record)
    (field : String) :
    Holds (raw jsonParse body) (key field) (OrderedMap.getItem (js field) record) := by
  intro flat held
  obtain ⟨members, isObject, isRecord⟩ := object_of_flatRecord parsed
  obtain ⟨value, mem, named, isFlat⟩ := member_of_flatRecord isRecord held
  exact ⟨_, get_raw isObject mem named, flatField_normalizeRawValue isFlat⟩

/-- How the parser reads a metric of the signal. -/
def signalMetric (record : Option FlatRecord) (field : String) : RouterSignalMetric :=
  match record with
  | none => .unknown .malformed
  | some record => numericMetric (OrderedMap.getItem (js field) record)

variable {source : MetricProvenance}

theorem signal_known {field : String} {number : Double} (named : key field ∈ source.rawFields)
    (known : signalMetric (parseFlatRecord jsonParse body) field = .known number) :
    Names (raw jsonParse body) source fun held =>
      (numberOf held).map .number = some (MetricValue.number number) := by
  unfold signalMetric at known
  split at known
  · cases known
  · next record parsed =>
    have names := names_number named (holds parsed field) known
    apply names.imp
    intro held isNumber
    rw [isNumber]
    rfl

theorem signal_malformed {field : String} (named : key field ∈ source.rawFields)
    (malformed : signalMetric (parseFlatRecord jsonParse body) field = .unknown .malformed) :
    parseFlatRecord jsonParse body = none ∨
      Names (raw jsonParse body) source fun held =>
        (numberOf held).map MetricValue.number = none := by
  unfold signalMetric at malformed
  split at malformed
  · next unparsed => exact .inl unparsed
  · next record parsed =>
    have names := names_unread named (holds parsed field) malformed
    refine .inr (names.imp ?_)
    intro held isNone
    rw [isNone]
    rfl

/-- A detail is what the parser makes of the field that its entry in the table is about. -/
theorem detail_held {name : String} {value : FlatRecord → Option JsString} {text : JsString}
    (once : ((zteDetails []).map Prod.fst).count (js name) ≤ 1)
    (entry : ∀ record, (js name, value record) ∈ zteDetails record)
    (held : (parseZteDetails jsonParse body).bind (·.get (js name)) = some text) :
    ∃ record, parseFlatRecord jsonParse body = some record ∧ value record = some text := by
  obtain ⟨details, isDetails, isHeld⟩ := Option.bind_eq_some_iff.mp held
  obtain ⟨record, parsed, isCompact⟩ := Option.bind_eq_some_iff.mp isDetails
  have found : (compact (zteDetails record)).bind (·.get (js name)) = some text := by
    rw [isCompact]
    exact isHeld
  have keys : (zteDetails []).map Prod.fst = (zteDetails record).map Prod.fst := rfl
  rw [keys] at once
  exact ⟨record, parsed, entry_of_compact once (entry record) found⟩

theorem text_names {field name : String} {text : JsString} (value : FlatRecord → Option JsString)
    (once : ((zteDetails []).map Prod.fst).count (js name) ≤ 1)
    (entry : ∀ record, (js name, value record) ∈ zteDetails record)
    (reads : ∀ record, parseFlatRecord jsonParse body = some record →
      value record = stated (OrderedMap.getItem (js field) record))
    (held : (parseZteDetails jsonParse body).bind (·.get (js name)) = some text)
    (named : key field ∈ source.rawFields) :
    Names (raw jsonParse body) source fun held =>
      (textOf held).map .text = some (MetricValue.text text) := by
  obtain ⟨record, parsed, isText⟩ := detail_held once entry held
  rw [reads record parsed] at isText
  have names := names_text named (holds parsed field) isText
  apply names.imp
  intro held isHeld
  rw [isHeld]
  rfl

variable {value : MetricValue}

theorem known_modeLabel {provenance : RouterProvenance} {networkType : Option JsString}
    {parsed : Bool}
    (known : mapMetric (normalizeModeLabel networkType parsed provenance).value .text =
      .known value source) :
    ∃ text, networkType = some text ∧ source = (provenance [key "network_type"] none).value ∧
      value = .text text := by
  cases networkType with
  | none => cases known
  | some text =>
    cases known
    exact ⟨text, rfl, rfl, rfl⟩

theorem modeLabel_malformed {provenance : RouterProvenance} {networkType : Option JsString}
    {parsed : Bool}
    (malformed : mapMetric (normalizeModeLabel networkType parsed provenance).value
      MetricValue.text = .unknown .malformed source) : parsed = false := by
  cases networkType with
  | none =>
    cases parsed with
    | false => rfl
    | true => cases malformed
  | some => cases malformed

variable (jsonParse body)

theorem scale_not_malformed : (parseZteSignal jsonParse body).maxBars ≠ .unknown .malformed := by
  unfold parseZteSignal
  dsimp only
  split
  · nofun
  · nofun

/-- The observation that a ZTE body is normalized to. -/
def observed : NormalizedModemObservation :=
  routerObservation .zteGoform (raw jsonParse body) (normalizeMetrics jsonParse context body)
    (notes jsonParse body)

theorem backed (metric : ObservedMetric) (notScale : metric ≠ .maxBars)
    (fullName : metric = .operatorName → ((parseFlatRecord jsonParse body).bind fun record =>
      stated (OrderedMap.getItem (js "network_provider_fullname") record)).isSome = true)
    (known : (observed jsonParse context body).metric metric = .known value source) :
    Names (raw jsonParse body) source fun held =>
      decodeMetric textOf metric held = some value := by
  cases metric with
  | bars | dbm | rsrp | rsrq | snr =>
    obtain ⟨rfl, number, isKnown, rfl⟩ := known_signal known
    exact signal_known List.mem_cons_self isKnown
  | maxBars => exact absurd rfl notScale
  | sinr => cases known
  | label | displayName | modemState | registration | accessTechnologies | operatorCode | quality
  | qualityRecent | presence | lockRequired | kind | esimStatus | tac => cases known
  | modeLabel =>
    obtain ⟨text, held, rfl, rfl⟩ := known_modeLabel known
    refine text_names _ (by decide) (fun record => ?_) (fun _ _ => rfl) held List.mem_cons_self
    exact List.mem_of_getElem? (i := 0) rfl
  | operatorName =>
    obtain ⟨claimed, isClaimed, rfl, rfl⟩ := known_claimed known
    obtain ⟨text, held, rfl⟩ := Option.map_eq_some_iff.mp isClaimed
    let field := fun (record : FlatRecord) name => stated (OrderedMap.getItem (js name) record)
    refine text_names (fun record => ((field record "network_provider_fullname").or
      (field record "network_provider")).or (field record "provider")) (by decide)
      (fun record => ?_) (fun record parsed => ?_) held List.mem_cons_self
    · exact List.mem_of_getElem? (i := 1) rfl
    · have isStated := fullName rfl
      rw [parsed, Option.bind_some] at isStated
      obtain ⟨name, isName⟩ := Option.isSome_iff_exists.mp isStated
      dsimp only [field]
      rw [isName]
      rfl
  | cellId =>
    obtain ⟨claimed, isClaimed, rfl, rfl⟩ := known_claimed known
    obtain ⟨text, held, rfl⟩ := Option.map_eq_some_iff.mp isClaimed
    refine text_names _ (by decide) (fun record => ?_) (fun _ _ => rfl) held List.mem_cons_self
    exact List.mem_of_getElem? (i := 2) rfl

theorem malformed_cases (metric : ObservedMetric)
    (malformed : (observed jsonParse context body).metric metric = .unknown .malformed source) :
    parseJsonObject jsonParse body = none ∨
      (parseJsonObject jsonParse body).isSome = true ∧ parseFlatRecord jsonParse body = none ∨
      Names (raw jsonParse body) source fun held => decodeMetric textOf metric held = none := by
  have unread (isUnread : parseFlatRecord jsonParse body = none ∨
      Names (raw jsonParse body) source fun held =>
        (numberOf held).map MetricValue.number = none) :
      parseJsonObject jsonParse body = none ∨
        (parseJsonObject jsonParse body).isSome = true ∧ parseFlatRecord jsonParse body = none ∨
        Names (raw jsonParse body) source fun held =>
          (numberOf held).map MetricValue.number = none := by
    rcases isUnread with unparsed | names
    · cases isObject : parseJsonObject jsonParse body with
      | none => exact .inl rfl
      | some => exact .inr (.inl ⟨rfl, unparsed⟩)
    · exact .inr (.inr names)
  cases metric with
  | bars | dbm | rsrp | rsrq | snr =>
    obtain ⟨rfl, isMalformed⟩ := malformed_signal malformed
    exact unread (signal_malformed List.mem_cons_self isMalformed)
  | maxBars =>
    obtain ⟨rfl, isMalformed⟩ := malformed_signal malformed
    exact absurd isMalformed (scale_not_malformed jsonParse body)
  | sinr => cases malformed
  | modeLabel =>
    have unparsed := modeLabel_malformed malformed
    left
    rwa [parseJsonRecord, Option.isSome_map, Option.isSome_eq_false_iff,
      Option.isNone_iff_eq_none] at unparsed
  | label | displayName | modemState | registration | accessTechnologies | operatorCode | quality
  | qualityRecent | presence | lockRequired | kind | esimStatus | tac => cases malformed
  | operatorName | cellId => exact absurd malformed claimed_not_malformed

theorem observed_fresh : (normalizeZteObservation jsonParse context body).reading =
    .fresh (observed jsonParse context body) := rfl

/-- What the maximum of the bars is claimed from. -/
def scaleSource : MetricProvenance := metricProvenance .zteGoform context [] (some .derived)

theorem scale_fields : (scaleSource context).rawFields = [] := rfl

theorem scale_metric : (observed jsonParse context body).metric .maxBars =
    mapMetric (metricFromRouterSignal (parseZteSignal jsonParse body).maxBars
      (scaleSource context)) .number := rfl

theorem scale_known
    (known : (observed jsonParse context body).metric .maxBars = .known value source) :
    value = .number (.finite 5) ∧ source.authority = .derived ∧
      ∃ bars barsSource, (observed jsonParse context body).metric .bars =
        .known bars barsSource := by
  obtain ⟨rfl, number, isKnown, rfl⟩ := known_signal known
  have isScale : number = .finite 5 ∧ ∃ bars, (parseZteSignal jsonParse body).bars =
      .known bars := by
    unfold parseZteSignal at isKnown ⊢
    dsimp only at isKnown ⊢
    split at isKnown
    · next bars isBars =>
      cases isKnown
      exact ⟨rfl, bars, isBars⟩
    · cases isKnown
  obtain ⟨rfl, bars, isBars⟩ := isScale
  refine ⟨rfl, rfl, .number bars,
    metricProvenance .zteGoform context signalFields.bars (some .derived), ?_⟩
  show mapMetric (metricFromRouterSignal (parseZteSignal jsonParse body).bars _)
    MetricValue.number = _
  rw [isBars]
  rfl

theorem noted (unparsed : parseJsonObject jsonParse body = none) :
    ∃ note ∈ notes jsonParse body, note.field = BODY := by
  rw [notes, parseJsonRecord, unparsed]
  exact ⟨_, List.mem_cons_self, rfl⟩

theorem traced : Traced jsonParse body (observed jsonParse context body) := by
  refine ⟨?_, ?_, ?_, noted jsonParse body, ?_⟩
  · intro members parsed
    refine ⟨members_nodup parsed, ?_⟩
    intro entry mem named
    exact get_raw parsed mem named
  · intro metric notScale fullName value source known
    exact backed jsonParse context body metric notScale fullName known
  · intro value source known
    exact scale_known jsonParse context body known
  · intro metric source malformed
    have cases := malformed_cases jsonParse context body metric malformed
    exact cases.imp_left (noted jsonParse body)

end Zte

/-! ### What a UFI observation names -/

namespace Ufi

variable (jsonParse : JsString → Option (Json Double)) (context : NormalizationContext)
  (input : UfiObservationInput)

/-- No two fields of a body stand under a key that is named. -/
def Clear (source : MetricProvenance) : Prop :=
  ∀ body ∈ input.bodies, ∀ members, parseJsonObject jsonParse body.2 = some members →
    ∀ key, rawKey body.1 key ∈ source.rawFields → Single (envelopeFields members) key

/-- The bodies that a signal is read from. -/
def UfiObservationInput.signalBodies : List (JsString × JsString) :=
  [(SYSINFO, input.sysinfo), (OVERVIEW, input.overview), (STATUS, input.status)]

/-- Every field that shares its name with no other is in the record, and what is known is decoded
from such a field that it names. A signal is malformed where no body answers, each being blank,
noted or no envelope of an answer, or where the text has no number at its head. -/
structure Traced (observation : NormalizedModemObservation) : Prop where
  kept : ∀ body ∈ input.bodies, ∀ members, parseJsonObject jsonParse body.2 = some members →
    ∀ entry ∈ envelopeFields members, entry.1 ≠ JsValue.protoKey →
      Single (envelopeFields members) entry.1 →
        observation.diagnostics.raw.get (rawKey body.1 entry.1) = some entry.2
  backed : ∀ metric,
    (metric = .label ∨ metric = .displayName →
      (stated (param (parseUfiBody jsonParse (input.produceInfo.getD []))
        (js "productname"))).isSome = true) →
    ∀ value source, observation.metric metric = .known value source →
      Clear jsonParse input source →
        Names observation.diagnostics.raw source fun held =>
          decodeMetric textOf metric held = some value
  noted : ∀ body ∈ input.bodies, parseJsonObject jsonParse body.2 = none → trim body.2 ≠ [] →
    (⟨.unparseableBody, body.1⟩ : ObservationDiagnosticNote) ∈ observation.diagnostics.notes
  malformed : ∀ metric source, observation.metric metric = .unknown .malformed source →
    (∀ body ∈ input.signalBodies, trim body.2 = [] ∨
      (⟨.unparseableBody, body.1⟩ : ObservationDiagnosticNote) ∈ observation.diagnostics.notes ∨
      ∃ members, parseJsonObject jsonParse body.2 = some members ∧
        repliesWith (js "ok") (ufiBody (.object members)) = false) ∨
    (Clear jsonParse input source →
      Names observation.diagnostics.raw source fun held => decodeMetric textOf metric held = none)

theorem named_records : Named (records jsonParse input) where
  distinct := by
    have names : (records jsonParse input).map Prod.fst =
        [SYSINFO, OVERVIEW, STATUS, PRODUCE_INFO] := rfl
    rw [names]
    decide
  plain := by
    have names : ∀ name ∈ [SYSINFO, OVERVIEW, STATUS, PRODUCE_INFO], fullStop ∉ name := by decide
    intro body mem
    exact names body.1 (List.mem_map_of_mem (f := Prod.fst) mem)

variable {jsonParse input}

variable {body : JsString × JsString}

theorem get_raw (mem : body ∈ input.bodies) (field : JsString) :
    (raw jsonParse input).get (rawKey body.1 field) =
      (flattenUfiEnvelope (parseJsonObject jsonParse body.2)).get field :=
  get_mergeBodies (named_records jsonParse input) (List.mem_map_of_mem mem) field

theorem kept (mem : body ∈ input.bodies) {members : List (JsString × Json Double)}
    (parsed : parseJsonObject jsonParse body.2 = some members) {entry : JsString × RawFieldValue}
    (isField : entry ∈ envelopeFields members) (named : entry.1 ≠ JsValue.protoKey)
    (single : Single (envelopeFields members) entry.1) :
    (raw jsonParse input).get (rawKey body.1 entry.1) = some entry.2 := by
  rw [get_raw mem, parsed]
  exact get_assigned isField named single

variable {source : MetricProvenance}

theorem holds (clear : Clear jsonParse input source) (mem : body ∈ input.bodies) {key : JsString}
    (named : rawKey body.1 key ∈ source.rawFields) :
    Holds (raw jsonParse input) (rawKey body.1 key) (param (parseUfiBody jsonParse body.2) key) := by
  intro flat held
  cases parsed : parseUfiBody jsonParse body.2 with
  | none =>
    rw [parsed] at held
    cases held
  | some =>
    rw [parsed] at held
    obtain ⟨members, isObject, isEnvelope⟩ := object_of_ufiBody parsed
    obtain ⟨value, isField, notProto, isFlat⟩ := field_of_param isEnvelope held
    have single := clear body mem members isObject key named
    exact ⟨value, kept mem isObject isField notProto single, isFlat⟩

variable (jsonParse input) in
/-- The value of the signal, by the order of the bodies. -/
def signalValue : Option FlatValue :=
  ((param (parseUfiBody jsonParse input.sysinfo) (js "SIGNAL")).or
    (param (parseUfiBody jsonParse input.overview) (js "SIGNAL"))).or
      (param (parseUfiBody jsonParse input.status) (js "signalStrength"))

/-- The value of the signal is in one of the fields that it names. -/
theorem signal_holds (clear : Clear jsonParse input source)
    (named : source.rawFields = signalFields.dbm) : ∃ field ∈ source.rawFields,
      Holds (raw jsonParse input) field (signalValue jsonParse input) := by
  have mem (index : Fin 3) : [rawKey SYSINFO (js "SIGNAL"), rawKey OVERVIEW (js "SIGNAL"),
      rawKey STATUS (js "signalStrength")][index] ∈ source.rawFields := by
    rw [named]
    exact List.getElem_mem _
  have inSysinfo := holds clear (List.mem_cons_self : (SYSINFO, input.sysinfo) ∈ input.bodies)
    (mem 0)
  have inOverview := holds clear
    (List.mem_of_getElem? (i := 1) rfl : (OVERVIEW, input.overview) ∈ input.bodies) (mem 1)
  have inStatus := holds clear
    (List.mem_of_getElem? (i := 2) rfl : (STATUS, input.status) ∈ input.bodies) (mem 2)
  cases atSysinfo : param (parseUfiBody jsonParse input.sysinfo) (js "SIGNAL") with
  | some =>
    refine ⟨_, mem 0, ?_⟩
    rw [signalValue, atSysinfo]
    rw [atSysinfo] at inSysinfo
    exact inSysinfo
  | none =>
    cases atOverview : param (parseUfiBody jsonParse input.overview) (js "SIGNAL") with
    | some =>
      refine ⟨_, mem 1, ?_⟩
      rw [signalValue, atSysinfo, atOverview]
      rw [atOverview] at inOverview
      exact inOverview
    | none =>
      refine ⟨_, mem 2, ?_⟩
      rw [signalValue, atSysinfo, atOverview]
      exact inStatus

theorem detail_held {name : String} {text : JsString}
    (value : Option UfiBody → Option UfiBody → Option JsString) (once : ((ufiDetails none none none).map Prod.fst).count (js name) ≤ 1)
    (entry : ∀ overview sysinfo product,
      (js name, value sysinfo product) ∈ ufiDetails overview sysinfo product)
    (held : (parseUfiDetails jsonParse (some input.overview) (some input.sysinfo)
      input.produceInfo).bind (·.get (js name)) = some text) :
    value (parseUfiBody jsonParse input.sysinfo)
      (parseUfiBody jsonParse (input.produceInfo.getD [])) = some text := by
  have keys : (ufiDetails none none none).map Prod.fst =
      (ufiDetails (parseUfiBody jsonParse input.overview) (parseUfiBody jsonParse input.sysinfo)
        (parseUfiBody jsonParse (input.produceInfo.getD []))).map Prod.fst := rfl
  rw [keys] at once
  exact entry_of_compact once (entry _ _ _) held

theorem names_param (clear : Clear jsonParse input source) (mem : body ∈ input.bodies)
    {key text : JsString} (named : rawKey body.1 key ∈ source.rawFields)
    (known : stated (param (parseUfiBody jsonParse body.2) key) = some text) :
    Names (raw jsonParse input) source fun held => textOf held = some text :=
  names_text named (holds clear mem named) known

variable (jsonParse input)

/-- The observation that UFI bodies are normalized to. -/
def observed : NormalizedModemObservation :=
  routerObservation .ufiHimiapi (raw jsonParse input) (normalizeMetrics jsonParse context input)
    (notes jsonParse input)

/-- No body of the signal answers. -/
def Unanswered : Prop :=
  ∀ body ∈ input.signalBodies, repliesWith (js "ok") (parseUfiBody jsonParse body.2) = false

theorem dbm_cases :
    let dbm := (parseUfiSignal jsonParse input.sysinfo input.overview input.status).dbm
    dbm = .unknown .authExpired ∨ dbm = numericMetric (signalValue jsonParse input) ∨
      dbm = .unknown .malformed ∧ Unanswered jsonParse input := by
  intro dbm
  by_cases expired : [parseUfiBody jsonParse input.sysinfo, parseUfiBody jsonParse input.overview,
      parseUfiBody jsonParse input.status].all (repliesWith (js "SessionOut")) = true
  · exact .inl (if_pos expired)
  · by_cases answered : [parseUfiBody jsonParse input.sysinfo,
        parseUfiBody jsonParse input.overview, parseUfiBody jsonParse input.status].any
          (repliesWith (js "ok")) = true
    · exact .inr (.inl ((if_neg expired).trans (if_pos answered)))
    · refine .inr (.inr ⟨(if_neg expired).trans (if_neg answered), ?_⟩)
      rw [Bool.not_eq_true, List.any_eq_false] at answered
      intro body mem
      have isBody := List.mem_map_of_mem (f := fun body => parseUfiBody jsonParse body.2) mem
      exact Bool.not_eq_true _ ▸ answered _ isBody

theorem signal_known {number : Double} (known : (parseUfiSignal jsonParse input.sysinfo
    input.overview input.status).dbm = .known number) :
    numericMetric (signalValue jsonParse input) = .known number := by
  rcases dbm_cases jsonParse input with expired | numeric | ⟨malformed, -⟩
  · rw [expired] at known
    cases known
  · exact numeric.symm.trans known
  · rw [malformed] at known
    cases known

theorem mem_product : (PRODUCE_INFO, input.produceInfo.getD []) ∈ input.bodies :=
  List.mem_of_getElem? (i := 3) rfl

theorem product_names {text : JsString}
    (isStated : (stated (param (parseUfiBody jsonParse (input.produceInfo.getD []))
      (js "productname"))).isSome = true)
    (held : (parseUfiDetails jsonParse (some input.overview) (some input.sysinfo)
      input.produceInfo).bind (·.get (js "product")) = some text)
    (clear : Clear jsonParse input source)
    (named : rawKey PRODUCE_INFO (js "productname") ∈ source.rawFields) :
    Names (raw jsonParse input) source fun held => textOf held = some text := by
  apply names_param clear (mem_product input) named
  have isProduct := detail_held (fun _ product => (stated (param product (js "productname"))).or
    (stated (param product (js "ProductName")))) (by decide)
    (fun _ _ _ => List.mem_of_getElem? (i := 0) rfl) held
  obtain ⟨name, isName⟩ := Option.isSome_iff_exists.mp isStated
  rw [isName, Option.some_or] at isProduct
  exact isName.trans isProduct

theorem backed (metric : ObservedMetric)
    (stated : metric = .label ∨ metric = .displayName →
      (stated (param (parseUfiBody jsonParse (input.produceInfo.getD []))
        (js "productname"))).isSome = true) {value : MetricValue}
    (known : (observed jsonParse context input).metric metric = .known value source)
    (clear : Clear jsonParse input source) :
    Names (raw jsonParse input) source fun held =>
      decodeMetric textOf metric held = some value := by
  cases metric with
  | label =>
    obtain ⟨named, isNamed, rfl, rfl⟩ := known_label known
    obtain ⟨text, held, rfl⟩ := Option.map_eq_some_iff.mp isNamed
    have names := product_names jsonParse input (stated (.inl rfl)) held clear
      List.mem_cons_self
    apply names.imp
    intro held isHeld
    rw [decodeMetric, isHeld]
    rfl
  | displayName =>
    obtain ⟨named, isNamed, rfl, rfl⟩ := known_displayName known
    obtain ⟨text, held, rfl⟩ := Option.map_eq_some_iff.mp isNamed
    have names := product_names jsonParse input (stated (.inr rfl)) held clear
      List.mem_cons_self
    apply names.imp
    intro held isHeld
    rw [decodeMetric, isHeld]
    rfl
  | dbm =>
    obtain ⟨rfl, number, isKnown, rfl⟩ := known_signal known
    obtain ⟨field, named, isHeld⟩ := signal_holds clear rfl
    have isNumber := signal_known jsonParse input isKnown
    apply (names_number named isHeld isNumber).imp
    intro held isHeld
    rw [decodeMetric, isHeld]
    rfl
  | cellId =>
    obtain ⟨claimed, isClaimed, rfl, rfl⟩ := known_claimed known
    obtain ⟨text, held, rfl⟩ := Option.map_eq_some_iff.mp isClaimed
    have isCell := detail_held (fun sysinfo _ => Observations.stated (param sysinfo (js "cellid")))
      (by decide) (fun _ _ _ => List.mem_of_getElem? (i := 6) rfl) held
    apply (names_param clear (List.mem_cons_self : (SYSINFO, input.sysinfo) ∈ input.bodies)
      List.mem_cons_self isCell).imp
    intro held isHeld
    rw [decodeMetric, isHeld]
    rfl
  | modemState | registration | accessTechnologies | modeLabel | operatorName | operatorCode
  | quality | qualityRecent | bars | maxBars | rsrp | rsrq | snr | sinr | presence | lockRequired
  | kind | esimStatus | tac => cases known

theorem noted (mem : body ∈ input.bodies) (unparsed : parseJsonObject jsonParse body.2 = none)
    (said : trim body.2 ≠ []) :
    (⟨.unparseableBody, body.1⟩ : ObservationDiagnosticNote) ∈ notes jsonParse input := by
  apply List.mem_flatMap.mpr
  refine ⟨body, mem, ?_⟩
  rw [bodyNotes, unparsed]
  dsimp only
  rw [if_neg said]
  exact List.mem_singleton_self _

theorem unanswered_body (unanswered : Unanswered jsonParse input)
    (mem : body ∈ input.signalBodies) : trim body.2 = [] ∨
      (⟨.unparseableBody, body.1⟩ : ObservationDiagnosticNote) ∈ notes jsonParse input ∨
      ∃ members, parseJsonObject jsonParse body.2 = some members ∧
        repliesWith (js "ok") (ufiBody (.object members)) = false := by
  have isBody : body ∈ input.bodies := by
    have whole : input.bodies = input.signalBodies ++
        [(PRODUCE_INFO, input.produceInfo.getD [])] := rfl
    rw [whole]
    exact List.mem_append_left _ mem
  cases parsed : parseJsonObject jsonParse body.2 with
  | none =>
    by_cases said : trim body.2 = []
    · exact .inl said
    · exact .inr (.inl (noted jsonParse input isBody parsed said))
  | some members =>
    have silent := unanswered body mem
    rw [parseUfiBody, parsedJson_of_object parsed] at silent
    exact .inr (.inr ⟨members, rfl, silent⟩)

theorem malformed_cases (metric : ObservedMetric)
    (malformed : (observed jsonParse context input).metric metric =
      .unknown .malformed source) :
    Unanswered jsonParse input ∨ (Clear jsonParse input source →
      Names (raw jsonParse input) source fun held => decodeMetric textOf metric held = none) := by
  cases metric with
  | label =>
    have reason := congrArg NormalizedMetric.reason malformed
    rw [NormalizedModemObservation.metric, reason_mapMetric] at reason
    exact absurd reason hardware_not_malformed.1
  | displayName =>
    have reason := congrArg NormalizedMetric.reason malformed
    rw [NormalizedModemObservation.metric, reason_mapMetric] at reason
    exact absurd reason hardware_not_malformed.2
  | dbm =>
    obtain ⟨rfl, isMalformed⟩ := malformed_signal malformed
    rcases dbm_cases jsonParse input with expired | numeric | ⟨-, unanswered⟩
    · rw [expired] at isMalformed
      cases isMalformed
    · right
      intro clear
      obtain ⟨field, named, isHeld⟩ := signal_holds clear rfl
      apply (names_unread named isHeld (numeric.symm.trans isMalformed)).imp
      intro held isUnread
      rw [decodeMetric, isUnread]
      rfl
    · exact .inl unanswered
  | cellId => exact absurd malformed claimed_not_malformed
  | modemState | registration | accessTechnologies | modeLabel | operatorName | operatorCode
  | quality | qualityRecent | bars | maxBars | rsrp | rsrq | snr | sinr | presence | lockRequired
  | kind | esimStatus | tac => cases malformed

theorem traced : Traced jsonParse input (observed jsonParse context input) := by
  refine ⟨?_, ?_, ?_, ?_⟩
  · intro body mem members parsed entry isField named single
    exact kept mem parsed isField named single
  · intro metric isStated value source known clear
    exact backed jsonParse context input metric isStated known clear
  · intro body mem unparsed said
    exact noted jsonParse input mem unparsed said
  · intro metric source malformed
    apply (malformed_cases jsonParse context input metric malformed).imp_left
    intro unanswered body mem
    exact unanswered_body jsonParse input unanswered mem

end Ufi

/-! ### What a HiLink observation names -/

namespace Hilink

variable (context : NormalizationContext) (input : HilinkObservationInput)

/-- The tags that are named are found in their own case. -/
def Clear (source : MetricProvenance) : Prop :=
  ∀ body ∈ input.bodies, ∀ tag, rawKey body.1 tag ∈ source.rawFields → Spelled tag body.2

/-- Every leaf is in the record under a key of its own, and what is known is decoded from a leaf
that it names. Nothing that is malformed is noted: the leaf's text has no number at its head, or
the list of modes is no response. -/
structure Traced (observation : NormalizedModemObservation) : Prop where
  kept : ∀ body ∈ input.bodies, ((xmlFields body.2).map Prod.fst).Nodup ∧
    (xmlFields body.2).map Prod.snd = (leaves 0 body.2).map (fun leaf => .string (trim leaf.2)) ∧
    ∀ entry ∈ xmlFields body.2,
      observation.diagnostics.raw.get (rawKey body.1 entry.1) = some entry.2
  backed : ∀ metric value source, observation.metric metric = .known value source →
    Clear input source →
      Names observation.diagnostics.raw source fun held =>
        decodeMetric stringIn metric held = some value
  malformed : ∀ metric source, observation.metric metric = .unknown .malformed source →
    Clear input source →
      Names observation.diagnostics.raw source (fun held =>
        decodeMetric stringIn metric held = none) ∨
      metric = .modeLabel ∧ hasResponse (input.netModeList.getD []) = false

def records : Bodies :=
  input.bodies.map fun body => (body.1, some (.ofItems (xmlFields body.2)))

theorem named_records : Named (records input) where
  distinct := by
    have names : (records input).map Prod.fst = [STATUS, SIGNAL, NET_MODE_LIST, NET_MODE] := rfl
    rw [names]
    decide
  plain := by
    have names : ∀ name ∈ [STATUS, SIGNAL, NET_MODE_LIST, NET_MODE], fullStop ∉ name := by decide
    intro body mem
    exact names body.1 (List.mem_map_of_mem (f := Prod.fst) mem)

/-- The bodies are flattened as records under their names. -/
theorem raw_eq : raw input = mergeBodies (records input) := by
  have flattened (body : JsString × JsString) : flattenXmlBody body.2 body.1 =
      prefixRawRecord body.1 (some (.ofItems (xmlFields body.2))) := by
    rw [prefixRawRecord, Option.getD_some, RawFieldRecord.items_ofItems (xmlFields_nodup _)]
    rfl
  rw [raw, mergeBodies, records, List.map_map]
  exact congrArg mergeRawRecords (List.map_congr_left fun body _ => flattened body)

variable {input}

variable {body : JsString × JsString}

theorem kept (mem : body ∈ input.bodies) {entry : JsString × RawFieldValue}
    (isField : entry ∈ xmlFields body.2) :
    (raw input).get (rawKey body.1 entry.1) = some entry.2 := by
  have held := get_mergeBodies (named_records input) (List.mem_map_of_mem mem) entry.1
  rw [raw_eq]
  refine held.trans ?_
  rw [Option.bind_some, RawFieldRecord.get_ofItems (xmlFields_nodup _)]
  exact OrderedMap.get_of_mem_items (m := ⟨xmlFields body.2⟩) (xmlFields_nodup _) isField

variable {source : MetricProvenance}

theorem leaf_held (clear : Clear input source) (mem : body ∈ input.bodies) {tag value : JsString}
    (plain : 0x23 ∉ tag) (named : rawKey body.1 tag ∈ source.rawFields)
    (read : parseHilinkXmlValue body.2 tag = some value) :
    (raw input).get (rawKey body.1 tag) = some (.string value) :=
  kept mem (leaf_of_value plain (clear body mem tag named) read)

variable {tag : JsString}

theorem holds (clear : Clear input source) (mem : body ∈ input.bodies) (plain : 0x23 ∉ tag)
    (named : rawKey body.1 tag ∈ source.rawFields) :
    Holds (raw input) (rawKey body.1 tag) ((parseHilinkXmlValue body.2 tag).map .string) := by
  intro flat held
  obtain ⟨value, read, rfl⟩ := Option.map_eq_some_iff.mp held
  exact ⟨_, leaf_held clear mem plain named read, rfl⟩

/-- How the parser reads a metric of the signal. -/
def signalMetric (expired : Bool) (text tag : JsString) : RouterSignalMetric :=
  if expired then .unknown .authExpired
  else numericMetric ((parseHilinkXmlValue text tag).map .string)

theorem signal_known {expired : Bool} (clear : Clear input source) (mem : body ∈ input.bodies)
    {number : Double} (plain : 0x23 ∉ tag) (named : rawKey body.1 tag ∈ source.rawFields)
    (known : signalMetric expired body.2 tag = .known number) : Names (raw input) source fun held =>
      (numberOf held).map .number = some (MetricValue.number number) := by
  unfold signalMetric at known
  split at known
  · cases known
  · apply (names_number named (holds clear mem plain named) known).imp
    intro held isNumber
    rw [isNumber]
    rfl

theorem signal_malformed {expired : Bool} (clear : Clear input source) (mem : body ∈ input.bodies)
    (plain : 0x23 ∉ tag) (named : rawKey body.1 tag ∈ source.rawFields)
    (malformed : signalMetric expired body.2 tag = .unknown .malformed) :
    Names (raw input) source fun held => (numberOf held).map MetricValue.number = none := by
  unfold signalMetric at malformed
  split at malformed
  · cases malformed
  · apply (names_unread named (holds clear mem plain named) malformed).imp
    intro held isNone
    rw [isNone]
    rfl

theorem known_modeLabel {provenance : RouterProvenance} {capability : HilinkNetModeCapability}
    {value : MetricValue}
    (known : mapMetric (normalizeModeLabel capability provenance).value .text =
      .known value source) :
    ∃ modes current, capability = .reported modes (some current) ∧
      source = (provenance [rawKey NET_MODE (js "NetworkMode")] none).value ∧
      value = .text current := by
  cases capability with
  | unavailable => cases known
  | reported modes current =>
    cases current with
    | none => cases known
    | some current =>
      cases known
      exact ⟨modes, current, rfl, rfl, rfl⟩

theorem modeLabel_malformed {provenance : RouterProvenance} {capability : HilinkNetModeCapability}
    (malformed : mapMetric (normalizeModeLabel capability provenance).value MetricValue.text =
      .unknown .malformed source) : capability = .unavailable .malformed := by
  cases capability with
  | unavailable reason =>
    cases reason with
    | malformed => rfl
    | notReported | authExpired | unreachable | refused => cases malformed
  | reported modes current => cases current <;> cases malformed

theorem current_mode {netModeList : JsString} {netMode : Option JsString}
    {modes : List NetworkMode} {current : JsString}
    (reported : parseHilinkCapabilities netModeList netMode = .reported modes (some current)) :
    parseHilinkXmlValue (netMode.getD []) (js "NetworkMode") = some current := by
  unfold parseHilinkCapabilities at reported
  split at reported
  · split at reported <;> cases reported
  · dsimp only at reported
    split_ifs at reported
    injection reported with _ isCurrent
    exact (Option.filter_eq_some_iff.mp isCurrent).1

theorem no_response {netModeList : JsString} {netMode : Option JsString}
    (malformed : parseHilinkCapabilities netModeList netMode = .unavailable .malformed) :
    hasResponse netModeList = false := by
  unfold parseHilinkCapabilities at malformed
  split at malformed
  · split at malformed <;> cases malformed
  · dsimp only at malformed
    split_ifs at malformed with blank silent
    · cases malformed
    · simpa using silent
    · cases malformed

variable (input)

/-- The observation that HiLink bodies are normalized to. -/
def observed : NormalizedModemObservation :=
  routerObservation .huaweiHilink (raw input) (normalizeMetrics context input) (notes input)

theorem mem_status : (STATUS, input.status) ∈ input.bodies := List.mem_cons_self

theorem mem_signal : (SIGNAL, input.signal) ∈ input.bodies := List.mem_of_getElem? (i := 1) rfl

theorem mem_netMode : (NET_MODE, input.netMode.getD []) ∈ input.bodies :=
  List.mem_of_getElem? (i := 3) rfl

theorem backed (metric : ObservedMetric) {value : MetricValue}
    (known : (observed context input).metric metric = .known value source)
    (clear : Clear input source) :
    Names (raw input) source fun held => decodeMetric stringIn metric held = some value := by
  cases metric with
  | bars | maxBars =>
    obtain ⟨rfl, number, isKnown, rfl⟩ := known_signal known
    exact signal_known clear (mem_status input) (by decide) List.mem_cons_self isKnown
  | dbm | rsrp | rsrq | sinr =>
    obtain ⟨rfl, number, isKnown, rfl⟩ := known_signal known
    exact signal_known clear (mem_signal input) (by decide) List.mem_cons_self isKnown
  | modeLabel =>
    obtain ⟨modes, current, isReported, rfl, rfl⟩ := known_modeLabel known
    have held := leaf_held clear (mem_netMode input) (by decide) List.mem_cons_self
      (current_mode isReported)
    exact ⟨_, List.mem_cons_self, _, held, rfl⟩
  | label | displayName | modemState | registration | accessTechnologies | operatorName
  | operatorCode | quality | qualityRecent | snr | presence | lockRequired | kind | esimStatus
  | cellId | tac => cases known

theorem malformed_cases (metric : ObservedMetric)
    (malformed : (observed context input).metric metric = .unknown .malformed source)
    (clear : Clear input source) :
    Names (raw input) source (fun held => decodeMetric stringIn metric held = none) ∨
      metric = .modeLabel ∧ hasResponse (input.netModeList.getD []) = false := by
  cases metric with
  | bars | maxBars =>
    obtain ⟨rfl, isMalformed⟩ := malformed_signal malformed
    exact .inl (signal_malformed clear (mem_status input) (by decide) List.mem_cons_self
      isMalformed)
  | dbm | rsrp | rsrq | sinr =>
    obtain ⟨rfl, isMalformed⟩ := malformed_signal malformed
    exact .inl (signal_malformed clear (mem_signal input) (by decide) List.mem_cons_self
      isMalformed)
  | modeLabel => exact .inr ⟨rfl, no_response (modeLabel_malformed malformed)⟩
  | label | displayName | modemState | registration | accessTechnologies | operatorName
  | operatorCode | quality | qualityRecent | snr | presence | lockRequired | kind | esimStatus
  | cellId | tac => cases malformed

theorem traced : Traced input (observed context input) := by
  refine ⟨?_, ?_, ?_⟩
  · intro body mem
    refine ⟨xmlFields_nodup body.2, numberLeaves_values, ?_⟩
    intro entry isField
    exact kept mem isField
  · intro metric value source known clear
    exact backed context input metric known clear
  · intro metric source malformed clear
    exact malformed_cases context input metric malformed clear

end Hilink

/-- Router observations name where their values come from. -/
theorem names_sources (jsonParse : JsString → Option (Json Double))
    (context : NormalizationContext) :
    (∀ body, ∃ observation,
      (Zte.normalizeZteObservation jsonParse context body).reading = .fresh observation ∧
        Zte.Traced jsonParse body observation) ∧
    (∀ input, ∃ observation,
      (Ufi.normalizeUfiObservation jsonParse context input).reading = .fresh observation ∧
        Ufi.Traced jsonParse input observation) ∧
    ∀ input, ∃ observation,
      (Hilink.normalizeHilinkObservation context input).reading = .fresh observation ∧
        Hilink.Traced input observation := by
  refine ⟨?_, ?_, ?_⟩
  · intro body
    exact ⟨_, rfl, Zte.traced jsonParse context body⟩
  · intro input
    exact ⟨_, rfl, Ufi.traced jsonParse context input⟩
  · intro input
    exact ⟨_, rfl, Hilink.traced context input⟩

/-- No bar is lit. Of how many, no field tells. -/
def darkBody : JsString := memberText (js "signalbar") (js "0")

theorem scale_from_nowhere : ∃ observation,
    (Zte.normalizeZteObservation wholeJson ModemManager.benchContext darkBody).reading =
      .fresh observation ∧
    ∃ source, observation.metric .maxBars = .known (.number (.finite 5)) source ∧
      source.rawFields = [] := by
  have flat : parseFlatRecord wholeJson darkBody = some [(js "signalbar", .string (js "0"))] := by
    rw [parseFlatRecord, darkBody, parsed_memberText (by decide)]
    rfl
  have isZero : numericMetric (some (.string (js "0"))) = .known (.finite 0) := by
    have text : finiteDouble (parseFloat (js "0")) = some (.finite 0) := by decide
    have stated : trim (js "0") ≠ [] := by decide
    simp only [numericMetric, FlatValue.text, if_neg stated, text]
  have isScale : (parseZteSignal wholeJson darkBody).maxBars = .known (.finite 5) := by
    unfold parseZteSignal
    rw [flat]
    dsimp only
    rw [OrderedMap.getItem, if_pos rfl, isZero]
  refine ⟨_, Zte.observed_fresh _ _ _, Zte.scaleSource ModemManager.benchContext, ?_,
    Zte.scale_fields _⟩
  rw [Zte.scale_metric, isScale]
  rfl

end ModemStack.Observations
