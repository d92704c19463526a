import ModemStack.Domain.MmEnums
import ModemStack.Observations.RawRecord

/-!
ModemManager properties as a normalized observation.

A value that is missing has a reason: the body was not read, the field is not in it, or what is in
the field was not understood.
-/

namespace ModemStack.Observations

open ModemStack.Domain ModemStack.Text

/-! ### The presence of a SIM -/

structure SimPresenceFacts where
  sim : Option JsString
  simSlots : Option (List JsString)
  failedReason : Option JsString

inductive SimPresence where
  | present
  | absent
  | unknown
deriving DecidableEq

inductive SimPresenceEvidence where
  | simObjectPath (value : JsString)
  | simSlotObjectPath (value : JsString)
  | stateFailedReason (value : JsString)
  | noEvidence (inspected : List JsString)
  | vendorCodeUnclaimed (field : JsString)

/-- `/^\/org\/freedesktop\/ModemManager1\/SIM\/\d+$/` -/
def isSimObjectPath (path : JsString) : Bool :=
  let stem := js "/org/freedesktop/ModemManager1/SIM/"
  let number := path.drop stem.length
  stem.isPrefixOf path && !number.isEmpty && number.all isDigit

def simMissingFailedReason : JsString := js "sim-missing"

def simPresenceFields : List JsString := [js "sim", js "simSlots", js "failedReason"]

def readSimPresence (facts : SimPresenceFacts) : SimPresence × SimPresenceEvidence :=
  let sim := (facts.sim.map trim).getD []
  if isSimObjectPath sim then (.present, .simObjectPath sim)
  else
    match ((facts.simSlots.getD []).map trim).find? isSimObjectPath with
    | some slot => (.present, .simSlotObjectPath slot)
    | none =>
      if facts.failedReason = some simMissingFailedReason then
        (.absent, .stateFailedReason simMissingFailedReason)
      else (.unknown, .noEvidence simPresenceFields)

/-! ### The observation -/

inductive SimPresenceValue where
  | present
  | absent
deriving DecidableEq

structure NormalizedHardware where
  label : NormalizedMetric JsString
  displayName : NormalizedMetric JsString

structure NormalizedRadio where
  modemState : NormalizedMetric JsString
  registration : NormalizedMetric JsString
  accessTechnologies : NormalizedMetric (List RadioAccessTechnology)
  modeLabel : NormalizedMetric JsString
  operatorName : NormalizedMetric JsString
  operatorCode : NormalizedMetric JsString

structure NormalizedCell where
  cellId : NormalizedMetric JsString
  tac : NormalizedMetric JsString

structure NormalizedSignal where
  quality : NormalizedMetric Double
  qualityRecent : NormalizedMetric Bool
  bars : NormalizedMetric Double
  maxBars : NormalizedMetric Double
  dbm : NormalizedMetric Double
  rsrp : NormalizedMetric Double
  rsrq : NormalizedMetric Double
  snr : NormalizedMetric Double
  sinr : NormalizedMetric Double

structure NormalizedSim where
  presence : NormalizedMetric SimPresenceValue
  presenceEvidence : SimPresenceEvidence
  lockRequired : NormalizedMetric JsString
  kind : NormalizedMetric JsString
  esimStatus : NormalizedMetric JsString

structure NormalizedModemObservation where
  source : ObservationSourceKind
  hardware : NormalizedHardware
  radio : NormalizedRadio
  signal : NormalizedSignal
  sim : NormalizedSim
  cell : NormalizedCell
  diagnostics : ObservationDiagnostics

namespace ModemManager

/-- The interfaces that are read. -/
inductive Body where
  | modem
  | modem3gpp
  | sim
  | signal
  | location
deriving DecidableEq

def Body.name : Body → JsString
  | .modem => js "Modem"
  | .modem3gpp => js "Modem3gpp"
  | .sim => js "Sim"
  | .signal => js "Signal"
  | .location => js "Location"

/-- A record for each body that was read. -/
structure ModemManagerObservationInput where
  modem : Option RawFieldRecord
  modem3gpp : Option RawFieldRecord
  sim : Option RawFieldRecord
  signal : Option RawFieldRecord
  location : Option RawFieldRecord

def ModemManagerObservationInput.body (input : ModemManagerObservationInput) :
    Body → Option RawFieldRecord
  | .modem => input.modem
  | .modem3gpp => input.modem3gpp
  | .sim => input.sim
  | .signal => input.signal
  | .location => input.location

def allBodies : List Body := [.modem, .modem3gpp, .sim, .signal, .location]

def bodies (input : ModemManagerObservationInput) : Bodies :=
  allBodies.map fun body => (body.name, input.body body)

/-- A field of a body. -/
structure FieldName where
  body : Body
  field : JsString

def FieldName.key (name : FieldName) : JsString := rawKey name.body.name name.field

def model : FieldName := ⟨.modem, js "Model"⟩
def manufacturer : FieldName := ⟨.modem, js "Manufacturer"⟩
def revision : FieldName := ⟨.modem, js "Revision"⟩
def equipmentId : FieldName := ⟨.modem, js "EquipmentIdentifier"⟩
def state : FieldName := ⟨.modem, js "State"⟩
def currentModes : FieldName := ⟨.modem, js "CurrentModes"⟩
def accessTechnologies : FieldName := ⟨.modem, js "AccessTechnologies"⟩
def signalQuality : FieldName := ⟨.modem, js "SignalQuality"⟩
def simPath : FieldName := ⟨.modem, js "Sim"⟩
def simSlots : FieldName := ⟨.modem, js "SimSlots"⟩
def failedReason : FieldName := ⟨.modem, js "StateFailedReason"⟩
def unlockRequired : FieldName := ⟨.modem, js "UnlockRequired"⟩
def registrationState : FieldName := ⟨.modem3gpp, js "RegistrationState"⟩
def operatorName : FieldName := ⟨.modem3gpp, js "OperatorName"⟩
def operatorCode : FieldName := ⟨.modem3gpp, js "OperatorCode"⟩
def simType : FieldName := ⟨.sim, js "SimType"⟩
def esimStatus : FieldName := ⟨.sim, js "EsimStatus"⟩
def lacCi : FieldName := ⟨.location, js "3gpp-lac-ci"⟩
def signalCdma : FieldName := ⟨.signal, js "Cdma"⟩
def signalEvdo : FieldName := ⟨.signal, js "Evdo"⟩
def signalGsm : FieldName := ⟨.signal, js "Gsm"⟩
def signalUmts : FieldName := ⟨.signal, js "Umts"⟩
def signalLte : FieldName := ⟨.signal, js "Lte"⟩
def signalNr5g : FieldName := ⟨.signal, js "Nr5g"⟩

structure ExtendedSignalMetric where
  member : JsString
  dicts : List FieldName
  flat : FieldName

def rssi : ExtendedSignalMetric where
  member := js "rssi"
  dicts := [signalLte, signalUmts, signalGsm, signalEvdo, signalCdma]
  flat := ⟨.signal, js "rssi"⟩

def rsrp : ExtendedSignalMetric where
  member := js "rsrp"
  dicts := [signalNr5g, signalLte]
  flat := ⟨.signal, js "rsrp"⟩

def rsrq : ExtendedSignalMetric where
  member := js "rsrq"
  dicts := [signalNr5g, signalLte]
  flat := ⟨.signal, js "rsrq"⟩

def snr : ExtendedSignalMetric where
  member := js "snr"
  dicts := [signalNr5g, signalLte]
  flat := ⟨.signal, js "snr"⟩

def sinr : ExtendedSignalMetric where
  member := js "sinr"
  dicts := [signalEvdo]
  flat := ⟨.signal, js "sinr"⟩

variable (context : NormalizationContext) (raw : RawFieldRecord)

def provenance (fields : List FieldName) : Reading MetricProvenance :=
  Observations.provenance .modemmanager context (fields.map FieldName.key) none

def dictField (dict : FieldName) (member : JsString) : JsString := dict.key ++ js "." ++ member

/-- Claims the whole property, and names the member that is read. -/
def dictProvenance (dict : FieldName) (member : JsString) : Reading MetricProvenance := do
  Reading.claim [dict.key]
  pure (metricProvenance .modemmanager context [dictField dict member] none)

/-- The field is there and was not understood. -/
def malformed {α : Type} (field : JsString) (source : MetricProvenance) :
    Reading (NormalizedMetric α) := do
  Reading.complain ⟨.fieldShapeUnrecognized, field⟩
  pure (.unknown .malformed source)

def hardwareIdentity : ModemHardwareIdentity where
  model := rawString raw model.key
  manufacturer := rawString raw manufacturer.key
  firmwareRevision := rawString raw revision.key
  equipmentId := rawString raw equipmentId.key

def normalizeHardware : Reading NormalizedHardware := do
  let identity := hardwareIdentity raw
  let named := identity.model.isSome || identity.manufacturer.isSome ||
    identity.firmwareRevision.isSome
  let labelProvenance ← provenance context [model, manufacturer, revision]
  let nameProvenance ← provenance context [model, manufacturer, revision, equipmentId]
  pure
    { label := if named then .known (modemHardwareLabel identity) labelProvenance
        else .unknown .notReported labelProvenance
      displayName := if named then .known (modemHardwareName identity) nameProvenance
        else .unknown .notReported nameProvenance }

/-- A decoder that answers `unknown` for what it cannot place. -/
def decodedLabel (name : FieldName) (decode : Option Double → JsString) :
    Reading (NormalizedMetric JsString) := do
  let source ← provenance context [name]
  if hasRawField raw name.key then
    let decoded := decode (rawNumber raw name.key)
    if decoded = js "unknown" then malformed name.key source
    else pure (.known decoded source)
  else pure (.unknown .notReported source)

def normalizeAccessTechnologies : Reading (NormalizedMetric (List RadioAccessTechnology)) := do
  let source ← provenance context [accessTechnologies]
  if hasRawField raw accessTechnologies.key then
    match rawNumber raw accessTechnologies.key with
    | none => pure (.unknown .notReported source)
    | some mask =>
      if mask.le (.finite 0) then pure (.unknown .notReported source)
      else
        match (decodeMmAccessTechnologies (some mask)).mergeSort
            fun left right => unitsLe left.text right.text with
        | [] => malformed accessTechnologies.key source
        | decoded => pure (.known decoded source)
  else pure (.unknown .notReported source)

def normalizeModeLabel : Reading (NormalizedMetric JsString) := do
  let source ← provenance context [currentModes]
  if hasRawField raw currentModes.key then
    match rawNumberAt raw currentModes.key 0 with
    | none => pure (.unknown .notReported source)
    | some mask =>
      if mask.le (.finite 0) then pure (.unknown .notReported source)
      else
        match modeMaskToLabel (some mask) with
        | none => malformed currentModes.key source
        | some label => pure (.known label source)
  else pure (.unknown .notReported source)

def registrationString (name : FieldName) : Reading (NormalizedMetric JsString) := do
  let source ← provenance context [name]
  match rawString raw name.key with
  | none => pure (.unknown .notReported source)
  | some value => pure (.known value source)

def normalizeRadio : Reading NormalizedRadio := do
  let modemState ← decodedLabel context raw state decodeMmState
  let registration ← decodedLabel context raw registrationState decodeRegistrationState
  let accessTechnologies ← normalizeAccessTechnologies context raw
  let modeLabel ← normalizeModeLabel context raw
  let operatorName ← registrationString context raw operatorName
  let operatorCode ← registrationString context raw operatorCode
  pure { modemState, registration, accessTechnologies, modeLabel, operatorName, operatorCode }

/-- The reason of a field that is not there. -/
def missing (read : Bool) : MetricUnknownReason := if read then .notReported else .notObserved

def normalizeCell (locationRead : Bool) : Reading NormalizedCell := do
  let source ← provenance context [lacCi]
  if hasRawField raw lacCi.key then
    match decode3gppLacCi (rawString raw lacCi.key) with
    | none => do
        Reading.complain ⟨.fieldShapeUnrecognized, lacCi.key⟩
        pure ⟨.unknown .malformed source, .unknown .malformed source⟩
    | some decoded =>
      pure
        { cellId := .known decoded.cellId source
          tac := if decoded.trackingAreaCode = [] then .unknown .notReported source
            else .known decoded.trackingAreaCode source }
  else
    pure ⟨.unknown (missing locationRead) source, .unknown (missing locationRead) source⟩

/-- The first dict that has the member, else the flattened spelling. -/
def extended (signalRead : Bool) (metric : ExtendedSignalMetric) :
    List FieldName → Reading (NormalizedMetric Double)
  | dict :: dicts =>
    if hasRawDictMember raw dict.key metric.member then do
      let source ← dictProvenance context dict metric.member
      match rawDictNumber raw dict.key metric.member with
      | none => malformed (dictField dict metric.member) source
      | some value => pure (.known value source)
    else extended signalRead metric dicts
  | [] => do
      let source ← provenance context [metric.flat]
      match rawNumber raw metric.flat.key with
      | none =>
        pure (.unknown (if hasRawField raw metric.flat.key then .malformed else missing signalRead)
          source)
      | some value => pure (.known value source)

def normalizeSignal (signalRead : Bool) : Reading NormalizedSignal := do
  let quality := rawNumberAt raw signalQuality.key 0
  let recent := rawBooleanAt raw signalQuality.key 1
  let qualityProvenance ← provenance context [signalQuality]
  let recentProvenance ← provenance context [signalQuality]
  let barsProvenance ← provenance context []
  let maxBarsProvenance ← provenance context []
  let dbm ← extended context raw signalRead rssi rssi.dicts
  let rsrp ← extended context raw signalRead rsrp rsrp.dicts
  let rsrq ← extended context raw signalRead rsrq rsrq.dicts
  let snr ← extended context raw signalRead snr snr.dicts
  let sinr ← extended context raw signalRead sinr sinr.dicts
  pure
    { quality := match quality with
        | none => .unknown .notReported qualityProvenance
        | some quality => .known quality qualityProvenance
      qualityRecent := match recent with
        | none => .unknown .notReported recentProvenance
        | some recent => .known recent recentProvenance
      bars := .unknown .unsupported barsProvenance
      maxBars := .unknown .unsupported maxBarsProvenance
      dbm, rsrp, rsrq, snr, sinr }

def failedReasonOf : Option JsString :=
  match rawNumber raw failedReason.key with
  | some numeric => decodeStateFailedReason (some numeric)
  | none => rawString raw failedReason.key

def simPresenceFacts : SimPresenceFacts where
  sim := rawString raw simPath.key
  simSlots := rawStringArray raw simSlots.key
  failedReason := failedReasonOf raw

/-- A decoder that answers nothing for what it cannot place. -/
def decodedOptional (name : FieldName) (decode : Option Double → Option JsString)
    (absentReason : MetricUnknownReason) : Reading (NormalizedMetric JsString) := do
  let source ← provenance context [name]
  if hasRawField raw name.key then
    match decode (rawNumber raw name.key) with
    | none => malformed name.key source
    | some decoded => pure (.known decoded source)
  else pure (.unknown absentReason source)

def normalizeSim (simRead : Bool) : Reading NormalizedSim := do
  let presenceProvenance ← provenance context [simPath, simSlots, failedReason]
  let (presence, presenceEvidence) := readSimPresence (simPresenceFacts raw)
  let lockRequired ← decodedOptional context raw unlockRequired decodeUnlockRequired .notReported
  let kind ← decodedOptional context raw simType decodeSimType (missing simRead)
  let esimStatus ← decodedOptional context raw esimStatus decodeEsimStatus (missing simRead)
  pure
    { presence := match presence with
        | .present => .known .present presenceProvenance
        | .absent => .known .absent presenceProvenance
        | .unknown => .unknown .notReported presenceProvenance
      presenceEvidence, lockRequired, kind, esimStatus }

/-- The metrics, before the diagnostics are drawn up. -/
structure Metrics where
  hardware : NormalizedHardware
  radio : NormalizedRadio
  signal : NormalizedSignal
  sim : NormalizedSim
  cell : NormalizedCell

def normalizeMetrics (input : ModemManagerObservationInput) : Reading Metrics := do
  let hardware ← normalizeHardware context raw
  let radio ← normalizeRadio context raw
  let signal ← normalizeSignal context raw input.signal.isSome
  let sim ← normalizeSim context raw input.sim.isSome
  let cell ← normalizeCell context raw input.location.isSome
  pure { hardware, radio, signal, sim, cell }

def normalizeModemManager (input : ModemManagerObservationInput) : NormalizedModemObservation :=
  let raw := mergeBodies (bodies input)
  let metrics := normalizeMetrics context raw input
  { source := .modemmanager
    hardware := metrics.value.hardware
    radio := metrics.value.radio
    signal := metrics.value.signal
    sim := metrics.value.sim
    cell := metrics.value.cell
    diagnostics :=
      createObservationDiagnostics .modemmanager raw metrics.consumed metrics.notes }

def normalizeModemManagerObservation (input : ModemManagerObservationInput) :
    ObservationEnvelope NormalizedModemObservation :=
  freshObservation ObservationSourceKind.modemmanager.text context
    (normalizeModemManager context input)

/-! ### What a field holds -/

/-- What is in a field, told by what its decoder makes of it. -/
inductive FieldContent where
  | absent
  /-- The modem says nothing: a mask of 0, a blank text. -/
  | silent
  | undecodable
  | decoded
deriving DecidableEq

def FieldContent.ofBool (isDecoded : Bool) : FieldContent :=
  if isDecoded then .decoded else .undecodable

/-- A number that has a name. -/
def enumContent (isNamed : Option Double → Bool) : Option RawFieldValue → FieldContent
  | none => .absent
  | some value => .ofBool (isNamed (numberIn value))

def maskContent (isNamed : Double → Bool) : Option RawFieldValue → FieldContent
  | none => .absent
  | some value =>
    match numberIn value with
    | none => .undecodable
    | some mask => if mask.same (.finite 0) then .silent else .ofBool (isNamed mask)

def textContent : Option RawFieldValue → FieldContent
  | none => .absent
  | some (.string text) => if trim text = [] then .silent else .decoded
  | some value => .ofBool (textIn value).isSome

def numberContent : Option RawFieldValue → FieldContent
  | none => .absent
  | some value => .ofBool (numberIn value).isSome

def boolContent : Option RawFieldValue → FieldContent
  | none => .absent
  | some value => .ofBool (boolIn value).isSome

def cellContent (part : Mm3gppLacCi → JsString) : Option RawFieldValue → FieldContent
  | none => .absent
  | some value =>
    match decode3gppLacCi (textIn value) with
    | none => .undecodable
    | some decoded => if part decoded = [] then .silent else .decoded

/-- The value of an extended metric, and its member of a dict where it is one. -/
def signalSource (lookup : FieldName → Option RawFieldValue) (metric : ExtendedSignalMetric) :
    List FieldName → Option RawFieldValue × Option JsString
  | dict :: dicts =>
    match dictMember (lookup dict) metric.member with
    | some value => (some value, some (dictField dict metric.member))
    | none => signalSource lookup metric dicts
  | [] => (lookup metric.flat, none)

/-- The metrics that are each read from one field of one body. -/
inductive FieldMetric where
  | modemState
  | registration
  | accessTechnologies
  | modeLabel
  | operatorName
  | operatorCode
  | quality
  | qualityRecent
  | dbm
  | rsrp
  | rsrq
  | snr
  | sinr
  | lockRequired
  | kind
  | esimStatus
  | cellId
  | tac

def fieldOf (input : ModemManagerObservationInput) (name : FieldName) : Option RawFieldValue :=
  (input.body name.body).bind (·.get name.field)

namespace FieldMetric

def extended : FieldMetric → Option ExtendedSignalMetric
  | .dbm => some rssi
  | .rsrp => some ModemManager.rsrp
  | .rsrq => some ModemManager.rsrq
  | .snr => some ModemManager.snr
  | .sinr => some ModemManager.sinr
  | _ => none

def body : FieldMetric → Body
  | .registration | .operatorName | .operatorCode => .modem3gpp
  | .dbm | .rsrp | .rsrq | .snr | .sinr => .signal
  | .kind | .esimStatus => .sim
  | .cellId | .tac => .location
  | _ => .modem

def content (input : ModemManagerObservationInput) : FieldMetric → FieldContent
  | .modemState => enumContent (fun value => decodeMmState value ≠ js "unknown")
      (fieldOf input state)
  | .registration => enumContent (fun value => decodeRegistrationState value ≠ js "unknown")
      (fieldOf input registrationState)
  | .accessTechnologies => maskContent (fun mask => decodeMmAccessTechnologies (some mask) ≠ [])
      (fieldOf input ModemManager.accessTechnologies)
  | .modeLabel => maskContent (fun mask => (modeMaskToLabel (some mask)).isSome)
      (structMember (fieldOf input currentModes) 0)
  | .operatorName => textContent (fieldOf input ModemManager.operatorName)
  | .operatorCode => textContent (fieldOf input ModemManager.operatorCode)
  | .quality => numberContent (structMember (fieldOf input signalQuality) 0)
  | .qualityRecent => boolContent (structMember (fieldOf input signalQuality) 1)
  | .dbm => numberContent (signalSource (fieldOf input) rssi rssi.dicts).1
  | .rsrp => numberContent (signalSource (fieldOf input) ModemManager.rsrp
      ModemManager.rsrp.dicts).1
  | .rsrq => numberContent (signalSource (fieldOf input) ModemManager.rsrq
      ModemManager.rsrq.dicts).1
  | .snr => numberContent (signalSource (fieldOf input) ModemManager.snr ModemManager.snr.dicts).1
  | .sinr => numberContent (signalSource (fieldOf input) ModemManager.sinr
      ModemManager.sinr.dicts).1
  | .lockRequired => enumContent (fun value => (decodeUnlockRequired value).isSome)
      (fieldOf input unlockRequired)
  | .kind => enumContent (fun value => (decodeSimType value).isSome) (fieldOf input simType)
  | .esimStatus => enumContent (fun value => (decodeEsimStatus value).isSome)
      (fieldOf input ModemManager.esimStatus)
  | .cellId => cellContent Mm3gppLacCi.cellId (fieldOf input lacCi)
  | .tac => cellContent Mm3gppLacCi.trackingAreaCode (fieldOf input lacCi)

/-- The field that a complaint about the metric names. A flattened signal field is not named. -/
def noteField (input : ModemManagerObservationInput) : FieldMetric → Option JsString
  | .modemState => some state.key
  | .registration => some registrationState.key
  | .accessTechnologies => some ModemManager.accessTechnologies.key
  | .modeLabel => some currentModes.key
  | .lockRequired => some unlockRequired.key
  | .kind => some simType.key
  | .esimStatus => some ModemManager.esimStatus.key
  | .cellId | .tac => some lacCi.key
  | metric => metric.extended.bind fun metric =>
    (signalSource (fieldOf input) metric metric.dicts).2

/-- The decoder of the metric calls everything malformed that it cannot place. -/
def placesAll : FieldMetric → Bool
  | .accessTechnologies | .modeLabel | .operatorName | .operatorCode | .quality
  | .qualityRecent => false
  | _ => true

def reason (observation : NormalizedModemObservation) : FieldMetric → Option MetricUnknownReason
  | .modemState => observation.radio.modemState.reason
  | .registration => observation.radio.registration.reason
  | .accessTechnologies => observation.radio.accessTechnologies.reason
  | .modeLabel => observation.radio.modeLabel.reason
  | .operatorName => observation.radio.operatorName.reason
  | .operatorCode => observation.radio.operatorCode.reason
  | .quality => observation.signal.quality.reason
  | .qualityRecent => observation.signal.qualityRecent.reason
  | .dbm => observation.signal.dbm.reason
  | .rsrp => observation.signal.rsrp.reason
  | .rsrq => observation.signal.rsrq.reason
  | .snr => observation.signal.snr.reason
  | .sinr => observation.signal.sinr.reason
  | .lockRequired => observation.sim.lockRequired.reason
  | .kind => observation.sim.kind.reason
  | .esimStatus => observation.sim.esimStatus.reason
  | .cellId => observation.cell.cellId.reason
  | .tac => observation.cell.tac.reason

end FieldMetric

/-- The metrics of the body tell a body that was not read from one without the field. -/
def Body.tellsUnread : Body → Bool
  | .modem | .modem3gpp => false
  | .sim | .signal | .location => true

/-- The reason of a metric, and the complaint about it, fit what is in its field. -/
structure Fits (content : FieldContent) (read tells places : Bool) (noteField : Option JsString)
    (reason : Option MetricUnknownReason) (notes : List ObservationDiagnosticNote) : Prop where
  known : reason = none ↔ content = .decoded
  notObserved : reason = some .notObserved ↔ read = false ∧ tells = true
  notReported : content = .absent ∧ (read = true ∨ tells = false) ∨ content = .silent →
    reason = some .notReported
  onlyNotReported : places = true → reason = some .notReported →
    content = .absent ∧ (read = true ∨ tells = false) ∨ content = .silent
  malformed : places = true → content = .undecodable → reason = some .malformed
  onlyMalformed : reason = some .malformed → content = .undecodable
  noted : reason = some .malformed → ∀ field ∈ noteField,
    (⟨.fieldShapeUnrecognized, field⟩ : ObservationDiagnosticNote) ∈ notes

/-! ### The helpers -/

section Helpers

variable {content : FieldContent} {read tells places : Bool}
  {noteField : Option JsString} {reason : Option MetricUnknownReason}
  {notes : List ObservationDiagnosticNote}

theorem Fits.mono {notes' : List ObservationDiagnosticNote}
    (fits : Fits content read tells places noteField reason notes) (more : notes ⊆ notes') :
    Fits content read tells places noteField reason notes' :=
  { fits with noted := fun isMalformed field mem => more (fits.noted isMalformed field mem) }

theorem Fits.left (fits : Fits content read tells places noteField reason notes)
    (rest : List ObservationDiagnosticNote) :
    Fits content read tells places noteField reason (notes ++ rest) :=
  fits.mono (List.subset_append_left _ _)

theorem Fits.right (fits : Fits content read tells places noteField reason notes)
    (before : List ObservationDiagnosticNote) :
    Fits content read tells places noteField reason (before ++ notes) :=
  fits.mono (List.subset_append_right _ _)

/-- A body that was not read has no fields. -/
def Unread (content : FieldContent) (read : Bool) : Prop := read = false → content = .absent

/-- The reason that a decoder gives which calls malformed what it cannot place. -/
def reasonOf (read tells : Bool) : FieldContent → Option MetricUnknownReason
  | .absent => some (if tells && !read then .notObserved else .notReported)
  | .silent => some .notReported
  | .undecodable => some .malformed
  | .decoded => none

theorem fits_of_reason (unread : Unread content read)
    (isReason : reason = reasonOf read tells content)
    (noted : content = .undecodable → ∀ field ∈ noteField,
      (⟨.fieldShapeUnrecognized, field⟩ : ObservationDiagnosticNote) ∈ notes) :
    Fits content read tells places noteField reason notes := by
  subst isReason
  cases content <;> cases read <;> cases tells <;>
    constructor <;> simp_all [reasonOf, Unread]

theorem missing_eq (read : Bool) :
    missing read = if true && !read then .notObserved else .notReported := by
  cases read <;> rfl

/-- What a reading of a metric tells. -/
def Tells {α : Type} (reading : Reading (NormalizedMetric α)) (read tells : Bool)
    (noteField : Option JsString) (content : FieldContent) : Prop :=
  reading.value.reason = reasonOf read tells content ∧
    (content = .undecodable → ∀ field ∈ noteField,
      (⟨.fieldShapeUnrecognized, field⟩ : ObservationDiagnosticNote) ∈ reading.notes)

theorem Tells.fits {α : Type} {reading : Reading (NormalizedMetric α)}
    (told : Tells reading read tells noteField content) (unread : Unread content read) :
    Fits content read tells places noteField reading.value.reason reading.notes :=
  fits_of_reason unread told.1 told.2

theorem tells_malformed {α : Type} (field : JsString) (source : MetricProvenance) :
    Tells (malformed field source : Reading (NormalizedMetric α)) read tells (some field)
      .undecodable := by
  refine ⟨rfl, fun _ other same => ?_⟩
  cases same
  exact List.mem_singleton_self _

variable (name : FieldName)

theorem decodedLabel_tells (decode : Option Double → JsString) :
    Tells (decodedLabel context raw name decode) read false (some name.key)
      (enumContent (fun value => decode value ≠ js "unknown") (raw.get name.key)) := by
  unfold decodedLabel hasRawField rawNumber
  cases raw.get name.key with
  | none => exact ⟨rfl, nofun⟩
  | some value =>
    by_cases unplaced : decode (numberIn value) = js "unknown"
    · have content : enumContent (fun value => decode value ≠ js "unknown") (some value) =
          .undecodable := by
        simp [enumContent, FieldContent.ofBool, unplaced]
      rw [content]
      simp only [Option.bind_some, unplaced, Option.isSome_some, if_true]
      exact tells_malformed name.key _
    · have content : enumContent (fun value => decode value ≠ js "unknown") (some value) =
          .decoded := by
        simp [enumContent, FieldContent.ofBool, unplaced]
      rw [content]
      simp only [Option.bind_some, unplaced, Option.isSome_some, if_true, if_false]
      exact ⟨rfl, nofun⟩

theorem decodedOptional_tells (decode : Option Double → Option JsString)
    {absentReason : MetricUnknownReason}
    (absent : absentReason = if tells && !read then .notObserved else .notReported) :
    Tells (decodedOptional context raw name decode absentReason) read tells (some name.key)
      (enumContent (fun value => (decode value).isSome) (raw.get name.key)) := by
  unfold decodedOptional hasRawField rawNumber
  cases raw.get name.key with
  | none => exact ⟨congrArg some absent, nofun⟩
  | some value =>
    cases decodes : decode (numberIn value) with
    | none =>
      have content : enumContent (fun value => (decode value).isSome) (some value) =
          .undecodable := by
        simp [enumContent, FieldContent.ofBool, decodes]
      rw [content]
      simp only [Option.bind_some, decodes, Option.isSome_some, if_true]
      exact tells_malformed name.key _
    | some decoded =>
      have content : enumContent (fun value => (decode value).isSome) (some value) =
          .decoded := by
        simp [enumContent, FieldContent.ofBool, decodes]
      rw [content]
      simp only [Option.bind_some, decodes, Option.isSome_some, if_true]
      exact ⟨rfl, nofun⟩

theorem extended_tells (signalRead : Bool) (metric : ExtendedSignalMetric)
    (dicts : List FieldName) :
    Tells (extended context raw signalRead metric dicts) signalRead true
      (signalSource (fun name => raw.get name.key) metric dicts).2
      (numberContent (signalSource (fun name => raw.get name.key) metric dicts).1) := by
  induction dicts with
  | nil =>
    unfold extended signalSource rawNumber hasRawField
    cases raw.get metric.flat.key with
    | none => exact ⟨congrArg some (missing_eq signalRead), nofun⟩
    | some value =>
      cases isNumber : numberIn value with
      | none =>
        have content : numberContent (some value) = .undecodable := by
          simp [numberContent, FieldContent.ofBool, isNumber]
        rw [content]
        simp only [Option.bind_some, isNumber]
        exact ⟨rfl, nofun⟩
      | some =>
        have content : numberContent (some value) = .decoded := by
          simp [numberContent, FieldContent.ofBool, isNumber]
        rw [content]
        simp only [Option.bind_some, isNumber]
        exact ⟨rfl, nofun⟩
  | cons dict dicts ih =>
    unfold extended signalSource hasRawDictMember rawDictNumber rawDictMember
    cases isMember : dictMember (raw.get dict.key) metric.member with
    | none => exact ih
    | some value =>
      cases isNumber : numberIn value with
      | none =>
        have content : numberContent (some value) = .undecodable := by
          simp [numberContent, FieldContent.ofBool, isNumber]
        rw [content]
        simp only [Option.bind_some, isNumber, Option.isSome_some, if_true]
        exact tells_malformed (dictField dict metric.member) _
      | some =>
        have content : numberContent (some value) = .decoded := by
          simp [numberContent, FieldContent.ofBool, isNumber]
        rw [content]
        simp only [Option.bind_some, isNumber, Option.isSome_some, if_true]
        exact ⟨rfl, nofun⟩

theorem cellId_ne_nil {value : Option JsString} {decoded : Mm3gppLacCi}
    (decodes : decode3gppLacCi value = some decoded) : decoded.cellId ≠ [] := by
  obtain ⟨text, -, decodes⟩ := Option.bind_eq_some_iff.mp decodes
  split at decodes
  · split_ifs at decodes with blank
    cases decodes
    exact fun empty => blank (.inr (.inr empty))
  · cases decodes

theorem normalizeCell_tells (locationRead : Bool) :
    Tells ⟨(normalizeCell context raw locationRead).value.cellId, [],
        (normalizeCell context raw locationRead).notes⟩ locationRead true (some lacCi.key)
        (cellContent Mm3gppLacCi.cellId (raw.get lacCi.key)) ∧
      Tells ⟨(normalizeCell context raw locationRead).value.tac, [],
        (normalizeCell context raw locationRead).notes⟩ locationRead true (some lacCi.key)
        (cellContent Mm3gppLacCi.trackingAreaCode (raw.get lacCi.key)) := by
  unfold normalizeCell hasRawField rawString
  cases raw.get lacCi.key with
  | none =>
    have absent := congrArg some (missing_eq locationRead)
    exact ⟨⟨absent, nofun⟩, ⟨absent, nofun⟩⟩
  | some value =>
    simp only [Option.bind_some, Option.isSome_some, if_true, cellContent]
    cases decodes : decode3gppLacCi (textIn value) with
    | none =>
      have noted : ∀ field ∈ some lacCi.key, (⟨.fieldShapeUnrecognized, field⟩ :
          ObservationDiagnosticNote) ∈ [⟨.fieldShapeUnrecognized, lacCi.key⟩] := by
        intro field same
        cases same
        exact List.mem_singleton_self _
      exact ⟨⟨rfl, fun _ => noted⟩, ⟨rfl, fun _ => noted⟩⟩
    | some decoded =>
      simp only [if_neg (cellId_ne_nil decodes)]
      refine ⟨⟨rfl, nofun⟩, ?_⟩
      by_cases none : decoded.trackingAreaCode = []
      · simp only [if_pos none]
        exact ⟨rfl, nofun⟩
      · simp only [if_neg none]
        exact ⟨rfl, nofun⟩

/-! ### The helpers that read what they cannot place as not reported -/

/-- The reason of a helper that also answers `not-reported` for what it cannot place. -/
theorem fits_of_lenient (reads : content = .decoded → reason = none)
    (unplaced : content = .undecodable → reason = some .notReported ∨
      reason = some .malformed ∧ ∀ field ∈ noteField,
        (⟨.fieldShapeUnrecognized, field⟩ : ObservationDiagnosticNote) ∈ notes)
    (silent : content = .absent ∨ content = .silent → reason = some .notReported) :
    Fits content read false false noteField reason notes := by
  cases content <;> constructor <;> simp_all <;> rcases unplaced with same | ⟨same, noted⟩ <;>
    simp_all

theorem sorted_eq_nil_iff (technologies : List RadioAccessTechnology) :
    technologies.mergeSort (fun left right => unitsLe left.text right.text) = [] ↔
      technologies = [] := by
  rw [← List.length_eq_zero_iff, List.length_mergeSort, List.length_eq_zero_iff]

theorem positive_of_not_le {mask : Double} (positive : ¬mask.le (.finite 0) = true) :
    mask.same (.finite 0) = false := by
  cases same : mask.same (.finite 0) with
  | false => rfl
  | true => exact absurd (by rw [Double.le, same, Bool.or_true]) positive

/-- The reason of a mask: the ones up to 0 say nothing. -/
def maskReason (isNamed : Double → Bool) (value : Option RawFieldValue) :
    Option MetricUnknownReason :=
  match value.bind numberIn with
  | none => some .notReported
  | some mask =>
    if mask.le (.finite 0) then some .notReported
    else if isNamed mask then none
    else some .malformed

theorem fits_of_mask {isNamed : Double → Bool} {value : Option RawFieldValue}
    (positive : ∀ mask, mask.le (.finite 0) = true → isNamed mask = false)
    (isReason : reason = maskReason isNamed value)
    (noted : reason = some .malformed → ∀ field ∈ noteField,
      (⟨.fieldShapeUnrecognized, field⟩ : ObservationDiagnosticNote) ∈ notes) :
    Fits (maskContent isNamed value) read false false noteField reason notes := by
  subst isReason
  cases value with
  | none => exact fits_of_lenient nofun nofun fun _ => rfl
  | some value =>
    simp only [maskReason, Option.bind_some, maskContent] at noted ⊢
    cases isNumber : numberIn value with
    | none => exact fits_of_lenient nofun (fun _ => .inl rfl) nofun
    | some mask =>
      simp only [isNumber] at noted ⊢
      by_cases low : mask.le (.finite 0) = true
      · simp only [if_pos low, positive mask low]
        refine fits_of_lenient (fun decoded => ?_) (fun _ => .inl rfl) fun _ => rfl
        split_ifs at decoded
        cases decoded
      · simp only [if_neg low, positive_of_not_le low] at noted ⊢
        cases named : isNamed mask with
        | true => exact fits_of_lenient (fun _ => rfl) nofun nofun
        | false =>
          rw [named] at noted
          exact fits_of_lenient nofun (fun _ => .inr ⟨rfl, noted rfl⟩) nofun

theorem accessTechnologies_reason :
    (normalizeAccessTechnologies context raw).value.reason =
        maskReason (fun mask => decodeMmAccessTechnologies (some mask) ≠ [])
          (raw.get accessTechnologies.key) ∧
      ((normalizeAccessTechnologies context raw).value.reason = some .malformed →
        ⟨.fieldShapeUnrecognized, accessTechnologies.key⟩ ∈
          (normalizeAccessTechnologies context raw).notes) := by
  unfold normalizeAccessTechnologies hasRawField rawNumber
  cases raw.get accessTechnologies.key with
  | none => exact ⟨rfl, nofun⟩
  | some value =>
    simp only [Option.bind_some, Option.isSome_some, if_true, maskReason]
    cases numberIn value with
    | none => exact ⟨rfl, nofun⟩
    | some mask =>
      by_cases low : mask.le (.finite 0) = true
      · simp only [if_pos low]
        exact ⟨rfl, nofun⟩
      · simp only [if_neg low]
        cases sorted : (decodeMmAccessTechnologies (some mask)).mergeSort
            fun left right => unitsLe left.text right.text with
        | nil =>
          simp only [(sorted_eq_nil_iff _).mp sorted]
          exact ⟨rfl, fun _ => List.mem_singleton_self _⟩
        | cons =>
          have isNamed : decodeMmAccessTechnologies (some mask) ≠ [] := by
            intro none
            rw [none, List.mergeSort_nil] at sorted
            cases sorted
          simp only [if_pos (decide_eq_true isNamed)]
          exact ⟨rfl, nofun⟩

theorem accessTechnologies_fits (read : Bool) :
    Fits (maskContent (fun mask => decodeMmAccessTechnologies (some mask) ≠ [])
        (raw.get accessTechnologies.key)) read false false (some accessTechnologies.key)
      (normalizeAccessTechnologies context raw).value.reason
      (normalizeAccessTechnologies context raw).notes := by
  refine fits_of_mask ?_ (accessTechnologies_reason context raw).1 ?_
  · intro mask low
    have none : decodeMmAccessTechnologies (some mask) = [] := if_pos low
    simp [none]
  · rintro isMalformed _ ⟨⟩
    exact (accessTechnologies_reason context raw).2 isMalformed

theorem modeLabel_reason :
    (normalizeModeLabel context raw).value.reason =
        maskReason (fun mask => (modeMaskToLabel (some mask)).isSome)
          (structMember (raw.get currentModes.key) 0) ∧
      ((normalizeModeLabel context raw).value.reason = some .malformed →
        ⟨.fieldShapeUnrecognized, currentModes.key⟩ ∈
          (normalizeModeLabel context raw).notes) := by
  unfold normalizeModeLabel hasRawField rawNumberAt rawStructMember
  cases raw.get currentModes.key with
  | none => exact ⟨rfl, nofun⟩
  | some value =>
    simp only [Option.isSome_some, if_true, maskReason]
    cases (structMember (some value) 0).bind numberIn with
    | none => exact ⟨rfl, nofun⟩
    | some mask =>
      by_cases low : mask.le (.finite 0) = true
      · simp only [if_pos low]
        exact ⟨rfl, nofun⟩
      · simp only [if_neg low]
        obtain none | ⟨label, isLabel⟩ := (modeMaskToLabel (some mask)).eq_none_or_eq_some
        · simp only [none]
          exact ⟨rfl, fun _ => List.mem_singleton_self _⟩
        · simp only [isLabel]
          exact ⟨rfl, nofun⟩

theorem modeLabel_fits (read : Bool) :
    Fits (maskContent (fun mask => (modeMaskToLabel (some mask)).isSome)
        (structMember (raw.get currentModes.key) 0)) read false false (some currentModes.key)
      (normalizeModeLabel context raw).value.reason (normalizeModeLabel context raw).notes := by
  refine fits_of_mask ?_ (modeLabel_reason context raw).1 ?_
  · intro mask low
    have none : modeMaskToLabel (some mask) = none := if_pos low
    rw [none]
    rfl
  · rintro isMalformed _ ⟨⟩
    exact (modeLabel_reason context raw).2 isMalformed

theorem registrationString_fits (read : Bool) :
    Fits (textContent (raw.get name.key)) read false false none
      (registrationString context raw name).value.reason
      (registrationString context raw name).notes := by
  unfold registrationString rawString
  cases raw.get name.key with
  | none => exact fits_of_lenient nofun nofun fun _ => rfl
  | some value =>
    cases value with
    | string text =>
      by_cases blank : trim text = []
      · simp only [Option.bind_some, textIn, textContent, if_pos blank]
        exact fits_of_lenient nofun nofun fun _ => rfl
      · simp only [Option.bind_some, textIn, textContent, if_neg blank]
        exact fits_of_lenient (fun _ => rfl) nofun nofun
    | number | bool => exact fits_of_lenient (fun _ => rfl) nofun nofun
    | null | array => exact fits_of_lenient nofun (fun _ => .inl rfl) nofun

theorem quality_fits (signalRead read : Bool) :
    Fits (numberContent (structMember (raw.get signalQuality.key) 0)) read false false none
      (normalizeSignal context raw signalRead).value.quality.reason [] := by
  show Fits _ _ _ _ _ (match rawNumberAt raw signalQuality.key 0 with
    | none => .unknown .notReported _
    | some quality => .known quality _ : NormalizedMetric Double).reason _
  unfold rawNumberAt rawStructMember
  cases structMember (raw.get signalQuality.key) 0 with
  | none => exact fits_of_lenient nofun nofun fun _ => rfl
  | some value =>
    cases isNumber : numberIn value with
    | none =>
      simp only [Option.bind_some, isNumber, numberContent]
      exact fits_of_lenient nofun (fun _ => .inl rfl) nofun
    | some =>
      simp only [Option.bind_some, isNumber, numberContent]
      exact fits_of_lenient (fun _ => rfl) nofun nofun

theorem qualityRecent_fits (signalRead read : Bool) :
    Fits (boolContent (structMember (raw.get signalQuality.key) 1)) read false false none
      (normalizeSignal context raw signalRead).value.qualityRecent.reason [] := by
  show Fits _ _ _ _ _ (match rawBooleanAt raw signalQuality.key 1 with
    | none => .unknown .notReported _
    | some recent => .known recent _ : NormalizedMetric Bool).reason _
  unfold rawBooleanAt rawStructMember
  cases structMember (raw.get signalQuality.key) 1 with
  | none => exact fits_of_lenient nofun nofun fun _ => rfl
  | some value =>
    cases isBool : boolIn value with
    | none =>
      simp only [Option.bind_some, isBool, boolContent]
      exact fits_of_lenient nofun (fun _ => .inl rfl) nofun
    | some =>
      simp only [Option.bind_some, isBool, boolContent]
      exact fits_of_lenient (fun _ => rfl) nofun nofun

end Helpers

/-! ### The whole observation -/

theorem named_bodies (input : ModemManagerObservationInput) : Named (bodies input) where
  distinct := by
    have names : (bodies input).map Prod.fst = allBodies.map Body.name := rfl
    rw [names]
    decide
  plain := by
    intro body mem
    obtain ⟨body, -, rfl⟩ := List.mem_map.mp mem
    show fullStop ∉ body.name
    cases body <;> decide

theorem get_body (input : ModemManagerObservationInput) (body : Body) (field : JsString) :
    (mergeBodies (bodies input)).get (rawKey body.name field) =
      (input.body body).bind (·.get field) := by
  have mem : (body.name, input.body body) ∈ bodies input := by
    apply List.mem_map_of_mem
    cases body <;> decide
  exact get_mergeBodies (named_bodies input) mem field

theorem get_raw (input : ModemManagerObservationInput) (name : FieldName) :
    (mergeBodies (bodies input)).get name.key = fieldOf input name :=
  get_body input name.body name.field

/-- The diagnostics are the bodies, and each metric tells why it has no value. -/
structure KeepsApart (input : ModemManagerObservationInput)
    (observation : NormalizedModemObservation) : Prop where
  union : ∀ (body : Body) field, observation.diagnostics.raw.get (rawKey body.name field) =
    (input.body body).bind (·.get field)
  onlyUnion : ∀ key ∈ observation.diagnostics.raw.keys,
    ∃ (body : Body) (field : JsString), key = rawKey body.name field
  partitions : Partitions observation.diagnostics
  reasons : ∀ metric : FieldMetric, Fits (metric.content input) (input.body metric.body).isSome
    metric.body.tellsUnread metric.placesAll (metric.noteField input) (metric.reason observation)
    observation.diagnostics.notes

section Whole

variable (input : ModemManagerObservationInput)

theorem normalizeRadio_notes : (normalizeRadio context raw).notes =
    (decodedLabel context raw state decodeMmState).notes ++
      ((decodedLabel context raw registrationState decodeRegistrationState).notes ++
        ((normalizeAccessTechnologies context raw).notes ++
          ((normalizeModeLabel context raw).notes ++
            ((registrationString context raw operatorName).notes ++
              ((registrationString context raw operatorCode).notes ++ []))))) := rfl

theorem normalizeSignal_notes (signalRead : Bool) :
    (normalizeSignal context raw signalRead).notes =
      (extended context raw signalRead rssi rssi.dicts).notes ++
        ((extended context raw signalRead rsrp rsrp.dicts).notes ++
          ((extended context raw signalRead rsrq rsrq.dicts).notes ++
            ((extended context raw signalRead snr snr.dicts).notes ++
              ((extended context raw signalRead sinr sinr.dicts).notes ++ [])))) := rfl

theorem normalizeSim_notes (simRead : Bool) : (normalizeSim context raw simRead).notes =
    (decodedOptional context raw unlockRequired decodeUnlockRequired .notReported).notes ++
      ((decodedOptional context raw simType decodeSimType (missing simRead)).notes ++
        ((decodedOptional context raw esimStatus decodeEsimStatus (missing simRead)).notes ++
          [])) := rfl

theorem normalizeMetrics_notes : (normalizeMetrics context raw input).notes =
    (normalizeRadio context raw).notes ++
      ((normalizeSignal context raw input.signal.isSome).notes ++
        ((normalizeSim context raw input.sim.isSome).notes ++
          ((normalizeCell context raw input.location.isSome).notes ++ []))) := rfl

theorem unread_fieldOf {name : FieldName} (unread : (input.body name.body).isSome = false) :
    fieldOf input name = none := by
  have isNone : input.body name.body = none := by simpa using unread
  rw [fieldOf, isNone]
  rfl

theorem signalSource_none {lookup : FieldName → Option RawFieldValue}
    {metric : ExtendedSignalMetric} (flat : lookup metric.flat = none) {dicts : List FieldName}
    (empty : ∀ dict ∈ dicts, lookup dict = none) :
    signalSource lookup metric dicts = (none, none) := by
  induction dicts with
  | nil => rw [signalSource, flat]
  | cons dict dicts ih =>
    rw [signalSource, empty dict List.mem_cons_self]
    exact ih fun other mem => empty other (List.mem_cons_of_mem _ mem)

/-- The metrics of the Signal interface. -/
theorem extended_fits (metric : ExtendedSignalMetric)
    (names : ∀ name ∈ metric.flat :: metric.dicts, name.body = .signal) :
    Fits (numberContent (signalSource (fieldOf input) metric metric.dicts).1) input.signal.isSome
      true true (signalSource (fieldOf input) metric metric.dicts).2
      (extended context (mergeBodies (bodies input)) input.signal.isSome metric
        metric.dicts).value.reason
      (extended context (mergeBodies (bodies input)) input.signal.isSome metric
        metric.dicts).notes := by
  have told := extended_tells context (mergeBodies (bodies input)) input.signal.isSome metric
    metric.dicts
  rw [funext (get_raw input)] at told
  apply told.fits
  intro unread
  have none : ∀ name ∈ metric.flat :: metric.dicts, fieldOf input name = none := by
    intro name mem
    apply unread_fieldOf
    rw [names name mem]
    exact unread
  rw [signalSource_none (none _ List.mem_cons_self) fun dict mem =>
    none dict (List.mem_cons_of_mem _ mem)]
  rfl

theorem enumContent_fits {name : FieldName} {isNamed : Option Double → Bool} {tells : Bool}
    {reading : Reading (NormalizedMetric JsString)}
    (told : Tells reading (input.body name.body).isSome tells (some name.key)
      (enumContent isNamed ((mergeBodies (bodies input)).get name.key))) :
    Fits (enumContent isNamed (fieldOf input name)) (input.body name.body).isSome tells true
      (some name.key) reading.value.reason reading.notes := by
  rw [get_raw] at told
  apply told.fits
  intro unread
  rw [unread_fieldOf input unread]
  rfl

theorem cellContent_fits {part : Mm3gppLacCi → JsString} {metric : NormalizedMetric JsString}
    {notes : List ObservationDiagnosticNote}
    (told : Tells ⟨metric, [], notes⟩ input.location.isSome true (some lacCi.key)
      (cellContent part ((mergeBodies (bodies input)).get lacCi.key))) :
    Fits (cellContent part (fieldOf input lacCi)) input.location.isSome true true
      (some lacCi.key) metric.reason notes := by
  rw [get_raw] at told
  apply told.fits
  intro unread
  have isNone : fieldOf input lacCi = none := unread_fieldOf input unread
  rw [isNone]
  rfl

theorem diagnostics_notes : (normalizeModemManager context input).diagnostics.notes =
    (normalizeRadio context (mergeBodies (bodies input))).notes ++
      ((normalizeSignal context (mergeBodies (bodies input)) input.signal.isSome).notes ++
        ((normalizeSim context (mergeBodies (bodies input)) input.sim.isSome).notes ++
          ((normalizeCell context (mergeBodies (bodies input)) input.location.isSome).notes ++
            []))) :=
  normalizeMetrics_notes context (mergeBodies (bodies input)) input

theorem reasons_fit (metric : FieldMetric) :
    Fits (metric.content input) (input.body metric.body).isSome metric.body.tellsUnread
      metric.placesAll (metric.noteField input)
      (metric.reason (normalizeModemManager context input))
      (normalizeModemManager context input).diagnostics.notes := by
  rw [diagnostics_notes, normalizeRadio_notes, normalizeSignal_notes, normalizeSim_notes]
  cases metric with
  | modemState =>
    have fits := enumContent_fits input (decodedLabel_tells context _ state decodeMmState)
    exact (fits.left _).left _
  | registration =>
    have fits := enumContent_fits input
      (decodedLabel_tells context _ registrationState decodeRegistrationState)
    exact ((fits.left _).right _).left _
  | accessTechnologies =>
    have fits := accessTechnologies_fits context (mergeBodies (bodies input)) input.modem.isSome
    rw [get_raw] at fits
    exact (((fits.left _).right _).right _).left _
  | modeLabel =>
    have fits := modeLabel_fits context (mergeBodies (bodies input)) input.modem.isSome
    rw [get_raw] at fits
    exact ((((fits.left _).right _).right _).right _).left _
  | operatorName =>
    have fits := registrationString_fits context (mergeBodies (bodies input))
      operatorName input.modem3gpp.isSome
    rw [get_raw] at fits
    exact (((((fits.left _).right _).right _).right _).right _).left _
  | operatorCode =>
    have fits := registrationString_fits context (mergeBodies (bodies input)) operatorCode
      input.modem3gpp.isSome
    rw [get_raw] at fits
    exact ((((((fits.left _).right _).right _).right _).right _).right _).left _
  | quality =>
    have fits := quality_fits context (mergeBodies (bodies input)) input.signal.isSome
      input.modem.isSome
    rw [get_raw] at fits
    exact fits.mono (List.nil_subset _)
  | qualityRecent =>
    have fits := qualityRecent_fits context (mergeBodies (bodies input)) input.signal.isSome
      input.modem.isSome
    rw [get_raw] at fits
    exact fits.mono (List.nil_subset _)
  | dbm =>
    have fits := extended_fits context input rssi (by decide)
    exact ((fits.left _).left _).right _
  | rsrp =>
    have fits := extended_fits context input rsrp (by decide)
    exact (((fits.left _).right _).left _).right _
  | rsrq =>
    have fits := extended_fits context input rsrq (by decide)
    exact ((((fits.left _).right _).right _).left _).right _
  | snr =>
    have fits := extended_fits context input snr (by decide)
    exact (((((fits.left _).right _).right _).right _).left _).right _
  | sinr =>
    have fits := extended_fits context input sinr (by decide)
    exact ((((((fits.left _).right _).right _).right _).right _).left _).right _
  | lockRequired =>
    have absent : MetricUnknownReason.notReported =
      if false && !(input.body unlockRequired.body).isSome then .notObserved
      else .notReported := rfl
    have fits := enumContent_fits input
      (decodedOptional_tells context _ unlockRequired decodeUnlockRequired absent)
    exact (((fits.left _).left _).right _).right _
  | kind =>
    have fits := enumContent_fits input
      (decodedOptional_tells context _ simType decodeSimType (missing_eq _))
    exact ((((fits.left _).right _).left _).right _).right _
  | esimStatus =>
    have fits := enumContent_fits input
      (decodedOptional_tells context _ esimStatus decodeEsimStatus (missing_eq _))
    exact (((((fits.left _).right _).right _).left _).right _).right _
  | cellId =>
    have fits := cellContent_fits input (normalizeCell_tells context _ _).1
    exact (((fits.left _).right _).right _).right _
  | tac =>
    have fits := cellContent_fits input (normalizeCell_tells context _ _).2
    exact (((fits.left _).right _).right _).right _

/-- Each metric of an observation tells why it has no value, and nothing that was read is lost. -/
theorem keeps_apart : ∃ observation,
    (normalizeModemManagerObservation context input).reading = .fresh observation ∧
      KeepsApart input observation := by
  refine ⟨normalizeModemManager context input, rfl, get_body input, ?_, partitions _ _ _ _,
    reasons_fit context input⟩
  intro key mem
  obtain ⟨body, isBody, field, rfl⟩ := keys_mergeBodies (named_bodies input) mem
  obtain ⟨body, -, rfl⟩ := List.mem_map.mp isBody
  exact ⟨body, field, rfl⟩

end Whole

def benchContext : NormalizationContext where
  stableKey := js "modem-1"
  generation := 1
  sourceEpoch := 1
  observedAt := 0
  authority := none

/-- Only the Sim interface was read; its eSIM status is the one that ModemManager calls unknown. -/
def unknownEsim : ModemManagerObservationInput where
  modem := none
  modem3gpp := none
  sim := some (.ofItems [(js "EsimStatus", .number (.finite 0))])
  signal := none
  location := none

/-- The registration of an interface that was not read is not reported, and an unknown eSIM status
is malformed. -/
theorem unread_not_told :
    unknownEsim.modem3gpp = none ∧
      (normalizeModemManager benchContext unknownEsim).radio.registration.reason =
        some .notReported ∧
      (normalizeModemManager benchContext unknownEsim).sim.esimStatus.reason = some .malformed :=
  ⟨rfl, rfl, rfl⟩

end ModemManager

end ModemStack.Observations
