import ModemStack.Domain.MmEnums
import ModemStack.HuaweiHilink.Protocol
import ModemStack.Observations.RawRecord

/-!
The bodies of the router APIs, read twice: by the parsers of signals and details, and field for
field into raw records.

`jsonParse` is the document that a text is, its members as they are written. What an object that
is built from it looks like is `asBuilt`.
-/

namespace ModemStack.Observations

open ModemStack.Data ModemStack.Domain ModemStack.HuaweiHilink ModemStack.Text

/-! ### JSON bodies -/

/-- The own properties of an object with these members. The last value of a key counts. -/
def ownEntries {α : Type} (members : List (JsString × α)) : List (JsString × α) :=
  propertyOrder (OrderedMap.ofItems members).items

theorem ownEntries_nodup {α : Type} (members : List (JsString × α)) :
    ((ownEntries members).map Prod.fst).Nodup :=
  ((propertyOrder_perm _).map Prod.fst).nodup_iff.mpr (OrderedMap.nodup_ofItems members)

mutual

/-- The document with the members of its objects as they are seen. -/
def asBuilt : Json Double → Json Double
  | .null => .null
  | .bool value => .bool value
  | .number value => .number value
  | .string value => .string value
  | .array items => .array (asBuiltItems items)
  | .object members => .object (ownEntries (asBuiltMembers members))

def asBuiltItems : List (Json Double) → List (Json Double)
  | [] => []
  | item :: rest => asBuilt item :: asBuiltItems rest

def asBuiltMembers : List (JsString × Json Double) → List (JsString × Json Double)
  | [] => []
  | (key, value) :: rest => (key, asBuilt value) :: asBuiltMembers rest

end

mutual

/-- An object is kept as its text. -/
def normalizeRawValue : Json Double → RawFieldValue
  | .null => .null
  | .bool value => .bool value
  | .number value => .number value
  | .string value => .string value
  | .array items => .array (normalizeRawItems items)
  | .object members => .string (stringify numberText (.object members))

def normalizeRawItems : List (Json Double) → List RawFieldValue
  | [] => []
  | item :: rest => normalizeRawValue item :: normalizeRawItems rest

end

/-- The fields of an object under their own names. -/
def rawFields (members : List (JsString × Json Double)) : List (JsString × RawFieldValue) :=
  members.map fun entry => (entry.1, normalizeRawValue entry.2)

/-- `out[field] = value`, one after another; `__proto__` makes no field. -/
def assigned (fields : List (JsString × RawFieldValue)) : RawFieldRecord :=
  .ofItems (fields.filter fun entry => entry.1 ≠ JsValue.protoKey)

/-- A value that a flat record may hold. -/
inductive FlatValue where
  | string (value : JsString)
  | number (value : Double)

/-- `String(value)` -/
def FlatValue.text : FlatValue → JsString
  | .string value => value
  | .number value => value.text

def flatValue : Json Double → Option FlatValue
  | .string value => some (.string value)
  | .number value => (finiteDouble value).map .number
  | _ => none

abbrev FlatRecord : Type := List (JsString × FlatValue)

/-- `flatRecordSchema` -/
def flatRecord : Json Double → Option FlatRecord
  | .object members =>
    (members.filter fun entry => entry.1 ≠ JsValue.protoKey).mapM fun entry =>
      (flatValue entry.2).map (Prod.mk entry.1)
  | _ => none

structure UfiBody where
  reply : JsString
  params : Option FlatRecord

/-- `ufiBodySchema` -/
def ufiBody : Json Double → Option UfiBody
  | .object members =>
    match OrderedMap.getItem (js "reply") members with
    | some (.string reply) =>
      match OrderedMap.getItem (js "params") members with
      | none => some ⟨reply, none⟩
      | some params => (flatRecord params).map fun record => ⟨reply, some record⟩
    | _ => none
  | _ => none

section Json

variable (jsonParse : JsString → Option (Json Double))

/-- `JSON.parse` -/
def parsedJson (body : JsString) : Option (Json Double) := (jsonParse body).map asBuilt

def parseJsonObject (body : JsString) : Option (List (JsString × Json Double)) :=
  match parsedJson jsonParse body with
  | some (.object members) => some members
  | _ => none

def parseJsonRecord (body : JsString) : Option RawFieldRecord :=
  (parseJsonObject jsonParse body).map fun members => assigned (rawFields members)

def parseFlatRecord (body : JsString) : Option FlatRecord :=
  (parsedJson jsonParse body).bind flatRecord

def parseUfiBody (body : JsString) : Option UfiBody := (parsedJson jsonParse body).bind ufiBody

end Json

/-- The fields of `{reply, params}`, those of `params` under their own names. -/
def envelopeFields (members : List (JsString × Json Double)) : List (JsString × RawFieldValue) :=
  members.flatMap fun entry =>
    match entry with
    | (key, .object params) =>
      if key = js "params" then rawFields params else rawFields [(key, .object params)]
    | entry => rawFields [entry]

def flattenUfiEnvelope (parsed : Option (List (JsString × Json Double))) : RawFieldRecord :=
  assigned (envelopeFields (parsed.getD []))

/-! ### XML bodies -/

def isTagStart (c : UInt16) : Bool := isAsciiLetter c || c = 0x5F

def isTagUnit (c : UInt16) : Bool := isTagStart c || isDigit c || c = fullStop || c = minusSign

/-- `<([A-Za-z_][\w.-]*)>([^<]*)<\/\1>` at the head of the body: what it captures. -/
def leafAt : JsString → Option (JsString × JsString)
  | bracket :: first :: rest =>
    let more := rest.takeWhile isTagUnit
    match rest.drop more.length with
    | closing :: inner =>
      let text := inner.takeWhile (· ≠ 0x3C)
      if bracket = 0x3C ∧ isTagStart first ∧ closing = 0x3E ∧
          closeTag (first :: more) <+: inner.drop text.length then
        some (first :: more, text)
      else none
    | [] => none
  | _ => none

/-- All matches. Code units that a match has taken are skipped. -/
def leaves : (skipped : Nat) → JsString → List (JsString × JsString)
  | _, [] => []
  | skipped + 1, _ :: rest => leaves skipped rest
  | 0, c :: rest =>
    match leafAt (c :: rest) with
    | some leaf =>
      leaf :: leaves
        ((openTag leaf.1).length + leaf.2.length + (closeTag leaf.1).length - 1) rest
    | none => leaves 0 rest

/-- The name of a leaf, by how often its tag has come. -/
def leafField (tag : JsString) (count : Nat) : JsString :=
  if count = 1 then tag else tag ++ js "#" ++ printNat count

def numberLeaves (seen : OrderedMap JsString Nat) :
    List (JsString × JsString) → List (JsString × RawFieldValue)
  | [] => []
  | (tag, text) :: rest =>
    let count := (seen.get tag).getD 0 + 1
    (leafField tag count, .string (trim text)) :: numberLeaves (seen.set tag count) rest

/-- The leaves of a body, numbered. -/
def xmlFields (body : JsString) : List (JsString × RawFieldValue) :=
  numberLeaves .empty (leaves 0 body)

def flattenXmlBody (body name : JsString) : RawFieldRecord :=
  .ofItems ((xmlFields body).map fun entry => (rawKey name entry.1, entry.2))

/-! ### Signals -/

inductive RouterSignalUnknownReason where
  | unsupported
  | notReported
  | malformed
  | authExpired
  | unreachable
deriving DecidableEq

inductive RouterSignalMetric where
  | known (value : Double)
  | unknown (reason : RouterSignalUnknownReason)

inductive RouterSignalProvenance where
  | hilinkAdminApi
  | zteGoform
  | ufiHimiapi

inductive RouterSignalFreshness where
  | live
  | unknown

structure RouterSignalModel where
  provenance : RouterSignalProvenance
  freshness : RouterSignalFreshness
  bars : RouterSignalMetric
  maxBars : RouterSignalMetric
  dbm : RouterSignalMetric
  rsrp : RouterSignalMetric
  rsrq : RouterSignalMetric
  snr : RouterSignalMetric
  sinr : RouterSignalMetric

/-- A number at the head of a value's text. -/
def numericMetric (value : Option FlatValue) : RouterSignalMetric :=
  match value with
  | none => .unknown .notReported
  | some value =>
    if trim value.text = [] then .unknown .notReported
    else
      match finiteDouble (parseFloat value.text) with
      | some parsed => .known parsed
      | none => .unknown .malformed

/-- The code of a session that has ended. -/
def authRefusalCode : JsString := js "125002"

def parseHilinkSignal (status signal : JsString) : RouterSignalModel :=
  let authStatus : Bool := parseHilinkXmlValue status (js "code") = some authRefusalCode
  let authSignal : Bool := parseHilinkXmlValue signal (js "code") = some authRefusalCode
  let statusMetric := fun tag =>
    if authStatus then .unknown .authExpired
    else numericMetric ((parseHilinkXmlValue status tag).map .string)
  let metric := fun tag =>
    if authSignal then .unknown .authExpired
    else numericMetric ((parseHilinkXmlValue signal tag).map .string)
  { provenance := .hilinkAdminApi
    freshness := if authStatus && authSignal then .unknown else .live
    bars := statusMetric (js "SignalIcon")
    maxBars := statusMetric (js "maxsignal")
    dbm := metric (js "rssi")
    rsrp := metric (js "rsrp")
    rsrq := metric (js "rsrq")
    snr := .unknown .unsupported
    sinr := metric (js "sinr") }

section Signals

variable (jsonParse : JsString → Option (Json Double))

def parseZteSignal (body : JsString) : RouterSignalModel :=
  let record := parseFlatRecord jsonParse body
  let metric := fun key =>
    match record with
    | none => .unknown .malformed
    | some record => numericMetric (OrderedMap.getItem key record)
  let bars := metric (js "signalbar")
  { provenance := .zteGoform
    freshness := if record.isNone then .unknown else .live
    bars
    maxBars := match bars with
      | .known _ => .known (.finite 5)
      | .unknown _ => .unknown .notReported
    dbm := metric (js "rssi")
    rsrp := metric (js "lte_rsrp")
    rsrq := metric (js "lte_rsrq")
    snr := metric (js "lte_snr")
    sinr := .unknown .unsupported }

def param (body : Option UfiBody) (key : JsString) : Option FlatValue :=
  (body.bind UfiBody.params).bind (OrderedMap.getItem key)

def repliesWith (reply : JsString) (body : Option UfiBody) : Bool :=
  body.map UfiBody.reply = some reply

def parseUfiSignal (sysinfo overview status : JsString) : RouterSignalModel :=
  let sysinfo := parseUfiBody jsonParse sysinfo
  let overview := parseUfiBody jsonParse overview
  let status := parseUfiBody jsonParse status
  let authExpired := [sysinfo, overview, status].all (repliesWith (js "SessionOut"))
  let answered := [sysinfo, overview, status].any (repliesWith (js "ok"))
  let value := ((param sysinfo (js "SIGNAL")).or (param overview (js "SIGNAL"))).or
    (param status (js "signalStrength"))
  { provenance := .ufiHimiapi
    freshness := if answered then .live else .unknown
    bars := .unknown .unsupported
    maxBars := .unknown .unsupported
    dbm := if authExpired then .unknown .authExpired
      else if answered then numericMetric value else .unknown .malformed
    rsrp := .unknown .unsupported
    rsrq := .unknown .unsupported
    snr := .unknown .unsupported
    sinr := .unknown .unsupported }

end Signals

/-! ### Details -/

abbrev RouterDetails : Type := OrderedMap JsString JsString

/-- The vendors' own texts for what is not set. -/
def placeholders : List JsString := [js "-", js "--", js "n/a", js "N/A"]

def stated (value : Option FlatValue) : Option JsString :=
  (value.map fun value => trim value.text).filter fun normalized =>
    normalized ≠ [] ∧ normalized ∉ placeholders

def compact (entries : List (JsString × Option JsString)) : Option RouterDetails :=
  let result := OrderedMap.ofItems
    (entries.filterMap fun entry => entry.2.map (Prod.mk entry.1))
  if result.keys = [] then none else some result

section Details

variable (jsonParse : JsString → Option (Json Double))

/-- The table of a record's details. -/
def zteDetails (value : FlatRecord) : List (JsString × Option JsString) :=
  let field := fun key => stated (OrderedMap.getItem (js key) value)
  [ (js "network_type", field "network_type"),
    (js "provider", ((field "network_provider_fullname").or (field "network_provider")).or
      (field "provider")),
    (js "cell_id", field "cell_id"),
    (js "roaming", field "simcard_roam"),
    (js "mcc", field "rmcc"),
    (js "mnc", field "rmnc"),
    (js "pci", field "lte_pci"),
    (js "band", (field "lte_band").or (field "band")),
    (js "network_band", field "wan_active_band"),
    (js "carrier_aggregation", field "wan_lte_ca"),
    (js "pcell_arfcn", field "lte_ca_pcell_arfcn"),
    (js "pcell_band", field "lte_ca_pcell_band"),
    (js "pcell_bandwidth", field "lte_ca_pcell_bandwidth"),
    (js "scell_arfcn", field "lte_ca_scell_arfcn"),
    (js "scell_band", field "lte_ca_scell_band"),
    (js "scell_bandwidth", field "lte_ca_scell_bandwidth"),
    (js "monthly_tx_bytes", field "monthly_tx_bytes"),
    (js "monthly_rx_bytes", field "monthly_rx_bytes"),
    (js "monthly_time", field "monthly_time"),
    (js "monthly_period", field "date_month"),
    (js "session_tx_bytes", field "realtime_tx_bytes"),
    (js "session_rx_bytes", field "realtime_rx_bytes"),
    (js "session_tx_rate", field "realtime_tx_thrpt"),
    (js "session_rx_rate", field "realtime_rx_thrpt"),
    (js "session_time", field "realtime_time")]

def parseZteDetails (body : JsString) : Option RouterDetails :=
  (parseFlatRecord jsonParse body).bind fun value => compact (zteDetails value)

def ufiDetails (overview sysinfo product : Option UfiBody) : List (JsString × Option JsString) :=
  let field := fun body key => stated (param body (js key))
  [ (js "product", (field product "productname").or (field product "ProductName")),
    (js "ssid", field overview "SSID"),
    (js "wan_ip", field overview "WANIP"),
    (js "imsi", field overview "IMSI"),
    (js "iccid", field overview "ICCID"),
    (js "web_version", field overview "WEBVER"),
    (js "cell_id", field sysinfo "cellid"),
    (js "station_id", field sysinfo "bsid"),
    (js "cpu_temp", field sysinfo "cputemp"),
    (js "wifi_clients", field sysinfo "wifinum"),
    (js "eth_clients", field sysinfo "ethnum")]

def parseUfiDetails (overview sysinfo produceInfo : Option JsString) : Option RouterDetails :=
  compact (ufiDetails (parseUfiBody jsonParse (overview.getD []))
    (parseUfiBody jsonParse (sysinfo.getD [])) (parseUfiBody jsonParse (produceInfo.getD [])))

end Details

/-! ### What the flat records keep -/

/-- The value that a parser of flat records makes of a raw one. -/
def flatField : RawFieldValue → Option FlatValue
  | .string value => some (.string value)
  | .number value => some (.number value)
  | _ => none

/-- No two fields of the name differ. -/
def Single (fields : List (JsString × RawFieldValue)) (key : JsString) : Prop :=
  ∀ first ∈ fields, ∀ second ∈ fields, first.1 = key → second.1 = key → first.2 = second.2

variable {key : JsString} {flat : FlatValue}

theorem get_assigned {fields : List (JsString × RawFieldValue)} {value : RawFieldValue}
    (mem : (key, value) ∈ fields) (named : key ≠ JsValue.protoKey) (single : Single fields key) :
    (assigned fields).get key = some value := by
  have kept : (key, value) ∈ fields.filter fun entry => entry.1 ≠ JsValue.protoKey := by
    rw [List.mem_filter]
    exact ⟨mem, decide_eq_true named⟩
  have present : (assigned fields).get key ≠ none := OrderedMap.get_ofItems_ne_none kept
  obtain ⟨held, isHeld⟩ := Option.ne_none_iff_exists'.mp present
  have assignedOnce := List.mem_of_mem_filter (OrderedMap.mem_of_get_ofItems isHeld)
  have same : held = value := single _ assignedOnce _ mem rfl rfl
  rw [isHeld, same]

theorem single_of_nodup {fields : List (JsString × RawFieldValue)}
    (distinct : (fields.map Prod.fst).Nodup) (key : JsString) : Single fields key := by
  intro first isFirst second isSecond sameFirst sameSecond
  rw [List.inj_on_of_nodup_map distinct isFirst isSecond (sameFirst.trans sameSecond.symm)]

variable {members : List (JsString × Json Double)}

theorem mem_rawFields {entry : JsString × Json Double} (mem : entry ∈ members) :
    (entry.1, normalizeRawValue entry.2) ∈ rawFields members :=
  List.mem_map_of_mem mem

theorem rawFields_keys (members : List (JsString × Json Double)) :
    (rawFields members).map Prod.fst = members.map Prod.fst := by
  rw [rawFields, List.map_map]
  rfl

theorem flatField_normalizeRawValue {value : Json Double} (isFlat : flatValue value = some flat) :
    flatField (normalizeRawValue value) = some flat := by
  cases value with
  | string => simpa [flatValue, flatField, normalizeRawValue] using isFlat
  | number number =>
    obtain ⟨finite, isFinite, rfl⟩ := Option.map_eq_some_iff.mp isFlat
    have same : finite = number := by
      cases number <;> simp [finiteDouble] at isFinite <;> exact isFinite.symm
    rw [same]
    rfl
  | null | bool | array | object => cases isFlat

theorem mem_mapM {α β : Type} {f : α → Option β} {items : List α} {values : List β}
    (mapped : items.mapM f = some values) {value : β} (mem : value ∈ values) :
    ∃ item ∈ items, f item = some value := by
  induction items generalizing values with
  | nil =>
    cases mapped
    cases mem
  | cons item rest ih =>
    rw [List.mapM_cons] at mapped
    obtain ⟨first, isFirst, more⟩ := Option.bind_eq_some_iff.mp mapped
    obtain ⟨others, areOthers, same⟩ := Option.bind_eq_some_iff.mp more
    cases same
    rcases List.mem_cons.mp mem with rfl | later
    · exact ⟨item, List.mem_cons_self, isFirst⟩
    · obtain ⟨found, isFound, isValue⟩ := ih areOthers later
      exact ⟨found, List.mem_cons_of_mem _ isFound, isValue⟩

/-- What a flat record holds is a member of the object. -/
theorem member_of_flatRecord {record : FlatRecord}
    (isRecord : flatRecord (.object members) = some record)
    (held : OrderedMap.getItem key record = some flat) :
    ∃ value, (key, value) ∈ members ∧ key ≠ JsValue.protoKey ∧ flatValue value = some flat := by
  obtain ⟨entry, isEntry, isMapped⟩ := mem_mapM isRecord (JsValue.mem_of_getItem held)
  obtain ⟨isMember, named⟩ := List.mem_filter.mp isEntry
  obtain ⟨_, isFlat, same⟩ := Option.map_eq_some_iff.mp isMapped
  cases same
  exact ⟨entry.2, isMember, of_decide_eq_true named, isFlat⟩

section Parsed

variable {jsonParse : JsString → Option (Json Double)} {body : JsString}

theorem parsedJson_of_object {members : List (JsString × Json Double)}
    (parsed : parseJsonObject jsonParse body = some members) :
    parsedJson jsonParse body = some (.object members) := by
  unfold parseJsonObject at parsed
  split at parsed
  · next isObject =>
    cases parsed
    exact isObject
  · cases parsed

theorem parseJsonObject_of_parsed {members : List (JsString × Json Double)}
    (parsed : parsedJson jsonParse body = some (.object members)) :
    parseJsonObject jsonParse body = some members := by
  rw [parseJsonObject, parsed]

/-- An object holds each of its keys once. -/
theorem members_nodup {members : List (JsString × Json Double)}
    (parsed : parseJsonObject jsonParse body = some members) : (members.map Prod.fst).Nodup := by
  obtain ⟨document, -, isBuilt⟩ := Option.map_eq_some_iff.mp (parsedJson_of_object parsed)
  cases document with
  | object =>
    rw [asBuilt, Json.object.injEq] at isBuilt
    rw [← isBuilt]
    exact ownEntries_nodup _
  | null | bool | number | string | array => simp [asBuilt] at isBuilt

theorem object_of_flatRecord {record : FlatRecord}
    (parsed : parseFlatRecord jsonParse body = some record) :
    ∃ members, parseJsonObject jsonParse body = some members ∧
      flatRecord (.object members) = some record := by
  obtain ⟨document, isDocument, isRecord⟩ := Option.bind_eq_some_iff.mp parsed
  cases document with
  | object members => exact ⟨members, parseJsonObject_of_parsed isDocument, isRecord⟩
  | null | bool | number | string | array => cases isRecord

theorem object_of_ufiBody {envelope : UfiBody}
    (parsed : parseUfiBody jsonParse body = some envelope) :
    ∃ members, parseJsonObject jsonParse body = some members ∧
      ufiBody (.object members) = some envelope := by
  obtain ⟨document, isDocument, isEnvelope⟩ := Option.bind_eq_some_iff.mp parsed
  cases document with
  | object members => exact ⟨members, parseJsonObject_of_parsed isDocument, isEnvelope⟩
  | null | bool | number | string | array => cases isEnvelope

end Parsed

/-- What the parser reads in the params of an envelope is a field of it. -/
theorem field_of_param {envelope : UfiBody} (isEnvelope : ufiBody (.object members) = some envelope)
    (held : param (some envelope) key = some flat) :
    ∃ value, (key, value) ∈ envelopeFields members ∧ key ≠ JsValue.protoKey ∧
      flatField value = some flat := by
  obtain ⟨record, isParams, isHeld⟩ := Option.bind_eq_some_iff.mp held
  rw [ufiBody] at isEnvelope
  split at isEnvelope
  · split at isEnvelope
    · cases isEnvelope
      cases isParams
    · next params atParams =>
      obtain ⟨flatParams, isFlat, same⟩ := Option.map_eq_some_iff.mp isEnvelope
      cases same
      cases isParams
      cases params with
      | object inner =>
        obtain ⟨value, isMember, named, isValue⟩ := member_of_flatRecord isFlat isHeld
        refine ⟨_, ?_, named, flatField_normalizeRawValue isValue⟩
        rw [envelopeFields, List.mem_flatMap]
        refine ⟨_, JsValue.mem_of_getItem atParams, ?_⟩
        show _ ∈ if js "params" = js "params" then rawFields inner else _
        rw [if_pos rfl]
        exact mem_rawFields isMember
      | null | bool | number | string | array => cases isFlat
  · cases isEnvelope

/-! ### The leaves of a body -/

theorem plain_tagUnit {c : UInt16} (isUnit : isTagUnit c = true) :
    c ≠ 0x3C ∧ c ≠ 0x3E ∧ c ≠ 0x23 := by
  refine ⟨?_, ?_, ?_⟩ <;> rintro rfl <;> exact absurd isUnit (by decide)

theorem closeTag_eq (tag : JsString) : closeTag tag = 0x3C :: 0x2F :: (tag ++ [0x3E]) := by
  rw [closeTag, List.append_assoc]
  rfl

theorem openTag_eq (tag : JsString) : openTag tag = 0x3C :: (tag ++ [0x3E]) := by
  rw [openTag, List.append_assoc]
  rfl

theorem takeWhile_append_drop (test : UInt16 → Bool) (text : JsString) :
    text.takeWhile test ++ text.drop (text.takeWhile test).length = text :=
  List.prefix_iff_eq_append.mp (List.takeWhile_prefix test)

/-- A leaf is written out at the head of the body. -/
theorem leafAt_some {body tag text : JsString} (isLeaf : leafAt body = some (tag, text)) :
    (∃ after, body = 0x3C :: (tag ++ 0x3E :: (text ++ (closeTag tag ++ after)))) ∧
      (∀ c ∈ tag, isTagUnit c = true) ∧ ∀ c ∈ text, c ≠ 0x3C := by
  unfold leafAt at isLeaf
  split at isLeaf
  · next bracket first rest =>
    dsimp only at isLeaf
    split at isLeaf
    · next closing inner atClosing =>
      split at isLeaf
      · next written =>
        obtain ⟨rfl, starts, rfl, after, closed⟩ := written
        cases isLeaf
        refine ⟨⟨after, ?_⟩, ?_, ?_⟩
        · have value := takeWhile_append_drop (· ≠ 0x3C) inner
          have name := takeWhile_append_drop isTagUnit rest
          rw [← closed] at value
          rw [atClosing] at name
          rw [value, List.cons_append, name]
        · intro c mem
          rcases List.mem_cons.mp mem with rfl | more
          · simp [isTagUnit, starts]
          · exact List.mem_takeWhile_imp more
        · intro c mem
          have differs := List.mem_takeWhile_imp mem
          exact of_decide_eq_true differs
      · cases isLeaf
    · cases isLeaf
  · cases isLeaf

theorem leafAt_none {first : UInt16} (rest : JsString) (differs : first ≠ 0x3C) :
    leafAt (first :: rest) = none := by
  cases isLeaf : leafAt (first :: rest) with
  | none => rfl
  | some =>
    obtain ⟨⟨after, written⟩, -⟩ := leafAt_some isLeaf
    exact absurd (List.cons.inj written).1 differs

theorem leafAt_closing (rest : JsString) : leafAt (0x3C :: 0x2F :: rest) = none := by
  cases isLeaf : leafAt (0x3C :: 0x2F :: rest) with
  | none => rfl
  | some leaf =>
    obtain ⟨⟨after, written⟩, units, -⟩ := leafAt_some isLeaf
    have second := (List.cons.inj written).2
    cases named : leaf.1 with
    | nil =>
      rw [named] at second
      exact absurd (List.cons.inj second).1 (by decide)
    | cons c more =>
      rw [named] at second
      have isUnit := units c (named ▸ List.mem_cons_self)
      rw [← (List.cons.inj second).1] at isUnit
      exact absurd isUnit (by decide)

/-- No leaf begins where there is no bracket. -/
theorem tails_plain {before : JsString} (plain : ∀ c ∈ before, c ≠ 0x3C) (after : JsString) :
    (before ++ after).tails.filterMap leafAt = after.tails.filterMap leafAt := by
  induction before with
  | nil => rfl
  | cons c rest ih =>
    rw [List.cons_append, List.tails, List.filterMap_cons,
      leafAt_none _ (plain c List.mem_cons_self)]
    exact ih fun d mem => plain d (List.mem_cons_of_mem _ mem)

theorem plain_tagEnd {tag : JsString} (units : ∀ c ∈ tag, isTagUnit c = true) :
    ∀ c ∈ tag ++ [0x3E], c ≠ 0x3C := by
  intro c mem
  rcases List.mem_append.mp mem with isUnit | isBracket
  · exact (plain_tagUnit (units c isUnit)).1
  · rw [List.mem_singleton.mp isBracket]
    decide

/-- A match takes no place at which another leaf begins. -/
theorem tails_in_leaf {tag text : JsString} (units : ∀ c ∈ tag, isTagUnit c = true)
    (plain : ∀ c ∈ text, c ≠ 0x3C) (after : JsString) :
    (tag ++ 0x3E :: (text ++ (closeTag tag ++ after))).tails.filterMap leafAt =
      after.tails.filterMap leafAt := by
  have plainTag := plain_tagEnd units
  have opened : tag ++ 0x3E :: (text ++ (closeTag tag ++ after)) =
      (tag ++ [0x3E]) ++ (text ++ (closeTag tag ++ after)) := by simp
  have closed : closeTag tag ++ after = 0x3C :: 0x2F :: ((tag ++ [0x3E]) ++ after) := by
    rw [closeTag_eq, List.cons_append, List.cons_append]
  rw [opened, tails_plain plainTag, tails_plain plain, closed, List.tails, List.filterMap_cons,
    leafAt_closing]
  show ([0x2F] ++ ((tag ++ [0x3E]) ++ after)).tails.filterMap leafAt = _
  rw [tails_plain (List.forall_mem_singleton.mpr (by decide)), tails_plain plainTag]

theorem leaves_drop (body : JsString) : ∀ skipped,
    leaves skipped body = (body.drop skipped).tails.filterMap leafAt := by
  induction body with
  | nil =>
    intro skipped
    rw [leaves, List.drop_nil]
    rfl
  | cons c rest ih =>
    intro skipped
    cases skipped with
    | succ => rw [leaves, ih, List.drop_succ_cons]
    | zero =>
      rw [leaves, List.drop_zero, List.tails, List.filterMap_cons]
      cases isLeaf : leafAt (c :: rest) with
      | none => simpa using ih 0
      | some leaf =>
        obtain ⟨⟨after, written⟩, units, plain⟩ := leafAt_some isLeaf
        have isRest := (List.cons.inj written).2
        have taken : (openTag leaf.1).length + leaf.2.length + (closeTag leaf.1).length - 1 =
            (leaf.1 ++ 0x3E :: (leaf.2 ++ closeTag leaf.1)).length := by
          rw [openTag_eq, closeTag_eq]
          simp
          omega
        have dropped : rest.drop ((openTag leaf.1).length + leaf.2.length +
            (closeTag leaf.1).length - 1) = after := by
          have whole : rest = (leaf.1 ++ 0x3E :: (leaf.2 ++ closeTag leaf.1)) ++ after := by
            rw [isRest]
            simp
          rw [taken, whole, List.drop_left]
        dsimp only
        rw [ih, dropped, isRest, tails_in_leaf units plain]

/-- The leaves are found wherever they begin. -/
theorem leaves_eq (body : JsString) : leaves 0 body = body.tails.filterMap leafAt := by
  rw [leaves_drop, List.drop_zero]

theorem afterTag_append (tag rest : JsString) : afterTag tag (tag ++ rest) = some rest := by
  rw [afterTag, List.take_left, if_pos rfl, List.drop_left]

/-- The parser finds a leaf by its tag. -/
theorem elementAt_of_leaf {body tag text : JsString} (isLeaf : leafAt body = some (tag, text)) :
    elementAt tag body = some text := by
  obtain ⟨⟨after, rfl⟩, -, plain⟩ := leafAt_some isLeaf
  have opened : 0x3C :: (tag ++ 0x3E :: (text ++ (closeTag tag ++ after))) =
      openTag tag ++ (text ++ (closeTag tag ++ after)) := by
    rw [openTag_eq]
    simp
  have value : (text ++ (closeTag tag ++ after)).takeWhile (· ≠ 0x3C) = text := by
    have all : ∀ c ∈ text, decide (c ≠ 0x3C) = true := fun c mem => decide_eq_true (plain c mem)
    rw [List.takeWhile_append_of_pos all, closeTag_eq]
    simp
  rw [opened, elementAt, afterTag_append, Option.bind_some]
  dsimp only
  rw [value, List.drop_left, afterTag_append]
  rfl

theorem leafField_inj {tag tag' : JsString} {count count' : Nat} (plain : 0x23 ∉ tag)
    (plain' : 0x23 ∉ tag') (same : leafField tag count = leafField tag' count') :
    tag = tag' ∧ count = count' := by
  have marked (name : JsString) (n : Nat) : name ++ js "#" ++ printNat n =
      name ++ 0x23 :: printNat n := by
    rw [List.append_assoc]
    rfl
  have head (name : JsString) (plain : 0x23 ∉ name) (rest : JsString) :
      (name ++ 0x23 :: rest).takeWhile (· ≠ 0x23) = name := by
    have all : ∀ c ∈ name, decide (c ≠ 0x23) = true := fun c mem =>
      decide_eq_true fun isMark => plain (isMark ▸ mem)
    rw [List.takeWhile_append_of_pos all]
    simp
  unfold leafField at same
  split at same <;> split at same
  · next first second => exact ⟨same, first.trans second.symm⟩
  · rw [marked] at same
    exact absurd (same ▸ List.mem_append_right _ List.mem_cons_self) plain
  · rw [marked] at same
    exact absurd (same ▸ List.mem_append_right _ List.mem_cons_self) plain'
  · rw [marked, marked] at same
    have sameTag : tag = tag' := by
      rw [← head tag plain (printNat count), same, head tag' plain']
    subst sameTag
    have sameCount := (List.cons.inj (List.append_cancel_left same)).2
    exact ⟨rfl, printNat_injective sameCount⟩

section Numbered

variable {seen : OrderedMap JsString Nat} {found : List (JsString × JsString)}

/-- A number goes on from what was seen before. -/
theorem numberLeaves_key {entry : JsString × RawFieldValue}
    (mem : entry ∈ numberLeaves seen found) : ∃ leaf ∈ found, ∃ count,
      (seen.get leaf.1).getD 0 < count ∧ entry.1 = leafField leaf.1 count := by
  induction found generalizing seen with
  | nil => cases mem
  | cons leaf rest ih =>
    rcases List.mem_cons.mp mem with rfl | later
    · exact ⟨leaf, List.mem_cons_self, _, Nat.lt_succ_self _, rfl⟩
    · obtain ⟨other, isLeaf, count, above, isKey⟩ := ih later
      refine ⟨other, List.mem_cons_of_mem _ isLeaf, count, ?_, isKey⟩
      rw [OrderedMap.get_set] at above
      split_ifs at above with same
      · rw [same]
        exact Nat.lt_of_succ_lt above
      · exact above

theorem numberLeaves_nodup (plain : ∀ leaf ∈ found, 0x23 ∉ leaf.1) :
    ((numberLeaves seen found).map Prod.fst).Nodup := by
  induction found generalizing seen with
  | nil => exact List.nodup_nil
  | cons leaf rest ih =>
    have others : ∀ leaf ∈ rest, 0x23 ∉ leaf.1 := fun other mem =>
      plain other (List.mem_cons_of_mem _ mem)
    rw [numberLeaves, List.map_cons, List.nodup_cons]
    refine ⟨fun mem => ?_, ih others⟩
    obtain ⟨entry, isEntry, sameKey⟩ := List.mem_map.mp mem
    obtain ⟨other, isLeaf, count, above, isKey⟩ := numberLeaves_key isEntry
    obtain ⟨sameTag, sameCount⟩ := leafField_inj (others other isLeaf)
      (plain leaf List.mem_cons_self) (isKey.symm.trans sameKey)
    rw [sameTag, sameCount, OrderedMap.get_set, if_pos rfl] at above
    exact absurd above (Nat.lt_irrefl _)

theorem numberLeaves_values : (numberLeaves seen found).map Prod.snd =
    found.map fun leaf => .string (trim leaf.2) := by
  induction found generalizing seen with
  | nil => rfl
  | cons leaf rest ih => rw [numberLeaves, List.map_cons, List.map_cons, ih]

/-- The first leaf of a tag has the tag for its name. -/
theorem getItem_numberLeaves (plain : ∀ leaf ∈ found, 0x23 ∉ leaf.1) {tag : JsString}
    (plainTag : 0x23 ∉ tag) (unseen : seen.get tag = none) :
    OrderedMap.getItem tag (numberLeaves seen found) =
      (found.find? fun leaf => leaf.1 = tag).map fun leaf => .string (trim leaf.2) := by
  induction found generalizing seen with
  | nil => rfl
  | cons leaf rest ih =>
    have others : ∀ leaf ∈ rest, 0x23 ∉ leaf.1 := fun other mem =>
      plain other (List.mem_cons_of_mem _ mem)
    rw [numberLeaves, OrderedMap.getItem, List.find?_cons]
    by_cases same : leaf.1 = tag
    · have isFirst : leafField leaf.1 ((seen.get leaf.1).getD 0 + 1) = tag := by
        rw [same, unseen]
        rfl
      rw [if_pos isFirst, decide_eq_true same]
      rfl
    · have differs : leafField leaf.1 ((seen.get leaf.1).getD 0 + 1) ≠ tag := by
        intro isTag
        have first : leafField tag 1 = tag := rfl
        exact same (leafField_inj (plain leaf List.mem_cons_self) plainTag
          (isTag.trans first.symm)).1
      have unseen' : (seen.set leaf.1 ((seen.get leaf.1).getD 0 + 1)).get tag = none := by
        rw [OrderedMap.get_set, if_neg (Ne.symm same), unseen]
      rw [if_neg differs, decide_eq_false same]
      exact ih others unseen'

end Numbered

theorem leaves_plain {body : JsString} : ∀ leaf ∈ leaves 0 body, 0x23 ∉ leaf.1 := by
  intro leaf mem
  rw [leaves_eq] at mem
  obtain ⟨rest, -, isLeaf⟩ := List.mem_filterMap.mp mem
  obtain ⟨-, units, -⟩ := leafAt_some isLeaf
  intro marked
  exact (plain_tagUnit (units _ marked)).2.2 rfl

/-- No leaf takes another's name. -/
theorem xmlFields_nodup (body : JsString) : ((xmlFields body).map Prod.fst).Nodup :=
  numberLeaves_nodup leaves_plain

/-- The first element that the parser finds under the tag, case apart, has the tag's own case. -/
def Spelled (tag body : JsString) : Prop :=
  ∀ rest, body.tails.find? (fun rest => (elementAt tag rest).isSome) = some rest →
    (leafAt rest).map Prod.fst = some tag

theorem find_leaf {places : List JsString} {tag text : JsString}
    (spelled : ∀ rest, places.find? (fun rest => (elementAt tag rest).isSome) = some rest →
      (leafAt rest).map Prod.fst = some tag)
    (read : places.findSome? (elementAt tag) = some text) :
    (places.filterMap leafAt).find? (fun leaf => leaf.1 = tag) = some (tag, text) := by
  induction places with
  | nil => cases read
  | cons place rest ih =>
    cases found : elementAt tag place with
    | none =>
      rw [List.findSome?_cons, found] at read
      have later := ih (fun other isFirst => spelled other (by
        rw [List.find?_cons, found]
        exact isFirst)) read
      cases isLeaf : leafAt place with
      | none => rwa [List.filterMap_cons, isLeaf]
      | some leaf =>
        have differs : leaf.1 ≠ tag := by
          rintro rfl
          rw [elementAt_of_leaf isLeaf] at found
          cases found
        rw [List.filterMap_cons, isLeaf]
        dsimp only
        rw [List.find?_cons, decide_eq_false differs]
        exact later
    | some =>
      have here := spelled place (by rw [List.find?_cons, found]; rfl)
      obtain ⟨⟨name, inner⟩, isLeaf, rfl⟩ := Option.map_eq_some_iff.mp here
      rw [List.findSome?_cons, found] at read
      cases read
      rw [elementAt_of_leaf isLeaf] at found
      cases found
      rw [List.filterMap_cons, isLeaf]
      dsimp only
      rw [List.find?_cons, decide_eq_true rfl]

/-- What the parser reads under a tag is the leaf of that name. -/
theorem leaf_of_value {body tag value : JsString} (plain : 0x23 ∉ tag) (spelled : Spelled tag body)
    (read : parseHilinkXmlValue body tag = some value) : (tag, .string value) ∈ xmlFields body := by
  obtain ⟨text, isText, rfl⟩ := Option.map_eq_some_iff.mp read
  apply JsValue.mem_of_getItem
  rw [xmlFields, getItem_numberLeaves leaves_plain plain rfl, leaves_eq,
    find_leaf spelled isText]
  rfl

/-! ### What the details name -/

theorem entry_of_count {α : Type} {entries : List (JsString × α)}
    (once : (entries.map Prod.fst).count key ≤ 1) {first second : JsString × α}
    (isFirst : first ∈ entries) (isSecond : second ∈ entries) (sameFirst : first.1 = key)
    (sameSecond : second.1 = key) : first = second := by
  induction entries with
  | nil => cases isFirst
  | cons entry rest ih =>
    rw [List.map_cons, List.count_cons] at once
    by_cases here : entry.1 = key
    · have gone : key ∉ rest.map Prod.fst := by
        rw [← List.count_eq_zero]
        simp only [here, beq_self_eq_true, if_true] at once
        omega
      have isHead {other : JsString × α} (mem : other ∈ entry :: rest) (same : other.1 = key) :
          other = entry := by
        rcases List.mem_cons.mp mem with rfl | later
        · rfl
        · exact absurd (same ▸ List.mem_map_of_mem later) gone
      rw [isHead isFirst sameFirst, isHead isSecond sameSecond]
    · have inRest {other : JsString × α} (mem : other ∈ entry :: rest) (same : other.1 = key) :
          other ∈ rest := by
        rcases List.mem_cons.mp mem with rfl | later
        · exact absurd same here
        · exact later
      exact ih (by omega) (inRest isFirst sameFirst) (inRest isSecond sameSecond)

/-- A detail is the value of the one entry that its table has for it. -/
theorem entry_of_compact {entries : List (JsString × Option JsString)} {key name : JsString}
    (once : (entries.map Prod.fst).count key ≤ 1) {value : Option JsString}
    (entry : (key, value) ∈ entries)
    (held : (compact entries).bind (·.get key) = some name) : value = some name := by
  obtain ⟨details, isDetails, isHeld⟩ := Option.bind_eq_some_iff.mp held
  unfold compact at isDetails
  dsimp only at isDetails
  split at isDetails
  · cases isDetails
  · cases isDetails
    obtain ⟨stating, isEntry, isItem⟩ :=
      List.mem_filterMap.mp (OrderedMap.mem_of_get_ofItems isHeld)
    obtain ⟨stated, isStated, same⟩ := Option.map_eq_some_iff.mp isItem
    cases same
    have isOne := entry_of_count once entry isEntry rfl rfl
    rw [← isStated, ← isOne]

/-! ### Nested elements -/

/-- A name of the tag grammar. -/
structure XmlTag where
  first : UInt16
  more : JsString
  starts : isTagStart first = true
  units : ∀ c ∈ more, isTagUnit c = true

def XmlTag.name (tag : XmlTag) : JsString := tag.first :: tag.more

variable (tag : XmlTag)

theorem XmlTag.name_units : ∀ c ∈ tag.name, isTagUnit c = true := by
  intro c mem
  rcases List.mem_cons.mp mem with rfl | more
  · simp [isTagUnit, tag.starts]
  · exact tag.units c more

/-- Text without a tag in it. -/
structure PlainText where
  units : JsString
  plain : ∀ c ∈ units, c ≠ 0x3C

inductive XmlNode where
  | text (value : PlainText)
  | element (tag : XmlTag) (children : List XmlNode)

mutual

/-- The body that a node is written as. -/
def XmlNode.render : XmlNode → JsString
  | .text value => value.units
  | .element tag children => openTag tag.name ++ (renderAll children ++ closeTag tag.name)

def renderAll : List XmlNode → JsString
  | [] => []
  | node :: rest => node.render ++ renderAll rest

end

/-- The text of nodes among which there is no element. -/
def textOnly : List XmlNode → Option JsString
  | [] => some []
  | .text value :: rest => (textOnly rest).map (value.units ++ ·)
  | .element _ _ :: _ => none

mutual

/-- The elements with no element in them, in the order of the document. -/
def XmlNode.leafElements : XmlNode → List (JsString × JsString)
  | .text _ => []
  | .element tag children =>
    match textOnly children with
    | some text => [(tag.name, text)]
    | none => leafElementsAll children

def leafElementsAll : List XmlNode → List (JsString × JsString)
  | [] => []
  | node :: rest => node.leafElements ++ leafElementsAll rest

end

variable {nodes : List XmlNode}

theorem textOnly_some {text : JsString} (only : textOnly nodes = some text) :
    renderAll nodes = text ∧ ∀ c ∈ text, c ≠ 0x3C := by
  induction nodes generalizing text with
  | nil =>
    cases only
    exact ⟨rfl, nofun⟩
  | cons node rest ih =>
    cases node with
    | element => cases only
    | text value =>
      obtain ⟨more, isMore, rfl⟩ := Option.map_eq_some_iff.mp only
      obtain ⟨written, plain⟩ := ih isMore
      refine ⟨?_, ?_⟩
      · rw [renderAll, XmlNode.render, written]
      · intro c mem
        rcases List.mem_append.mp mem with here | later
        · exact value.plain c here
        · exact plain c later

/-- What holds an element has a tag in it, before which there is text. -/
theorem textOnly_none (mixed : textOnly nodes = none) :
    ∃ before first rest, renderAll nodes = before ++ 0x3C :: first :: rest ∧
      (∀ c ∈ before, c ≠ 0x3C) ∧ isTagStart first = true := by
  induction nodes with
  | nil => cases mixed
  | cons node more ih =>
    cases node with
    | element tag children =>
      refine ⟨[], tag.first, tag.more ++ 0x3E :: (renderAll children ++ closeTag tag.name ++
        renderAll more), ?_, by simp, tag.starts⟩
      rw [renderAll, XmlNode.render, openTag_eq, XmlTag.name]
      simp
    | text value =>
      obtain ⟨before, first, rest, written, plain, starts⟩ :=
        ih (Option.map_eq_none_iff.mp mixed)
      refine ⟨value.units ++ before, first, rest, ?_, ?_, starts⟩
      · rw [renderAll, XmlNode.render, written, List.append_assoc]
      · intro c mem
        rcases List.mem_append.mp mem with here | later
        · exact value.plain c here
        · exact plain c later

/-- The first place at which a test fails is one. -/
theorem append_inj_until (test : UInt16 → Prop) {head head' rest rest' : JsString} {c c' : UInt16}
    (all : ∀ d ∈ head, test d) (all' : ∀ d ∈ head', test d) (fails : ¬ test c)
    (fails' : ¬ test c') (same : head ++ c :: rest = head' ++ c' :: rest') :
    head = head' ∧ c = c' ∧ rest = rest' := by
  induction head generalizing head' with
  | nil =>
    cases head' with
    | nil => exact ⟨rfl, (List.cons.inj same).1, (List.cons.inj same).2⟩
    | cons d more =>
      have isFirst := (List.cons.inj same).1
      exact absurd (isFirst ▸ all' d List.mem_cons_self) fails
  | cons d more ih =>
    cases head' with
    | nil =>
      have isFirst := (List.cons.inj same).1
      exact absurd (isFirst ▸ all d List.mem_cons_self) fails'
    | cons =>
      obtain ⟨sameFirst, sameRest⟩ := List.cons.inj same
      obtain ⟨sameHead, tails⟩ := ih (fun e mem => all e (List.mem_cons_of_mem _ mem))
        (fun e mem => all' e (List.mem_cons_of_mem _ mem)) sameRest
      exact ⟨by rw [sameFirst, sameHead], tails⟩

theorem takeWhile_until {test : UInt16 → Bool} {head : JsString}
    (all : ∀ c ∈ head, test c = true) {c : UInt16} (fails : test c = false) (rest : JsString) :
    (head ++ c :: rest).takeWhile test = head := by
  rw [List.takeWhile_append_of_pos all]
  simp [fails]

/-- An element of text is a leaf. -/
theorem leafAt_element {text : JsString} (plain : ∀ c ∈ text, c ≠ 0x3C)
    (after : JsString) :
    leafAt (openTag tag.name ++ (text ++ (closeTag tag.name ++ after))) =
      some (tag.name, text) := by
  have written : openTag tag.name ++ (text ++ (closeTag tag.name ++ after)) =
      0x3C :: tag.first :: (tag.more ++ 0x3E :: (text ++ (closeTag tag.name ++ after))) := by
    rw [openTag_eq, XmlTag.name]
    simp
  have name : (tag.more ++ 0x3E :: (text ++ (closeTag tag.name ++ after))).takeWhile isTagUnit =
      tag.more := takeWhile_until tag.units (by decide) _
  have value : (text ++ (closeTag tag.name ++ after)).takeWhile (· ≠ 0x3C) = text := by
    rw [closeTag_eq]
    exact takeWhile_until (fun c mem => decide_eq_true (plain c mem)) (by decide) _
  have closes : closeTag tag.name <+: closeTag tag.name ++ after := List.prefix_append _ _
  rw [written, leafAt]
  dsimp only
  rw [name, List.drop_left]
  dsimp only
  rw [value, List.drop_left, if_pos ⟨rfl, tag.starts, rfl, closes⟩]
  rfl

/-- An element that holds another is no leaf. -/
theorem leafAt_mixed (mixed : textOnly nodes = none) (after : JsString) :
    leafAt (openTag tag.name ++ (renderAll nodes ++ after)) = none := by
  obtain ⟨before, first, rest, written, plain, starts⟩ := textOnly_none mixed
  cases isLeaf : leafAt (openTag tag.name ++ (renderAll nodes ++ after)) with
  | none => rfl
  | some leaf =>
    obtain ⟨⟨later, body⟩, units, plainText⟩ := leafAt_some isLeaf
    rw [openTag_eq, written, List.cons_append, List.cons.injEq, List.append_assoc] at body
    have cutName := append_inj_until (isTagUnit · = true) tag.name_units units
      (by decide) (by decide) body.2
    have inner : before ++ 0x3C :: (first :: rest ++ after) =
        leaf.2 ++ 0x3C :: (0x2F :: (leaf.1 ++ [0x3E]) ++ later) := by
      have same := cutName.2.2
      rw [closeTag_eq] at same
      simpa using same
    have cutText := append_inj_until (· ≠ 0x3C) plain plainText (by simp) (by simp) inner
    have isSlash : first = 0x2F := (List.cons.inj cutText.2.2).1
    rw [isSlash] at starts
    exact absurd starts (by decide)

/-- No leaf begins in a closing tag. -/
theorem tails_closeTag (after : JsString) :
    (closeTag tag.name ++ after).tails.filterMap leafAt = after.tails.filterMap leafAt := by
  have plain : ∀ c ∈ 0x2F :: (tag.name ++ [0x3E]), c ≠ 0x3C := by
    intro c mem
    rcases List.mem_cons.mp mem with rfl | inTag
    · decide
    · exact plain_tagEnd tag.name_units c inTag
  rw [closeTag_eq, List.cons_append, List.tails, List.filterMap_cons]
  have none : leafAt (0x3C :: (0x2F :: (tag.name ++ [0x3E]) ++ after)) = none :=
    leafAt_closing _
  rw [none]
  exact tails_plain plain after

mutual

/-- The scan finds the leaf elements, and then those of what follows. -/
theorem tails_render (node : XmlNode) (after : JsString) :
    (node.render ++ after).tails.filterMap leafAt =
      node.leafElements ++ after.tails.filterMap leafAt := by
  match node with
  | .text value =>
    rw [XmlNode.render, XmlNode.leafElements]
    exact tails_plain value.plain after
  | .element tag children =>
    have written : (XmlNode.element tag children).render ++ after =
        openTag tag.name ++ (renderAll children ++ (closeTag tag.name ++ after)) := by
      rw [XmlNode.render]
      simp
    have opened : openTag tag.name ++ (renderAll children ++ (closeTag tag.name ++ after)) =
        0x3C :: (tag.name ++ 0x3E :: (renderAll children ++ (closeTag tag.name ++ after))) := by
      rw [openTag_eq]
      simp
    rw [written, XmlNode.leafElements]
    cases only : textOnly children with
    | some =>
      obtain ⟨isText, plain⟩ := textOnly_some only
      have isLeaf := leafAt_element tag plain after
      rw [isText] at opened ⊢
      rw [opened] at isLeaf ⊢
      rw [List.tails, List.filterMap_cons, isLeaf]
      dsimp only
      rw [tails_in_leaf tag.name_units plain]
      rfl
    | none =>
      have noLeaf := leafAt_mixed tag only (closeTag tag.name ++ after)
      rw [opened] at noLeaf ⊢
      have inTag : tag.name ++ 0x3E :: (renderAll children ++ (closeTag tag.name ++ after)) =
          (tag.name ++ [0x3E]) ++ (renderAll children ++ (closeTag tag.name ++ after)) := by
        simp
      rw [List.tails, List.filterMap_cons, noLeaf]
      dsimp only
      rw [inTag, tails_plain (plain_tagEnd tag.name_units), tails_renderAll, tails_closeTag]

theorem tails_renderAll (nodes : List XmlNode) (after : JsString) :
    (renderAll nodes ++ after).tails.filterMap leafAt =
      leafElementsAll nodes ++ after.tails.filterMap leafAt := by
  match nodes with
  | [] => rfl
  | node :: rest =>
    rw [renderAll, leafElementsAll, List.append_assoc, tails_render node, tails_renderAll rest,
      List.append_assoc]

end

/-- The scan of a body finds its leaf elements, in the order of the document. -/
theorem leaves_render (nodes : List XmlNode) :
    leaves 0 (renderAll nodes) = leafElementsAll nodes := by
  have found := tails_renderAll nodes []
  rw [List.append_nil] at found
  have none : ([] : JsString).tails.filterMap leafAt = [] := rfl
  rw [leaves_eq, found, none, List.append_nil]

/-! ### What the flattening keeps -/

theorem rawKey_injective (body : JsString) : Function.Injective (rawKey body) :=
  fun _ _ same => List.append_cancel_left same

theorem items_flattenXmlBody (body name : JsString) : (flattenXmlBody body name).items =
    (xmlFields body).map fun entry => (rawKey name entry.1, entry.2) := by
  apply RawFieldRecord.items_ofItems
  rw [List.map_map]
  have keys : (Prod.fst ∘ fun entry : JsString × RawFieldValue => (rawKey name entry.1, entry.2)) =
      rawKey name ∘ Prod.fst := rfl
  rw [keys, ← List.map_map]
  exact (xmlFields_nodup body).map (rawKey_injective name)

/-- A key with a point in it is no array index. -/
theorem arrayIndex_rawKey (body field : JsString) : arrayIndex (rawKey body field) = none := by
  have point : fullStop ∈ rawKey body field :=
    List.mem_append_left _ (List.mem_append_right _ (by decide))
  refine if_neg fun isIndex => ?_
  have digits := List.all_eq_true.mp isIndex.1 fullStop point
  exact absurd digits (by decide)

/-- What an entry of the record owes to its leaf. -/
def LeafEntry (name : JsString) (entry : JsString × RawFieldValue) (leaf : JsString × JsString) :
    Prop :=
  (∃ count, entry.1 = rawKey name (leafField leaf.1 count)) ∧ entry.2 = .string (trim leaf.2)

/-- The record of a body has one entry for each leaf element, in the order of the document. -/
structure KeepsLeaves (nodes : List XmlNode) (name : JsString) : Prop where
  entries : List.Forall₂ (LeafEntry name)
    (propertyOrder (flattenXmlBody (renderAll nodes) name).items) (leafElementsAll nodes)
  distinct : (flattenXmlBody (renderAll nodes) name).keys.Nodup

theorem numberLeaves_entries (name : JsString) (seen : OrderedMap JsString Nat)
    (found : List (JsString × JsString)) :
    List.Forall₂ (LeafEntry name)
      ((numberLeaves seen found).map fun entry => (rawKey name entry.1, entry.2)) found := by
  induction found generalizing seen with
  | nil => exact .nil
  | cons leaf rest ih => exact .cons ⟨⟨_, rfl⟩, rfl⟩ (ih _)

theorem propertyOrder_of_names {α : Type} {members : List (JsString × α)}
    (names : ∀ entry ∈ members, arrayIndex entry.1 = none) : propertyOrder members = members := by
  have noIndices : members.filter (fun entry => (arrayIndex entry.1).isSome) = [] := by
    rw [List.filter_eq_nil_iff]
    intro entry mem
    rw [names entry mem]
    decide
  have all : members.filter (fun entry => (arrayIndex entry.1).isNone) = members := by
    rw [List.filter_eq_self]
    intro entry mem
    rw [names entry mem]
    rfl
  rw [propertyOrder, noIndices, all, List.mergeSort_nil, List.nil_append]

theorem keepsLeaves (nodes : List XmlNode) (name : JsString) : KeepsLeaves nodes name := by
  constructor
  · have ordered : propertyOrder (flattenXmlBody (renderAll nodes) name).items =
        (flattenXmlBody (renderAll nodes) name).items := by
      apply propertyOrder_of_names
      intro entry mem
      rw [items_flattenXmlBody] at mem
      obtain ⟨field, -, rfl⟩ := List.mem_map.mp mem
      exact arrayIndex_rawKey name field.1
    rw [ordered, items_flattenXmlBody, xmlFields, leaves_render]
    exact numberLeaves_entries name _ _
  · exact (flattenXmlBody (renderAll nodes) name).distinct

/-- No member of the object has the name that sets a prototype. -/
def NoProto (jsonParse : JsString → Option (Json Double)) (text : JsString) : Prop :=
  ∀ members, parseJsonObject jsonParse text = some members →
    JsValue.protoKey ∉ members.map Prod.fst

/-- The record of an object has the object's own fields and no others. -/
def KeepsFields (jsonParse : JsString → Option (Json Double)) (text : JsString) : Prop :=
  ∀ members, parseJsonObject jsonParse text = some members →
    ∃ record, parseJsonRecord jsonParse text = some record ∧
      ∀ key, record.get key = (OrderedMap.getItem key members).map normalizeRawValue

/-- The merged record has the entries of every body, each under its own key. -/
def KeepsEntries (bodies : Bodies) : Prop :=
  Named bodies → ∀ body ∈ bodies, ∀ field,
    (mergeBodies bodies).get (rawKey body.1 field) = body.2.bind (·.get field)

theorem get_proto (fields : List (JsString × RawFieldValue)) :
    (assigned fields).get JsValue.protoKey = none := by
  cases held : (assigned fields).get JsValue.protoKey with
  | none => rfl
  | some =>
    have kept := List.mem_filter.mp (OrderedMap.mem_of_get_ofItems held)
    exact absurd rfl (of_decide_eq_true kept.2)

theorem get_fields {jsonParse : JsString → Option (Json Double)} {text : JsString}
    (parsed : parseJsonObject jsonParse text = some members) (named : key ≠ JsValue.protoKey) :
    (assigned (rawFields members)).get key =
      (OrderedMap.getItem key members).map normalizeRawValue := by
  have single : Single (rawFields members) key := by
    apply single_of_nodup
    rw [rawFields_keys]
    exact members_nodup parsed
  cases held : OrderedMap.getItem key members with
  | some => exact get_assigned (mem_rawFields (JsValue.mem_of_getItem held)) named single
  | none =>
    cases assignedTo : (assigned (rawFields members)).get key with
    | none => rfl
    | some =>
      have kept := List.mem_of_mem_filter (OrderedMap.mem_of_get_ofItems assignedTo)
      obtain ⟨entry, isMember, same⟩ := List.mem_map.mp kept
      cases same
      have present := OrderedMap.get_of_mem_items (m := ⟨members⟩) (members_nodup parsed)
        isMember
      exact absurd (held.symm.trans present) nofun

theorem keepsFields_iff (jsonParse : JsString → Option (Json Double)) (text : JsString) :
    KeepsFields jsonParse text ↔ NoProto jsonParse text := by
  constructor
  · intro keeps members parsed mem
    obtain ⟨record, isRecord, fields⟩ := keeps members parsed
    rw [parseJsonRecord, parsed] at isRecord
    cases isRecord
    obtain ⟨entry, isMember, isProto⟩ := List.mem_map.mp mem
    have present := OrderedMap.get_of_mem_items (m := ⟨members⟩) (members_nodup parsed) isMember
    have lost := fields JsValue.protoKey
    rw [get_proto, ← isProto] at lost
    rw [show OrderedMap.getItem entry.1 members = some entry.2 from present] at lost
    cases lost
  · intro noProto members parsed
    refine ⟨assigned (rawFields members), by rw [parseJsonRecord, parsed]; rfl, ?_⟩
    intro key
    by_cases isProto : key = JsValue.protoKey
    · have absent : OrderedMap.getItem key members = none := by
        cases held : OrderedMap.getItem key members with
        | none => rfl
        | some =>
          have mem := List.mem_map_of_mem (f := Prod.fst) (JsValue.mem_of_getItem held)
          exact absurd (isProto ▸ mem) (noProto members parsed)
      rw [absent, isProto, get_proto]
      rfl
    · exact get_fields parsed isProto

/-- Flattening and merging lose nothing, just if no member sets a prototype. -/
theorem flattening_iff (jsonParse : JsString → Option (Json Double)) (nodes : List XmlNode)
    (name text : JsString) (bodies : Bodies) :
    (KeepsLeaves nodes name ∧ KeepsFields jsonParse text ∧ KeepsEntries bodies) ↔
      NoProto jsonParse text := by
  constructor
  · rintro ⟨-, keeps, -⟩
    exact (keepsFields_iff jsonParse text).mp keeps
  · intro noProto
    refine ⟨keepsLeaves nodes name, (keepsFields_iff jsonParse text).mpr noProto, ?_⟩
    intro named body mem field
    exact get_mergeBodies named mem field

/-- `JSON.parse` of documents with no fractions in them. -/
def wholeJson (text : JsString) : Option (Json Double) :=
  (parse text).map (Json.map fun number =>
    match number with
    | .integer value => .finite value
    | .fractional => .nan
    | .infinite => .infinite false)

/-- The text of an object with one member, which is a string. -/
def memberText (key value : JsString) : JsString :=
  stringify Empty.elim (.object [(key, .string value)])

theorem parsed_memberText (named : arrayIndex key = none) (value : JsString) :
    parsedJson wholeJson (memberText key value) = some (.object [(key, .string value)]) := by
  have read : parse (memberText key value) =
      some ((Json.object [(key, .string value)]).map Empty.elim) := parse_stringify nofun _
  have ordered : propertyOrder [(key, (Json.string value : Json Double))] =
      [(key, .string value)] := propertyOrder_of_names (by simpa using named)
  rw [parsedJson, wholeJson, read]
  simp only [Option.map_some, Json.map, Json.mapMembers, asBuilt, asBuiltMembers, ownEntries,
    OrderedMap.ofItems, List.foldl, OrderedMap.set, OrderedMap.empty, OrderedMap.setItem]
  rw [ordered]

/-- The one member of the object is not in its record. -/
theorem proto_dropped : ¬ KeepsFields wholeJson (memberText JsValue.protoKey (js "kept")) := by
  rw [keepsFields_iff]
  intro noProto
  have parsed := parseJsonObject_of_parsed
    (parsed_memberText (by decide : arrayIndex JsValue.protoKey = none) (js "kept"))
  exact noProto _ parsed List.mem_cons_self

end ModemStack.Observations
