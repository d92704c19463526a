import Mathlib.Data.List.Dedup
import ModemStack.Domain.Observation
import ModemStack.Text.JsValue
import ModemStack.Text.NumericString
import ModemStack.Text.SortedNames

/-!
Raw provider records, the metrics that are read out of them, and what is kept beside the metrics.

A normalizer reads only from the record that its diagnostics retain. `Reading` is what it writes
down on the way: the raw fields that a metric claims and the complaints about the payload.
-/

namespace ModemStack.Observations

open ModemStack.Data ModemStack.Domain ModemStack.Text

inductive ObservationSourceKind where
  | modemmanager
  | huaweiHilink
  | zteGoform
  | ufiHimiapi
  | networkmanager
deriving DecidableEq

def ObservationSourceKind.text : ObservationSourceKind → JsString
  | .modemmanager => js "modemmanager"
  | .huaweiHilink => js "huawei-hilink"
  | .zteGoform => js "zte-goform"
  | .ufiHimiapi => js "ufi-himiapi"
  | .networkmanager => js "networkmanager"

/-! ### Raw records -/

inductive RawFieldValue where
  | string (value : JsString)
  | number (value : Double)
  | bool (value : Bool)
  | null
  | array (items : List RawFieldValue)

/-- Provider-native fields by their names. -/
structure RawFieldRecord where
  fields : OrderedMap JsString RawFieldValue
  distinct : fields.keys.Nodup

namespace RawFieldRecord

def empty : RawFieldRecord := ⟨.empty, List.nodup_nil⟩

/-- An object to which the items are assigned one after another. -/
def ofItems (items : List (JsString × RawFieldValue)) : RawFieldRecord :=
  ⟨.ofItems items, OrderedMap.nodup_ofItems items⟩

def get (record : RawFieldRecord) (key : JsString) : Option RawFieldValue := record.fields.get key

def keys (record : RawFieldRecord) : List JsString := record.fields.keys

def items (record : RawFieldRecord) : List (JsString × RawFieldValue) := record.fields.items

end RawFieldRecord

def rawKey (body field : JsString) : JsString := body ++ js "." ++ field

def prefixRawRecord (body : JsString) (record : Option RawFieldRecord) : RawFieldRecord :=
  .ofItems ((record.getD .empty).items.map fun entry => (rawKey body entry.1, entry.2))

def mergeRawRecords (records : List RawFieldRecord) : RawFieldRecord :=
  .ofItems (records.flatMap RawFieldRecord.items)

/-- `Number.isFinite` -/
def finiteDouble : Double → Option Double
  | .finite value => some (.finite value)
  | .negativeZero => some .negativeZero
  | _ => none

/-- A finite number, or one at the head of a text. -/
def numberIn : RawFieldValue → Option Double
  | .number value => finiteDouble value
  | .string text => if trim text = [] then none else finiteDouble (parseFloat text)
  | _ => none

def textIn : RawFieldValue → Option JsString
  | .string text => if trim text = [] then none else some (trim text)
  | .number value => some value.text
  | .bool value => some (if value then js "true" else js "false")
  | _ => none

def boolIn : RawFieldValue → Option Bool
  | .bool value => some value
  | _ => none

def stringIn : RawFieldValue → Option JsString
  | .string text => some text
  | _ => none

variable (record : RawFieldRecord) (key : JsString)

def rawString : Option JsString := (record.get key).bind textIn

def rawNumber : Option Double := (record.get key).bind numberIn

def rawStringArray : Option (List JsString) :=
  match record.get key with
  | some (.array items) => some (items.filterMap stringIn)
  | _ => none

def hasRawField : Bool := (record.get key).isSome

/-- A member of a struct; a scalar stands for its first one. -/
def structMember (value : Option RawFieldValue) (index : Nat) : Option RawFieldValue :=
  match value with
  | some (.array items) => items[index]?
  | value => if index = 0 then value else none

def rawStructMember (index : Nat) : Option RawFieldValue := structMember (record.get key) index

def rawNumberAt (index : Nat) : Option Double := (rawStructMember record key index).bind numberIn

def rawBooleanAt (index : Nat) : Option Bool := (rawStructMember record key index).bind boolIn

def dictEntry (member : JsString) : RawFieldValue → Option RawFieldValue
  | .array (.string name :: value :: _) => if name = member then some value else none
  | _ => none

def dictMember (dict : Option RawFieldValue) (member : JsString) : Option RawFieldValue :=
  match dict with
  | some (.array entries) => entries.findSome? (dictEntry member)
  | _ => none

def rawDictMember (member : JsString) : Option RawFieldValue := dictMember (record.get key) member

def hasRawDictMember (member : JsString) : Bool := (rawDictMember record key member).isSome

def rawDictNumber (member : JsString) : Option Double :=
  (rawDictMember record key member).bind numberIn

/-! ### Metrics and diagnostics -/

structure MetricProvenance where
  source : ObservationSourceKind
  sourceEpoch : SourceEpoch
  observedAt : EpochMillis
  authority : ObservationAuthority
  rawFields : List JsString

def metricProvenance (source : ObservationSourceKind) (context : NormalizationContext)
    (rawFields : List JsString) (authority : Option ObservationAuthority) : MetricProvenance where
  source
  sourceEpoch := context.sourceEpoch
  observedAt := context.observedAt
  authority := authority.getD (contextAuthority context)
  rawFields

inductive MetricUnknownReason where
  | unsupported
  | notReported
  | notObserved
  | malformed
  | authExpired
  | refused
  | unreachable
deriving DecidableEq

inductive NormalizedMetric (α : Type) where
  | known (value : α) (provenance : MetricProvenance)
  | unknown (reason : MetricUnknownReason) (provenance : MetricProvenance)

/-- Why there is no value, where there is none. -/
def NormalizedMetric.reason {α : Type} : NormalizedMetric α → Option MetricUnknownReason
  | .known _ _ => none
  | .unknown reason _ => some reason

inductive ObservationDiagnosticCode where
  | unparseableBody
  | emptyBody
  | authExpired
  | fieldShapeUnrecognized
deriving DecidableEq

/-- A complaint, with the field or body that it is about. -/
structure ObservationDiagnosticNote where
  code : ObservationDiagnosticCode
  field : JsString
deriving DecidableEq

structure ObservationDiagnostics where
  source : ObservationSourceKind
  raw : RawFieldRecord
  consumed : List JsString
  unmapped : List JsString
  notes : List ObservationDiagnosticNote

def createObservationDiagnostics (source : ObservationSourceKind) (raw : RawFieldRecord)
    (consumed : List JsString) (notes : List ObservationDiagnosticNote) :
    ObservationDiagnostics :=
  let consumed := (consumed.dedup.filter fun key => raw.keys.contains key).mergeSort unitsLe
  { source
    raw
    consumed
    unmapped := (raw.keys.filter fun key => !consumed.contains key).mergeSort unitsLe
    notes }

/-- A value, the raw fields that were claimed on the way to it, and the complaints. -/
structure Reading (α : Type) where
  value : α
  consumed : List JsString
  notes : List ObservationDiagnosticNote

namespace Reading

variable {α β : Type}

instance : Monad Reading where
  pure value := ⟨value, [], []⟩
  bind first next :=
    let second := next first.value
    ⟨second.value, first.consumed ++ second.consumed, first.notes ++ second.notes⟩

/-- `consumed.push(...fields)` -/
def claim (fields : List JsString) : Reading Unit := ⟨(), fields, []⟩

/-- `notes.push(note)` -/
def complain (note : ObservationDiagnosticNote) : Reading Unit := ⟨(), [], [note]⟩

end Reading

/-- The provenance of a metric that claims the fields. -/
def provenance (source : ObservationSourceKind) (context : NormalizationContext)
    (fields : List JsString) (authority : Option ObservationAuthority) :
    Reading MetricProvenance := do
  Reading.claim fields
  pure (metricProvenance source context fields authority)

/-! ### What the records keep -/

/-- Names without a point tell their fields apart. -/
theorem rawKey_inj {body body' field field' : JsString} (plain : fullStop ∉ body)
    (plain' : fullStop ∉ body') (same : rawKey body field = rawKey body' field') :
    body = body' ∧ field = field' := by
  have split (name rest : JsString) (plain : fullStop ∉ name) :
      (rawKey name rest).takeWhile (· ≠ fullStop) = name ∧
        (rawKey name rest).dropWhile (· ≠ fullStop) = fullStop :: rest := by
    have all : ∀ c ∈ name, decide (c ≠ fullStop) = true := by
      intro c mem
      exact decide_eq_true fun isPoint => plain (isPoint ▸ mem)
    have isKey : rawKey name rest = name ++ fullStop :: rest := by
      rw [rawKey, List.append_assoc]
      rfl
    rw [isKey, List.takeWhile_append_of_pos all, List.dropWhile_append_of_pos all]
    simp
  obtain ⟨head, tail⟩ := split body field plain
  obtain ⟨head', tail'⟩ := split body' field' plain'
  rw [same] at head tail
  constructor
  · exact head.symm.trans head'
  · exact (List.cons.inj (tail.symm.trans tail')).2

namespace RawFieldRecord

theorem get_ofItems {items : List (JsString × RawFieldValue)}
    (distinct : (items.map Prod.fst).Nodup) (key : JsString) :
    (ofItems items).get key = OrderedMap.getItem key items := by
  show (OrderedMap.ofItems items).get key = _
  rw [OrderedMap.ofItems_items distinct]
  rfl

theorem items_ofItems {items : List (JsString × RawFieldValue)}
    (distinct : (items.map Prod.fst).Nodup) : (ofItems items).items = items := by
  show (OrderedMap.ofItems items).items = items
  rw [OrderedMap.ofItems_items distinct]

end RawFieldRecord

/-- The items of a record under the keys that tell its body. -/
def keyedItems (body : JsString) (record : Option RawFieldRecord) :
    List (JsString × RawFieldValue) :=
  (record.getD .empty).items.map fun entry => (rawKey body entry.1, entry.2)

variable {body : JsString}

theorem keyedItems_nodup (plain : fullStop ∉ body) (record : Option RawFieldRecord) :
    ((keyedItems body record).map Prod.fst).Nodup := by
  rw [keyedItems, List.map_map]
  have distinct : ((record.getD .empty).items.map fun entry => entry.1).Nodup :=
    (record.getD .empty).distinct
  have isMap : (Prod.fst ∘ fun entry : JsString × RawFieldValue => (rawKey body entry.1, entry.2)) =
      (rawKey body) ∘ Prod.fst := rfl
  rw [isMap, ← List.map_map]
  exact List.Nodup.map (fun _ _ same => (rawKey_inj plain plain same).2) distinct

theorem items_prefixRawRecord (plain : fullStop ∉ body) (record : Option RawFieldRecord) :
    (prefixRawRecord body record).items = keyedItems body record :=
  RawFieldRecord.items_ofItems (keyedItems_nodup plain record)

theorem getItem_keyedItems (plain : fullStop ∉ body) (record : Option RawFieldRecord)
    (field : JsString) : OrderedMap.getItem (rawKey body field) (keyedItems body record) =
      record.bind (·.get field) := by
  cases record with
  | none => rfl
  | some record =>
    show OrderedMap.getItem _ (record.fields.items.map _) =
      OrderedMap.getItem field record.fields.items
    induction record.fields.items with
    | nil => rfl
    | cons entry rest ih =>
      rw [List.map_cons, OrderedMap.getItem, OrderedMap.getItem, ih]
      by_cases same : entry.1 = field
      · rw [if_pos (congrArg (rawKey body) same), if_pos same]
      · rw [if_neg fun sameKey => same (rawKey_inj plain plain sameKey).2, if_neg same]

theorem get_prefixRawRecord (plain : fullStop ∉ body) (record : Option RawFieldRecord)
    (field : JsString) :
    (prefixRawRecord body record).get (rawKey body field) = record.bind (·.get field) :=
  (RawFieldRecord.get_ofItems (keyedItems_nodup plain record) _).trans
    (getItem_keyedItems plain record field)

theorem getItem_keyedItems_other {body body' : JsString} (plain : fullStop ∉ body)
    (plain' : fullStop ∉ body') (differ : body ≠ body') (record : Option RawFieldRecord)
    (field : JsString) :
    OrderedMap.getItem (rawKey body' field) (keyedItems body record) = none := by
  rw [keyedItems]
  induction (record.getD .empty).items with
  | nil => rfl
  | cons entry rest ih =>
    rw [List.map_cons, OrderedMap.getItem,
      if_neg fun sameKey => differ (rawKey_inj plain plain' sameKey).1]
    exact ih

/-- The bodies of a payload, each under its own name. -/
abbrev Bodies : Type := List (JsString × Option RawFieldRecord)

def mergeBodies (bodies : Bodies) : RawFieldRecord :=
  mergeRawRecords (bodies.map fun body => prefixRawRecord body.1 body.2)

/-- The names of the bodies differ and have no point in them. -/
structure Named (bodies : Bodies) : Prop where
  distinct : (bodies.map Prod.fst).Nodup
  plain : ∀ body ∈ bodies, fullStop ∉ body.1

theorem Named.tail {body : JsString × Option RawFieldRecord} {rest : Bodies}
    (named : Named (body :: rest)) : Named rest where
  distinct := (List.nodup_cons.mp named.distinct).2
  plain := fun body mem => named.plain body (List.mem_cons_of_mem _ mem)

variable {bodies : Bodies}

theorem items_mergeBodies (named : Named bodies) :
    (bodies.map fun body => prefixRawRecord body.1 body.2).flatMap RawFieldRecord.items =
      bodies.flatMap fun body => keyedItems body.1 body.2 := by
  induction bodies with
  | nil => rfl
  | cons body rest ih =>
    rw [List.map_cons, List.flatMap_cons, List.flatMap_cons, ih named.tail,
      items_prefixRawRecord (named.plain body List.mem_cons_self)]

theorem mem_keyedItems {body key : JsString} {record : Option RawFieldRecord}
    (mem : key ∈ (keyedItems body record).map Prod.fst) : ∃ field, key = rawKey body field := by
  obtain ⟨entry, isEntry, rfl⟩ := List.mem_map.mp mem
  obtain ⟨original, -, rfl⟩ := List.mem_map.mp isEntry
  exact ⟨original.1, rfl⟩

theorem nodup_mergeBodies (named : Named bodies) :
    ((bodies.flatMap fun body => keyedItems body.1 body.2).map Prod.fst).Nodup := by
  induction bodies with
  | nil => exact List.nodup_nil
  | cons body rest ih =>
    rw [List.flatMap_cons, List.map_append, List.nodup_append]
    have plain := named.plain body List.mem_cons_self
    refine ⟨keyedItems_nodup plain _, ih named.tail, ?_⟩
    rintro key mem _ mem' rfl
    obtain ⟨field, rfl⟩ := mem_keyedItems mem
    obtain ⟨entry, isEntry, isKey⟩ := List.mem_map.mp mem'
    obtain ⟨other, isOther, isItem⟩ := List.mem_flatMap.mp isEntry
    obtain ⟨field', sameKey⟩ := mem_keyedItems (List.mem_map_of_mem isItem)
    rw [isKey] at sameKey
    have sameBody := (rawKey_inj plain (named.plain other (List.mem_cons_of_mem _ isOther))
      sameKey).1
    have absent := (List.nodup_cons.mp named.distinct).1
    exact absent (sameBody ▸ List.mem_map_of_mem isOther)

theorem getItem_otherBodies (named : Named bodies) {name : JsString} (plain : fullStop ∉ name)
    (other : name ∉ bodies.map Prod.fst) (field : JsString) : OrderedMap.getItem (rawKey name field)
      (bodies.flatMap fun body => keyedItems body.1 body.2) = none := by
  induction bodies with
  | nil => rfl
  | cons body rest ih =>
    rw [List.map_cons, List.mem_cons, not_or] at other
    rw [List.flatMap_cons, JsValue.getItem_append,
      getItem_keyedItems_other (named.plain body List.mem_cons_self) plain (Ne.symm other.1),
      Option.none_or]
    exact ih named.tail other.2

/-- The merged record is the union of its bodies. -/
theorem get_mergeBodies (named : Named bodies) {body : JsString × Option RawFieldRecord}
    (mem : body ∈ bodies) (field : JsString) :
    (mergeBodies bodies).get (rawKey body.1 field) = body.2.bind (·.get field) := by
  rw [mergeBodies, mergeRawRecords, items_mergeBodies named,
    RawFieldRecord.get_ofItems (nodup_mergeBodies named)]
  induction bodies with
  | nil => cases mem
  | cons first rest ih =>
    rw [List.flatMap_cons, JsValue.getItem_append]
    rcases List.mem_cons.mp mem with rfl | later
    · have plain := named.plain body List.mem_cons_self
      rw [getItem_keyedItems plain]
      cases isField : body.2.bind (·.get field) with
      | some => rfl
      | none =>
        rw [Option.none_or]
        exact getItem_otherBodies named.tail plain (List.nodup_cons.mp named.distinct).1 field
    · have absent := (List.nodup_cons.mp named.distinct).1
      have differ : first.1 ≠ body.1 := fun same => absent (same ▸ List.mem_map_of_mem later)
      rw [getItem_keyedItems_other (named.plain first List.mem_cons_self)
        (named.plain body mem) differ, Option.none_or]
      exact ih named.tail later

theorem keys_mergeBodies (named : Named bodies) {key : JsString}
    (mem : key ∈ (mergeBodies bodies).keys) :
    ∃ body ∈ bodies, ∃ field, key = rawKey body.1 field := by
  have isKeys : (mergeBodies bodies).keys =
      (bodies.flatMap fun body => keyedItems body.1 body.2).map Prod.fst := by
    show ((mergeBodies bodies).items).map Prod.fst = _
    rw [mergeBodies, mergeRawRecords, items_mergeBodies named,
      RawFieldRecord.items_ofItems (nodup_mergeBodies named)]
  rw [isKeys] at mem
  obtain ⟨entry, isEntry, rfl⟩ := List.mem_map.mp mem
  obtain ⟨body, isBody, isItem⟩ := List.mem_flatMap.mp isEntry
  exact ⟨body, isBody, mem_keyedItems (List.mem_map_of_mem isItem)⟩

/-- The claimed fields and the others are the fields of the record, each once. -/
structure Partitions (diagnostics : ObservationDiagnostics) : Prop where
  all : (diagnostics.consumed ++ diagnostics.unmapped).Perm diagnostics.raw.keys
  distinct : (diagnostics.consumed ++ diagnostics.unmapped).Nodup

theorem partitions (source : ObservationSourceKind) (raw : RawFieldRecord)
    (consumed : List JsString) (notes : List ObservationDiagnosticNote) :
    Partitions (createObservationDiagnostics source raw consumed notes) := by
  have claimed : ((consumed.dedup.filter fun key => raw.keys.contains key).mergeSort
      unitsLe).Perm (raw.keys.filter fun key => ((consumed.dedup.filter fun key =>
        raw.keys.contains key).mergeSort unitsLe).contains key) := by
    apply (List.perm_ext_iff_of_nodup ?_ ?_).mpr
    · intro key
      simp
    · exact (List.mergeSort_perm _ _).nodup_iff.mpr ((List.nodup_dedup _).filter _)
    · exact raw.distinct.filter _
  have all : ((createObservationDiagnostics source raw consumed notes).consumed ++
      (createObservationDiagnostics source raw consumed notes).unmapped).Perm raw.keys :=
    (claimed.append (List.mergeSort_perm _ _)).trans
      (List.filter_append_perm _ _)
  exact ⟨all, all.nodup_iff.mpr raw.distinct⟩

end ModemStack.Observations
