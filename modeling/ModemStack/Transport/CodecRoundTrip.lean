import ModemStack.Data.Except
import ModemStack.Transport.Codec

/-!
What the codec keeps and what it refuses.

A well-typed value comes back as it was sent. A file descriptor is refused where a value or a
signature sent has one; of what is received, the types inside variants are only looked at where a
value is, so that an empty array of descriptors passes (`codec_iff`).
-/

namespace ModemStack.Transport

open ModemStack.Data ModemStack.Text

/-! ### Places -/

/-- How a variant is opened: the type and the value in it. -/
abbrev Opening := CodecValue → Option (SignatureNode × CodecValue)

/-- A public variant names its type. -/
def openVariant : Opening
  | .variant signature value =>
    match parseSignature signature with
    | .ok [node] => some (node, value)
    | _ => none
  | _ => none

/-- A variant of the library carries its type as a tree. -/
def openDelivered : Opening
  | .array [.array [.tree node], .array (value :: _)] => some (node, value)
  | _ => none

/-- `At opening node value n v`: where `node` is the type of `value`, `n` is that of `v` in it. -/
inductive At (opening : Opening) : SignatureNode → CodecValue → SignatureNode → CodecValue → Prop
    where
  | here {node value} : At opening node value node value
  | item {element items item n v} (mem : item ∈ items) (at' : At opening element item n v) :
      At opening (.array element) (.array items) n v
  | field {fields items node item n v} (mem : (node, item) ∈ fields.zip items)
      (at' : At opening node item n v) : At opening (.struct fields) (.array items) n v
  | entry {fields items node item n v} (mem : (node, item) ∈ fields.zip items)
      (at' : At opening node item n v) : At opening (.dictEntry fields) (.array items) n v
  | inner {value node item n v} (opens : opening value = some (node, item))
      (at' : At opening node item n v) : At opening (.leaf .v) value n v

/-- A place in a body. -/
def AtBody (opening : Opening) (nodes : List SignatureNode) (values : List CodecValue)
    (n : SignatureNode) (v : CodecValue) : Prop :=
  ∃ node value, (node, value) ∈ nodes.zip values ∧ At opening node value n v

/-! ### Types -/

mutual

/-- The canonical values of a type. -/
inductive WellTyped : SignatureNode → CodecValue → Prop where
  | int64 {number} (lower : int64Min ≤ number) (upper : number ≤ int64Max) :
      WellTyped (.leaf .x) (.bigint number)
  | uint64 {number} (lower : 0 ≤ number) (upper : number ≤ uint64Max) :
      WellTyped (.leaf .t) (.bigint number)
  | number {type value} (isNumber : type ∈ [TypeCode.y, .n, .q, .i, .u, .d]) :
      WellTyped (.leaf type) (.number value)
  | boolean {value} : WellTyped (.leaf .b) (.boolean value)
  | string {type text} (isText : type ∈ [TypeCode.s, .o, .g]) :
      WellTyped (.leaf type) (.string text)
  | bytes {bytes} : WellTyped (.array (.leaf .y)) (.bytes bytes)
  | array {element items} (typed : AllTyped element items) :
      WellTyped (.array element) (.array items)
  | struct {fields items} (typed : EachTyped fields items) :
      WellTyped (.struct fields) (.array items)
  | dictEntry {keyNode valueNode key value} (keyTyped : WellTyped keyNode key)
      (valueTyped : WellTyped valueNode value) :
      WellTyped (.dictEntry [keyNode, valueNode]) (.array [key, value])
  | variant {signature node value} (supported : unsupportedType ∉ signature)
      (parsed : parseSignature signature = .ok [node]) (typed : WellTyped node value) :
      WellTyped (.leaf .v) (.variant signature value)

inductive AllTyped : SignatureNode → List CodecValue → Prop where
  | nil {element} : AllTyped element []
  | cons {element item items} (typed : WellTyped element item) (others : AllTyped element items) :
      AllTyped element (item :: items)

inductive EachTyped : List SignatureNode → List CodecValue → Prop where
  | nil : EachTyped [] []
  | cons {node nodes value values} (typed : WellTyped node value)
      (others : EachTyped nodes values) : EachTyped (node :: nodes) (value :: values)

end

mutual

/-- What the library makes of the values of a type. It looks at no value of a basic type or of a
file descriptor. -/
inductive Delivered : SignatureNode → CodecValue → Prop where
  | long {type number} (wide : type ∈ [TypeCode.x, .t]) : Delivered (.leaf type) (.long number)
  | basic {type value} (isBasic : type ∈ basicTypes) : Delivered (.leaf type) value
  | descriptor {value} : Delivered (.leaf .h) value
  | bytes {bytes} : Delivered (.array (.leaf .y)) (.bytes bytes)
  | array {element items} (delivered : AllDelivered element items) :
      Delivered (.array element) (.array items)
  | struct {fields items} (delivered : EachDelivered fields items) :
      Delivered (.struct fields) (.array items)
  | dictEntry {keyNode valueNode key value} (keyDelivered : Delivered keyNode key)
      (valueDelivered : Delivered valueNode value) :
      Delivered (.dictEntry [keyNode, valueNode]) (.array [key, value])
  | variant {node value} (delivered : Delivered node value) :
      Delivered (.leaf .v) (.array [.array [.tree node], .array [value]])

inductive AllDelivered : SignatureNode → List CodecValue → Prop where
  | nil {element} : AllDelivered element []
  | cons {element item items} (delivered : Delivered element item)
      (others : AllDelivered element items) : AllDelivered element (item :: items)

inductive EachDelivered : List SignatureNode → List CodecValue → Prop where
  | nil : EachDelivered [] []
  | cons {node nodes value values} (delivered : Delivered node value)
      (others : EachDelivered nodes values) : EachDelivered (node :: nodes) (value :: values)

end

/-- What is relied on of the library, which takes what is encoded and hands over what is decoded. -/
structure Delivers (lib : SignatureNode → CodecValue → CodecValue) : Prop where
  int64 : ∀ number, int64Min ≤ number → number ≤ int64Max →
    lib (.leaf .x) (.string (printInt number)) = .long number
  uint64 : ∀ number, 0 ≤ number → number ≤ uint64Max →
    lib (.leaf .t) (.string (printInt number)) = .long number
  basic : ∀ type value, type ∈ basicTypes → lib (.leaf type) value = value
  bytes : ∀ element bytes, lib (.array element) (.bytes bytes) = .bytes bytes
  array : ∀ element items, lib (.array element) (.array items) = .array (items.map (lib element))
  struct : ∀ fields items, lib (.struct fields) (.array items) =
    .array (List.zipWith lib fields items)
  dictEntry : ∀ fields items, lib (.dictEntry fields) (.array items) =
    .array (List.zipWith lib fields items)
  variant : ∀ signature node value, parseSignature signature = .ok [node] →
    lib (.leaf .v) (.array [.string signature, value]) =
      .array [.array [.tree node], .array [lib node value]]

/-! ### The round trip -/

section RoundTrip

variable {lib : SignatureNode → CodecValue → CodecValue}

variable {type : TypeCode}

theorem encode64_ok {value encoded : CodecValue} {min max : Int} :
    encode64 type value min max = .ok encoded ↔ ∃ number, value = .bigint number ∧
      min ≤ number ∧ number ≤ max ∧ encoded = .string (printInt number) := by
  cases value with
  | bigint number =>
    rw [encode64]
    split
    · next out =>
      constructor
      · intro ok
        cases ok
      · rintro ⟨_, ⟨⟩, lower, upper, -⟩
        omega
    · next fits =>
      constructor
      · rintro ⟨⟩
        exact ⟨number, rfl, by omega, by omega, rfl⟩
      · rintro ⟨_, ⟨⟩, -, -, rfl⟩
        rfl
  | _ =>
    constructor
    · intro ok
      cases ok
    · rintro ⟨_, ⟨⟩, -⟩

theorem encodeNode_basic {value : CodecValue} (isBasic : type ∈ basicTypes) :
    encodeNode (.leaf type) value = .ok value := by
  cases type <;> simp_all [encodeNode, basicTypes]

theorem decodeNode_basic {value : CodecValue} (isBasic : type ∈ basicTypes) :
    decodeNode (.leaf type) value = .ok value := by
  cases type <;> simp_all [decodeNode, decodeBasic, basicTypes]

theorem encode64_of_range {number min max : Int} (lower : min ≤ number) (upper : number ≤ max) :
    encode64 type (.bigint number) min max = .ok (.string (printInt number)) :=
  encode64_ok.mpr ⟨number, rfl, lower, upper, rfl⟩

theorem basic_of_number (isNumber : type ∈ [TypeCode.y, .n, .q, .i, .u, .d]) :
    type ∈ basicTypes := by
  revert isNumber
  cases type <;> decide

theorem basic_of_text (isText : type ∈ [TypeCode.s, .o, .g]) : type ∈ basicTypes := by
  revert isText
  cases type <;> decide

theorem EachTyped.length_eq {nodes : List SignatureNode} {values : List CodecValue}
    (typed : EachTyped nodes values) : nodes.length = values.length := by
  induction values generalizing nodes with
  | nil =>
    cases typed
    rfl
  | cons value values ih =>
    cases typed with
    | cons _ others => rw [List.length_cons, List.length_cons, ih others]

mutual

/-- A well-typed value comes back. -/
theorem WellTyped.roundTrip (delivers : Delivers lib) {node : SignatureNode} {value : CodecValue} :
    WellTyped node value → ∃ encoded, encodeNode node value = .ok encoded ∧
      decodeNode node (lib node encoded) = .ok value
  | .int64 lower upper => by
    refine ⟨_, by rw [encodeNode, encode64_of_range lower upper], ?_⟩
    rw [delivers.int64 _ lower upper, decodeNode, decode64]
  | .uint64 lower upper => by
    refine ⟨_, by rw [encodeNode, encode64_of_range lower upper], ?_⟩
    rw [delivers.uint64 _ lower upper, decodeNode, decode64]
  | .number isNumber => by
    have isBasic := basic_of_number isNumber
    refine ⟨_, encodeNode_basic isBasic, ?_⟩
    rw [delivers.basic _ _ isBasic, decodeNode_basic isBasic]
  | .boolean => by
    have isBasic : TypeCode.b ∈ basicTypes := by decide
    refine ⟨_, encodeNode_basic isBasic, ?_⟩
    rw [delivers.basic _ _ isBasic, decodeNode_basic isBasic]
  | .string isText => by
    have isBasic := basic_of_text isText
    refine ⟨_, encodeNode_basic isBasic, ?_⟩
    rw [delivers.basic _ _ isBasic, decodeNode_basic isBasic]
  | .bytes => by
    have isByte : (SignatureNode.leaf .y).type = TypeCode.y.unit := rfl
    refine ⟨_, by rw [encodeNode, if_pos isByte], ?_⟩
    rw [delivers.bytes, decodeNode, if_pos isByte]
  | .array typed => by
    obtain ⟨encoded, encodes, decodes⟩ := typed.roundTrip delivers
    refine ⟨_, by rw [encodeNode, encodes]; rfl, ?_⟩
    rw [delivers.array, decodeNode, decodes]
    rfl
  | .struct typed => by
    obtain ⟨encoded, encodes, decodes⟩ := typed.roundTrip delivers
    have sameLength := typed.length_eq
    refine ⟨_, by rw [encodeNode, if_neg (by simp [sameLength]), encodes]; rfl, ?_⟩
    rw [delivers.struct, decodeNode, decodes]
    rfl
  | .dictEntry keyTyped valueTyped => by
    obtain ⟨key, encodesKey, decodesKey⟩ := keyTyped.roundTrip delivers
    obtain ⟨value, encodesValue, decodesValue⟩ := valueTyped.roundTrip delivers
    refine ⟨.array [key, value], by simp only [encodeNode, encodesKey, encodesValue]; rfl, ?_⟩
    rw [delivers.dictEntry]
    simp only [List.zipWith, decodeNode, decodesKey, decodesValue]
    rfl
  | .variant supported parsed typed => by
    obtain ⟨encoded, encodes, decodes⟩ := typed.roundTrip delivers
    refine ⟨_, by simp only [encodeNode, if_neg supported, parsed, encodes]; rfl, ?_⟩
    rw [delivers.variant _ _ _ parsed]
    simp only [decodeNode, decodes]
    have text := signatureFromNodes_of_parse parsed
    rw [signatureFromNodes, signatureFromNodes, List.append_nil] at text
    rw [text]
    rfl

theorem AllTyped.roundTrip (delivers : Delivers lib) {element : SignatureNode}
    {items : List CodecValue} :
    AllTyped element items → ∃ encoded, encodeItems element items = .ok encoded ∧
      decodeItems element (encoded.map (lib element)) = .ok items
  | .nil => ⟨[], rfl, rfl⟩
  | .cons typed others => by
    obtain ⟨first, encodes, decodes⟩ := typed.roundTrip delivers
    obtain ⟨rest, encodesRest, decodesRest⟩ := others.roundTrip delivers
    refine ⟨first :: rest, by rw [encodeItems, encodes, encodesRest]; rfl, ?_⟩
    rw [List.map_cons, decodeItems, decodes, decodesRest]
    rfl

theorem EachTyped.roundTrip (delivers : Delivers lib) {nodes : List SignatureNode}
    {values : List CodecValue} :
    EachTyped nodes values → ∃ encoded, encodeEach nodes values = .ok encoded ∧
      decodeEach nodes (List.zipWith lib nodes encoded) = .ok values
  | .nil => ⟨[], rfl, rfl⟩
  | .cons typed others => by
    obtain ⟨first, encodes, decodes⟩ := typed.roundTrip delivers
    obtain ⟨rest, encodesRest, decodesRest⟩ := others.roundTrip delivers
    refine ⟨first :: rest, by rw [encodeEach, encodes, encodesRest]; rfl, ?_⟩
    rw [List.zipWith, decodeEach, decodes, decodesRest]
    rfl

end

end RoundTrip

/-! ### What is refused -/

section Refused

theorem encodeItems_mem {element : SignatureNode} {items encoded : List CodecValue}
    (encodes : encodeItems element items = .ok encoded) {item : CodecValue} (mem : item ∈ items) :
    ∃ first, encodeNode element item = .ok first := by
  induction items generalizing encoded with
  | nil => cases mem
  | cons head tail ih =>
    simp only [encodeItems, except_bind_ok] at encodes
    obtain ⟨first, encodesFirst, others, encodesOthers, -⟩ := encodes
    rcases List.mem_cons.mp mem with rfl | mem
    · exact ⟨first, encodesFirst⟩
    · exact ih encodesOthers mem

variable {node : SignatureNode}

theorem encodeEach_mem {nodes : List SignatureNode} {values encoded : List CodecValue}
    (encodes : encodeEach nodes values = .ok encoded) {value : CodecValue}
    (mem : (node, value) ∈ nodes.zip values) : ∃ first, encodeNode node value = .ok first := by
  induction values generalizing nodes encoded with
  | nil => simp at mem
  | cons head tail ih =>
    cases nodes with
    | nil => simp at mem
    | cons =>
      simp only [encodeEach, except_bind_ok] at encodes
      obtain ⟨first, encodesFirst, others, encodesOthers, -⟩ := encodes
      rw [List.zip_cons_cons] at mem
      rcases List.mem_cons.mp mem with same | mem
      · cases same
        exact ⟨first, encodesFirst⟩
      · exact ih encodesOthers mem

/-- What is encoded is encoded in all its places. -/
theorem At.encodes {node n : SignatureNode} {value v encoded : CodecValue}
    (at' : At openVariant node value n v) (encodes : encodeNode node value = .ok encoded) :
    ∃ inner, encodeNode n v = .ok inner := by
  induction at' generalizing encoded with
  | here => exact ⟨encoded, encodes⟩
  | item mem _ ih =>
    simp only [encodeNode, except_bind_ok] at encodes
    obtain ⟨items, encodesItems, -⟩ := encodes
    obtain ⟨first, encodesFirst⟩ := encodeItems_mem encodesItems mem
    exact ih encodesFirst
  | field mem _ ih =>
    rw [encodeNode] at encodes
    split at encodes
    · cases encodes
    · obtain ⟨items, encodesEach, -⟩ := except_bind_ok.mp encodes
      obtain ⟨first, encodesFirst⟩ := encodeEach_mem encodesEach mem
      exact ih encodesFirst
  | @entry fields items node item n v mem _ ih =>
    rcases items with _ | ⟨key, _ | ⟨value, _ | ⟨third, rest⟩⟩⟩
    · simp at mem
    · simp [encodeNode] at encodes
    · rcases fields with _ | ⟨keyNode, _ | ⟨valueNode, others⟩⟩
      · simp at mem
      · simp only [encodeNode, except_bind_ok] at encodes
        obtain ⟨first, -, failed⟩ := encodes
        cases failed
      · simp only [encodeNode, except_bind_ok] at encodes
        obtain ⟨first, encodesKey, second, encodesValue, -⟩ := encodes
        simp only [List.zip_cons_cons, List.zip_nil_right, List.mem_cons, List.not_mem_nil,
          or_false, Prod.mk.injEq] at mem
        rcases mem with ⟨rfl, rfl⟩ | ⟨rfl, rfl⟩
        · exact ih encodesKey
        · exact ih encodesValue
    · simp [encodeNode] at encodes
  | @inner value node item n v opens _ ih =>
    unfold openVariant at opens
    split at opens
    · next signature within =>
      split at opens
      · next type parsed =>
        cases opens
        simp only [encodeNode] at encodes
        split at encodes
        · cases encodes
        · simp only [parsed] at encodes
          obtain ⟨first, encodesInner, -⟩ := except_bind_ok.mp encodes
          exact ih encodesInner
      · cases opens
    · cases opens

/-- A 64-bit type holds a `bigint` in its range. -/
def Fits : SignatureNode → CodecValue → Prop
  | .leaf .x, value => ∃ number, value = .bigint number ∧ int64Min ≤ number ∧ number ≤ int64Max
  | .leaf .t, value => ∃ number, value = .bigint number ∧ 0 ≤ number ∧ number ≤ uint64Max
  | _, _ => True

theorem fits_of_encodes {value encoded : CodecValue}
    (encodes : encodeNode node value = .ok encoded) : Fits node value := by
  unfold Fits
  split
  · rw [encodeNode] at encodes
    obtain ⟨number, isNumber, lower, upper, -⟩ := encode64_ok.mp encodes
    exact ⟨number, isNumber, lower, upper⟩
  · rw [encodeNode] at encodes
    obtain ⟨number, isNumber, lower, upper, -⟩ := encode64_ok.mp encodes
    exact ⟨number, isNumber, lower, upper⟩
  · trivial

/-- A variant that is encoded names no file descriptor. -/
theorem supported_of_encodes {signature : JsString} {value encoded : CodecValue}
    (encodes : encodeNode (.leaf .v) (.variant signature value) = .ok encoded) :
    unsupportedType ∉ signature := by
  simp only [encodeNode] at encodes
  split at encodes
  · cases encodes
  · next supported => exact supported

theorem decodeItems_mem {element : SignatureNode} {items decoded : List CodecValue}
    (decodes : decodeItems element items = .ok decoded) {item : CodecValue} (mem : item ∈ items) :
    ∃ first, decodeNode element item = .ok first := by
  induction items generalizing decoded with
  | nil => cases mem
  | cons head tail ih =>
    simp only [decodeItems, except_bind_ok] at decodes
    obtain ⟨first, decodesFirst, others, decodesOthers, -⟩ := decodes
    rcases List.mem_cons.mp mem with rfl | mem
    · exact ⟨first, decodesFirst⟩
    · exact ih decodesOthers mem

theorem decodeEach_mem {nodes : List SignatureNode} {values decoded : List CodecValue}
    (decodes : decodeEach nodes values = .ok decoded) {value : CodecValue}
    (mem : (node, value) ∈ nodes.zip values) : ∃ first, decodeNode node value = .ok first := by
  induction values generalizing nodes decoded with
  | nil => simp at mem
  | cons head tail ih =>
    cases nodes with
    | nil => simp at mem
    | cons =>
      simp only [decodeEach, except_bind_ok] at decodes
      obtain ⟨first, decodesFirst, others, decodesOthers, -⟩ := decodes
      rw [List.zip_cons_cons] at mem
      rcases List.mem_cons.mp mem with same | mem
      · cases same
        exact ⟨first, decodesFirst⟩
      · exact ih decodesOthers mem

/-- What is decoded is decoded in all its places. -/
theorem At.decodes {node n : SignatureNode} {value v decoded : CodecValue}
    (at' : At openDelivered node value n v) (decodes : decodeNode node value = .ok decoded) :
    ∃ inner, decodeNode n v = .ok inner := by
  induction at' generalizing decoded with
  | here => exact ⟨decoded, decodes⟩
  | item mem _ ih =>
    simp only [decodeNode, except_bind_ok] at decodes
    obtain ⟨items, decodesItems, -⟩ := decodes
    obtain ⟨first, decodesFirst⟩ := decodeItems_mem decodesItems mem
    exact ih decodesFirst
  | field mem _ ih =>
    simp only [decodeNode, except_bind_ok] at decodes
    obtain ⟨items, decodesEach, -⟩ := decodes
    obtain ⟨first, decodesFirst⟩ := decodeEach_mem decodesEach mem
    exact ih decodesFirst
  | @entry fields items node item n v mem _ ih =>
    rcases items with _ | ⟨key, _ | ⟨value, _ | ⟨third, rest⟩⟩⟩
    · simp at mem
    · simp [decodeNode] at decodes
    · rcases fields with _ | ⟨keyNode, _ | ⟨valueNode, others⟩⟩
      · simp at mem
      · simp only [decodeNode, except_bind_ok] at decodes
        obtain ⟨first, -, failed⟩ := decodes
        cases failed
      · simp only [decodeNode, except_bind_ok] at decodes
        obtain ⟨first, decodesKey, second, decodesValue, -⟩ := decodes
        simp only [List.zip_cons_cons, List.zip_nil_right, List.mem_cons, List.not_mem_nil,
          or_false, Prod.mk.injEq] at mem
        rcases mem with ⟨rfl, rfl⟩ | ⟨rfl, rfl⟩
        · exact ih decodesKey
        · exact ih decodesValue
    · simp [decodeNode] at decodes
  | @inner value node item n v opens _ ih =>
    unfold openDelivered at opens
    split at opens
    · cases opens
      simp only [decodeNode, except_bind_ok] at decodes
      obtain ⟨first, decodesInner, -⟩ := decodes
      exact ih decodesInner
    · cases opens

end Refused

/-! ### What is received -/

mutual

/-- What holds no file descriptor is decoded. -/
theorem Delivered.decodes {node : SignatureNode} {value : CodecValue} :
    Delivered node value → (∀ v, ¬ At openDelivered node value (.leaf .h) v) →
      ∃ decoded, decodeNode node value = .ok decoded
  | .long wide, _ => by
    rcases List.mem_pair.mp wide with rfl | rfl
    · exact ⟨_, by rw [decodeNode, decode64]⟩
    · exact ⟨_, by rw [decodeNode, decode64]⟩
  | .basic isBasic, _ => ⟨_, decodeNode_basic isBasic⟩
  | .descriptor, free => absurd .here (free _)
  | .bytes, _ => by
    have isByte : (SignatureNode.leaf .y).type = TypeCode.y.unit := rfl
    exact ⟨_, by rw [decodeNode, if_pos isByte]⟩
  | .array delivered, free => by
    obtain ⟨decoded, decodes⟩ := delivered.decodes fun item mem v at' => free v (.item mem at')
    exact ⟨_, by rw [decodeNode, decodes]; rfl⟩
  | .struct delivered, free => by
    obtain ⟨decoded, decodes⟩ :=
      delivered.decodes fun node value mem v at' => free v (.field mem at')
    exact ⟨_, by rw [decodeNode, decodes]; rfl⟩
  | .dictEntry keyDelivered valueDelivered, free => by
    obtain ⟨key, decodesKey⟩ := keyDelivered.decodes fun v at' => free v (.entry (by simp) at')
    obtain ⟨value, decodesValue⟩ :=
      valueDelivered.decodes fun v at' => free v (.entry (by simp) at')
    refine ⟨.array [key, value], ?_⟩
    simp only [decodeNode, decodesKey, decodesValue]
    rfl
  | .variant delivered, free => by
    obtain ⟨decoded, decodes⟩ := delivered.decodes fun v at' => free v (.inner rfl at')
    exact ⟨_, by simp only [decodeNode, decodes]; rfl⟩

theorem AllDelivered.decodes {element : SignatureNode} {items : List CodecValue} :
    AllDelivered element items →
      (∀ item ∈ items, ∀ v, ¬ At openDelivered element item (.leaf .h) v) →
        ∃ decoded, decodeItems element items = .ok decoded
  | .nil, _ => ⟨[], rfl⟩
  | .cons delivered others, free => by
    obtain ⟨first, decodes⟩ := delivered.decodes (free _ List.mem_cons_self)
    obtain ⟨rest, decodesRest⟩ :=
      others.decodes fun item mem => free item (List.mem_cons_of_mem _ mem)
    exact ⟨first :: rest, by rw [decodeItems, decodes, decodesRest]; rfl⟩

theorem EachDelivered.decodes {nodes : List SignatureNode} {values : List CodecValue} :
    EachDelivered nodes values →
      (∀ node value, (node, value) ∈ nodes.zip values →
        ∀ v, ¬ At openDelivered node value (.leaf .h) v) →
        ∃ decoded, decodeEach nodes values = .ok decoded
  | .nil, _ => ⟨[], rfl⟩
  | .cons delivered others, free => by
    obtain ⟨first, decodes⟩ := delivered.decodes (free _ _ List.mem_cons_self)
    obtain ⟨rest, decodesRest⟩ :=
      others.decodes fun node value mem => free node value (List.mem_cons_of_mem _ mem)
    exact ⟨first :: rest, by rw [decodeEach, decodes, decodesRest]; rfl⟩

end

section Claim

variable (lib : SignatureNode → CodecValue → CodecValue) (signature : JsString)
  (nodes : List SignatureNode) (args body : List CodecValue)

/-- A file descriptor's type in the signature of what is sent, or of a variant in it. -/
def MentionsSent : Prop :=
  unsupportedType ∈ signature ∨ ∃ named value,
    AtBody openVariant nodes args (.leaf .v) (.variant named value) ∧ unsupportedType ∈ named

/-- A file descriptor's type in the signature of what is received, or of a variant in it. -/
def MentionsReceived : Prop :=
  unsupportedType ∈ signature ∨ ∃ variant node value,
    AtBody openDelivered nodes body (.leaf .v) variant ∧
      openDelivered variant = some (node, value) ∧ unsupportedType ∈ signatureFromNode node

/-- A file descriptor's type in the signature, or a file descriptor in the body. -/
def HoldsDescriptor : Prop :=
  unsupportedType ∈ signature ∨ ∃ value, AtBody openDelivered nodes body (.leaf .h) value

/-- What the codec is to do with arguments and with a body of one signature. -/
structure Sound : Prop where
  roundTrip : unsupportedType ∉ signature → EachTyped nodes args →
    ∃ encoded, encodeBody signature args = .ok encoded ∧
      decodeBody signature (List.zipWith lib nodes encoded) = .ok args
  wide : ∀ node value, AtBody openVariant nodes args node value → ¬ Fits node value →
    ∃ error, encodeBody signature args = .error error
  sent : MentionsSent signature nodes args → ∃ error, encodeBody signature args = .error error
  received : MentionsReceived signature nodes body →
    ∃ error, decodeBody signature body = .error error

variable {lib signature nodes args body}

theorem encodeBody_places {encoded : List CodecValue} (parsed : parseSignature signature = .ok nodes)
    (encodes : encodeBody signature args = .ok encoded) :
    unsupportedType ∉ signature ∧ ∀ node value, AtBody openVariant nodes args node value →
      ∃ inner, encodeNode node value = .ok inner := by
  unfold encodeBody at encodes
  split at encodes
  · cases encodes
  · next supported =>
    simp only [parsed] at encodes
    split at encodes
    · cases encodes
    · refine ⟨supported, ?_⟩
      rintro n v ⟨node, value, mem, at'⟩
      obtain ⟨first, encodesFirst⟩ := encodeEach_mem encodes mem
      exact at'.encodes encodesFirst

theorem encodeBody_wide (parsed : parseSignature signature = .ok nodes) {node : SignatureNode}
    {value : CodecValue} (place : AtBody openVariant nodes args node value)
    (misfit : ¬ Fits node value) : ∃ error, encodeBody signature args = .error error := by
  refine error_of_not_ok fun encoded encodes => misfit ?_
  obtain ⟨inner, encodesInner⟩ := (encodeBody_places parsed encodes).2 node value place
  exact fits_of_encodes encodesInner

theorem encodeBody_descriptor (parsed : parseSignature signature = .ok nodes)
    (mentions : MentionsSent signature nodes args) :
    ∃ error, encodeBody signature args = .error error := by
  refine error_of_not_ok fun encoded encodes => ?_
  obtain ⟨supported, places⟩ := encodeBody_places parsed encodes
  rcases mentions with inSignature | ⟨named, value, place, inVariant⟩
  · exact supported inSignature
  · obtain ⟨inner, encodesInner⟩ := places _ _ place
    exact supported_of_encodes encodesInner inVariant

theorem codec_roundTrip (delivers : Delivers lib) (parsed : parseSignature signature = .ok nodes)
    (supported : unsupportedType ∉ signature) (typed : EachTyped nodes args) :
    ∃ encoded, encodeBody signature args = .ok encoded ∧
      decodeBody signature (List.zipWith lib nodes encoded) = .ok args := by
  obtain ⟨encoded, encodes, decodes⟩ := typed.roundTrip delivers
  refine ⟨encoded, ?_, ?_⟩
  · simp only [encodeBody, if_neg supported, parsed]
    rw [if_neg (by simp [typed.length_eq])]
    exact encodes
  · simp only [decodeBody, if_neg supported, parsed]
    exact decodes

/-- A body is refused for the file descriptors in it, and for its signature. -/
theorem decodeBody_error (parsed : parseSignature signature = .ok nodes)
    (delivered : EachDelivered nodes body) :
    (∃ error, decodeBody signature body = .error error) ↔ HoldsDescriptor signature nodes body := by
  unfold decodeBody HoldsDescriptor
  by_cases inSignature : unsupportedType ∈ signature
  · rw [if_pos inSignature]
    exact ⟨fun _ => .inl inSignature, fun _ => ⟨_, rfl⟩⟩
  · rw [if_neg inSignature, or_iff_right inSignature]
    simp only [parsed]
    constructor
    · rintro ⟨error, failed⟩
      by_contra none
      obtain ⟨decoded, decodes⟩ := delivered.decodes fun node value mem v at' =>
        none ⟨v, node, value, mem, at'⟩
      rw [failed] at decodes
      cases decodes
    · rintro ⟨v, node, value, mem, at'⟩
      refine error_of_not_ok fun decoded decodes => ?_
      obtain ⟨first, decodesFirst⟩ := decodeEach_mem decodes mem
      obtain ⟨inner, decodesInner⟩ := at'.decodes decodesFirst
      simp [decodeNode, decodeBasic, basicTypes] at decodesInner

/-- The codec does what it is to do except with a body whose only file descriptors are those that
empty arrays in its variants might hold. -/
theorem codec_iff (delivers : Delivers lib) (parsed : parseSignature signature = .ok nodes)
    (delivered : EachDelivered nodes body) :
    Sound lib signature nodes args body ↔
      (MentionsReceived signature nodes body → HoldsDescriptor signature nodes body) := by
  constructor
  · intro sound mentions
    exact (decodeBody_error parsed delivered).mp (sound.received mentions)
  · intro holds
    constructor
    · exact codec_roundTrip delivers parsed
    · exact fun node value => encodeBody_wide parsed
    · exact encodeBody_descriptor parsed
    · exact fun mentions => (decodeBody_error parsed delivered).mpr (holds mentions)

end Claim

/-! ### A library -/

def readNat (text : JsString) : Nat :=
  text.foldl (fun number c => 10 * number + (digitValue c).getD 0) 0

def readInt : JsString → Int
  | [] => 0
  | c :: text => if c = minusSign then -(readNat text : Int) else readNat (c :: text)

theorem readNat_printNat (n : Nat) : readNat (printNat n) = n := by
  induction n using Nat.strongRecOn with
  | ind n ih =>
    by_cases small : n < 10
    · rw [readNat, printNat_digit small, List.foldl_cons, List.foldl_nil, digitValue_ofNat small,
        Option.getD_some]
      omega
    · have ge : 10 ≤ n := Nat.le_of_not_lt small
      have front := ih (n / 10) (Nat.div_lt_self (by omega) (by decide))
      unfold readNat at front ⊢
      rw [printNat_more ge, List.foldl_append, front]
      simp only [List.foldl_cons, List.foldl_nil, digitValue_ofNat (Nat.mod_lt n (by decide)),
        Option.getD_some]
      omega

theorem readInt_printInt (value : Int) : readInt (printInt value) = value := by
  unfold printInt
  split
  · next negative =>
    rw [readInt, if_pos rfl, readNat_printNat]
    omega
  · next natural =>
    have read := readNat_printNat value.natAbs
    cases digits : printNat value.natAbs with
    | nil =>
      rw [digits] at read
      have zero : value.natAbs = 0 := read.symm
      rw [readInt]
      omega
    | cons c text =>
      have isDigit := mem_printNat (n := value.natAbs) (c := c) (by simp [digits])
      have notMinus : c ≠ minusSign := by
        rintro rfl
        exact absurd isDigit.1 (by decide)
      rw [readInt, if_neg notMinus, ← digits, readNat_printNat]
      omega

mutual

/-- What comes out of the library for what is put into it. -/
def overWire (node : SignatureNode) (value : CodecValue) : CodecValue :=
  match node with
  | .leaf .x | .leaf .t =>
    match value with
    | .string text => .long (readInt text)
    | _ => value
  | .leaf .v =>
    match value with
    | .array [.string signature, inner] =>
      match parseSignature signature with
      | .ok [node] => .array [.array [.tree node], .array [overWire node inner]]
      | _ => value
    | _ => value
  | .leaf _ => value
  | .array element =>
    match value with
    | .array items => .array (itemsOverWire element items)
    | _ => value
  | .struct fields | .dictEntry fields =>
    match value with
    | .array items => .array (eachOverWire fields items)
    | _ => value

def itemsOverWire (element : SignatureNode) : List CodecValue → List CodecValue
  | [] => []
  | item :: items => overWire element item :: itemsOverWire element items

def eachOverWire (nodes : List SignatureNode) : List CodecValue → List CodecValue
  | [] => []
  | value :: values =>
    match nodes with
    | [] => []
    | node :: nodes => overWire node value :: eachOverWire nodes values

end

theorem itemsOverWire_eq (element : SignatureNode) (items : List CodecValue) :
    itemsOverWire element items = items.map (overWire element) := by
  induction items with
  | nil => rfl
  | cons item items ih => rw [itemsOverWire, ih, List.map_cons]

theorem eachOverWire_eq (nodes : List SignatureNode) (values : List CodecValue) :
    eachOverWire nodes values = List.zipWith overWire nodes values := by
  induction values generalizing nodes with
  | nil =>
    rw [List.zipWith_nil_right]
    rfl
  | cons value values ih =>
    cases nodes with
    | nil => rfl
    | cons => rw [eachOverWire, ih, List.zipWith_cons_cons]

theorem delivers_overWire : Delivers overWire where
  int64 := by
    intro number _ _
    simp only [overWire, readInt_printInt]
  uint64 := by
    intro number _ _
    simp only [overWire, readInt_printInt]
  basic := by
    intro type value isBasic
    cases type <;> simp_all [overWire, basicTypes]
  bytes := by
    intro element bytes
    simp only [overWire]
  array := by
    intro element items
    simp only [overWire, itemsOverWire_eq]
  struct := by
    intro fields items
    simp only [overWire, eachOverWire_eq]
  dictEntry := by
    intro fields items
    simp only [overWire, eachOverWire_eq]
  variant := by
    intro signature node value parsed
    simp only [overWire, parsed]

/-! ### A variant -/

theorem parse_variant : parseSignature (js "v") = .ok [.leaf .v] := by
  have text : js "v" = [TypeCode.v.unit] := by decide
  rw [parseSignature, text]
  simp [parseTypes, parseOne_leaf]

/-- A file descriptor in a variant is refused. -/
theorem codec_descriptor :
    Sound overWire (js "v") [.leaf .v] [.variant (js "t") (.bigint 5)]
      [.array [.array [.tree (.leaf .h)], .array [.number .nan]]] := by
  refine (codec_iff delivers_overWire parse_variant ?_).mpr fun _ => ?_
  · exact .cons (.variant .descriptor) .nil
  · exact .inr ⟨_, _, _, List.mem_cons_self, .inner rfl .here⟩

/-- An empty array of file descriptors in a variant is not. -/
theorem codec_noDescriptors :
    EachDelivered [.leaf .v] [.array [.array [.tree (.array (.leaf .h))], .array [.array []]]] ∧
      decodeBody (js "v") [.array [.array [.tree (.array (.leaf .h))], .array [.array []]]] =
        .ok [.variant (js "ah") (.array [])] ∧
      ¬ Sound overWire (js "v") [.leaf .v] []
        [.array [.array [.tree (.array (.leaf .h))], .array [.array []]]] := by
  have decodes : decodeBody (js "v")
      [.array [.array [.tree (.array (.leaf .h))], .array [.array []]]] =
        .ok [.variant (js "ah") (.array [])] := by
    have supported : unsupportedType ∉ js "v" := by decide
    rw [decodeBody, if_neg supported]
    simp only [parse_variant]
    rfl
  refine ⟨.cons (.variant (.array .nil)) .nil, decodes, fun sound => ?_⟩
  obtain ⟨error, failed⟩ := sound.received (.inr ⟨_, _, _, ⟨_, _, List.mem_cons_self, .here⟩, rfl,
    List.mem_cons_of_mem _ List.mem_cons_self⟩)
  rw [decodes] at failed
  cases failed

end ModemStack.Transport
