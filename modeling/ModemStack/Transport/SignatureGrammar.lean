import ModemStack.Transport.Codec

/-!
Which texts the parser of signatures takes.

It takes every sequence of types whose brackets are read to where they close (`parse_readable`), a
superset of the signatures of D-Bus: closing brackets and the reserved letters pass for types, and
nothing is asked of what stands between brackets. `exact_iff` says when this shows.
-/

namespace ModemStack.Transport

open ModemStack.Text

/-! ### The grammar -/

/-- The types that can be the key of a dict entry. -/
def basicCodes : List TypeCode := [.y, .b, .n, .q, .i, .u, .x, .t, .d, .s, .o, .g, .h]

/-- The complete types of D-Bus. -/
inductive CompleteType : JsString → Prop where
  | basic {code : TypeCode} (isBasic : code ∈ basicCodes) : CompleteType [code.unit]
  | variant : CompleteType [TypeCode.v.unit]
  | array {element : JsString} (complete : CompleteType element) :
      CompleteType (arrayUnit :: element)
  | dict {key : TypeCode} {value : JsString} (isBasic : key ∈ basicCodes)
      (complete : CompleteType value) :
      CompleteType (arrayUnit :: openBrace :: key.unit :: (value ++ [TypeCode.closeBrace.unit]))
  | struct {fields : List JsString} (some : fields ≠ [])
      (complete : ∀ field ∈ fields, CompleteType field) :
      CompleteType (openParen :: (fields.flatten ++ [TypeCode.closeParen.unit]))

def IsSignature (text : JsString) : Prop :=
  ∃ types : List JsString, types.flatten = text ∧ ∀ type ∈ types, CompleteType type

/-! ### What is wrong with a type -/

mutual

/-- A reserved letter or a closing bracket for a type, a struct of nothing, or a dict entry that
does not lie directly in an array or is no basic key with one value. -/
def SignatureNode.flawed (inArray : Bool) : SignatureNode → Bool
  | .leaf code => code ∈ [TypeCode.r, .e, .closeBrace, .closeParen]
  | .array element => element.flawed true
  | .struct fields => fields.isEmpty || anyFlawed fields
  | .dictEntry [.leaf key, value] => !inArray || decide (key ∉ basicCodes) || value.flawed false
  | .dictEntry _ => true

def anyFlawed : List SignatureNode → Bool
  | [] => false
  | node :: nodes => node.flawed false || anyFlawed nodes

end

attribute [local simp] SignatureNode.flawed anyFlawed

/-- What holds of a type when it holds of its parts. -/
theorem SignatureNode.inductionOn {P : SignatureNode → Prop} (leaf : ∀ code, P (.leaf code))
    (array : ∀ element, P element → P (.array element))
    (struct : ∀ fields, (∀ field ∈ fields, P field) → P (.struct fields))
    (dictEntry : ∀ fields, (∀ field ∈ fields, P field) → P (.dictEntry fields)) :
    ∀ node, P node
  | .leaf code => leaf code
  | .array element => array element (inductionOn leaf array struct dictEntry element)
  | .struct fields => struct fields fun field _ => inductionOn leaf array struct dictEntry field
  | .dictEntry fields =>
    dictEntry fields fun field _ => inductionOn leaf array struct dictEntry field

/-- Read as types, the text has nothing wrong. -/
def Faultless (text : JsString) : Prop :=
  ∀ nodes, signatureFromNodes nodes = text → (∀ node ∈ nodes, node.Readable) →
    ∀ node ∈ nodes, node.flawed false = false

theorem anyFlawed_eq_false {nodes : List SignatureNode} :
    anyFlawed nodes = false ↔ ∀ node ∈ nodes, node.flawed false = false := by
  induction nodes with
  | nil => simp
  | cons node nodes ih => rw [anyFlawed, Bool.or_eq_false_iff, ih, List.forall_mem_cons]

theorem signatureFromNodes_eq_flatMap (nodes : List SignatureNode) :
    signatureFromNodes nodes = nodes.flatMap signatureFromNode := by
  induction nodes with
  | nil => rfl
  | cons node nodes ih => rw [signatureFromNodes, ih, List.flatMap_cons]

/-! ### The parser takes what can be read -/

section Parser

variable {signature : JsString}

theorem signatureFromNode_cons (node : SignatureNode) :
    ∃ text, signatureFromNode node = node.type :: text := by
  cases node with
  | leaf => exact ⟨[], rfl⟩
  | array element => exact ⟨signatureFromNode element, rfl⟩
  | struct fields => exact ⟨signatureFromNodes fields ++ [TypeCode.closeParen.unit], rfl⟩
  | dictEntry fields => exact ⟨signatureFromNodes fields ++ [TypeCode.closeBrace.unit], rfl⟩

/-- The node is what the parser makes of its text, whatever follows. -/
def Parses (signature : JsString) (node : SignatureNode) : Prop :=
  ∀ text rest, signatureFromNode node = node.type :: text →
    ∃ le, parseOne signature node.type (text ++ rest) = .ok ⟨(node, rest), le⟩

theorem parseFields_of (opened : UInt16) {close : UInt16} {fields : List SignatureNode}
    (rest : JsString)
    (parses : ∀ field ∈ fields, Parses signature field)
    (inside : ∀ field ∈ fields, field.type ≠ close) :
    ∃ le, parseFields signature opened close (signatureFromNodes fields ++ close :: rest) =
      .ok ⟨(fields, rest), le⟩ := by
  induction fields with
  | nil =>
    simp only [signatureFromNodes, List.nil_append]
    rw [parseFields.eq_def]
    exact ⟨Nat.le_succ _, by simp⟩
  | cons field fields ih =>
    obtain ⟨text, isText⟩ := signatureFromNode_cons field
    obtain ⟨parsesField, parsesRest⟩ := List.forall_mem_cons.mp parses
    obtain ⟨insideField, insideRest⟩ := List.forall_mem_cons.mp inside
    obtain ⟨le, ok⟩ := parsesField text (signatureFromNodes fields ++ close :: rest) isText
    obtain ⟨le', ok'⟩ := ih parsesRest insideRest
    have split : signatureFromNodes (field :: fields) ++ close :: rest =
        field.type :: (text ++ (signatureFromNodes fields ++ close :: rest)) := by
      rw [signatureFromNodes, isText, List.append_assoc, List.cons_append]
    rw [split, parseFields.eq_def]
    simp only [if_neg insideField, ok, ok']
    exact ⟨by simp; omega, trivial⟩

theorem parses_of_readable (signature : JsString) {node : SignatureNode} (readable : node.Readable) :
    Parses signature node := by
  induction readable with
  | leaf code =>
    intro text rest isText
    cases isText
    exact ⟨Nat.le_refl _, parseOne_leaf signature code rest⟩
  | @array element readable ih =>
    intro text rest isText
    cases isText
    obtain ⟨text, isText⟩ := signatureFromNode_cons element
    obtain ⟨le, ok⟩ := ih text rest isText
    rw [parseOne.eq_def, SignatureNode.type, if_pos rfl, isText]
    simp only [List.cons_append, ok]
    exact ⟨Nat.le_succ_of_le le, trivial⟩
  | @struct fields readable inside ih =>
    intro text rest isText
    cases isText
    obtain ⟨le, ok⟩ := parseFields_of openParen rest ih inside
    rw [List.append_assoc, List.singleton_append, parseOne.eq_def, SignatureNode.type,
      if_neg (by decide), if_neg (by decide), if_pos rfl]
    simp only [ok]
    exact ⟨le, trivial⟩
  | @dictEntry fields readable inside ih =>
    intro text rest isText
    cases isText
    obtain ⟨le, ok⟩ := parseFields_of openBrace rest ih inside
    rw [List.append_assoc, List.singleton_append, parseOne.eq_def, SignatureNode.type,
      if_neg (by decide), if_pos rfl]
    simp only [ok]
    exact ⟨le, trivial⟩

theorem parseTypes_readable {nodes : List SignatureNode}
    (readable : ∀ node ∈ nodes, node.Readable) :
    parseTypes signature (signatureFromNodes nodes) = .ok nodes := by
  induction nodes with
  | nil => rw [signatureFromNodes, parseTypes]
  | cons node nodes ih =>
    obtain ⟨first, others⟩ := List.forall_mem_cons.mp readable
    obtain ⟨text, isText⟩ := signatureFromNode_cons node
    obtain ⟨le, ok⟩ := parses_of_readable signature first text
      (signatureFromNodes nodes) isText
    rw [signatureFromNodes, isText, List.cons_append, parseTypes.eq_def]
    simp only [ok, ih others]

/-- What is parsed is the one reading of the text. -/
theorem parse_readable {text : JsString} {nodes : List SignatureNode} :
    parseSignature text = .ok nodes ↔
      signatureFromNodes nodes = text ∧ ∀ node ∈ nodes, node.Readable := by
  constructor
  · exact parseTypes_reads
  · rintro ⟨rfl, readable⟩
    exact parseTypes_readable readable

end Parser

/-! ### What has nothing wrong is a signature -/

instance : Nonempty SignatureNode := ⟨.leaf .v⟩

section Grammar

variable {node : SignatureNode} {nodes : List SignatureNode} {inArray : Bool}

theorem type_of_flawless (flawless : node.flawed inArray = false) :
    node.type ≠ TypeCode.closeParen.unit ∧ node.type ≠ TypeCode.closeBrace.unit := by
  cases node with
  | leaf code =>
    rw [SignatureNode.flawed] at flawless
    cases code <;> revert flawless <;> decide
  | array => exact ⟨by simp [SignatureNode.type, arrayUnit, TypeCode.unit],
      by simp [SignatureNode.type, arrayUnit, TypeCode.unit]⟩
  | struct => exact ⟨by simp [SignatureNode.type, openParen, TypeCode.unit],
      by simp [SignatureNode.type, openParen, TypeCode.unit]⟩
  | dictEntry => exact ⟨by simp [SignatureNode.type, openBrace, TypeCode.unit],
      by simp [SignatureNode.type, openBrace, TypeCode.unit]⟩

/-- A dict entry with nothing wrong has a basic key and one value. -/
theorem flawless_dictEntry {fields : List SignatureNode}
    (flawless : (SignatureNode.dictEntry fields).flawed inArray = false) :
    ∃ key value, fields = [.leaf key, value] ∧ inArray = true ∧ key ∈ basicCodes ∧
      value.flawed false = false := by
  unfold SignatureNode.flawed at flawless
  split at flawless
  · next isLeaf => cases isLeaf
  · next isArray => cases isArray
  · next isStruct => cases isStruct
  · next key value isEntry =>
      cases isEntry
      simp only [Bool.or_eq_false_iff, Bool.not_eq_false', decide_eq_false_iff_not,
        Decidable.not_not] at flawless
      exact ⟨key, value, rfl, flawless.1.1, flawless.1.2, flawless.2⟩
  · cases flawless

theorem flawless_struct {fields : List SignatureNode}
    (flawless : (SignatureNode.struct fields).flawed inArray = false) :
    fields ≠ [] ∧ ∀ field ∈ fields, field.flawed false = false := by
  rw [SignatureNode.flawed, Bool.or_eq_false_iff, anyFlawed_eq_false] at flawless
  refine ⟨fun none => ?_, flawless.2⟩
  simp [none] at flawless

theorem readable_of_flawless (flawless : node.flawed inArray = false) : node.Readable := by
  induction node using SignatureNode.inductionOn generalizing inArray with
  | leaf code => exact .leaf code
  | array element ih => exact .array (ih flawless)
  | struct fields ih =>
    have parts := (flawless_struct flawless).2
    exact .struct (fun field mem => ih field mem (parts field mem))
      fun field mem => (type_of_flawless (parts field mem)).1
  | dictEntry fields ih =>
    obtain ⟨key, value, rfl, -, isBasic, flawlessValue⟩ := flawless_dictEntry flawless
    have flawlessKey : (SignatureNode.leaf key).flawed false = false := by
      revert isBasic
      cases key <;> decide
    have parts : ∀ field ∈ [SignatureNode.leaf key, value], field.flawed false = false :=
      List.forall_mem_cons.mpr ⟨flawlessKey, List.forall_mem_singleton.mpr flawlessValue⟩
    exact .dictEntry (fun field mem => ih field mem (parts field mem))
      fun field mem => (type_of_flawless (parts field mem)).2

/-- A type with nothing wrong is complete, and in an array it makes a complete type of that. -/
theorem completeType_of_flawless :
    (node.flawed false = false → CompleteType (signatureFromNode node)) ∧
      (node.flawed true = false → CompleteType (arrayUnit :: signatureFromNode node)) := by
  induction node using SignatureNode.inductionOn with
  | leaf code =>
    have complete : (SignatureNode.leaf code).flawed false = false →
        CompleteType (signatureFromNode (.leaf code)) := by
      intro flawless
      by_cases isBasic : code ∈ basicCodes
      · exact .basic isBasic
      · have isVariant : code = .v := by
          rw [SignatureNode.flawed] at flawless
          revert isBasic flawless
          cases code <;> decide
        rw [isVariant]
        exact .variant
    exact ⟨complete, fun flawless => .array (complete flawless)⟩
  | array element ih => exact ⟨ih.2, fun flawless => .array (ih.2 flawless)⟩
  | struct fields ih =>
    have complete : (SignatureNode.struct fields).flawed false = false →
        CompleteType (signatureFromNode (.struct fields)) := by
      intro flawless
      obtain ⟨some, parts⟩ := flawless_struct flawless
      rw [signatureFromNode, signatureFromNodes_eq_flatMap, List.flatMap_def]
      refine .struct (by simpa using some) fun text mem => ?_
      obtain ⟨field, isField, rfl⟩ := List.mem_map.mp mem
      exact (ih field isField).1 (parts field isField)
    exact ⟨complete, fun flawless => .array (complete flawless)⟩
  | dictEntry fields ih =>
    constructor
    · intro flawless
      obtain ⟨key, value, -, lies, -⟩ := flawless_dictEntry flawless
      cases lies
    · intro flawless
      obtain ⟨key, value, rfl, -, isBasic, flawlessValue⟩ := flawless_dictEntry flawless
      have complete := (ih value (by simp)).1 flawlessValue
      simpa [signatureFromNode, signatureFromNodes] using CompleteType.dict isBasic complete

variable {text : JsString}

theorem flawless_of_completeType (complete : CompleteType text) :
    ∃ node : SignatureNode, node.flawed false = false ∧ signatureFromNode node = text := by
  induction complete with
  | @basic code isBasic =>
    refine ⟨.leaf code, ?_, rfl⟩
    revert isBasic
    cases code <;> decide
  | variant => exact ⟨.leaf .v, by decide, rfl⟩
  | array complete ih =>
    obtain ⟨element, flawless, rfl⟩ := ih
    refine ⟨.array element, ?_, rfl⟩
    rw [SignatureNode.flawed]
    cases element with
    | leaf | array | struct => exact flawless
    | dictEntry =>
      obtain ⟨key, value, -, lies, -⟩ := flawless_dictEntry flawless
      cases lies
  | @dict key value isBasic complete ih =>
    obtain ⟨node, flawless, rfl⟩ := ih
    refine ⟨.array (.dictEntry [.leaf key, node]), ?_, ?_⟩
    · simp [flawless, isBasic]
    · simp [signatureFromNode, signatureFromNodes]
  | @struct fields some complete ih =>
    choose! node flawless isText using ih
    refine ⟨.struct (fields.map node), ?_, ?_⟩
    · rw [SignatureNode.flawed, Bool.or_eq_false_iff, anyFlawed_eq_false]
      refine ⟨by simpa using some, fun part mem => ?_⟩
      obtain ⟨field, isField, rfl⟩ := List.mem_map.mp mem
      exact flawless field isField
    · rw [signatureFromNode, signatureFromNodes_eq_flatMap, List.flatMap_def, List.map_map]
      have same : fields.map (signatureFromNode ∘ node) = fields :=
        (List.map_congr_left fun field isField => isText field isField).trans (List.map_id fields)
      rw [same]

theorem isSignature_iff : IsSignature text ↔
    ∃ nodes, (∀ node ∈ nodes, SignatureNode.flawed false node = false) ∧
      signatureFromNodes nodes = text := by
  constructor
  · rintro ⟨types, rfl, complete⟩
    choose! node flawless isText using
      fun (type : JsString) (mem : type ∈ types) => flawless_of_completeType (complete type mem)
    refine ⟨types.map node, ?_, ?_⟩
    · intro part mem
      obtain ⟨type, isType, rfl⟩ := List.mem_map.mp mem
      exact flawless type isType
    · rw [signatureFromNodes_eq_flatMap, List.flatMap_def, List.map_map]
      have same : types.map (signatureFromNode ∘ node) = types :=
        (List.map_congr_left fun type isType => isText type isType).trans (List.map_id types)
      rw [same]
  · rintro ⟨nodes, flawless, rfl⟩
    refine ⟨nodes.map signatureFromNode, ?_, fun type mem => ?_⟩
    · rw [signatureFromNodes_eq_flatMap, List.flatMap_def]
    · obtain ⟨node, isNode, rfl⟩ := List.mem_map.mp mem
      exact completeType_of_flawless.1 (flawless node isNode)

/-- The parser takes every signature, and nothing else if the text has nothing wrong. -/
theorem accepts_iff_faultless :
    ((parseSignature text).isOk = true ↔ IsSignature text) ↔ Faultless text := by
  have reads {nodes : List SignatureNode} (parsed : parseSignature text = .ok nodes) :
      (parseSignature text).isOk = true := by rw [parsed]; rfl
  constructor
  · intro accepts nodes isText readable
    have parsed := parse_readable.mpr ⟨isText, readable⟩
    obtain ⟨others, flawless, isText'⟩ := isSignature_iff.mp (accepts.mp (reads parsed))
    have parsed' := parse_readable.mpr
      ⟨isText', fun node mem => readable_of_flawless (flawless node mem)⟩
    cases parsed.symm.trans parsed'
    exact flawless
  · intro faultless
    constructor
    · intro isOk
      cases parsed : parseSignature text with
      | error => simp [parsed, Except.isOk, Except.toBool] at isOk
      | ok nodes =>
        obtain ⟨isText, readable⟩ := parse_readable.mp parsed
        exact isSignature_iff.mpr ⟨nodes, faultless nodes isText readable, isText⟩
    · intro isSignature
      obtain ⟨nodes, flawless, isText⟩ := isSignature_iff.mp isSignature
      exact reads (parse_readable.mpr
        ⟨isText, fun node mem => readable_of_flawless (flawless node mem)⟩)

end Grammar

/-! ### A missing part -/

mutual

/-- The signatures of the variants in a value. -/
def CodecValue.signatures : CodecValue → List JsString
  | .array items => signaturesOf items
  | .variant signature value => signature :: value.signatures
  | _ => []

def signaturesOf : List CodecValue → List JsString
  | [] => []
  | value :: values => value.signatures ++ signaturesOf values

end

/-- What holds of a value when it holds of the values in it. -/
theorem CodecValue.inductionOn {P : CodecValue → Prop}
    (array : ∀ items, (∀ item ∈ items, P item) → P (.array items))
    (variant : ∀ signature value, P value → P (.variant signature value))
    (plain : ∀ value, (∀ items, value ≠ .array items) →
      (∀ signature inner, value ≠ .variant signature inner) → P value) : ∀ value, P value
  | .array items => array items fun item _ => inductionOn array variant plain item
  | .variant signature value => variant signature value (inductionOn array variant plain value)
  | .undefined | .string _ | .number _ | .boolean _ | .bigint _ | .bytes _ | .long _ | .tree _ =>
    plain _ nofun nofun

theorem signaturesOf_eq_flatMap (values : List CodecValue) :
    signaturesOf values = values.flatMap CodecValue.signatures := by
  induction values with
  | nil => rfl
  | cons value values ih => rw [signaturesOf, ih, List.flatMap_cons]

section Encode

variable {inArray : Bool}

theorem ok_ne_typeError {α : Type} {a : α} :
    (.ok a : Except CodecError α) ≠ .error .typeError := by simp

theorem bind_ne_typeError {α β : Type} {x : Except CodecError α} {f : α → Except CodecError β}
    (first : x ≠ .error .typeError) (later : ∀ a, f a ≠ .error .typeError) :
    (x >>= f) ≠ .error .typeError := by
  cases x with
  | ok a => exact later a
  | error => exact fun same => first (by cases same; rfl)

theorem encodeItems_ne {element : SignatureNode} {items : List CodecValue}
    (each : ∀ item ∈ items, encodeNode element item ≠ .error .typeError) :
    encodeItems element items ≠ .error .typeError := by
  induction items with
  | nil => exact ok_ne_typeError
  | cons item items ih =>
    obtain ⟨first, others⟩ := List.forall_mem_cons.mp each
    rw [encodeItems]
    exact bind_ne_typeError first fun _ => bind_ne_typeError (ih others) fun _ => ok_ne_typeError

theorem encodeEach_ne {nodes : List SignatureNode} {values : List CodecValue}
    (each : ∀ node ∈ nodes, ∀ value ∈ values, encodeNode node value ≠ .error .typeError) :
    encodeEach nodes values ≠ .error .typeError := by
  induction values generalizing nodes with
  | nil => exact ok_ne_typeError
  | cons value values ih =>
    cases nodes with
    | nil => exact ok_ne_typeError
    | cons node nodes =>
      rw [encodeEach]
      refine bind_ne_typeError (each node (by simp) value (by simp)) fun _ =>
        bind_ne_typeError (ih fun node isNode value isValue => ?_) fun _ => ok_ne_typeError
      exact each node (by simp [isNode]) value (by simp [isValue])

theorem encode64_ne (code : TypeCode) (value : CodecValue) (min max : Int) :
    encode64 code value min max ≠ .error .typeError := by
  unfold encode64
  split
  · split <;> nofun
  · nofun

theorem encodeNode_leaf_ne {code : TypeCode} (fixed : code ≠ .v) (value : CodecValue) :
    encodeNode (.leaf code) value ≠ .error .typeError := by
  rw [encodeNode.eq_def]
  cases code
  case x => exact encode64_ne _ _ _ _
  case t => exact encode64_ne _ _ _ _
  case v => exact absurd rfl fixed
  all_goals simp

/-- A type with nothing wrong has every part that its encoder asks for. -/
theorem encodeNode_flawless {value : CodecValue} {node : SignatureNode} {inArray : Bool}
    (flawless : node.flawed inArray = false)
    (faultless : ∀ text ∈ value.signatures, Faultless text) :
    encodeNode node value ≠ .error .typeError := by
  induction value using CodecValue.inductionOn generalizing node inArray with
  | array items ih =>
    have each : ∀ item ∈ items, ∀ {node : SignatureNode} {inArray : Bool},
        node.flawed inArray = false → encodeNode node item ≠ .error .typeError := by
      intro item mem node inArray flawless
      refine ih item mem flawless fun text listed => faultless text ?_
      rw [CodecValue.signatures, signaturesOf_eq_flatMap]
      exact List.mem_flatMap.mpr ⟨item, mem, listed⟩
    cases node with
    | leaf code =>
      by_cases isVariant : code = .v
      · subst isVariant
        rw [encodeNode.eq_def]
        simp
      · exact encodeNode_leaf_ne isVariant _
    | array =>
      rw [encodeNode]
      exact bind_ne_typeError (encodeItems_ne fun item mem => each item mem flawless)
        fun _ => ok_ne_typeError
    | struct =>
      rw [encodeNode]
      split
      · simp
      · refine bind_ne_typeError (encodeEach_ne fun field isField item mem => ?_)
          fun _ => ok_ne_typeError
        exact each item mem ((flawless_struct flawless).2 field isField)
    | dictEntry =>
      obtain ⟨key, valueNode, rfl, -, isBasic, flawlessValue⟩ := flawless_dictEntry flawless
      have fixed : key ≠ .v := by
        rintro rfl
        exact absurd isBasic (by decide)
      rw [encodeNode.eq_def]
      rcases items with _ | ⟨first, _ | ⟨second, _ | ⟨third, rest⟩⟩⟩
      case cons.cons.nil =>
        refine bind_ne_typeError (encodeNode_leaf_ne fixed first) fun _ => ?_
        exact bind_ne_typeError (each second (by simp) flawlessValue)
          fun _ => ok_ne_typeError
      all_goals simp
  | variant signature inner ih =>
    cases node with
    | leaf code =>
      by_cases isVariant : code = .v
      · subst isVariant
        rw [encodeNode.eq_def]
        simp only
        split
        · simp
        · split
          · simp
          · next parsed =>
            obtain ⟨isText, readable⟩ := parse_readable.mp parsed
            have flawless' := faultless signature List.mem_cons_self _ isText readable _
              List.mem_cons_self
            exact bind_ne_typeError (ih flawless' fun text listed =>
              faultless text (List.mem_cons_of_mem _ listed)) fun _ => ok_ne_typeError
          · simp
      · exact encodeNode_leaf_ne isVariant _
    | array | struct | dictEntry => rw [encodeNode.eq_def]; simp
  | plain value notArray notVariant =>
    cases node with
    | leaf code =>
      by_cases isVariant : code = .v
      · subst isVariant
        rw [encodeNode.eq_def]
        cases value <;> first | exact absurd rfl (notVariant _ _) | simp
      · exact encodeNode_leaf_ne isVariant _
    | array =>
      rw [encodeNode.eq_def]
      cases value with
      | array items => exact absurd rfl (notArray items)
      | bytes =>
        simp only
        split <;> simp
      | _ => simp
    | struct | dictEntry =>
      rw [encodeNode.eq_def]
      cases value <;> first | exact absurd rfl (notArray _) | simp

theorem encodeBody_faultless {signature : JsString} {args : List CodecValue}
    (faultless : Faultless signature)
    (inside : ∀ text ∈ args.flatMap CodecValue.signatures, Faultless text) :
    encodeBody signature args ≠ .error .typeError := by
  unfold encodeBody
  split
  · simp
  · split
    · simp
    · next nodes parsed =>
      split
      · simp
      · obtain ⟨isText, readable⟩ := parse_readable.mp parsed
        refine encodeEach_ne fun node isNode value isValue => ?_
        exact encodeNode_flawless (faultless nodes isText readable node isNode) fun text listed =>
          inside text (List.mem_flatMap.mpr ⟨value, isValue, listed⟩)

end Encode

/-! ### Exactly the grammar -/

/-- The signature of a body and those of the variants in it are parsed by the grammar, the parsed
types spell them, and encoding meets no type without a part that it should have. -/
def Exact (signature : JsString) (args : List CodecValue) : Prop :=
  (∀ text ∈ signature :: args.flatMap CodecValue.signatures,
    ((parseSignature text).isOk = true ↔ IsSignature text) ∧
      ∀ nodes, parseSignature text = .ok nodes → nodes.flatMap signatureFromNode = text) ∧
    encodeBody signature args ≠ .error .typeError

/-- Signatures are parsed by the grammar unless one of them can be read as types of which one has
something wrong. -/
theorem exact_iff (signature : JsString) (args : List CodecValue) :
    Exact signature args ↔
      ∀ text ∈ signature :: args.flatMap CodecValue.signatures, Faultless text := by
  constructor
  · intro exact text listed
    exact accepts_iff_faultless.mp (exact.1 text listed).1
  · intro faultless
    refine ⟨fun text listed => ⟨accepts_iff_faultless.mpr (faultless text listed), ?_⟩, ?_⟩
    · intro nodes parsed
      rw [← signatureFromNodes_eq_flatMap]
      exact signatureFromNodes_of_parse parsed
    · obtain ⟨first, others⟩ := List.forall_mem_cons.mp faultless
      exact encodeBody_faultless first others

/-- A dict entry of nothing is accepted, and the encoder asks for its key. -/
theorem emptyEntry_accepted :
    parseSignature (js "a\x7b\x7d") = .ok [.array (.dictEntry [])] ∧
      ¬ IsSignature (js "a\x7b\x7d") ∧
      encodeBody (js "a\x7b\x7d") [.array [.array [.string [], .string []]]] =
        .error .typeError := by
  have readable : ∀ node ∈ [SignatureNode.array (.dictEntry [])], node.Readable := by
    simp only [List.forall_mem_singleton]
    exact .array (.dictEntry nofun nofun)
  have parsed : parseSignature (js "a\x7b\x7d") = .ok [.array (.dictEntry [])] :=
    parse_readable.mpr ⟨rfl, readable⟩
  refine ⟨parsed, fun isSignature => ?_, ?_⟩
  · obtain ⟨nodes, flawless, isText⟩ := isSignature_iff.mp isSignature
    have parsed' := parse_readable.mpr
      ⟨isText, fun node mem => readable_of_flawless (flawless node mem)⟩
    cases parsed.symm.trans parsed'
    exact absurd (flawless _ List.mem_cons_self) (by decide)
  · unfold encodeBody
    rw [if_neg (by decide), parsed]
    simp [encodeEach, encodeNode, encodeItems]
    rfl

-- a closing bracket with nothing before it
example : parseSignature (js ")") = .ok [.leaf .closeParen] :=
  parse_readable.mpr ⟨rfl, by simp [SignatureNode.Readable.leaf]⟩

end ModemStack.Transport
