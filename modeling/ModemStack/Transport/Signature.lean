import ModemStack.Text.JsString

/-!
D-Bus signatures: the parser of the transport, and the text of a parsed type.

A tree has a constructor for each kind of type, so that an array has its element. A dict entry is
any list of types between braces: how many there are is not the parser's business.
-/

namespace ModemStack.Transport

open ModemStack.Text

/-- The known types that have no parts. -/
inductive TypeCode where
  | y
  | b
  | n
  | q
  | i
  | u
  | x
  | t
  | d
  | s
  | o
  | g
  | r
  | v
  | h
  | e
  | closeBrace
  | closeParen
deriving DecidableEq, Repr

namespace TypeCode

def unit : TypeCode → UInt16
  | .y => 0x79
  | .b => 0x62
  | .n => 0x6E
  | .q => 0x71
  | .i => 0x69
  | .u => 0x75
  | .x => 0x78
  | .t => 0x74
  | .d => 0x64
  | .s => 0x73
  | .o => 0x6F
  | .g => 0x67
  | .r => 0x72
  | .v => 0x76
  | .h => 0x68
  | .e => 0x65
  | .closeBrace => 0x7D
  | .closeParen => 0x29

def all : List TypeCode :=
  [.y, .b, .n, .q, .i, .u, .x, .t, .d, .s, .o, .g, .r, .v, .h, .e, .closeBrace, .closeParen]

/-- The type of a letter. -/
def ofUnit (unit : UInt16) : Option TypeCode := all.find? fun type => type.unit = unit

theorem unit_of_ofUnit {unit : UInt16} {type : TypeCode} (isType : ofUnit unit = some type) :
    type.unit = unit := by
  simpa using List.find?_some isType

theorem ofUnit_unit (type : TypeCode) : ofUnit type.unit = some type := by
  cases type <;> rfl

end TypeCode

def arrayUnit : UInt16 := 0x61

def openBrace : UInt16 := 0x7B

def openParen : UInt16 := 0x28

/-- The letter of a file descriptor. -/
abbrev unsupportedType : UInt16 := TypeCode.h.unit

inductive SignatureNode where
  | leaf (type : TypeCode)
  | array (element : SignatureNode)
  | struct (fields : List SignatureNode)
  | dictEntry (fields : List SignatureNode)

/-- The letter that a node's type begins with. -/
def SignatureNode.type : SignatureNode → UInt16
  | .leaf type => type.unit
  | .array _ => arrayUnit
  | .struct _ => openParen
  | .dictEntry _ => openBrace

/-! ### The text of a type -/

mutual

def signatureFromNode : SignatureNode → JsString
  | .leaf type => [type.unit]
  | .array element => arrayUnit :: signatureFromNode element
  | .struct fields => openParen :: (signatureFromNodes fields ++ [TypeCode.closeParen.unit])
  | .dictEntry fields => openBrace :: (signatureFromNodes fields ++ [TypeCode.closeBrace.unit])

def signatureFromNodes : List SignatureNode → JsString
  | [] => []
  | node :: nodes => signatureFromNode node ++ signatureFromNodes nodes

end

/-- A type whose brackets close where they are read to: no part between them begins with the
closing bracket. -/
inductive SignatureNode.Readable : SignatureNode → Prop where
  | leaf (type : TypeCode) : (SignatureNode.leaf type).Readable
  | array {element : SignatureNode} (readable : element.Readable) : (array element).Readable
  | struct {fields : List SignatureNode} (readable : ∀ field ∈ fields, field.Readable)
      (inside : ∀ field ∈ fields, field.type ≠ TypeCode.closeParen.unit) :
      (struct fields).Readable
  | dictEntry {fields : List SignatureNode} (readable : ∀ field ∈ fields, field.Readable)
      (inside : ∀ field ∈ fields, field.type ≠ TypeCode.closeBrace.unit) :
      (dictEntry fields).Readable

/-! ### The parser -/

/-- What has been parsed, and what is left of the text. -/
abbrev Parsed (α : Type) (rest : JsString) : Type :=
  { parsed : α × JsString // parsed.2.length ≤ rest.length }

section Parser

-- the whole text, which errors quote
variable (signature : JsString)

mutual

/-- Parse the type that begins with `unit`. -/
def parseOne (unit : UInt16) (rest : JsString) : Except JsString (Parsed SignatureNode rest) :=
  if unit = arrayUnit then
    match rest with
    | [] => .error (js "Bad signature \"" ++ signature ++ js "\": array with no element type")
    | element :: rest =>
      match parseOne element rest with
      | .error error => .error error
      | .ok ⟨(node, after), le⟩ => .ok ⟨(.array node, after), Nat.le_succ_of_le le⟩
  else if unit = openBrace then
    match parseFields openBrace TypeCode.closeBrace.unit rest with
    | .error error => .error error
    | .ok ⟨(fields, after), le⟩ => .ok ⟨(.dictEntry fields, after), le⟩
  else if unit = openParen then
    match parseFields openParen TypeCode.closeParen.unit rest with
    | .error error => .error error
    | .ok ⟨(fields, after), le⟩ => .ok ⟨(.struct fields, after), le⟩
  else match TypeCode.ofUnit unit with
    | some type => .ok ⟨(.leaf type, rest), Nat.le_refl _⟩
    | none => .error (js "Unknown D-Bus type \"" ++ [unit] ++ js "\" in signature \"" ++ signature ++
        js "\"")
termination_by (rest.length, 1)

/-- Parse the types up to `close`. -/
def parseFields (opened close : UInt16) (rest : JsString) :
    Except JsString (Parsed (List SignatureNode) rest) :=
  match rest with
  | [] => .error (js "Bad signature \"" ++ signature ++ js "\": unterminated \"" ++ [opened] ++
      js "\"")
  | element :: rest =>
    if element = close then .ok ⟨([], rest), Nat.le_succ _⟩
    else match parseOne element rest with
      | .error error => .error error
      | .ok ⟨(node, after), le⟩ =>
        have _ : after.length ≤ rest.length := le
        match parseFields opened close after with
        | .error error => .error error
        | .ok ⟨(nodes, last), le'⟩ =>
          .ok ⟨(node :: nodes, last), Nat.le_succ_of_le (Nat.le_trans le' le)⟩
termination_by (rest.length, 0)

end

/-- Parse the complete types of a text. -/
def parseTypes (rest : JsString) : Except JsString (List SignatureNode) :=
  match rest with
  | [] => .ok []
  | unit :: rest =>
    match parseOne signature unit rest with
    | .error error => .error error
    | .ok ⟨(node, after), le⟩ =>
      have _ : after.length ≤ rest.length := le
      match parseTypes after with
      | .error error => .error error
      | .ok nodes => .ok (node :: nodes)
termination_by rest.length
decreasing_by exact Nat.lt_succ_of_le le

end Parser

def parseSignature (signature : JsString) : Except JsString (List SignatureNode) :=
  parseTypes signature signature

theorem parseOne_leaf (signature : JsString) (type : TypeCode) (rest : JsString) :
    parseOne signature type.unit rest = .ok ⟨(.leaf type, rest), Nat.le_refl _⟩ := by
  have isType := TypeCode.ofUnit_unit type
  rw [parseOne.eq_def]
  have notArray : type.unit ≠ arrayUnit := by cases type <;> decide
  have notBrace : type.unit ≠ openBrace := by cases type <;> decide
  have notParen : type.unit ≠ openParen := by cases type <;> decide
  simp only [if_neg notArray, if_neg notBrace, if_neg notParen, isType]

/-! ### Nothing is lost -/

section Text

variable {signature : JsString}

/-- A parsed type is the text that has been read, and closes where it was read to. -/
theorem parse_reads :
    (∀ unit rest, ∀ parsed : Parsed SignatureNode rest,
      parseOne signature unit rest = .ok parsed →
        signatureFromNode parsed.1.1 ++ parsed.1.2 = unit :: rest ∧ parsed.1.1.type = unit ∧
          parsed.1.1.Readable) ∧
    (∀ opened close rest, ∀ parsed : Parsed (List SignatureNode) rest,
      parseFields signature opened close rest = .ok parsed →
        signatureFromNodes parsed.1.1 ++ close :: parsed.1.2 = rest ∧
          (∀ field ∈ parsed.1.1, field.Readable) ∧ ∀ field ∈ parsed.1.1, field.type ≠ close) := by
  apply parseOne.mutual_induct signature
  case case1 =>
    intro parsed isParsed
    simp [parseOne] at isParsed
  case case2 =>
    intro element rest error failed _ parsed isParsed
    simp [parseOne, failed] at isParsed
  case case3 =>
    intro element rest node after le ok ih parsed isParsed
    simp only [parseOne, if_pos, ok] at isParsed
    cases isParsed
    obtain ⟨text, -, readable⟩ := ih _ ok
    exact ⟨by simpa [signatureFromNode] using text, rfl, .array readable⟩
  case case4 =>
    intro rest error failed notArray _ parsed isParsed
    rw [parseOne.eq_def] at isParsed
    simp [notArray, failed] at isParsed
  case case5 =>
    intro rest fields after le ok notArray ih parsed isParsed
    rw [parseOne.eq_def] at isParsed
    simp only [if_neg notArray, if_pos, ok] at isParsed
    cases isParsed
    obtain ⟨text, readable, inside⟩ := ih _ ok
    exact ⟨by simpa [signatureFromNode] using text, rfl, .dictEntry readable inside⟩
  case case6 =>
    intro rest error failed notArray notBrace _ parsed isParsed
    rw [parseOne.eq_def] at isParsed
    simp [notArray, notBrace, failed] at isParsed
  case case7 =>
    intro rest fields after le ok notArray notBrace ih parsed isParsed
    rw [parseOne.eq_def] at isParsed
    simp only [if_neg notArray, if_neg notBrace, if_pos, ok] at isParsed
    cases isParsed
    obtain ⟨text, readable, inside⟩ := ih _ ok
    exact ⟨by simpa [signatureFromNode] using text, rfl, .struct readable inside⟩
  case case8 =>
    intro unit rest notArray notBrace notParen type isType parsed isParsed
    rw [parseOne.eq_def] at isParsed
    simp only [if_neg notArray, if_neg notBrace, if_neg notParen, isType] at isParsed
    cases isParsed
    refine ⟨?_, TypeCode.unit_of_ofUnit isType, .leaf type⟩
    rw [signatureFromNode, TypeCode.unit_of_ofUnit isType]
    rfl
  case case9 =>
    intro unit rest notArray notBrace notParen unknown parsed isParsed
    rw [parseOne.eq_def] at isParsed
    simp [notArray, notBrace, notParen, unknown] at isParsed
  case case10 =>
    intro opened close parsed isParsed
    simp [parseFields] at isParsed
  case case11 =>
    intro opened close rest parsed isParsed
    simp only [parseFields, if_pos] at isParsed
    cases isParsed
    exact ⟨rfl, nofun, nofun⟩
  case case12 =>
    intro opened close element rest notClose error failed _ parsed isParsed
    simp [parseFields, notClose, failed] at isParsed
  case case13 =>
    intro opened close element rest notClose node after le ok shorter error failed _ _ parsed isParsed
    simp [parseFields, notClose, ok, failed] at isParsed
  case case14 =>
    intro opened close element rest notClose node after le ok shorter nodes last le' ok' ih ih'
      parsed isParsed
    simp only [parseFields, if_neg notClose, ok, ok'] at isParsed
    cases isParsed
    obtain ⟨first, begins, readable⟩ := ih _ ok
    obtain ⟨others, readables, inside⟩ := ih' _ ok'
    simp only at first begins others
    refine ⟨?_, List.forall_mem_cons.mpr ⟨readable, readables⟩,
      List.forall_mem_cons.mpr ⟨begins ▸ notClose, inside⟩⟩
    rw [signatureFromNodes, List.append_assoc, others, first]

variable {nodes : List SignatureNode}

/-- Parsed types spell the text that has been read. -/
theorem parseTypes_reads {rest : JsString} (parsed : parseTypes signature rest = .ok nodes) :
    signatureFromNodes nodes = rest ∧ ∀ node ∈ nodes, node.Readable := by
  induction rest using parseTypes.induct signature generalizing nodes with
  | case1 =>
    rw [parseTypes] at parsed
    cases parsed
    exact ⟨rfl, by simp⟩
  | case2 unit rest error failed => simp [parseTypes, failed] at parsed
  | case3 unit rest node after le ok shorter error failed ih =>
    simp [parseTypes, ok, failed] at parsed
  | case4 unit rest node after le ok shorter others ok' ih =>
    simp only [parseTypes, ok, ok'] at parsed
    cases parsed
    obtain ⟨text, -, readable⟩ := parse_reads.1 unit rest _ ok
    obtain ⟨texts, others⟩ := ih ok'
    rw [signatureFromNodes, texts]
    exact ⟨text, List.forall_mem_cons.mpr ⟨readable, others⟩⟩

/-- The types of a signature spell the signature. -/
theorem signatureFromNodes_of_parse (parsed : parseSignature signature = .ok nodes) :
    signatureFromNodes nodes = signature :=
  (parseTypes_reads parsed).1

end Text

end ModemStack.Transport
