import Mathlib.Data.List.TakeWhile
import ModemStack.Text.Utf8Lossy

/-!
The values that `mmcli` prints: the bytes of a text, escaped, and what they are read back as.

Bytes are collected from the escapes and from the text between them, and decoded together. Two
things get lost on the way: a byte-order mark at the front, which the decoder takes away, and the
octal numbers that are no bytes, which wrap (`unescape_iff`).
-/

namespace ModemStack.Sms

open ModemStack.Text

def backslash : UInt16 := 0x5C

/-- The escapes of one letter, and the bytes they stand for. -/
def SIMPLE_ESCAPES : List (UInt16 × Nat) :=
  [(0x62, 0x08), (0x66, 0x0C), (0x6E, 0x0A), (0x72, 0x0D), (0x74, 0x09), (0x76, 0x0B),
    (0x22, 0x22), (0x5C, 0x5C)]

/-! ### Reading -/

def octalDigit (c : UInt16) : Option Nat :=
  if 0x30 ≤ c.toNat ∧ c.toNat ≤ 0x37 then some (c.toNat - 0x30) else none

/-- `[0-7]{3}` -/
def octalTriplet : JsString → Option Nat
  | a :: b :: c :: _ =>
    match octalDigit a, octalDigit b, octalDigit c with
    | some high, some middle, some low => some (high * 64 + middle * 8 + low)
    | _, _, _ => none
  | _ => none

/-- What `ESCAPE_RE` has behind a backslash: the number, and how many units. -/
def escapeAfter (rest : JsString) : Option (Nat × Nat) :=
  match octalTriplet rest with
  | some number => some (number, 3)
  | none => (rest.head?.bind fun c => SIMPLE_ESCAPES.lookup c).map fun number => (number, 1)

/-- A unit outside the escapes, or an escape: its number and its text. -/
inductive Piece where
  | unit (c : UInt16)
  | escape (number : Nat) (text : JsString)
deriving DecidableEq

/-- The pieces of a value behind the units to skip. -/
def scan : Nat → JsString → List Piece
  | _, [] => []
  | skip + 1, _ :: rest => scan skip rest
  | 0, c :: rest =>
    if c = backslash then
      match escapeAfter rest with
      | some (number, length) => .escape number (c :: rest.take length) :: scan length rest
      | none => .unit c :: scan 0 rest
    else .unit c :: scan 0 rest

/-- The bytes of pieces behind a text. A number that is no byte wraps. -/
def collect (segment : JsString) : List Piece → List UInt8
  | [] => encodeUtf8 segment
  | .unit c :: rest => collect (segment ++ [c]) rest
  | .escape number _ :: rest => encodeUtf8 segment ++ UInt8.ofNat number :: collect [] rest

def byteOrderMark : List UInt8 := [0xEF, 0xBB, 0xBF]

/-- `new TextDecoder().decode(bytes)` -/
def textDecode (bytes : List UInt8) : JsString :=
  if byteOrderMark.isPrefixOf bytes then decodeUtf8 (bytes.drop 3) else decodeUtf8 bytes

def unescapeMmcliValue (value : JsString) : JsString :=
  if backslash ∉ value then value else textDecode (collect [] (scan 0 value))

/-! ### Writing -/

/-- A byte as `g_strescape` writes it. -/
def escapeByte (b : UInt8) : JsString :=
  match SIMPLE_ESCAPES.find? fun item => item.2 = b.toNat with
  | some (letter, _) => [backslash, letter]
  | none =>
    if b.toNat < 0x20 ∨ 0x7F ≤ b.toNat then
      [backslash, UInt16.ofNat (0x30 + b.toNat / 64), UInt16.ofNat (0x30 + b.toNat / 8 % 8),
        UInt16.ofNat (0x30 + b.toNat % 8)]
    else [UInt16.ofNat b.toNat]

/-- The value `mmcli` prints for a text, whose bytes end at a zero. -/
def gStrescape (text : JsString) : JsString :=
  ((encodeUtf8 text).takeWhile (· ≠ 0)).flatMap escapeByte

/-! ### What a value means -/

/-- The text between the escapes as it is, and the bytes of the escapes as UTF-8. A number above
255 is no escape. -/
def intended (run : List UInt8) : List Piece → JsString
  | [] => decodeUtf8 run
  | .unit c :: rest => decodeUtf8 run ++ c :: intended [] rest
  | .escape number text :: rest =>
    if number < 0x100 then intended (run ++ [UInt8.ofNat number]) rest
    else decodeUtf8 run ++ text ++ intended [] rest

/-! ### Pieces -/

def Piece.text : Piece → JsString
  | .unit c => [c]
  | .escape _ text => text

theorem octalTriplet_length {rest : JsString} {number : Nat}
    (read : octalTriplet rest = some number) :
    ∃ a b c tail, rest = a :: b :: c :: tail ∧
      ∀ unit ∈ [a, b, c], 0x30 ≤ unit.toNat ∧ unit.toNat ≤ 0x37 := by
  unfold octalTriplet at read
  split at read
  · next a b c tail =>
    split at read
    · next high middle low isHigh isMiddle isLow =>
      have digit {unit : UInt16} {n : Nat} (isDigit : octalDigit unit = some n) :
          0x30 ≤ unit.toNat ∧ unit.toNat ≤ 0x37 := by
        unfold octalDigit at isDigit
        split at isDigit
        · assumption
        · cases isDigit
      refine ⟨a, b, c, tail, rfl, ?_⟩
      simp only [List.forall_mem_cons]
      exact ⟨digit isHigh, digit isMiddle, digit isLow, nofun⟩
    · cases read
  · cases read

/-- The units of a text below 0x80. -/
def Ascii (text : JsString) : Prop := ∀ c ∈ text, c.toNat < 0x80

theorem Ascii.wellFormed {text : JsString} (ascii : Ascii text) : WellFormed text := by
  induction text with
  | nil => exact .nil
  | cons c rest ih =>
    have small := ascii c List.mem_cons_self
    refine .unit ?_ ?_ (ih fun d mem => ascii d (List.mem_cons_of_mem c mem))
    · rw [isLead, Bool.and_eq_false_iff, decide_eq_false_iff_not]
      omega
    · rw [isTrail, Bool.and_eq_false_iff, decide_eq_false_iff_not]
      omega

theorem escapeAfter_text {rest : JsString} {number length : Nat}
    (read : escapeAfter rest = some (number, length)) :
    rest.take length ≠ [] ∧ Ascii (rest.take length) := by
  unfold escapeAfter at read
  split at read
  · next isTriplet =>
    obtain ⟨a, b, c, tail, rfl, digits⟩ := octalTriplet_length isTriplet
    cases read
    refine ⟨nofun, fun unit mem => ?_⟩
    have range := digits unit mem
    omega
  · obtain ⟨_, found, same⟩ := Option.map_eq_some_iff.mp read
    cases same
    obtain ⟨c, isHead, listed⟩ := Option.bind_eq_some_iff.mp found
    obtain ⟨tail, rfl⟩ := List.head?_eq_some_iff.mp isHead
    refine ⟨nofun, fun unit mem => ?_⟩
    obtain rfl := List.mem_singleton.mp mem
    obtain ⟨before, after, split, _⟩ := List.lookup_eq_some_iff.mp listed
    have small : ∀ item ∈ SIMPLE_ESCAPES, item.1.toNat < 0x80 := by decide
    exact small _ (split ▸ List.mem_append_right before List.mem_cons_self)

/-- The text of an escape: a backslash and more, in ASCII. -/
def Piece.Written : Piece → Prop
  | .unit _ => True
  | .escape _ text => ∃ tail, text = backslash :: tail ∧ tail ≠ [] ∧ Ascii tail

theorem written_scan (skip : Nat) (value : JsString) :
    ∀ piece ∈ scan skip value, piece.Written := by
  induction value generalizing skip with
  | nil => cases skip <;> exact nofun
  | cons c rest ih =>
    cases skip with
    | succ skip => exact ih skip
    | zero =>
      rw [scan]
      split
      · next isBackslash =>
        split
        · next number length read =>
          obtain ⟨more, ascii⟩ := escapeAfter_text read
          rw [List.forall_mem_cons]
          exact ⟨⟨rest.take length, by rw [isBackslash], more, ascii⟩, ih length⟩
        · exact List.forall_mem_cons.mpr ⟨trivial, ih 0⟩
      · exact List.forall_mem_cons.mpr ⟨trivial, ih 0⟩

/-- The pieces make up the value. -/
theorem flatMap_text_scan (skip : Nat) (value : JsString) :
    (scan skip value).flatMap Piece.text = value.drop skip := by
  induction value generalizing skip with
  | nil => cases skip <;> rfl
  | cons c rest ih =>
    cases skip with
    | succ skip => exact ih skip
    | zero =>
      rw [scan, List.drop_zero]
      split
      · split
        · next number length read =>
          rw [List.flatMap_cons, Piece.text, ih, List.cons_append, List.take_append_drop]
        · rw [List.flatMap_cons, ih]
          rfl
      · rw [List.flatMap_cons, ih]
        rfl

/-! ### What is collected -/

/-- Text between bytes is decoded apart from them. -/
theorem decodeUtf8_segment (run : List UInt8) {segment : JsString} (text : segment ≠ [])
    (rest : List UInt8) :
    decodeUtf8 (run ++ (encodeUtf8 segment ++ rest)) =
      decodeUtf8 run ++ (toWellFormed segment ++ decodeUtf8 rest) := by
  cases segment with
  | nil => exact absurd rfl text
  | cons c segment =>
    obtain ⟨b, bytes, same, begins⟩ := encodeUtf8_begins c segment
    rw [← decodeUtf8_encodeUtf8_lossy, same, List.cons_append, decodeUtf8_begins run begins]

/-- An escape whose number is no byte. -/
def Piece.overflows : Piece → Bool
  | .unit _ => false
  | .escape number _ => 0x100 ≤ number

variable {pieces : List Piece}

/-- Each number that is no byte is decoded to less than is written. -/
theorem length_collect (written : ∀ piece ∈ pieces, piece.Written) :
    (∀ run, (decodeUtf8 (run ++ collect [] pieces)).length + pieces.countP Piece.overflows ≤
      (intended run pieces).length) ∧
    ∀ run segment, segment ≠ [] →
      (decodeUtf8 (run ++ collect segment pieces)).length + pieces.countP Piece.overflows ≤
        (decodeUtf8 run).length + segment.length + (intended [] pieces).length := by
  induction pieces with
  | nil =>
    constructor
    · intro run
      simp [collect, intended, encodeUtf8]
    · intro run segment text
      have decoded := decodeUtf8_segment run text []
      rw [List.append_nil] at decoded
      rw [collect, decoded]
      simp [length_toWellFormed, intended, decodeUtf8, decodeFrom, flush]
  | cons piece rest ih =>
    rw [List.forall_mem_cons] at written
    obtain ⟨onBytes, onText⟩ := ih written.2
    cases piece with
    | unit c =>
      rw [List.countP_cons_of_neg (by simp [Piece.overflows])]
      constructor
      · intro run
        have shorter := onText run [c] (by simp)
        rw [collect, intended, List.length_append, List.length_cons]
        simp only [List.nil_append, List.length_singleton] at shorter ⊢
        omega
      · intro run segment _
        have shorter := onText run (segment ++ [c]) (by simp)
        rw [collect, intended, List.length_append, List.length_cons]
        rw [List.length_append, List.length_singleton] at shorter
        omega
    | escape number text =>
      obtain ⟨tail, rfl, more, _⟩ := written.1
      have long : 2 ≤ (backslash :: tail).length := by
        have := List.length_pos_iff.mpr more
        rw [List.length_cons]
        omega
      have single := length_decodeUtf8_single (UInt8.ofNat number)
      by_cases isByte : number < 0x100
      · have counted : (Piece.escape number (backslash :: tail)).overflows = false := by
          rw [Piece.overflows, decide_eq_false_iff_not]
          omega
        rw [List.countP_cons_of_neg (by simp [counted])]
        constructor
        · intro run
          have shorter := onBytes (run ++ [UInt8.ofNat number])
          rw [List.append_assoc, List.singleton_append] at shorter
          rw [collect, intended, if_pos isByte]
          exact shorter
        · intro run segment some
          have shorter := onBytes [UInt8.ofNat number]
          rw [collect, intended, if_pos isByte, decodeUtf8_segment run some,
            List.length_append, List.length_append, length_toWellFormed]
          rw [List.nil_append]
          rw [List.singleton_append] at shorter
          omega
      · have counted : (Piece.escape number (backslash :: tail)).overflows = true := by
          rw [Piece.overflows, decide_eq_true_eq]
          omega
        have shorter := onBytes []
        rw [List.nil_append] at shorter
        have apart := length_decodeUtf8_append [UInt8.ofNat number] (collect [] rest)
        rw [List.countP_cons_of_pos counted]
        constructor
        · intro run
          have cut := length_decodeUtf8_append run
            ([UInt8.ofNat number] ++ collect [] rest)
          rw [collect, intended, if_neg isByte, List.length_append, List.length_append]
          show (decodeUtf8 (run ++ ([UInt8.ofNat number] ++ collect [] rest))).length + _ ≤ _
          omega
        · intro run segment some
          rw [collect, intended, if_neg isByte, decodeUtf8_segment run some,
            List.length_append, List.length_append, List.length_append, List.length_append,
            length_toWellFormed]
          rw [List.singleton_append] at apart
          omega

/-- Without such numbers, a well-formed value is read as intended. -/
theorem decode_collect (written : ∀ piece ∈ pieces, piece.Written)
    (clean : ∀ piece ∈ pieces, piece.overflows = false) :
    (∀ run, WellFormed (pieces.flatMap Piece.text) →
      decodeUtf8 (run ++ collect [] pieces) = intended run pieces) ∧
    ∀ run segment, segment ≠ [] → WellFormed (segment ++ pieces.flatMap Piece.text) →
      decodeUtf8 (run ++ collect segment pieces) =
        decodeUtf8 run ++ (segment ++ intended [] pieces) := by
  induction pieces with
  | nil =>
    constructor
    · intro run _
      simp [collect, intended, encodeUtf8]
    · intro run segment text wf
      have decoded := decodeUtf8_segment run text []
      rw [List.append_nil] at decoded
      rw [List.flatMap_nil, List.append_nil] at wf
      rw [collect, decoded, toWellFormed_eq_self wf]
      rfl
  | cons piece rest ih =>
    rw [List.forall_mem_cons] at written clean
    obtain ⟨onBytes, onText⟩ := ih written.2 clean.2
    cases piece with
    | unit c =>
      constructor
      · intro run wf
        rw [collect, intended]
        exact onText run [c] (by simp) wf
      · intro run segment _ wf
        have whole : WellFormed ((segment ++ [c]) ++ rest.flatMap Piece.text) := by
          rw [List.append_assoc]
          exact wf
        rw [collect, intended, onText run (segment ++ [c]) (by simp) whole, List.append_assoc]
        rfl
    | escape number text =>
      obtain ⟨tail, rfl, _, ascii⟩ := written.1
      have isByte : number < 0x100 := by
        have notOverflow := clean.1
        rw [Piece.overflows, decide_eq_false_iff_not] at notOverflow
        omega
      have textForm : WellFormed (backslash :: tail) :=
        .unit (by decide) (by decide) ascii.wellFormed
      constructor
      · intro run wf
        have read := onBytes (run ++ [UInt8.ofNat number]) (wf.of_append textForm)
        rw [List.append_assoc, List.singleton_append] at read
        rw [collect, intended, if_pos isByte]
        exact read
      · intro run segment some wf
        have segmentForm : WellFormed segment := wf.before (by decide)
        have read := onBytes [UInt8.ofNat number]
          ((wf.of_append segmentForm).of_append textForm)
        rw [List.singleton_append] at read
        rw [collect, intended, if_pos isByte, decodeUtf8_segment run some,
          toWellFormed_eq_self segmentForm, read]
        rfl

theorem decodeUtf8_head {run : List UInt8} (some : run ≠ []) (rest : JsString) :
    ∃ c tail, decodeUtf8 run ++ rest = c :: tail ∧ isTrail c = false := by
  obtain ⟨c, tail, isText⟩ := List.exists_cons_of_ne_nil (decodeUtf8_ne_nil some)
  have wf := wellFormed_decodeUtf8 run
  rw [isText] at wf
  exact ⟨c, tail ++ rest, by rw [isText]; rfl, wf.head⟩

/-- What begins with bytes begins with no trailing surrogate. -/
theorem intended_head (pieces : List Piece) {run : List UInt8} (some : run ≠ []) :
    ∃ c rest, intended run pieces = c :: rest ∧ isTrail c = false := by
  induction pieces generalizing run with
  | nil =>
    have whole := decodeUtf8_head some []
    rw [List.append_nil] at whole
    exact whole
  | cons piece rest ih =>
    cases piece with
    | unit => exact decodeUtf8_head some _
    | escape =>
      rw [intended]
      split
      · exact ih (by simp)
      · rw [List.append_assoc]
        exact decodeUtf8_head some _

/-- A value is well formed that is read as something well formed. -/
theorem wellFormed_of_intended (written : ∀ piece ∈ pieces, piece.Written)
    (clean : ∀ piece ∈ pieces, piece.overflows = false) :
    (∀ run, WellFormed (intended run pieces) → WellFormed (pieces.flatMap Piece.text)) ∧
      ∀ segment, WellFormed (segment ++ intended [] pieces) →
        WellFormed (segment ++ pieces.flatMap Piece.text) := by
  induction pieces with
  | nil => exact ⟨fun _ _ => .nil, fun _ wf => wf⟩
  | cons piece rest ih =>
    rw [List.forall_mem_cons] at written clean
    obtain ⟨onBytes, onText⟩ := ih written.2 clean.2
    cases piece with
    | unit c =>
      constructor
      · intro run wf
        exact onText [c] (WellFormed.of_append wf (wellFormed_decodeUtf8 run))
      · intro segment wf
        have whole := onText (segment ++ [c]) (by rw [List.append_assoc]; exact wf)
        rw [List.append_assoc] at whole
        exact whole
    | escape number text =>
      obtain ⟨tail, rfl, _, ascii⟩ := written.1
      have isByte : number < 0x100 := by
        have notOverflow := clean.1
        rw [Piece.overflows, decide_eq_false_iff_not] at notOverflow
        omega
      have textForm : WellFormed (backslash :: tail) :=
        .unit (by decide) (by decide) ascii.wellFormed
      constructor
      · intro run wf
        rw [intended, if_pos isByte] at wf
        exact textForm.append (onBytes _ wf)
      · intro segment wf
        rw [intended, if_pos isByte] at wf
        obtain ⟨c, after, begins, notTrail⟩ :=
          intended_head rest (show [] ++ [UInt8.ofNat number] ≠ [] by simp)
        have segmentForm : WellFormed segment := by
          rw [begins] at wf
          exact wf.before notTrail
        exact segmentForm.append (textForm.append (onBytes _ (wf.of_append segmentForm)))

/-! ### The byte-order mark -/

def mark : UInt16 := 0xFEFF

theorem decodeUtf8_mark (bytes : List UInt8) :
    decodeUtf8 (byteOrderMark ++ bytes) = mark :: decodeUtf8 bytes :=
  decodeUtf8_encodeUtf8_append (s := [mark]) (.unit (by decide) (by decide) .nil) bytes

theorem textDecode_marked (bytes : List UInt8) :
    textDecode (byteOrderMark ++ bytes) = decodeUtf8 bytes := by
  rw [textDecode, if_pos (List.isPrefixOf_iff_prefix.mpr (List.prefix_append _ _))]
  rfl

variable {bytes : List UInt8}

theorem textDecode_plain (plain : ¬ byteOrderMark <+: bytes) :
    textDecode bytes = decodeUtf8 bytes := by
  rw [textDecode, if_neg fun begins => plain (List.isPrefixOf_iff_prefix.mp begins)]

/-- What is decoded to the text it should be has no mark before it. -/
theorem plain_of_textDecode {text : JsString} (short : (decodeUtf8 bytes).length ≤ text.length)
    (read : textDecode bytes = text) : ¬ byteOrderMark <+: bytes := by
  rintro ⟨rest, rfl⟩
  rw [textDecode_marked] at read
  rw [decodeUtf8_mark, ← read, List.length_cons] at short
  omega

/-- The pieces begin with a byte-order mark, as it is or escaped. -/
def BeginsWithMark : List Piece → Prop
  | .unit c :: _ => c = mark
  | .escape first _ :: .escape second _ :: .escape third _ :: _ =>
    first = 0xEF ∧ second = 0xBB ∧ third = 0xBF
  | _ => False

/-- The text at the front of pieces is encoded first. -/
theorem collect_front (segment : JsString) (pieces : List Piece) :
    ∃ more rest, collect segment pieces = encodeUtf8 (segment ++ more) ++ rest := by
  induction pieces generalizing segment with
  | nil => exact ⟨[], [], by simp [collect]⟩
  | cons piece rest ih =>
    cases piece with
    | unit c =>
      obtain ⟨more, bytes, same⟩ := ih (segment ++ [c])
      exact ⟨c :: more, bytes, by rw [collect, same, List.append_assoc]; rfl⟩
    | escape number text =>
      exact ⟨[], UInt8.ofNat number :: collect [] rest, by rw [collect, List.append_nil]⟩

theorem collect_begins (c : UInt16) (pieces : List Piece) :
    ∃ b rest, collect [] (.unit c :: pieces) = b :: rest ∧ Begins b := by
  obtain ⟨more, rest, same⟩ := collect_front [c] pieces
  obtain ⟨b, bytes, isBytes, begins⟩ := encodeUtf8_begins c more
  refine ⟨b, bytes ++ rest, ?_, begins⟩
  rw [collect, List.nil_append, same, List.singleton_append, isBytes]
  rfl

theorem number_of_clean {number : Nat} {text : JsString}
    (clean : (Piece.escape number text).overflows = false) :
    number = (UInt8.ofNat number).toNat := by
  rw [Piece.overflows, decide_eq_false_iff_not] at clean
  rw [UInt8.toNat_ofNat']
  omega

/-- The second and the third byte of the mark come from escapes, if its first one does. -/
theorem escape_of_continuation (clean : ∀ piece ∈ pieces, piece.overflows = false) {b : UInt8}
    (inside : ¬ Begins b) (begins : b :: bytes <+: collect [] pieces) :
    ∃ text rest, pieces = .escape b.toNat text :: rest ∧ bytes <+: collect [] rest := by
  cases pieces with
  | nil => exact absurd (List.prefix_nil.mp begins) (by simp)
  | cons piece rest =>
    cases piece with
    | unit c =>
      obtain ⟨first, more, same, isFirst⟩ := collect_begins c rest
      rw [same, List.cons_prefix_cons] at begins
      exact absurd (begins.1 ▸ isFirst) inside
    | escape number text =>
      have isNumber := number_of_clean (clean _ List.mem_cons_self)
      rw [collect, show encodeUtf8 [] = [] from rfl, List.nil_append,
        List.cons_prefix_cons] at begins
      rw [← begins.1] at isNumber
      exact ⟨text, rest, by rw [isNumber], begins.2⟩

theorem marked_iff (clean : ∀ piece ∈ pieces, piece.overflows = false) :
    byteOrderMark <+: collect [] pieces ↔ BeginsWithMark pieces := by
  constructor
  · intro marked
    cases pieces with
    | nil => exact absurd (List.prefix_nil.mp marked) (by decide)
    | cons piece rest =>
      rw [List.forall_mem_cons] at clean
      cases piece with
      | unit c =>
        obtain ⟨after, isMarked⟩ := marked
        obtain ⟨more, bytes, same⟩ := collect_front [c] rest
        have decoded := decodeUtf8_mark after
        rw [isMarked, collect, List.nil_append, same, decodeUtf8_encodeUtf8_lossy] at decoded
        obtain ⟨first, tail, isFirst, isUnit⟩ := toWellFormed_cons c more
        rw [List.singleton_append, isFirst, List.cons_append, List.cons.injEq] at decoded
        rcases isUnit with rfl | isReplacement
        · exact decoded.1
        · exact absurd (isReplacement.symm.trans decoded.1) (by decide)
      | escape =>
        have isNumber := number_of_clean clean.1
        rw [collect, show encodeUtf8 [] = [] from rfl, List.nil_append, byteOrderMark,
          List.cons_prefix_cons] at marked
        rw [← marked.1] at isNumber
        obtain ⟨_, rest', rfl, marked'⟩ :=
          escape_of_continuation clean.2 (by decide : ¬ Begins 0xBB) marked.2
        rw [List.forall_mem_cons] at clean
        obtain ⟨_, rest'', rfl, _⟩ :=
          escape_of_continuation clean.2.2 (by decide : ¬ Begins 0xBF) marked'
        exact ⟨isNumber, rfl, rfl⟩
  · intro marked
    unfold BeginsWithMark at marked
    split at marked
    · obtain rfl := marked
      obtain ⟨more, bytes, same⟩ := collect_front [mark] (by assumption)
      rw [collect, List.nil_append, same, List.singleton_append,
        encodeUtf8_unit (by decide) (by decide), List.append_assoc]
      exact List.prefix_append _ _
    · obtain ⟨rfl, rfl, rfl⟩ := marked
      exact List.prefix_append _ _
    · exact marked.elim

/-! ### A text that was escaped -/

theorem octalDigit_ofNat {digit : Nat} (lt : digit < 8) :
    octalDigit (UInt16.ofNat (0x30 + digit)) = some digit := by
  have all : ∀ n : Fin 8, octalDigit (UInt16.ofNat (0x30 + n)) = some n.val := by decide
  exact all ⟨digit, lt⟩

/-- A byte is written as its character, or as an escape that is read as the byte. -/
theorem escapeByte_cases (b : UInt8) :
    (escapeByte b = [UInt16.ofNat b.toNat] ∧ b.toNat < 0x80 ∧ UInt16.ofNat b.toNat ≠ backslash) ∨
      ∃ tail, escapeByte b = backslash :: tail ∧ Ascii tail ∧
        ∀ rest, escapeAfter (tail ++ rest) = some (b.toNat, tail.length) := by
  have lt := b.toNat_lt
  unfold escapeByte
  split
  · next letter number found =>
    have same : number = b.toNat := by simpa using List.find?_some found
    have each : ∀ item ∈ SIMPLE_ESCAPES, octalDigit item.1 = none ∧ item.1.toNat < 0x80 ∧
        SIMPLE_ESCAPES.lookup item.1 = some item.2 := by decide
    obtain ⟨noDigit, ascii, listed⟩ := each _ (List.mem_of_find?_eq_some found)
    refine .inr ⟨[letter], rfl, fun c mem => List.mem_singleton.mp mem ▸ ascii, fun rest => ?_⟩
    have noTriplet : octalTriplet (letter :: rest) = none := by
      unfold octalTriplet
      split
      · next isUnits =>
        cases isUnits
        simp only [noDigit]
      · rfl
    rw [List.singleton_append, escapeAfter, noTriplet, List.head?_cons]
    simp only [Option.bind_some, listed, same]
    rfl
  · next missing =>
    split
    · right
      refine ⟨_, rfl, fun c mem => ?_, fun rest => ?_⟩
      · simp only [List.mem_cons, List.not_mem_nil, or_false] at mem
        rcases mem with rfl | rfl | rfl <;> rw [UInt16.toNat_ofNat'] <;> omega
      · have number : b.toNat / 64 * 64 + b.toNat / 8 % 8 * 8 + b.toNat % 8 = b.toNat := by omega
        simp only [escapeAfter, List.cons_append, octalTriplet,
          octalDigit_ofNat (show b.toNat / 64 < 8 by omega),
          octalDigit_ofNat (show b.toNat / 8 % 8 < 8 by omega),
          octalDigit_ofNat (show b.toNat % 8 < 8 by omega), number]
        rfl
    · next shown =>
      refine .inl ⟨rfl, by omega, fun same => ?_⟩
      have isBackslash := congrArg UInt16.toNat same
      rw [UInt16.toNat_ofNat_of_lt' (show _ < 0x10000 by omega)] at isBackslash
      have listed := List.find?_eq_none.mp missing (0x5C, 0x5C) (by decide)
      exact listed (decide_eq_true isBackslash.symm)

theorem scan_skip (text rest : JsString) : scan text.length (text ++ rest) = scan 0 rest := by
  induction text with
  | nil => rfl
  | cons c text ih => exact ih

theorem encodeUtf8_ascii {c : UInt16} (small : c.toNat < 0x80) :
    encodeUtf8 [c] = [UInt8.ofNat c.toNat] := by
  have notLead : isLead c = false := by
    rw [isLead, Bool.and_eq_false_iff, decide_eq_false_iff_not]
    omega
  have notTrail : isTrail c = false := by
    rw [isTrail, Bool.and_eq_false_iff, decide_eq_false_iff_not]
    omega
  rw [encodeUtf8_unit notLead notTrail, scalarBytes, if_pos small]
  rfl

/-- The bytes that were escaped are collected again. -/
theorem collect_escaped (bytes : List UInt8) {segment : JsString} (ascii : Ascii segment) :
    collect segment (scan 0 (bytes.flatMap escapeByte)) = encodeUtf8 segment ++ bytes := by
  induction bytes generalizing segment with
  | nil => rw [List.flatMap_nil, scan, collect, List.append_nil]
  | cons b rest ih =>
    rw [List.flatMap_cons]
    rcases escapeByte_cases b with ⟨written, small, other⟩ | ⟨tail, written, _, read⟩
    · have sameByte : (UInt16.ofNat b.toNat).toNat = b.toNat :=
        UInt16.toNat_ofNat_of_lt' (show _ < 0x10000 by omega)
      have longer : Ascii (segment ++ [UInt16.ofNat b.toNat]) := by
        intro c mem
        rcases List.mem_append.mp mem with earlier | isLast
        · exact ascii c earlier
        · rw [List.mem_singleton.mp isLast, sameByte]
          exact small
      rw [written, List.singleton_append, scan, if_neg other, collect, ih longer,
        encodeUtf8_append ascii.wellFormed, encodeUtf8_ascii (by rw [sameByte]; exact small),
        sameByte, UInt8.ofNat_toNat, List.append_assoc]
      rfl
    · rw [written, List.cons_append, scan, if_pos rfl, read]
      simp only
      rw [scan_skip, collect, ih fun _ mem => absurd mem List.not_mem_nil, UInt8.ofNat_toNat]
      rfl

theorem ascii_escaped (bytes : List UInt8) : Ascii (bytes.flatMap escapeByte) := by
  intro c mem
  obtain ⟨b, _, inByte⟩ := List.mem_flatMap.mp mem
  rcases escapeByte_cases b with ⟨written, small, _⟩ | ⟨tail, written, ascii, _⟩
  · rw [written, List.mem_singleton] at inByte
    rw [inByte, UInt16.toNat_ofNat']
    omega
  · rw [written, List.mem_cons] at inByte
    rcases inByte with rfl | inTail
    · decide
    · exact ascii c inTail

theorem zero_not_mem_scalarBytes {code : Nat} (positive : 0 < code) (top : code < 0x110000) :
    (0 : UInt8) ∉ scalarBytes code := by
  have nonzero {n : Nat} (lt : n < 0x100) (pos : 0 < n) : (0 : UInt8) ≠ UInt8.ofNat n := by
    intro same
    have value := congrArg UInt8.toNat same
    rw [toNat_byte lt] at value
    exact absurd value (by have zero : (0 : UInt8).toNat = 0 := rfl; omega)
  unfold scalarBytes
  split
  · simp only [List.mem_singleton]
    exact nonzero (by omega) positive
  split
  · simp only [List.mem_cons, List.not_mem_nil, or_false, not_or]
    exact ⟨nonzero (by omega) (by omega), nonzero (by omega) (by omega)⟩
  split
  · simp only [List.mem_cons, List.not_mem_nil, or_false, not_or]
    exact ⟨nonzero (by omega) (by omega), nonzero (by omega) (by omega),
      nonzero (by omega) (by omega)⟩
  · simp only [List.mem_cons, List.not_mem_nil, or_false, not_or]
    exact ⟨nonzero (by omega) (by omega), nonzero (by omega) (by omega),
      nonzero (by omega) (by omega), nonzero (by omega) (by omega)⟩

theorem zero_not_mem_encodeUtf8 {text : JsString} (wf : WellFormed text) (noNul : 0 ∉ text) :
    (0 : UInt8) ∉ encodeUtf8 text := by
  induction wf with
  | nil => exact List.not_mem_nil
  | @unit c rest lead trail _ ih =>
    rw [List.mem_cons, not_or] at noNul
    have positive : 0 < c.toNat := by
      have notZero : c.toNat ≠ 0 := fun zero => noNul.1 (UInt16.toNat_inj.mp zero.symm)
      omega
    rw [encodeUtf8_unit lead trail, List.mem_append, not_or]
    exact ⟨zero_not_mem_scalarBytes positive (unit_isScalar lead trail).1, ih noNul.2⟩
  | @pair c d rest lead trail _ ih =>
    rw [List.mem_cons, List.mem_cons, not_or, not_or] at noNul
    have positive : 0 < pairCode c d := by
      unfold pairCode
      omega
    rw [encodeUtf8_pair lead trail, List.mem_append, not_or]
    exact ⟨zero_not_mem_scalarBytes positive (pairCode_isScalar lead trail).1, ih noNul.2.2⟩

/-! ### A value with nothing to read -/

theorem scan_plain {value : JsString} (plain : backslash ∉ value) :
    scan 0 value = value.map .unit := by
  induction value with
  | nil => rfl
  | cons c rest ih =>
    rw [List.mem_cons, not_or] at plain
    rw [scan, if_neg fun same => plain.1 same.symm, ih plain.2]
    rfl

theorem collect_units (segment text : JsString) :
    collect segment (text.map .unit) = encodeUtf8 (segment ++ text) := by
  induction text generalizing segment with
  | nil => rw [List.append_nil, List.map_nil, collect]
  | cons c rest ih => rw [List.map_cons, collect, ih, List.append_assoc, List.singleton_append]

theorem intended_units (text : JsString) : intended [] (text.map .unit) = text := by
  induction text with
  | nil => rfl
  | cons c rest ih =>
    rw [List.map_cons, intended, ih]
    rfl

/-! ### Both ways -/

theorem textDecode_encodeUtf8_iff {text : JsString} (wellFormed : WellFormed text) :
    textDecode (encodeUtf8 text) = text ↔ text.head? ≠ some mark := by
  constructor
  · intro kept marked
    obtain ⟨rest, rfl⟩ := List.head?_eq_some_iff.mp marked
    have isMarked : encodeUtf8 (mark :: rest) = byteOrderMark ++ encodeUtf8 rest :=
      encodeUtf8_unit (by decide) (by decide)
    rw [isMarked, textDecode_marked,
      decodeUtf8_encodeUtf8 (wellFormed.after_unit (by decide))] at kept
    exact List.cons_ne_self mark rest kept.symm
  · intro unmarked
    have plain : ¬ byteOrderMark <+: encodeUtf8 text := by
      rintro ⟨rest, begins⟩
      have decoded := decodeUtf8_mark rest
      rw [begins, decodeUtf8_encodeUtf8 wellFormed] at decoded
      exact unmarked (by rw [decoded, List.head?_cons])
    rw [textDecode_plain plain, decodeUtf8_encodeUtf8 wellFormed]

/-- A text comes back as its bytes are decoded. -/
theorem unescape_gStrescape {text : JsString} (wellFormed : WellFormed text) (noNul : 0 ∉ text) :
    unescapeMmcliValue (gStrescape text) = textDecode (encodeUtf8 text) := by
  have nonzero : ∀ b ∈ encodeUtf8 text, decide (b ≠ 0) = true := by
    intro b mem
    exact decide_eq_true fun zero => zero_not_mem_encodeUtf8 wellFormed noNul (zero ▸ mem)
  have escaped : gStrescape text = (encodeUtf8 text).flatMap escapeByte := by
    rw [gStrescape, List.takeWhile_eq_self_iff.mpr nonzero]
  have collected : collect [] (scan 0 (gStrescape text)) = encodeUtf8 text := by
    rw [escaped, collect_escaped _ fun _ mem => absurd mem List.not_mem_nil]
    rfl
  rw [unescapeMmcliValue]
  split
  · next plain =>
    -- without a backslash the text is printed as it is
    rw [scan_plain plain, collect_units, List.nil_append] at collected
    have ascii : Ascii (gStrescape text) := by
      rw [escaped]
      exact ascii_escaped _
    have same : gStrescape text = text := by
      rw [← decodeUtf8_encodeUtf8 ascii.wellFormed, collected, decodeUtf8_encodeUtf8 wellFormed]
    have unmarked : text.head? ≠ some mark := by
      intro marked
      rw [same] at ascii
      have small := ascii mark (List.mem_of_mem_head? marked)
      exact absurd small (by decide)
    rw [same, (textDecode_encodeUtf8_iff wellFormed).mpr unmarked]
  · rw [collected]

/-- A value is read as intended unless the decoder takes something from it. -/
theorem unescape_intended_iff (value : JsString) :
    unescapeMmcliValue value = intended [] (scan 0 value) ↔
      backslash ∉ value ∨
        (WellFormed value ∧ (∀ piece ∈ scan 0 value, piece.overflows = false) ∧
          ¬ BeginsWithMark (scan 0 value)) := by
  have written := written_scan 0 value
  have text := flatMap_text_scan 0 value
  rw [List.drop_zero] at text
  rw [unescapeMmcliValue]
  split
  · next plain => simp [scan_plain plain, intended_units, plain]
  · next escapes =>
    constructor
    · intro read
      have shorter := (length_collect written).1 []
      rw [List.nil_append] at shorter
      have plain := plain_of_textDecode (by omega) read
      rw [textDecode_plain plain] at read
      have clean : ∀ piece ∈ scan 0 value, piece.overflows = false := by
        have none : (scan 0 value).countP Piece.overflows = 0 := by
          rw [read] at shorter
          omega
        intro piece mem
        exact Bool.not_eq_true _ ▸ List.countP_eq_zero.mp none piece mem
      have decoded := wellFormed_decodeUtf8 (collect [] (scan 0 value))
      rw [read] at decoded
      have wellFormed := (wellFormed_of_intended written clean).1 [] decoded
      rw [text] at wellFormed
      exact .inr ⟨wellFormed, clean, fun marked => plain ((marked_iff clean).mpr marked)⟩
    · intro condition
      obtain ⟨wellFormed, clean, unmarked⟩ := condition.resolve_left escapes
      have plain : ¬ byteOrderMark <+: collect [] (scan 0 value) := fun marked =>
        unmarked ((marked_iff clean).mp marked)
      rw [textDecode_plain plain]
      exact (decode_collect written clean).1 [] (by rw [text]; exact wellFormed)

/-- A text comes back, and a value is read as intended, exactly if no mark stands at the front,
each octal number is a byte, and what stands between the escapes is well formed. -/
theorem unescape_iff {text : JsString} (wellFormed : WellFormed text) (noNul : 0 ∉ text)
    (value : JsString) :
    (unescapeMmcliValue (gStrescape text) = text ∧
      unescapeMmcliValue value = intended [] (scan 0 value)) ↔
      text.head? ≠ some mark ∧
        (backslash ∉ value ∨
          (WellFormed value ∧ (∀ piece ∈ scan 0 value, piece.overflows = false) ∧
            ¬ BeginsWithMark (scan 0 value))) := by
  rw [unescape_gStrescape wellFormed noNul, textDecode_encodeUtf8_iff wellFormed,
    unescape_intended_iff]

/-- `¡` is printed in octal and read back. -/
theorem unescape_exclamation :
    unescapeMmcliValue (gStrescape (js "¡")) = js "¡" ∧
      unescapeMmcliValue (js "\\302\\241") = intended [] (scan 0 (js "\\302\\241")) := by
  have pieces : scan 0 (js "\\302\\241") =
      [.escape 0xC2 (js "\\302"), .escape 0xA1 (js "\\241")] := rfl
  refine (unescape_iff (.unit (by decide) (by decide) .nil) (by decide) _).mpr
    ⟨by decide, .inr ⟨Ascii.wellFormed fun c mem => ?_, ?_, ?_⟩⟩
  · have ascii : (js "\\302\\241").all (fun c => c.toNat < 0x80) = true := rfl
    exact of_decide_eq_true (List.all_eq_true.mp ascii c mem)
  · rw [pieces]
    decide
  · rw [pieces]
    exact fun marked => marked

/-- A text that begins with a byte-order mark loses it, and `\400` is read as a NUL. -/
theorem mark_lost :
    WellFormed [mark, 0x61] ∧ 0 ∉ ([mark, 0x61] : JsString) ∧
      unescapeMmcliValue (gStrescape [mark, 0x61]) = [0x61] ∧
      scan 0 (js "\\400") = [.escape 0x100 (js "\\400")] ∧
      unescapeMmcliValue (js "\\400") = [0] ∧ intended [] (scan 0 (js "\\400")) = js "\\400" :=
  ⟨.unit (by decide) (by decide) (.unit (by decide) (by decide) .nil), by decide, by decide,
    by decide, by decide, by decide⟩

end ModemStack.Sms
