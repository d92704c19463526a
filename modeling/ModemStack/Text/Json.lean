import ModemStack.Text.JsString

/-!
JSON texts: `JSON.parse` as a pushdown machine that reads one code unit at a
time, and `JSON.stringify`.

Numbers are a parameter of a document. A parsed number is what the nearest
binary64 tells: an integer, a number that is none, or an infinity. A written one
is whatever its printer writes.
-/

namespace ModemStack.Text

/-! ### Code units of the grammar -/

abbrev quotationMark : UInt16 := 0x22
abbrev plusSign : UInt16 := 0x2B
abbrev comma : UInt16 := 0x2C
abbrev minusSign : UInt16 := 0x2D
abbrev fullStop : UInt16 := 0x2E
abbrev colon : UInt16 := 0x3A
abbrev openBracket : UInt16 := 0x5B
abbrev reverseSolidus : UInt16 := 0x5C
abbrev closeBracket : UInt16 := 0x5D
abbrev openBrace : UInt16 := 0x7B
abbrev closeBrace : UInt16 := 0x7D

def isJsonSpace (c : UInt16) : Bool := c = 0x20 || c = 0x09 || c = 0x0A || c = 0x0D

/-- The value of a decimal digit. -/
def digitValue (c : UInt16) : Option Nat :=
  if 0x30 ≤ c.toNat ∧ c.toNat ≤ 0x39 then some (c.toNat - 0x30) else none

/-- The value of a hexadecimal digit of either case. -/
def hexValue (c : UInt16) : Option Nat :=
  if 0x30 ≤ c.toNat ∧ c.toNat ≤ 0x39 then some (c.toNat - 0x30)
  else if 0x61 ≤ c.toNat ∧ c.toNat ≤ 0x66 then some (c.toNat - 0x57)
  else if 0x41 ≤ c.toNat ∧ c.toNat ≤ 0x46 then some (c.toNat - 0x37)
  else none

/-! ### Documents -/

/-- A document with numbers in `ν`. Members keep their order and their duplicates. -/
inductive Json (ν : Type) where
  | null
  | bool (value : Bool)
  | number (value : ν)
  | string (value : JsString)
  | array (items : List (Json ν))
  | object (members : List (JsString × Json ν))

section Map

variable {ν μ : Type} (f : ν → μ)

mutual

/-- The document with its numbers mapped. -/
def Json.map : Json ν → Json μ
  | .null => .null
  | .bool value => .bool value
  | .number value => .number (f value)
  | .string value => .string value
  | .array items => .array (Json.mapItems items)
  | .object members => .object (Json.mapMembers members)

def Json.mapItems : List (Json ν) → List (Json μ)
  | [] => []
  | item :: rest => item.map :: Json.mapItems rest

def Json.mapMembers : List (JsString × Json ν) → List (JsString × Json μ)
  | [] => []
  | (key, item) :: rest => (key, item.map) :: Json.mapMembers rest

end

variable {ξ : Type} (g : μ → ξ)

mutual

theorem Json.map_map (v : Json ν) : (v.map f).map g = v.map fun n => g (f n) := by
  cases v with
  | null | bool | number | string => simp only [Json.map]
  | array items =>
    simp only [Json.map]
    rw [Json.mapItems_mapItems items]
  | object members =>
    simp only [Json.map]
    rw [Json.mapMembers_mapMembers members]

theorem Json.mapItems_mapItems (items : List (Json ν)) :
    Json.mapItems g (Json.mapItems f items) = Json.mapItems (fun n => g (f n)) items := by
  cases items with
  | nil => rfl
  | cons item rest =>
    simp only [Json.mapItems]
    rw [Json.map_map item, Json.mapItems_mapItems rest]

theorem Json.mapMembers_mapMembers (members : List (JsString × Json ν)) :
    Json.mapMembers g (Json.mapMembers f members) =
      Json.mapMembers (fun n => g (f n)) members := by
  rcases members with - | ⟨⟨key, item⟩, rest⟩
  · rfl
  · simp only [Json.mapMembers]
    rw [Json.map_map item, Json.mapMembers_mapMembers rest]

end

end Map

/-- What is told apart of a binary64 number. -/
inductive JsNumber where
  | integer (value : Int)
  | fractional
  | infinite
deriving DecidableEq

/-- `source[key]` of a parsed object: the last duplicate wins. -/
def member {ν : Type} (members : List (JsString × Json ν)) (key : JsString) : Option (Json ν) :=
  (members.reverse.find? fun entry => entry.1 = key).map Prod.snd

/-! ### Numbers -/

/-- `a / b` to the nearest natural number, ties to even. -/
def roundHalfEven (a b : Nat) : Nat :=
  if 2 * (a % b) < b ∨ 2 * (a % b) = b ∧ a / b % 2 = 0 then a / b else a / b + 1

/-- Numbers up to `1 / underflow` round to 0. -/
def underflow : Nat := 2 ^ 1075

/-- Numbers that round to `overflow` or more are infinite. -/
def overflow : Nat := 2 ^ 1024

/-- The binary64 number nearest to `a / b`. Below 1 it is 0, 1 or no integer; up to
`2 ^ 53` it has a fraction; above, it is an integer until it overflows. -/
def binary64 (a b : Nat) : JsNumber :=
  if a / b = 0 then
    if a * underflow ≤ b then .integer 0
    else if roundHalfEven (a * 2 ^ 53) b = 2 ^ 53 then .integer 1
    else .fractional
  else if a / b < 2 ^ 53 then
    let scale := 52 - Nat.log2 (a / b)
    let n := roundHalfEven (a * 2 ^ scale) b
    if n % 2 ^ scale = 0 then .integer (n / 2 ^ scale : Nat) else .fractional
  else
    let shift := Nat.log2 (a / b) - 52
    let n := roundHalfEven a (b * 2 ^ shift) * 2 ^ shift
    if n < overflow then .integer n else .infinite

inductive NumeralPhase where
  | minus
  | zero
  | integer
  | point
  | fraction
  | mark
  | sign
  | exponent
deriving DecidableEq

/-- A number literal being read: `mantissa` without its point, the digits after the
point, and the exponent. -/
structure Numeral where
  phase : NumeralPhase
  negative : Bool
  mantissa : Nat
  scale : Nat
  exponentNegative : Bool
  exponent : Nat
deriving DecidableEq

namespace Numeral

/-- The literal may end here. -/
def complete (n : Numeral) : Bool :=
  match n.phase with
  | .zero | .integer | .fraction | .exponent => true
  | _ => false

/-- The literal with one more code unit, if it goes on with that. -/
def step (n : Numeral) (c : UInt16) : Option Numeral :=
  match n.phase, digitValue c with
  | .minus, some 0 => some { n with phase := .zero }
  | .minus, some digit => some { n with phase := .integer, mantissa := digit }
  | .integer, some digit => some { n with mantissa := n.mantissa * 10 + digit }
  | .point, some digit | .fraction, some digit =>
    some { n with phase := .fraction, mantissa := n.mantissa * 10 + digit, scale := n.scale + 1 }
  | .mark, some digit | .sign, some digit | .exponent, some digit =>
    some { n with phase := .exponent, exponent := n.exponent * 10 + digit }
  | .zero, none | .integer, none =>
    if c = fullStop then some { n with phase := .point }
    else if c = 0x65 ∨ c = 0x45 then some { n with phase := .mark }
    else none
  | .fraction, none => if c = 0x65 ∨ c = 0x45 then some { n with phase := .mark } else none
  | .mark, none =>
    if c = plusSign then some { n with phase := .sign }
    else if c = minusSign then some { n with phase := .sign, exponentNegative := true }
    else none
  | _, _ => none

def value (n : Numeral) : JsNumber :=
  let power : Int := (if n.exponentNegative then -(n.exponent : Int) else n.exponent) - n.scale
  let magnitude := if 0 ≤ power then binary64 (n.mantissa * 10 ^ power.toNat) 1
    else binary64 n.mantissa (10 ^ (-power).toNat)
  match magnitude with
  | .integer value => .integer (if n.negative then -value else value)
  | other => other

end Numeral

/-- A number literal that begins with `c`. -/
def startNumeral (c : UInt16) : Option Numeral :=
  if c = minusSign then some ⟨.minus, true, 0, 0, false, 0⟩
  else match digitValue c with
    | some 0 => some ⟨.zero, false, 0, 0, false, 0⟩
    | some digit => some ⟨.integer, false, digit, 0, false, 0⟩
    | none => none

/-! ### The machine -/

namespace JsonMachine

inductive Word where
  | null
  | true
  | false
deriving DecidableEq

def Word.text : Word → JsString
  | .null => js "null"
  | .true => js "true"
  | .false => js "false"

def Word.value : Word → Json JsNumber
  | .null => .null
  | .true => .bool .true
  | .false => .bool .false

/-- An open array or object, its parts latest first. `member` waits for the value
of `key`. -/
inductive Frame where
  | array (items : List (Json JsNumber))
  | object (members : List (JsString × Json JsNumber))
  | member (members : List (JsString × Json JsNumber)) (key : JsString)

/-- What a string is read as. -/
inductive Role where
  | value
  | key
deriving DecidableEq

/-- What may come next. Strings hold their code units latest first. -/
inductive Mode where
  | value
  | valueOrClose
  | key
  | keyOrClose
  | colon (key : JsString)
  | afterValue
  | done (value : Json JsNumber)
  | string (role : Role) (units : JsString)
  | escape (role : Role) (units : JsString)
  | unicode (role : Role) (units : JsString) (more code : Nat)
  | number (numeral : Numeral)
  | word (word : Word) (seen : Nat)

structure State where
  stack : List Frame
  mode : Mode

def start : State := ⟨[], .value⟩

/-- A value is complete: it is the document, or a part of the innermost frame. -/
def emit (value : Json JsNumber) : List Frame → Option State
  | [] => some ⟨[], .done value⟩
  | .array items :: rest => some ⟨.array (value :: items) :: rest, .afterValue⟩
  | .member members key :: rest => some ⟨.object ((key, value) :: members) :: rest, .afterValue⟩
  | .object _ :: _ => none

/-- A closing bracket or brace. -/
def close (c : UInt16) : List Frame → Option State
  | .array items :: rest => if c = closeBracket then emit (.array items.reverse) rest else none
  | .object members :: rest => if c = closeBrace then emit (.object members.reverse) rest else none
  | _ => none

/-- What may follow a complete value. -/
def stepAfter (s : State) (c : UInt16) : Option State :=
  if isJsonSpace c then some s
  else match s.mode with
    | .afterValue =>
      if c = comma then
        match s.stack with
        | .array _ :: _ => some ⟨s.stack, .value⟩
        | .object _ :: _ => some ⟨s.stack, .key⟩
        | _ => none
      else close c s.stack
    | _ => none

/-- The first code unit of a value. -/
def startValue (stack : List Frame) (c : UInt16) : Option State :=
  if c = quotationMark then some ⟨stack, .string .value []⟩
  else if c = openBracket then some ⟨.array [] :: stack, .valueOrClose⟩
  else if c = openBrace then some ⟨.object [] :: stack, .keyOrClose⟩
  else if c = 0x6E then some ⟨stack, .word .null 1⟩
  else if c = 0x74 then some ⟨stack, .word .true 1⟩
  else if c = 0x66 then some ⟨stack, .word .false 1⟩
  else (startNumeral c).map fun numeral => ⟨stack, .number numeral⟩

/-- A string has ended. -/
def endString (role : Role) (units : JsString) (stack : List Frame) : Option State :=
  match role with
  | .value => emit (.string units.reverse) stack
  | .key => some ⟨stack, .colon units.reverse⟩

/-- The code unit a short escape stands for. -/
def unescape (c : UInt16) : Option UInt16 :=
  if c = quotationMark ∨ c = reverseSolidus ∨ c = 0x2F then some c
  else if c = 0x62 then some 0x08
  else if c = 0x66 then some 0x0C
  else if c = 0x6E then some 0x0A
  else if c = 0x72 then some 0x0D
  else if c = 0x74 then some 0x09
  else none

def step (s : State) (c : UInt16) : Option State :=
  match s.mode with
  | .value => if isJsonSpace c then some s else startValue s.stack c
  | .valueOrClose =>
    if isJsonSpace c then some s
    else if c = closeBracket then close c s.stack
    else startValue s.stack c
  | .key =>
    if isJsonSpace c then some s
    else if c = quotationMark then some ⟨s.stack, .string .key []⟩
    else none
  | .keyOrClose =>
    if isJsonSpace c then some s
    else if c = quotationMark then some ⟨s.stack, .string .key []⟩
    else if c = closeBrace then close c s.stack
    else none
  | .colon key =>
    if isJsonSpace c then some s
    else match s.stack with
      | .object members :: rest =>
        if c = colon then some ⟨.member members key :: rest, .value⟩ else none
      | _ => none
  | .afterValue | .done _ => stepAfter s c
  | .string role units =>
    if c = quotationMark then endString role units s.stack
    else if c = reverseSolidus then some ⟨s.stack, .escape role units⟩
    else if c.toNat < 0x20 then none
    else some ⟨s.stack, .string role (c :: units)⟩
  | .escape role units =>
    if c = 0x75 then some ⟨s.stack, .unicode role units 3 0⟩
    else (unescape c).map fun unit => ⟨s.stack, .string role (unit :: units)⟩
  | .unicode role units more code =>
    (hexValue c).map fun digit => match more with
      | 0 => ⟨s.stack, .string role (UInt16.ofNat (code * 16 + digit) :: units)⟩
      | more + 1 => ⟨s.stack, .unicode role units more (code * 16 + digit)⟩
  | .number numeral =>
    match numeral.step c with
    | some numeral => some ⟨s.stack, .number numeral⟩
    | none =>
      if numeral.complete then (emit (.number numeral.value) s.stack).bind (stepAfter · c)
      else none
  | .word word seen =>
    match word.text.drop seen with
    | [] => none
    | expected :: rest =>
      if c ≠ expected then none
      else if rest = [] then emit word.value s.stack
      else some ⟨s.stack, .word word (seen + 1)⟩

/-- The end of the text. -/
def finish (s : State) : Option (Json JsNumber) :=
  match s.stack, s.mode with
  | [], .done value => some value
  | [], .number numeral => if numeral.complete then some (.number numeral.value) else none
  | _, _ => none

/-- Read the rest of a text. -/
def read : State → JsString → Option (Json JsNumber)
  | s, [] => finish s
  | s, c :: rest => (step s c).bind (read · rest)

end JsonMachine

/-- `JSON.parse`; none when it throws. -/
def parse (text : JsString) : Option (Json JsNumber) := JsonMachine.read JsonMachine.start text

/-! ### Writing -/

def hexDigit (n : Nat) : UInt16 := UInt16.ofNat (if n < 10 then 0x30 + n else 0x57 + n)

/-- `\uXXXX`. -/
def unicodeEscape (c : UInt16) : JsString :=
  [reverseSolidus, 0x75, hexDigit (c.toNat / 0x1000), hexDigit (c.toNat / 0x100 % 0x10),
    hexDigit (c.toNat / 0x10 % 0x10), hexDigit (c.toNat % 0x10)]

/-- A code unit that is no lone surrogate, inside a quoted string. -/
def quoteUnit (c : UInt16) : JsString :=
  if c = quotationMark ∨ c = reverseSolidus then [reverseSolidus, c]
  else if c = 0x08 then [reverseSolidus, 0x62]
  else if c = 0x09 then [reverseSolidus, 0x74]
  else if c = 0x0A then [reverseSolidus, 0x6E]
  else if c = 0x0C then [reverseSolidus, 0x66]
  else if c = 0x0D then [reverseSolidus, 0x72]
  else if c.toNat < 0x20 then unicodeEscape c
  else [c]

/-- The inside of a quoted string: lone surrogates are escaped. -/
def quoteUnits : JsString → JsString
  | [] => []
  | [c] => if isLead c || isTrail c then unicodeEscape c else quoteUnit c
  | c :: d :: rest =>
    if isLead c && isTrail d then c :: d :: quoteUnits rest
    else (if isLead c || isTrail c then unicodeEscape c else quoteUnit c) ++
      quoteUnits (d :: rest)

def quote (s : JsString) : JsString := quotationMark :: (quoteUnits s ++ [quotationMark])

section Stringify

variable {ν : Type} (print : ν → JsString)

mutual

/-- `JSON.stringify` of a document, its numbers written by `print`. -/
def stringify : Json ν → JsString
  | .null => js "null"
  | .bool true => js "true"
  | .bool false => js "false"
  | .number value => print value
  | .string value => quote value
  | .array [] => [openBracket, closeBracket]
  | .array (first :: rest) => openBracket :: (stringify first ++ stringifyItems rest)
  | .object [] => [openBrace, closeBrace]
  | .object ((key, first) :: rest) =>
    openBrace :: (quote key ++ colon :: (stringify first ++ stringifyMembers rest))

/-- The items after the first, and the closing bracket. -/
def stringifyItems : List (Json ν) → JsString
  | [] => [closeBracket]
  | item :: rest => comma :: (stringify item ++ stringifyItems rest)

/-- The members after the first, and the closing brace. -/
def stringifyMembers : List (JsString × Json ν) → JsString
  | [] => [closeBrace]
  | (key, item) :: rest =>
    comma :: (quote key ++ colon :: (stringify item ++ stringifyMembers rest))

end

end Stringify

/-- A natural number in decimal digits. -/
def printNat (n : Nat) : JsString := (Nat.toDigits 10 n).map fun c => UInt16.ofNat c.toNat

/-! ### Reading back strings -/

namespace JsonMachine

theorem hexValue_hexDigit {n : Nat} (lt : n < 0x10) : hexValue (hexDigit n) = some n := by
  have all : ∀ n : Fin 0x10, hexValue (hexDigit n) = some n.val := by decide
  exact all ⟨n, lt⟩

section Strings

variable {stack : List Frame} {role : Role} {units rest : JsString} {c : UInt16}

theorem read_cons (s : State) : read s (c :: rest) = (step s c).bind (read · rest) := rfl

theorem step_unicode_more {more code digit : Nat} (isDigit : hexValue c = some digit) :
    step ⟨stack, .unicode role units (more + 1) code⟩ c =
      some ⟨stack, .unicode role units more (code * 16 + digit)⟩ := by
  simp only [step, isDigit, Option.map_some]

theorem step_unicode_last {code digit : Nat} (isDigit : hexValue c = some digit) :
    step ⟨stack, .unicode role units 0 code⟩ c =
      some ⟨stack, .string role (UInt16.ofNat (code * 16 + digit) :: units)⟩ := by
  simp only [step, isDigit, Option.map_some]

theorem read_unicodeEscape :
    read ⟨stack, .string role units⟩ (unicodeEscape c ++ rest) =
      read ⟨stack, .string role (c :: units)⟩ rest := by
  have lt := c.toNat_lt
  have whole : (((0 * 16 + c.toNat / 0x1000) * 16 + c.toNat / 0x100 % 0x10) * 16 +
      c.toNat / 0x10 % 0x10) * 16 + c.toNat % 0x10 = c.toNat := by omega
  have begun : read ⟨stack, .string role units⟩ (unicodeEscape c ++ rest) =
      read ⟨stack, .unicode role units 3 0⟩ (hexDigit (c.toNat / 0x1000) ::
        hexDigit (c.toNat / 0x100 % 0x10) :: hexDigit (c.toNat / 0x10 % 0x10) ::
        hexDigit (c.toNat % 0x10) :: rest) := rfl
  rw [begun, read_cons, step_unicode_more (hexValue_hexDigit (by omega)), Option.bind_some,
    read_cons, step_unicode_more (hexValue_hexDigit (by omega)), Option.bind_some,
    read_cons, step_unicode_more (hexValue_hexDigit (by omega)), Option.bind_some,
    read_cons, step_unicode_last (hexValue_hexDigit (by omega)), Option.bind_some, whole,
    UInt16.ofNat_toNat]

/-- A short escape. -/
theorem read_escape {escaped : UInt16} (short : escaped ≠ 0x75)
    (stands : unescape escaped = some c) :
    read ⟨stack, .string role units⟩ (reverseSolidus :: escaped :: rest) =
      read ⟨stack, .string role (c :: units)⟩ rest := by
  have begun : read ⟨stack, .string role units⟩ (reverseSolidus :: escaped :: rest) =
      read ⟨stack, .escape role units⟩ (escaped :: rest) := rfl
  rw [begun, read_cons]
  simp only [step, if_neg short, stands, Option.map_some, Option.bind_some]

/-- A code unit that stands for itself in a string. -/
theorem read_raw (printable : ¬ c.toNat < 0x20) (notQuote : c ≠ quotationMark)
    (notEscape : c ≠ reverseSolidus) :
    read ⟨stack, .string role units⟩ (c :: rest) =
      read ⟨stack, .string role (c :: units)⟩ rest := by
  rw [read_cons]
  simp only [step, if_neg notQuote, if_neg notEscape, if_neg printable, Option.bind_some]

theorem read_quoteUnit :
    read ⟨stack, .string role units⟩ (quoteUnit c ++ rest) =
      read ⟨stack, .string role (c :: units)⟩ rest := by
  unfold quoteUnit
  split_ifs with special h8 h9 hA hC hD control
  · rcases special with rfl | rfl <;> exact read_escape (by decide) rfl
  · subst h8
    exact read_escape (by decide) rfl
  · subst h9
    exact read_escape (by decide) rfl
  · subst hA
    exact read_escape (by decide) rfl
  · subst hC
    exact read_escape (by decide) rfl
  · subst hD
    exact read_escape (by decide) rfl
  · exact read_unicodeEscape
  · exact read_raw control (fun h => special (.inl h)) fun h => special (.inr h)

theorem read_surrogate (surrogate : isLead c = true ∨ isTrail c = true) :
    read ⟨stack, .string role units⟩ (c :: rest) =
      read ⟨stack, .string role (c :: units)⟩ rest := by
  have high : 0xD800 ≤ c.toNat := by
    simp only [isLead, isTrail, Bool.and_eq_true, decide_eq_true_eq] at surrogate
    omega
  refine read_raw (by omega) ?_ ?_ <;> rintro rfl <;> exact absurd high (by decide)

theorem read_quoteUnits {s : JsString} :
    read ⟨stack, .string role units⟩ (quoteUnits s ++ rest) =
      read ⟨stack, .string role (s.reverse ++ units)⟩ rest := by
  have one : ∀ c units rest, read ⟨stack, .string role units⟩
      ((if isLead c || isTrail c then unicodeEscape c else quoteUnit c) ++ rest) =
      read ⟨stack, .string role (c :: units)⟩ rest := by
    intro c units rest
    split
    · exact read_unicodeEscape
    · exact read_quoteUnit
  fun_induction quoteUnits s generalizing units with
  | case1 => rfl
  | case2 c surrogate => simpa [surrogate] using one c units rest
  | case3 c plain => simpa [plain] using one c units rest
  | case4 c d tail pair ih =>
    simp only [Bool.and_eq_true] at pair
    rw [List.cons_append, List.cons_append, read_surrogate (.inl pair.1),
      read_surrogate (.inr pair.2), ih]
    simp
  | case5 c d tail notPair ih =>
    rw [List.append_assoc, one, ih]
    simp

/-- A quoted string that stands where a value may. -/
theorem read_quote_value {s : JsString} :
    read ⟨stack, .value⟩ (quote s ++ rest) = (emit (.string s) stack).bind (read · rest) := by
  have begun : read ⟨stack, .value⟩ (quote s ++ rest) =
      read ⟨stack, .string .value []⟩ (quoteUnits s ++ quotationMark :: rest) := by
    rw [quote, List.cons_append, List.append_assoc]
    rfl
  rw [begun, read_quoteUnits]
  show (emit (.string (s.reverse ++ []).reverse) stack).bind (read · rest) = _
  simp

/-- A quoted string that stands where a key must. -/
theorem read_quote_key {s : JsString} {mode : Mode} (atKey : mode = .key ∨ mode = .keyOrClose) :
    read ⟨stack, mode⟩ (quote s ++ rest) = read ⟨stack, .colon s⟩ rest := by
  have begun : read ⟨stack, mode⟩ (quote s ++ rest) =
      read ⟨stack, .string .key []⟩ (quoteUnits s ++ quotationMark :: rest) := by
    rw [quote, List.cons_append, List.append_assoc]
    rcases atKey with rfl | rfl <;> rfl
  rw [begun, read_quoteUnits]
  show read ⟨stack, .colon (s.reverse ++ []).reverse⟩ rest = _
  simp

end Strings

/-! ### Reading back numbers -/

/-- `text` is a number literal, and `value` is what it is read as. -/
def Prints (text : JsString) (value : JsNumber) : Prop :=
  ∃ c rest begun numeral, text = c :: rest ∧ startNumeral c = some begun ∧
    rest.foldlM Numeral.step begun = some numeral ∧ numeral.complete = true ∧
    numeral.value = value

/-- What may stand right after a value: the end of the text, or a code unit that
ends a number. -/
def Delimited (rest : JsString) : Prop :=
  ∀ c tail, rest = c :: tail →
    c = comma ∨ c = closeBracket ∨ c = closeBrace ∨ isJsonSpace c = true

theorem step_delimiter {numeral : Numeral} {c : UInt16} (complete : numeral.complete = true)
    (delimiter : c = comma ∨ c = closeBracket ∨ c = closeBrace ∨ isJsonSpace c = true) :
    numeral.step c = none := by
  have none : digitValue c = none ∧ c ≠ fullStop ∧ c ≠ 0x65 ∧ c ≠ 0x45 := by
    simp only [isJsonSpace, Bool.or_eq_true, decide_eq_true_eq] at delimiter
    rcases delimiter with rfl | rfl | rfl | ((rfl | rfl) | rfl) | rfl <;> decide
  obtain ⟨noDigit, noPoint, noMark, noMark'⟩ := none
  unfold Numeral.complete at complete
  unfold Numeral.step
  rw [noDigit]
  split at complete <;> simp_all

variable {s : State}

/-- A complete value is the document or a part of it: what may follow is the same. -/
theorem step_emit {value : Json JsNumber} {stack : List Frame} {c : UInt16}
    (emitted : emit value stack = some s) : step s c = stepAfter s c := by
  unfold emit at emitted
  split at emitted <;> simp only [Option.some.injEq, reduceCtorEq] at emitted
  all_goals subst emitted; rfl

theorem read_numeral {stack : List Frame} {text rest : JsString} {begun numeral : Numeral}
    (steps : text.foldlM Numeral.step begun = some numeral) :
    read ⟨stack, .number begun⟩ (text ++ rest) = read ⟨stack, .number numeral⟩ rest := by
  induction text generalizing begun with
  | nil =>
    obtain rfl := Option.some.inj steps
    rfl
  | cons c text ih =>
    simp only [List.foldlM_cons, Option.bind_eq_bind, Option.bind_eq_some_iff] at steps
    obtain ⟨next, isNext, steps⟩ := steps
    rw [List.cons_append, read_cons]
    simp only [step, isNext, Option.bind_some]
    exact ih steps

theorem startNumeral_range {c : UInt16} {begun : Numeral} (starts : startNumeral c = some begun) :
    c.toNat = 0x2D ∨ 0x30 ≤ c.toNat ∧ c.toNat ≤ 0x39 := by
  unfold startNumeral at starts
  split at starts
  · next isMinus => exact .inl (by rw [isMinus]; rfl)
  · by_cases range : 0x30 ≤ c.toNat ∧ c.toNat ≤ 0x39
    · exact .inr range
    · simp [digitValue, range] at starts

/-- A code unit that begins a number begins nothing else. -/
theorem startValue_numeral (stack : List Frame) {c : UInt16} {begun : Numeral}
    (starts : startNumeral c = some begun) :
    startValue stack c = some ⟨stack, .number begun⟩ ∧ isJsonSpace c = false ∧
      c ≠ closeBracket := by
  have range := startNumeral_range starts
  have ne : ∀ k : UInt16, ¬ (k.toNat = 0x2D ∨ 0x30 ≤ k.toNat ∧ k.toNat ≤ 0x39) → c ≠ k := by
    rintro k out rfl
    exact out range
  refine ⟨?_, ?_, ne _ (by decide)⟩
  · simp only [startValue, if_neg (ne quotationMark (by decide)),
      if_neg (ne openBracket (by decide)), if_neg (ne openBrace (by decide)),
      if_neg (ne 0x6E (by decide)), if_neg (ne 0x74 (by decide)), if_neg (ne 0x66 (by decide)),
      starts, Option.map_some]
  · simp [isJsonSpace, ne 0x20 (by decide), ne 0x09 (by decide), ne 0x0A (by decide),
      ne 0x0D (by decide)]

theorem read_number {stack : List Frame} {text rest : JsString} {value : JsNumber}
    (prints : Prints text value) (delimited : Delimited rest) :
    read ⟨stack, .value⟩ (text ++ rest) = (emit (.number value) stack).bind (read · rest) := by
  obtain ⟨c, digits, begun, numeral, rfl, starts, steps, complete, rfl⟩ := prints
  obtain ⟨isStart, notSpace, -⟩ := startValue_numeral stack starts
  have first : read ⟨stack, .value⟩ (c :: digits ++ rest) =
      read ⟨stack, .number begun⟩ (digits ++ rest) := by
    rw [List.cons_append, read_cons]
    simp only [step, notSpace, Bool.false_eq_true, if_false, isStart, Option.bind_some]
  rw [first, read_numeral steps]
  cases rest with
  | nil =>
    cases stack with
    | nil => simp [read, finish, emit, complete]
    | cons frame stack => cases frame <;> rfl
  | cons d rest =>
    rw [read_cons]
    simp only [step, step_delimiter complete (delimited d rest rfl), complete, if_true]
    cases emitted : emit (.number numeral.value) stack with
    | none => rfl
    | some =>
      simp only [Option.bind_some]
      rw [read_cons, step_emit emitted]

/-! ### Reading back documents -/

section Documents

variable {ν : Type} {print : ν → JsString} {value : ν → JsNumber}

/-- What a document is written with begins a value, not the end of an array. -/
theorem stringify_head (prints : ∀ n, Prints (print n) (value n)) (v : Json ν) :
    ∃ c tail, stringify print v = c :: tail ∧ isJsonSpace c = false ∧ c ≠ closeBracket := by
  cases v with
  | null => exact ⟨_, _, rfl, by decide, by decide⟩
  | bool b => cases b <;> exact ⟨_, _, rfl, by decide, by decide⟩
  | number n =>
    obtain ⟨c, digits, begun, numeral, isText, starts, -⟩ := prints n
    obtain ⟨-, notSpace, notClose⟩ := startValue_numeral [] starts
    exact ⟨c, digits, isText, notSpace, notClose⟩
  | string => exact ⟨_, _, rfl, by decide, by decide⟩
  | array items => cases items <;> exact ⟨openBracket, _, by rw [stringify], by decide, by decide⟩
  | object members =>
    rcases members with - | ⟨⟨key, first⟩, rest⟩ <;>
      exact ⟨openBrace, _, by rw [stringify], by decide, by decide⟩

theorem read_valueOrClose (prints : ∀ n, Prints (print n) (value n)) {stack : List Frame}
    {v : Json ν} {rest : JsString} :
    read ⟨stack, .valueOrClose⟩ (stringify print v ++ rest) =
      read ⟨stack, .value⟩ (stringify print v ++ rest) := by
  obtain ⟨c, tail, isText, notSpace, notClose⟩ := stringify_head prints v
  rw [isText, List.cons_append, read_cons, read_cons]
  simp only [step, notSpace, Bool.false_eq_true, if_false, if_neg notClose]

theorem delimited_items {items : List (Json ν)} {rest : JsString} :
    Delimited (stringifyItems print items ++ rest) := by
  intro c tail isText
  cases items <;>
    simp only [stringifyItems, List.cons_append, List.cons.injEq] at isText
  · exact .inr (.inl isText.1.symm)
  · exact .inl isText.1.symm

theorem delimited_members {members : List (JsString × Json ν)} {rest : JsString} :
    Delimited (stringifyMembers print members ++ rest) := by
  intro c tail isText
  rcases members with - | ⟨⟨key, item⟩, members⟩ <;>
    simp only [stringifyMembers, List.cons_append, List.cons.injEq] at isText
  · exact .inr (.inr (.inl isText.1.symm))
  · exact .inl isText.1.symm

mutual

/-- Reading a written document gives the document back, and goes on with what
follows it. -/
theorem read_stringify (prints : ∀ n, Prints (print n) (value n)) (v : Json ν)
    (stack : List Frame) (rest : JsString) (delimited : Delimited rest) :
    read ⟨stack, .value⟩ (stringify print v ++ rest) =
      (emit (v.map value) stack).bind (read · rest) := by
  cases v with
  | null => rfl
  | bool b => cases b <;> rfl
  | number n =>
    rw [stringify, Json.map]
    exact read_number (prints n) delimited
  | string =>
    rw [stringify, Json.map]
    exact read_quote_value
  | array items =>
    cases items with
    | nil =>
      rw [stringify, Json.map, Json.mapItems]
      rfl
    | cons first items =>
      rw [stringify, Json.map, Json.mapItems]
      have begun : read ⟨stack, .value⟩
          (openBracket :: (stringify print first ++ stringifyItems print items) ++ rest) =
          read ⟨.array [] :: stack, .valueOrClose⟩
            (stringify print first ++ (stringifyItems print items ++ rest)) := by
        rw [List.cons_append, List.append_assoc]
        rfl
      rw [begun, read_valueOrClose prints,
        read_stringify prints first _ _ delimited_items]
      exact read_items prints items [first.map value] stack rest
  | object members =>
    rcases members with - | ⟨⟨key, first⟩, members⟩
    · rw [stringify, Json.map, Json.mapMembers]
      rfl
    · rw [stringify, Json.map, Json.mapMembers]
      have begun : read ⟨stack, .value⟩ (openBrace :: (quote key ++ colon ::
          (stringify print first ++ stringifyMembers print members)) ++ rest) =
          read ⟨.object [] :: stack, .keyOrClose⟩ (quote key ++ colon ::
            (stringify print first ++ (stringifyMembers print members ++ rest))) := by
        simp only [List.cons_append, List.append_assoc]
        rfl
      rw [begun, read_quote_key (.inr rfl)]
      have valued : read ⟨.object [] :: stack, .colon key⟩ (colon ::
          (stringify print first ++ (stringifyMembers print members ++ rest))) =
          read ⟨.member [] key :: stack, .value⟩
            (stringify print first ++ (stringifyMembers print members ++ rest)) := rfl
      rw [valued, read_stringify prints first _ _ delimited_members]
      exact read_members prints members [(key, first.map value)] stack rest

theorem read_items (prints : ∀ n, Prints (print n) (value n)) (items : List (Json ν))
    (before : List (Json JsNumber)) (stack : List Frame) (rest : JsString) :
    read ⟨.array before :: stack, .afterValue⟩ (stringifyItems print items ++ rest) =
      (emit (.array (before.reverse ++ Json.mapItems value items)) stack).bind (read · rest) := by
  cases items with
  | nil =>
    rw [stringifyItems, Json.mapItems, List.append_nil]
    rfl
  | cons item items =>
    rw [stringifyItems, Json.mapItems]
    have begun : read ⟨.array before :: stack, .afterValue⟩
        (comma :: (stringify print item ++ stringifyItems print items) ++ rest) =
        read ⟨.array before :: stack, .value⟩
          (stringify print item ++ (stringifyItems print items ++ rest)) := by
      rw [List.cons_append, List.append_assoc]
      rfl
    rw [begun, read_stringify prints item _ _ delimited_items]
    have next := read_items prints items (item.map value :: before) stack rest
    rw [List.reverse_cons, List.append_assoc] at next
    exact next

theorem read_members (prints : ∀ n, Prints (print n) (value n))
    (members : List (JsString × Json ν)) (before : List (JsString × Json JsNumber))
    (stack : List Frame) (rest : JsString) :
    read ⟨.object before :: stack, .afterValue⟩ (stringifyMembers print members ++ rest) =
      (emit (.object (before.reverse ++ Json.mapMembers value members)) stack).bind
        (read · rest) := by
  rcases members with - | ⟨⟨key, item⟩, members⟩
  · rw [stringifyMembers, Json.mapMembers, List.append_nil]
    rfl
  · rw [stringifyMembers, Json.mapMembers]
    have begun : read ⟨.object before :: stack, .afterValue⟩ (comma :: (quote key ++ colon ::
        (stringify print item ++ stringifyMembers print members)) ++ rest) =
        read ⟨.object before :: stack, .key⟩ (quote key ++ colon ::
          (stringify print item ++ (stringifyMembers print members ++ rest))) := by
      simp only [List.cons_append, List.append_assoc]
      rfl
    rw [begun, read_quote_key (.inl rfl)]
    have valued : read ⟨.object before :: stack, .colon key⟩ (colon ::
        (stringify print item ++ (stringifyMembers print members ++ rest))) =
        read ⟨.member before key :: stack, .value⟩
          (stringify print item ++ (stringifyMembers print members ++ rest)) := rfl
    rw [valued, read_stringify prints item _ _ delimited_members]
    have next := read_members prints members ((key, item.map value) :: before) stack rest
    rw [List.reverse_cons, List.append_assoc] at next
    exact next

end

end Documents

/-! ### Texts that are broken off -/

/-- The outermost value is complete, or is a number that may go on. -/
def Outermost (s : State) : Prop :=
  s.stack = [] ∧ ((∃ value, s.mode = .done value) ∨ ∃ numeral, s.mode = .number numeral)

theorem finish_outermost {value : Json JsNumber} (finished : finish s = some value) :
    Outermost s := by
  obtain ⟨stack, mode⟩ := s
  unfold finish at finished
  split at finished
  · exact ⟨by assumption, .inl ⟨_, by assumption⟩⟩
  · exact ⟨by assumption, .inr ⟨_, by assumption⟩⟩
  · cases finished

theorem numeral_step_brace (numeral : Numeral) : numeral.step closeBrace = none := by
  obtain ⟨phase, _, _, _, _, _⟩ := numeral
  cases phase <;> rfl

theorem numeral_step_replacement (numeral : Numeral) : numeral.step 0xFFFD = none := by
  obtain ⟨phase, _, _, _, _, _⟩ := numeral
  cases phase <;> rfl

/-- Once the outermost value is complete nothing but space and the rest of a number
can follow. -/
theorem step_outermost {s s' : State} {c : UInt16} (outermost : Outermost s)
    (steps : step s c = some s') : c ≠ closeBrace ∧ Outermost s' := by
  obtain ⟨stack, mode⟩ := s
  obtain ⟨rfl, ⟨value, rfl⟩ | ⟨numeral, rfl⟩⟩ := outermost
  · simp only [step, stepAfter] at steps
    split at steps
    · next space =>
      obtain rfl := Option.some.inj steps
      exact ⟨by rintro rfl; exact absurd space (by decide), rfl, .inl ⟨value, rfl⟩⟩
    · cases steps
  · simp only [step] at steps
    split at steps
    · next next isNext =>
      obtain rfl := Option.some.inj steps
      refine ⟨?_, rfl, .inr ⟨next, rfl⟩⟩
      rintro rfl
      simp [numeral_step_brace] at isNext
    · split at steps
      · simp only [emit, Option.bind_some, stepAfter] at steps
        split at steps
        · next space =>
          obtain rfl := Option.some.inj steps
          exact ⟨by rintro rfl; exact absurd space (by decide), rfl, .inl ⟨_, rfl⟩⟩
        · cases steps
      · cases steps

theorem outermost_read {rest : JsString} {value : Json JsNumber} (outermost : Outermost s)
    (reads : read s rest = some value) : closeBrace ∉ rest := by
  induction rest generalizing s with
  | nil => simp
  | cons c rest ih =>
    obtain ⟨s', steps, reads⟩ := Option.bind_eq_some_iff.mp reads
    obtain ⟨ne, outermost'⟩ := step_outermost outermost steps
    simp only [List.mem_cons, not_or]
    exact ⟨ne.symm, ih outermost' reads⟩

theorem word_text (word : Word) : 0xFFFD ∉ word.text := by
  cases word <;> decide

theorem stepAfter_replacement (s : State) : stepAfter s 0xFFFD = none := by
  obtain ⟨stack, mode⟩ := s
  cases mode with
  | afterValue =>
    show close 0xFFFD stack = none
    rcases stack with - | ⟨frame, rest⟩
    · rfl
    · cases frame <;> rfl
  | _ => rfl

/-- A replacement character completes nothing. -/
theorem step_replacement {s s' : State} (steps : step s 0xFFFD = some s') : ¬ Outermost s' := by
  obtain ⟨stack, mode⟩ := s
  cases mode with
  | value | valueOrClose | key | keyOrClose => cases steps
  | colon =>
    rcases stack with - | ⟨frame, rest⟩
    · cases steps
    · cases frame <;> cases steps
  | afterValue =>
    rw [step, stepAfter_replacement] at steps
    cases steps
  | done => cases steps
  | string role units =>
    obtain rfl : (⟨stack, .string role (0xFFFD :: units)⟩ : State) = s' := Option.some.inj steps
    rintro ⟨-, ⟨value, isDone⟩ | ⟨numeral, isNumber⟩⟩
    · cases isDone
    · cases isNumber
  | escape | unicode => cases steps
  | number =>
    simp only [step, numeral_step_replacement, stepAfter_replacement] at steps
    split at steps <;> simp at steps
  | word word seen =>
    simp only [step] at steps
    split at steps
    · cases steps
    · next expected rest isText =>
      rw [if_pos] at steps
      · cases steps
      · rintro rfl
        exact word_text word (List.mem_of_mem_drop (isText ▸ List.mem_cons_self))

theorem read_append {before after : JsString} :
    read s (before ++ after) = (before.foldlM step s).bind (read · after) := by
  induction before generalizing s with
  | nil => rfl
  | cons c before ih =>
    rw [List.cons_append, read_cons, List.foldlM_cons]
    cases step s c with
    | none => rfl
    | some => exact ih

/-- Whatever follows a complete document, it is read as the document or not at all. -/
theorem read_done {value found : Json JsNumber} {rest : JsString}
    (reads : read ⟨[], .done value⟩ rest = some found) : found = value := by
  induction rest with
  | nil => exact (Option.some.inj reads).symm
  | cons c rest ih =>
    obtain ⟨s', steps, reads⟩ := Option.bind_eq_some_iff.mp reads
    simp only [step, stepAfter] at steps
    split at steps
    · obtain rfl := Option.some.inj steps
      exact ih reads
    · cases steps

end JsonMachine

open JsonMachine in
theorem quote_of_append {s t rest : JsString} (same : quote t = quote s ++ rest) : s = t := by
  have readWhole : read ⟨[], .value⟩ (quote t ++ []) =
      (emit (.string t) []).bind (read · []) := read_quote_value
  rw [List.append_nil, same, read_quote_value] at readWhole
  have found := read_done readWhole
  exact (Json.string.inj found).symm

/-- A quoted string is told from what follows it. -/
theorem quote_append_inj {s t rest rest' : JsString}
    (same : quote s ++ rest = quote t ++ rest') : s = t := by
  rcases List.append_eq_append_iff.mp same with ⟨between, isLonger, -⟩ | ⟨between, isLonger, -⟩
  · exact quote_of_append isLonger
  · exact (quote_of_append isLonger).symm

open JsonMachine in
/-- A text broken off before a closing brace is no JSON, with a replacement
character after it or without. -/
theorem parse_torn {before after : JsString} (parses : (parse (before ++ after)).isSome)
    (brace : closeBrace ∈ after) : parse before = none ∧ parse (before ++ [0xFFFD]) = none := by
  obtain ⟨value, parses⟩ := Option.isSome_iff_exists.mp parses
  rw [parse, read_append] at parses
  obtain ⟨s, reached, reads⟩ := Option.bind_eq_some_iff.mp parses
  have inner : ¬ Outermost s := fun outermost => outermost_read outermost reads brace
  constructor
  · rw [parse, ← List.append_nil before, read_append, reached]
    by_contra finished
    obtain ⟨value, finished⟩ := Option.ne_none_iff_exists'.mp finished
    exact inner (finish_outermost finished)
  · rw [parse, read_append, reached, Option.bind_some]
    by_contra finished
    obtain ⟨value, finished⟩ := Option.ne_none_iff_exists'.mp finished
    obtain ⟨s', steps, finished⟩ := Option.bind_eq_some_iff.mp finished
    exact step_replacement steps (finish_outermost finished)

open JsonMachine in
theorem parse_stringify {ν : Type} {print : ν → JsString} {value : ν → JsNumber}
    (prints : ∀ n, Prints (print n) (value n)) (v : Json ν) :
    parse (stringify print v) = some (v.map value) := by
  have reads := read_stringify prints v [] [] (by rintro c tail ⟨⟩)
  rwa [List.append_nil] at reads

/-! ### Texts on one line -/

/-- A well-formed text without a newline. -/
def OnOneLine (s : JsString) : Prop := WellFormed s ∧ (0x0A : UInt16) ∉ s

theorem OnOneLine.append {s t : JsString} (left : OnOneLine s) (right : OnOneLine t) :
    OnOneLine (s ++ t) :=
  ⟨left.1.append right.1, by simp [left.2, right.2]⟩

theorem onOneLine_nil : OnOneLine [] := ⟨.nil, by simp⟩

theorem OnOneLine.cons {c : UInt16} {s : JsString} (tail : OnOneLine s)
    (low : c.toNat < 0xD800) (ne : c ≠ 0x0A) : OnOneLine (c :: s) := by
  refine ⟨.unit ?_ ?_ tail.1, ?_⟩
  · simp [isLead]
    omega
  · simp [isTrail]
    omega
  · simp [tail.2, ne.symm]

theorem onOneLine_plain {s : JsString} (plain : ∀ c ∈ s, c.toNat < 0xD800 ∧ c ≠ 0x0A) :
    OnOneLine s := by
  induction s with
  | nil => exact onOneLine_nil
  | cons c s ih =>
    obtain ⟨⟨low, ne⟩, rest⟩ := List.forall_mem_cons.mp plain
    exact (ih rest).cons low ne

/-- A literal is checked unit by unit. -/
theorem onOneLine_literal {s : JsString}
    (plain : (s.all fun c => c.toNat < 0xD800 ∧ c ≠ 0x0A) = true) : OnOneLine s := by
  apply onOneLine_plain
  intro c mem
  simpa using List.all_eq_true.mp plain c mem

variable {n : Nat}

theorem hexDigit_toNat (lt : n < 0x10) : 0x30 ≤ (hexDigit n).toNat ∧ (hexDigit n).toNat < 0x80 := by
  have all : ∀ n : Fin 0x10, 0x30 ≤ (hexDigit n).toNat ∧ (hexDigit n).toNat < 0x80 := by decide
  exact all ⟨n, lt⟩

theorem onOneLine_unicodeEscape (c : UInt16) : OnOneLine (unicodeEscape c) := by
  have digit : ∀ n < 0x10, ∀ s, OnOneLine s → OnOneLine (hexDigit n :: s) := by
    intro n lt s line
    obtain ⟨low, high⟩ := hexDigit_toNat lt
    refine line.cons (by omega) ?_
    intro eq
    rw [eq] at low
    exact absurd low (by decide)
  have lt := c.toNat_lt
  refine .cons (.cons ?_ (by decide) (by decide)) (by decide) (by decide)
  exact digit _ (by omega) _ (digit _ (by omega) _ (digit _ (by omega) _ (digit _ (by omega) _
    onOneLine_nil)))

theorem onOneLine_quoteUnit {c : UInt16} (lead : isLead c = false) (trail : isTrail c = false) :
    OnOneLine (quoteUnit c) := by
  have escaped : ∀ e : UInt16, e.toNat < 0xD800 → e ≠ 0x0A → OnOneLine [reverseSolidus, e] :=
    fun e low ne => (onOneLine_nil.cons low ne).cons (by decide) (by decide)
  unfold quoteUnit
  split_ifs with special h8 h9 hA hC hD control
  · rcases special with rfl | rfl <;> exact escaped _ (by decide) (by decide)
  iterate 5 exact escaped _ (by decide) (by decide)
  · exact onOneLine_unicodeEscape c
  · refine ⟨.unit lead trail .nil, ?_⟩
    simp only [List.mem_singleton]
    exact fun eq => hA eq.symm

theorem onOneLine_quoteUnits (s : JsString) : OnOneLine (quoteUnits s) := by
  have one : ∀ c, OnOneLine (if isLead c || isTrail c then unicodeEscape c else quoteUnit c) := by
    intro c
    split
    · exact onOneLine_unicodeEscape c
    · next plain =>
      simp only [Bool.or_eq_true, not_or, Bool.not_eq_true] at plain
      exact onOneLine_quoteUnit plain.1 plain.2
  fun_induction quoteUnits s with
  | case1 => exact onOneLine_nil
  | case2 c surrogate => exact onOneLine_unicodeEscape c
  | case3 c plain => simpa [plain] using one c
  | case4 c d tail pair ih =>
    simp only [Bool.and_eq_true] at pair
    have ne : ∀ e : UInt16, 0xD800 ≤ e.toNat → (0x0A : UInt16) ≠ e := by
      rintro e high rfl
      exact absurd high (by decide)
    refine ⟨.pair pair.1 pair.2 ih.1, ?_⟩
    simp only [isLead, isTrail, Bool.and_eq_true, decide_eq_true_eq] at pair
    simp only [List.mem_cons, not_or]
    exact ⟨ne c pair.1.1, ne d (by omega), ih.2⟩
  | case5 c d tail notPair ih => exact (one c).append ih

theorem onOneLine_quote (s : JsString) : OnOneLine (quote s) :=
  ((onOneLine_quoteUnits s).append (onOneLine_nil.cons (by decide) (by decide))).cons (by decide)
    (by decide)

section Stringify

variable {ν : Type} {print : ν → JsString}

mutual

/-- A written document stands on one line. -/
theorem onOneLine_stringify (line : ∀ n, OnOneLine (print n)) (v : Json ν) :
    OnOneLine (stringify print v) := by
  cases v with
  | null =>
    rw [stringify]
    exact onOneLine_literal (by decide)
  | bool b => cases b <;> rw [stringify] <;> exact onOneLine_literal (by decide)
  | number n =>
    rw [stringify]
    exact line n
  | string s =>
    rw [stringify]
    exact onOneLine_quote s
  | array items =>
    cases items with
    | nil =>
      rw [stringify]
      exact onOneLine_literal (by decide)
    | cons first items =>
      rw [stringify]
      exact ((onOneLine_stringify line first).append
        (onOneLine_stringifyItems line items)).cons (by decide) (by decide)
  | object members =>
    rcases members with - | ⟨⟨key, first⟩, members⟩
    · rw [stringify]
      exact onOneLine_literal (by decide)
    · rw [stringify]
      exact ((onOneLine_quote key).append (((onOneLine_stringify line first).append
        (onOneLine_stringifyMembers line members)).cons (by decide) (by decide))).cons
        (by decide) (by decide)

theorem onOneLine_stringifyItems (line : ∀ n, OnOneLine (print n)) (items : List (Json ν)) :
    OnOneLine (stringifyItems print items) := by
  cases items with
  | nil =>
    rw [stringifyItems]
    exact onOneLine_literal (by decide)
  | cons item items =>
    rw [stringifyItems]
    exact ((onOneLine_stringify line item).append
      (onOneLine_stringifyItems line items)).cons (by decide) (by decide)

theorem onOneLine_stringifyMembers (line : ∀ n, OnOneLine (print n))
    (members : List (JsString × Json ν)) : OnOneLine (stringifyMembers print members) := by
  rcases members with - | ⟨⟨key, item⟩, members⟩
  · rw [stringifyMembers]
    exact onOneLine_literal (by decide)
  · rw [stringifyMembers]
    exact ((onOneLine_quote key).append (((onOneLine_stringify line item).append
      (onOneLine_stringifyMembers line members)).cons (by decide) (by decide))).cons
      (by decide) (by decide)

end

/-- A written object ends in a closing brace. -/
theorem stringifyMembers_last (members : List (JsString × Json ν)) :
    ∃ before, stringifyMembers print members = before ++ [closeBrace] := by
  induction members with
  | nil => exact ⟨[], by rw [stringifyMembers]; rfl⟩
  | cons member members ih =>
    obtain ⟨before, isText⟩ := ih
    obtain ⟨key, item⟩ := member
    refine ⟨comma :: (quote key ++ colon :: (stringify print item ++ before)), ?_⟩
    rw [stringifyMembers, isText]
    simp

theorem stringify_object_last (members : List (JsString × Json ν)) :
    ∃ before, stringify print (.object members) = before ++ [closeBrace] := by
  rcases members with - | ⟨⟨key, first⟩, members⟩
  · exact ⟨[openBrace], by rw [stringify]; rfl⟩
  · obtain ⟨before, isText⟩ : ∃ before, stringifyMembers print members =
      before ++ [closeBrace] := stringifyMembers_last members
    refine ⟨openBrace :: (quote key ++ colon :: (stringify print first ++ before)), ?_⟩
    rw [stringify, isText]
    simp

end Stringify

/-! ### Natural numbers -/

theorem digitChar_unit (lt : n < 10) :
    UInt16.ofNat n.digitChar.toNat = UInt16.ofNat (0x30 + n) := by
  have all : ∀ n : Fin 10, UInt16.ofNat n.val.digitChar.toNat = UInt16.ofNat (0x30 + n) := by
    decide
  exact all ⟨n, lt⟩

theorem printNat_digit (lt : n < 10) : printNat n = [UInt16.ofNat (0x30 + n)] := by
  rw [printNat, Nat.toDigits_of_lt_base lt, List.map_singleton, digitChar_unit lt]

theorem printNat_more (ge : 10 ≤ n) :
    printNat n = printNat (n / 10) ++ [UInt16.ofNat (0x30 + n % 10)] := by
  rw [printNat, Nat.toDigits_of_base_le (by decide) ge, List.map_append, List.map_singleton,
    digitChar_unit (Nat.mod_lt _ (by decide)), printNat]

theorem digitValue_ofNat (lt : n < 10) : digitValue (UInt16.ofNat (0x30 + n)) = some n := by
  have all : ∀ n : Fin 10, digitValue (UInt16.ofNat (0x30 + n)) = some n.val := by decide
  exact all ⟨n, lt⟩

theorem ofNat_ne_minus (lt : n < 10) : UInt16.ofNat (0x30 + n) ≠ minusSign := by
  have all : ∀ n : Fin 10, UInt16.ofNat (0x30 + n) ≠ minusSign := by decide
  exact all ⟨n, lt⟩

/-- A positive number is read digit by digit. -/
theorem printNat_steps (positive : 0 < n) :
    ∃ c rest begun, printNat n = c :: rest ∧ startNumeral c = some begun ∧
      rest.foldlM Numeral.step begun = some ⟨.integer, false, n, 0, false, 0⟩ := by
  induction n using Nat.strongRecOn with
  | ind n ih =>
    by_cases small : n < 10
    · refine ⟨_, [], _, printNat_digit small, ?_, rfl⟩
      rw [startNumeral, if_neg (ofNat_ne_minus small), digitValue_ofNat small]
      cases n with
      | zero => exact absurd positive (Nat.lt_irrefl 0)
      | succ => rfl
    · obtain ⟨c, rest, begun, isText, starts, steps⟩ := ih (n / 10) (by omega) (by omega)
      refine ⟨c, rest ++ [UInt16.ofNat (0x30 + n % 10)], begun, ?_, starts, ?_⟩
      · rw [printNat_more (by omega), isText, List.cons_append]
      · rw [List.foldlM_append, steps]
        have digit : digitValue (UInt16.ofNat (0x30 + n % 10)) = some (n % 10) :=
          digitValue_ofNat (Nat.mod_lt n (by decide))
        have whole : n / 10 * 10 + n % 10 = n := by omega
        simp only [Option.bind_eq_bind, Option.bind_some, List.foldlM_cons, List.foldlM_nil,
          Numeral.step, digit, whole, Option.pure_def]

theorem roundHalfEven_one (a : Nat) : roundHalfEven a 1 = a := by
  simp [roundHalfEven, Nat.mod_one]

theorem binary64_natural (safe : n < 2 ^ 53) : binary64 n 1 = .integer n := by
  unfold binary64
  rw [Nat.div_one]
  by_cases zero : n = 0
  · have nothing : ∀ k, 0 * k ≤ 1 := fun k => by simp
    rw [if_pos zero, if_pos (zero ▸ nothing _), zero]
    rfl
  · rw [if_neg zero, if_pos safe]
    simp only [roundHalfEven_one]
    rw [if_pos (Nat.mul_mod_left _ _), Nat.mul_div_cancel _ (Nat.two_pow_pos _)]

/-- A natural number is read back as its nearest binary64. -/
theorem prints_printNat (n : Nat) : JsonMachine.Prints (printNat n) (binary64 n 1) := by
  have value : ∀ phase, (⟨phase, false, n, 0, false, 0⟩ : Numeral).value = binary64 n 1 := by
    intro phase
    have same : (⟨phase, false, n, 0, false, 0⟩ : Numeral).value =
        match binary64 (n * 10 ^ 0) 1 with
        | .integer value => .integer value
        | other => other := rfl
    rw [same, Nat.pow_zero, Nat.mul_one]
    split <;> simp_all
  rcases Nat.eq_zero_or_pos n with rfl | positive
  · exact ⟨0x30, [], ⟨.zero, false, 0, 0, false, 0⟩, _, rfl, rfl, rfl, rfl, value _⟩
  · obtain ⟨c, rest, begun, isText, starts, steps⟩ := printNat_steps positive
    exact ⟨c, rest, begun, _, isText, starts, steps, rfl, value _⟩

theorem mem_printNat {c : UInt16} (mem : c ∈ printNat n) : 0x30 ≤ c.toNat ∧ c.toNat ≤ 0x39 := by
  obtain ⟨digit, isDigit, rfl⟩ := List.mem_map.mp mem
  have isDigit := Nat.isDigit_of_mem_toDigits (by decide) (by decide) isDigit
  have range : 0x30 ≤ digit.toNat ∧ digit.toNat ≤ 0x39 := by
    simp only [Char.isDigit, Bool.and_eq_true, decide_eq_true_eq] at isDigit
    exact isDigit
  rw [UInt16.toNat_ofNat']
  omega

theorem printNat_injective {m n : Nat} (same : printNat m = printNat n) : m = n := by
  have zero {k : Nat} (isZero : printNat 0 = printNat k) : 0 = k := by
    by_contra positive
    obtain ⟨c, rest, begun, isText, starts, steps⟩ :=
      printNat_steps (Nat.pos_of_ne_zero (Ne.symm positive))
    obtain ⟨rfl, rfl⟩ := List.cons_eq_cons.mp (isText.symm.trans isZero.symm)
    cases starts
    cases steps
  rcases Nat.eq_zero_or_pos m with rfl | first
  · exact zero same
  · rcases Nat.eq_zero_or_pos n with rfl | second
    · exact (zero same.symm).symm
    · obtain ⟨c, rest, begun, isText, starts, steps⟩ := printNat_steps first
      obtain ⟨c', rest', begun', isText', starts', steps'⟩ := printNat_steps second
      obtain ⟨rfl, rfl⟩ := List.cons_eq_cons.mp (isText.symm.trans (same.trans isText'))
      obtain rfl := Option.some.inj (starts.symm.trans starts')
      cases steps.symm.trans steps'
      rfl

theorem comma_not_mem_printNat (n : Nat) : comma ∉ printNat n := by
  intro mem
  exact absurd (mem_printNat mem).1 (by decide)

/-- A number ends at the first comma. -/
theorem printNat_comma {m n : Nat} {rest rest' : JsString}
    (same : printNat m ++ comma :: rest = printNat n ++ comma :: rest') : m = n ∧ rest = rest' := by
  have digits (k : Nat) (tail : JsString) :
      (printNat k ++ comma :: tail).takeWhile (fun c => c != comma) = printNat k := by
    rw [List.takeWhile_append_of_pos fun c mem => ?_]
    · simp
    · exact bne_iff_ne.mpr fun isComma => comma_not_mem_printNat k (isComma ▸ mem)
  have first : printNat m = printNat n := by rw [← digits m rest, same, digits]
  rw [first] at same
  exact ⟨printNat_injective first, (List.cons.inj (List.append_cancel_left same)).2⟩

theorem onOneLine_printNat (n : Nat) : OnOneLine (printNat n) := by
  refine onOneLine_plain fun c mem => ?_
  have range := mem_printNat mem
  refine ⟨by omega, ?_⟩
  rintro rfl
  exact absurd range.1 (by decide)

end ModemStack.Text
