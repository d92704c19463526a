import Mathlib.Data.List.Induction
import ModemStack.Text.Numeral

/-!
Numbers written in strings, as `Number` and its `parseFloat` and `parseInt` read them.
-/

namespace ModemStack.Text

/-- The digits at the head of a text, and what follows them. -/
def splitDigits (text : JsString) : List Nat × JsString :=
  ((text.takeWhile fun c => (digitValue c).isSome).filterMap digitValue,
    text.dropWhile fun c => (digitValue c).isSome)

def ofDigits (base : Nat) (digits : List Nat) : Nat :=
  digits.foldl (fun n digit => n * base + digit) 0

/-- The base that the second character of a literal such as `0x1F` stands for. -/
def radixOf (mark : UInt16) : Option Nat :=
  if mark = 0x78 ∨ mark = 0x58 then some 16
  else if mark = 0x6F ∨ mark = 0x4F then some 8
  else if mark = 0x62 ∨ mark = 0x42 then some 2
  else none

def radixNumber (text : JsString) : Option JsNumber :=
  match text with
  | zero :: mark :: units =>
    if zero ≠ 0x30 ∨ units = [] then none
    else
      (radixOf mark).bind fun base =>
        (units.mapM fun c => (hexValue c).filter (· < base)).map fun digits =>
          binary64 (ofDigits base digits) 1
  | _ => none

/-- A sign, and what follows it. -/
def splitSign (text : JsString) : Bool × JsString :=
  match text with
  | sign :: rest =>
    if sign = minusSign then (true, rest)
    else if sign = plusSign then (false, rest)
    else (false, text)
  | [] => (false, [])

/-- The exponent at the end of a decimal literal. -/
def exponentOf (text : JsString) : Option Int :=
  match text with
  | [] => some 0
  | mark :: rest =>
    let (negative, rest) := splitSign rest
    let (digits, rest) := splitDigits rest
    if (mark = 0x65 ∨ mark = 0x45) ∧ digits ≠ [] ∧ rest = [] then
      some (if negative then -(ofDigits 10 digits : Int) else ofDigits 10 digits)
    else none

def JsNumber.signed (negative : Bool) : JsNumber → JsNumber
  | .integer value => .integer (if negative then -value else value)
  | other => other

def decimalNumber (text : JsString) : Option JsNumber :=
  let (negative, text) := splitSign text
  if text = js "Infinity" then some .infinite
  else
    let (whole, rest) := splitDigits text
    let (fraction, rest) := match rest with
      | point :: more => if point = fullStop then splitDigits more else ([], rest)
      | [] => ([], [])
    if whole = [] ∧ fraction = [] then none
    else
      (exponentOf rest).map fun (exponent : Int) =>
        let power : Int := exponent - fraction.length
        let digits := ofDigits 10 (whole ++ fraction)
        JsNumber.signed negative
          (if 0 ≤ power then binary64 (digits * 10 ^ power.toNat) 1
          else binary64 digits (10 ^ (-power).toNat))

/-- `Number(text)`, unless it is not a number. -/
def numberOf (text : JsString) : Option JsNumber :=
  let text := trim text
  if text = [] then some (.integer 0) else (radixNumber text).or (decimalNumber text)

/-! ### Integers at the head of a text -/

/-- The prefix that `parseInt` drops in front of hexadecimal digits. -/
def dropHexMark (text : JsString) : JsString :=
  match text with
  | zero :: mark :: rest => if zero = 0x30 ∧ radixOf mark = some 16 then rest else text
  | _ => text

/-- `Number.parseInt(text, base)` for base 10 and 16, unless it is not a number. The sign of a
zero is dropped. -/
def parseInt (base : Nat) (text : JsString) : Option Int :=
  let (negative, rest) := splitSign (text.dropWhile isJsSpace)
  let rest := if base = 16 then dropHexMark rest else rest
  let digits := (rest.takeWhile fun c => (hexValue c).any (· < base)).filterMap hexValue
  if digits = [] then none
  else some (if negative then -(ofDigits base digits : Int) else ofDigits base digits)

/-! ### Decimals at the head of a text -/

def Double.signed (negative : Bool) : Double → Double
  | .finite value => if negative then (if value = 0 then .negativeZero else .finite (-value))
      else .finite value
  | .infinite _ => .infinite negative
  | other => other

/-- The exponent that a decimal goes on with, or 0. -/
def exponentHead : JsString → Int
  | [] => 0
  | mark :: rest =>
    let (negative, rest) := splitSign rest
    let (digits, _) := splitDigits rest
    if mark = 0x65 ∨ mark = 0x45 then
      if negative then -(ofDigits 10 digits : Int) else ofDigits 10 digits
    else 0

/-- `Number.parseFloat(text)` -/
def parseFloat (text : JsString) : Double :=
  let (negative, rest) := splitSign (text.dropWhile isJsSpace)
  if (js "Infinity").isPrefixOf rest then .infinite negative
  else
    let (whole, rest) := splitDigits rest
    let (fraction, rest) := match rest with
      | point :: more => if point = fullStop then splitDigits more else ([], rest)
      | [] => ([], [])
    if whole = [] ∧ fraction = [] then .nan
    else
      let power : Int := exponentHead rest - fraction.length
      let digits := ofDigits 10 (whole ++ fraction)
      Double.signed negative
        (if 0 ≤ power then Double.nearest (digits * 10 ^ power.toNat) 1
        else Double.nearest digits (10 ^ (-power).toNat))

/-- The number that a literal such as `0x1F` is. -/
def radixDouble (text : JsString) : Option Double :=
  match text with
  | zero :: mark :: units =>
    if zero ≠ 0x30 ∨ units = [] then none
    else
      (radixOf mark).bind fun base =>
        (units.mapM fun c => (hexValue c).filter (· < base)).map fun digits =>
          Double.nearest (ofDigits base digits) 1
  | _ => none

/-- `Number(text)` -/
def numberDouble (text : JsString) : Double :=
  let text := trim text
  if text = [] then .finite 0
  else
    match radixDouble text with
    | some value => value
    | none => if (decimalNumber text).isSome then parseFloat text else .nan

/-! ### Plain digits -/

variable {c : UInt16} {digits : JsString}

theorem digitValue_isDigitUnit (digit : isDigitUnit c = true) :
    digitValue c = some (c.toNat - 0x30) := by
  rw [isDigitUnit, Bool.and_eq_true, decide_eq_true_eq, decide_eq_true_eq] at digit
  exact if_pos digit

theorem hexValue_isDigitUnit (digit : isDigitUnit c = true) :
    hexValue c = some (c.toNat - 0x30) := by
  rw [isDigitUnit, Bool.and_eq_true, decide_eq_true_eq, decide_eq_true_eq] at digit
  exact if_pos digit

theorem filterMap_digitValue (all : ∀ c ∈ digits, isDigitUnit c = true) :
    digits.filterMap digitValue = digits.map fun c => c.toNat - 0x30 := by
  rw [← List.filterMap_eq_map]
  exact List.filterMap_congr fun c mem => digitValue_isDigitUnit (all c mem)

theorem ofDigits_map (digits : JsString) :
    ofDigits 10 (digits.map fun c => c.toNat - 0x30) = decimalValue digits := by
  rw [ofDigits, List.foldl_map]
  rfl

theorem decimalValue_lt (all : ∀ c ∈ digits, isDigitUnit c = true) :
    decimalValue digits < 10 ^ digits.length := by
  induction digits using List.reverseRecOn with
  | nil => decide
  | append_singleton digits c ih =>
    have most := ih fun d mem => all d (List.mem_append_left _ mem)
    have digit := all c (by simp)
    rw [isDigitUnit, Bool.and_eq_true, decide_eq_true_eq, decide_eq_true_eq] at digit
    rw [decimalValue_append, List.length_append, List.length_singleton, Nat.pow_succ]
    omega

/-- Digits, up to where something else begins. -/
theorem splitDigits_append {digits rest : JsString} (all : ∀ c ∈ digits, isDigitUnit c = true)
    (stops : ∀ c ∈ rest.head?, digitValue c = none) :
    splitDigits (digits ++ rest) = (digits.map fun c => c.toNat - 0x30, rest) := by
  have each : ∀ c ∈ digits, (digitValue c).isSome = true := by
    intro c mem
    rw [digitValue_isDigitUnit (all c mem)]
    rfl
  have head : rest.takeWhile (fun c => (digitValue c).isSome) = [] ∧
      rest.dropWhile (fun c => (digitValue c).isSome) = rest := by
    cases rest with
    | nil => exact ⟨rfl, rfl⟩
    | cons c rest => simp [stops c rfl]
  rw [splitDigits, List.takeWhile_append_of_pos each, List.dropWhile_append_of_pos each, head.1,
    head.2, List.append_nil, filterMap_digitValue all]

theorem hexUnit_facts : ∀ n < 0x80, (hexValue (UInt16.ofNat n)).isSome = true →
    isJsSpace (UInt16.ofNat n) = false ∧ UInt16.ofNat n ≠ minusSign ∧
      UInt16.ofNat n ≠ plusSign ∧ UInt16.ofNat n ≠ 0x49 ∧
      radixOf (UInt16.ofNat n) ≠ some 16 := by
  decide

/-- A hexadecimal digit is no white space and no sign, and begins no word. -/
theorem hexValue_facts (hex : (hexValue c).isSome = true) :
    isJsSpace c = false ∧ c ≠ minusSign ∧ c ≠ plusSign ∧ c ≠ 0x49 ∧ radixOf c ≠ some 16 := by
  have small : c.toNat < 0x80 := by
    unfold hexValue at hex
    split_ifs at hex with decimal lower upper
    · omega
    · omega
    · omega
    · cases hex
  have facts := hexUnit_facts c.toNat small
  rw [UInt16.ofNat_toNat] at facts
  exact facts hex

theorem isDigitUnit_hexValue (digit : isDigitUnit c = true) : (hexValue c).isSome = true := by
  rw [hexValue_isDigitUnit digit]
  rfl

theorem hexValue_lt {n : Nat} (value : hexValue c = some n) : n < 16 := by
  unfold hexValue at value
  split_ifs at value with decimal lower upper
  all_goals
    cases value
    omega

/-- A text that begins with a digit has no sign in front. -/
theorem splitSign_digit (digit : isDigitUnit c = true) (rest : JsString) :
    splitSign ((c :: rest).dropWhile isJsSpace) = (false, c :: rest) := by
  obtain ⟨solid, notMinus, notPlus, -, -⟩ := hexValue_facts (isDigitUnit_hexValue digit)
  rw [List.dropWhile_cons_of_neg (by simp [solid]), splitSign, if_neg notMinus, if_neg notPlus]

/-- Two hexadecimal digits. -/
theorem parseInt_hexPair {c d : UInt16} {m n : Nat} (first : hexValue c = some m)
    (second : hexValue d = some n) : parseInt 16 [c, d] = some ((m * 16 + n : Nat) : Int) := by
  obtain ⟨solid, notMinus, notPlus, -, -⟩ := hexValue_facts (Option.isSome_of_eq_some first)
  obtain ⟨-, -, -, -, noMark⟩ := hexValue_facts (Option.isSome_of_eq_some second)
  have sign : splitSign [c, d] = (false, [c, d]) := by
    rw [splitSign, if_neg notMinus, if_neg notPlus]
  have mark : dropHexMark [c, d] = [c, d] := by
    rw [dropHexMark, if_neg fun isMark => noMark isMark.2]
  have smallM : m < 16 := hexValue_lt first
  have smallN : n < 16 := hexValue_lt second
  simp [parseInt, solid, sign, mark, first, second, smallM, smallN, ofDigits]

/-- A numeral, as an integer. -/
theorem parseInt_numeral (numeral : isNumeral digits = true) :
    parseInt 10 digits = some ((decimalValue digits : Nat) : Int) := by
  rw [isNumeral, Bool.and_eq_true, decide_eq_true_eq, List.all_eq_true] at numeral
  obtain ⟨some, all⟩ := numeral
  have sign : splitSign (digits.dropWhile isJsSpace) = (false, digits) := by
    obtain ⟨c, rest, rfl⟩ := List.exists_cons_of_ne_nil some
    exact splitSign_digit (all c List.mem_cons_self) rest
  have whole : digits.takeWhile (fun c => (hexValue c).any (· < 10)) = digits := by
    rw [← List.append_nil digits, List.takeWhile_append_of_pos, List.takeWhile_nil]
    intro c mem
    have digit := all c mem
    rw [hexValue_isDigitUnit digit]
    rw [isDigitUnit, Bool.and_eq_true, decide_eq_true_eq, decide_eq_true_eq] at digit
    simp only [Option.any_some, decide_eq_true_eq]
    omega
  have values : digits.filterMap hexValue = digits.map fun c => c.toNat - 0x30 := by
    rw [← List.filterMap_eq_map]
    exact List.filterMap_congr fun c mem => hexValue_isDigitUnit (all c mem)
  have nonempty : (digits.map fun c => c.toNat - 0x30) ≠ [] := by
    intro empty
    exact some (List.map_eq_nil_iff.mp empty)
  rw [parseInt, sign]
  simp only [Nat.reduceEqDiff, if_false, whole, values, if_neg nonempty, ofDigits_map,
    Bool.false_eq_true]

theorem infinity_isPrefixOf (digit : isDigitUnit c = true) (rest : JsString) :
    (js "Infinity").isPrefixOf (c :: rest) = false := by
  obtain ⟨-, -, -, notI, -⟩ := hexValue_facts (isDigitUnit_hexValue digit)
  have word : js "Infinity" = 0x49 :: js "nfinity" := rfl
  rw [word, List.isPrefixOf_cons_cons, beq_false_of_ne (Ne.symm notI), Bool.false_and]

/-- The digits after a point, and what follows them. -/
def splitFraction (text : JsString) : List Nat × JsString :=
  match text with
  | point :: more => if point = fullStop then splitDigits more else ([], text)
  | [] => ([], [])

/-- `digits * 10 ^ power` -/
def decimalNearest (digits : Nat) (power : Int) : Double :=
  if 0 ≤ power then Double.nearest (digits * 10 ^ power.toNat) 1
  else Double.nearest digits (10 ^ (-power).toNat)

theorem decimalNearest_neg (digits k : Nat) :
    decimalNearest digits (-(k : Int)) = Double.nearest digits (10 ^ k) := by
  unfold decimalNearest
  by_cases zero : k = 0
  · subst zero
    rw [if_pos (by omega), Int.toNat_of_nonpos (by omega), pow_zero, Nat.mul_one]
  · rw [if_neg (by omega), neg_neg, Int.toNat_natCast]

theorem signed_nearest (a b : Nat) :
    Double.signed false (Double.nearest a b) = Double.nearest a b := by
  unfold Double.nearest
  dsimp only
  split_ifs <;> rfl

/-- What `parseFloat` makes of digits that a text begins with. -/
theorem parseFloat_digits {whole rest : JsString} (some : whole ≠ [])
    (all : ∀ c ∈ whole, isDigitUnit c = true) (stops : ∀ c ∈ rest.head?, digitValue c = none) :
    parseFloat (whole ++ rest) =
      Double.signed false (decimalNearest
        (ofDigits 10 ((whole.map fun c => c.toNat - 0x30) ++ (splitFraction rest).1))
        (exponentHead (splitFraction rest).2 - (splitFraction rest).1.length)) := by
  have split := splitDigits_append all stops
  obtain ⟨c, tail, rfl⟩ := List.exists_cons_of_ne_nil some
  have digit : isDigitUnit c = true := all c List.mem_cons_self
  have sign : splitSign ((c :: tail ++ rest).dropWhile isJsSpace) = (false, c :: tail ++ rest) :=
    splitSign_digit digit _
  have word : (js "Infinity").isPrefixOf (c :: tail ++ rest) = false :=
    infinity_isPrefixOf digit _
  unfold parseFloat
  rw [sign]
  dsimp only
  rw [word, if_neg Bool.false_ne_true, split, if_neg fun empty => nomatch empty.1]
  rfl

/-- Digits with a fraction, as a decimal. -/
theorem parseFloat_point {whole fraction : JsString} (some : whole ≠ [])
    (all : ∀ c ∈ whole, isDigitUnit c = true) (all' : ∀ c ∈ fraction, isDigitUnit c = true) :
    parseFloat (whole ++ fullStop :: fraction) =
      Double.nearest (decimalValue (whole ++ fraction)) (10 ^ fraction.length) := by
  have more : splitDigits (fraction ++ []) = (fraction.map fun c => c.toNat - 0x30, []) :=
    splitDigits_append all' fun c mem => nomatch mem
  rw [List.append_nil] at more
  have split : splitFraction (fullStop :: fraction) =
      (fraction.map fun c => c.toNat - 0x30, []) := by
    rw [splitFraction, if_pos rfl, more]
  rw [parseFloat_digits some all (by intro c mem; cases mem; rfl), split, ← List.map_append,
    ofDigits_map, List.length_map, exponentHead, zero_sub, decimalNearest_neg, signed_nearest]

theorem parseFloat_whole {whole : JsString} (some : whole ≠ [])
    (all : ∀ c ∈ whole, isDigitUnit c = true) :
    parseFloat whole = Double.nearest (decimalValue whole) 1 := by
  have noPoint : ∀ c ∈ ([] : JsString).head?, digitValue c = none := fun c mem => nomatch mem
  have digits := parseFloat_digits some all noPoint
  rw [List.append_nil] at digits
  rw [digits, splitFraction, List.append_nil, ofDigits_map, exponentHead, zero_sub,
    decimalNearest_neg, signed_nearest]
  rfl

end ModemStack.Text
