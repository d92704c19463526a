import ModemStack.Text.Json

/-!
JavaScript numbers that are compared as values and written into texts.
-/

namespace ModemStack.Text

/-- A number, told from others as `Object.is` does. -/
inductive Double where
  | nan
  | infinite (negative : Bool)
  | negativeZero
  | finite (value : Rat)
deriving DecidableEq

namespace Double

/-- `Number.isSafeInteger(x) && x >= 0`. -/
def isSafeNatural : Double → Bool
  | .negativeZero => true
  | .finite value => decide (value.den = 1 ∧ 0 ≤ value.num ∧ value.num < 2 ^ 53)
  | _ => false

/-- The number's place on the extended line: the infinity it is at, or its value. -/
def place : Double → Option (Int × Rat)
  | .nan => none
  | .infinite negative => some (if negative then -1 else 1, 0)
  | .negativeZero => some (0, 0)
  | .finite value => some (0, value)

/-- `x < y`. -/
def lt (x y : Double) : Bool :=
  match x.place, y.place with
  | some (i, a), some (j, b) => i < j || i = j && a < b
  | _, _ => false

/-- `x === y`. -/
def same (x y : Double) : Bool :=
  match x.place, y.place with
  | some a, some b => a = b
  | _, _ => false

/-- `x <= y`. -/
def le (x y : Double) : Bool := x.lt y || x.same y

@[simp] theorem same_self {x : Double} : x.same x = true ↔ x ≠ .nan := by
  cases x <;> simp [same, place]

theorem lt_irrefl (x : Double) : x.lt x = false := by
  cases x <;> simp [lt, place, Rat.lt_irrefl]

theorem lt_trans {x y z : Double} (first : x.lt y = true) (second : y.lt z = true) :
    x.lt z = true := by
  unfold lt at first second ⊢
  cases atX : x.place with
  | none => simp [atX] at first
  | some =>
    cases atY : y.place with
    | none => simp [atX, atY] at first
    | some =>
      cases atZ : z.place with
      | none => simp [atY, atZ] at second
      | some =>
        simp only [atX, atY, atZ, Bool.or_eq_true, Bool.and_eq_true, decide_eq_true_eq]
          at first second ⊢
        rcases first with below | ⟨same, below⟩
        · rcases second with below' | ⟨same', -⟩
          · exact .inl (by omega)
          · exact .inl (by omega)
        · rcases second with below' | ⟨same', below'⟩
          · exact .inl (by omega)
          · have above := Rat.not_le.mpr below'
            have reaches := Rat.le_of_lt below
            exact .inr ⟨same.trans same', Rat.not_le.mp fun back =>
              above (Rat.le_trans back reaches)⟩

/-- `n * base ^ exponent`. -/
def scaled (n base : Nat) (exponent : Int) : Rat :=
  if 0 ≤ exponent then ((n * base ^ exponent.toNat : Nat) : Rat)
  else mkRat n (base ^ (-exponent).toNat)

/-- The binary logarithm of a positive `a / b`, rounded down. -/
def log2 (a b : Nat) : Int :=
  if b ≤ a then Nat.log2 (a / b) else -(Nat.log2 ((b - 1) / a) + 1 : Nat)

/-- The binary64 number nearest to `a / b`, ties to even. -/
def nearest (a b : Nat) : Double :=
  if a = 0 then .finite 0
  else
    let unit := max (log2 a b - 52) (-1074)
    let n := if 0 ≤ unit then roundHalfEven a (b * 2 ^ unit.toNat)
      else roundHalfEven (a * 2 ^ (-unit).toNat) b
    let value := scaled n 2 unit
    if (overflow : Rat) ≤ value then .infinite false else .finite value

/-- `Number(text)` of decimal digits. -/
def ofDigits (text : JsString) : Double :=
  nearest (text.foldl (fun n c => n * 10 + (c.toNat - 0x30)) 0) 1

/-! ### Writing a number -/

/-- How many digits a positive `a / b` has before its point; where it begins with
zeros after the point, their number, negated. -/
def pointPlace (a b : Nat) : Int :=
  if b ≤ a then (printNat (a / b)).length else 1 - (printNat ((b - 1) / a)).length

/-- The decimal of at most `k` digits closest to a positive `value`, if it is read
back as `value`: the digits and the exponent. -/
def decimalOf (value : Rat) (k : Nat) : Option (Nat × Int) :=
  let exponent := pointPlace value.num.toNat value.den - k
  let below := (value / scaled 1 10 exponent).floor.toNat
  let readBack := fun n => nearest (scaled n 10 exponent).num.toNat (scaled n 10 exponent).den
  let distance := fun n => (value - scaled n 10 exponent).abs
  let closest := match [below, below + 1].filter fun n => decide (readBack n = .finite value) with
    | [] => none
    | [n] => some n
    | n :: m :: _ =>
      if distance n < distance m ∨ distance n = distance m ∧ n % 2 = 0 then some n else some m
  -- rounding up can reach the next power of ten
  closest.map fun n => if n = 10 ^ k then (1, exponent + k) else (n, exponent)

/-- A decimal in the notation its size asks for. -/
def decimalText (n : Nat) (exponent : Int) : JsString :=
  let digits := printNat n
  let point := exponent + digits.length
  let zeros := fun count : Int => List.replicate count.toNat (0x30 : UInt16)
  if 0 ≤ exponent ∧ point ≤ 21 then digits ++ zeros exponent
  else if 0 < point ∧ point ≤ 21 then
    digits.take point.toNat ++ fullStop :: digits.drop point.toNat
  else if -6 < point ∧ point ≤ 0 then js "0." ++ zeros (-point) ++ digits
  else
    let mantissa := match digits with
      | first :: second :: rest => first :: fullStop :: second :: rest
      | short => short
    let sign := if 0 < point then js "e+" else js "e-"
    mantissa ++ sign ++ printNat (point - 1).natAbs

/-- `String(x)`: the shortest decimal that is read back as `x`. -/
def text : Double → JsString
  | .nan => js "NaN"
  | .infinite negative => (if negative then js "-" else []) ++ js "Infinity"
  | .negativeZero => js "0"
  | .finite value =>
    if value = 0 then js "0"
    else
      let shortest := (List.range 17).findSome? fun k => decimalOf value.abs (k + 1)
      (if value < 0 then js "-" else []) ++
        match shortest with
        | some (n, exponent) => decimalText n exponent
        | none => []

end Double

/-- A number in JSON. -/
def numberText (value : Double) : JsString :=
  match value with
  | .nan | .infinite _ => js "null"
  | value => value.text

end ModemStack.Text
