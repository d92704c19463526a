import ModemStack.Text.SafeInteger

/-!
Numerals of decimal digits, and names that are a mark and a numeral.
-/

namespace ModemStack.Text

def isDigitUnit (c : UInt16) : Bool := 0x30 ≤ c.toNat && c.toNat ≤ 0x39

/-- `/^\d+$/` -/
def isNumeral (token : JsString) : Bool := token ≠ [] && token.all isDigitUnit

/-- A number for which `Number.isSafeInteger` holds. -/
def safeInteger (text : JsString) : Option Nat :=
  match Double.ofDigits text with
  | .finite value => if (Double.finite value).isSafeNatural then some value.num.toNat else none
  | _ => none

/-- The number that decimal digits stand for. -/
def decimalValue (digits : JsString) : Nat :=
  digits.foldl (fun n c => n * 10 + (c.toNat - 0x30)) 0

theorem ofDigits_eq (digits : JsString) :
    Double.ofDigits digits = Double.nearest (decimalValue digits) 1 := rfl

variable {n : Nat}

theorem safeInteger_eq_some {digits : JsString} :
    safeInteger digits = some n ↔ decimalValue digits = n ∧ n < 2 ^ 53 := by
  unfold safeInteger
  by_cases safe : decimalValue digits < 2 ^ 53
  · rw [ofDigits_eq, Double.nearest_natural safe]
    simp only [Double.isSafeNatural_natural.mpr safe, if_true, Rat.num_natCast, Int.toNat_natCast,
      Option.some.injEq]
    constructor
    · rintro rfl
      exact ⟨rfl, safe⟩
    · exact fun both => both.1
  · have far := Double.nearest_large (Nat.le_of_not_lt safe)
    rw [ofDigits_eq]
    constructor
    · intro read
      split at read
      · next value isValue =>
        rw [isValue] at far
        rw [far] at read
        cases read
      · cases read
    · rintro ⟨rfl, below⟩
      exact absurd below safe

/-! ### A mark and a numeral -/

/-- The capture of `/^mark(\d+)$/`. -/
def numeralAfter (mark name : JsString) : Option JsString :=
  if mark.isPrefixOf name && isNumeral (name.drop mark.length) then some (name.drop mark.length)
  else none

theorem isNumeral_printNat (n : Nat) : isNumeral (printNat n) = true := by
  rw [isNumeral, Bool.and_eq_true, decide_eq_true_eq, List.all_eq_true]
  refine ⟨?_, fun c mem => ?_⟩
  · rintro none
    have digits := Nat.toDigits_ne_nil (b := 10) (n := n)
    exact digits (List.map_eq_nil_iff.mp none)
  · obtain ⟨least, most⟩ := mem_printNat mem
    simp [isDigitUnit, least, most]

theorem decimalValue_append (digits : JsString) (c : UInt16) :
    decimalValue (digits ++ [c]) = decimalValue digits * 10 + (c.toNat - 0x30) := by
  rw [decimalValue, List.foldl_append]
  rfl

theorem digitUnit_toNat (lt : n < 10) : (UInt16.ofNat (0x30 + n)).toNat - 0x30 = n := by
  rw [UInt16.toNat_ofNat']
  omega

/-- The digits of a number stand for it. -/
theorem decimalValue_printNat (n : Nat) : decimalValue (printNat n) = n := by
  induction n using Nat.strongRecOn with
  | ind n ih =>
    by_cases small : n < 10
    · rw [printNat_digit small, ← List.nil_append [_], decimalValue_append, digitUnit_toNat small]
      simp [decimalValue]
    · rw [printNat_more (Nat.le_of_not_lt small), decimalValue_append, ih (n / 10) (by omega),
        digitUnit_toNat (Nat.mod_lt n (by decide))]
      omega

theorem safeInteger_printNat (safe : n < 2 ^ 53) : safeInteger (printNat n) = some n :=
  safeInteger_eq_some.mpr ⟨decimalValue_printNat n, safe⟩

theorem numeralAfter_eq_some {mark name digits : JsString} :
    numeralAfter mark name = some digits ↔ name = mark ++ digits ∧ isNumeral digits = true := by
  unfold numeralAfter
  constructor
  · intro captured
    split at captured
    · next both =>
      cases captured
      obtain ⟨begins, numeral⟩ := Bool.and_eq_true_iff.mp both
      refine ⟨?_, numeral⟩
      obtain ⟨rest, rfl⟩ := List.isPrefixOf_iff_prefix.mp begins
      rw [List.drop_left]
    · cases captured
  · rintro ⟨rfl, numeral⟩
    rw [List.drop_left, if_pos]
    rw [Bool.and_eq_true]
    exact ⟨List.isPrefixOf_iff_prefix.mpr (List.prefix_append _ _), numeral⟩

/-- Each number under its mark. -/
theorem numeralAfter_printNat (mark : JsString) (n : Nat) :
    numeralAfter mark (mark ++ printNat n) = some (printNat n) :=
  numeralAfter_eq_some.mpr ⟨rfl, isNumeral_printNat n⟩

end ModemStack.Text
