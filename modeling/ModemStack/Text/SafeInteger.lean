import Mathlib.Data.Rat.Floor
import ModemStack.Text.Number

/-!
Natural numbers below `2 ^ 53` as doubles: they are exact, and written with their own digits.
-/

namespace ModemStack.Text

namespace Double

/-! ### Reading -/

theorem log2_one {m : Nat} (positive : 0 < m) : log2 m 1 = Nat.log2 m := by
  rw [log2, if_pos (by omega), Nat.div_one]

theorem safe_le_overflow : 2 ^ 53 ≤ overflow := by
  unfold overflow
  exact pow_le_pow_right₀ (by decide) (by decide)

/-- A natural number below `2 ^ 53` is its own nearest double. -/
theorem nearest_natural {m : Nat} (safe : m < 2 ^ 53) : nearest m 1 = .finite m := by
  unfold nearest
  by_cases zero : m = 0
  · subst zero
    simp
  · have positive := Nat.pos_of_ne_zero zero
    have low : Nat.log2 m < 53 := (Nat.log2_lt zero).mpr safe
    have unit : max (log2 m 1 - 52) (-1074) = -((52 - Nat.log2 m : Nat) : Int) := by
      rw [log2_one positive]
      omega
    have small : ¬ (overflow : Rat) ≤ (m : Rat) := by
      rw [not_le]
      exact_mod_cast lt_of_lt_of_le safe safe_le_overflow
    rw [if_neg zero]
    simp only [unit]
    generalize 52 - Nat.log2 m = shift
    have value : scaled (if 0 ≤ -(shift : Int) then
        roundHalfEven m (1 * 2 ^ (-(shift : Int)).toNat)
      else roundHalfEven (m * 2 ^ (- -(shift : Int)).toNat) 1) 2 (-(shift : Int)) = m := by
      cases shift with
      | zero => simp [scaled, roundHalfEven_one]
      | succ shift =>
        have negative : ¬ (0 : Int) ≤ -((shift + 1 : Nat) : Int) := by omega
        have power : (2 ^ (shift + 1) : Nat) ≠ 0 := by positivity
        rw [if_neg negative, scaled, if_neg negative, neg_neg, Int.toNat_natCast,
          roundHalfEven_one, Rat.mkRat_eq_div]
        push_cast
        field_simp
    rw [value, if_neg small]

theorem le_roundHalfEven (a b : Nat) : a / b ≤ roundHalfEven a b := by
  unfold roundHalfEven
  split
  · exact le_refl _
  · exact Nat.le_succ _

/-- From `2 ^ 53` on no double below is near. -/
theorem nearest_large {m : Nat} (large : 2 ^ 53 ≤ m) : (nearest m 1).isSafeNatural = false := by
  have positive : 0 < m := lt_of_lt_of_le (by decide) large
  have low : 53 ≤ Nat.log2 m := (Nat.le_log2 positive.ne').mpr large
  have unit : max (log2 m 1 - 52) (-1074) = ((Nat.log2 m - 52 : Nat) : Int) := by
    rw [log2_one positive]
    omega
  unfold nearest
  rw [if_neg positive.ne']
  simp only [unit]
  generalize isShift : Nat.log2 m - 52 = shift
  have shifted : (0 : Int) ≤ (shift : Int) := Int.natCast_nonneg shift
  rw [if_pos shifted, Int.toNat_natCast, one_mul, scaled, if_pos shifted, Int.toNat_natCast]
  have reaches : 2 ^ 53 ≤ roundHalfEven m (2 ^ shift) * 2 ^ shift := by
    have whole : 2 ^ 52 ≤ m / 2 ^ shift := by
      rw [Nat.le_div_iff_mul_le (Nat.two_pow_pos shift), ← Nat.pow_add]
      exact (Nat.le_log2 positive.ne').mp (by omega)
    calc 2 ^ 53 = 2 ^ 52 * 2 ^ 1 := by norm_num
      _ ≤ roundHalfEven m (2 ^ shift) * 2 ^ shift :=
          Nat.mul_le_mul (whole.trans (le_roundHalfEven _ _))
            (Nat.pow_le_pow_right (by decide) (by omega))
  split
  · rfl
  · rw [isSafeNatural, decide_eq_false_iff_not]
    rintro ⟨-, -, below⟩
    rw [Rat.num_natCast] at below
    have below' : roundHalfEven m (2 ^ shift) * 2 ^ shift < 2 ^ 53 := by exact_mod_cast below
    omega

theorem isSafeNatural_natural {m : Nat} : (finite m).isSafeNatural = true ↔ m < 2 ^ 53 := by
  rw [isSafeNatural, decide_eq_true_iff, Rat.num_natCast, Rat.den_natCast]
  constructor
  · rintro ⟨-, -, below⟩
    exact_mod_cast below
  · intro below
    exact ⟨rfl, Int.natCast_nonneg m, by exact_mod_cast below⟩

/-- Digits are a safe integer just if they stand for one. -/
theorem isSafeNatural_nearest {m : Nat} : (nearest m 1).isSafeNatural = true ↔ m < 2 ^ 53 := by
  by_cases safe : m < 2 ^ 53
  · rw [nearest_natural safe, isSafeNatural_natural]
  · rw [nearest_large (Nat.le_of_not_lt safe)]
    exact iff_of_false nofun safe

/-! ### Writing -/

theorem length_printNat_le {n e : Nat} (positive : 0 < e) (lt : n < 10 ^ e) :
    (printNat n).length ≤ e := by
  induction e generalizing n with
  | zero => exact absurd positive (Nat.lt_irrefl 0)
  | succ e ih =>
    by_cases small : n < 10
    · rw [printNat_digit small]
      exact Nat.le_add_left 1 e
    · rw [printNat_more (Nat.le_of_not_lt small), List.length_append, List.length_singleton]
      have shorter : n / 10 < 10 ^ e := by
        rw [Nat.div_lt_iff_lt_mul (by decide), ← Nat.pow_succ]
        exact lt
      have place : 0 < e := by
        by_contra none_left
        obtain rfl : e = 0 := by omega
        omega
      exact Nat.add_le_add_right (ih place shorter) 1

theorem printNat_mul_ten {n : Nat} (positive : 0 < n) :
    printNat (n * 10) = printNat n ++ [0x30] := by
  rw [printNat_more (by omega), Nat.mul_div_cancel n (by decide), Nat.mul_mod_left]
  rfl

/-- The digits of a number and as many zeros. -/
theorem printNat_mul_pow {n : Nat} (positive : 0 < n) (e : Nat) :
    printNat (n * 10 ^ e) = printNat n ++ List.replicate e 0x30 := by
  induction e with
  | zero => simp
  | succ e ih =>
    rw [Nat.pow_succ, ← Nat.mul_assoc, printNat_mul_ten (by positivity), ih,
      List.replicate_succ', List.append_assoc]

theorem pointPlace_natural {m : Nat} (positive : 0 < m) : pointPlace m 1 = (printNat m).length := by
  rw [pointPlace, if_pos (by omega), Nat.div_one]

theorem scaled_natural (n e : Nat) : scaled n 10 (e : Int) = ((n * 10 ^ e : Nat) : Rat) := by
  rw [scaled, if_pos (Int.natCast_nonneg e), Int.toNat_natCast]

/-- A decimal that is read back as the number is the number. -/
theorem readBack_iff {m n e : Nat} (safe : m < 2 ^ 53) :
    nearest (scaled n 10 (e : Int)).num.toNat (scaled n 10 (e : Int)).den = .finite m ↔
      n * 10 ^ e = m := by
  rw [scaled_natural, Rat.num_natCast, Rat.den_natCast, Int.toNat_natCast]
  constructor
  · intro near
    by_cases small : n * 10 ^ e < 2 ^ 53
    · rw [nearest_natural small] at near
      exact_mod_cast finite.inj near
    · have far := nearest_large (Nat.le_of_not_lt small)
      rw [near, Bool.eq_false_iff] at far
      exact absurd (isSafeNatural_natural.mpr safe) far
  · rintro rfl
    exact nearest_natural safe

theorem floor_scaled (m e : Nat) : ((m : Rat) / scaled 1 10 (e : Int)).floor.toNat = m / 10 ^ e := by
  rw [scaled_natural, one_mul]
  have floor : ((m : Rat) / ((10 ^ e : Nat) : Rat)).floor = (m : Int) / ((10 ^ e : Nat) : Int) :=
    Rat.floor_natCast_div_natCast m (10 ^ e)
  rw [floor, ← Int.natCast_ediv, Int.toNat_natCast]

/-- With `k` of its digits a number is written just if the others are zeros. -/
theorem decimalOf_natural {m k e : Nat} (safe : m < 2 ^ 53) (positive : 0 < m)
    (digits : (printNat m).length = k + e) :
    decimalOf m k = if m / 10 ^ e * 10 ^ e = m then
        if m / 10 ^ e = 10 ^ k then some (1, (e + k : Int)) else some (m / 10 ^ e, (e : Int))
      else none := by
  have exponent : pointPlace (m : Rat).num.toNat (m : Rat).den - k = (e : Int) := by
    rw [Rat.num_natCast, Rat.den_natCast, Int.toNat_natCast, pointPlace_natural positive, digits]
    omega
  have next : (m / 10 ^ e + 1) * 10 ^ e ≠ m := by
    have above := Nat.lt_div_mul_add (a := m) (b := 10 ^ e) (by positivity)
    rw [Nat.add_mul, one_mul]
    omega
  unfold decimalOf
  simp only [exponent, floor_scaled, readBack_iff safe, next, List.filter_cons, List.filter_nil,
    decide_false, Bool.false_eq_true, if_false]
  by_cases whole : m / 10 ^ e * 10 ^ e = m
  · simp only [whole, decide_true, if_true, Option.map_some]
    split <;> rfl
  · simp only [whole, decide_false, Bool.false_eq_true, if_false, Option.map_none]

theorem decimalText_natural {n e : Nat} (positive : 0 < n)
    (short : (printNat (n * 10 ^ e)).length ≤ 21) :
    decimalText n (e : Int) = printNat (n * 10 ^ e) := by
  rw [printNat_mul_pow positive, List.length_append, List.length_replicate] at short
  unfold decimalText
  simp only
  rw [if_pos ⟨Int.natCast_nonneg e, by omega⟩, Int.toNat_natCast, printNat_mul_pow positive]

/-- What the first of a range of steps finds, if each of them finds something good or nothing. -/
theorem findSome?_range {β : Type} {f : Nat → Option β} {Good : β → Prop} {n last : Nat}
    (inside : last < n) (found : f last ≠ none)
    (good : ∀ k ≤ last, ∀ b, f k = some b → Good b) :
    ∃ b, (List.range n).findSome? f = some b ∧ Good b := by
  cases result : (List.range n).findSome? f with
  | none => exact absurd (List.findSome?_eq_none_iff.mp result last (List.mem_range.mpr inside)) found
  | some b =>
    obtain ⟨before, k, after, whole, gives, silent⟩ := List.findSome?_eq_some_iff.mp result
    refine ⟨b, rfl, good k ?_ b gives⟩
    by_contra later
    have place : k = before.length := by
      have here := congrArg (fun list => list[before.length]?) whole
      simp only [List.getElem?_append_right (le_refl _), Nat.sub_self, List.getElem?_cons_zero]
        at here
      exact ((List.getElem?_eq_some_iff.mp here).2.symm.trans (List.getElem_range _))
    have earlier : last < before.length := by omega
    have mem : last ∈ before := by
      have here := congrArg (fun list => list[last]?) whole
      simp only [List.getElem?_append_left earlier, List.getElem?_range inside] at here
      exact List.mem_of_getElem? here.symm
    exact found (silent last mem)

section Written

variable {m k : Nat} (safe : m < 2 ^ 53) (positive : 0 < m)

include safe positive

theorem decimalOf_written (within : k ≤ (printNat m).length) (short : (printNat m).length ≤ 21)
    {written : Nat × Int} (isWritten : decimalOf m k = some written) :
    decimalText written.1 written.2 = printNat m := by
  obtain ⟨e, digits⟩ := Nat.exists_eq_add_of_le within
  have text : ∀ {n e : Nat}, n * 10 ^ e = m → decimalText n (e : Int) = printNat m := by
    rintro n e rfl
    exact decimalText_natural (Nat.pos_of_mul_pos_right positive) short
  rw [decimalOf_natural safe positive digits] at isWritten
  split at isWritten
  · next whole =>
    split at isWritten
    · next power =>
      cases isWritten
      rw [power, ← Nat.pow_add, Nat.add_comm] at whole
      exact text (e := e + k) ((Nat.one_mul _).trans whole)
    · cases isWritten
      exact text whole
  · cases isWritten

theorem decimalOf_all : decimalOf m (printNat m).length ≠ none := by
  rw [decimalOf_natural safe positive (e := 0) rfl, Nat.pow_zero, Nat.div_one, Nat.mul_one,
    if_pos rfl]
  split <;> nofun

end Written

/-- A safe integer is written with its own digits. -/
theorem text_natural {m : Nat} (safe : m < 2 ^ 53) : (finite m).text = printNat m := by
  by_cases zero : m = 0
  · subst zero
    rfl
  · have positive := Nat.pos_of_ne_zero zero
    have short : (printNat m).length ≤ 16 :=
      length_printNat_le (by decide) (Nat.lt_trans safe (by decide))
    have some_digit : (printNat m).length ≠ 0 := by
      obtain ⟨c, rest, -, isText, -, -⟩ := printNat_steps positive
      simp [isText]
    obtain ⟨last, digits⟩ := Nat.exists_eq_succ_of_ne_zero some_digit
    have found := decimalOf_all safe positive
    rw [digits] at found
    obtain ⟨written, shortest, text⟩ : ∃ written : Nat × Int,
        ((List.range 17).findSome? fun k => decimalOf m (k + 1)) = some written ∧
          decimalText written.1 written.2 = printNat m := by
      refine findSome?_range (by omega) found fun k le written isWritten => ?_
      exact decimalOf_written safe positive (by omega) (by omega) isWritten
    have nonzero : (m : Rat) ≠ 0 := by exact_mod_cast zero
    have nonnegative : ¬ (m : Rat) < 0 := not_lt.mpr (by exact_mod_cast Nat.zero_le m)
    have absolute : (m : Rat).abs = m := if_pos (by exact_mod_cast Nat.zero_le m)
    unfold Double.text
    simp only
    rw [if_neg nonzero, if_neg nonnegative, absolute, shortest, List.nil_append]
    exact text

end Double

end ModemStack.Text
