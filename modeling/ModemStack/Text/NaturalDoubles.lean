import ModemStack.Text.DoubleOrder
import ModemStack.Text.SafeInteger

/-!
The doubles nearest to natural numbers: they never stand in the other order.
-/

namespace ModemStack.Text

/-! ### Rounding -/

theorem roundHalfEven_le_succ (a b : Nat) : roundHalfEven a b ≤ a / b + 1 := by
  unfold roundHalfEven
  split
  · exact Nat.le_succ _
  · exact le_refl _

theorem roundHalfEven_mono {a a' : Nat} (le : a ≤ a') (b : Nat) :
    roundHalfEven a b ≤ roundHalfEven a' b := by
  rcases (Nat.div_le_div_right le : a / b ≤ a' / b).lt_or_eq with less | same
  · calc roundHalfEven a b ≤ a / b + 1 := roundHalfEven_le_succ a b
      _ ≤ a' / b := less
      _ ≤ roundHalfEven a' b := Double.le_roundHalfEven a' b
  · have division := Nat.div_add_mod a b
    have division' := Nat.div_add_mod a' b
    rw [← same] at division'
    have remainders : a % b ≤ a' % b := by omega
    unfold roundHalfEven
    rw [← same]
    split
    · split <;> omega
    · split
      · omega
      · exact le_refl _

theorem roundHalfEven_multiple (n : Nat) {b : Nat} (positive : 0 < b) :
    roundHalfEven (n * b) b = n := by
  rw [roundHalfEven, Nat.mul_mod_left, Nat.mul_div_cancel n positive, if_pos (.inl (by omega))]

/-- A natural number rounded to 53 binary digits. -/
def rounded (m : Nat) : Nat :=
  roundHalfEven m (2 ^ (Nat.log2 m - 52)) * 2 ^ (Nat.log2 m - 52)

theorem rounded_small {m : Nat} (safe : m < 2 ^ 53) : rounded m = m := by
  have low : Nat.log2 m - 52 = 0 := by
    by_cases zero : m = 0
    · rw [zero]
      rfl
    · have below := (Nat.log2_lt zero).mpr safe
      omega
  rw [rounded, low, Nat.pow_zero, roundHalfEven_one, Nat.mul_one]

theorem rounded_mono {m m' : Nat} (le : m ≤ m') : rounded m ≤ rounded m' := by
  by_cases zero : m = 0
  · rw [zero]
    exact Nat.zero_le _
  have positive : m' ≠ 0 := by omega
  have logs : Nat.log2 m ≤ Nat.log2 m' :=
    (Nat.le_log2 positive).mpr (((Nat.le_log2 zero).mp (le_refl _)).trans le)
  by_cases level : Nat.log2 m - 52 = Nat.log2 m' - 52
  · rw [rounded, rounded, ← level]
    exact Nat.mul_le_mul_right _ (roundHalfEven_mono le _)
  -- at different scales there is a power of two between them
  · have large : 52 < Nat.log2 m' := by omega
    have whole : 2 ^ 52 ≤ m' / 2 ^ (Nat.log2 m' - 52) := by
      rw [Nat.le_div_iff_mul_le (Nat.two_pow_pos _), ← Nat.pow_add]
      exact (Nat.le_log2 positive).mp (by omega)
    have short : m ≤ 2 ^ 53 * 2 ^ (Nat.log2 m - 52) := by
      rw [← Nat.pow_add]
      exact (Nat.lt_log2_self).le.trans (Nat.pow_le_pow_right (by decide) (by omega))
    calc rounded m ≤ 2 ^ 53 * 2 ^ (Nat.log2 m - 52) := by
          refine Nat.mul_le_mul_right _ ?_
          rw [← roundHalfEven_multiple (2 ^ 53) (Nat.two_pow_pos (Nat.log2 m - 52))]
          exact roundHalfEven_mono short _
      _ = 2 ^ (53 + (Nat.log2 m - 52)) := (Nat.pow_add ..).symm
      _ ≤ 2 ^ (52 + (Nat.log2 m' - 52)) := Nat.pow_le_pow_right (by decide) (by omega)
      _ = 2 ^ 52 * 2 ^ (Nat.log2 m' - 52) := Nat.pow_add ..
      _ ≤ rounded m' := Nat.mul_le_mul_right _ (whole.trans (Double.le_roundHalfEven _ _))

namespace Double

theorem nearest_eq_rounded (m : Nat) :
    nearest m 1 =
      if overflow ≤ rounded m then .infinite false else .finite (rounded m : Rat) := by
  by_cases safe : m < 2 ^ 53
  · have below : ¬ overflow ≤ m := Nat.not_le_of_lt (safe.trans_le safe_le_overflow)
    rw [nearest_natural safe, rounded_small safe, if_neg below]
  · have large := Nat.le_of_not_lt safe
    have positive : 0 < m := lt_of_lt_of_le (by decide) large
    have low : 53 ≤ Nat.log2 m := (Nat.le_log2 positive.ne').mpr large
    have unit : max (log2 m 1 - 52) (-1074) = ((Nat.log2 m - 52 : Nat) : Int) := by
      rw [log2_one positive]
      omega
    unfold nearest rounded
    rw [if_neg positive.ne']
    simp only [unit]
    generalize Nat.log2 m - 52 = shift
    have shifted : (0 : Int) ≤ (shift : Int) := Int.natCast_nonneg shift
    rw [if_pos shifted, Int.toNat_natCast, one_mul, scaled, if_pos shifted, Int.toNat_natCast]
    simp only [Nat.cast_le]

theorem lt_of_nearest_lt {m m' : Nat} (less : (nearest m 1).lt (nearest m' 1) = true) : m < m' := by
  by_contra above
  have mono := rounded_mono (Nat.le_of_not_lt above)
  rw [nearest_eq_rounded, nearest_eq_rounded] at less
  by_cases far : overflow ≤ rounded m'
  · rw [if_pos far, if_pos (far.trans mono)] at less
    simp [lt, place] at less
  · rw [if_neg far] at less
    split at less
    · simp [lt, place] at less
    · simp only [lt, place, lt_self_iff_false, decide_false, decide_true, Bool.true_and,
        Bool.false_or, decide_eq_true_eq, Nat.cast_lt] at less
      omega

/-- A natural number is nearest to a number. -/
theorem place_nearest (m : Nat) : ∃ place', (nearest m 1).place = some place' := by
  rw [nearest_eq_rounded]
  split <;> exact ⟨_, rfl⟩

end Double

end ModemStack.Text
