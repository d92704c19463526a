import Mathlib.Algebra.Order.Ring.Rat
import Mathlib.Data.Prod.Lex
import ModemStack.Text.Number

/-!
The comparisons of numbers: those of their places on the extended line, which `NaN` has not.
-/

namespace ModemStack.Text.Double

variable {x y : Double}

theorem lt_iff : x.lt y = true ↔
    ∃ a b, x.place = some a ∧ y.place = some b ∧ toLex a < toLex b := by
  unfold lt
  constructor
  · intro less
    split at less
    · next i a j b atX atY =>
      rw [Bool.or_eq_true, Bool.and_eq_true, decide_eq_true_eq, decide_eq_true_eq,
        decide_eq_true_eq] at less
      exact ⟨_, _, atX, atY, Prod.Lex.toLex_lt_toLex.mpr less⟩
    · cases less
  · rintro ⟨a, b, atX, atY, less⟩
    simp only [atX, atY, Bool.or_eq_true, Bool.and_eq_true, decide_eq_true_eq]
    exact Prod.Lex.toLex_lt_toLex.mp less

theorem le_iff : x.le y = true ↔
    ∃ a b, x.place = some a ∧ y.place = some b ∧ toLex a ≤ toLex b := by
  rw [le, Bool.or_eq_true, lt_iff]
  constructor
  · rintro (⟨a, b, atX, atY, less⟩ | equal)
    · exact ⟨a, b, atX, atY, less.le⟩
    · unfold same at equal
      split at equal
      · next a b atX atY =>
        rw [decide_eq_true_eq] at equal
        exact ⟨a, b, atX, atY, (congrArg toLex equal).le⟩
      · cases equal
  · rintro ⟨a, b, atX, atY, most⟩
    rcases most.lt_or_eq with less | equal
    · exact .inl ⟨a, b, atX, atY, less⟩
    · right
      simp only [same, atX, atY, decide_eq_true_eq]
      exact toLex.injective equal

/-- Of two numbers the one is no more than the other, unless it is more. -/
theorem le_eq_not_lt (number : x ≠ .nan) (number' : y ≠ .nan) : x.le y = !y.lt x := by
  have place {z : Double} (isNumber : z ≠ .nan) : ∃ a, z.place = some a := by
    cases z with
    | nan => exact absurd rfl isNumber
    | _ => exact ⟨_, rfl⟩
  obtain ⟨a, atX⟩ := place number
  obtain ⟨b, atY⟩ := place number'
  rw [Bool.eq_iff_iff, Bool.not_eq_true', ← Bool.not_eq_true, le_iff, lt_iff]
  constructor
  · rintro ⟨a', b', atX', atY', most⟩ ⟨b'', a'', atY'', atX'', less⟩
    cases atX'.symm.trans atX''
    cases atY'.symm.trans atY''
    exact absurd less most.not_gt
  · intro notLess
    exact ⟨a, b, atX, atY, not_lt.mp fun less => notLess ⟨b, a, atY, atX, less⟩⟩

/-- The later of two times is before a third just if both are. -/
theorem later_lt_iff {start cycle bound : Double} :
    (if start.lt cycle then cycle else start).lt bound = true ↔
      start.lt bound = true ∧ bound.le cycle = false := by
  rw [← Bool.not_eq_true, le_iff]
  by_cases rolls : start.lt cycle = true
  · rw [if_pos rolls, lt_iff, lt_iff]
    obtain ⟨a, b, atStart, atCycle, less⟩ := lt_iff.mp rolls
    constructor
    · rintro ⟨b', c, atCycle', atBound, below⟩
      cases atCycle.symm.trans atCycle'
      refine ⟨⟨a, c, atStart, atBound, less.trans below⟩, ?_⟩
      rintro ⟨c', b', atBound', atCycle', most⟩
      cases atCycle.symm.trans atCycle'
      cases atBound.symm.trans atBound'
      exact absurd below most.not_gt
    · rintro ⟨⟨a', c, -, atBound, -⟩, above⟩
      exact ⟨b, c, atCycle, atBound, not_le.mp fun most => above ⟨c, b, atBound, atCycle, most⟩⟩
  · rw [if_neg rolls]
    refine ⟨fun below => ⟨below, ?_⟩, And.left⟩
    rintro ⟨c, b, atBound, atCycle, most⟩
    obtain ⟨a, c', atStart, atBound', below⟩ := lt_iff.mp below
    cases atBound.symm.trans atBound'
    exact rolls (lt_iff.mpr ⟨a, b, atStart, atCycle, below.trans_le most⟩)

theorem le_self_of_lt (less : x.lt y = true) : y.le y = true := by
  obtain ⟨a, b, -, atY, -⟩ := lt_iff.mp less
  exact le_iff.mpr ⟨b, b, atY, atY, le_refl _⟩

end ModemStack.Text.Double
