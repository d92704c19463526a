import ModemStack.Text.NaturalDoubles

/-!
Sums and differences of numbers, rounded to the nearest double.
-/

namespace ModemStack.Text.Double

/-- The double nearest to a rational number. -/
def ofRat (value : Rat) : Double :=
  if 0 ≤ value then nearest value.num.toNat value.den
  else
    match nearest (-value).num.toNat value.den with
    | .finite size => if size = 0 then .negativeZero else .finite (-size)
    | .infinite _ => .infinite true
    | other => other

/-- `n + x` -/
def addNatural (n : Nat) : Double → Double
  | .nan => .nan
  | .infinite negative => .infinite negative
  | .negativeZero => .finite n
  | .finite value => ofRat (n + value)

/-- `x - y` -/
def sub : Double → Double → Double
  | .nan, _ | _, .nan => .nan
  | .infinite negative, .infinite negative' =>
    if negative = negative' then .nan else .infinite negative
  | .infinite negative, _ => .infinite negative
  | _, .infinite negative => .infinite !negative
  | .negativeZero, .negativeZero => .finite 0
  | .negativeZero, .finite b => if b = 0 then .negativeZero else ofRat (-b)
  | .finite a, .negativeZero => .finite a
  | .finite a, .finite b => ofRat (a - b)

/-- `-x` -/
def neg : Double → Double
  | .nan => .nan
  | .infinite negative => .infinite !negative
  | .negativeZero => .finite 0
  | .finite value => if value = 0 then .negativeZero else .finite (-value)

/-- `x + y` -/
def add (x y : Double) : Double := x.sub y.neg

/-- `x / n`, for a positive `n`. -/
def divNatural (x : Double) (n : Nat) : Double :=
  match x with
  | .finite value => ofRat (value / n)
  | other => other

/-- `Math.abs(x)` -/
def abs : Double → Double
  | .nan => .nan
  | .infinite _ => .infinite false
  | .negativeZero => .finite 0
  | .finite value => .finite (if value < 0 then -value else value)

/-- `Number.isFinite(x)` -/
def isFinite : Double → Bool
  | .nan | .infinite _ => false
  | .negativeZero | .finite _ => true

/-- A finite double is a multiple of the least positive one. -/
def OnGrid (x : Double) : Prop :=
  ∀ value, x = .finite value → ∃ k : Int, value * 2 ^ 1074 = k

/-- The natural number that a number is. -/
def toNatural : Double → Nat
  | .finite value => value.num.toNat
  | _ => 0

/-! ### Rounding between natural numbers -/

theorem log2_le {a b : Nat} (below : a < 2 ^ 53 * b) : log2 a b ≤ 52 := by
  unfold log2
  split
  · next le =>
    have positive : 0 < b := by
      by_contra zero
      rw [Nat.eq_zero_of_not_pos zero, Nat.mul_zero] at below
      exact Nat.not_lt_zero a below
    have quotient : a / b ≠ 0 := (Nat.div_pos le positive).ne'
    have less : a / b < 2 ^ 53 := (Nat.div_lt_iff_lt_mul positive).mpr below
    have small := (Nat.log2_lt quotient).mpr less
    omega
  · omega

theorem le_roundHalfEven_of_mul_le {n a b : Nat} (positive : 0 < b) (low : n * b ≤ a) :
    n ≤ roundHalfEven a b := by
  have mono := roundHalfEven_mono low b
  rwa [roundHalfEven_multiple n positive] at mono

theorem roundHalfEven_le_of_le_mul {n a b : Nat} (positive : 0 < b) (high : a ≤ n * b) :
    roundHalfEven a b ≤ n := by
  have mono := roundHalfEven_mono high b
  rwa [roundHalfEven_multiple n positive] at mono

/-- What lies between natural numbers below `2 ^ 53` is rounded to a number between them. -/
theorem nearest_between {a b low high : Nat} (positive : 0 < b) (below : low * b ≤ a)
    (above : a ≤ high * b) (safe : high < 2 ^ 53) :
    ∃ value : Rat, nearest a b = .finite value ∧ (low : Rat) ≤ value ∧ value ≤ high := by
  by_cases zero : a = 0
  · subst zero
    have isZero : low = 0 := by
      rcases Nat.mul_eq_zero.mp (Nat.le_zero.mp below) with isZero | noDenominator
      · exact isZero
      · omega
    refine ⟨0, by rw [nearest, if_pos rfl], ?_, ?_⟩
    · rw [isZero, Nat.cast_zero]
    · exact_mod_cast Nat.zero_le high
  have less : a < 2 ^ 53 * b := lt_of_le_of_lt above (Nat.mul_lt_mul_of_pos_right safe positive)
  have small := log2_le less
  obtain ⟨shift, isShift⟩ : ∃ shift : Nat, max (log2 a b - 52) (-1074) = -(shift : Int) :=
    ⟨(-max (log2 a b - 52) (-1074)).toNat, by omega⟩
  -- `unit` is one over this power of two
  have rounds : ∃ n : Nat, low * 2 ^ shift ≤ n ∧ n ≤ high * 2 ^ shift ∧
      scaled (if 0 ≤ -(shift : Int) then roundHalfEven a (b * 2 ^ (-(shift : Int)).toNat)
        else roundHalfEven (a * 2 ^ (- -(shift : Int)).toNat) b) 2 (-(shift : Int)) =
        n / 2 ^ shift := by
    cases shift with
    | zero =>
      refine ⟨roundHalfEven a b, ?_, ?_, ?_⟩
      · simpa using le_roundHalfEven_of_mul_le positive below
      · simpa using roundHalfEven_le_of_le_mul positive above
      · simp [scaled]
    | succ shift =>
      have negative : ¬ (0 : Int) ≤ -((shift + 1 : Nat) : Int) := by omega
      refine ⟨roundHalfEven (a * 2 ^ (shift + 1)) b, ?_, ?_, ?_⟩
      · refine le_roundHalfEven_of_mul_le positive ?_
        calc low * 2 ^ (shift + 1) * b = low * b * 2 ^ (shift + 1) := Nat.mul_right_comm ..
          _ ≤ a * 2 ^ (shift + 1) := Nat.mul_le_mul_right _ below
      · refine roundHalfEven_le_of_le_mul positive ?_
        calc a * 2 ^ (shift + 1) ≤ high * b * 2 ^ (shift + 1) := Nat.mul_le_mul_right _ above
          _ = high * 2 ^ (shift + 1) * b := Nat.mul_right_comm ..
      · rw [if_neg negative, scaled, if_neg negative, neg_neg, Int.toNat_natCast,
          Rat.mkRat_eq_div]
        push_cast
        rfl
  obtain ⟨n, fromLow, toHigh, isValue⟩ := rounds
  have power : (0 : Rat) < 2 ^ shift := by positivity
  have lower : (low : Rat) ≤ n / 2 ^ shift := by
    rw [le_div_iff₀ power]
    exact_mod_cast fromLow
  have upper : (n : Rat) / 2 ^ shift ≤ high := by
    rw [div_le_iff₀ power]
    exact_mod_cast toHigh
  have finite : ¬ (overflow : Rat) ≤ n / 2 ^ shift := by
    rw [not_le]
    refine lt_of_le_of_lt upper ?_
    exact_mod_cast lt_of_lt_of_le safe safe_le_overflow
  refine ⟨n / 2 ^ shift, ?_, lower, upper⟩
  unfold nearest
  rw [if_neg zero]
  simp only [isShift, isValue, if_neg finite]

variable {value : Rat} {x y : Double}

/-- A sum that lies between natural numbers below `2 ^ 53`. -/
theorem ofRat_between {low high : Nat} (below : (low : Rat) ≤ value) (above : value ≤ high)
    (safe : high < 2 ^ 53) :
    ∃ sum : Rat, ofRat value = .finite sum ∧ (low : Rat) ≤ sum ∧ sum ≤ high := by
  have nonNegative : 0 ≤ value := le_trans (Nat.cast_nonneg low) below
  have fraction : value = value.num.toNat / value.den := by
    have numerator : ((value.num.toNat : Int) : Rat) = value.num := by
      rw [Int.toNat_of_nonneg (Rat.num_nonneg.mpr nonNegative)]
    rw [← Int.cast_natCast value.num.toNat, numerator]
    exact (Rat.num_div_den value).symm
  have positive : (0 : Rat) < value.den := by exact_mod_cast value.den_pos
  rw [fraction, le_div_iff₀ positive] at below
  rw [fraction, div_le_iff₀ positive] at above
  rw [ofRat, if_pos nonNegative]
  exact nearest_between value.den_pos (by exact_mod_cast below) (by exact_mod_cast above) safe

/-! ### Numbers that are not `NaN` -/

theorem nearest_ne_nan (a b : Nat) : nearest a b ≠ .nan := by
  unfold nearest
  dsimp only
  split_ifs <;> simp

theorem ofRat_ne_nan (value : Rat) : ofRat value ≠ .nan := by
  unfold ofRat
  split
  · exact nearest_ne_nan _ _
  · cases rounded : nearest (-value).num.toNat value.den with
    | nan => exact absurd rounded (nearest_ne_nan _ _)
    | finite =>
      dsimp only
      split_ifs <;> nofun
    | _ => nofun

theorem sub_ne_nan (finite : x.isFinite = true) (number : y ≠ .nan) : x.sub y ≠ .nan := by
  cases x with
  | nan | infinite => cases finite
  | negativeZero =>
    cases y with
    | nan => exact absurd rfl number
    | finite b =>
      show (if b = 0 then negativeZero else ofRat (-b)) ≠ .nan
      split_ifs
      · nofun
      · exact ofRat_ne_nan _
    | _ => nofun
  | finite =>
    cases y with
    | nan => exact absurd rfl number
    | finite => exact ofRat_ne_nan _
    | _ => nofun

theorem neg_ne_nan {x : Double} : x.neg ≠ .nan ↔ x ≠ .nan := by
  cases x with
  | finite value =>
    show (if value = 0 then negativeZero else finite (-value)) ≠ .nan ↔ _
    split_ifs <;> simp
  | _ => simp [neg]

theorem divNatural_ne_nan {x : Double} (n : Nat) (number : x ≠ .nan) : x.divNatural n ≠ .nan := by
  cases x with
  | finite => exact ofRat_ne_nan _
  | _ => exact number

theorem abs_ne_nan {x : Double} (number : x ≠ .nan) : x.abs ≠ .nan := by
  cases x with
  | nan => exact absurd rfl number
  | _ => nofun

/-! ### The sign of a difference -/

theorem scaled_pos {n : Nat} (unit : Int) (some : 0 < n) : 0 < scaled n 2 unit := by
  unfold scaled
  split
  · exact_mod_cast Nat.mul_pos some (by positivity)
  · rw [Rat.mkRat_eq_div]
    have above : (0 : Rat) < n := by exact_mod_cast some
    positivity

/-- A fraction no less than the least positive double is not rounded to zero. -/
theorem nearest_pos {a b : Nat} (positive : 0 < b) (large : b ≤ a * 2 ^ 1074) :
    (Double.finite 0).lt (nearest a b) = true := by
  have nonZero : a ≠ 0 := by
    rintro rfl
    rw [Nat.zero_mul] at large
    exact absurd positive (Nat.not_lt.mpr large)
  have one {n d : Nat} (denominator : 0 < d) (low : d ≤ n) : 0 < roundHalfEven n d :=
    le_roundHalfEven_of_mul_le denominator (by omega)
  have rounds : 0 < (if 0 ≤ max (log2 a b - 52) (-1074) then
      roundHalfEven a (b * 2 ^ (max (log2 a b - 52) (-1074)).toNat)
      else roundHalfEven (a * 2 ^ (-max (log2 a b - 52) (-1074)).toNat) b) := by
    by_cases le : b ≤ a
    · have isLog : log2 a b = (Nat.log2 (a / b) : Int) := if_pos le
      split
      · next integral =>
        have exponent : (max (log2 a b - 52) (-1074)).toNat ≤ Nat.log2 (a / b) := by omega
        have quotient : a / b ≠ 0 := (Nat.div_pos le positive).ne'
        have power : 2 ^ Nat.log2 (a / b) ≤ a / b := Nat.log2_self_le quotient
        refine one (by positivity) ?_
        calc b * 2 ^ (max (log2 a b - 52) (-1074)).toNat
            ≤ b * 2 ^ Nat.log2 (a / b) :=
              Nat.mul_le_mul_left b (Nat.pow_le_pow_right (by decide) exponent)
          _ ≤ b * (a / b) := Nat.mul_le_mul_left b power
          _ ≤ a := Nat.mul_div_le a b
      · exact one positive (le.trans (Nat.le_mul_of_pos_right a (by positivity)))
    · have isLog : log2 a b = -(Nat.log2 ((b - 1) / a) + 1 : Nat) := if_neg le
      rw [if_neg (by omega)]
      refine one positive ?_
      by_cases least : log2 a b - 52 ≤ -1074
      · have exponent : (-max (log2 a b - 52) (-1074)).toNat = 1074 := by
          rw [max_eq_right least]
          rfl
        rw [exponent]
        exact large
      · have exponent : Nat.log2 ((b - 1) / a) + 1 ≤ (-max (log2 a b - 52) (-1074)).toNat := by
          omega
        have power : (b - 1) / a < 2 ^ (Nat.log2 ((b - 1) / a) + 1) := Nat.lt_log2_self
        have below := (Nat.div_lt_iff_lt_mul (Nat.pos_of_ne_zero nonZero)).mp power
        calc b ≤ 2 ^ (Nat.log2 ((b - 1) / a) + 1) * a := by omega
          _ = a * 2 ^ (Nat.log2 ((b - 1) / a) + 1) := Nat.mul_comm ..
          _ ≤ a * 2 ^ (-max (log2 a b - 52) (-1074)).toNat :=
            Nat.mul_le_mul_left a (Nat.pow_le_pow_right (by decide) exponent)
  obtain ⟨n, some, isNearest⟩ : ∃ n, 0 < n ∧ nearest a b =
      let value := scaled n 2 (max (log2 a b - 52) (-1074))
      if (overflow : Rat) ≤ value then .infinite false else .finite value :=
    ⟨_, rounds, by rw [nearest, if_neg nonZero]⟩
  rw [isNearest]
  have value := scaled_pos (max (log2 a b - 52) (-1074)) some
  dsimp only
  split
  · rfl
  · simpa [lt, place] using value

theorem ofRat_pos (positive : 0 < value) (grid : ∃ k : Int, value * 2 ^ 1074 = k) :
    (Double.finite 0).lt (ofRat value) = true := by
  rw [ofRat, if_pos positive.le]
  apply nearest_pos value.den_pos
  obtain ⟨k, isMultiple⟩ := grid
  have numerator : ((value.num.toNat : Int) : Rat) = value.num := by
    rw [Int.toNat_of_nonneg (Rat.num_nonneg.mpr positive.le)]
  have denominator : (0 : Rat) < value.den := by exact_mod_cast value.den_pos
  have atLeast : (1 : Rat) ≤ value * 2 ^ 1074 := by
    have isPositive : (0 : Rat) < value * 2 ^ 1074 := by positivity
    rw [isMultiple] at isPositive ⊢
    exact_mod_cast isPositive
  have scaledUp : value * value.den = value.num.toNat := by
    rw [Rat.mul_den_eq_num, ← numerator, Int.cast_natCast]
  have bound : (value.den : Rat) ≤ value.num.toNat * 2 ^ 1074 := by
    calc (value.den : Rat) ≤ value * 2 ^ 1074 * value.den :=
          le_mul_of_one_le_left denominator.le atLeast
      _ = value * value.den * 2 ^ 1074 := mul_right_comm ..
      _ = value.num.toNat * 2 ^ 1074 := by rw [scaledUp]
  exact_mod_cast bound

theorem ofRat_neg (negative : value < 0) (grid : ∃ k : Int, value * 2 ^ 1074 = k) :
    (ofRat value).lt (.finite 0) = true := by
  have opposite : ∃ k : Int, -value * 2 ^ 1074 = k := by
    obtain ⟨k, isMultiple⟩ := grid
    exact ⟨-k, by rw [neg_mul, isMultiple, Int.cast_neg]⟩
  have size := ofRat_pos (neg_pos.mpr negative) opposite
  rw [ofRat, if_pos (neg_pos.mpr negative).le, Rat.neg_den] at size
  rw [ofRat, if_neg (not_le.mpr negative)]
  generalize nearest (-value).num.toNat value.den = rounded at size ⊢
  cases rounded with
  | finite size' =>
    have isPositive : 0 < size' := by simpa [lt, place] using size
    simp [isPositive.ne', lt, place, isPositive]
  | infinite negative =>
    cases negative with
    | false => rfl
    | true => cases size
  | negativeZero | nan => cases size

theorem not_lt_of_lt (less : x.lt y = true) : y.lt x = false := by
  rw [← Bool.not_eq_true]
  intro greater
  exact absurd (lt_trans less greater) (by simp [lt_irrefl])

/-- The sign of a difference tells which number is the less. -/
theorem sub_sign (gridX : x.OnGrid) (gridY : y.OnGrid) :
    (x.sub y).lt (.finite 0) = x.lt y ∧ (Double.finite 0).lt (x.sub y) = y.lt x := by
  have ofDifference {a b : Rat} (grid : ∃ k : Int, (a - b) * 2 ^ 1074 = k) :
      (ofRat (a - b)).lt (.finite 0) = decide (a < b) ∧
        (Double.finite 0).lt (ofRat (a - b)) = decide (b < a) := by
    rcases lt_trichotomy a b with below | rfl | above
    · have negative := ofRat_neg (sub_neg.mpr below) grid
      simp [negative, below, below.not_gt, not_lt_of_lt negative]
    · simp [ofRat, nearest, lt_irrefl]
    · have positive := ofRat_pos (sub_pos.mpr above) grid
      simp [positive, above, above.not_gt, not_lt_of_lt positive]
  cases x with
  | nan => exact ⟨rfl, by cases y <;> rfl⟩
  | infinite negative =>
    cases y with
    | infinite negative' => cases negative <;> cases negative' <;> exact ⟨rfl, rfl⟩
    | _ => cases negative <;> exact ⟨rfl, rfl⟩
  | negativeZero =>
    cases y with
    | finite b =>
      obtain ⟨k, isMultiple⟩ := gridY b rfl
      have opposite := ofDifference (a := 0) (b := b)
        ⟨-k, by rw [zero_sub, neg_mul, isMultiple, Int.cast_neg]⟩
      rw [zero_sub] at opposite
      by_cases zero : b = 0
      · subst zero
        exact ⟨rfl, rfl⟩
      · simpa [sub, zero, lt, place] using opposite
    | infinite negative => cases negative <;> exact ⟨rfl, rfl⟩
    | _ => exact ⟨rfl, rfl⟩
  | finite a =>
    cases y with
    | finite b =>
      obtain ⟨k, isFirst⟩ := gridX a rfl
      obtain ⟨l, isSecond⟩ := gridY b rfl
      have difference := ofDifference (a := a) (b := b)
        ⟨k - l, by rw [sub_mul, isFirst, isSecond, Int.cast_sub]⟩
      simpa [sub, lt, place] using difference
    | infinite negative => cases negative <;> exact ⟨rfl, rfl⟩
    | negativeZero | nan => exact ⟨rfl, rfl⟩

end ModemStack.Text.Double
