import Mathlib.Order.Bounds.Basic
import ModemStack.Text.DoubleOrder
import ModemStack.Time.Months
import ModemStack.Usage.BillingCycle

/-!
The cycle of a time begins on the last boundary that is not after it.

The length of a month is read from a date at its end. September 275760 has no such date;
`boundaryLaw_iff` says that this is where the code fails.
-/

namespace ModemStack.Usage

open ModemStack.Text ModemStack.Time

/-! ### Boundaries -/

/-- The boundary in a month: on the cycle day, or on the last day of a month that has no such. -/
def boundary (cycleDay : Double) (month : Int) : Option Int :=
  (clampTo (lengthOf month) cycleDay).map fun date => (firstDay month + date - 1) * msPerDay

def IsBoundary (cycleDay : Double) (t : Int) : Prop :=
  ∃ month, boundary cycleDay month = some t

/-- The cycle of `now` begins on the greatest boundary that is not after it. So it begins no
earlier than that of an earlier time, the cycle of its beginning is it, and no boundary is
between. -/
structure BoundaryLaw (cycleDay : Double) (now start : Int) : Prop where
  answered : cycleStart now cycleDay = .finite start
  greatest : IsGreatest {t | IsBoundary cycleDay t ∧ t ≤ now} start
  monotone : ∀ earlier, 0 ≤ earlier → earlier ≤ now →
    ∃ start' ≤ start, cycleStart earlier cycleDay = .finite start'
  idempotent : cycleStart start cycleDay = .finite start
  between : ∀ t, IsBoundary cycleDay t → ¬ (start < t ∧ t < now)

/-- September 275760, in which dates end. -/
def lastMonth : Int := 12 * 275760 + 8

/-- A time of a date before the boundary of the last month. -/
def Covered (cycleDay : Double) (now : Int) : Prop :=
  now ≤ maxTime ∧ ∀ t, boundary cycleDay lastMonth = some t → now < t

section Boundaries

variable {cycleDay : Double} (isNumber : cycleDay ≠ .nan)

include isNumber

/-- Every month has a boundary, on one of its days. -/
theorem boundary_some (month : Int) : ∃ day, boundary cycleDay month = some (day * msPerDay) ∧
    firstDay month ≤ day ∧ day < firstDay (month + 1) := by
  have bounds := lengthOf_bounds month
  obtain ⟨date, isDate, first, last⟩ := clampTo_bounds isNumber
    (show 1 ≤ lengthOf month by omega)
  refine ⟨firstDay month + date - 1, ?_, by omega, ?_⟩
  · rw [boundary, isDate, Option.map_some]
  · rw [firstDay_succ]
    omega

theorem boundary_lt {month later t t' : Int} (isT : boundary cycleDay month = some t)
    (isT' : boundary cycleDay later = some t') (order : month < later) : t < t' := by
  obtain ⟨day, isDay, first, last⟩ := boundary_some isNumber month
  obtain ⟨day', isDay', first', last'⟩ := boundary_some isNumber later
  cases isT.symm.trans isDay
  cases isT'.symm.trans isDay'
  have := firstDay_le (Int.add_one_le_of_lt order)
  unfold msPerDay
  omega

theorem boundary_mono {month later t t' : Int} (isT : boundary cycleDay month = some t)
    (isT' : boundary cycleDay later = some t') (order : month ≤ later) : t ≤ t' := by
  rcases order.lt_or_eq with before | rfl
  · exact (boundary_lt isNumber isT isT' before).le
  · cases isT.symm.trans isT'
    exact Int.le_refl _

/-- Between two boundaries the first is the greatest. -/
theorem isGreatest_boundary {month now t t' : Int} (isT : boundary cycleDay month = some t)
    (isT' : boundary cycleDay (month + 1) = some t') (begun : t ≤ now) (notOver : now < t') :
    IsGreatest {t | IsBoundary cycleDay t ∧ t ≤ now} t := by
  refine ⟨⟨⟨month, isT⟩, begun⟩, ?_⟩
  rintro s ⟨⟨other, isS⟩, past⟩
  by_cases order : other ≤ month
  · exact boundary_mono isNumber isS isT order
  · have := boundary_mono isNumber isT' isS (by omega)
    omega

/-- The cycle of a time is that of its month, or of the month before. -/
theorem greatest_boundary {now month : Int} (isMonth : monthOf (now / msPerDay) = month) :
    ∃ this before, boundary cycleDay month = some this ∧
      boundary cycleDay (month - 1) = some before ∧
        IsGreatest {t | IsBoundary cycleDay t ∧ t ≤ now} (if this ≤ now then this else before) := by
  obtain ⟨first, last⟩ := monthOf_spec (now / msPerDay)
  rw [isMonth] at first last
  obtain ⟨day, isThis, first', last'⟩ := boundary_some isNumber month
  obtain ⟨dayBefore, isBefore, first'', last''⟩ := boundary_some isNumber (month - 1)
  obtain ⟨dayAfter, isAfter, first3, last3⟩ := boundary_some isNumber (month + 1)
  refine ⟨_, _, isThis, isBefore, ?_⟩
  have isThis' : boundary cycleDay (month - 1 + 1) = some (day * msPerDay) := by
    rw [Int.sub_add_cancel]
    exact isThis
  rw [Int.sub_add_cancel] at last''
  split
  · next begun =>
    refine isGreatest_boundary isNumber isThis isAfter begun ?_
    unfold msPerDay at *
    omega
  · next notBegun =>
    refine isGreatest_boundary isNumber isBefore isThis' ?_ (Int.not_le.mp notBegun)
    unfold msPerDay at *
    omega

end Boundaries

/-! ### What the code computes -/

section Code

variable {cycleDay : Double} (isNumber : cycleDay ≠ .nan)

theorem timeClip_none {t : Int} (outside : maxTime < t) : timeClip t = none :=
  if_neg (by omega)

theorem makeDay_month (month date : Int) :
    makeDay (month / 12) (month % 12) date = firstDay month + date - 1 := by
  obtain ⟨low, high⟩ := month_bounds month
  rw [makeDay_inMonth low high, firstDay_eq]

/-- The length of a month is read from the date at its end. -/
theorem daysInMonth_eq {month : Int} (modern : 1200 ≤ month)
    (low : -maxTime ≤ firstDay month * msPerDay) : daysInMonth (month / 12) (month % 12) =
      if (firstDay (month + 1) - 1) * msPerDay ≤ maxTime then some (lengthOf month) else none := by
  obtain ⟨from0, below12⟩ := month_bounds month
  have full : makeFullYear (month / 12) = month / 12 := if_neg (by omega)
  have bounds := lengthOf_bounds month
  have isLast : makeDay (month / 12) (month % 12 + 1) 0 = firstDay (month + 1) - 1 := by
    rw [makeDay_zero from0 below12, makeDay_month, firstDay_succ]
    rfl
  have date : dateFromDay (firstDay (month + 1) - 1) = lengthOf month := by
    have same := (dateFromDay_eq from0 below12 (show 1 ≤ lengthOf month by omega)
      (Int.le_refl _)).2.2
    rw [makeDay_month, ← firstDay_succ] at same
    exact same
  rw [daysInMonth, dateUTC, full, isLast]
  rw [firstDay_succ] at *
  by_cases inRange : (firstDay month + lengthOf month - 1) * msPerDay ≤ maxTime
  · have clip : timeClip ((firstDay month + lengthOf month - 1) * msPerDay) =
        some ((firstDay month + lengthOf month - 1) * msPerDay) := by
      apply timeClip_some
      simp only [msPerDay, maxTime] at *
      omega
    rw [if_pos inRange, clip, Option.bind_some, utcDate, clip, Option.map_some,
      Int.mul_ediv_cancel _ (by decide), date]
  · rw [if_neg inRange, timeClip_none (Int.not_le.mp inRange), Option.bind_none]

/-- The month of a time and the one before are of the years that `Date.UTC` takes as they are. -/
theorem month_recent {now month : Int} (isMonth : monthOf (now / msPerDay) = month)
    (recent : -31 * msPerDay ≤ now) :
    1201 ≤ month ∧ -100 ≤ firstDay (month - 1) ∧ firstDay month ≤ now / msPerDay ∧
      now / msPerDay < firstDay (month + 1) := by
  obtain ⟨first, last⟩ := monthOf_spec (now / msPerDay)
  rw [isMonth] at first last
  have lengths := lengthOf_bounds month
  have lengths' := lengthOf_bounds (month - 1)
  have next := firstDay_succ month
  have this := firstDay_succ (month - 1)
  rw [Int.sub_add_cancel] at this
  have modern : 1201 ≤ month := by
    by_contra ancient
    have before := firstDay_le (show month + 1 ≤ 1201 by omega)
    have evaluated : firstDay 1201 < -1000 := by decide
    unfold msPerDay at *
    omega
  unfold msPerDay at *
  exact ⟨modern, by omega, first, last⟩

theorem prevBoundary_eq (cycleDay : Double) (month : Int) : prevBoundary cycleDay (month / 12) (month % 12) =
    boundaryFor cycleDay ((month - 1) / 12) ((month - 1) % 12) := by
  unfold prevBoundary
  by_cases january : month % 12 = 0
  · have year : (month - 1) / 12 = month / 12 - 1 := by omega
    have december : (month - 1) % 12 = 11 := by omega
    rw [if_pos january, year, december]
  · have year : (month - 1) / 12 = month / 12 := by omega
    have before : (month - 1) % 12 = month % 12 - 1 := by omega
    rw [if_neg january, year, before]

/-- Dates end in the last month. -/
theorem last_lt : firstDay lastMonth * msPerDay ≤ maxTime ∧
    maxTime < (firstDay (lastMonth + 1) - 1) * msPerDay := by
  decide

theorem ended_iff (month : Int) :
    (firstDay (month + 1) - 1) * msPerDay ≤ maxTime ↔ month < lastMonth := by
  obtain ⟨reached, notEnded⟩ := last_lt
  constructor
  · intro ended
    by_contra later
    have := firstDay_le (show lastMonth + 1 ≤ month + 1 by omega)
    simp only [msPerDay, maxTime] at *
    omega
  · intro earlier
    have := firstDay_le (Int.add_one_le_of_lt earlier)
    simp only [msPerDay, maxTime] at *
    omega

include isNumber

theorem boundaryFor_eq {month : Int} (modern : 1200 ≤ month)
    (low : -maxTime ≤ firstDay month * msPerDay) : boundaryFor cycleDay (month / 12) (month % 12) =
      if (firstDay (month + 1) - 1) * msPerDay ≤ maxTime then boundary cycleDay month
      else none := by
  rw [boundaryFor, clampCycleDay, daysInMonth_eq modern low]
  by_cases inRange : (firstDay (month + 1) - 1) * msPerDay ≤ maxTime
  · have bounds := lengthOf_bounds month
    obtain ⟨date, isDate, first, last⟩ := clampTo_bounds isNumber (show 1 ≤ lengthOf month by omega)
    have full : makeFullYear (month / 12) = month / 12 := if_neg (by omega)
    have clip : timeClip ((firstDay month + date - 1) * msPerDay) =
        some ((firstDay month + date - 1) * msPerDay) := by
      apply timeClip_some
      rw [firstDay_succ] at inRange
      simp only [msPerDay, maxTime] at *
      omega
    rw [if_pos inRange, if_pos inRange, Option.bind_some, isDate, Option.bind_some, dateUTC, full,
      makeDay_month, clip, boundary, isDate, Option.map_some]
  · rw [if_neg inRange, if_neg inRange]
    rfl

section Now

variable {now month : Int} (isMonth : monthOf (now / msPerDay) = month)

include isMonth

/-- The code begins the cycle in the month of a time, or in the month before. -/
theorem cycleStart_eq (recent : -31 * msPerDay ≤ now) (valid : now ≤ maxTime) :
    ∃ this before, boundary cycleDay month = some this ∧
      boundary cycleDay (month - 1) = some before ∧ cycleStart now cycleDay =
        .finite (if (firstDay (month + 1) - 1) * msPerDay ≤ maxTime ∧ this ≤ now then this
          else before : Int) := by
  obtain ⟨modern, low, first, last⟩ := month_recent isMonth recent
  obtain ⟨day, isThis, -, -⟩ := boundary_some isNumber month
  obtain ⟨dayBefore, isBefore, -, -⟩ := boundary_some isNumber (month - 1)
  refine ⟨_, _, isThis, isBefore, ?_⟩
  have clip : timeClip now = some now := by
    apply timeClip_some
    simp only [msPerDay, maxTime] at *
    omega
  have increasing := firstDay_lt (show month - 1 < month by omega)
  have this : boundaryFor cycleDay (yearFromDay (now / msPerDay)) (monthFromDay (now / msPerDay)) =
      if (firstDay (month + 1) - 1) * msPerDay ≤ maxTime then some (day * msPerDay) else none := by
    rw [← monthOf_year, ← monthOf_month, isMonth, boundaryFor_eq isNumber (by omega), isThis]
    simp only [msPerDay, maxTime] at *
    omega
  have before : prevBoundary cycleDay (yearFromDay (now / msPerDay))
      (monthFromDay (now / msPerDay)) = some (dayBefore * msPerDay) := by
    have ended : (firstDay month - 1) * msPerDay ≤ maxTime := by
      simp only [msPerDay, maxTime] at *
      omega
    have low' : -maxTime ≤ firstDay (month - 1) * msPerDay := by
      simp only [msPerDay, maxTime] at *
      omega
    rw [← monthOf_year, ← monthOf_month, isMonth, prevBoundary_eq,
      boundaryFor_eq isNumber (by omega) low', Int.sub_add_cancel, isBefore, if_pos ended]
  unfold cycleStart utcFullYear utcMonth
  rw [clip, Option.map_some, Option.map_some]
  simp only [this, before]
  by_cases inRange : (firstDay (month + 1) - 1) * msPerDay ≤ maxTime
  · simp only [inRange, if_true, true_and]
    split <;> rfl
  · simp only [inRange, if_false, false_and]
    rfl

/-- Only from the boundary of the last month on the code begins another cycle. -/
theorem cycleStart_covered (recent : -31 * msPerDay ≤ now) (valid : now ≤ maxTime) :
    ∃ this before, boundary cycleDay month = some this ∧
      boundary cycleDay (month - 1) = some before ∧
        ((Covered cycleDay now ∧ cycleStart now cycleDay =
            .finite (if this ≤ now then this else before : Int)) ∨
          (¬ Covered cycleDay now ∧ this ≤ now ∧ cycleStart now cycleDay = .finite before)) := by
  obtain ⟨this, before, isThis, isBefore, start⟩ := cycleStart_eq isNumber isMonth recent valid
  obtain ⟨-, -, first, last⟩ := month_recent isMonth recent
  refine ⟨this, before, isThis, isBefore, ?_⟩
  by_cases earlier : month < lastMonth
  · left
    have ended := (ended_iff month).mpr earlier
    simp only [ended, true_and] at start
    refine ⟨⟨valid, fun t isT => ?_⟩, start⟩
    obtain ⟨day, isDay, first', -⟩ := boundary_some isNumber lastMonth
    cases isT.symm.trans isDay
    have := firstDay_le (Int.add_one_le_of_lt earlier)
    unfold msPerDay at *
    omega
  · have isLast : month = lastMonth := by
      have reaches := last_lt
      have before : firstDay month < firstDay (lastMonth + 1) := by
        simp only [msPerDay, maxTime] at *
        omega
      have := mt firstDay_le (Int.not_le_of_gt before)
      omega
    subst isLast
    have notEnded := mt (ended_iff lastMonth).mp earlier
    simp only [notEnded, false_and, if_false] at start
    by_cases begun : this ≤ now
    · right
      exact ⟨fun covered => absurd (covered.2 this isThis) (by omega), begun, start⟩
    · left
      refine ⟨⟨valid, fun t isT => ?_⟩, by rw [if_neg begun, start]⟩
      cases isThis.symm.trans isT
      omega

end Now

/-- The code begins a cycle on the greatest boundary just at the times that are covered. -/
theorem cycleStart_isGreatest_iff {now : Int} (recent : -31 * msPerDay ≤ now) :
    (∃ start : Int, cycleStart now cycleDay = .finite start ∧
      IsGreatest {t | IsBoundary cycleDay t ∧ t ≤ now} start) ↔ Covered cycleDay now := by
  by_cases valid : now ≤ maxTime
  · obtain ⟨this, before, isThis, isBefore, cases⟩ :=
      cycleStart_covered isNumber rfl recent valid
    obtain ⟨this', before', isThis', isBefore', greatest⟩ := greatest_boundary isNumber rfl
    cases isThis.symm.trans isThis'
    cases isBefore.symm.trans isBefore'
    rcases cases with ⟨covered, isStart⟩ | ⟨notCovered, begun, isStart⟩
    · exact iff_of_true ⟨_, isStart, greatest⟩ covered
    · refine iff_of_false ?_ notCovered
      rintro ⟨start, answered, isGreatest⟩
      have isBefore' : before = start := by
        exact_mod_cast Double.finite.inj (isStart.symm.trans answered)
      have isThis' : start = this := by
        rw [if_pos begun] at greatest
        exact isGreatest.unique greatest
      have := boundary_lt isNumber isBefore isThis (Int.sub_one_lt_of_le (Int.le_refl _))
      omega
  · refine iff_of_false ?_ fun covered => valid covered.1
    rintro ⟨start, answered, -⟩
    rw [cycleStart, utcFullYear, timeClip_none (Int.not_le.mp valid)] at answered
    cases answered

end Code

/-- The boundary of December 1969 is before every time from 1970 on. -/
theorem start_recent {cycleDay : Double} (isNumber : cycleDay ≠ .nan) {now start : Int}
    (time : 0 ≤ now) (greatest : IsGreatest {t | IsBoundary cycleDay t ∧ t ≤ now} start) :
    -31 * msPerDay ≤ start := by
  obtain ⟨day, isDay, first, last⟩ := boundary_some isNumber (12 * 1969 + 11)
  have december : firstDay (12 * 1969 + 11) = -31 := by decide
  have january : firstDay (12 * 1969 + 11 + 1) = 0 := by decide
  rw [december] at first
  rw [january] at last
  have reaches : day * msPerDay ≤ start := by
    refine greatest.2 ⟨⟨_, isDay⟩, ?_⟩
    unfold msPerDay
    omega
  unfold msPerDay at *
  omega

theorem Covered.of_le {cycleDay : Double} {now earlier : Int} (covered : Covered cycleDay now)
    (order : earlier ≤ now) : Covered cycleDay earlier :=
  ⟨order.trans covered.1, fun t isT => order.trans_lt (covered.2 t isT)⟩

/-- The law holds just at the dates before the boundary of the last month. -/
theorem boundaryLaw_iff {now : Int} (time : 0 ≤ now) {cycleDay : Double}
    (fromOne : (Double.finite 1).le cycleDay = true) :
    (∃ start, BoundaryLaw cycleDay now start) ↔ Covered cycleDay now := by
  have isNumber : cycleDay ≠ .nan := by
    rintro rfl
    cases fromOne
  have recent : ∀ {t : Int}, 0 ≤ t → -31 * msPerDay ≤ t := by
    intro t nonnegative
    unfold msPerDay
    omega
  constructor
  · rintro ⟨start, answered, greatest, -⟩
    exact (cycleStart_isGreatest_iff isNumber (recent time)).mp ⟨start, answered, greatest⟩
  · intro covered
    obtain ⟨start, answered, greatest⟩ :=
      (cycleStart_isGreatest_iff isNumber (recent time)).mpr covered
    refine ⟨start, answered, greatest, ?_, ?_, ?_⟩
    · intro earlier nonnegative order
      obtain ⟨start', answered', greatest'⟩ :=
        (cycleStart_isGreatest_iff isNumber (recent nonnegative)).mpr (covered.of_le order)
      exact ⟨start', greatest.2 ⟨greatest'.1.1, greatest'.1.2.trans order⟩, answered'⟩
    · obtain ⟨start', answered', greatest'⟩ :=
        (cycleStart_isGreatest_iff isNumber (start_recent isNumber time greatest)).mpr
          (covered.of_le greatest.1.2)
      obtain rfl : start' = start :=
        Int.le_antisymm greatest'.1.2 (greatest'.2 ⟨greatest.1.1, Int.le_refl _⟩)
      exact answered'
    · rintro t isBoundary ⟨after, before⟩
      have := greatest.2 ⟨isBoundary, before.le⟩
      omega

/-- On the fifth of July 2026 there is a cycle of day 31. -/
theorem boundaryLaw_july : ∃ start, BoundaryLaw (.finite 31) 1783209600000 start := by
  refine (boundaryLaw_iff (by decide) (by decide)).mpr ⟨by decide, fun t isT => ?_⟩
  have isLast : boundary (.finite 31) lastMonth = some 8640001468800000 := by decide
  cases isLast.symm.trans isT
  decide

/-- On the tenth of September 275760 the cycle of day 1 is that of August. -/
theorem last_boundary_missed :
    cycleStart 8639999740800000 (.finite 1) = .finite 8639996284800000 ∧
      boundary (.finite 1) lastMonth = some 8639998963200000 ∧
        ¬ ∃ start, BoundaryLaw (.finite 1) 8639999740800000 start := by
  have isLast : boundary (.finite 1) lastMonth = some 8639998963200000 := by decide
  have isStart : cycleStart 8639999740800000 (.finite 1) = .finite 8639996284800000 := by
    decide
  refine ⟨isStart, isLast, ?_⟩
  rintro ⟨start, answered, greatest, -⟩
  have same : (8639996284800000 : Rat) = start := Double.finite.inj (isStart.symm.trans answered)
  have reaches := greatest.2 ⟨⟨lastMonth, isLast⟩, by decide⟩
  have same' : start = 8639996284800000 := by exact_mod_cast same.symm
  omega

end ModemStack.Usage
