import Mathlib.Order.Monotone.Basic
import ModemStack.Time.Calendar

/-!
The months of the calendar in one count, from January of year 0 on.
-/

namespace ModemStack.Time

/-- The day on which a month begins. -/
def firstDay (month : Int) : Int := makeDay 0 month 1

def lengthOf (month : Int) : Int := monthLength (leapDay (month / 12)) (month % 12)

/-- The month a day is in. -/
def monthOf (day : Int) : Int := 12 * yearFromDay day + monthFromDay day

variable (month : Int)

theorem firstDay_eq : firstDay month =
    dayFromYear (month / 12) + daysBefore (leapDay (month / 12)) (month % 12) := by
  rw [firstDay, makeDay, Int.zero_add]
  omega

theorem month_bounds : 0 ≤ month % 12 ∧ month % 12 < 12 := by
  omega

theorem lengthOf_bounds : 28 ≤ lengthOf month ∧ lengthOf month ≤ 31 := by
  obtain ⟨low, high⟩ := month_bounds month
  obtain ⟨-, least, most, -⟩ := daysBefore_lt (leapDay_cases (month / 12)) low high
  unfold lengthOf monthLength
  omega

theorem firstDay_succ : firstDay (month + 1) = firstDay month + lengthOf month := by
  rw [firstDay_eq, firstDay_eq, lengthOf, monthLength]
  by_cases december : month % 12 = 11
  · have year : (month + 1) / 12 = month / 12 + 1 := by omega
    have january : (month + 1) % 12 = 0 := by omega
    have before : daysBefore (leapDay (month / 12)) (11 + 1) = 365 + leapDay (month / 12) := rfl
    have none_before : daysBefore (leapDay (month / 12 + 1)) 0 = 0 := rfl
    rw [year, january, december, before, none_before, length_year]
    omega
  · have year : (month + 1) / 12 = month / 12 := by omega
    have next : (month + 1) % 12 = month % 12 + 1 := by omega
    rw [year, next]
    omega

theorem firstDay_lt {month later : Int} (lt : month < later) : firstDay month < firstDay later := by
  refine strictMono_int_of_lt_succ (fun month => ?_) lt
  have := lengthOf_bounds month
  rw [firstDay_succ]
  omega

theorem firstDay_le {month later : Int} (le : month ≤ later) : firstDay month ≤ firstDay later := by
  rcases Int.lt_or_eq_of_le le with lt | rfl
  · exact Int.le_of_lt (firstDay_lt lt)
  · exact Int.le_refl _

theorem monthOf_year (day : Int) : monthOf day / 12 = yearFromDay day := by
  obtain ⟨low, high, -⟩ := makeDay_fromDay day
  unfold monthOf
  omega

theorem monthOf_month (day : Int) : monthOf day % 12 = monthFromDay day := by
  obtain ⟨low, high, -⟩ := makeDay_fromDay day
  unfold monthOf
  omega

theorem monthOf_spec (day : Int) :
    firstDay (monthOf day) ≤ day ∧ day < firstDay (monthOf day + 1) := by
  obtain ⟨low, high, first, last, isDay⟩ := makeDay_fromDay day
  rw [makeDay_inMonth low high] at isDay
  rw [firstDay_succ, firstDay_eq, lengthOf, monthOf_year, monthOf_month]
  omega

end ModemStack.Time
