import Mathlib.Data.Nat.Basic

/-!
The UTC calendar of JavaScript dates.

A time value counts milliseconds from 1970 on; `none` is that of an invalid date, which
every further computation hands on.
-/

namespace ModemStack.Time

def msPerDay : Int := 86400000

/-- The last time value of a date. -/
def maxTime : Int := 8640000000000000

/-- The day on which a year begins. -/
def dayFromYear (year : Int) : Int :=
  365 * (year - 1970) + (year - 1969) / 4 - (year - 1901) / 100 + (year - 1601) / 400

/-- The year a day is in. The average length of a year misses it by one at most. -/
def yearFromDay (day : Int) : Int :=
  let guess := 1970 + 400 * day / 146097
  if day < dayFromYear guess then guess - 1
  else if dayFromYear (guess + 1) ≤ day then guess + 1
  else guess

theorem yearFromDay_spec (day : Int) :
    dayFromYear (yearFromDay day) ≤ day ∧ day < dayFromYear (yearFromDay day + 1) := by
  obtain ⟨guess, isGuess⟩ : ∃ guess, guess = 1970 + 400 * day / 146097 := ⟨_, rfl⟩
  have below : dayFromYear (guess - 1) ≤ day := by
    simp only [dayFromYear]
    omega
  have above : day < dayFromYear (guess + 1 + 1) := by
    simp only [dayFromYear]
    omega
  simp only [yearFromDay, ← isGuess]
  by_cases early : day < dayFromYear guess
  · rw [if_pos early, Int.sub_add_cancel]
    exact ⟨below, early⟩
  · rw [if_neg early]
    by_cases late : dayFromYear (guess + 1) ≤ day
    · rw [if_pos late]
      exact ⟨late, above⟩
    · rw [if_neg late]
      exact ⟨Int.not_lt.mp early, Int.not_le.mp late⟩

/-- The days of a year before a month, from 0; before month 12 they are all over. -/
def daysBefore (leap : Int) (month : Int) : Int :=
  match month with
  | 0 => 0
  | 1 => 31
  | 2 => 59 + leap
  | 3 => 90 + leap
  | 4 => 120 + leap
  | 5 => 151 + leap
  | 6 => 181 + leap
  | 7 => 212 + leap
  | 8 => 243 + leap
  | 9 => 273 + leap
  | 10 => 304 + leap
  | 11 => 334 + leap
  | _ => 365 + leap

/-- 1 in a leap year. -/
def leapDay (year : Int) : Int := dayFromYear (year + 1) - dayFromYear year - 365

/-- The months that have begun by a day of a year, less one. -/
def monthOfDay (leap day : Int) : Int :=
  if day < 31 then 0
  else if day < 59 + leap then 1
  else if day < 90 + leap then 2
  else if day < 120 + leap then 3
  else if day < 151 + leap then 4
  else if day < 181 + leap then 5
  else if day < 212 + leap then 6
  else if day < 243 + leap then 7
  else if day < 273 + leap then 8
  else if day < 304 + leap then 9
  else if day < 334 + leap then 10
  else 11

def monthFromDay (day : Int) : Int :=
  let year := yearFromDay day
  monthOfDay (leapDay year) (day - dayFromYear year)

/-- The day of the month, from 1. -/
def dateFromDay (day : Int) : Int :=
  let year := yearFromDay day
  day - dayFromYear year - daysBefore (leapDay year) (monthFromDay day) + 1

/-- The day of a date, of which month and day may be out of their range. -/
def makeDay (year month date : Int) : Int :=
  let year := year + month / 12
  dayFromYear year + daysBefore (leapDay year) (month % 12) + date - 1

def timeClip (t : Int) : Option Int := if t.natAbs ≤ maxTime then some t else none

/-- A year given with two digits is one of the 20th century. -/
def makeFullYear (year : Int) : Int := if 0 ≤ year ∧ year ≤ 99 then 1900 + year else year

/-- `Date.UTC(year, month, date)` -/
def dateUTC (year month date : Int) : Option Int :=
  timeClip (makeDay (makeFullYear year) month date * msPerDay)

/-- `new Date(t).getUTCFullYear()`, and in the same way the month and the date. -/
def utcFullYear (t : Int) : Option Int := (timeClip t).map fun t => yearFromDay (t / msPerDay)

def utcMonth (t : Int) : Option Int := (timeClip t).map fun t => monthFromDay (t / msPerDay)

def utcDate (t : Int) : Option Int := (timeClip t).map fun t => dateFromDay (t / msPerDay)

/-! ### Days and their dates -/

theorem leapDay_cases (year : Int) : leapDay year = 0 ∨ leapDay year = 1 := by
  simp only [leapDay, dayFromYear]
  omega

theorem dayFromYear_le {year later : Int} (order : year ≤ later) :
    dayFromYear year ≤ dayFromYear later := by
  obtain ⟨years, rfl⟩ := Int.le.dest order
  induction years with
  | zero => simp
  | succ years ih =>
    have next : dayFromYear (year + years) ≤ dayFromYear (year + years + 1) := by
      simp only [dayFromYear]
      omega
    have before := ih (by omega)
    rw [Int.natCast_succ, ← Int.add_assoc]
    exact Int.le_trans before next

theorem yearFromDay_eq {year day : Int} (first : dayFromYear year ≤ day)
    (last : day < dayFromYear (year + 1)) : yearFromDay day = year := by
  obtain ⟨first', last'⟩ := yearFromDay_spec day
  rcases Int.lt_trichotomy (yearFromDay day) year with early | same | late
  · have := dayFromYear_le (Int.add_one_le_of_lt early)
    omega
  · exact same
  · have := dayFromYear_le (Int.add_one_le_of_lt late)
    omega

/-- The number of days of a month, from 0. -/
def monthLength (leap month : Int) : Int := daysBefore leap (month + 1) - daysBefore leap month

theorem month_cases {month : Int} (low : 0 ≤ month) (high : month < 12) :
    month = 0 ∨ month = 1 ∨ month = 2 ∨ month = 3 ∨ month = 4 ∨ month = 5 ∨ month = 6 ∨
      month = 7 ∨ month = 8 ∨ month = 9 ∨ month = 10 ∨ month = 11 := by
  omega

theorem monthOfDay_eq {leap month day : Int} (isLeap : leap = 0 ∨ leap = 1)
    (low : 0 ≤ month) (high : month < 12) (first : daysBefore leap month ≤ day)
    (last : day < daysBefore leap (month + 1)) : monthOfDay leap day = month := by
  rcases month_cases low high with rfl | rfl | rfl | rfl | rfl | rfl | rfl | rfl | rfl | rfl |
      rfl | rfl <;>
    simp only [daysBefore, Int.reduceAdd] at first last <;>
    unfold monthOfDay <;> repeat rw [if_neg (by omega)]
  all_goals rw [if_pos (by omega)]

theorem daysBefore_lt {leap month : Int} (isLeap : leap = 0 ∨ leap = 1)
    (low : 0 ≤ month) (high : month < 12) :
    0 ≤ daysBefore leap month ∧ daysBefore leap month + 28 ≤ daysBefore leap (month + 1) ∧
      daysBefore leap (month + 1) ≤ daysBefore leap month + 31 ∧
      daysBefore leap (month + 1) ≤ 365 + leap := by
  rcases month_cases low high with rfl | rfl | rfl | rfl | rfl | rfl | rfl | rfl | rfl | rfl |
      rfl | rfl <;>
    simp only [daysBefore, Int.reduceAdd] <;> omega

/-- Between the ends of a sequence a value lies in one of its steps. -/
theorem exists_step {f : Nat → Int} {n : Nat} {value : Int} (first : f 0 ≤ value)
    (last : value < f n) : ∃ k < n, f k ≤ value ∧ value < f (k + 1) := by
  induction n with
  | zero => omega
  | succ n ih =>
    by_cases early : value < f n
    · obtain ⟨k, order, low, high⟩ := ih early
      exact ⟨k, by omega, low, high⟩
    · exact ⟨n, by omega, by omega, last⟩

theorem monthOfDay_spec {leap day : Int} (isLeap : leap = 0 ∨ leap = 1) (first : 0 ≤ day)
    (last : day < 365 + leap) : 0 ≤ monthOfDay leap day ∧ monthOfDay leap day < 12 ∧
      daysBefore leap (monthOfDay leap day) ≤ day ∧
      day < daysBefore leap (monthOfDay leap day + 1) := by
  obtain ⟨month, order, low, high⟩ : ∃ month < 12, daysBefore leap (month : Nat) ≤ day ∧
      day < daysBefore leap (month + 1 : Nat) := exists_step first last
  rw [monthOfDay_eq isLeap (by omega) (by omega) low (by exact_mod_cast high)]
  exact ⟨by omega, by omega, low, by exact_mod_cast high⟩

theorem length_year (year : Int) : dayFromYear (year + 1) =
    dayFromYear year + 365 + leapDay year := by
  unfold leapDay
  omega

/-- A day is that of its year, month and date. -/
theorem makeDay_fromDay (day : Int) : 0 ≤ monthFromDay day ∧ monthFromDay day < 12 ∧
    1 ≤ dateFromDay day ∧
    dateFromDay day ≤ monthLength (leapDay (yearFromDay day)) (monthFromDay day) ∧
    makeDay (yearFromDay day) (monthFromDay day) (dateFromDay day) = day := by
  obtain ⟨first, last⟩ := yearFromDay_spec day
  rw [length_year] at last
  obtain ⟨low, high, from1, toEnd⟩ : 0 ≤ monthFromDay day ∧ monthFromDay day < 12 ∧ _ :=
    monthOfDay_spec (leapDay_cases _) (Int.sub_nonneg.mpr first) (by omega)
  have quotient : monthFromDay day / 12 = 0 := by omega
  have remainder : monthFromDay day % 12 = monthFromDay day := by omega
  have date : dateFromDay day = day - dayFromYear (yearFromDay day) -
    daysBefore (leapDay (yearFromDay day)) (monthFromDay day) + 1 := rfl
  rw [makeDay, quotient, remainder, Int.add_zero, date, monthLength]
  change daysBefore _ (monthFromDay day) ≤ _ at from1
  change _ < daysBefore _ (monthFromDay day + 1) at toEnd
  omega

theorem makeDay_inMonth {year month date : Int} (low : 0 ≤ month) (high : month < 12) :
    makeDay year month date =
      dayFromYear year + daysBefore (leapDay year) month + date - 1 := by
  have quotient : month / 12 = 0 := by omega
  have remainder : month % 12 = month := by omega
  rw [makeDay, quotient, remainder, Int.add_zero]

/-- A date in its month is that of its day. -/
theorem dateFromDay_eq {year month date : Int} (low : 0 ≤ month) (high : month < 12)
    (first : 1 ≤ date) (last : date ≤ monthLength (leapDay year) month) :
    yearFromDay (makeDay year month date) = year ∧ monthFromDay (makeDay year month date) = month ∧
      dateFromDay (makeDay year month date) = date := by
  have isLeap := leapDay_cases year
  obtain ⟨from0, -, -, to365⟩ := daysBefore_lt isLeap low high
  rw [makeDay_inMonth low high]
  unfold monthLength at last
  have length := length_year year
  generalize isDay : dayFromYear year + daysBefore (leapDay year) month + date - 1 = day
  have sameYear : yearFromDay day = year := yearFromDay_eq (by omega) (by omega)
  have sameMonth : monthFromDay day = month := by
    simp only [monthFromDay, sameYear]
    exact monthOfDay_eq isLeap low high (by omega) (by omega)
  refine ⟨sameYear, sameMonth, ?_⟩
  simp only [dateFromDay, sameYear, sameMonth]
  omega

/-- Day 0 of the next month is the last of this one. -/
theorem makeDay_zero {year month : Int} (low : 0 ≤ month) (high : month < 12) :
    makeDay year (month + 1) 0 = makeDay year month (monthLength (leapDay year) month) := by
  rw [makeDay_inMonth low high, monthLength]
  by_cases december : month = 11
  · subst december
    have length := length_year year
    simp only [makeDay, daysBefore, Int.reduceAdd, Int.reduceDiv, Int.reduceMod]
    omega
  · rw [makeDay_inMonth (by omega) (by omega)]
    omega

end ModemStack.Time
