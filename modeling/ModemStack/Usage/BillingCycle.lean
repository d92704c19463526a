import ModemStack.Text.Number
import ModemStack.Time.Calendar

/-!
Billing cycles: a cycle begins on its day of the month, UTC, and in a shorter month on
the last day.
-/

namespace ModemStack.Usage

open ModemStack.Text ModemStack.Time

/-- A time value as a number. -/
def timeValue : Option Int → Double
  | none => .nan
  | some t => .finite t

def daysInMonth (year month : Int) : Option Int := (dateUTC year (month + 1) 0).bind utcDate

/-- `Math.max(1, Math.trunc(cycleDay))`, kept to `last` by `Math.min`. -/
def clampTo (last : Int) : Double → Option Int
  | .nan => none
  | .infinite false => some last
  | .infinite true | .negativeZero => some (min 1 last)
  | .finite day => some (min (max 1 (if 0 ≤ day then day.floor else day.ceil)) last)

def clampCycleDay (cycleDay : Double) (year month : Int) : Option Int :=
  (daysInMonth year month).bind fun last => clampTo last cycleDay

def boundaryFor (cycleDay : Double) (year month : Int) : Option Int :=
  (clampCycleDay cycleDay year month).bind fun date => dateUTC year month date

/-- The boundary of the month before. -/
def prevBoundary (cycleDay : Double) (year month : Int) : Option Int :=
  if month = 0 then boundaryFor cycleDay (year - 1) 11 else boundaryFor cycleDay year (month - 1)

/-- The time at which the cycle of `now` began. -/
def cycleStart (now : Int) (cycleDay : Double) : Double :=
  match utcFullYear now, utcMonth now with
  | some year, some month =>
    match boundaryFor cycleDay year month with
    | some thisBoundary =>
      if thisBoundary ≤ now then timeValue thisBoundary
      else timeValue (prevBoundary cycleDay year month)
    | none => timeValue (prevBoundary cycleDay year month)
  | _, _ => .nan

/-! ### Which cycles begin at a time -/

variable {cycleDay : Double}

theorem clampTo_bounds {last : Int} (isNumber : cycleDay ≠ .nan) (nonempty : 1 ≤ last) :
    ∃ date, clampTo last cycleDay = some date ∧ 1 ≤ date ∧ date ≤ last := by
  cases cycleDay with
  | nan => exact absurd rfl isNumber
  | infinite negative =>
    cases negative
    · exact ⟨_, rfl, nonempty, Int.le_refl _⟩
    · exact ⟨_, rfl, by omega, by omega⟩
  | negativeZero | finite => exact ⟨_, rfl, by omega, by omega⟩

theorem timeClip_some {t : Int} (inRange : t.natAbs ≤ maxTime) : timeClip t = some t :=
  if_pos inRange

end ModemStack.Usage
