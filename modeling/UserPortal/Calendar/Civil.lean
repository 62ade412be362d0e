import Mathlib.Tactic.Common
import Mathlib.Order.Lattice
import Mathlib.Data.Int.Order.Basic

/-!
# Civil dates

The proleptic Gregorian calendar on day numbers (days since 1970-01-01). Years are counted from
March, so that the leap day is the last day of a year, of every fourth year but the hundredth, and of
every four hundredth year: a day number is then a mixed radix number, and every step of its
decomposition is monotone.

* `Date.ofDay_lt`: later days have later dates, compared by year, month and day of the month.
* `Date.toDay_ofDay`: the date of a day determines the day.
-/

namespace UserPortal.Calendar

/-- A civil date. -/
@[ext] structure Date where
  year : Int
  month : Int
  day : Int
  deriving DecidableEq

/-- Days since 0000-03-01, within its cycle of 400 years. -/
def cycleDay (z : Int) : Int := (z + 719468) % 146097

def century (z : Int) : Int := min 3 (cycleDay z / 36524)

def leapCycle (z : Int) : Int := (cycleDay z - 36524 * century z) / 1461

def leapCycleDay (z : Int) : Int := (cycleDay z - 36524 * century z) % 1461

def cycleYear (z : Int) : Int := min 3 (leapCycleDay z / 365)

/-- The year of a day, when years begin in March. -/
def marchYear (z : Int) : Int :=
  400 * ((z + 719468) / 146097) + 100 * century z + 4 * leapCycle z + cycleYear z

/-- The day within its year, when years begin in March. -/
def marchDay (z : Int) : Int := leapCycleDay z - 365 * cycleYear z

/-- The month of a day, counted from January of the year 0. -/
def monthIndex (z : Int) : Int := 12 * marchYear z + (5 * marchDay z + 2) / 153 + 2

/-- The day of the month. -/
def monthDay (z : Int) : Int := marchDay z - (153 * ((5 * marchDay z + 2) / 153) + 2) / 5 + 1

namespace Date

/-- The date of a day number. -/
def ofDay (z : Int) : Date where
  year := monthIndex z / 12
  month := monthIndex z % 12 + 1
  day := monthDay z

/-- The day number of a date. -/
def toDay (d : Date) : Int :=
  let m := 12 * d.year + d.month - 3
  let y := m / 12
  365 * y + y / 4 - y / 100 + y / 400 + (153 * (m % 12) + 2) / 5 + d.day - 1 - 719468

/-- The date precedes another one. -/
def Precedes (a b : Date) : Prop :=
  a.year < b.year ∨ a.year = b.year ∧ (a.month < b.month ∨ a.month = b.month ∧ a.day < b.day)

end Date

/-- A cycle has 146097 days. -/
lemma cycleDay_bounds (z : Int) : 0 ≤ cycleDay z ∧ cycleDay z ≤ 146096 := by
  rw [cycleDay]
  omega

/-- It has four centuries. -/
lemma century_bounds (z : Int) : 0 ≤ century z ∧ century z ≤ 3 := by
  have h := cycleDay_bounds z
  rw [century]
  omega

/-- A century has 25 leap cycles. -/
lemma leapCycle_bounds (z : Int) : 0 ≤ leapCycle z ∧ leapCycle z ≤ 24 := by
  have h := cycleDay_bounds z
  rw [leapCycle, century]
  omega

/-- A leap cycle has 1461 days. -/
lemma leapCycleDay_bounds (z : Int) : 0 ≤ leapCycleDay z ∧ leapCycleDay z ≤ 1460 := by
  rw [leapCycleDay]
  omega

/-- It has four years. -/
lemma cycleYear_bounds (z : Int) : 0 ≤ cycleYear z ∧ cycleYear z ≤ 3 := by
  have h := leapCycleDay_bounds z
  rw [cycleYear]
  omega

/-- A year has 366 days at most. -/
lemma marchDay_bounds (z : Int) : 0 ≤ marchDay z ∧ marchDay z ≤ 365 := by
  have h := leapCycleDay_bounds z
  rw [marchDay, cycleYear]
  omega

/-- An earlier day of a cycle is in an earlier century, or earlier in the same one. -/
lemma century_lt {a b : Int} (lt : cycleDay a < cycleDay b) :
    century a < century b ∨ century a = century b ∧
      cycleDay a - 36524 * century a < cycleDay b - 36524 * century b := by
  unfold century
  omega

/-- An earlier day of a century is in an earlier leap cycle, or earlier in the same one. -/
lemma leapCycle_lt {a b : Int}
    (lt : cycleDay a - 36524 * century a < cycleDay b - 36524 * century b) :
    leapCycle a < leapCycle b ∨ leapCycle a = leapCycle b ∧ leapCycleDay a < leapCycleDay b := by
  unfold leapCycle leapCycleDay
  omega

/-- An earlier day of a leap cycle is in an earlier year, or earlier in the same one. -/
lemma cycleYear_lt {a b : Int} (lt : leapCycleDay a < leapCycleDay b) :
    cycleYear a < cycleYear b ∨ cycleYear a = cycleYear b ∧ marchDay a < marchDay b := by
  unfold marchDay cycleYear
  omega

/-- Later days are in a later March year, or later in the same one. -/
lemma marchYear_lt {a b : Int} (lt : a < b) :
    marchYear a < marchYear b ∨ marchYear a = marchYear b ∧ marchDay a < marchDay b := by
  have ca := century_bounds a
  have cb := century_bounds b
  have la := leapCycle_bounds a
  have lb := leapCycle_bounds b
  have ya := cycleYear_bounds a
  have yb := cycleYear_bounds b
  unfold marchYear
  have h : (a + 719468) / 146097 < (b + 719468) / 146097 ∨
      (a + 719468) / 146097 = (b + 719468) / 146097 ∧ cycleDay a < cycleDay b := by
    unfold cycleDay
    omega
  rcases h with h | ⟨h, h1⟩
  · omega
  · rcases century_lt h1 with h2 | ⟨h2, h3⟩
    · omega
    · rcases leapCycle_lt h3 with h4 | ⟨h4, h5⟩
      · omega
      · rcases cycleYear_lt h5 with h6 | ⟨h6, h7⟩
        · omega
        · exact .inr ⟨by omega, h7⟩

/-- Later days are in a later month, or later in the same one. -/
lemma monthIndex_lt {a b : Int} (lt : a < b) :
    monthIndex a < monthIndex b ∨ monthIndex a = monthIndex b ∧ monthDay a < monthDay b := by
  have da := marchDay_bounds a
  have db := marchDay_bounds b
  unfold monthIndex monthDay
  rcases marchYear_lt lt with h | ⟨h, h1⟩
  · omega
  · omega

/-- A month has 31 days at most. -/
lemma monthDay_bounds (z : Int) : 1 ≤ monthDay z ∧ monthDay z ≤ 31 := by
  have h := marchDay_bounds z
  rw [monthDay]
  omega

namespace Date

/-- A year has twelve months. -/
lemma ofDay_month_bounds (z : Int) : 1 ≤ (ofDay z).month ∧ (ofDay z).month ≤ 12 := by
  simp only [ofDay]
  omega

/-- A day of a month is between 1 and 31. -/
lemma ofDay_day_bounds (z : Int) : 1 ≤ (ofDay z).day ∧ (ofDay z).day ≤ 31 := monthDay_bounds z

/-- Later days have later dates. -/
theorem ofDay_lt {a b : Int} (lt : a < b) : (ofDay a).Precedes (ofDay b) := by
  have h := monthIndex_lt lt
  simp only [Precedes, ofDay]
  omega

/-- The date of a day determines the day. -/
theorem toDay_ofDay (z : Int) : (ofDay z).toDay = z := by
  have cd := cycleDay_bounds z
  have c := century_bounds z
  have l := leapCycle_bounds z
  have y := cycleYear_bounds z
  have d := marchDay_bounds z
  have split1 : z + 719468 = 146097 * ((z + 719468) / 146097) + cycleDay z := by
    rw [cycleDay]
    omega
  have split2 : cycleDay z = 36524 * century z + 1461 * leapCycle z + leapCycleDay z := by
    rw [leapCycle, leapCycleDay]
    omega
  have split3 : leapCycleDay z = 365 * cycleYear z + marchDay z := by
    rw [marchDay]
    omega
  have m : 12 * (monthIndex z / 12) + (monthIndex z % 12 + 1) - 3 =
      12 * marchYear z + (5 * marchDay z + 2) / 153 := by
    rw [monthIndex]
    omega
  have y1 : (12 * marchYear z + (5 * marchDay z + 2) / 153) / 12 = marchYear z := by omega
  have y2 : (12 * marchYear z + (5 * marchDay z + 2) / 153) % 12 = (5 * marchDay z + 2) / 153 := by
    omega
  have y4 : marchYear z / 4 =
      100 * ((z + 719468) / 146097) + 25 * century z + leapCycle z := by
    rw [marchYear]
    omega
  have y100 : marchYear z / 100 = 4 * ((z + 719468) / 146097) + century z := by
    rw [marchYear]
    omega
  have y400 : marchYear z / 400 = (z + 719468) / 146097 := by
    rw [marchYear]
    omega
  simp only [toDay, ofDay]
  rw [m, y1, y2, y4, y100, y400]
  rw [marchYear, monthDay]
  omega

/-- Different days have different dates. -/
lemma ofDay_inj {a b : Int} (eq : ofDay a = ofDay b) : a = b := by
  rw [← toDay_ofDay a, eq, toDay_ofDay]

/-- No date precedes itself. -/
lemma Precedes.irrefl (a : Date) : ¬ a.Precedes a := by
  rw [Precedes]
  omega

/-- Of two dates one precedes the other at most. -/
lemma Precedes.asymm {a b : Date} (h : a.Precedes b) : ¬ b.Precedes a := by
  rw [Precedes] at *
  omega

/-- Dates compare as their days do. -/
theorem ofDay_precedes_iff {a b : Int} : (ofDay a).Precedes (ofDay b) ↔ a < b := by
  refine ⟨?_, ?_⟩
  · intro h
    rcases lt_trichotomy a b with lt | rfl | gt
    · exact lt
    · exact absurd h (Precedes.irrefl _)
    · exact absurd (ofDay_lt gt) h.asymm
  · exact ofDay_lt

example : ofDay 0 = ⟨1970, 1, 1⟩ := by decide

example : ofDay 19782 = ⟨2024, 2, 29⟩ := by decide

end Date

/-- The day of the week, Sunday being 0. -/
def weekday (z : Int) : Int := (z + 4) % 7

/-- There are seven weekdays. -/
lemma weekday_bounds (z : Int) : 0 ≤ weekday z ∧ weekday z < 7 := by
  rw [weekday]
  omega

end UserPortal.Calendar
