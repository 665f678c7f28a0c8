import FlatJson.Proofs.Calendar
import FlatJson.Zone.Rule

/-!
# The days of changeovers

A changeover is given by a weekday of a week of a month. Which day of a year that is follows from
the weekdays of the days, whatever way it is found.

* `weekdayOf` is the weekday of a day.
* `Changeover.IsDay` says on which day of its month a changeover is, and `Changeover.FallsOn` at
  which instants.
* `isDay_iff`: it is on the day that is computed, and on no other one.
-/

namespace FlatJson

/-- The weekday of a day by its number, from 0 for Sunday. The calendar begins on a Monday. -/
def weekdayOf (n : Nat) : Nat := (n + 1) % 7

/-- The year 2000 began on a Saturday. -/
example : weekdayOf (dayNumber 2000 1 1) = 6 := by decide

/-- The weekdays of a month follow each other from its first day on. -/
theorem weekdayOf_dayNumber (year month day : Nat) : weekdayOf (dayNumber year month day) =
    (weekdayOf (dayNumber year month 1) + (day - 1)) % 7 := by
  simp only [weekdayOf, dayNumber]
  omega

namespace Changeover

/-- The changeover is on this day of its month. -/
structure IsDay (c : Changeover) (year day : Nat) : Prop where
  /-- Days count from one. -/
  pos : 1 ≤ day
  /-- The day is one of the month. -/
  le : day ≤ monthLength year c.month
  /-- It is the right weekday. -/
  weekday_eq : weekdayOf (dayNumber year c.month day) = c.weekday
  /-- The first four weekdays of a month are in its first four times seven days. -/
  early : c.week ≠ 5 → 7 * (c.week - 1) < day ∧ day ≤ 7 * c.week
  /-- The fifth one stands for the last: no later day of the month is such a weekday. -/
  last : c.week = 5 → ∀ later, day < later → later ≤ monthLength year c.month →
    weekdayOf (dayNumber year c.month later) ≠ c.weekday

variable {c : Changeover} {year day day' : Nat}

/-- There is only one such day. -/
theorem IsDay.unique (h : c.IsDay year day) (h' : c.IsDay year day') : day = day' := by
  have hweekday := h.weekday_eq
  have hweekday' := h'.weekday_eq
  by_cases hweek : c.week = 5
  · -- of two last days neither is later than the other
    rcases Nat.lt_trichotomy day day' with hlt | heq | hlt
    · exact absurd hweekday' (h.last hweek day' hlt h'.le)
    · exact heq
    · exact absurd hweekday (h'.last hweek day hlt h.le)
  · have hearly := h.early hweek
    have hearly' := h'.early hweek
    rw [weekdayOf_dayNumber] at hweekday
    rw [weekdayOf_dayNumber] at hweekday'
    omega

/-- The day that is computed is the one of the changeover. -/
theorem isDay_dayIn (c : Changeover) (year : Nat) : c.IsDay year (c.dayIn year) := by
  have hlength := le_monthLength c.month_mem year
  have hlength' := monthLength_le year c.month
  have hweek := c.week_mem
  have hlt := c.weekday_lt
  obtain ⟨first, hfirst⟩ : ∃ n, n = weekdayOf (dayNumber year c.month 1) := ⟨_, rfl⟩
  have hbound : first < 7 := by
    rw [hfirst]
    exact Nat.mod_lt _ (by decide)
  -- the first such weekday of the month is less than a week after the first day
  obtain ⟨lead, hlead⟩ : ∃ n, n = (c.weekday + 7 - first) % 7 + 1 + 7 * (c.week - 1) := ⟨_, rfl⟩
  have hday : c.dayIn year =
      if lead ≤ monthLength year c.month then lead else lead - 7 := by
    rw [hlead, hfirst]
    rfl
  have hpos : 1 ≤ c.dayIn year := by
    rw [hday]
    split <;> omega
  have hle : c.dayIn year ≤ monthLength year c.month := by
    rw [hday]
    split <;> omega
  refine ⟨hpos, hle, ?_, fun hnot => ?_, fun hlast later hlater hin => ?_⟩
  · rw [weekdayOf_dayNumber, ← hfirst, hday]
    split <;> omega
  · rw [hday, if_pos (by omega)]
    omega
  · rw [weekdayOf_dayNumber, ← hfirst]
    rw [hday] at hlater
    split at hlater <;> omega

theorem isDay_iff : c.IsDay year day ↔ day = c.dayIn year := by
  constructor
  · exact fun h => h.unique (isDay_dayIn c year)
  · rintro rfl
    exact isDay_dayIn c year

/-- In 2021 the first Sunday of November was the seventh. -/
example : IsDay ⟨11, 1, 0, 7200, by decide, by decide, by decide⟩ 2021 7 := isDay_iff.2 (by decide)

/-- The changeover comes at this time of the calendar, on a wall clock with this offset: on its day
of some year, so many seconds after midnight. -/
def FallsOn (c : Changeover) (o : UtcOffset) (n : Int) : Prop :=
  ∃ year day, 1 ≤ year ∧ c.IsDay year day ∧
    n = dayNumber year c.month day * microsPerDay + c.seconds * 1000000 - o.micros

theorem fallsOn_iff {o : UtcOffset} {n : Int} :
    c.FallsOn o n ↔ ∃ year, 1 ≤ year ∧ n = c.microsIn year - o.micros := by
  simp only [FallsOn, isDay_iff, microsIn]
  constructor
  · rintro ⟨year, day, hyear, rfl, rfl⟩
    exact ⟨year, hyear, rfl⟩
  · rintro ⟨year, hyear, rfl⟩
    exact ⟨year, _, hyear, rfl, rfl⟩

end Changeover

end FlatJson
