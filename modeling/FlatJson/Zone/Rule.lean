import FlatJson.Zone.Database

/-!
# Zone rules

A zone has a standard offset and may have daylight time between two days of every year, each given
as a weekday of a week of a month. The rule of a zone holds for all years.

* `Rule.offsetAt` is the offset in force at an instant of universal time.
* `Rule.repeatsAt` says that the wall clock at an instant shows what it has shown before, because
  daylight time has just ended; `Rule.ambiguousAt` also holds of the first time it shows that.
* `Rule.clock` is the wall clock of a zone that has the rule.
-/

namespace FlatJson

/-- A day of every year and a time on the wall clock at which an offset is changed. -/
structure Changeover where
  /-- The month, from 1 to 12. -/
  month : Nat
  /-- Which of the weekdays of the month, from 1; 5 is the last one. -/
  week : Nat
  /-- The weekday, from 0 for Sunday. -/
  weekday : Nat
  /-- The seconds from midnight on the wall clock in use before the change. -/
  seconds : Int
  /-- The year has such a month. -/
  month_mem : 1 ≤ month ∧ month ≤ 12
  /-- The weekday comes four or five times a month. -/
  week_mem : 1 ≤ week ∧ week ≤ 5
  /-- There are seven weekdays. -/
  weekday_lt : weekday < 7
deriving DecidableEq

/-- Daylight time. -/
structure Daylight where
  /-- The offset while it lasts. -/
  offset : UtcOffset
  /-- Its beginning, on the wall clock of standard time. -/
  start : Changeover
  /-- Its end, on the wall clock of daylight time. -/
  stop : Changeover
deriving DecidableEq

/-- What a zone adds to universal time. -/
structure Rule where
  /-- The offset of standard time. -/
  standard : UtcOffset
  /-- Daylight time, if the zone has it. -/
  daylight : Option Daylight := none
deriving DecidableEq

namespace Changeover

/-- The day of the month in a year: the first such weekday, some weeks on, but not beyond the end
of the month. -/
def dayIn (c : Changeover) (year : Nat) : Nat :=
  let weekdayOfFirst := (FlatJson.dayNumber year c.month 1 + 1) % 7
  let first := (c.weekday + 7 - weekdayOfFirst) % 7 + 1
  let day := first + 7 * (c.week - 1)
  if day ≤ monthLength year c.month then day else day - 7

/-- The wall clock of the changeover in a year, in microseconds since the beginning of year 1. -/
def microsIn (c : Changeover) (year : Nat) : Int :=
  FlatJson.dayNumber year c.month (c.dayIn year) * microsPerDay + c.seconds * 1000000

end Changeover

namespace Daylight

/-- The instants of a year at which daylight time starts and stops, in microseconds. -/
def boundsIn (d : Daylight) (standard : UtcOffset) (year : Nat) : Int × Int :=
  (d.start.microsIn year - standard.micros, d.stop.microsIn year - d.offset.micros)

/-- The instant lies in daylight time: between start and stop, or, where daylight time lasts over
the turn of the year, not between stop and start. -/
def holdsAt (d : Daylight) (standard : UtcOffset) (utc : Clock) : Bool :=
  let (start, stop) := d.boundsIn standard utc.date.year
  if start < stop then start ≤ utc.micros && utc.micros < stop
  else utc.micros < stop || start ≤ utc.micros

end Daylight

namespace Rule

/-- Daylight time is in force at an instant of universal time. -/
def inDaylight (r : Rule) (utc : Clock) : Bool :=
  match r.daylight with
  | none => false
  | some d => d.holdsAt r.standard utc

/-- The offset in force at an instant of universal time. -/
def offsetAt (r : Rule) (utc : Clock) : UtcOffset :=
  match r.daylight with
  | none => r.standard
  | some d => if d.holdsAt r.standard utc then d.offset else r.standard

/-- Daylight time has ended less than its lead over standard time before the instant. -/
def repeatsAt (r : Rule) (utc : Clock) : Bool :=
  match r.daylight with
  | none => false
  | some d =>
    let stop := (d.boundsIn r.standard utc.date.year).2
    stop ≤ utc.micros && utc.micros < stop + (d.offset.micros - r.standard.micros)

/-- The end of daylight time is less than its lead over standard time away from the instant, so
that the wall clock of the instant comes twice. -/
def ambiguousAt (r : Rule) (utc : Clock) : Bool :=
  match r.daylight with
  | none => false
  | some d =>
    let stop := (d.boundsIn r.standard utc.date.year).2
    let lead := d.offset.micros - r.standard.micros
    stop - lead ≤ utc.micros && utc.micros < stop + lead

/-- The wall clock of a zone that has the rule. -/
def clock (r : Rule) : ZoneClock where
  offsetAt := r.offsetAt
  repeatsAt := r.repeatsAt
  ambiguousAt := r.ambiguousAt

end Rule

end FlatJson
