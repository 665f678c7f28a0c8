import FlatJson.Calendar.DayNumber
import FlatJson.Text.Numeral

/-!
# Wall clocks

What a calendar and a clock on the wall show: a date and a time of day to the microsecond. A wall
clock corresponds to the number of microseconds since the beginning of year 1.

* `Clock.micros` is that number, `Clock.ofMicros?` the wall clock of a number;
  `Clock.ofMicros?_eq_some_iff` says that they are inverse to each other.
* `Clock.render` writes a wall clock with nine fraction digits.
-/

namespace FlatJson

/-- A time of day. -/
structure TimeOfDay where
  /-- The hour. -/
  hour : Nat
  /-- The minute. -/
  minute : Nat
  /-- The second; there are no leap seconds. -/
  second : Nat
  /-- The microsecond. -/
  micro : Nat
  /-- A day has 24 hours. -/
  hour_lt : hour < 24
  /-- An hour has 60 minutes. -/
  minute_lt : minute < 60
  /-- A minute has 60 seconds. -/
  second_lt : second < 60
  /-- A second has a million microseconds. -/
  micro_lt : micro < 1000000

/-- The number of microseconds of a day. -/
def microsPerDay : Nat := 86400000000

namespace TimeOfDay

/-- The time of day of its four parts, if they are in range. -/
def of? (hour minute second micro : Nat) : Option TimeOfDay :=
  if h : hour < 24 ∧ minute < 60 ∧ second < 60 ∧ micro < 1000000 then
    some ⟨hour, minute, second, micro, h.1, h.2.1, h.2.2.1, h.2.2.2⟩
  else none

/-- The number of microseconds since midnight. -/
def micros (t : TimeOfDay) : Nat :=
  ((t.hour * 60 + t.minute) * 60 + t.second) * 1000000 + t.micro

/-- The time of day a number of microseconds after midnight; whole days are dropped. -/
def ofMicros (n : Nat) : TimeOfDay where
  hour := n / 3600000000 % 24
  minute := n / 60000000 % 60
  second := n / 1000000 % 60
  micro := n % 1000000
  hour_lt := Nat.mod_lt _ (by decide)
  minute_lt := Nat.mod_lt _ (by decide)
  second_lt := Nat.mod_lt _ (by decide)
  micro_lt := Nat.mod_lt _ (by decide)

@[ext] theorem ext {s t : TimeOfDay} (hh : s.hour = t.hour) (hm : s.minute = t.minute)
    (hs : s.second = t.second) (hu : s.micro = t.micro) : s = t := by
  cases s; cases t; simp_all

theorem micros_lt (t : TimeOfDay) : t.micros < microsPerDay := by
  have := t.hour_lt
  have := t.minute_lt
  have := t.second_lt
  have := t.micro_lt
  simp only [micros, microsPerDay]
  omega

theorem ofMicros_micros (t : TimeOfDay) : ofMicros t.micros = t := by
  have := t.hour_lt
  have := t.minute_lt
  have := t.second_lt
  have := t.micro_lt
  ext <;> simp only [ofMicros, micros] <;> omega

theorem micros_ofMicros {n : Nat} (h : n < microsPerDay) : (ofMicros n).micros = n := by
  simp only [ofMicros, micros, microsPerDay] at *
  omega

end TimeOfDay

/-- A date and a time of day. -/
structure Clock where
  /-- The date. -/
  date : Date
  /-- The time of day. -/
  time : TimeOfDay

namespace Clock

/-- The number of microseconds since the beginning of year 1. -/
def micros (c : Clock) : Int := (c.date.dayNumber * microsPerDay + c.time.micros : Nat)

/-- The wall clock a number of microseconds after the beginning of year 1, if it is neither before
that nor beyond the last year. -/
def ofMicros? (n : Int) : Option Clock :=
  if n < 0 then none
  else
    (Date.ofDayNumber? (n.toNat / microsPerDay)).map fun date =>
      ⟨date, TimeOfDay.ofMicros (n.toNat % microsPerDay)⟩

/-- Date and time of day with nine fraction digits and without a zone. -/
def render (c : Clock) : Text :=
  padded 4 c.date.year ++ '-' :: padded 2 c.date.month ++ '-' :: padded 2 c.date.day ++
    'T' :: padded 2 c.time.hour ++ ':' :: padded 2 c.time.minute ++ ':' :: padded 2 c.time.second ++
    '.' :: padded 9 (c.time.micro * 1000)

/-- A number of microseconds is that of its wall clock. -/
theorem ofMicros?_eq_some_iff {n : Int} {c : Clock} : ofMicros? n = some c ↔ c.micros = n := by
  have hpos : 0 < microsPerDay := by decide
  have ht := c.time.micros_lt
  unfold ofMicros? micros
  split
  · simp only [reduceCtorEq, false_iff]
    omega
  · rename_i hn
    obtain ⟨m, rfl⟩ : ∃ m : Nat, n = m := ⟨n.toNat, by omega⟩
    rw [Int.toNat_natCast, Option.map_eq_some_iff, Int.natCast_inj]
    constructor
    · rintro ⟨date, hdate, rfl⟩
      rw [Date.ofDayNumber?_eq_some_iff.1 hdate, TimeOfDay.micros_ofMicros (Nat.mod_lt _ hpos),
        Nat.div_add_mod']
    · rintro rfl
      refine ⟨c.date, ?_, ?_⟩
      · rw [Nat.add_comm, Nat.add_mul_div_right _ _ hpos, Nat.div_eq_of_lt ht, Nat.zero_add]
        exact c.date.ofDayNumber?_dayNumber
      · rw [Nat.add_comm, Nat.add_mul_mod_self_right, Nat.mod_eq_of_lt ht,
          TimeOfDay.ofMicros_micros]

@[ext] theorem ext {c d : Clock} (hd : c.date = d.date) (ht : c.time = d.time) : c = d := by
  cases c; cases d; simp_all

end Clock

end FlatJson
