import FlatJson.Calendar.Clock

/-!
# Offsets from universal time

How far a wall clock is ahead of universal time: less than a day to either side, in whole seconds.

* `Clock.ahead?` and `Clock.behind?` move a wall clock by an offset, if the result is on the
  calendar.
-/

namespace FlatJson

/-- The distance of a wall clock from universal time. -/
structure UtcOffset where
  /-- The number of seconds that the wall clock is ahead. -/
  seconds : Int
  /-- Less than a day behind. -/
  gt : -86400 < seconds := by decide
  /-- Less than a day ahead. -/
  lt : seconds < 86400 := by decide
deriving DecidableEq

namespace UtcOffset

/-- The offset of a number of seconds, if it is less than a day. -/
def ofSeconds? (n : Int) : Option UtcOffset :=
  if h : -86400 < n ∧ n < 86400 then some ⟨n, h.1, h.2⟩ else none

/-- Universal time itself. -/
def zero : UtcOffset := ⟨0, by decide, by decide⟩

/-- The offset in microseconds. -/
def micros (o : UtcOffset) : Int := o.seconds * 1000000

@[ext] theorem ext {o p : UtcOffset} (h : o.seconds = p.seconds) : o = p := by
  cases o; cases p; simp_all

theorem ofSeconds?_eq_some {n : Int} {o : UtcOffset} : ofSeconds? n = some o ↔ o.seconds = n := by
  unfold ofSeconds?
  constructor
  · split
    · intro h
      rw [← Option.some.inj h]
    · intro h
      contradiction
  · rintro rfl
    simp [o.gt, o.lt]

end UtcOffset

namespace Clock

/-- The wall clock that is ahead by an offset, if it is on the calendar. -/
def ahead? (c : Clock) (o : UtcOffset) : Option Clock := ofMicros? (c.micros + o.micros)

/-- The wall clock that is behind by an offset, if it is on the calendar. -/
def behind? (c : Clock) (o : UtcOffset) : Option Clock := ofMicros? (c.micros - o.micros)

end Clock

end FlatJson
