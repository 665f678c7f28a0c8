/-!
# Durations

A signed length of time in whole microseconds, of at most 999999999 days to either side; the
longest one ends a microsecond before the next day.

* `Duration.ofMicros?` is the duration of a number of microseconds, if it is in range.
-/

namespace FlatJson

/-- A length of time. -/
structure Duration where
  /-- The number of microseconds. -/
  micros : Int
  /-- A duration is at least minus 999999999 days. -/
  atLeast : -86399999913600000000 ≤ micros
  /-- A duration is less than 1000000000 days. -/
  atMost : micros ≤ 86399999999999999999
deriving DecidableEq

namespace Duration

/-- The duration of a number of microseconds, if it is in range. -/
def ofMicros? (n : Int) : Option Duration :=
  if h : -86399999913600000000 ≤ n ∧ n ≤ 86399999999999999999 then some ⟨n, h.1, h.2⟩
  else none

/-- The number of nanoseconds. -/
def nanos (d : Duration) : Int := d.micros * 1000

/-- The whole days of the duration, rounded down. -/
def days (d : Duration) : Int := d.micros / 86400000000

/-- The microseconds that the duration has beyond its whole days. -/
def dayMicros (d : Duration) : Nat := (d.micros % 86400000000).toNat

@[ext] theorem ext {d e : Duration} (h : d.micros = e.micros) : d = e := by
  cases d; cases e; simp_all

theorem ofMicros?_eq_some {n : Int} {d : Duration} : ofMicros? n = some d ↔ d.micros = n := by
  unfold ofMicros?
  constructor
  · split
    · intro h
      rw [← Option.some.inj h]
    · intro h
      contradiction
  · rintro rfl
    simp [d.atLeast, d.atMost]

end Duration

end FlatJson
