import FlatJson.Proofs.Spelling

/-!
# The instant of a timestamp

* `Timestamp.nanosAt` is the instant that is written, `Moment.instant` the one that is shown.
* `utc?_eq_some_iff`: the wall clock of universal time is the written one less the written offset.
* `micros_of_utc?`: that is the written instant, rounded down to a microsecond.
* `show?_eq_some_iff`: an instant is shown with the offset that the zone has at the instant.
* `parseTimestamp_eq_ok_iff` puts the steps together.
-/

namespace FlatJson

theorem TimeOfDay.of?_eq_some_iff {hour minute second micro : Nat} {t : TimeOfDay} :
    TimeOfDay.of? hour minute second micro = some t ↔
      t.hour = hour ∧ t.minute = minute ∧ t.second = second ∧ t.micro = micro := by
  unfold TimeOfDay.of?
  constructor
  · split
    · intro h
      rw [← Option.some.inj h]
      exact ⟨rfl, rfl, rfl, rfl⟩
    · intro h
      contradiction
  · rintro ⟨rfl, rfl, rfl, rfl⟩
    rw [dif_pos ⟨t.hour_lt, t.minute_lt, t.second_lt, t.micro_lt⟩]

@[simp] theorem UtcOffset.micros_zero : UtcOffset.zero.micros = 0 := rfl

theorem UtcOffset.micros_eq_zero_iff {o : UtcOffset} : o.micros = 0 ↔ o = .zero := by
  rw [UtcOffset.ext_iff, micros]
  exact ⟨fun h => show o.seconds = 0 by omega, fun h => by rw [h]; rfl⟩

namespace Timestamp

/-- The written wall clock has the written fields; the fraction is rounded down. -/
theorem clock?_eq_some_iff {w : Timestamp} {c : Clock} : w.clock? = some c ↔
    (c.date.year = w.year ∧ c.date.month = w.month ∧ c.date.day = w.day) ∧
      c.time.hour = w.hour ∧ c.time.minute = w.minute ∧ c.time.second = w.second ∧
        c.time.micro = w.nanos / 1000 := by
  simp only [clock?, bind, Option.bind_eq_some_iff, Date.of?_eq_some, TimeOfDay.of?_eq_some_iff]
  constructor
  · rintro ⟨date, hdate, time, htime, h⟩
    obtain rfl := Option.some.inj h
    exact ⟨hdate, htime⟩
  · rintro ⟨hdate, htime⟩
    exact ⟨c.date, hdate, c.time, htime, rfl⟩

theorem utc?_eq_some_iff {w : Timestamp} {u : Clock} : w.utc? = some u ↔
    ∃ (c : Clock) (o : UtcOffset), w.clock? = some c ∧ o.seconds = w.offsetMinutes * 60 ∧
      u.micros = c.micros - o.micros := by
  simp only [utc?, bind, Option.bind_eq_some_iff, UtcOffset.ofSeconds?_eq_some, Clock.behind?,
    Clock.ofMicros?_eq_some_iff, exists_and_left]

/-- Without an offset the wall clock of universal time is the written one. -/
theorem clock?_of_utc? {w : Timestamp} {u : Clock} (hzero : w.offsetMinutes = 0)
    (h : w.utc? = some u) : w.clock? = some u := by
  obtain ⟨c, o, hc, ho, hu⟩ := utc?_eq_some_iff.1 h
  have hmicros : o.micros = 0 := by rw [UtcOffset.micros, ho, hzero, Int.zero_mul, Int.zero_mul]
  rw [hmicros, Int.sub_zero] at hu
  rwa [Clock.micros_injective hu]

/-- The instant that is written, in nanoseconds since the beginning of year 1: the civil date and
time less the offset. -/
def nanosAt (w : Timestamp) : Int :=
  ((dayNumber w.year w.month w.day * 86400 + (w.hour * 60 + w.minute) * 60 + w.second : Nat) -
    w.offsetMinutes * 60) * 1000000000 + w.nanos

/-- The written wall clock less the written offset is the written instant, rounded down to a
microsecond. -/
theorem micros_sub_eq {w : Timestamp} {c : Clock} {o : UtcOffset} (hc : w.clock? = some c)
    (ho : o.seconds = w.offsetMinutes * 60) : c.micros - o.micros = w.nanosAt / 1000 := by
  obtain ⟨⟨hyear, hmonth, hday⟩, hhour, hminute, hsecond, hmicro⟩ := clock?_eq_some_iff.1 hc
  simp only [nanosAt, Clock.micros, TimeOfDay.micros, Date.dayNumber, UtcOffset.micros,
    microsPerDay, hyear, hmonth, hday, hhour, hminute, hsecond, hmicro, ho]
  omega

/-- The instant of universal time is the written one, rounded down to a microsecond. -/
theorem micros_of_utc? {w : Timestamp} {u : Clock} (h : w.utc? = some u) :
    u.micros = w.nanosAt / 1000 := by
  obtain ⟨c, o, hc, ho, hu⟩ := utc?_eq_some_iff.1 h
  rw [hu, micros_sub_eq hc ho]

end Timestamp

/-- The instant that is shown, in microseconds since the beginning of year 1: the wall clock less
the offset. -/
def Moment.instant (m : Moment) : Int := m.clock.micros - m.offset.micros

theorem Zone.show?_eq_some_iff {z : Zone} {u : Clock} {m : Moment} : z.show? u = some m ↔
    m.toPlacement = ⟨z.offsetAt u, z.repeatsAt u, z⟩ ∧
      m.clock.micros = u.micros + (z.offsetAt u).micros := by
  simp only [show?, bind, Option.bind_eq_some_iff, Clock.ahead?, Clock.ofMicros?_eq_some_iff]
  constructor
  · rintro ⟨c, hc, h⟩
    obtain rfl := Option.some.inj h
    exact ⟨rfl, hc⟩
  · rintro ⟨hplace, hclock⟩
    refine ⟨m.clock, hclock, ?_⟩
    rw [← hplace]

/-- A text is accepted when it is written as a timestamp, its instant is on the calendar, and so is
the wall clock on which it is shown. -/
theorem parseTimestamp_eq_ok_iff {t : Text} {d : Destination} {m : Moment} :
    parseTimestamp t d = .ok m ↔
      ∃ (w : Timestamp) (u : Clock), w.IsSpelling t ∧ w.utc? = some u ∧
        (d.zoneAt u).show? u = some m := by
  simp only [← read?_eq_some_iff, parseTimestamp]
  constructor
  · intro h
    split at h
    · contradiction
    · rename_i w hw
      split at h
      · contradiction
      · rename_i m' hshow
        obtain rfl := Except.ok.inj h
        obtain ⟨u, hu, hm⟩ := Option.bind_eq_some_iff.1 hshow
        exact ⟨w, u, hw, hu, hm⟩
  · rintro ⟨w, u, hw, hu, hm⟩
    have hshow : w.showAt? d = some m := Option.bind_eq_some_iff.2 ⟨u, hu, hm⟩
    simp [hw, hshow]

/-- A wall clock that is written as one of universal time is the instant that it shows. -/
theorem utc?_render (c : Clock) : Timestamp.utc? ⟨c.date.year, c.date.month, c.date.day,
    c.time.hour, c.time.minute, c.time.second, c.time.micro * 1000, 0⟩ = some c := by
  refine Timestamp.utc?_eq_some_iff.2 ⟨c, .zero, ?_, rfl, ?_⟩
  · exact Timestamp.clock?_eq_some_iff.2
      ⟨⟨rfl, rfl, rfl⟩, rfl, rfl, rfl, (Nat.mul_div_cancel _ (by decide)).symm⟩
  · rw [UtcOffset.micros_zero, Int.sub_zero]

end FlatJson
