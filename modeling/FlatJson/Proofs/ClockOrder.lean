import FlatJson.Proofs.Calendar
import FlatJson.Proofs.Numeral
import Mathlib.Data.Char
import Mathlib.Data.List.Lex

/-!
# The order of wall clocks

Wall clocks are written with all their parts in a fixed width, the year first and the fraction of
the second last. So the order of the texts, character by character, is the order of the times.

* `Date.dayNumber_lt_iff`, `TimeOfDay.micros_lt_iff`: dates and times of day are compared part by
  part.
* `padded_append_lt_iff`: so are rows of digits of one width.
* `Clock.render_append_lt_iff`: texts of wall clocks are in the order of the wall clocks.
-/

namespace FlatJson

/-! ### Dates -/

namespace Date

/-- A date of an earlier year, or of an earlier month of the same year, comes before. -/
theorem dayNumber_lt_of_before {d e : Date} (h : d.year < e.year ∨
    d.year = e.year ∧ (d.month < e.month ∨ d.month = e.month ∧ d.day < e.day)) :
    d.dayNumber < e.dayNumber := by
  have hpos := d.valid.day_pos
  rcases h with hyear | ⟨hyear, hmonth | ⟨hmonth, hday⟩⟩
  · have hd := d.dayNumber_lt
    have hnext := daysBeforeYear_add_le d.valid.year_pos hyear
    have he := e.daysBeforeYear_le
    omega
  · have hlength := d.valid.day_le
    have hnext := @daysBeforeMonth_add_le e.year _ _ d.day_le_getD.1 hmonth e.month_le
    rw [hyear] at hlength
    simp only [dayNumber, FlatJson.dayNumber, hyear]
    omega
  · simp only [dayNumber, FlatJson.dayNumber, hyear, hmonth]
    omega

/-- Dates are compared by year, month and day. -/
theorem dayNumber_lt_iff {d e : Date} : d.dayNumber < e.dayNumber ↔ d.year < e.year ∨
    d.year = e.year ∧ (d.month < e.month ∨ d.month = e.month ∧ d.day < e.day) := by
  refine ⟨fun h => ?_, dayNumber_lt_of_before⟩
  by_contra hbefore
  -- of two dates that are not the same one is before the other
  have hafter : d = e ∨ e.dayNumber < d.dayNumber := by
    by_cases hsame : d.year = e.year ∧ d.month = e.month ∧ d.day = e.day
    · exact .inl (Date.ext hsame.1 hsame.2.1 hsame.2.2)
    · exact .inr (dayNumber_lt_of_before (by omega))
  rcases hafter with rfl | hafter <;> omega

theorem dayNumber_inj {d e : Date} : d.dayNumber = e.dayNumber ↔
    d.year = e.year ∧ d.month = e.month ∧ d.day = e.day := by
  have hlt := @dayNumber_lt_iff d e
  have hgt := @dayNumber_lt_iff e d
  omega

end Date

/-! ### Times of day -/

/-- Times of day are compared by hour, minute, second and microsecond. -/
theorem TimeOfDay.micros_lt_iff {s t : TimeOfDay} : s.micros < t.micros ↔ s.hour < t.hour ∨
    s.hour = t.hour ∧ (s.minute < t.minute ∨ s.minute = t.minute ∧ (s.second < t.second ∨
      s.second = t.second ∧ s.micro < t.micro)) := by
  have := s.minute_lt
  have := s.second_lt
  have := s.micro_lt
  have := t.minute_lt
  have := t.second_lt
  have := t.micro_lt
  simp only [micros]
  omega

/-- Wall clocks are compared by their parts, from the year to the microsecond. -/
theorem Clock.micros_lt_iff {c d : Clock} : c.micros < d.micros ↔
    c.date.year < d.date.year ∨ c.date.year = d.date.year ∧
      (c.date.month < d.date.month ∨ c.date.month = d.date.month ∧
        (c.date.day < d.date.day ∨ c.date.day = d.date.day ∧
          (c.time.hour < d.time.hour ∨ c.time.hour = d.time.hour ∧
            (c.time.minute < d.time.minute ∨ c.time.minute = d.time.minute ∧
              (c.time.second < d.time.second ∨ c.time.second = d.time.second ∧
                c.time.micro < d.time.micro))))) := by
  have hc := c.time.micros_lt
  have hd := d.time.micros_lt
  have hdays : c.micros < d.micros ↔ c.date.dayNumber < d.date.dayNumber ∨
      c.date.dayNumber = d.date.dayNumber ∧ c.time.micros < d.time.micros := by
    simp only [micros, microsPerDay] at *
    omega
  rw [hdays, Date.dayNumber_lt_iff, Date.dayNumber_inj, TimeOfDay.micros_lt_iff]
  omega

/-! ### Texts -/

theorem digitChar_lt_iff {d e : Nat} (hd : d < 10) (he : e < 10) :
    digitChar d < digitChar e ↔ d < e := by
  have table : ∀ d < 10, ∀ e < 10, (digitChar d < digitChar e ↔ d < e) := by decide
  exact table d hd e he

theorem digitChar_inj {d e : Nat} (hd : d < 10) (he : e < 10) :
    digitChar d = digitChar e ↔ d = e := by
  have table : ∀ d < 10, ∀ e < 10, (digitChar d = digitChar e ↔ d = e) := by decide
  exact table d hd e he

/-- Rows of digits of one width are in the order of the numbers; between equal numbers what follows
decides. -/
theorem padded_append_lt_iff {width a b : Nat} (ha : a < 10 ^ width) (hb : b < 10 ^ width)
    (s t : Text) : padded width a ++ s < padded width b ++ t ↔ a < b ∨ a = b ∧ s < t := by
  induction width generalizing a b s t with
  | zero =>
    obtain rfl : a = 0 := by simpa using ha
    obtain rfl : b = 0 := by simpa using hb
    simp [padded]
  | succ width ih =>
    rw [Nat.pow_succ] at ha hb
    have ha' := Nat.mod_lt a (show 0 < 10 by decide)
    have hb' := Nat.mod_lt b (show 0 < 10 by decide)
    rw [padded, padded, List.append_assoc, List.append_assoc, ih (by omega) (by omega),
      List.singleton_append, List.singleton_append, List.cons_lt_cons_iff,
      digitChar_lt_iff ha' hb', digitChar_inj ha' hb']
    by_cases hst : s < t
    · simp only [hst, and_true]
      omega
    · simp only [hst, and_false, or_false]
      omega

/-- A mark behind both rows decides nothing. -/
theorem padded_mark_lt_iff {width a b : Nat} (ha : a < 10 ^ width) (hb : b < 10 ^ width)
    (mark : Char) (s t : Text) :
    padded width a ++ mark :: s < padded width b ++ mark :: t ↔ a < b ∨ a = b ∧ s < t := by
  rw [padded_append_lt_iff ha hb, List.cons_lt_cons_iff]
  simp only [lt_irrefl, false_or, true_and]

/-- **Texts of wall clocks are in the order of the wall clocks**, and between equal wall clocks what
follows decides. -/
theorem Clock.render_append_lt_iff {c d : Clock} (s t : Text) :
    c.render ++ s < d.render ++ t ↔ c.micros < d.micros ∨ c = d ∧ s < t := by
  have year (c : Clock) : c.date.year < 10 ^ 4 := Nat.lt_succ_of_le c.date.valid.year_le
  have month (c : Clock) : c.date.month < 10 ^ 2 := Nat.lt_of_le_of_lt c.date.month_le (by decide)
  have day (c : Clock) : c.date.day < 10 ^ 2 := Nat.lt_of_le_of_lt c.date.day_le (by decide)
  have hour (c : Clock) : c.time.hour < 10 ^ 2 := Nat.lt_trans c.time.hour_lt (by decide)
  have minute (c : Clock) : c.time.minute < 10 ^ 2 := Nat.lt_trans c.time.minute_lt (by decide)
  have second (c : Clock) : c.time.second < 10 ^ 2 := Nat.lt_trans c.time.second_lt (by decide)
  have nanos (c : Clock) : c.time.micro * 1000 < 10 ^ 9 := by
    have := c.time.micro_lt
    omega
  simp only [render, List.append_assoc, List.cons_append]
  rw [padded_mark_lt_iff (year c) (year d), padded_mark_lt_iff (month c) (month d),
    padded_mark_lt_iff (day c) (day d), padded_mark_lt_iff (hour c) (hour d),
    padded_mark_lt_iff (minute c) (minute d), padded_mark_lt_iff (second c) (second d),
    padded_append_lt_iff (nanos c) (nanos d), micros_lt_iff, Clock.ext_iff, Date.ext_iff,
    TimeOfDay.ext_iff]
  by_cases hst : s < t
  · simp only [hst, and_true]
    omega
  · simp only [hst, and_false, or_false]
    omega

/-- Different wall clocks have different texts. -/
theorem Clock.render_append_inj {c d : Clock} (s : Text) :
    c.render ++ s = d.render ++ s ↔ c = d := by
  refine ⟨fun h => ?_, fun h => by rw [h]⟩
  have hlt := @render_append_lt_iff c d s s
  have hgt := @render_append_lt_iff d c s s
  simp only [h, lt_irrefl, and_false, or_false, false_iff] at hlt hgt
  exact micros_injective (by omega)

end FlatJson
