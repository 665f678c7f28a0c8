import FlatJson.Calendar.Clock

/-!
# Months, years and wall clocks

* `Date.month_le`, `Date.day_le`: the numbers of a date have at most two digits.
* `Clock.year_bounds`: a wall clock lies between the beginning of its year and that of the next one.
* `Clock.micros_injective`, `Clock.exists_micros_iff`: wall clocks are the microseconds from the
  beginning of year 1 to the end of the last year.
-/

namespace FlatJson

/-! ### Months -/

/-- A number beyond twelve is not that of a month. -/
theorem monthLength_eq_zero {year month : Nat} (h : 12 < month) : monthLength year month = 0 := by
  obtain ⟨m, rfl⟩ : ∃ m, month = m + 1 := ⟨month - 1, by omega⟩
  have hlength : (monthLengths (isLeapYear year)).length = 12 := rfl
  rw [monthLength, List.getD_eq_getElem?_getD, List.getElem?_eq_none (by omega), Option.getD_none]

theorem monthLength_le (year month : Nat) : monthLength year month ≤ 31 := by
  have table : ∀ leap : Bool, ∀ m < 12, (monthLengths leap).getD m 0 ≤ 31 := by decide
  rcases Nat.lt_or_ge 12 month with h | h
  · rw [monthLength_eq_zero h]
    omega
  · cases month with
    | zero => exact Nat.zero_le _
    | succ m => exact table _ m h

theorem Date.month_le (d : Date) : d.month ≤ 12 := by
  have hpos := d.valid.day_pos
  have hle := d.valid.day_le
  rcases Nat.lt_or_ge 12 d.month with h | h
  · rw [monthLength_eq_zero h] at hle
    omega
  · exact h

theorem Date.day_le (d : Date) : d.day ≤ 31 :=
  Nat.le_trans d.valid.day_le (monthLength_le _ _)

/-- A month has four weeks or more. -/
theorem le_monthLength {month : Nat} (h : 1 ≤ month ∧ month ≤ 12) (year : Nat) :
    28 ≤ monthLength year month := by
  have table : ∀ leap : Bool, ∀ m < 12, 28 ≤ (monthLengths leap).getD m 0 := by decide
  obtain ⟨m, rfl⟩ : ∃ m, month = m + 1 := ⟨month - 1, by omega⟩
  exact table _ m (by omega)

/-- The first day and the length of a month that is neither the first nor the last one. -/
theorem month_bounds {year month : Nat} (h : 2 ≤ month) (h' : month ≤ 11) :
    31 ≤ daysBeforeMonth year month ∧ 28 ≤ monthLength year month ∧
      daysBeforeMonth year month + monthLength year month + 31 ≤ yearLength year := by
  have table : ∀ leap : Bool, ∀ m < 11, 1 ≤ m →
      31 ≤ total ((monthLengths leap).take m) ∧ 28 ≤ (monthLengths leap).getD m 0 ∧
        total ((monthLengths leap).take m) + (monthLengths leap).getD m 0 + 31 ≤
          total (monthLengths leap) := by decide
  obtain ⟨m, rfl⟩ : ∃ m, month = m + 1 := ⟨month - 1, by omega⟩
  rw [← total_monthLengths]
  exact table (isLeapYear year) m (by omega) (by omega)

/-- Between two months that are not neighbours there are four weeks. -/
theorem months_apart {year month month' : Nat} (h : 1 ≤ month) (hlt : month + 2 ≤ month')
    (h' : month' ≤ 12) :
    daysBeforeMonth year month + monthLength year month + 28 ≤ daysBeforeMonth year month' := by
  have table : ∀ leap : Bool, ∀ m < 12, ∀ m' < 12, m + 2 ≤ m' →
      total ((monthLengths leap).take m) + (monthLengths leap).getD m 0 + 28 ≤
        total ((monthLengths leap).take m') := by decide
  obtain ⟨m, rfl⟩ : ∃ m, month = m + 1 := ⟨month - 1, by omega⟩
  obtain ⟨m', rfl⟩ : ∃ m', month' = m' + 1 := ⟨month' - 1, by omega⟩
  exact table (isLeapYear year) m (by omega) m' (by omega) (by omega)

/-- A month ends before every later month of the year begins. -/
theorem daysBeforeMonth_add_le {year month month' : Nat} (h : 1 ≤ month) (hlt : month < month')
    (h' : month' ≤ 12) :
    daysBeforeMonth year month + monthLength year month ≤ daysBeforeMonth year month' := by
  have table : ∀ leap : Bool, ∀ m < 12, ∀ m' < 12, m < m' →
      total ((monthLengths leap).take m) + (monthLengths leap).getD m 0 ≤
        total ((monthLengths leap).take m') := by decide
  obtain ⟨m, rfl⟩ : ∃ m, month = m + 1 := ⟨month - 1, by omega⟩
  obtain ⟨m', rfl⟩ : ∃ m', month' = m' + 1 := ⟨month' - 1, by omega⟩
  exact table (isLeapYear year) m (by omega) m' (by omega) (by omega)

/-! ### Years -/

/-- A date lies in its year. -/
theorem Date.dayNumber_lt (d : Date) :
    d.dayNumber < daysBeforeYear d.year + yearLength d.year := by
  obtain ⟨-, hd⟩ := d.day_le_getD
  have hlt := total_take_add_getD_le (monthLengths (isLeapYear d.year)) (d.month - 1)
  rw [total_monthLengths] at hlt
  have hpos := d.valid.day_pos
  simp only [dayNumber, FlatJson.dayNumber, daysBeforeMonth]
  omega

theorem Date.daysBeforeYear_le (d : Date) : daysBeforeYear d.year ≤ d.dayNumber := by
  rw [dayNumber, FlatJson.dayNumber, Nat.add_assoc]
  exact Nat.le_add_right _ _

/-- The microseconds from the beginning of year 1 to the beginning of a year. -/
def yearMicros (year : Nat) : Int := (daysBeforeYear year * microsPerDay : Nat)

theorem yearMicros_succ {y : Nat} (hy : 1 ≤ y) :
    yearMicros (y + 1) = yearMicros y + (yearLength y * microsPerDay : Nat) := by
  rw [yearMicros, yearMicros, daysBeforeYear_succ hy, Nat.add_mul, Int.natCast_add]

theorem yearMicros_mono {y z : Nat} (hy : 1 ≤ y) (h : y ≤ z) : yearMicros y ≤ yearMicros z := by
  rcases Nat.lt_or_eq_of_le h with hlt | rfl
  · have := Nat.le_trans (Nat.le_add_right _ _) (daysBeforeYear_add_le hy hlt)
    exact Int.ofNat_le.2 (Nat.mul_le_mul_right _ this)
  · exact Int.le_refl _

theorem Clock.year_bounds (c : Clock) :
    yearMicros c.date.year ≤ c.micros ∧ c.micros < yearMicros (c.date.year + 1) := by
  have hd := c.date.dayNumber_lt
  have ht := c.time.micros_lt
  have hyear : daysBeforeYear c.date.year ≤ c.date.dayNumber := c.date.daysBeforeYear_le
  rw [yearMicros_succ c.date.valid.year_pos]
  simp only [yearMicros, micros, microsPerDay] at *
  constructor <;> omega

theorem Clock.micros_injective {c d : Clock} (h : c.micros = d.micros) : c = d := by
  have hc := ofMicros?_eq_some_iff.2 h
  rw [ofMicros?_eq_some_iff.2 rfl] at hc
  exact (Option.some.inj hc).symm

/-- The calendar begins with year 1 and goes to the end of the last year. -/
theorem Clock.exists_micros_iff {n : Int} :
    (∃ u : Clock, u.micros = n) ↔ 0 ≤ n ∧ n < yearMicros (lastYear + 1) := by
  constructor
  · rintro ⟨u, rfl⟩
    have hlast := yearMicros_mono (y := u.date.year + 1) (by omega)
      (Nat.add_le_add_right u.date.valid.year_le 1)
    exact ⟨Int.natCast_nonneg _, Int.lt_of_lt_of_le u.year_bounds.2 hlast⟩
  · rintro ⟨h, hn⟩
    obtain ⟨k, rfl⟩ : ∃ k : Nat, n = k := ⟨n.toNat, by omega⟩
    obtain ⟨hsum, hlt, hpos⟩ := yearOfDay_spec (k / microsPerDay)
    have hyear : (yearOfDay (k / microsPerDay)).1 ≤ lastYear := by
      rcases Nat.lt_or_ge lastYear (yearOfDay (k / microsPerDay)).1 with hlate | hle
      · have hmono := yearMicros_mono (y := lastYear + 1) (by omega) hlate
        have hdiv := Nat.div_mul_le_self k microsPerDay
        have hmul := Nat.mul_le_mul_right microsPerDay (Nat.le_of_add_right_le (Nat.le_of_eq hsum))
        simp only [yearMicros] at *
        omega
      · exact hle
    have hrest := hlt
    rw [← total_monthLengths] at hrest
    obtain ⟨i, day, -, hday, hlength⟩ := monthOfDay_spec hrest 1
    have hdate : IsDate (yearOfDay (k / microsPerDay)).1 (i + 1) (day + 1) :=
      ⟨hpos, hyear, Nat.le_add_left 1 day, hlength⟩
    refine ⟨⟨⟨_, _, _, hdate⟩, TimeOfDay.ofMicros (k % microsPerDay)⟩, ?_⟩
    rw [micros, TimeOfDay.micros_ofMicros (Nat.mod_lt _ (by decide)), Date.dayNumber, dayNumber,
      daysBeforeMonth, Nat.add_sub_cancel, Nat.add_sub_cancel, Nat.add_assoc, hday, hsum,
      Nat.div_add_mod']

end FlatJson
