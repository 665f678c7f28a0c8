import FlatJson.Calendar.Date

/-!
# Day numbers

The days of the calendar are numbered from 1 January of year 1, a Monday, which is day zero.

* `Date.dayNumber` is the number of a date, `Date.ofDayNumber?` the date of a number.
* `Date.ofDayNumber?_eq_some_iff`: the two are inverse to each other.
-/

namespace FlatJson

/-- The number of days from 1 January of year 1 to 1 January of a year. -/
def daysBeforeYear (year : Nat) : Nat :=
  (year - 1) * 365 + (year - 1) / 4 - (year - 1) / 100 + (year - 1) / 400

/-- The number of days of a year before a month. -/
def daysBeforeMonth (year month : Nat) : Nat :=
  total ((monthLengths (isLeapYear year)).take (month - 1))

/-- The day number of a year, month and day. -/
def dayNumber (year month day : Nat) : Nat :=
  daysBeforeYear year + daysBeforeMonth year month + (day - 1)

/-- The year of a day number, and the number of the day in that year from zero. Four hundred years
have 146097 days, and of the centuries in them, the four years' groups in a century and the years
in a group, the last one may be longer by a day. -/
def yearOfDay (n : Nat) : Nat × Nat :=
  let inEra := n % 146097
  let century := min 3 (inEra / 36524)
  let inCentury := inEra - century * 36524
  let inGroup := inCentury % 1461
  let yearInGroup := min 3 (inGroup / 365)
  (400 * (n / 146097) + 100 * century + 4 * (inCentury / 1461) + yearInGroup + 1,
    inGroup - yearInGroup * 365)

/-- The month of a day counted from zero, given the lengths of the months from `month` on, and the
number of the day in that month from zero. -/
def monthOfDay (month : Nat) : List Nat → Nat → Nat × Nat
  | [], n => (month, n)
  | length :: more, n => if n < length then (month, n) else monthOfDay (month + 1) more (n - length)

namespace Date

/-- The number of days from 1 January of year 1. -/
def dayNumber (d : Date) : Nat := FlatJson.dayNumber d.year d.month d.day

/-- The date of a day number, if it is not beyond the last year. -/
def ofDayNumber? (n : Nat) : Option Date :=
  let (year, inYear) := yearOfDay n
  let (month, inMonth) := monthOfDay 1 (monthLengths (isLeapYear year)) inYear
  of? year month (inMonth + 1)

end Date

/-! ### Years -/

/-- The day of a number lies in the year found for it. -/
theorem yearOfDay_spec (n : Nat) :
    daysBeforeYear (yearOfDay n).1 + (yearOfDay n).2 = n ∧
      (yearOfDay n).2 < yearLength (yearOfDay n).1 ∧ 1 ≤ (yearOfDay n).1 := by
  simp only [yearOfDay, daysBeforeYear, Nat.add_sub_cancel]
  have hn : n = 146097 * (n / 146097) + n % 146097 := by omega
  have hr : n % 146097 < 146097 := Nat.mod_lt _ (by decide)
  generalize n / 146097 = era at *
  generalize n % 146097 = r at *
  obtain ⟨c, hc⟩ : ∃ c, c = min 3 (r / 36524) := ⟨_, rfl⟩
  obtain ⟨s, hs⟩ : ∃ s, s = r - c * 36524 := ⟨_, rfl⟩
  rw [← hc, ← hs]
  have hrs : r = c * 36524 + s ∧ s < 36525 ∧ c ≤ 3 ∧ (s = 36524 → c = 3) := by omega
  have hst : s = 1461 * (s / 1461) + s % 1461 := by omega
  have ht : s % 1461 < 1461 := Nat.mod_lt _ (by decide)
  generalize s / 1461 = g at *
  generalize s % 1461 = t at *
  obtain ⟨y, hy⟩ : ∃ y, y = min 3 (t / 365) := ⟨_, rfl⟩
  obtain ⟨d, hd⟩ : ∃ d, d = t - y * 365 := ⟨_, rfl⟩
  rw [← hy, ← hd]
  have hty : t = y * 365 + d ∧ d < 366 ∧ y ≤ 3 ∧ (d = 365 → y = 3) := by omega
  clear hc hs hy hd
  have h4 : (400 * era + 100 * c + 4 * g + y) / 4 = 100 * era + 25 * c + g := by omega
  have h100 : (400 * era + 100 * c + 4 * g + y) / 100 = 4 * era + c := by omega
  have h400 : (400 * era + 100 * c + 4 * g + y) / 400 = era := by omega
  rw [h4, h100, h400]
  refine ⟨by omega, ?_, by omega⟩
  simp only [yearLength]
  split
  · omega
  · rename_i hl
    simp only [isLeapYear, Bool.and_eq_true, Bool.or_eq_true, beq_iff_eq, bne_iff_ne, ne_eq] at hl
    omega

/-- A quotient goes up by one at the multiples of the divisor. -/
theorem div_eq_pred_div (y k : Nat) (hy : 1 ≤ y) :
    y / k = (y - 1) / k + if y % k = 0 then 1 else 0 := by
  obtain ⟨x, rfl⟩ : ∃ x, y = x + 1 := ⟨y - 1, by omega⟩
  rw [Nat.add_sub_cancel, Nat.succ_div]
  simp [Nat.dvd_iff_mod_eq_zero]

/-- A year is as long as the distance to the next one. -/
theorem daysBeforeYear_succ {y : Nat} (hy : 1 ≤ y) :
    daysBeforeYear (y + 1) = daysBeforeYear y + yearLength y := by
  have h4 := div_eq_pred_div y 4 hy
  have h100 := div_eq_pred_div y 100 hy
  have h400 := div_eq_pred_div y 400 hy
  have m100 : y % 100 = 0 → y % 4 = 0 := by omega
  have m400 : y % 400 = 0 → y % 100 = 0 := by omega
  have le : (y - 1) / 100 ≤ (y - 1) / 4 := by omega
  simp only [daysBeforeYear, yearLength, Nat.add_sub_cancel, h4, h100, h400, isLeapYear]
  generalize (y - 1) / 4 = a at *
  generalize (y - 1) / 100 = b at *
  generalize (y - 1) / 400 = c at *
  by_cases d4 : y % 4 = 0 <;> by_cases d100 : y % 100 = 0 <;> by_cases d400 : y % 400 = 0 <;>
    simp [d4, d100, d400] at m100 m400 ⊢ <;> omega

/-- A year ends before every later year begins. -/
theorem daysBeforeYear_add_le {y z : Nat} (hy : 1 ≤ y) (h : y < z) :
    daysBeforeYear y + yearLength y ≤ daysBeforeYear z := by
  induction z with
  | zero => omega
  | succ z ih =>
    rcases Nat.lt_succ_iff_lt_or_eq.1 h with hlt | rfl
    · rw [daysBeforeYear_succ (by omega)]
      have := ih hlt
      omega
    · exact Nat.le_of_eq (daysBeforeYear_succ hy).symm

/-- The year of a day is the one that has it. -/
theorem yearOfDay_eq {y r : Nat} (hy : 1 ≤ y) (hr : r < yearLength y) :
    yearOfDay (daysBeforeYear y + r) = (y, r) := by
  obtain ⟨hsum, hlt, hpos⟩ := yearOfDay_spec (daysBeforeYear y + r)
  rcases Nat.lt_trichotomy (yearOfDay (daysBeforeYear y + r)).1 y with h | h | h
  · have := daysBeforeYear_add_le hpos h
    omega
  · rw [h] at hsum
    exact Prod.ext h (by omega)
  · have := daysBeforeYear_add_le hy h
    omega

/-! ### Months -/

theorem monthOfDay_spec {lengths : List Nat} {n : Nat} (h : n < total lengths) (first : Nat) :
    ∃ i k, monthOfDay first lengths n = (first + i, k) ∧ total (lengths.take i) + k = n ∧
      k < lengths.getD i 0 := by
  induction lengths generalizing n first with
  | nil => simp [total] at h
  | cons length more ih =>
    rw [total] at h
    unfold monthOfDay
    split
    · exact ⟨0, n, rfl, Nat.zero_add n, by simpa⟩
    · obtain ⟨i, k, hm, hsum, hk⟩ := ih (n := n - length) (by omega) (first + 1)
      refine ⟨i + 1, k, by rw [hm, Nat.add_assoc, Nat.add_comm 1], ?_, by simpa using hk⟩
      rw [List.take_succ_cons, total]
      omega

theorem monthOfDay_eq {lengths : List Nat} {i k : Nat} (h : k < lengths.getD i 0) (first : Nat) :
    monthOfDay first lengths (total (lengths.take i) + k) = (first + i, k) := by
  induction lengths generalizing i first with
  | nil => simp at h
  | cons length more ih =>
    unfold monthOfDay
    cases i with
    | zero =>
      have hk : k < length := by simpa using h
      simp [hk, total]
    | succ i =>
      rw [List.take_succ_cons, total, if_neg (by omega), Nat.add_assoc,
        Nat.add_sub_cancel_left, ih (by simpa using h), Nat.add_assoc, Nat.add_comm 1]

theorem total_take_add_getD_le (lengths : List Nat) (i : Nat) :
    total (lengths.take i) + lengths.getD i 0 ≤ total lengths := by
  induction lengths generalizing i with
  | nil => simp
  | cons length more ih =>
    cases i with
    | zero => simp [total]
    | succ i =>
      have := ih i
      simp only [List.take_succ_cons, total, List.getD_cons_succ]
      omega

/-! ### Dates -/

namespace Date

/-- A month of a date exists, and its length is found in the row of months. -/
theorem day_le_getD (d : Date) :
    1 ≤ d.month ∧ d.day ≤ (monthLengths (isLeapYear d.year)).getD (d.month - 1) 0 := by
  have hpos := d.valid.day_pos
  have hle := d.valid.day_le
  revert hle
  cases d.month with
  | zero => simp only [monthLength]; omega
  | succ m => simp [monthLength]

theorem ofDayNumber?_dayNumber (d : Date) : ofDayNumber? d.dayNumber = some d := by
  obtain ⟨hm, hd⟩ := d.day_le_getD
  have hpos := d.valid.day_pos
  have hlt : daysBeforeMonth d.year d.month + (d.day - 1) < yearLength d.year := by
    have := total_take_add_getD_le (monthLengths (isLeapYear d.year)) (d.month - 1)
    rw [total_monthLengths] at this
    unfold daysBeforeMonth
    omega
  have hy := yearOfDay_eq d.valid.year_pos hlt
  have hmonth : monthOfDay 1 (monthLengths (isLeapYear d.year))
      (daysBeforeMonth d.year d.month + (d.day - 1)) = (1 + (d.month - 1), d.day - 1) :=
    monthOfDay_eq (by omega) 1
  rw [← Nat.add_assoc] at hy
  simp only [ofDayNumber?, dayNumber, FlatJson.dayNumber, hy, hmonth, of?_eq_some, true_and]
  exact ⟨by omega, by omega⟩

/-- A day number is that of its date. -/
theorem ofDayNumber?_eq_some_iff {n : Nat} {d : Date} :
    ofDayNumber? n = some d ↔ d.dayNumber = n := by
  constructor
  · intro h
    obtain ⟨hsum, hlt, -⟩ := yearOfDay_spec n
    rw [← total_monthLengths] at hlt
    obtain ⟨i, k, hm, hk, -⟩ := monthOfDay_spec hlt 1
    simp only [ofDayNumber?, hm, of?_eq_some] at h
    obtain ⟨hyear, hmonth, hday⟩ := h
    simp only [dayNumber, FlatJson.dayNumber, daysBeforeMonth, hyear, hmonth, hday,
      Nat.add_sub_cancel, Nat.add_sub_cancel_left]
    omega
  · rintro rfl
    exact d.ofDayNumber?_dayNumber

end Date

end FlatJson
