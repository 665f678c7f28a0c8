/-!
# Dates

Dates of the Gregorian calendar in the years 1 to 9999, extended to the years before its
introduction.

* `IsDate` says which years, months and days name a date, and `Date` is one that does.
* `Date.of?_eq_some`: a year, month and day make a date exactly when they are those of one.
-/

namespace FlatJson

/-- The year has a 29 February. -/
def isLeapYear (year : Nat) : Bool := year % 4 == 0 && (year % 100 != 0 || year % 400 == 0)

/-- The lengths of the months of a year. -/
def monthLengths (leap : Bool) : List Nat :=
  [31, if leap then 29 else 28, 31, 30, 31, 30, 31, 31, 30, 31, 30, 31]

/-- The sum of a row of lengths. -/
def total : List Nat → Nat
  | [] => 0
  | length :: more => length + total more

/-- The length of a month, counted from one; zero if there is no such month. -/
def monthLength (year month : Nat) : Nat :=
  match month with
  | 0 => 0
  | m + 1 => (monthLengths (isLeapYear year)).getD m 0

/-- The length of a year. -/
def yearLength (year : Nat) : Nat := if isLeapYear year then 366 else 365

theorem total_monthLengths (year : Nat) :
    total (monthLengths (isLeapYear year)) = yearLength year := by
  unfold yearLength
  cases isLeapYear year <;> rfl

/-- The last year of the calendar. -/
def lastYear : Nat := 9999

/-- A year, month and day that name a date. -/
structure IsDate (year month day : Nat) : Prop where
  /-- Years count from one. -/
  year_pos : 1 ≤ year
  /-- The calendar ends with its last year. -/
  year_le : year ≤ lastYear
  /-- Days count from one. -/
  day_pos : 1 ≤ day
  /-- The month exists and has that many days. -/
  day_le : day ≤ monthLength year month

instance (year month day : Nat) : Decidable (IsDate year month day) :=
  decidable_of_iff (1 ≤ year ∧ year ≤ lastYear ∧ 1 ≤ day ∧ day ≤ monthLength year month)
    ⟨fun ⟨h₁, h₂, h₃, h₄⟩ => ⟨h₁, h₂, h₃, h₄⟩, fun ⟨h₁, h₂, h₃, h₄⟩ => ⟨h₁, h₂, h₃, h₄⟩⟩

/-- A date. -/
structure Date where
  /-- The year, from 1 to 9999. -/
  year : Nat
  /-- The month, from 1 to 12. -/
  month : Nat
  /-- The day of the month, from 1. -/
  day : Nat
  /-- The three name a date. -/
  valid : IsDate year month day

namespace Date

/-- The date of a year, month and day, if there is one. -/
def of? (year month day : Nat) : Option Date :=
  if h : IsDate year month day then some ⟨year, month, day, h⟩ else none

@[ext] theorem ext {d e : Date} (hy : d.year = e.year) (hm : d.month = e.month)
    (hd : d.day = e.day) : d = e := by
  cases d; cases e; simp_all

theorem of?_eq_some {year month day : Nat} {d : Date} :
    of? year month day = some d ↔ d.year = year ∧ d.month = month ∧ d.day = day := by
  unfold of?
  constructor
  · split
    · intro h
      rw [← Option.some.inj h]
      exact ⟨rfl, rfl, rfl⟩
    · intro h
      contradiction
  · rintro ⟨rfl, rfl, rfl⟩
    simp [d.valid]

end Date

end FlatJson
