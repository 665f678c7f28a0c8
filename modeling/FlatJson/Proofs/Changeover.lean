import FlatJson.Proofs.Weekday

/-!
# Changeovers

A rule of a zone is looked at one year at a time, the year of universal time. That is enough if both
changeovers keep away from the turn of the year, and the end of daylight time does not come twice if
it also keeps away from the start.

* `Daylight.IsRegular` is what the numbers of a rule have to be for that, and
  `Daylight.isSettled_of_isRegular` says what it means for the changeovers of all years.
* `IsOrderly.holdsAt_iff_isOn`: daylight time is in force when the next changeover ends it.
* `IsSettled.straddles_iff`: two instants that are as far apart as the wall clock is turned back lie
  on the two sides of an end of daylight time.
-/

namespace FlatJson

/-! ### Changeovers of one year -/

namespace Changeover

/-- A changeover that is well inside of every year: in a month that is neither the first nor the
last one, at a time of its day. -/
structure IsInside (c : Changeover) : Prop where
  month_ge : 2 ≤ c.month
  month_le : c.month ≤ 11
  seconds_nonneg : 0 ≤ c.seconds
  seconds_le : c.seconds ≤ 86400

instance (c : Changeover) : Decidable c.IsInside :=
  decidable_of_iff (2 ≤ c.month ∧ c.month ≤ 11 ∧ 0 ≤ c.seconds ∧ c.seconds ≤ 86400)
    ⟨fun ⟨h₁, h₂, h₃, h₄⟩ => ⟨h₁, h₂, h₃, h₄⟩, fun ⟨h₁, h₂, h₃, h₄⟩ => ⟨h₁, h₂, h₃, h₄⟩⟩

/-- The month of a changeover in microseconds from the beginning of the calendar. -/
theorem microsIn_bounds {c : Changeover} (h : c.IsInside) (year : Nat) :
    ((daysBeforeYear year + daysBeforeMonth year c.month) * microsPerDay : Nat) ≤ c.microsIn year ∧
      c.microsIn year ≤ ((daysBeforeYear year + daysBeforeMonth year c.month +
        monthLength year c.month) * microsPerDay : Nat) := by
  have hday := (isDay_dayIn c year).pos
  have hday' := (isDay_dayIn c year).le
  have hnonneg := h.seconds_nonneg
  have hle := h.seconds_le
  simp only [microsIn, dayNumber, microsPerDay]
  constructor <;> omega

/-- On any wall clock a changeover is two days away from the turn of the year. -/
theorem IsInside.far_from_turn {c : Changeover} (h : c.IsInside) (o : UtcOffset) {y : Nat}
    (hy : 1 ≤ y) : yearMicros y + 2 * microsPerDay ≤ c.microsIn y - o.micros ∧
      c.microsIn y - o.micros + 2 * microsPerDay ≤ yearMicros (y + 1) := by
  have hbounds := microsIn_bounds h y
  have hmonth := @month_bounds y _ h.month_ge h.month_le
  have hgt := o.gt
  have hlt := o.lt
  rw [yearMicros_succ hy]
  simp only [yearMicros, UtcOffset.micros, microsPerDay] at *
  constructor <;> omega

/-- Changeovers in months that are not neighbours are two days apart, whatever their wall
clocks. -/
theorem IsInside.far_apart {c c' : Changeover} (h : c.IsInside) (h' : c'.IsInside)
    (hmonths : c.month + 2 ≤ c'.month) (o o' : UtcOffset) (y : Nat) :
    c.microsIn y - o.micros + 2 * microsPerDay ≤ c'.microsIn y - o'.micros := by
  have hupper := (microsIn_bounds h y).2
  have hlower := (microsIn_bounds h' y).1
  have hge := h.month_ge
  have hle := h'.month_le
  have hdays := @months_apart y _ _ (by omega) hmonths (by omega)
  have hgt := o.gt
  have hlt := o'.lt
  simp only [UtcOffset.micros, microsPerDay] at *
  omega

end Changeover

namespace Daylight

variable {d : Daylight} {standard : UtcOffset}

/-- How much daylight time is ahead of standard time. -/
def lead (d : Daylight) (standard : UtcOffset) : Int := d.offset.micros - standard.micros

/-- The instant at which daylight time starts in a year. -/
def startAt (d : Daylight) (standard : UtcOffset) (year : Nat) : Int :=
  (d.boundsIn standard year).1

/-- The instant at which daylight time stops in a year. -/
def stopAt (d : Daylight) (standard : UtcOffset) (year : Nat) : Int :=
  (d.boundsIn standard year).2

/-- Daylight time starts and stops inside of every year, in the same order every year. -/
structure IsOrderly (d : Daylight) (standard : UtcOffset) : Prop where
  start_inside : ∀ y, 1 ≤ y → yearMicros y ≤ d.startAt standard y ∧
    d.startAt standard y < yearMicros (y + 1)
  stop_inside : ∀ y, 1 ≤ y → yearMicros y ≤ d.stopAt standard y ∧
    d.stopAt standard y < yearMicros (y + 1)
  ordered : (∀ y, 1 ≤ y → d.startAt standard y < d.stopAt standard y) ∨
    ∀ y, 1 ≤ y → d.stopAt standard y < d.startAt standard y

/-- Daylight time is ahead of standard time, and its end is farther than that from the turn of the
year and from its start. -/
structure IsSettled (d : Daylight) (standard : UtcOffset) : Prop
    extends d.IsOrderly standard where
  lead_pos : 0 < d.lead standard
  stop_far : ∀ y, 1 ≤ y → yearMicros y + d.lead standard ≤ d.stopAt standard y ∧
    d.stopAt standard y + d.lead standard ≤ yearMicros (y + 1)
  apart : ∀ y, 1 ≤ y → d.startAt standard y + d.lead standard ≤ d.stopAt standard y ∨
    d.stopAt standard y + d.lead standard ≤ d.startAt standard y

/-- The numbers of the rule show that the changeovers keep away from the turn of the year and from
each other. -/
structure IsRegular (d : Daylight) (standard : UtcOffset) : Prop where
  ahead : standard.seconds < d.offset.seconds
  start : d.start.IsInside
  stop : d.stop.IsInside
  months : d.start.month + 2 ≤ d.stop.month ∨ d.stop.month + 2 ≤ d.start.month

instance (d : Daylight) (standard : UtcOffset) : Decidable (d.IsRegular standard) :=
  decidable_of_iff (standard.seconds < d.offset.seconds ∧ d.start.IsInside ∧ d.stop.IsInside ∧
      (d.start.month + 2 ≤ d.stop.month ∨ d.stop.month + 2 ≤ d.start.month))
    ⟨fun ⟨h₁, h₂, h₃, h₄⟩ => ⟨h₁, h₂, h₃, h₄⟩, fun ⟨h₁, h₂, h₃, h₄⟩ => ⟨h₁, h₂, h₃, h₄⟩⟩

theorem isSettled_of_isRegular (h : d.IsRegular standard) : d.IsSettled standard := by
  have hlead : 0 < d.lead standard ∧ d.lead standard < 2 * microsPerDay := by
    have hahead := h.ahead
    have hgt := standard.gt
    have hlt := d.offset.lt
    simp only [lead, UtcOffset.micros, microsPerDay]
    constructor <;> omega
  have hstart {y : Nat} (hy : 1 ≤ y) : yearMicros y + 2 * microsPerDay ≤ d.startAt standard y ∧
      d.startAt standard y + 2 * microsPerDay ≤ yearMicros (y + 1) :=
    h.start.far_from_turn standard hy
  have hstop {y : Nat} (hy : 1 ≤ y) : yearMicros y + 2 * microsPerDay ≤ d.stopAt standard y ∧
      d.stopAt standard y + 2 * microsPerDay ≤ yearMicros (y + 1) :=
    h.stop.far_from_turn d.offset hy
  have hordered : (∀ y, d.startAt standard y + 2 * microsPerDay ≤ d.stopAt standard y) ∨
      ∀ y, d.stopAt standard y + 2 * microsPerDay ≤ d.startAt standard y :=
    h.months.imp (fun hmonths => h.start.far_apart h.stop hmonths standard d.offset)
      fun hmonths => h.stop.far_apart h.start hmonths d.offset standard
  constructor
  case lead_pos => exact hlead.1
  case stop_far =>
    intro y hy
    have := hstop hy
    constructor <;> omega
  case apart =>
    intro y _
    refine hordered.imp (fun hle => ?_) (fun hle => ?_) <;>
    · have := hle y
      omega
  case toIsOrderly =>
    constructor
    case start_inside =>
      intro y hy
      have := hstart hy
      constructor <;> omega
    case stop_inside =>
      intro y hy
      have := hstop hy
      constructor <;> omega
    case ordered =>
      refine hordered.imp (fun hle y _ => ?_) (fun hle y _ => ?_) <;>
      · have := hle y
        omega

/-! ### Daylight time -/

/-- Daylight time is in force at a time of the calendar: the next changeover is its end. It starts
on the wall clock of standard time and ends on its own. -/
def IsOn (d : Daylight) (standard : UtcOffset) (n : Int) : Prop :=
  ∃ stop, d.stop.FallsOn d.offset stop ∧ n < stop ∧
    ∀ start, d.start.FallsOn standard start → n < start → stop < start

theorem isOn_iff {n : Int} : d.IsOn standard n ↔ ∃ y, 1 ≤ y ∧ n < d.stopAt standard y ∧
    ∀ y', 1 ≤ y' → n < d.startAt standard y' → d.stopAt standard y < d.startAt standard y' := by
  simp only [IsOn, Changeover.fallsOn_iff]
  constructor
  · rintro ⟨_, ⟨y, hy, rfl⟩, huntil, hnext⟩
    exact ⟨y, hy, huntil, fun y' hy' => hnext _ ⟨y', hy', rfl⟩⟩
  · rintro ⟨y, hy, huntil, hnext⟩
    refine ⟨_, ⟨y, hy, rfl⟩, huntil, ?_⟩
    rintro _ ⟨y', hy', rfl⟩
    exact hnext y' hy'

theorem holdsAt_iff_of_lt {u : Clock}
    (h : d.startAt standard u.date.year < d.stopAt standard u.date.year) :
    d.holdsAt standard u = true ↔
      d.startAt standard u.date.year ≤ u.micros ∧ u.micros < d.stopAt standard u.date.year := by
  simp only [startAt, stopAt] at *
  simp only [holdsAt]
  rw [if_pos h]
  simp

theorem holdsAt_iff_of_ge {u : Clock}
    (h : d.stopAt standard u.date.year ≤ d.startAt standard u.date.year) :
    d.holdsAt standard u = true ↔
      u.micros < d.stopAt standard u.date.year ∨ d.startAt standard u.date.year ≤ u.micros := by
  simp only [startAt, stopAt] at *
  simp only [holdsAt]
  rw [if_neg (by omega)]
  simp

section
variable (h : d.IsOrderly standard)
include h

/-- The changeovers of earlier years are over. -/
theorem IsOrderly.past {u : Clock} {z : Nat} (hz : 1 ≤ z) (hlt : z < u.date.year) :
    d.startAt standard z < u.micros ∧ d.stopAt standard z < u.micros := by
  have hyear := yearMicros_mono (y := z + 1) (by omega) hlt
  have hu := u.year_bounds
  have hstart := h.start_inside z hz
  have hstop := h.stop_inside z hz
  constructor <;> omega

/-- The changeovers of later years come after the turn of the year. -/
theorem IsOrderly.future {y z : Nat} (hy : 1 ≤ y) (hlt : y < z) :
    yearMicros (y + 1) ≤ d.startAt standard z ∧ yearMicros (y + 1) ≤ d.stopAt standard z := by
  have hyear := yearMicros_mono (y := y + 1) (by omega) hlt
  have hstart := h.start_inside z (by omega)
  have hstop := h.stop_inside z (by omega)
  constructor <;> omega

/-- Where daylight time starts before it stops, it lasts from the one to the other. -/
theorem IsOrderly.isOn_iff_of_lt (hlt : ∀ y, 1 ≤ y → d.startAt standard y < d.stopAt standard y)
    (u : Clock) : d.IsOn standard u.micros ↔
      d.startAt standard u.date.year ≤ u.micros ∧ u.micros < d.stopAt standard u.date.year := by
  have hpos := u.date.valid.year_pos
  have hu := u.year_bounds
  rw [isOn_iff]
  constructor
  · rintro ⟨z, hz, huntil, hnext⟩
    rcases Nat.lt_trichotomy z u.date.year with hzy | rfl | hzy
    · have := h.past hz hzy
      omega
    · have := hlt _ hpos
      have := hnext _ hpos
      omega
    · -- the start of the year of `z` is still to come, and it is before the end
      have hstart := h.start_inside z hz
      have hyear := h.future hpos hzy
      have := hlt z hz
      have := hnext z hz (by omega)
      omega
  · rintro ⟨hfrom, huntil⟩
    refine ⟨_, hpos, huntil, fun z hz hnext => ?_⟩
    have hstop := h.stop_inside _ hpos
    rcases Nat.lt_trichotomy z u.date.year with hzy | rfl | hzy
    · have := h.past hz hzy
      omega
    · omega
    · have := h.future hpos hzy
      omega

/-- Where daylight time stops before it starts, it lasts over the turn of the year. -/
theorem IsOrderly.isOn_iff_of_gt (hgt : ∀ y, 1 ≤ y → d.stopAt standard y < d.startAt standard y)
    (u : Clock) : d.IsOn standard u.micros ↔
      u.micros < d.stopAt standard u.date.year ∨ d.startAt standard u.date.year ≤ u.micros := by
  have hpos := u.date.valid.year_pos
  have hu := u.year_bounds
  have hstart := h.start_inside _ hpos
  have hstop := h.stop_inside _ hpos
  rw [isOn_iff]
  constructor
  · rintro ⟨z, hz, huntil, hnext⟩
    have hthis := hnext _ hpos
    rcases Nat.lt_trichotomy z u.date.year with hzy | rfl | hzy
    · have := h.past hz hzy
      omega
    · omega
    · have := h.future hpos hzy
      omega
  · rintro (huntil | hfrom)
    · refine ⟨_, hpos, huntil, fun z hz hnext => ?_⟩
      rcases Nat.lt_trichotomy z u.date.year with hzy | rfl | hzy
      · have := h.past hz hzy
        omega
      · exact hgt _ hpos
      · have := h.future hpos hzy
        omega
    · -- the end is that of the next year
      have hstop' := h.stop_inside (u.date.year + 1) (by omega)
      refine ⟨u.date.year + 1, by omega, by omega, fun z hz hnext => ?_⟩
      rcases Nat.lt_trichotomy z (u.date.year + 1) with hzy | rfl | hzy
      · rcases Nat.lt_or_eq_of_le (Nat.le_of_lt_succ hzy) with hzy' | rfl
        · have := h.past hz hzy'
          omega
        · omega
      · exact hgt _ hz
      · have := h.future (y := u.date.year + 1) (by omega) hzy
        omega

/-- **The year of universal time is enough.** The rule of one year tells whether daylight time is in
force. -/
theorem IsOrderly.holdsAt_iff_isOn (u : Clock) :
    d.holdsAt standard u = true ↔ d.IsOn standard u.micros := by
  have hpos := u.date.valid.year_pos
  rcases h.ordered with hlt | hgt
  · rw [h.isOn_iff_of_lt hlt]
    exact holdsAt_iff_of_lt (hlt _ hpos)
  · rw [h.isOn_iff_of_gt hgt]
    exact holdsAt_iff_of_ge (Int.le_of_lt (hgt _ hpos))

/-- Between the ends of two years there is a start. -/
theorem IsOrderly.exists_start_between {y z : Nat} (hy : 1 ≤ y) (hlt : y < z) :
    ∃ x, 1 ≤ x ∧ d.stopAt standard y < d.startAt standard x ∧
      d.startAt standard x < d.stopAt standard z := by
  have hz : 1 ≤ z := by omega
  have hyear := h.future hy hlt
  have hstop := h.stop_inside y hy
  have hstart := h.start_inside y hy
  rcases h.ordered with hltz | hgt
  · have := hltz z hz
    exact ⟨z, hz, by omega, this⟩
  · have := hgt y hy
    exact ⟨y, hy, this, by omega⟩

end

section
variable (h : d.IsSettled standard)
include h

/-- An end is far from the starts of all years. -/
theorem IsSettled.start_far {y z : Nat} (hy : 1 ≤ y) (hz : 1 ≤ z) :
    d.startAt standard z + d.lead standard ≤ d.stopAt standard y ∨
      d.stopAt standard y + d.lead standard ≤ d.startAt standard z := by
  have hstop := h.stop_far y hy
  rcases Nat.lt_trichotomy z y with hlt | rfl | hlt
  · have hyear := yearMicros_mono (y := z + 1) (by omega) hlt
    have hstart := h.start_inside z hz
    omega
  · exact h.apart _ hz
  · have hyear := h.future hy hlt
    omega

/-- Two instants that are the lead of daylight time apart lie on the two sides of an end when the
later one comes less than that after the end. -/
theorem IsSettled.straddles_iff {n : Int} :
    (d.IsOn standard n ∧ ¬ d.IsOn standard (n + d.lead standard)) ↔
      ∃ y, 1 ≤ y ∧ n < d.stopAt standard y ∧ d.stopAt standard y ≤ n + d.lead standard := by
  have hlead := h.lead_pos
  rw [isOn_iff, isOn_iff]
  constructor
  · rintro ⟨⟨y, hy, huntil, hnext⟩, hoff⟩
    refine ⟨y, hy, huntil, Int.not_lt.1 fun hlater => hoff ?_⟩
    exact ⟨y, hy, hlater, fun z hz hlt => hnext z hz (by omega)⟩
  · rintro ⟨y, hy, huntil, hle⟩
    constructor
    · refine ⟨y, hy, huntil, fun z hz hlt => ?_⟩
      have := h.start_far hy hz
      omega
    · -- the next end is that of a later year, and a start comes before it
      rintro ⟨z, hz, hlater, hnext⟩
      have hyz : y < z := by
        have hstop := h.stop_inside y hy
        have hstop' := h.stop_inside z hz
        rcases Nat.lt_trichotomy y z with hlt | rfl | hlt
        · exact hlt
        · omega
        · have := h.future hz hlt
          omega
      obtain ⟨x, hx, hafter, hbefore⟩ := h.exists_start_between hy hyz
      have hfar := h.start_far hy hx
      have := hnext x hx (by omega)
      omega

/-- The end that a wall clock comes less than the lead after is that of its year. -/
theorem IsSettled.exists_stop_iff (v : Clock) :
    (∃ y, 1 ≤ y ∧ v.micros < d.stopAt standard y + d.lead standard ∧
      d.stopAt standard y ≤ v.micros) ↔
        d.stopAt standard v.date.year ≤ v.micros ∧
          v.micros < d.stopAt standard v.date.year + d.lead standard := by
  have hv := v.year_bounds
  constructor
  · rintro ⟨y, hy, hlt, hle⟩
    have hstop := h.stop_far y hy
    rcases Nat.lt_trichotomy y v.date.year with hyear | rfl | hyear
    · have := yearMicros_mono (y := y + 1) (by omega) hyear
      omega
    · exact ⟨hle, hlt⟩
    · have := h.future v.date.valid.year_pos hyear
      omega
  · rintro ⟨hle, hlt⟩
    exact ⟨_, v.date.valid.year_pos, hlt, hle⟩

end

end Daylight

end FlatJson
