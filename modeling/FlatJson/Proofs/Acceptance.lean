import FlatJson.Proofs.Environment
import FlatJson.Proofs.Instant
import FlatJson.Proofs.Omitted
import FlatJson.Zone.Posix

/-!
# Which timestamps are accepted

A timestamp is refused for its form, then for the zone in which it is to be shown, then for what it
says, and for nothing else.

* `Timestamp.InRange` is what must hold of the fields, the instant and the wall clock on which it is
  shown, and `Timestamp.inRange_iff` says that this is what the conversion needs.
* `ZoneDatabase.Names` is the zone that a name stands for, `ZoneDatabase.IsUnknown` says that there
  is none. Of a database it may be assumed that it `OnlyRefuses`.
* `Session.ZoneInUse` is the zone of an operation, `Session.ShowsAt` the destination that it leads
  to.
* `Session.run_zone_eq_iff`: how the look-up of a zone ends.
* `Session.timestamp_outcome`: which texts are accepted, and for what reason others are not.
-/

namespace FlatJson

/-! ### Digits -/

/-- A row of digits stands for less than the next power of ten. -/
theorem digitsValue_lt (t : Text) : digitsValue t < 10 ^ t.length := by
  -- the value is built from the first digit on, so the induction splits off the last one
  induction hlength : t.length generalizing t with
  | zero =>
    rw [List.length_eq_zero_iff.1 hlength]
    decide
  | succ n ih =>
    rcases List.eq_nil_or_concat t with rfl | ⟨front, c, rfl⟩
    · contradiction
    · rw [List.concat_eq_append, List.length_append] at *
      have hfront := ih front (by simpa using hlength)
      have hdigit : (digitValue? c).getD 0 < 10 := by
        cases hc : digitValue? c with
        | none => decide
        | some d => exact digitValue?_lt hc
      rw [digitsValue_append_singleton, Nat.pow_succ]
      omega

/-- A fraction is less than a second. -/
theorem IsFraction.lt {t : Text} {n : Nat} (h : IsFraction t n) : n < 1000000000 := by
  cases h with
  | absent => decide
  | @digits row width n h one_le le_nine =>
    have hrow := digitsValue_lt row
    rw [h.value, h.length] at hrow
    have hpos : 0 < 10 ^ (9 - width) := Nat.pow_pos (by decide)
    calc n * Nat.pow 10 (9 - width)
        < 10 ^ width * 10 ^ (9 - width) := Nat.mul_lt_mul_of_pos_right hrow hpos
      _ = 1000000000 := by rw [← Nat.pow_add, Nat.add_sub_cancel' le_nine]

theorem Timestamp.IsSpelling.nanos_lt {w : Timestamp} {t : Text} (h : w.IsSpelling t) :
    w.nanos < 1000000000 := by
  cases h with
  | parts _ _ _ _ _ _ _ hfraction => exact hfraction.lt

/-! ### Ranges -/

/-- The microsecond, counted from the beginning of year 1, is in the years of the calendar. -/
def OnCalendar (n : Int) : Prop := 0 ≤ n ∧ n < yearMicros (lastYear + 1)

namespace Timestamp

/-- What a timestamp says can be shown at a destination. -/
structure InRange (w : Timestamp) (d : Destination) : Prop where
  /-- The year, month and day name a date. -/
  date : IsDate w.year w.month w.day
  /-- The hour is one of a day. -/
  hour : w.hour ≤ 23
  /-- The minute is one of an hour. -/
  minute : w.minute ≤ 59
  /-- The second is one of a minute. -/
  second : w.second ≤ 59
  /-- The offset is less than a day. -/
  offset : w.offsetMinutes.natAbs < 24 * 60
  /-- The instant is on the calendar. -/
  instant : OnCalendar (w.nanosAt / 1000)
  /-- So is the wall clock of the destination at the instant. -/
  wall : ∃ u : Clock, u.micros = w.nanosAt / 1000 ∧
    OnCalendar (u.micros + ((d.zoneAt u).offsetAt u).micros)

variable {w : Timestamp}

/-- The written wall clock exists if its fields are in range. -/
theorem exists_clock?_iff (hnanos : w.nanos < 1000000000) : (∃ c, w.clock? = some c) ↔
    IsDate w.year w.month w.day ∧ w.hour ≤ 23 ∧ w.minute ≤ 59 ∧ w.second ≤ 59 := by
  constructor
  · rintro ⟨c, hc⟩
    obtain ⟨⟨hyear, hmonth, hday⟩, hhour, hminute, hsecond, -⟩ := clock?_eq_some_iff.1 hc
    rw [← hyear, ← hmonth, ← hday, ← hhour, ← hminute, ← hsecond]
    exact ⟨c.date.valid, Nat.le_of_lt_succ c.time.hour_lt, Nat.le_of_lt_succ c.time.minute_lt,
      Nat.le_of_lt_succ c.time.second_lt⟩
  · rintro ⟨hdate, hhour, hminute, hsecond⟩
    let time : TimeOfDay := ⟨w.hour, w.minute, w.second, w.nanos / 1000, Nat.lt_succ_of_le hhour,
      Nat.lt_succ_of_le hminute, Nat.lt_succ_of_le hsecond, by omega⟩
    exact ⟨⟨⟨w.year, w.month, w.day, hdate⟩, time⟩,
      clock?_eq_some_iff.2 ⟨⟨rfl, rfl, rfl⟩, rfl, rfl, rfl, rfl⟩⟩

/-- The written offset exists if it is less than a day. -/
theorem exists_offset_iff :
    (∃ o : UtcOffset, o.seconds = w.offsetMinutes * 60) ↔ w.offsetMinutes.natAbs < 24 * 60 := by
  constructor
  · rintro ⟨o, ho⟩
    have := o.gt
    have := o.lt
    omega
  · intro h
    exact ⟨⟨w.offsetMinutes * 60, by omega, by omega⟩, rfl⟩

/-- A timestamp is shown when it is one of universal time and the wall clock of the destination
exists. -/
theorem exists_showAt?_iff {d : Destination} : (∃ m, w.showAt? d = some m) ↔
    ∃ u, w.utc? = some u ∧
      ∃ v : Clock, v.micros = u.micros + ((d.zoneAt u).offsetAt u).micros := by
  simp only [showAt?, bind, Option.bind_eq_some_iff, Zone.show?_eq_some_iff]
  constructor
  · rintro ⟨m, u, hu, -, hm⟩
    exact ⟨u, hu, m.clock, hm⟩
  · rintro ⟨u, hu, v, hv⟩
    exact ⟨⟨_, v⟩, u, hu, rfl, hv⟩

/-- The conversion succeeds when what is written is in range. -/
theorem inRange_iff {d : Destination} (hnanos : w.nanos < 1000000000) :
    w.InRange d ↔ ∃ m, w.showAt? d = some m := by
  rw [exists_showAt?_iff]
  constructor
  · rintro ⟨hdate, hhour, hminute, hsecond, hoffset, hinstant, u, hu, hwall⟩
    obtain ⟨c, hc⟩ := (exists_clock?_iff hnanos).2 ⟨hdate, hhour, hminute, hsecond⟩
    obtain ⟨o, ho⟩ := exists_offset_iff.2 hoffset
    refine ⟨u, utc?_eq_some_iff.2 ⟨c, o, hc, ho, ?_⟩, Clock.exists_micros_iff.2 hwall⟩
    rw [hu, micros_sub_eq hc ho]
  · rintro ⟨u, hutc, hwall⟩
    have hu := micros_of_utc? hutc
    obtain ⟨c, o, hc, ho, -⟩ := utc?_eq_some_iff.1 hutc
    obtain ⟨hdate, hhour, hminute, hsecond⟩ := (exists_clock?_iff hnanos).1 ⟨c, hc⟩
    refine ⟨hdate, hhour, hminute, hsecond, exists_offset_iff.1 ⟨o, ho⟩, ?_, u, hu, ?_⟩
    · exact Clock.exists_micros_iff.1 ⟨u, hu⟩
    · exact Clock.exists_micros_iff.1 hwall

/-- A text that is written as a timestamp is accepted if what it says is in range. -/
theorem IsSpelling.parseTimestamp {t : Text} (hw : w.IsSpelling t) (d : Destination) :
    (w.InRange d ∧ ∃ m, parseTimestamp t d = .ok m) ∨
      (¬w.InRange d ∧ parseTimestamp t d = .error (.malformedTimestamp t .range)) := by
  rw [inRange_iff hw.nanos_lt, FlatJson.parseTimestamp, read?_eq_some_iff.2 hw]
  cases hshow : w.showAt? d <;> simp [hshow]

end Timestamp

/-! ### Names of zones -/

/-- The name is one of universal time, in any case. -/
def NamesUtc (name : String) : Prop := name.toUpper ∈ ["UTC", "Z", "ZULU", "ETC/UTC"]

namespace ZoneDatabase

/-- The zone that a name stands for. -/
inductive Names (zones : ZoneDatabase) (name : String) : Zone → Prop where
  /-- The names of universal time are the same for every database. -/
  | utc (h : NamesUtc name) : Names zones name .utc
  /-- For any other name the database has a zone. -/
  | listed {clock : ZoneClock} (h : ¬NamesUtc name) (hclock : zones name = .found clock) :
      Names zones name (.named name clock)

/-- The name does not stand for a zone. -/
structure IsUnknown (zones : ZoneDatabase) (name : String) : Prop where
  /-- It is not one of universal time. -/
  not_utc : ¬NamesUtc name
  /-- The database refuses it. -/
  refused : zones name = .refused

/-- The database is asked for the name and fails. -/
structure FailsOn (zones : ZoneDatabase) (name : String) : Prop where
  /-- The name is not one of universal time. -/
  not_utc : ¬NamesUtc name
  /-- The database neither finds nor refuses it. -/
  failed : zones name = .failed

/-- The database has a zone for a name or refuses it, and does not fail in another way. -/
def OnlyRefuses (zones : ZoneDatabase) : Prop := ∀ name, zones name ≠ .failed

/-- A database of rules does not fail. -/
theorem onlyRefuses_ruledZones : OnlyRefuses ruledZones := by
  intro name
  unfold ruledZones
  split <;> simp

end ZoneDatabase

namespace Zone

variable {zones : ZoneDatabase} {name : String}

theorem ofName_utc (zones : ZoneDatabase) (h : NamesUtc name) : ofName zones name = .ok .utc :=
  if_pos h

theorem ofName_other (h : ¬NamesUtc name) : ofName zones name =
    match zones name with
    | .found clock => .ok (.named name clock)
    | .refused => .error (.unknownZone name)
    | .failed => .error (.zoneFailure name) :=
  if_neg h

/-- The zone that is found is the one that the name stands for. -/
theorem ofName_eq_ok_iff {z : Zone} : ofName zones name = .ok z ↔ zones.Names name z := by
  constructor
  · intro h
    by_cases hutc : NamesUtc name
    · rw [ofName_utc zones hutc] at h
      obtain rfl := Except.ok.inj h
      exact .utc hutc
    · rw [ofName_other hutc] at h
      split at h
      · rename_i clock hclock
        obtain rfl := Except.ok.inj h
        exact .listed hutc hclock
      · contradiction
      · contradiction
  · intro h
    cases h with
    | utc hutc => exact ofName_utc zones hutc
    | listed hutc hclock => rw [ofName_other hutc, hclock]

theorem ofName_of_isUnknown (h : zones.IsUnknown name) :
    ofName zones name = .error (.unknownZone name) := by
  rw [ofName_other h.not_utc, h.refused]

theorem ofName_of_failsOn (h : zones.FailsOn name) :
    ofName zones name = .error (.zoneFailure name) := by
  rw [ofName_other h.not_utc, h.failed]

/-- A name stands for a zone, or it is unknown, or the database fails on it. -/
theorem names_cases (zones : ZoneDatabase) (name : String) :
    (∃ z, zones.Names name z) ∨ zones.IsUnknown name ∨ zones.FailsOn name := by
  by_cases hutc : NamesUtc name
  · exact .inl ⟨.utc, .utc hutc⟩
  · cases hname : zones name with
    | found clock => exact .inl ⟨_, .listed hutc hname⟩
    | refused => exact .inr (.inl ⟨hutc, hname⟩)
    | failed => exact .inr (.inr ⟨hutc, hname⟩)

end Zone

/-! ### The zone in use -/

namespace Session

/-- The settings are needed and cannot be found: none are kept, and the environment is invalid. -/
def SettingsInvalid (s : Session) : Prop := s.kept = none ∧ s.environment.IsInvalid

/-- The settings in force: those that are kept, or else those that the environment determines. -/
inductive HasSettings (s : Session) (found : Settings) : Prop where
  /-- The settings are kept. -/
  | kept (h : s.kept = some found)
  /-- None are kept, and they are looked up in the environment. -/
  | determined (h : s.kept = none) (hfound : s.environment.Determines found)

/-- The zone that an operation uses: its argument, or else the one of the settings in force, which
may leave it to the host. -/
inductive ZoneInUse (s : Session) : Option ZoneChoice → Option ZoneChoice → Prop where
  /-- The argument. -/
  | argument (c : ZoneChoice) : ZoneInUse s (some c) (some c)
  /-- The zone of the settings. -/
  | setting {found : Settings} (h : s.HasSettings found) :
      ZoneInUse s none (found.zone.map .named)

/-- Where an operation shows timestamps. -/
inductive ShowsAt (s : Session) (choice : Option ZoneChoice) : Destination → Prop where
  /-- At a fixed offset. -/
  | fixed {o : UtcOffset} (h : s.ZoneInUse choice (some (.fixed o))) :
      ShowsAt s choice (.zone (.fixed o none))
  /-- In the zone of a name. -/
  | named {name : String} {z : Zone} (h : s.ZoneInUse choice (some (.named name)))
      (hz : s.zones.Names name z) : ShowsAt s choice (.zone z)
  /-- On the clock of the host. -/
  | host (h : s.ZoneInUse choice none) : ShowsAt s choice (.host s.host)

variable {s : Session} {choice : Option ZoneChoice}

theorem lookUp_eq_ok_iff {found : Settings} : s.lookUp.1 = .ok found ↔ s.HasSettings found := by
  cases hkept : s.kept with
  | some kept =>
    rw [lookUp_of_kept hkept, Except.ok.injEq]
    constructor
    · rintro rfl
      exact .kept hkept
    · rintro (h | ⟨h, -⟩)
      · exact Option.some.inj (hkept.symm.trans h)
      · rw [hkept] at h
        contradiction
  | none =>
    rw [lookUp_of_none hkept, Settings.ofEnvironment_eq_ok_iff]
    constructor
    · exact .determined hkept
    · rintro (h | ⟨-, h⟩)
      · rw [hkept] at h
        contradiction
      · exact h

theorem lookUp_eq_error_iff {e : Error} :
    s.lookUp.1 = .error e ↔ s.SettingsInvalid ∧ e = .invalidSettings := by
  unfold SettingsInvalid
  cases hkept : s.kept with
  | some found => simp [lookUp_of_kept hkept]
  | none => simp [lookUp_of_none hkept, Settings.ofEnvironment_eq_error_iff]

/-- There is a zone in use, unless the settings are needed and cannot be found. -/
theorem exists_zoneInUse (s : Session) (choice : Option ZoneChoice) :
    (choice = none ∧ s.SettingsInvalid) ∨ ∃ used, s.ZoneInUse choice used := by
  cases choice with
  | some c => exact .inr ⟨_, .argument c⟩
  | none =>
    cases hlookUp : s.lookUp.1 with
    | error e => exact .inl ⟨rfl, (lookUp_eq_error_iff.1 hlookUp).1⟩
    | ok found => exact .inr ⟨_, .setting (lookUp_eq_ok_iff.1 hlookUp)⟩

theorem run_zone_of_invalid (h : s.SettingsInvalid) :
    ((zone none).run s).1 = .error .invalidSettings := by
  have hlookUp := lookUp_eq_error_iff.2 ⟨h, rfl⟩
  rw [run_zone_none]
  rcases hs : s.lookUp with ⟨r, s'⟩
  rw [hs] at hlookUp
  obtain rfl : r = .error .invalidSettings := hlookUp
  rfl

/-- Where the zone in use leads. -/
def resolve (s : Session) : Option ZoneChoice → Except Error Destination
  | some c => (c.resolve s.zones).map .zone
  | none => .ok (.host s.host)

theorem run_zone_of_inUse {used : Option ZoneChoice} (h : s.ZoneInUse choice used) :
    ((zone choice).run s).1 = s.resolve used := by
  cases h with
  | argument c => rw [run_zone_some, resolve]
  | @setting found h =>
    have hlookUp := lookUp_eq_ok_iff.2 h
    rw [run_zone_none]
    rcases hs : s.lookUp with ⟨r, s'⟩
    rw [hs] at hlookUp
    obtain rfl : r = .ok found := hlookUp
    cases hzone : found.zone with
    | none => exact Settings.destination_host hzone s
    | some name => exact Settings.destination_named hzone s

/-- How the look-up of a zone ends. -/
inductive ZoneLookUp (s : Session) (choice : Option ZoneChoice) :
    Except Error Destination → Prop where
  /-- The settings are needed and cannot be found. -/
  | invalid (h : choice = none) (hs : s.SettingsInvalid) :
      ZoneLookUp s choice (.error .invalidSettings)
  /-- The name in use is not known. -/
  | unknown {name : String} (h : s.ZoneInUse choice (some (.named name)))
      (hname : s.zones.IsUnknown name) : ZoneLookUp s choice (.error (.unknownZone name))
  /-- The database fails on the name in use. -/
  | failure {name : String} (h : s.ZoneInUse choice (some (.named name)))
      (hname : s.zones.FailsOn name) : ZoneLookUp s choice (.error (.zoneFailure name))
  /-- The zone is found. -/
  | found {d : Destination} (h : s.ShowsAt choice d) : ZoneLookUp s choice (.ok d)

/-- The look-up of a zone ends in one of these ways and in no other one. -/
theorem run_zone_eq_iff {r : Except Error Destination} :
    ((zone choice).run s).1 = r ↔ s.ZoneLookUp choice r := by
  constructor
  · rintro rfl
    rcases s.exists_zoneInUse choice with ⟨rfl, hs⟩ | ⟨used, hused⟩
    · rw [run_zone_of_invalid hs]
      exact .invalid rfl hs
    · rw [run_zone_of_inUse hused]
      match used with
      | none => exact .found (.host hused)
      | some (.fixed o) => exact .found (.fixed hused)
      | some (.named name) =>
        simp only [resolve, ZoneChoice.resolve]
        obtain ⟨z, hz⟩ | hunknown | hfails := Zone.names_cases s.zones name
        · rw [Zone.ofName_eq_ok_iff.2 hz]
          exact .found (.named hused hz)
        · rw [Zone.ofName_of_isUnknown hunknown]
          exact .unknown hused hunknown
        · rw [Zone.ofName_of_failsOn hfails]
          exact .failure hused hfails
  · intro h
    cases h with
    | invalid h hs =>
      subst h
      exact run_zone_of_invalid hs
    | unknown h hname =>
      rw [run_zone_of_inUse h, resolve, ZoneChoice.resolve, Zone.ofName_of_isUnknown hname]
      rfl
    | failure h hname =>
      rw [run_zone_of_inUse h, resolve, ZoneChoice.resolve, Zone.ofName_of_failsOn hname]
      rfl
    | found h =>
      cases h with
      | fixed h => exact run_zone_of_inUse h
      | host h => exact run_zone_of_inUse h
      | named h hz =>
        rw [run_zone_of_inUse h, resolve, ZoneChoice.resolve, Zone.ofName_eq_ok_iff.2 hz]
        rfl

theorem showsAt_iff_run_zone {d : Destination} :
    s.ShowsAt choice d ↔ ((zone choice).run s).1 = .ok d := by
  rw [run_zone_eq_iff]
  constructor
  · exact .found
  · rintro ⟨⟩
    assumption

theorem settingsInvalid_iff_run_zone :
    choice = none ∧ s.SettingsInvalid ↔ ((zone choice).run s).1 = .error .invalidSettings := by
  rw [run_zone_eq_iff]
  constructor
  · exact fun h => .invalid h.1 h.2
  · rintro ⟨⟩
    exact ⟨‹_›, ‹_›⟩

theorem unknownZone_iff_run_zone {name : String} :
    s.ZoneInUse choice (some (.named name)) ∧ s.zones.IsUnknown name ↔
      ((zone choice).run s).1 = .error (.unknownZone name) := by
  rw [run_zone_eq_iff]
  constructor
  · exact fun h => .unknown h.1 h.2
  · rintro ⟨⟩
    exact ⟨‹_›, ‹_›⟩

theorem zoneFailure_iff_run_zone {name : String} :
    s.ZoneInUse choice (some (.named name)) ∧ s.zones.FailsOn name ↔
      ((zone choice).run s).1 = .error (.zoneFailure name) := by
  rw [run_zone_eq_iff]
  constructor
  · exact fun h => .failure h.1 h.2
  · rintro ⟨⟩
    exact ⟨‹_›, ‹_›⟩

theorem run_zone_error {e : Error} (h : ((zone choice).run s).1 = .error e) :
    e = .invalidSettings ∨ (∃ name, e = .unknownZone name) ∨
      ∃ name, e = .zoneFailure name ∧ s.zones.FailsOn name := by
  cases run_zone_eq_iff.1 h with
  | invalid => exact .inl rfl
  | @unknown name => exact .inr (.inl ⟨name, rfl⟩)
  | @failure name h hname => exact .inr (.inr ⟨name, rfl, hname⟩)

/-- **Which timestamps are accepted, and why others are not.** A text that is not written as a
timestamp is refused for its form, whatever the zone and the settings are. Otherwise the zone is
looked up: it is missed if it is left out and the settings are invalid, or if it is a name that is
not known, even when the text says something out of range. With the zone found, the text is accepted
when all that it says is in range and refused for its range when not. There are no other errors,
unless the zone database fails on the name, and that comes through as it is. -/
theorem timestamp_outcome (t : Text) (choice : Option ZoneChoice) (s : Session) :
    let outcome := ((timestamp t choice).run s).1
    (outcome = .error (.malformedTimestamp t .shape) ↔ ¬∃ w : Timestamp, w.IsSpelling t) ∧
      (outcome = .error .invalidSettings ↔
        (∃ w : Timestamp, w.IsSpelling t) ∧ choice = none ∧ s.SettingsInvalid) ∧
      (∀ name, outcome = .error (.unknownZone name) ↔ (∃ w : Timestamp, w.IsSpelling t) ∧
        s.ZoneInUse choice (some (.named name)) ∧ s.zones.IsUnknown name) ∧
      (∀ name, outcome = .error (.zoneFailure name) ↔ (∃ w : Timestamp, w.IsSpelling t) ∧
        s.ZoneInUse choice (some (.named name)) ∧ s.zones.FailsOn name) ∧
      ((∃ m, outcome = .ok m) ↔
        ∃ w d, Timestamp.IsSpelling t w ∧ s.ShowsAt choice d ∧ w.InRange d) ∧
      (outcome = .error (.malformedTimestamp t .range) ↔
        ∃ w d, Timestamp.IsSpelling t w ∧ s.ShowsAt choice d ∧ ¬w.InRange d) ∧
      (s.zones.OnlyRefuses → ∀ e, outcome = .error e → (∃ fault, e = .malformedTimestamp t fault) ∨
        e = .invalidSettings ∨ ∃ name, e = .unknownZone name) := by
  intro outcome
  by_cases hspelled : ∃ w : Timestamp, w.IsSpelling t
  · have hrun : outcome = ((zone choice).run s).1.bind (parseTimestamp t) := by
      change ((timestamp t choice).run s).1 = _
      rw [run_timestamp hspelled]
      rcases (zone choice).run s with ⟨_ | d, s'⟩ <;> rfl
    obtain ⟨w, hw⟩ := hspelled
    have hunique (w' : Timestamp) : w'.IsSpelling t ↔ w' = w := by
      rw [← read?_eq_some_iff, read?_eq_some_iff.2 hw, Option.some.injEq, eq_comm]
    simp only [hrun, hunique, showsAt_iff_run_zone, settingsInvalid_iff_run_zone,
      unknownZone_iff_run_zone, zoneFailure_iff_run_zone]
    cases hzone : ((zone choice).run s).1 with
    | error e =>
      rcases run_zone_error hzone with rfl | ⟨name, rfl⟩ | ⟨name, rfl, hfails⟩
      · simp [Except.bind]
      · simp [Except.bind]
      · have hfallible : ¬s.zones.OnlyRefuses := fun h => h name hfails.failed
        simp [Except.bind, hfallible]
    | ok d =>
      rcases hw.parseTimestamp d with ⟨hrange, m, hm⟩ | ⟨hrange, hm⟩
      · simp [Except.bind, hm, hrange]
      · simp [Except.bind, hm, hrange]
  · have hshape : outcome = .error (.malformedTimestamp t .shape) := by
      change ((timestamp t choice).run s).1 = _
      rw [run_timestamp_other hspelled choice s (.host s.host), parseTimestamp,
        read?_eq_none_iff.2 hspelled]
    rw [not_exists] at hspelled
    simp [hshape, hspelled]

/-- A text is accepted in Berlin if the wall clock there is on the calendar. With an unknown zone or
invalid settings it does not matter that a day does not exist. -/
theorem timestamp_outcome_berlin :
    let s : Session := .start [("NATS_JSON_OBJECT_SCAN", "greedy")] HostZone.utc.clock ruledZones
    let outcome (text : String) (choice : Option ZoneChoice) :=
      ((timestamp text.toList choice).run s).1
    s.zones.OnlyRefuses ∧
      (∃ m, outcome "2021-07-25T20:09:10.5Z" (some (.named "Europe/Berlin")) = .ok m) ∧
      outcome "9999-12-31T23:30:00Z" (some (.named "Europe/Berlin")) =
        .error (.malformedTimestamp "9999-12-31T23:30:00Z".toList .range) ∧
      outcome "2021-02-30T00:00:00Z" (some (.named "Moon/Tycho")) =
        .error (.unknownZone "Moon/Tycho") ∧
      outcome "2021-02-30T00:00:00Z" none = .error .invalidSettings := by
  intro s outcome
  let rule : Rule := ⟨hoursAhead 1, some ⟨hoursAhead 2, sundayAt 3 5 2, sundayAt 10 5 3⟩⟩
  let berlin : Destination := .zone (.named "Europe/Berlin" rule.clock)
  let summer : Date := ⟨2021, 7, 25, by decide⟩
  let u : Clock := ⟨summer, 20, 9, 10, 500000, by decide, by decide, by decide, by decide⟩
  let v : Clock := ⟨summer, 22, 9, 10, 500000, by decide, by decide, by decide, by decide⟩
  let lastDay : Date := ⟨9999, 12, 31, by decide⟩
  let late : Clock := ⟨lastDay, 23, 30, 0, 0, by decide, by decide, by decide, by decide⟩
  -- what the texts say
  have hsummer := @read?_eq_some_iff "2021-07-25T20:09:10.5Z".toList
    ⟨2021, 7, 25, 20, 9, 10, 500000000, 0⟩ |>.1 (by decide +kernel)
  have hlast := @read?_eq_some_iff "9999-12-31T23:30:00Z".toList
    ⟨9999, 12, 31, 23, 30, 0, 0, 0⟩ |>.1 (by decide +kernel)
  have hnoDay := @read?_eq_some_iff "2021-02-30T00:00:00Z".toList
    ⟨2021, 2, 30, 0, 0, 0, 0, 0⟩ |>.1 (by decide +kernel)
  -- what the session makes of the zones
  have hrule : namedRule? "Europe/Berlin" = some rule := by decide +kernel
  have hmoon : namedRule? "Moon/Tycho" = none := by decide +kernel
  have hnames : ¬NamesUtc "Europe/Berlin" ∧ ¬NamesUtc "Moon/Tycho" := by
    unfold NamesUtc
    decide +kernel
  have hshows : s.ShowsAt (some (.named "Europe/Berlin")) berlin :=
    .named (.argument _) (.listed hnames.1 (ruledZones_of_some hrule))
  have hunknown : s.zones.IsUnknown "Moon/Tycho" := ⟨hnames.2, ruledZones_of_none hmoon⟩
  have hinvalid : s.SettingsInvalid :=
    ⟨rfl, "greedy", ⟨[], _, [], rfl, by decide +kernel, by simp⟩, by decide, by decide⟩
  -- what the wall clock of Berlin shows
  have hutc : Timestamp.utc? ⟨2021, 7, 25, 20, 9, 10, 500000000, 0⟩ = some u := by rfl
  have hwall : v.micros = u.micros + ((berlin.zoneAt u).offsetAt u).micros := by decide +kernel
  have hin : Timestamp.InRange ⟨2021, 7, 25, 20, 9, 10, 500000000, 0⟩ berlin :=
    (Timestamp.inRange_iff (by decide)).2
      (Timestamp.exists_showAt?_iff.2 ⟨u, hutc, v, hwall⟩)
  have hout : ¬Timestamp.InRange ⟨9999, 12, 31, 23, 30, 0, 0, 0⟩ berlin := by
    intro h
    obtain ⟨u', hu', hcalendar⟩ := h.wall
    have hlate : late.micros = Timestamp.nanosAt ⟨9999, 12, 31, 23, 30, 0, 0, 0⟩ / 1000 := by
      decide +kernel
    have hbeyond : ¬OnCalendar (late.micros + ((berlin.zoneAt late).offsetAt late).micros) := by
      unfold OnCalendar
      decide +kernel
    obtain rfl := Clock.micros_injective (hu'.trans hlate.symm)
    exact hbeyond hcalendar
  obtain ⟨-, -, -, -, haccepted, -⟩ :=
    timestamp_outcome "2021-07-25T20:09:10.5Z".toList (some (.named "Europe/Berlin")) s
  obtain ⟨-, -, -, -, -, hrange, -⟩ :=
    timestamp_outcome "9999-12-31T23:30:00Z".toList (some (.named "Europe/Berlin")) s
  obtain ⟨-, -, hmissed, -⟩ :=
    timestamp_outcome "2021-02-30T00:00:00Z".toList (some (.named "Moon/Tycho")) s
  obtain ⟨-, hsettings, -⟩ := timestamp_outcome "2021-02-30T00:00:00Z".toList none s
  exact ⟨ZoneDatabase.onlyRefuses_ruledZones, haccepted.2 ⟨_, _, hsummer, hshows, hin⟩,
    hrange.2 ⟨_, _, hlast, hshows, hout⟩, (hmissed _).2 ⟨⟨_, hnoDay⟩, .argument _, hunknown⟩,
    hsettings.2 ⟨⟨_, hnoDay⟩, rfl, hinvalid⟩⟩

end Session

end FlatJson
