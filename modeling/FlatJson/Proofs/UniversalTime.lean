import FlatJson.Proofs.Instant
import FlatJson.Proofs.Operation

/-!
# Timestamps in universal time

In universal time a timestamp is shown on the wall clock of its instant, with no offset and no mark.

* `Zone.IsUtc` and `ZoneChoice.IsUtc` say that a zone, or one that is chosen among those of a
  database, is universal time.
* `parseTimestamp_utc_iff`: what a text is shown as in universal time.
* `Session.run_timestamp_utc`, `Session.run_timestamp_render`: so it is for every such choice and in
  every session; a wall clock that was written is shown as it is.
-/

namespace FlatJson

/-! ### Zones -/

theorem ofName_utc (zones : ZoneDatabase) : Zone.ofName zones "UTC" = .ok .utc := by
  have hname : "UTC".toUpper ∈ Zone.utcNames := by decide +kernel
  rw [Zone.ofName, if_pos hname]

/-- A zone that is universal time all the time. -/
def Zone.IsUtc (z : Zone) : Prop := ∀ u, z.offsetAt u = .zero ∧ z.repeatsAt u = false

/-- A choice of universal time, among the zones of a database. -/
def ZoneChoice.IsUtc (zones : ZoneDatabase) (choice : ZoneChoice) : Prop :=
  ∃ z, choice.resolve zones = .ok z ∧ z.IsUtc

theorem isUtc_of_mem {choice : ZoneChoice} (h : choice ∈ [ZoneChoice.named "UTC", .fixed .zero])
    (zones : ZoneDatabase) : choice.IsUtc zones := by
  simp only [List.mem_cons, List.not_mem_nil, or_false] at h
  rcases h with rfl | rfl
  · exact ⟨.utc, ofName_utc zones, fun _ => ⟨rfl, rfl⟩⟩
  · exact ⟨.fixed .zero none, rfl, fun _ => ⟨rfl, rfl⟩⟩

/-! ### Texts -/

/-- In universal time a text is shown on the wall clock of its instant. -/
theorem parseTimestamp_utc_iff {t : Text} {z : Zone} (hz : z.IsUtc) {m : Moment} :
    parseTimestamp t (.zone z) = .ok m ↔
      ∃ (w : Timestamp) (u : Clock), w.IsSpelling t ∧ w.utc? = some u ∧
        m = ⟨⟨.zero, false, z⟩, u⟩ := by
  have hshow (u : Clock) : z.show? u = some m ↔ m = ⟨⟨.zero, false, z⟩, u⟩ := by
    rw [Zone.show?_eq_some_iff, (hz u).1, (hz u).2, UtcOffset.micros_zero, Int.add_zero]
    constructor
    · rintro ⟨hplace, hclock⟩
      obtain ⟨place, c⟩ := m
      obtain rfl := Clock.micros_injective hclock
      exact congrArg (Moment.mk · c) hplace
    · rintro rfl
      exact ⟨rfl, rfl⟩
  simp only [parseTimestamp_eq_ok_iff, Destination.zoneAt, hshow]

namespace Session

section
variable {choice : ZoneChoice} {s : Session} (hutc : choice.IsUtc s.zones)
include hutc

/-- Whatever universal time is chosen as, a timestamp is shown on the wall clock of its instant. -/
theorem run_timestamp_utc {t : Text} {w : Timestamp} {u : Clock} (hw : w.IsSpelling t)
    (hu : w.utc? = some u) :
    ∃ m, (timestamp t (some choice)).run s = (.ok m, s) ∧
      m.clock = u ∧ m.offset = .zero ∧ m.repeated = false := by
  obtain ⟨z, hz, hutc⟩ := hutc
  have hzone : (zone (some choice)).run s = (.ok (.zone z), s) := by
    rw [run_zone_some, hz]
    rfl
  have hparse := (parseTimestamp_utc_iff hutc).2 ⟨w, u, hw, hu, rfl⟩
  exact ⟨_, run_timestamp_eq_ok_iff.2 ⟨_, hzone, hparse⟩, rfl, rfl, rfl⟩

/-- A wall clock that was written is shown as it is in universal time. -/
theorem run_timestamp_render (c : Clock) :
    ∃ m, (timestamp (c.render ++ ['Z']) (some choice)).run s = (.ok m, s) ∧
      m.clock = c ∧ m.offset = .zero ∧ m.repeated = false :=
  run_timestamp_utc hutc (isSpelling_render c) (utc?_render c)

/-- What is shown in universal time is the wall clock of the instant. -/
theorem exists_utc_of_run_timestamp {s' : Session} {t : Text} {m : Moment}
    (h : (timestamp t (some choice)).run s = (.ok m, s')) :
    ∃ (w : Timestamp) (u : Clock), w.IsSpelling t ∧ w.utc? = some u ∧ m.clock = u := by
  obtain ⟨z, hz, hutc⟩ := hutc
  obtain ⟨d, hzone, hparse⟩ := run_timestamp_eq_ok_iff.1 h
  rw [run_zone_some, hz] at hzone
  cases hzone
  obtain ⟨w, u, hw, hu, rfl⟩ := (parseTimestamp_utc_iff hutc).1 hparse
  exact ⟨w, u, hw, hu, rfl⟩

end

end Session

end FlatJson
