import FlatJson.Error
import FlatJson.Zone.Database

/-!
# Zones

A timestamp is shown in universal time, at a fixed offset, in a zone that a database has under a
name, or on the clock of a host.

* `Zone.offsetAt` is the offset of a zone at an instant, `Zone.repeatsAt` marks the wall clocks of
  a named zone that come for the second time.
* `Zone.ofName` is the zone of a name.
* `Destination.zoneAt` is the zone in which an instant is shown: of the zone of a host only the
  offset in force is known.
-/

namespace FlatJson

/-- A zone. -/
inductive Zone where
  /-- Universal time. -/
  | utc
  /-- An unchanging offset, with the abbreviation under which a host knows it, if it is one of a
  host. -/
  | fixed (offset : UtcOffset) (abbreviation : Option Text)
  /-- A zone known by name. -/
  | named (name : String) (clock : ZoneClock)

namespace Zone

/-- The offset in force in the zone at an instant of universal time. -/
def offsetAt (z : Zone) (utc : Clock) : UtcOffset :=
  match z with
  | .utc => .zero
  | .fixed offset _ => offset
  | .named _ clock => clock.offsetAt utc

/-- The wall clock of a named zone shows at the instant what it has shown before. -/
def repeatsAt (z : Zone) (utc : Clock) : Bool :=
  match z with
  | .named _ clock => clock.repeatsAt utc
  | .utc | .fixed _ _ => false

/-- The wall clock of a named zone shows at another instant what it shows at this one. -/
def ambiguousAt (z : Zone) (utc : Clock) : Bool :=
  match z with
  | .named _ clock => clock.ambiguousAt utc
  | .utc | .fixed _ _ => false

/-- The names of universal time, in upper case. -/
def utcNames : List String := ["UTC", "Z", "ZULU", "ETC/UTC"]

/-- The zone of a name. The names of universal time may be written in any case and are not asked
for; all others stand in the database. -/
def ofName (zones : ZoneDatabase) (name : String) : Except Error Zone :=
  if name.toUpper ∈ utcNames then .ok .utc
  else
    match zones name with
    | .found clock => .ok (.named name clock)
    | .refused => .error (.unknownZone name)
    | .failed => .error (.zoneFailure name)

end Zone

/-- The clock of a host, at the instants of universal time. -/
structure HostClock where
  /-- The offset that is in force on the host. -/
  offsetAt : Clock → UtcOffset
  /-- The abbreviation that is in use on the host. -/
  abbreviationAt : Clock → Text

/-- The offset that is in force on a host at an instant of universal time. -/
def HostClock.zoneAt (h : HostClock) (utc : Clock) : Zone :=
  .fixed (h.offsetAt utc) (some (h.abbreviationAt utc))

/-- Where timestamps are shown. -/
inductive Destination where
  /-- In a zone. -/
  | zone (z : Zone)
  /-- On the clock of a host. -/
  | host (h : HostClock)

/-- The zone in which an instant of universal time is shown. -/
def Destination.zoneAt (d : Destination) (utc : Clock) : Zone :=
  match d with
  | .zone z => z
  | .host h => h.zoneAt utc

end FlatJson
