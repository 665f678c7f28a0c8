import FlatJson.Zone.Offset

/-!
# Zone databases

What is known of zones by name is not part of the library: it stands in a database, which is asked
for a name.

* `ZoneClock` is what a database knows of the wall clock of a zone.
* `ZoneDatabase` gives the answers to all names.
-/

namespace FlatJson

/-- What a database knows of the wall clock of a zone, at the instants of universal time. -/
structure ZoneClock where
  /-- The offset that is in force at the instant. -/
  offsetAt : Clock → UtcOffset
  /-- The wall clock shows at the instant what it has shown before. -/
  repeatsAt : Clock → Bool
  /-- The wall clock shows at another instant what it shows at this one. -/
  ambiguousAt : Clock → Bool

/-- The answer of a database to a name. -/
inductive ZoneAnswer where
  /-- The zone has this wall clock. -/
  | found (clock : ZoneClock)
  /-- There is no zone of this name, or it is not one that can be asked for. -/
  | refused
  /-- The database fails in some other way. -/
  | failed

/-- The answers of a database; it gives the same one whenever it is asked for a name. -/
abbrev ZoneDatabase := String → ZoneAnswer

end FlatJson
