import FlatJson.Zone.Basic
import FlatJson.Zone.Table

/-!
# Zones of hosts

The zone of a host is given as text: the abbreviation and offset of standard time, and, if there is
daylight time, its abbreviation, its offset and the two changeovers, as in
`CET-1CEST,M3.5.0,M10.5.0/3`. Offsets in this notation count towards the west. The clock of a host
does not look at the changeovers of the years before 1970.

* `HostZone.clock` is the clock of a host in a zone.
* `HostZone.read?` reads such a text, `HostZone.ofText` takes universal time if it is not one.
-/

namespace FlatJson

/-- The zone of a host. -/
structure HostZone where
  /-- The rule of the zone. -/
  rule : Rule
  /-- The abbreviation of standard time. -/
  standardName : Text
  /-- The abbreviation of daylight time, which is not used if there is none. -/
  daylightName : Text
deriving DecidableEq

namespace HostZone

/-- The year with which the clock of a host begins to keep daylight time. -/
def firstYear : Nat := 1970

/-- Daylight time is in force on the host. Before the first year all instants count as earlier than
both changeovers, so that it is in force where it lasts over the turn of the year. -/
def inDaylight (h : HostZone) (utc : Clock) : Bool :=
  if firstYear ≤ utc.date.year then h.rule.inDaylight utc
  else
    match h.rule.daylight with
    | none => false
    | some d =>
      let (start, stop) := d.boundsIn h.rule.standard utc.date.year
      stop < start

/-- The clock of a host in the zone. -/
def clock (h : HostZone) : HostClock where
  offsetAt utc :=
    match h.rule.daylight with
    | none => h.rule.standard
    | some d => if h.inDaylight utc then d.offset else h.rule.standard
  abbreviationAt utc := if h.inDaylight utc then h.daylightName else h.standardName

end HostZone

/-- Readers of the parts of a zone text give what they read and the rest of the text. -/
abbrev ZoneReader (α : Type) := Text → Option (α × Text)

/-- A reader of one given character. -/
def readMark (mark : Char) : ZoneReader Unit
  | [] => none
  | c :: rest => if c = mark then some ((), rest) else none

/-- A reader of a number in ASCII digits. -/
def readCount : ZoneReader Nat := fun t =>
  match t.span (·.isDigit) with
  | ([], _) => none
  | (digits, rest) => some (digitsValue digits, rest)

/-- A reader of a zone's abbreviation: three or more letters, or anything in angle brackets. -/
def readAbbreviation : ZoneReader Text
  | '<' :: t =>
    match t.span (· != '>') with
    | (name, _ :: rest) => some (name, rest)
    | (_, []) => none
  | t =>
    match t.span (·.isAlpha) with
    | (name, rest) => if name.length < 3 then none else some (name, rest)

/-- A reader of sixtieths behind a colon, which may be left out. -/
def readSixtieths : ZoneReader Nat
  | ':' :: t => readCount t
  | t => some (0, t)

/-- A reader of hours, minutes and seconds with an optional sign, in seconds. -/
def readTime : ZoneReader Int := fun t =>
  let (sign, t) := match t with
    | '-' :: rest => (-1, rest)
    | '+' :: rest => (1, rest)
    | _ => (1, t)
  do
    let (hours, t) ← readCount t
    let (minutes, t) ← readSixtieths t
    let (seconds, t) ← readSixtieths t
    some (sign * ((hours * 60 + minutes) * 60 + seconds : Nat), t)

/-- A reader of an offset, which counts towards the west. -/
def readOffset : ZoneReader UtcOffset := fun t => do
  let (west, t) ← readTime t
  let offset ← UtcOffset.ofSeconds? (-west)
  some (offset, t)

/-- A reader of a changeover, at two o'clock unless a time is given. -/
def readChangeover : ZoneReader Changeover := fun t => do
  let (_, t) ← readMark ',' t
  let (_, t) ← readMark 'M' t
  let (month, t) ← readCount t
  let (_, t) ← readMark '.' t
  let (week, t) ← readCount t
  let (_, t) ← readMark '.' t
  let (weekday, t) ← readCount t
  let (seconds, t) ←
    match t with
    | '/' :: rest => readTime rest
    | _ => some (7200, t)
  if h : (1 ≤ month ∧ month ≤ 12) ∧ (1 ≤ week ∧ week ≤ 5) ∧ weekday < 7 then
    some (⟨month, week, weekday, seconds, h.1, h.2.1, h.2.2⟩, t)
  else none

/-- A reader of daylight time behind standard time, with its abbreviation. Its offset is an hour
ahead of standard time and it lasts from the second Sunday of March to the first one of November
unless given. -/
def readDaylight (standard : UtcOffset) : ZoneReader (Text × Daylight) := fun t => do
  let (name, t) ← readAbbreviation t
  let (offset, t) ←
    match t with
    | [] | ',' :: _ => (UtcOffset.ofSeconds? (standard.seconds + 3600)).map (·, t)
    | _ => readOffset t
  match t with
  | [] => some ((name, fromMarchToNovember offset), [])
  | _ =>
    let (start, t) ← readChangeover t
    let (stop, t) ← readChangeover t
    some ((name, ⟨offset, start, stop⟩), t)

namespace HostZone

/-- Universal time as the zone of a host. -/
def utc : HostZone := ⟨⟨.zero, none⟩, ['U', 'T', 'C'], []⟩

/-- The zone that a text gives. -/
def read? (t : Text) : Option HostZone := do
  let (name, t) ← readAbbreviation t
  let (standard, t) ← readOffset t
  match t with
  | [] => some ⟨⟨standard, none⟩, name, []⟩
  | _ =>
    match ← readDaylight standard t with
    | ((daylightName, daylight), []) => some ⟨⟨standard, some daylight⟩, name, daylightName⟩
    | _ => none

/-- The zone of a host with this text; a text that gives none stands for universal time. -/
def ofText (t : Text) : HostZone := (read? t).getD utc

end HostZone

end FlatJson
