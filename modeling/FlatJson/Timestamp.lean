import FlatJson.Zone.Moment

/-!
# Timestamps

A timestamp names an instant by a date, a time of day with up to nine fraction digits and an offset
from universal time: `2021-01-25T20:09:10.5+01:00`. Digits may be those of any script.

* `Timestamp.read?` reads what is written, without regard to ranges.
* `Timestamp.utc?` is the instant on the wall clock of universal time, rounded down to a
  microsecond, if all fields are in range.
* `Timestamp.showAt?` shows it in a zone; `parseTimestamp` puts the steps together.
-/

namespace FlatJson

/-- What the text of a timestamp says. -/
structure Timestamp where
  /-- The number in the place of the year. -/
  year : Nat
  /-- The number in the place of the month. -/
  month : Nat
  /-- The number in the place of the day. -/
  day : Nat
  /-- The number in the place of the hour. -/
  hour : Nat
  /-- The number in the place of the minute. -/
  minute : Nat
  /-- The number in the place of the second. -/
  second : Nat
  /-- The fraction of the second in nanoseconds. -/
  nanos : Nat
  /-- The written offset in minutes. -/
  offsetMinutes : Int
deriving DecidableEq

/-! ### Reading -/

/-- Read a row of `width` digits; gives their value and the rest of the text. -/
def readDigits? (width : Nat) (t : Text) : Option (Nat × Text) :=
  let digits := t.take width
  if digits.length = width ∧ digits.all isDigit then some (digitsValue digits, t.drop width)
  else none

/-- Read one of the given characters; gives the rest of the text. -/
def afterMark? (marks : List Char) : Text → Option Text
  | [] => none
  | c :: rest => if c ∈ marks then some rest else none

/-- Read a fraction of one to nine digits behind a point, which may be left out; gives nanoseconds
and the rest of the text. -/
def readFraction? : Text → Option (Nat × Text)
  | '.' :: t =>
    let digits := (t.take 9).takeWhile isDigit
    if digits = [] then none
    else some (digitsValue digits * Nat.pow 10 (9 - digits.length), t.drop digits.length)
  | t => some (0, t)

/-- Read hours and minutes, each any two digits, up to the end of the text; gives minutes. -/
def readHoursMinutes? (t : Text) : Option Nat := do
  let (hours, t) ← readDigits? 2 t
  let t ← afterMark? [':'] t
  let (minutes, t) ← readDigits? 2 t
  if t = [] then some (hours * 60 + minutes) else none

/-- Read the offset at the end of a timestamp, in minutes. -/
def readOffsetMinutes? : Text → Option Int
  | ['Z'] | ['z'] => some 0
  | '+' :: t => (readHoursMinutes? t).map fun n => (n : Int)
  | '-' :: t => (readHoursMinutes? t).map fun n => -(n : Int)
  | _ => none

namespace Timestamp

/-- What a text says that is written as a timestamp. -/
def read? (t : Text) : Option Timestamp := do
  let (year, t) ← readDigits? 4 t
  let t ← afterMark? ['-'] t
  let (month, t) ← readDigits? 2 t
  let t ← afterMark? ['-'] t
  let (day, t) ← readDigits? 2 t
  let t ← afterMark? ['T', 't'] t
  let (hour, t) ← readDigits? 2 t
  let t ← afterMark? [':'] t
  let (minute, t) ← readDigits? 2 t
  let t ← afterMark? [':'] t
  let (second, t) ← readDigits? 2 t
  let (nanos, t) ← readFraction? t
  let offsetMinutes ← readOffsetMinutes? t
  some ⟨year, month, day, hour, minute, second, nanos, offsetMinutes⟩

/-! ### Meaning -/

/-- The wall clock that is written, the fraction rounded down to a microsecond, if its fields are
in range. -/
def clock? (w : Timestamp) : Option Clock := do
  let date ← Date.of? w.year w.month w.day
  let time ← TimeOfDay.of? w.hour w.minute w.second (w.nanos / 1000)
  some ⟨date, time⟩

/-- The instant on the wall clock of universal time, if the fields and the offset are in range and
the instant is on the calendar. -/
def utc? (w : Timestamp) : Option Clock := do
  let clock ← w.clock?
  let offset ← UtcOffset.ofSeconds? (w.offsetMinutes * 60)
  clock.behind? offset

/-- The instant as it is shown at a destination, if both wall clocks are on the calendar. -/
def showAt? (w : Timestamp) (d : Destination) : Option Moment := do
  let utc ← w.utc?
  (d.zoneAt utc).show? utc

end Timestamp

/-- The instant that a text names, as it is shown at a destination. -/
def parseTimestamp (t : Text) (d : Destination) : Except Error Moment :=
  match Timestamp.read? t with
  | none => .error (.malformedTimestamp t .shape)
  | some w =>
    match w.showAt? d with
    | none => .error (.malformedTimestamp t .range)
    | some m => .ok m

end FlatJson
