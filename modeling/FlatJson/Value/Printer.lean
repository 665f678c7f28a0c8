import FlatJson.Text.Binary64
import FlatJson.Text.Quoted
import FlatJson.Value.Basic

/-!
# Values as texts

A value that is written as a string or as an element of an array, whatever its type, appears as
its plain text. Inside of a list, tuple, set or table values appear in a form that shows their
type.

* `Value.plainText` is the plain text of a value, `Value.display` the form that shows its type.
-/

namespace FlatJson

/-- A clock time in hours, minutes and seconds, of which the first has at least `width` digits. -/
def clockTime (width seconds : Nat) : Text :=
  let hours := seconds / 3600
  (if width = 2 then padded 2 hours else decimal hours) ++
    ':' :: padded 2 (seconds / 60 % 60) ++ ':' :: padded 2 (seconds % 60)

/-- A fraction of a second in microseconds, if there is one. -/
def fractionText (micro : Nat) : Text := if micro = 0 then [] else '.' :: padded 6 micro

/-- Named parts with their values, separated by commas, without the parts that are zero. -/
def namedParts (parts : List (String × Int)) : Text :=
  [',', ' '].intercalate <| (parts.filter (·.2 != 0)).map fun (name, n) =>
    name.toList ++ '=' :: signedDecimal n

/-- A length of time as days, seconds and microseconds. -/
def lengthOfTime (days seconds micros : Int) : Text :=
  let parts := namedParts [("days", days), ("seconds", seconds), ("microseconds", micros)]
  "datetime.timedelta(".toList ++ (if parts = [] then ['0'] else parts) ++ [')']

namespace Duration

/-- A duration as days and a clock time. -/
def plainText (d : Duration) : Text :=
  let days :=
    if d.days = 0 then []
    else signedDecimal d.days ++ (if d.days.natAbs = 1 then " day, " else " days, ").toList
  days ++ clockTime 1 (d.dayMicros / 1000000) ++ fractionText (d.dayMicros % 1000000)

/-- A duration as a length of time. -/
def display (d : Duration) : Text :=
  lengthOfTime d.days (d.dayMicros / 1000000 : Nat) (d.dayMicros % 1000000 : Nat)

end Duration

namespace UtcOffset

/-- An offset as a sign, hours and minutes, and seconds if there are any. -/
def plainText (o : UtcOffset) : Text :=
  let size := o.seconds.natAbs
  (if o.seconds < 0 then '-' else '+') :: padded 2 (size / 3600) ++ ':' :: padded 2 (size / 60 % 60)
    ++ if size % 60 = 0 then [] else ':' :: padded 2 (size % 60)

/-- An offset as a length of time. -/
def display (o : UtcOffset) : Text := lengthOfTime (o.seconds / 86400) (o.seconds % 86400) 0

end UtcOffset

namespace Zone

/-- A zone by its name: that of an unchanging offset is its abbreviation, or else universal time
with the offset. -/
def plainText : Zone → Text
  | utc => "UTC".toList
  | fixed _ (some abbreviation) => abbreviation
  | fixed offset none => "UTC".toList ++ if offset = .zero then [] else offset.plainText
  | named name _ => name.toList

/-- A zone by its kind and its name or offset. -/
def display : Zone → Text
  | utc => "datetime.timezone.utc".toList
  | fixed offset none =>
    if offset = .zero then "datetime.timezone.utc".toList
    else "datetime.timezone(".toList ++ offset.display ++ [')']
  | fixed offset (some abbreviation) =>
    "datetime.timezone(".toList ++ offset.display ++ ',' :: ' ' :: quoted abbreviation ++ [')']
  | named name _ => "zoneinfo.ZoneInfo(key=".toList ++ quoted name.toList ++ [')']

end Zone

/-- A date as year, month and day. -/
def Date.plainText (d : Date) : Text :=
  padded 4 d.year ++ '-' :: padded 2 d.month ++ '-' :: padded 2 d.day

/-- Numbers separated by commas. -/
def commaList (ns : List Nat) : Text := [',', ' '].intercalate (ns.map decimal)

/-- A date as a list of its parts. -/
def Date.display (d : Date) : Text :=
  "datetime.date(".toList ++ commaList [d.year, d.month, d.day] ++ [')']

namespace Clock

/-- The seconds since midnight. -/
def daySeconds (c : Clock) : Nat := (c.time.hour * 60 + c.time.minute) * 60 + c.time.second

/-- A wall clock with a space before the time of day, and its offset if it is known. -/
def plainText (c : Clock) (placement : Option Placement) : Text :=
  c.date.plainText ++ ' ' :: clockTime 2 c.daySeconds ++ fractionText c.time.micro ++
    match placement with
    | none => []
    | some p => p.offset.plainText

/-- A wall clock as a list of its parts, the zero ones at the end left out, and its place in a
zone. -/
def display (c : Clock) (placement : Option Placement) : Text :=
  let tail :=
    if c.time.micro ≠ 0 then [c.time.second, c.time.micro]
    else if c.time.second ≠ 0 then [c.time.second] else []
  "datetime.datetime(".toList ++
    commaList ([c.date.year, c.date.month, c.date.day, c.time.hour, c.time.minute] ++ tail) ++
    (match placement with
      | none => []
      | some p =>
        (if p.repeated then ", fold=1".toList else []) ++ ", tzinfo=".toList ++ p.zone.display) ++
    [')']

end Clock

namespace Settings

/-- The settings with their names, each with its value in the form that shows its type. -/
def parts (s : Settings) : List Text :=
  ["zone=".toList ++ (s.zone.map fun name => quoted name.toList).getD "None".toList,
    "object_scan=".toList ++ quoted s.scan.name.toList]

/-- Settings with a space between them. -/
def plainText (s : Settings) : Text := [' '].intercalate s.parts

/-- Settings as a list of their parts. -/
def display (s : Settings) : Text :=
  "CodecSettings(".toList ++ [',', ' '].intercalate s.parts ++ [')']

end Settings

/-- A byte in a row of bytes between quotes of the given kind. -/
def quotedByte (quote : Char) (b : UInt8) : Text :=
  let c := Char.ofNat b.toNat
  if c.toNat < 0x7f ∨ c = '\t' then quotedChar quote c else codeEscape c

/-- A row of bytes between quotes. -/
def quotedBytes (content : List UInt8) : Text :=
  let quote := quoteFor (content.map fun b => Char.ofNat b.toNat)
  'b' :: quote :: content.flatMap (quotedByte quote) ++ [quote]

/-- The texts between an opening and a closing one, separated by commas. -/
def enclosed (opening closing : String) (parts : List Text) : Text :=
  opening.toList ++ [',', ' '].intercalate parts ++ closing.toList

/-- The numeral of an integer, if it is not too long. -/
def integerText (n : Int) : Except Error Text :=
  match writeNumeral? n with
  | none => .error .numeralTooLong
  | some t => .ok t

/-- The word for a truth value among values of other types. -/
def truthText (b : Bool) : Text := (if b then "True" else "False").toList

namespace Value

mutual

/-- The value in the form that shows its type. -/
def display : Value → Except Error Text
  | absent => .ok "None".toList
  | bool b => .ok (truthText b)
  | int n => integerText n
  | real x => .ok (floatText x)
  | text t => .ok (quoted t)
  | list items => do return enclosed "[" "]" (← displayAll items)
  | tuple items => do
    match ← displayAll items with
    | [part] => return enclosed "(" ",)" [part]
    | parts => return enclosed "(" ")" parts
  | duration d => .ok d.display
  | dateTime clock placement => .ok (clock.display placement)
  | date d => .ok d.display
  | bytes content => .ok (quotedBytes content)
  | table keys => do
    return enclosed "\x7b" "\x7d" ((← displayAll keys).map (· ++ ": None".toList))
  | set items => do
    match ← displayAll items with
    | [] => return "set()".toList
    | parts => return enclosed "\x7b" "\x7d" parts
  | fieldKind k => .ok (KindLabel.field k).display.toList
  | valueKind k => .ok (KindLabel.value k).display.toList
  | zone z => .ok z.display
  | settings s => .ok s.display
  | other => .ok "<Opaque object>".toList

/-- The values in the form that shows their types. -/
def displayAll : List Value → Except Error (List Text)
  | [] => .ok []
  | v :: vs => do return (← v.display) :: (← displayAll vs)

end

/-- The value as the text that stands for it. -/
def plainText : Value → Except Error Text
  | text t => .ok t
  | duration d => .ok d.plainText
  | dateTime clock placement => .ok (clock.plainText placement)
  | date d => .ok d.plainText
  | fieldKind k => .ok (KindLabel.field k).qualifiedName.toList
  | valueKind k => .ok (KindLabel.value k).qualifiedName.toList
  | zone z => .ok z.plainText
  | settings s => .ok s.plainText
  | v => v.display

/-- The elements of a value that has elements: the characters of a text, the numbers of bytes, the
keys of a table, and settings with their names. -/
def elements : Value → Except Error (List Value)
  | text t => .ok (t.map fun c => text [c])
  | bytes content => .ok (content.map fun b => int b.toNat)
  | list items | tuple items | table items | set items => .ok items
  | settings s =>
    let zone := (s.zone.map fun name => text name.toList).getD absent
    .ok [tuple [text "zone".toList, zone],
      tuple [text "object_scan".toList, text s.scan.name.toList]]
  | _ => .error .notListed

end Value

end FlatJson
