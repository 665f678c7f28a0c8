import FlatJson.Duration
import FlatJson.Settings
import FlatJson.Zone.Moment

/-!
# Values

What a caller may hand to a message for writing or as a setting. Only some values fit a kind; the
others are values too, so that it can be said what happens to them.

* `Value.inferKind` is the kind that a value has by itself.
* `ValueKind.check` decides whether a value may be written as a kind.
* `ValueKind.worthWriting` is the rule that leaves out values without interest.
* `Value.asSetting` is the value as an argument for a setting.
-/

namespace FlatJson

/-- A value. -/
inductive Value where
  /-- No value. -/
  | absent
  /-- A truth value. -/
  | bool (b : Bool)
  /-- An integer. -/
  | int (n : Int)
  /-- A floating point number. -/
  | real (x : Float)
  /-- A text. -/
  | text (t : Text)
  /-- A list. -/
  | list (items : List Value)
  /-- A list of fixed length. -/
  | tuple (items : List Value)
  /-- A length of time. -/
  | duration (d : Duration)
  /-- A date with a time of day, and the place of this wall clock in a zone if it is known. -/
  | dateTime (clock : Clock) (placement : Option Placement)
  /-- A date. -/
  | date (d : Date)
  /-- A row of bytes. -/
  | bytes (content : List UInt8)
  /-- A table with these keys, all different. -/
  | table (keys : List Value)
  /-- A set of these elements, all different. -/
  | set (items : List Value)
  /-- A kind of field. -/
  | fieldKind (k : FieldKind)
  /-- A kind of value. -/
  | valueKind (k : ValueKind)
  /-- A zone. -/
  | zone (z : Zone)
  /-- Settings. -/
  | settings (s : Settings)
  /-- A value that has none of the properties asked for here. -/
  | other

namespace Value

/-- The name of the value's type. -/
def typeName : Value → String
  | absent => "NoneType"
  | bool _ => "bool"
  | int _ => "int"
  | real _ => "float"
  | text _ => "str"
  | list _ => "list"
  | tuple _ => "tuple"
  | duration _ => "timedelta"
  | dateTime _ _ => "datetime"
  | date _ => "date"
  | bytes _ => "bytes"
  | table _ => "dict"
  | set _ => "set"
  | fieldKind _ => "FieldKind"
  | valueKind _ => "ValueKind"
  | zone (.named _ _) => "ZoneInfo"
  | zone .utc | zone (.fixed _ _) => "timezone"
  | settings _ => "CodecSettings"
  | other => "Opaque"

/-- The value is a text. -/
def isText : Value → Bool
  | text _ => true
  | _ => false

/-- The value is no value. -/
def isAbsent : Value → Bool
  | absent => true
  | _ => false

/-- The kind that a value has by itself. -/
def inferKind : Value → Except Error ValueKind
  | bool _ => .ok .boolean
  | int _ => .ok .integer
  | duration _ => .ok .duration
  | dateTime _ _ => .ok .timestamp
  | text _ => .ok .string
  | list _ | tuple _ => .ok .stringArray
  | v => .error (.cannotEncode v.typeName)

/-- The value counts as true: all values do but those that are absent, false, zero or empty. -/
def countsAsTrue : Value → Bool
  | absent => false
  | bool b => b
  | int n => n != 0
  | real x => x != 0
  | text t => !t.isEmpty
  | list items | tuple items | table items | set items => !items.isEmpty
  | duration d => d.micros != 0
  | bytes content => !content.isEmpty
  | dateTime _ _ | date _ | fieldKind _ | valueKind _ | zone _ | settings _ | other => true

/-- The value is at least zero, for values that can be compared with it. -/
def isNonNegative : Value → Except Error Bool
  | bool _ => .ok true
  | int n => .ok (0 ≤ n)
  | real x => .ok (0 ≤ x)
  | _ => .error .notOrdered

/-- The value has at least one element, for values that have a length. -/
def isInhabited : Value → Except Error Bool
  | text t => .ok (!t.isEmpty)
  | bytes content => .ok (!content.isEmpty)
  | list items | tuple items | table items | set items => .ok (!items.isEmpty)
  | _ => .error .notSized

/-- The value as an argument for a setting: bytes stand for the text that they encode, kinds for
their number. -/
def asSetting : Value → SettingValue
  | absent => .absent
  | text t => .text (String.ofList t)
  | bytes content => ((String.fromUTF8? ⟨content.toArray⟩).map .readable).getD .other
  | fieldKind k => .readable (toString k.ordinal)
  | valueKind k => .readable (toString k.ordinal)
  | _ => .other

end Value

namespace ValueKind

/-- The kind of value that a label names. -/
def ofLabel : KindLabel → Except Error ValueKind
  | .value k => .ok k
  | .unkeyed => .error .unkeyedKind
  | label => .error (.unknownKind label)

/-- Absence may be written as this kind: it writes nothing. -/
def isOptional : ValueKind → Bool
  | string | stringArray | timestamp => true
  | boolean | integer | duration => false

/-- The value is one of those that are written as this kind. -/
def fits : ValueKind → Value → Bool
  | string, .text _ => true
  | boolean, .bool _ => true
  | integer, .int _ => true
  | duration, .duration _ => true
  | stringArray, .list items | stringArray, .tuple items => items.all Value.isText
  | timestamp, .dateTime _ _ => true
  | _, _ => false

/-- The value may be written as this kind. -/
def admits (k : ValueKind) (v : Value) : Bool := if v.isAbsent then k.isOptional else k.fits v

/-- Refuse a value that may not be written as this kind. -/
def check (k : ValueKind) (v : Value) : Except Error Unit :=
  if k.admits v then .ok () else .error (.cannotWrite v.typeName k)

/-- The value is worth writing as this kind: integers that are not negative, durations other than
zero, arrays that are not empty, all truth values, and strings and timestamps that are there. -/
def worthWriting (k : ValueKind) (v : Value) : Except Error Bool :=
  match k, v with
  | string, v | timestamp, v => .ok (!v.isAbsent)
  | boolean, _ => .ok true
  | integer, v => v.isNonNegative
  | duration, .duration d => .ok (d.micros != 0)
  | duration, _ => .ok true
  | stringArray, .absent => .ok false
  | stringArray, v => v.isInhabited

end ValueKind

end FlatJson
