import FlatJson.Duration
import FlatJson.Field.Basic
import FlatJson.Text.Numeral

/-!
# Reading single values

Readers of strings, truth values, numbers and durations. A field that the message does not have, or
has with a value of another kind, is read as `none`.

* `readString?`, `readBool?`, `readNumber` and `readDuration` read the leftmost field of a name.
-/

namespace FlatJson

/-- The text of a string field. -/
def readString? (name message : Text) : Option Text := findField? name .string message

/-- The value of a truth field. -/
def readBool? (name message : Text) : Option Bool :=
  (findField? name .boolean message).map (sameLetters (truthWord true))

/-- The value of a number field. -/
def readNumber (name message : Text) : Except Error (Option Nat) :=
  match findField? name .number message with
  | none => .ok none
  | some digits =>
    match readNumeral? digits with
    | none => .error .numeralTooLong
    | some n => .ok (some n)

/-- The duration that a number field gives in nanoseconds, rounded down to microseconds. -/
def readDuration (name message : Text) : Except Error (Option Duration) :=
  match readNumber name message with
  | .error e => .error e
  | .ok none => .ok none
  | .ok (some n) =>
    match Duration.ofMicros? (n / 1000 : Nat) with
    | none => .error .durationTooLong
    | some d => .ok (some d)

end FlatJson
