import FlatJson.Text.Basic

/-!
# Extracting objects

A nested object is cut out of a message: it starts at the first opening brace at or after the first
occurrence of its name. There are two ways to find its end.

* `firstBraceSpan?` ends the object at the first closing brace.
* `balancedSpan?` ends it at the brace that closes the opening one; braces inside quoted strings do
  not count, and in a quoted string a backslash takes away the meaning of the next character.
* `extractObject` cuts out an object, or says why there is none.
-/

namespace FlatJson

/-- How the end of an object is found. -/
inductive ObjectScan where
  /-- At the first closing brace. -/
  | firstBrace
  /-- At the matching closing brace. -/
  | balanced
deriving DecidableEq

/-- Where the balanced scan stands with respect to quoted strings. -/
inductive ScanPlace where
  /-- Outside of a quoted string. -/
  | outside
  /-- Inside a quoted string. -/
  | quoted
  /-- Inside a quoted string, behind a backslash. -/
  | escaped
deriving DecidableEq

/-- The text up to its first closing brace. -/
def firstBraceSpan? : Text → Option Text
  | [] => none
  | c :: rest => if c = '\x7d' then some [c] else (firstBraceSpan? rest).map (c :: ·)

/-- The text up to the brace that closes the outermost of `nested + 1` open objects. -/
def balancedSpan? : ScanPlace → Nat → Text → Option Text
  | _, _, [] => none
  | .escaped, nested, c :: rest => (balancedSpan? .quoted nested rest).map (c :: ·)
  | .quoted, nested, c :: rest =>
    let place := if c = '\\' then .escaped else if c = '"' then .outside else .quoted
    (balancedSpan? place nested rest).map (c :: ·)
  | .outside, nested, c :: rest =>
    if c = '"' then (balancedSpan? .quoted nested rest).map (c :: ·)
    else if c = '\x7b' then (balancedSpan? .outside (nested + 1) rest).map (c :: ·)
    else if c = '\x7d' then
      match nested with
      | 0 => some [c]
      | n + 1 => (balancedSpan? .outside n rest).map (c :: ·)
    else (balancedSpan? .outside nested rest).map (c :: ·)

/-- What is left of an object behind its opening brace, up to its end. -/
def ObjectScan.span? : ObjectScan → Text → Option Text
  | firstBrace => firstBraceSpan?
  | balanced => balancedSpan? .outside 0

/-- Why there is no object. -/
inductive ObjectAbsence where
  /-- The name does not occur. -/
  | noName (name : Text)
  /-- There is no opening brace from the name on. -/
  | noBrace
  /-- The object does not end. -/
  | noEnd
deriving DecidableEq

/-- The object that follows the first occurrence of a name, braces included. -/
def extractObject (scan : ObjectScan) (name message : Text) : Except ObjectAbsence Text :=
  match fromFirst? name message with
  | none => .error (.noName name)
  | some fromName =>
    match fromName.dropWhile (· != '\x7b') with
    | [] => .error .noBrace
    | brace :: inner =>
      match scan.span? inner with
      | none => .error .noEnd
      | some object => .ok (brace :: object)

end FlatJson
