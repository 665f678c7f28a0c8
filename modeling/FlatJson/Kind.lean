import FlatJson.Text.Quoted

/-!
# Kinds of fields and of values

A field is read as one of the `FieldKind`s and a value is written as one of the `ValueKind`s. A
caller names a kind by a `KindLabel`, which need not be one that the operation knows.
-/

namespace FlatJson

/-- What the value of a field is read as. -/
inductive FieldKind where
  /-- One of the words `true` and `false`. -/
  | boolean
  /-- A text in double quotes. -/
  | string
  /-- A row of digits. -/
  | number
  /-- A nested object; it is read as a string. -/
  | object
  /-- A list in brackets. -/
  | stringArray
deriving DecidableEq

/-- What a value is written as. -/
inductive ValueKind where
  /-- A text in double quotes. -/
  | string
  /-- One of the words `true` and `false`. -/
  | boolean
  /-- A decimal numeral. -/
  | integer
  /-- A number of nanoseconds. -/
  | duration
  /-- A list of texts in brackets. -/
  | stringArray
  /-- A date and a time of day in double quotes. -/
  | timestamp
deriving DecidableEq

/-- What a caller may give as a kind. -/
inductive KindLabel where
  /-- A kind of field. -/
  | field (k : FieldKind)
  /-- A kind of value. -/
  | value (k : ValueKind)
  /-- No kind. -/
  | absent
  /-- A text. -/
  | named (t : Text)
  /-- Something else that can be looked up in a table of kinds, as a diagnostic shows it. -/
  | other (shown : Text)
  /-- Something that cannot be looked up in a table of kinds. -/
  | unkeyed
deriving DecidableEq

/-- The name of the kind. -/
def FieldKind.name : FieldKind → String
  | boolean => "Boolean"
  | string => "String"
  | number => "Number"
  | object => "Object"
  | stringArray => "StringArray"

/-- The place of the kind among the kinds of fields, counted from one. -/
def FieldKind.ordinal : FieldKind → Nat
  | boolean => 1
  | string => 2
  | number => 3
  | object => 4
  | stringArray => 5

/-- The name of the kind. -/
def ValueKind.name : ValueKind → String
  | string => "String"
  | boolean => "Boolean"
  | integer => "Integer"
  | duration => "Duration"
  | stringArray => "StringArray"
  | timestamp => "Timestamp"

/-- The place of the kind among the kinds of values, counted from one. -/
def ValueKind.ordinal : ValueKind → Nat
  | string => 1
  | boolean => 2
  | integer => 3
  | duration => 4
  | stringArray => 5
  | timestamp => 6

namespace KindLabel

/-- The name of a kind with the name of its family. -/
def qualifiedName : KindLabel → String
  | field k => "FieldKind." ++ k.name
  | value k => "ValueKind." ++ k.name
  | absent => "None"
  | named t => String.ofList t
  | other shown => String.ofList shown
  | unkeyed => "[]"

/-- The label as a diagnostic shows it. -/
def display : KindLabel → String
  | field k => "<FieldKind." ++ k.name ++ ": " ++ toString k.ordinal ++ ">"
  | value k => "<ValueKind." ++ k.name ++ ": " ++ toString k.ordinal ++ ">"
  | absent => "None"
  | named t => String.ofList (quoted t)
  | other shown => String.ofList shown
  | unkeyed => "[]"

end KindLabel

end FlatJson
