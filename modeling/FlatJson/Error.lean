import FlatJson.Kind

/-!
# Errors

Why an operation refuses its operands or the settings in force.

* `Error.message` words each of them.
-/

namespace FlatJson

/-- What is wrong with a timestamp. -/
inductive TimestampFault where
  /-- The text is not written as a timestamp. -/
  | shape
  /-- A field, the offset, or the instant in one of the two zones is out of range. -/
  | range
deriving DecidableEq

/-- Why an operation fails. -/
inductive Error where
  /-- The text is not an instant. -/
  | malformedTimestamp (text : Text) (fault : TimestampFault)
  /-- No kind can be inferred for a value of this type. -/
  | cannotEncode (typeName : String)
  /-- The label is not a kind of value. -/
  | unknownKind (label : KindLabel)
  /-- A value of this type does not fit the kind. -/
  | cannotWrite (typeName : String) (kind : ValueKind)
  /-- There is no zone of this name. -/
  | unknownZone (name : String)
  /-- The zone database fails on this name. -/
  | zoneFailure (name : String)
  /-- The environment holds a value that is no setting. -/
  | invalidSettings
  /-- The kind cannot be looked up. -/
  | unkeyedKind
  /-- The message to be matched or extended is not a text. -/
  | notText
  /-- The message to be searched is not a text. -/
  | notSearchable
  /-- The value cannot be compared with zero. -/
  | notOrdered
  /-- The value has no length. -/
  | notSized
  /-- The value has no elements. -/
  | notListed
  /-- The value cannot be an element of a set or a key of a table. -/
  | notKey
  /-- The value is not a duration. -/
  | notDuration
  /-- The value is not a date with a time of day. -/
  | notDateTime
  /-- A numeral has more digits than are read or written. -/
  | numeralTooLong
  /-- A number of nanoseconds exceeds the longest duration. -/
  | durationTooLong
deriving DecidableEq

/-- The wording of an error. -/
def Error.message : Error → String
  | malformedTimestamp text _ => "malformed timestamp: " ++ String.ofList (quoted text)
  | cannotEncode typeName => "cannot encode " ++ typeName ++ " value"
  | unknownKind label => "unknown value kind: " ++ label.display
  | cannotWrite typeName kind => "cannot write " ++ typeName ++ " value as " ++ kind.name
  | unknownZone name => "unknown zone: " ++ String.ofList (quoted name.toList)
  | zoneFailure name => "the zone database fails on " ++ String.ofList (quoted name.toList)
  | invalidSettings => "invalid NATS_JSON_* settings"
  | unkeyedKind => "the kind cannot be looked up"
  | notText => "the message is not a text"
  | notSearchable => "the message cannot be searched"
  | notOrdered => "the value cannot be compared with zero"
  | notSized => "the value has no length"
  | notListed => "the value has no elements"
  | notKey => "the value cannot be an element of a set or a key of a table"
  | notDuration => "the value is not a duration"
  | notDateTime => "the value is not a date with a time of day"
  | numeralTooLong => "the numeral has too many digits"
  | durationTooLong => "the duration is too long"

end FlatJson
