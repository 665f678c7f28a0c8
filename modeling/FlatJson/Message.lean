import FlatJson.Value.Printer

/-!
# Writing messages

A message is written field by field: each one is appended with a comma behind it, and the comma of
the last one is taken away when the object is closed. A message is always written at its end.
Nothing is escaped, and what is not worth writing is left out.

* `ValueKind.encode` is the text of a value, `fragment?` that of a field.
* `Message.add` appends a field, `Message.addAll` a row of them, `Message.closed` ends the object.
-/

namespace FlatJson

/-- The text of a value that is written as this kind. -/
def ValueKind.encode (k : ValueKind) (v : Value) : Except Error Text :=
  match k, v with
  | .string, v => v.plainText.map inQuotes
  | .boolean, v => .ok (truthWord v.countsAsTrue)
  | .integer, v => v.plainText
  | .duration, .duration d => integerText d.nanos
  | .duration, _ => .error .notDuration
  | .stringArray, v => do
    let parts ← (← v.elements).mapM Value.plainText
    return '[' :: [','].intercalate (parts.map inQuotes) ++ [']']
  | .timestamp, .dateTime clock _ => .ok (inQuotes (clock.render ++ ['Z']))
  | .timestamp, _ => .error .notDateTime

/-- The kind as which a value is written: the one of the label, or the value's own without a
label. -/
def resolveKind (label : KindLabel) (v : Value) : Except Error ValueKind :=
  match label with
  | .absent => v.inferKind
  | label => ValueKind.ofLabel label

/-- What is written for a field of this kind, if anything. -/
def ValueKind.fragment? (k : ValueKind) (name : Text) (v : Value) : Except Error (Option Text) := do
  k.check v
  if ← k.worthWriting v then
    let encoded ← k.encode v
    return some (inQuotes name ++ ':' :: ' ' :: encoded ++ [','])
  else return none

/-- What is written for a field, if anything. Absence without a kind writes nothing. -/
def fragment? (name : Text) (v : Value) (label : KindLabel) : Except Error (Option Text) :=
  if label = .absent ∧ v.isAbsent then .ok none
  else do (← resolveKind label v).fragment? name v

/-- A message in the course of writing. What comes next is written behind its content: nobody moves
to another place in it. -/
structure Message where
  /-- What has been written. -/
  content : Text
deriving DecidableEq

/-- A call that appends a field. -/
structure Addition where
  /-- The name of the field. -/
  name : Text
  /-- Its value. -/
  value : Value
  /-- As what it is to be written; the value's own kind if the label is absent. -/
  kind : KindLabel

namespace Message

/-- A message with nothing in it. -/
def empty : Message := ⟨[]⟩

/-- A message that begins with an opening brace. -/
def opened : Message := ⟨['\x7b']⟩

/-- The message with a text behind it. -/
def append (m : Message) (t : Text) : Message := ⟨m.content ++ t⟩

/-- The message with a field behind it. -/
def add (m : Message) (a : Addition) : Except Error Message :=
  (fragment? a.name a.value a.kind).map fun t => m.append (t.getD [])

/-- The message after a row of calls, of which those that fail leave it as it is. -/
def addAll (m : Message) (calls : List Addition) : Message :=
  calls.foldl (fun m a => (m.add a).toOption.getD m) m

/-- The text of the closed object: without the comma behind the last field. -/
def closed (m : Message) : Text :=
  (if m.content.getLast? = some ',' then m.content.dropLast else m.content) ++ ['\x7d']

end Message

end FlatJson
