import FlatJson.Field.StringArray
import FlatJson.Session
import FlatJson.Value.Basic

/-!
# Commands

The operations of a session as data: questions about a received message, about timestamps and
zones, and changes of the settings. A received message may be any value; all questions refuse one
that is not a text.

* `Command.run` carries out a command, `Session.runAll` a row of them, of which those that fail do
  not stop the others.
* `Outcome.notices` is what an outcome leaves in the log.
-/

namespace FlatJson

/-- A question about a received message. -/
inductive Query where
  /-- All places of a field of a kind. -/
  | places (name : Text) (kind : KindLabel)
  /-- What the leftmost field of a kind captures. -/
  | field (name : Text) (kind : KindLabel)
  /-- The text of a string field. -/
  | string (name : Text)
  /-- The value of a number field. -/
  | number (name : Text)
  /-- The value of a truth field. -/
  | truth (name : Text)
  /-- The duration that a number field gives. -/
  | duration (name : Text)
  /-- The instant that a string field names, shown in a zone. -/
  | timestamp (name : Text) (zone : Option ZoneChoice)
  /-- The object that follows a name. -/
  | object (name : Text) (scan : Option ObjectScan)
  /-- The elements of an array field, if there is one. -/
  | array (name : Text)
  /-- The elements of an array field; an absent field has none. -/
  | arrayOrEmpty (name : Text)

/-- An operation of a session. -/
inductive Command where
  /-- Look up the settings. -/
  | settings
  /-- Forget the settings. -/
  | clearSettings
  /-- Give a variable of the environment a value, or remove it. -/
  | setVariable (name : String) (value : Option String)
  /-- Look up a zone. -/
  | zone (choice : Option ZoneChoice)
  /-- Read the instant that a text names, shown in a zone. -/
  | timestamp (text : Value) (choice : Option ZoneChoice)
  /-- Answer a question about a message. -/
  | ask (query : Query) (message : Value)

/-- What a command gives back. -/
inductive Answer where
  /-- Nothing. -/
  | nothing
  /-- Settings. -/
  | settings (s : Settings)
  /-- Where timestamps are shown. -/
  | zone (d : Destination)
  /-- An instant in a zone. -/
  | moment (m : Moment)
  /-- A text. -/
  | text (t : Text)
  /-- A number. -/
  | number (n : Nat)
  /-- A truth value. -/
  | truth (b : Bool)
  /-- A duration. -/
  | duration (d : Duration)
  /-- The elements of an array. -/
  | texts (ts : List Text)
  /-- The places of a field. -/
  | places (ps : List Occurrence)
  /-- There is no object. -/
  | noObject (why : ObjectAbsence)

/-- An answer that may be missing. -/
def Answer.ofOption {α : Type} (f : α → Answer) : Option α → Answer
  | none => .nothing
  | some a => f a

/-- The text of a message that is one; `refusal` otherwise. -/
def Value.textOr (refusal : Error) : Value → Except Error Text
  | .text t => .ok t
  | _ => .error refusal

/-- The answer to a question about a message. -/
def Query.answer (message : Value) : Query → Session.Run Answer
  | places name kind => do
    let template ← kind.template
    let text ← message.textOr .notText
    return .places ((fieldPattern name template).occurrences text)
  | field name kind => do
    let template ← kind.template
    let text ← message.textOr .notText
    return .ofOption .text ((fieldPattern name template).find? text)
  | string name => do
    return .ofOption .text (readString? name (← message.textOr .notText))
  | number name => do
    return .ofOption .number (← readNumber name (← message.textOr .notText))
  | truth name => do
    return .ofOption .truth (readBool? name (← message.textOr .notText))
  | duration name => do
    return .ofOption .duration (← readDuration name (← message.textOr .notText))
  | timestamp name zone => do
    return .ofOption .moment (← Session.readTimestamp name (← message.textOr .notText) zone)
  | object name choice => do
    let scan ← Session.scan choice
    match extractObject scan name (← message.textOr .notSearchable) with
    | .ok found => return .text found
    | .error why => return .noObject why
  | array name => do
    return .ofOption .texts (findStringArray? name (← message.textOr .notText))
  | arrayOrEmpty name => do
    return .texts (readStringArray name (← message.textOr .notText))

/-- Carry out a command. -/
def Command.run : Command → Session.Run Answer
  | settings => return .settings (← Session.settings)
  | clearSettings => do
    Session.clearSettings
    return .nothing
  | setVariable name value => do
    Session.setVariable name value
    return .nothing
  | zone choice => return .zone (← Session.zone choice)
  | timestamp text choice => do
    return .moment (← Session.timestamp (← text.textOr .notText) choice)
  | ask query message => query.answer message

/-- What a command brings about. -/
abbrev Outcome := Except Error Answer

/-- Carry out commands in turn; one that fails does not stop the others. -/
def Session.runAll : List Command → Session → List Outcome × Session
  | [], s => ([], s)
  | command :: more, s =>
    let (outcome, s) := command.run.run s
    let (outcomes, s) := runAll more s
    (outcome :: outcomes, s)

/-! ### The log -/

/-- What is noted in the log. -/
inductive Notice where
  /-- The name of an object does not occur in the message. -/
  | noObject (name : Text)
  /-- A text is not a timestamp. -/
  | rejected (text : Text) (fault : TimestampFault)
deriving DecidableEq

namespace Notice

/-- The wording of a notice, with a place for each of its details. -/
def template : Notice → String
  | noObject _ => "object %r not found"
  | rejected _ .shape => "rejecting timestamp %r"
  | rejected _ .range => "rejecting timestamp %r: %s"

/-- The first detail of a notice. -/
def detail : Notice → Text
  | noObject name => name
  | rejected text _ => text

end Notice

/-- What an outcome leaves in the log. -/
def Outcome.notices : Outcome → List Notice
  | .ok (.noObject (.noName name)) => [.noObject name]
  | .error (.malformedTimestamp text fault) => [.rejected text fault]
  | _ => []

end FlatJson
