import FlatJson.Field.Scalar
import FlatJson.Settings
import FlatJson.Timestamp

/-!
# Sessions

Operations that fall back on settings. The settings are looked up in the environment when an
operation needs them for the first time, and then kept until they are cleared; a look-up that fails
is not remembered.

* `Session.lookUp` finds the settings in force, and `Session.settings` is that as an operation.
* `Session.zone`, `Session.scan`, `Session.timestamp` and `Session.readTimestamp` take the value of
  an omitted operand from the settings.
-/

namespace FlatJson

/-- What operations share. -/
structure Session where
  /-- The variables of the environment. -/
  environment : Environment
  /-- The settings that have been looked up since they were last cleared. -/
  kept : Option Settings
  /-- The clock of the host. -/
  host : HostClock
  /-- The zones that are known by name. -/
  zones : ZoneDatabase

/-- A zone as an operand. -/
inductive ZoneChoice where
  /-- A zone by its name. -/
  | named (name : String)
  /-- A fixed offset. -/
  | fixed (offset : UtcOffset)
deriving DecidableEq

/-- The zone that a choice stands for. -/
def ZoneChoice.resolve (zones : ZoneDatabase) : ZoneChoice → Except Error Zone
  | named name => Zone.ofName zones name
  | fixed offset => .ok (.fixed offset none)

namespace Session

/-- An operation of a session: it may fail, and what it leaves is kept also then. -/
abbrev Run (α : Type) := ExceptT Error (StateM Session) α

/-- A session that begins with these variables, on a host with this clock and this database of
zones. -/
def start (environment : Environment) (host : HostClock) (zones : ZoneDatabase) : Session :=
  ⟨environment, none, host, zones⟩

/-- Give a variable a value, or remove it. -/
def setVariable (name : String) (value : Option String) : Run Unit :=
  modify fun s =>
    { s with environment := match value with
      | some v => s.environment.assign name v
      | none => s.environment.remove name }

/-- Forget the settings that have been looked up. -/
def clearSettings : Run Unit := modify fun s => { s with kept := none }

/-- The settings in force, and the session that remembers them. -/
def lookUp (s : Session) : Except Error Settings × Session :=
  match s.kept with
  | some found => (.ok found, s)
  | none =>
    match Settings.ofEnvironment s.environment with
    | .ok found => (.ok found, { s with kept := some found })
    | .error e => (.error e, s)

/-- Look up the settings in force. -/
def settings : Run Settings := ExceptT.mk lookUp

theorem run_settings (s : Session) : settings.run s = s.lookUp := rfl

/-- The zone that is chosen, or else the one of the settings, or else that of the host. -/
def zone (choice : Option ZoneChoice) : Run Destination := do
  match choice with
  | some c => return .zone (← c.resolve (← get).zones)
  | none =>
    match (← settings).zone with
    | some name => return .zone (← Zone.ofName (← get).zones name)
    | none => return .host (← get).host

/-- The instant that a text names, shown in a zone. The zone is looked up once the text is known
to be written as a timestamp. -/
def timestamp (text : Text) (choice : Option ZoneChoice) : Run Moment := do
  if (Timestamp.read? text).isNone then throw (.malformedTimestamp text .shape)
  parseTimestamp text (← zone choice)

/-- The instant that a string field names, shown in a zone, if the message has the field. -/
def readTimestamp (name message : Text) (choice : Option ZoneChoice) : Run (Option Moment) := do
  match readString? name message with
  | none => return none
  | some text => return some (← timestamp text choice)

/-- The scan that is chosen, or else the one of the settings. -/
def scan (choice : Option ObjectScan) : Run ObjectScan := do
  match choice with
  | some chosen => return chosen
  | none => return (← settings).scan

end Session

end FlatJson
