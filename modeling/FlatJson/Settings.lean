import FlatJson.Object
import FlatJson.Error

/-!
# Settings

The defaults that operations fall back on: the zone in which timestamps are shown and the way in
which the end of an object is found. They come from variables of the environment or from arguments,
which win. The names of both are compared without regard to the case of ASCII letters, which are
all that they consist of; of several variables with one name the last counts, of several arguments
the first.

* `Environment.assign` and `Environment.remove` change a variable, `Environment.setting?` and
  `Arguments.setting?` look up a setting.
* `Settings.ofEnvironment` are the settings that an environment determines, `Settings.build` those
  of arguments and an environment.
-/

namespace FlatJson

/-- The defaults of operations. -/
structure Settings where
  /-- The name of the zone in which timestamps are shown; the zone of the host if there is none. -/
  zone : Option String
  /-- How the end of an object is found. -/
  scan : ObjectScan
deriving DecidableEq

/-- The name of a scan in the settings. -/
def ObjectScan.name : ObjectScan → String
  | firstBrace => "first_brace"
  | balanced => "balanced"

/-- The scan of a name. -/
def ObjectScan.ofName? (name : String) : Option ObjectScan :=
  if name = "first_brace" then some .firstBrace
  else if name = "balanced" then some .balanced
  else none

theorem ObjectScan.ofName?_name (s : ObjectScan) : ofName? s.name = some s := by
  cases s <;> simp [name, ofName?]

/-- The variables with their values, in the order in which they were first assigned. -/
abbrev Environment := List (String × String)

namespace Environment

/-- Give a variable a value; a new variable comes last. -/
def assign (name value : String) : Environment → Environment
  | [] => [(name, value)]
  | (n, v) :: more => if n = name then (name, value) :: more else (n, v) :: assign name value more

/-- Remove a variable. -/
def remove (name : String) (env : Environment) : Environment := env.filter (·.1 != name)

/-- The value of a variable whatever the case of its name, given in lower case; of several such
variables the last one counts. -/
def setting? (name : String) (env : Environment) : Option String :=
  (env.reverse.find? fun (n, _) => n.toLower == name).map (·.2)

end Environment

/-- An argument for a setting. -/
inductive SettingValue where
  /-- No value. -/
  | absent
  /-- A text. -/
  | text (s : String)
  /-- A value of another type that stands for a text. -/
  | readable (s : String)
  /-- A value that stands for no text. -/
  | other
deriving DecidableEq

/-- The arguments with their names, in order. -/
abbrev Arguments := List (String × SettingValue)

/-- Why an argument or a variable is no setting. -/
inductive SettingFault where
  /-- The zone is neither absent nor a text. -/
  | zoneNotText
  /-- The scan is not the name of one. -/
  | scanUnknown
  /-- There is no setting of this name. -/
  | unknownSetting (name : String)
deriving DecidableEq

/-- The value of an argument whatever the case of its name, given in lower case; of several such
arguments the first one counts. -/
def Arguments.setting? (name : String) (arguments : Arguments) : Option SettingValue :=
  (arguments.find? fun (n, _) => n.toLower == name).map (·.2)

namespace Settings

/-- The names of the settings, in lower case. -/
def names : List String := ["zone", "object_scan"]

/-- The zone that an argument or else a variable gives. -/
def zoneFrom (argument : Option SettingValue) (inherited : Option String) :
    Except SettingFault (Option String) :=
  match argument, inherited with
  | some .absent, _ => .ok none
  | some (.text s), _ | some (.readable s), _ => .ok (some s)
  | some .other, _ => .error .zoneNotText
  | none, v => .ok v

/-- The scan that an argument or else a variable gives; otherwise it is the first brace. Only a
text names a scan. -/
def scanFrom (argument : Option SettingValue) (inherited : Option String) :
    Except SettingFault ObjectScan :=
  let ofName (s : String) := (ObjectScan.ofName? s).elim (.error .scanUnknown) .ok
  match argument, inherited with
  | some (.text s), _ => ofName s
  | some .absent, _ | some (.readable _), _ | some .other, _ => .error .scanUnknown
  | none, some s => ofName s
  | none, none => .ok .firstBrace

/-- The fault of a result that is one. -/
def faultOf {α : Type} : Except SettingFault α → List SettingFault
  | .error fault => [fault]
  | .ok _ => []

/-- The settings of arguments and an environment, or all that is wrong with them: first the zone,
then the scan, then the arguments that are no settings, in order. -/
def build (arguments : Arguments) (env : Environment) : Except (List SettingFault) Settings :=
  let zone := zoneFrom (arguments.setting? "zone") (env.setting? "nats_json_zone")
  let scan := scanFrom (arguments.setting? "object_scan") (env.setting? "nats_json_object_scan")
  let unknown := arguments.filterMap fun (n, _) =>
    if n.toLower ∈ names then none else some (SettingFault.unknownSetting n)
  match zone, scan, unknown with
  | .ok z, .ok s, [] => .ok ⟨z, s⟩
  | _, _, _ => .error (faultOf zone ++ faultOf scan ++ unknown)

/-- The settings that an environment determines. -/
def ofEnvironment (env : Environment) : Except Error Settings :=
  match build [] env with
  | .ok s => .ok s
  | .error _ => .error .invalidSettings

end Settings

end FlatJson
