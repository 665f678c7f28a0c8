import FlatJson.Zone.Rule

/-!
# A database of rules

A database may be a table of rules. This one has rules for some zones, of those that hold today;
names are compared exactly.

* `namedRule?` is the rule of a zone's name.
* `ruledZones` is the database.
-/

namespace FlatJson

/-- An offset of hours and minutes ahead of universal time. -/
def hoursAhead (hours : Int) (minutes : Int := 0)
    (gt : -86400 < hours * 3600 + minutes * 60 := by decide)
    (lt : hours * 3600 + minutes * 60 < 86400 := by decide) : UtcOffset :=
  ⟨hours * 3600 + minutes * 60, gt, lt⟩

/-- The changeover of a week's Sunday in a month, at an hour and minute. -/
def sundayAt (month week : Nat) (hour : Int) (minute : Int := 0)
    (hmonth : 1 ≤ month ∧ month ≤ 12 := by decide) (hweek : 1 ≤ week ∧ week ≤ 5 := by decide) :
    Changeover :=
  ⟨month, week, 0, hour * 3600 + minute * 60, hmonth, hweek, by decide⟩

/-- Daylight time from the second Sunday of March to the first one of November. -/
def fromMarchToNovember (offset : UtcOffset) : Daylight :=
  ⟨offset, sundayAt 3 2 2, sundayAt 11 1 2⟩

/-- Names of zones with the rules that they have. -/
def namedRules : List (String × Rule) :=
  [("Asia/Tokyo", ⟨hoursAhead 9, none⟩),
    ("Asia/Kolkata", ⟨hoursAhead 5 30, none⟩),
    ("Asia/Kathmandu", ⟨hoursAhead 5 45, none⟩),
    ("America/Sao_Paulo", ⟨hoursAhead (-3), none⟩),
    ("Pacific/Kiritimati", ⟨hoursAhead 14, none⟩),
    ("Etc/GMT-14", ⟨hoursAhead 14, none⟩),
    ("Etc/GMT+5", ⟨hoursAhead (-5), none⟩),
    ("GMT", ⟨hoursAhead 0, none⟩),
    ("Etc/UCT", ⟨hoursAhead 0, none⟩),
    ("Universal", ⟨hoursAhead 0, none⟩),
    ("Etc/Zulu", ⟨hoursAhead 0, none⟩),
    ("America/New_York", ⟨hoursAhead (-5), some (fromMarchToNovember (hoursAhead (-4)))⟩),
    ("America/St_Johns",
      ⟨hoursAhead (-3) (-30), some (fromMarchToNovember (hoursAhead (-2) (-30)))⟩),
    ("Europe/Berlin", ⟨hoursAhead 1, some ⟨hoursAhead 2, sundayAt 3 5 2, sundayAt 10 5 3⟩⟩),
    ("Europe/London", ⟨hoursAhead 0, some ⟨hoursAhead 1, sundayAt 3 5 1, sundayAt 10 5 2⟩⟩),
    ("Australia/Lord_Howe",
      ⟨hoursAhead 10 30, some ⟨hoursAhead 11, sundayAt 10 1 2, sundayAt 4 1 2⟩⟩),
    ("Australia/Sydney",
      ⟨hoursAhead 10, some ⟨hoursAhead 11, sundayAt 10 1 2, sundayAt 4 1 3⟩⟩),
    ("Pacific/Chatham",
      ⟨hoursAhead 12 45, some ⟨hoursAhead 13 45, sundayAt 9 5 2 45, sundayAt 4 1 3 45⟩⟩)]

/-- The rule of the zone of this name. -/
def namedRule? (name : String) : Option Rule := namedRules.lookup name

/-- The database of the zones with these rules. -/
def ruledZones : ZoneDatabase := fun name =>
  match namedRule? name with
  | some rule => .found rule.clock
  | none => .refused

theorem ruledZones_of_some {name : String} {rule : Rule} (h : namedRule? name = some rule) :
    ruledZones name = .found rule.clock := by
  rw [ruledZones, h]

theorem ruledZones_of_none {name : String} (h : namedRule? name = none) :
    ruledZones name = .refused := by
  rw [ruledZones, h]

end FlatJson
