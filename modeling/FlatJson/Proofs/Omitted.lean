import FlatJson.Command
import FlatJson.Proofs.Operation
import FlatJson.Proofs.Spelling

/-!
# Omitted operands

A zone or a scan that is left out is taken from the settings. Whether a command looks them up can be
told from its operands alone; if it does, its outcome depends on nothing of the session but the
settings in force, the clock of the host and the zone database, and if it does not, on the zone
database only.

* `Command.LooksUp` are the commands that look up the settings.
* `ZoneTaker.outcome_given`: a command that takes a zone has its `outcomeAt` the zone it is given.
* `Command.run_of_not_looksUp`: the other commands have the same outcome in every session with the
  same zones.
* `Supplied` is the outcome with the value of the settings given as an operand, and
  `Command.uses_lookUp`: a command that looks them up has this outcome or fails with the look-up.
-/

namespace FlatJson

/-- The outcome of a command in a session. -/
def Command.outcome (c : Command) (s : Session) : Outcome := (c.run.run s).1

/-- The session that a command leaves. -/
def Command.after (c : Command) (s : Session) : Session := (c.run.run s).2

/-- The commands that look up the settings: they ask for them, or leave out an operand and come to
the point where it is needed. An object's scan is needed in any case, a timestamp's zone only if
there is a text and it is written as a timestamp. -/
def Command.LooksUp : Command → Prop
  | settings => True
  | zone none => True
  | timestamp (.text t) none => ∃ w : Timestamp, w.IsSpelling t
  | ask (.timestamp name none) (.text m) =>
    ∃ t, readString? name m = some t ∧ ∃ w : Timestamp, w.IsSpelling t
  | ask (.object _ none) _ => True
  | _ => False

/-- The environment that a command leaves. -/
def Command.changed (env : Environment) : Command → Environment
  | setVariable name (some value) => env.assign name value
  | setVariable name none => env.remove name
  | _ => env

/-- What a command does to a session, a look-up apart. -/
def Command.effect : Command → Session → Session
  | clearSettings, s => { s with kept := none }
  | c, s => { s with environment := c.changed s.environment }

/-- Where a session shows timestamps when their zone is left out: in the zone of the settings, or
else on the clock of the host. -/
def Settings.destination (found : Settings) (s : Session) : Except Error Destination :=
  match found.zone with
  | some name => (Zone.ofName s.zones name).map .zone
  | none => .ok (.host s.host)

theorem Settings.destination_named {found : Settings} {name : String} (h : found.zone = some name)
    (s : Session) : found.destination s = (Zone.ofName s.zones name).map .zone := by
  rw [destination, h]

theorem Settings.destination_host {found : Settings} (h : found.zone = none) (s : Session) :
    found.destination s = .ok (.host s.host) := by
  rw [destination, h]

/-! ### Commands that take a zone -/

/-- The commands that take a zone. -/
inductive ZoneTaker where
  /-- Look up a zone. -/
  | zone
  /-- Read the instant that a text names. -/
  | timestamp (text : Value)
  /-- Read the instant that a field of a message names. -/
  | field (name : Text) (message : Value)

namespace ZoneTaker

/-- The command with its zone, which may be left out. -/
def command : ZoneTaker → Option ZoneChoice → Command
  | zone, choice => .zone choice
  | timestamp text, choice => .timestamp text choice
  | field name message, choice => .ask (.timestamp name choice) message

/-- The outcome when the zone leads to a destination. -/
def outcomeAt (d : Destination) : ZoneTaker → Outcome
  | zone => .ok (.zone d)
  | timestamp (.text t) => (parseTimestamp t d).map .moment
  | field name (.text m) =>
    match readString? name m with
    | none => .ok .nothing
    | some t => (parseTimestamp t d).map .moment
  | timestamp _ | field _ _ => .error .notText

end ZoneTaker

namespace Session

theorem lookUp_of_kept {s : Session} {found : Settings} (h : s.kept = some found) :
    s.lookUp = (.ok found, s) := by
  rw [lookUp, h]

theorem lookUp_of_none {s : Session} (h : s.kept = none) :
    s.lookUp.1 = Settings.ofEnvironment s.environment := by
  rw [lookUp, h]
  cases Settings.ofEnvironment s.environment <;> rfl

/-- A look-up leaves the clock of the host and the zones as they are. -/
theorem lookUp_keeps (s : Session) :
    s.lookUp.2.host = s.host ∧ s.lookUp.2.zones = s.zones := by
  unfold lookUp
  split
  · exact ⟨rfl, rfl⟩
  · split <;> exact ⟨rfl, rfl⟩

/-- A zone that is left out is that of the settings or of the host. -/
theorem run_zone_none (s : Session) : (zone none).run s = match s.lookUp with
    | (.ok found, s') => (found.destination s, s')
    | (.error e, s') => (.error e, s') := by
  have hkeeps := s.lookUp_keeps
  unfold zone
  simp only [run_bind, run_settings]
  rcases hlookUp : s.lookUp with ⟨_ | found, s'⟩
  · rfl
  · rw [hlookUp] at hkeeps
    obtain ⟨hhost, hzones⟩ : s'.host = s.host ∧ s'.zones = s.zones := hkeeps
    cases hz : found.zone with
    | none =>
      simp only [hz, Settings.destination_host hz, ← hhost]
      rfl
    | some name =>
      simp only [hz, Settings.destination_named hz, ← hzones, run_bind, run_get, run_lift]
      cases Zone.ofName s'.zones name <;> rfl

end Session

namespace ZoneTaker

variable (x : ZoneTaker) (choice : Option ZoneChoice) (s : Session)

/-- A command that needs its zone finds it first. -/
theorem run_command (h : (x.command none).LooksUp) :
    (x.command choice).run.run s = match (Session.zone choice).run s with
      | (.ok d, s') => (x.outcomeAt d, s')
      | (.error e, s') => (.error e, s') := by
  cases x with
  | zone =>
    simp only [command, Command.run, Session.run_bind]
    rcases (Session.zone choice).run s with ⟨_ | d, s'⟩ <;> rfl
  | timestamp text =>
    cases text with
    | text t =>
      have hrun := Session.run_timestamp h choice s
      simp only [command, Command.run, Value.textOr, Session.run_bind, Session.run_lift, hrun]
      rcases (Session.zone choice).run s with ⟨_ | d, s'⟩
      · rfl
      · simp only [outcomeAt]
        cases parseTimestamp t d <;> rfl
    | _ => exact absurd h id
  | field name message =>
    cases message with
    | text m =>
      obtain ⟨t, ht, hw⟩ := h
      have hrun := Session.run_timestamp hw choice s
      simp only [command, Command.run, Query.answer, Value.textOr, Session.readTimestamp, ht,
        Session.run_bind, Session.run_lift, hrun]
      rcases (Session.zone choice).run s with ⟨_ | d, s'⟩
      · rfl
      · simp only [outcomeAt, ht]
        cases parseTimestamp t d <;> rfl
    | _ => exact absurd h id

/-- To a command that does not need its zone it does not matter. -/
theorem run_command_other (h : ¬(x.command none).LooksUp) (d : Destination) :
    (x.command choice).run.run s = (x.outcomeAt d, s) := by
  cases x with
  | zone => exact absurd trivial h
  | timestamp text =>
    cases text with
    | text t =>
      have hrun := Session.run_timestamp_other h choice s d
      simp only [command, Command.run, Value.textOr, Session.run_bind, Session.run_lift, hrun,
        outcomeAt]
      cases parseTimestamp t d <;> rfl
    | _ => rfl
  | field name message =>
    cases message with
    | text m =>
      simp only [command, Command.run, Query.answer, Value.textOr, Session.readTimestamp,
        Session.run_bind, Session.run_lift, outcomeAt]
      cases ht : readString? name m with
      | none => rfl
      | some t =>
        have hrun := Session.run_timestamp_other (fun hw => h ⟨t, ht, hw⟩) choice s d
        simp only [Session.run_bind, hrun]
        cases parseTimestamp t d <;> rfl
    | _ => rfl

/-- A command that needs its zone and is given one looks at nothing but the zone database. -/
theorem run_given (choice : ZoneChoice) (h : (x.command none).LooksUp) :
    (x.command (some choice)).run.run s =
      ((choice.resolve s.zones).bind fun z => x.outcomeAt (.zone z), s) := by
  rw [x.run_command (some choice) s h, Session.run_zone_some]
  cases choice.resolve s.zones <;> rfl

/-- With a zone that can be found the outcome is that of its destination. -/
theorem outcome_given {choice : ZoneChoice} {z : Zone} (hz : choice.resolve s.zones = .ok z) :
    (x.command (some choice)).outcome s = x.outcomeAt (.zone z) := by
  rw [Command.outcome]
  by_cases h : (x.command none).LooksUp
  · rw [x.run_given s choice h, hz]
    rfl
  · rw [x.run_command_other (some choice) s h (.zone z)]

theorem not_looksUp_given (choice : ZoneChoice) : ¬(x.command (some choice)).LooksUp := by
  cases x with
  | zone => exact id
  | timestamp text => cases text <;> exact id
  | field name message => cases message <;> exact id

theorem outcome_command_other (h : ¬(x.command none).LooksUp) :
    (x.command choice).outcome s = (x.command none).outcome s := by
  rw [Command.outcome, Command.outcome, x.run_command_other choice s h (.zone .utc),
    x.run_command_other none s h (.zone .utc)]

end ZoneTaker

/-! ### Operations that need nothing of the session but its zones -/

namespace Session

variable {α β : Type} {zones : ZoneDatabase}

/-- In the sessions with these zones the operation has one outcome, and it changes nothing. -/
def IsDetached (zones : ZoneDatabase) (x : Run α) : Prop :=
  ∃ o, ∀ s : Session, s.zones = zones → x.run s = (o, s)

theorem isDetached_lift (x : Except Error α) : IsDetached zones (liftM x : Run α) :=
  ⟨x, fun s _ => run_lift x s⟩

theorem isDetached_pure (a : α) : IsDetached zones (pure a : Run α) := ⟨.ok a, fun _ _ => rfl⟩

theorem IsDetached.bind {x : Run α} {f : α → Run β} (hx : IsDetached zones x)
    (hf : ∀ a, IsDetached zones (f a)) : IsDetached zones (x >>= f) := by
  obtain ⟨o, hx⟩ := hx
  cases o with
  | error e => exact ⟨.error e, fun s hs => by rw [run_bind, hx s hs]⟩
  | ok a =>
    obtain ⟨o, hf⟩ := hf a
    refine ⟨o, fun s hs => ?_⟩
    rw [run_bind, hx s hs]
    exact hf s hs

end Session

section
variable (zones : ZoneDatabase)

/-- A command that takes a zone is detached if the zone is given or not needed. -/
theorem ZoneTaker.isDetached {x : ZoneTaker} {choice : Option ZoneChoice}
    (h : ¬(x.command choice).LooksUp) : Session.IsDetached zones (x.command choice).run := by
  -- a command that needs its zone has been given it, and any destination will do for another
  by_cases hneeds : (x.command none).LooksUp
  · cases choice with
    | none => contradiction
    | some choice =>
      refine ⟨(choice.resolve zones).bind fun z => x.outcomeAt (.zone z), ?_⟩
      rintro s rfl
      exact x.run_given s choice hneeds
  · exact ⟨_, fun s _ => x.run_command_other choice s hneeds (.zone .utc)⟩

/-- A query is detached if it leaves out no operand. -/
theorem Query.isDetached_answer {q : Query} {message : Value}
    (h : ¬(Command.ask q message).LooksUp) : Session.IsDetached zones (q.answer message) := by
  have text (refusal : Error) :
      Session.IsDetached zones (liftM (message.textOr refusal) : Session.Run Text) :=
    Session.isDetached_lift _
  cases q with
  | places | field =>
    refine .bind (Session.isDetached_lift _) fun _ => .bind (text _) fun _ => ?_
    exact Session.isDetached_pure _
  | string | truth | array | arrayOrEmpty =>
    exact .bind (text _) fun _ => Session.isDetached_pure _
  | number | duration =>
    refine .bind (text _) fun _ => .bind (Session.isDetached_lift _) fun _ => ?_
    exact Session.isDetached_pure _
  | timestamp name choice => exact ZoneTaker.isDetached zones (x := .field name message) h
  | object name choice =>
    cases choice with
    | none => exact absurd trivial h
    | some scan =>
      refine .bind (Session.isDetached_pure scan) fun _ => .bind (text _) fun _ => ?_
      split <;> exact Session.isDetached_pure _

/-- **Commands that do not look up the settings.** Their outcome depends on nothing of the session
but its zones. -/
theorem Command.run_of_not_looksUp {c : Command} (h : ¬c.LooksUp) :
    ∃ o, ∀ s : Session, s.zones = zones → c.run.run s = (o, c.effect s) := by
  have detached {c : Command} (heffect : c.effect = id) (hc : Session.IsDetached zones c.run) :
      ∃ o, ∀ s : Session, s.zones = zones → c.run.run s = (o, c.effect s) := by
    rw [heffect]
    exact hc
  cases c with
  | settings => exact absurd trivial h
  | clearSettings => exact ⟨.ok .nothing, fun _ _ => rfl⟩
  | setVariable name value => cases value <;> exact ⟨.ok .nothing, fun _ _ => rfl⟩
  | zone choice => exact detached rfl (ZoneTaker.isDetached zones (x := .zone) h)
  | timestamp text choice =>
    exact detached rfl (ZoneTaker.isDetached zones (x := .timestamp text) h)
  | ask query message => exact detached rfl (Query.isDetached_answer zones h)

end

/-! ### Commands that look up the settings -/

/-- The outcome of a command with the value of the settings given as an operand. A zone that they
leave out as well is the clock of the host. -/
inductive Supplied (found : Settings) (s : Session) : Command → Outcome → Prop where
  /-- The settings themselves. -/
  | settings : Supplied found s .settings (.ok (.settings found))
  /-- The zone of the settings is given by its name. -/
  | named {x : ZoneTaker} {name : String} (h : found.zone = some name) :
      Supplied found s (x.command none) ((x.command (some (.named name))).outcome s)
  /-- The clock of the host stands for the zone that the settings leave out. -/
  | host {x : ZoneTaker} (h : found.zone = none) :
      Supplied found s (x.command none) (x.outcomeAt (.host s.host))
  /-- The scan of the settings is given. -/
  | scan (name : Text) (message : Value) : Supplied found s (.ask (.object name none) message)
      ((Command.ask (.object name (some found.scan)) message).outcome s)

/-- What a command does with a look-up that may fail. -/
structure Command.Uses (c : Command) (s : Session) (result : Except Error Settings × Session) :
    Prop where
  /-- With the settings found the outcome is as if their value were given. -/
  found : ∀ found, result.1 = .ok found → Supplied found s c (c.outcome s)
  /-- If none are found that is the outcome. -/
  failed : ∀ e, result.1 = .error e → c.outcome s = .error e
  /-- The session is as the look-up leaves it. -/
  after : c.after s = result.2

/-- It is enough to know how the command goes on when the settings are found. -/
theorem Command.uses_of_run {c : Command} {s : Session} {g : Settings → Outcome}
    (hrun : c.run.run s = match s.lookUp with
      | (.ok found, s') => (g found, s')
      | (.error e, s') => (.error e, s'))
    (hg : ∀ found, Supplied found s c (g found)) : c.Uses s s.lookUp := by
  rcases hlookUp : s.lookUp with ⟨_ | found, s'⟩
  all_goals
    rw [hlookUp] at hrun
    have houtcome := congrArg Prod.fst hrun
    have hafter := congrArg Prod.snd hrun
  · refine ⟨by simp, ?_, hafter⟩
    rintro e ⟨⟩
    exact houtcome
  · refine ⟨?_, by simp, hafter⟩
    rintro _ ⟨⟩
    change c.outcome s = g found at houtcome
    rw [houtcome]
    exact hg found

/-- A zone that is needed and left out is taken from the settings. -/
theorem ZoneTaker.uses_lookUp {x : ZoneTaker} (h : (x.command none).LooksUp) (s : Session) :
    (x.command none).Uses s s.lookUp := by
  refine Command.uses_of_run (g := fun found => (found.destination s).bind x.outcomeAt) ?_ ?_
  · rw [x.run_command none s h, Session.run_zone_none]
    rcases s.lookUp with ⟨_ | found, s'⟩
    · rfl
    · change (match (found.destination s, s') with
        | (.ok d, s') => (x.outcomeAt d, s')
        | (.error e, s') => (.error e, s')) = ((found.destination s).bind x.outcomeAt, s')
      cases found.destination s <;> rfl
  · intro found
    cases hz : found.zone with
    | none =>
      rw [Settings.destination_host hz]
      exact .host hz
    | some name =>
      -- the name is resolved in the same way when it is given
      have hgiven : (found.destination s).bind x.outcomeAt =
          (x.command (some (.named name))).outcome s := by
        rw [Command.outcome, x.run_given s (.named name) h, ZoneChoice.resolve,
          Settings.destination_named hz]
        cases Zone.ofName s.zones name <;> rfl
      rw [hgiven]
      exact .named hz

/-- A scan that is left out is taken from the settings, whatever the message is. -/
theorem Query.uses_lookUp (name : Text) (message : Value) (s : Session) :
    (Command.ask (.object name none) message).Uses s s.lookUp := by
  -- once the scan is known only the zones may matter, and they stay as they are
  have given (scan : ObjectScan) :
      Session.IsDetached s.zones (Query.answer message (.object name (some scan))) :=
    Query.isDetached_answer s.zones (q := .object name (some scan)) id
  have hzones := s.lookUp_keeps.2
  refine Command.uses_of_run ?_ fun found => .scan name message
  have hrun : (Command.ask (.object name none) message).run.run s = match s.lookUp with
      | (.ok found, s') => (Command.ask (.object name (some found.scan)) message).run.run s'
      | (.error e, s') => (.error e, s') := by
    simp only [Command.run, Query.answer, Session.scan, Session.run_bind, Session.run_settings]
    rcases s.lookUp with ⟨_ | found, s'⟩ <;> rfl
  rw [hrun]
  rcases hlookUp : s.lookUp with ⟨_ | found, s'⟩
  · rfl
  · rw [hlookUp] at hzones
    obtain ⟨o, ho⟩ := given found.scan
    have houtcome : (Command.ask (.object name (some found.scan)) message).outcome s = o :=
      congrArg Prod.fst (ho s rfl)
    exact (ho s' hzones).trans (congrArg (·, s') houtcome.symm)

theorem Command.outcome_settings (s : Session) :
    Command.settings.outcome s = s.lookUp.1.map .settings := by
  simp only [outcome, run, Session.run_bind, Session.run_settings]
  rcases s.lookUp with ⟨_ | found, s'⟩ <;> rfl

/-- **Commands that look up the settings.** Their outcome is as if the value that is found were
given, or they fail with the look-up. -/
theorem Command.uses_lookUp {c : Command} (h : c.LooksUp) (s : Session) : c.Uses s s.lookUp := by
  cases c with
  | settings =>
    refine Command.uses_of_run ?_ fun found => .settings
    simp only [Command.run, Session.run_bind, Session.run_settings]
    rcases s.lookUp with ⟨_ | found, s'⟩ <;> rfl
  | clearSettings | setVariable => exact absurd h id
  | zone choice =>
    cases choice with
    | none => exact ZoneTaker.uses_lookUp (x := .zone) h s
    | some choice => exact absurd h (ZoneTaker.zone.not_looksUp_given choice)
  | timestamp text choice =>
    cases choice with
    | none => exact ZoneTaker.uses_lookUp (x := .timestamp text) h s
    | some choice => exact absurd h ((ZoneTaker.timestamp text).not_looksUp_given choice)
  | ask query message =>
    cases query with
    | timestamp name choice =>
      cases choice with
      | none => exact ZoneTaker.uses_lookUp (x := .field name message) h s
      | some choice => exact absurd h ((ZoneTaker.field name message).not_looksUp_given choice)
    | object name choice =>
      cases choice with
      | none => exact Query.uses_lookUp name message s
      | some => exact absurd h id
    | _ => exact absurd h id

end FlatJson
