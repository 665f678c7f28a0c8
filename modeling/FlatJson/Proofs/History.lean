import FlatJson.Proofs.Environment
import FlatJson.Proofs.Omitted
import FlatJson.Zone.Posix

/-!
# Settings in force

The settings of a session are those of the environment as it was at the first successful look-up
since they were last cleared. What is kept of them is hidden state: here it is read off the history
of the session, whatever commands that is made of.

* `IsInForce` are the settings that a history has left in force; `NoneInForce` if it has left none.
* `Remembers` ties a session to its history, and `remembers_runAll` holds of every run.
* `takesSettings`: what a command does after any history.
-/

namespace FlatJson

/-! ### Histories -/

/-- The environment after a history. -/
def environmentAfter (env : Environment) (history : List Command) : Environment :=
  history.foldl Command.changed env

/-- Every look-up since the settings were last cleared has failed. -/
def NoneInForce (env : Environment) (history : List Command) : Prop :=
  ∀ before c after, history = before ++ c :: after → c.LooksUp → .clearSettings ∉ after →
    (environmentAfter env before).IsInvalid

/-- The settings that the first successful look-up since they were last cleared has found. -/
def IsInForce (env : Environment) (history : List Command) (found : Settings) : Prop :=
  ∃ before c after, history = before ++ c :: after ∧ c.LooksUp ∧ .clearSettings ∉ after ∧
    (environmentAfter env before).Determines found ∧ NoneInForce env before

/-- A place in a history that goes on by one command is the end or was there before. -/
theorem concat_cases {history before after : List Command} {c d : Command}
    (h : history ++ [c] = before ++ d :: after) :
    (after = [] ∧ history = before ∧ c = d) ∨
      ∃ after', after = after' ++ [c] ∧ history = before ++ d :: after' := by
  rcases List.eq_nil_or_concat after with rfl | ⟨after', e, rfl⟩
  · exact .inl ⟨rfl, List.append_singleton_inj.1 h⟩
  · have hassoc : before ++ d :: (after' ++ [e]) = (before ++ d :: after') ++ [e] := by simp
    rw [List.concat_eq_append, hassoc] at h
    obtain ⟨rfl, rfl⟩ := List.append_singleton_inj.1 h
    exact .inr ⟨after', by simp, rfl⟩

section
variable {env : Environment} {history : List Command} {c : Command} {found : Settings}

theorem noneInForce_nil : NoneInForce env [] := by
  intro before c after h
  simp at h

theorem noneInForce_clearSettings : NoneInForce env (history ++ [.clearSettings]) := by
  intro before d after h hd hafter
  rcases concat_cases h with ⟨-, -, rfl⟩ | ⟨after', rfl, -⟩
  · exact absurd hd id
  · simp at hafter

/-- A command that does not find settings leaves none in force. -/
theorem NoneInForce.concat (h : NoneInForce env history)
    (hc : c.LooksUp → (environmentAfter env history).IsInvalid) :
    NoneInForce env (history ++ [c]) := by
  intro before d after heq hd hafter
  -- the look-up in question is the last command or an earlier one
  rcases concat_cases heq with ⟨-, rfl, rfl⟩ | ⟨after', rfl, rfl⟩
  · exact hc hd
  · exact h before d after' rfl hd (by simp_all)

/-- Settings stay in force until they are cleared. -/
theorem IsInForce.concat (h : IsInForce env history found) (hc : c ≠ .clearSettings) :
    IsInForce env (history ++ [c]) found := by
  obtain ⟨before, d, after, rfl, hd, hafter, hfound, hnone⟩ := h
  refine ⟨before, d, after ++ [c], by simp, hd, ?_, hfound, hnone⟩
  simp [hafter, Ne.symm hc]

/-- A history does not leave settings in force and none as well. -/
theorem IsInForce.not_noneInForce (h : IsInForce env history found) : ¬NoneInForce env history := by
  intro hnone
  obtain ⟨before, d, after, rfl, hd, hafter, hfound, -⟩ := h
  exact hfound.scan.not_isInvalid (hnone before d after rfl hd hafter)

/-- A history leaves at most one choice of settings in force. -/
theorem IsInForce.unique {found' : Settings} (h : IsInForce env history found)
    (h' : IsInForce env history found') : found = found' := by
  obtain ⟨before, d, after, rfl, hd, hafter, hfound, hnone⟩ := h
  obtain ⟨before', d', after', heq, hd', hafter', hfound', hnone'⟩ := h'
  -- of two first successful look-ups neither comes before the other
  rcases List.append_eq_append_iff.1 heq with ⟨mid, rfl, hmid⟩ | ⟨mid, rfl, hmid⟩
  · cases mid with
    | nil =>
      rw [List.append_nil] at hfound'
      exact hfound.unique hfound'
    | cons e mid =>
      obtain ⟨rfl, rfl⟩ := List.cons.inj hmid
      exact absurd (hnone' before d mid rfl hd (by simp_all)) hfound.scan.not_isInvalid
  · cases mid with
    | nil =>
      rw [List.append_nil] at hfound
      exact hfound.unique hfound'
    | cons e mid =>
      obtain ⟨rfl, rfl⟩ := List.cons.inj hmid
      exact absurd (hnone before' d' mid rfl hd' (by simp_all)) hfound'.scan.not_isInvalid

/-- The first successful look-up puts settings in force. -/
theorem isInForce_first (h : NoneInForce env history) (hc : c.LooksUp)
    (hfound : (environmentAfter env history).Determines found) :
    IsInForce env (history ++ [c]) found :=
  ⟨history, c, [], rfl, hc, by simp, hfound, h⟩

end

/-! ### Sessions and their histories -/

/-- The session is one that this history has left. -/
structure Remembers (env : Environment) (host : HostClock) (zones : ZoneDatabase)
    (history : List Command) (s : Session) : Prop where
  /-- The environment has been changed by the commands and by nothing else. -/
  environment : s.environment = environmentAfter env history
  /-- The clock of the host is as it was. -/
  host : s.host = host
  /-- So are the zones that are known by name. -/
  zones : s.zones = zones
  /-- Settings that are kept are in force. -/
  kept : ∀ found, s.kept = some found → IsInForce env history found
  /-- If none are kept none are in force. -/
  cleared : s.kept = none → NoneInForce env history

theorem remembers_start (env : Environment) (host : HostClock) (zones : ZoneDatabase) :
    Remembers env host zones [] (.start env host zones) where
  environment := rfl
  host := rfl
  zones := rfl
  kept := by
    rintro found ⟨⟩
  cleared _ := noneInForce_nil

theorem changed_of_looksUp {c : Command} (h : c.LooksUp) (env : Environment) :
    c.changed env = env := by
  cases c with
  | setVariable => exact absurd h id
  | _ => rfl

theorem environmentAfter_concat (env : Environment) (history : List Command) (c : Command) :
    environmentAfter env (history ++ [c]) = c.changed (environmentAfter env history) := by
  simp [environmentAfter]

section
variable (c : Command) (s : Session)

theorem environment_effect : (c.effect s).environment = c.changed s.environment := by
  cases c <;> rfl

theorem effect_keeps : (c.effect s).host = s.host ∧ (c.effect s).zones = s.zones := by
  cases c <;> exact ⟨rfl, rfl⟩

theorem kept_effect (h : c ≠ .clearSettings) : (c.effect s).kept = s.kept := by
  cases c with
  | clearSettings => contradiction
  | _ => rfl

end

namespace Remembers

variable {env : Environment} {host : HostClock} {zones : ZoneDatabase} {history : List Command}
  {s : Session} {c : Command} (h : Remembers env host zones history s)
include h

/-- A look-up finds the settings in force and keeps them, or fails and leaves the session as it
was. -/
theorem lookUp (hc : c.LooksUp) :
    (∃ found, s.lookUp = (.ok found, { s with kept := some found }) ∧
        IsInForce env (history ++ [c]) found) ∨
      (s.kept = none ∧ s.lookUp = (.error .invalidSettings, s) ∧
        NoneInForce env (history ++ [c])) := by
  cases hkept : s.kept with
  | some found =>
    have hc' : c ≠ .clearSettings := by
      rintro rfl
      exact hc
    refine .inl ⟨found, ?_, (h.kept found hkept).concat hc'⟩
    simp only [Session.lookUp, hkept]
    rw [← hkept]
  | none =>
    have hnone := h.cleared hkept
    cases hfound : Settings.ofEnvironment s.environment with
    | ok found =>
      refine .inl ⟨found, by rw [Session.lookUp, hkept, hfound], ?_⟩
      rw [Settings.ofEnvironment_eq_ok_iff, h.environment] at hfound
      exact isInForce_first hnone hc hfound
    | error e =>
      obtain ⟨hinvalid, rfl⟩ := Settings.ofEnvironment_eq_error_iff.1 hfound
      refine .inr ⟨rfl, by rw [Session.lookUp, hkept, hfound], ?_⟩
      rw [h.environment] at hinvalid
      exact hnone.concat fun _ => hinvalid

/-- A command that does not look up the settings keeps those in force, unless it clears them. -/
theorem effect (hc : ¬c.LooksUp) : Remembers env host zones (history ++ [c]) (c.effect s) := by
  have henvironment : (c.effect s).environment = environmentAfter env (history ++ [c]) := by
    rw [environment_effect, environmentAfter_concat, h.environment]
  have hhost : (c.effect s).host = host := (effect_keeps c s).1.trans h.host
  have hzones : (c.effect s).zones = zones := (effect_keeps c s).2.trans h.zones
  by_cases hclear : c = .clearSettings
  · subst hclear
    exact ⟨henvironment, hhost, hzones, by simp [Command.effect],
      fun _ => noneInForce_clearSettings⟩
  · refine ⟨henvironment, hhost, hzones, ?_, ?_⟩
    all_goals rw [kept_effect c s hclear]
    · exact fun found hfound => (h.kept found hfound).concat hclear
    · exact fun hnone => (h.cleared hnone).concat fun hlooks => absurd hlooks hc

/-- **One command more.** The session that a command leaves remembers the command. -/
theorem after (c : Command) : Remembers env host zones (history ++ [c]) (c.after s) := by
  by_cases hc : c.LooksUp
  · have henvironment : s.environment = environmentAfter env (history ++ [c]) := by
      rw [environmentAfter_concat, changed_of_looksUp hc, h.environment]
    rw [(Command.uses_lookUp hc s).after]
    rcases h.lookUp hc with ⟨found, hlookUp, hforce⟩ | ⟨hkept, hlookUp, hnone⟩
    · rw [hlookUp]
      refine ⟨henvironment, h.host, h.zones, ?_, by simp⟩
      rintro _ ⟨⟩
      exact hforce
    · rw [hlookUp]
      exact ⟨henvironment, h.host, h.zones, by simp [hkept], fun _ => hnone⟩
  · obtain ⟨o, ho⟩ := Command.run_of_not_looksUp s.zones hc
    have hafter : c.after s = c.effect s := congrArg Prod.snd (ho s rfl)
    rw [hafter]
    exact h.effect hc

/-- The settings that are asked for are those in force. -/
theorem outcome_settings (hc : c = .settings) (found : Settings) :
    c.outcome s = .ok (.settings found) ↔ IsInForce env (history ++ [c]) found := by
  subst hc
  have hlooks : Command.settings.LooksUp := trivial
  rw [Command.outcome_settings]
  rcases h.lookUp hlooks with ⟨found', hlookUp, hforce⟩ | ⟨-, hlookUp, hnone⟩
  · rw [hlookUp]
    constructor
    · rintro ⟨⟩
      exact hforce
    · intro hfound
      rw [hforce.unique hfound]
      rfl
  · rw [hlookUp]
    constructor
    · rintro ⟨⟩
    · intro hfound
      exact absurd hnone hfound.not_noneInForce

end Remembers

/-! ### Runs -/

theorem Session.runAll_cons (c : Command) (more : List Command) (s : Session) :
    runAll (c :: more) s =
      (c.outcome s :: (runAll more (c.after s)).1, (runAll more (c.after s)).2) := rfl

/-- After a history its session gives the next outcome. -/
theorem Session.runAll_next (history more : List Command) (c : Command) (s : Session) :
    (runAll (history ++ c :: more) s).1[history.length]? =
      some (c.outcome (runAll history s).2) := by
  induction history generalizing s with
  | nil => rfl
  | cons d history ih => simp [runAll_cons, ih]

/-- What is remembered goes on with every command. -/
theorem Remembers.runAll {env : Environment} {host : HostClock} {zones : ZoneDatabase}
    {history : List Command} {s : Session} (h : Remembers env host zones history s)
    (more : List Command) :
    Remembers env host zones (history ++ more) (Session.runAll more s).2 := by
  induction more generalizing history s with
  | nil => simpa [Session.runAll] using h
  | cons c more ih =>
    rw [Session.runAll_cons, List.append_cons]
    exact ih (h.after c)

/-- **Whole runs.** A session remembers all the commands that have been carried out since it was
started. -/
theorem remembers_runAll (env : Environment) (host : HostClock) (zones : ZoneDatabase)
    (history : List Command) :
    Remembers env host zones history (Session.runAll history (.start env host zones)).2 :=
  (remembers_start env host zones).runAll history

/-- What a command does after a history that has left this session. -/
structure TakesSettings (env : Environment) (history : List Command) (c : Command) (s : Session) :
    Prop where
  /-- A look-up finds the settings in force, which supply what is left out and are kept; or the
  command fails with it and leaves the session as it was. -/
  lookUp : c.LooksUp →
    (∃ found, IsInForce env (history ++ [c]) found ∧ Supplied found s c (c.outcome s) ∧
      (c.after s).kept = some found) ∨
    (NoneInForce env (history ++ [c]) ∧ c.outcome s = .error .invalidSettings ∧ c.after s = s)
  /-- Asking for the settings gives those in force. -/
  settings : c = .settings → ∀ found,
    c.outcome s = .ok (.settings found) ↔ IsInForce env (history ++ [c]) found
  /-- If the operand is given there is no look-up. -/
  given : (∃ (x : ZoneTaker) (choice : ZoneChoice), c = x.command (some choice)) ∨
    (∃ name scan message, c = .ask (.object name (some scan)) message) → ¬c.LooksUp
  /-- Without a look-up the outcome is the same in every session with these zones, and the settings
  are kept unless they are cleared. -/
  other : ¬c.LooksUp → (∀ s', s'.zones = s.zones → c.outcome s' = c.outcome s) ∧
    (c = .clearSettings ∨ (c.after s).kept = s.kept)
  /-- A zone that is not looked up when it is left out does not matter when it is given. -/
  unneeded : ¬c.LooksUp → ∀ x : ZoneTaker, c = x.command none →
    ∀ choice, (x.command choice).outcome s = c.outcome s

/-- **Settings in force over whole sessions.** After any history of commands, a command that leaves
out an operand takes it from the settings in force, and one that does not has nothing to do with
them. -/
theorem takesSettings (env : Environment) (host : HostClock) (zones : ZoneDatabase)
    (history more : List Command) (c : Command) :
    let s := (Session.runAll history (.start env host zones)).2
    (Session.runAll (history ++ c :: more) (.start env host zones)).1[history.length]? =
        some (c.outcome s) ∧ TakesSettings env history c s := by
  intro s
  have h := remembers_runAll env host zones history
  refine ⟨Session.runAll_next history more c _, ?_, h.outcome_settings, ?_, ?_, ?_⟩
  · intro hc
    obtain ⟨hfound, hfailed, hafter⟩ := Command.uses_lookUp hc s
    rcases h.lookUp hc with ⟨found, hlookUp, hforce⟩ | ⟨-, hlookUp, hnone⟩
    · rw [hafter, hlookUp]
      exact .inl ⟨found, hforce, hfound found (by rw [hlookUp]), rfl⟩
    · rw [hafter, hlookUp]
      exact .inr ⟨hnone, hfailed _ (by rw [hlookUp]), rfl⟩
  · rintro (⟨x, choice, rfl⟩ | ⟨name, scan, message, rfl⟩)
    · exact x.not_looksUp_given choice
    · exact id
  · intro hc
    obtain ⟨o, ho⟩ := Command.run_of_not_looksUp s.zones hc
    have houtcome (s' : Session) (hs' : s'.zones = s.zones) : c.outcome s' = o :=
      congrArg Prod.fst (ho s' hs')
    have hafter : c.after s = c.effect s := congrArg Prod.snd (ho s rfl)
    refine ⟨fun s' hs' => (houtcome s' hs').trans (houtcome s rfl).symm, ?_⟩
    by_cases hclear : c = .clearSettings
    · exact .inl hclear
    · rw [hafter]
      exact .inr (kept_effect c s hclear)
  · rintro hc x rfl choice
    exact x.outcome_command_other choice s hc

/-- A look-up that fails is not remembered. The next one that succeeds is remembered, also one that
an operation makes by the way, until the settings are cleared, whatever becomes of the
environment. -/
theorem takesSettings_cleared :
    let start : Session :=
      .start [("NATS_JSON_OBJECT_SCAN", "greedy")] HostZone.utc.clock ruledZones
    let outcomes := (Session.runAll
      [.ask (.object ['a'] none) (.text ['\x7b', '\x7d']),
        .setVariable "NATS_JSON_OBJECT_SCAN" (some "balanced"),
        .timestamp (.text "2021-01-25T20:09:10Z".toList) none,
        .setVariable "NATS_JSON_ZONE" (some "Asia/Tokyo"), .settings, .clearSettings, .settings]
      start).1
    outcomes[0]? = some (.error .invalidSettings) ∧
      outcomes[4]? = some (.ok (.settings ⟨none, .balanced⟩)) ∧
      outcomes[6]? = some (.ok (.settings ⟨some "Asia/Tokyo", .balanced⟩)) := by
  intro start outcomes
  let env : Environment := [("NATS_JSON_OBJECT_SCAN", "greedy")]
  let search : Command := .ask (.object ['a'] none) (.text ['\x7b', '\x7d'])
  let setScan : Command := .setVariable "NATS_JSON_OBJECT_SCAN" (some "balanced")
  let read : Command := .timestamp (.text "2021-01-25T20:09:10Z".toList) none
  let setZone : Command := .setVariable "NATS_JSON_ZONE" (some "Asia/Tokyo")
  have hread : read.LooksUp := by
    refine ⟨⟨2021, 1, 25, 20, 9, 10, 0, 0⟩, read?_eq_some_iff.1 ?_⟩
    decide +kernel
  -- the environment is invalid at first, and later determines first the scan, then also the zone
  have hinvalid : env.IsInvalid :=
    ⟨"greedy", ⟨[], _, [], rfl, by decide +kernel, by simp⟩, by decide, by decide⟩
  have hscan : (environmentAfter env [search, setScan]).Determines ⟨none, .balanced⟩ := by
    refine Settings.ofEnvironment_eq_ok_iff.1 ?_
    decide +kernel
  have hboth : (environmentAfter env [search, setScan, read, setZone, .settings,
      .clearSettings]).Determines ⟨some "Asia/Tokyo", .balanced⟩ := by
    refine Settings.ofEnvironment_eq_ok_iff.1 ?_
    decide +kernel
  have hfailed : NoneInForce env [search] := noneInForce_nil.concat fun _ => hinvalid
  have hnone : NoneInForce env [search, setScan] := hfailed.concat fun h => absurd h id
  have hclear : NoneInForce env ([search, setScan, read, setZone, .settings] ++ [.clearSettings]) :=
    noneInForce_clearSettings
  obtain ⟨hfirst, htakes⟩ := takesSettings env HostZone.utc.clock ruledZones []
    [setScan, read, setZone, .settings, .clearSettings, .settings] search
  obtain ⟨hkept, htakes'⟩ := takesSettings env HostZone.utc.clock ruledZones
    [search, setScan, read, setZone] [.clearSettings, .settings] .settings
  obtain ⟨hcleared, htakes''⟩ := takesSettings env HostZone.utc.clock ruledZones
    [search, setScan, read, setZone, .settings, .clearSettings] [] .settings
  refine ⟨?_, ?_, ?_⟩
  · obtain ⟨found, hforce, -⟩ | ⟨-, hmissed, -⟩ := htakes.lookUp trivial
    · exact absurd hfailed hforce.not_noneInForce
    · exact hfirst.trans (congrArg some hmissed)
  · refine hkept.trans (congrArg some ((htakes'.settings rfl _).2 ?_))
    exact ⟨[search, setScan], read, [setZone, .settings], rfl, hread, by simp [setZone], hscan,
      hnone⟩
  · refine hcleared.trans (congrArg some ((htakes''.settings rfl _).2 ?_))
    exact isInForce_first hclear trivial hboth

end FlatJson
