import FlatJson.Settings

/-!
# What an environment determines

Settings are variables of the environment with certain names, written in any case. Which of them
count and which values they may have is told here on its own.

* `Environment.lookup_assign`, `Environment.names_assign` and `Environment.lookup_remove`: how the
  variables are changed.
* `Environment.Gives` is the value that an environment has for a setting.
* `Environment.Determines` are the settings that follow, and `Environment.IsInvalid` says that there
  are none.
* `Settings.ofEnvironment_eq_ok_iff`, `Settings.ofEnvironment_eq_error_iff`: these settings are
  found, and nothing else goes wrong.
-/

namespace FlatJson

namespace Environment

/-! ### Changes of the variables -/

theorem lookup_cons (n m value : String) (env : Environment) :
    List.lookup n ((m, value) :: env) = if n = m then some value else env.lookup n := by
  by_cases h : n = m
  · simp [h]
  · rw [if_neg h, List.lookup_cons, beq_false_of_ne h]

/-- A variable that is assigned has the value, and the others keep theirs. -/
theorem lookup_assign (name value n : String) (env : Environment) :
    (env.assign name value).lookup n = if n = name then some value else env.lookup n := by
  induction env with
  | nil => rw [assign, lookup_cons]
  | cons entry more ih =>
    obtain ⟨m, v⟩ := entry
    by_cases hm : m = name
    · rw [assign, if_pos hm, lookup_cons, lookup_cons, hm]
      split <;> rfl
    · rw [assign, if_neg hm, lookup_cons, lookup_cons, ih]
      grind

/-- A variable that has a value keeps its place, and a new one comes last. -/
theorem names_assign (name value : String) (env : Environment) :
    (env.assign name value).map Prod.fst =
      if name ∈ env.map Prod.fst then env.map Prod.fst else env.map Prod.fst ++ [name] := by
  induction env with
  | nil => rfl
  | cons entry more ih =>
    obtain ⟨m, v⟩ := entry
    by_cases hm : m = name
    · simp [assign, hm]
    · simp only [assign, if_neg hm, List.map_cons, ih, List.mem_cons, Ne.symm hm, false_or]
      split <;> rfl

/-- A variable that is removed has no value, and the others keep theirs. -/
theorem lookup_remove (name n : String) (env : Environment) :
    (env.remove name).lookup n = if n = name then none else env.lookup n := by
  induction env with
  | nil => simp [remove]
  | cons entry more ih =>
    obtain ⟨m, v⟩ := entry
    rw [remove] at *
    by_cases hm : m = name
    · rw [List.filter_cons_of_neg (by simpa using hm), ih, lookup_cons, hm]
      split <;> rfl
    · rw [List.filter_cons_of_pos (by simpa using hm), lookup_cons, lookup_cons, ih]
      grind

/-! ### What counts -/

/-- The last of the variables whose name in lower case is this one has the value. -/
def Gives (env : Environment) (name value : String) : Prop :=
  ∃ before n after, env = before ++ (n, value) :: after ∧ n.toLower = name ∧
    ∀ p ∈ after, p.1.toLower ≠ name

/-- The scan that is determined by a variable, if there is one. -/
inductive DeterminesScan (env : Environment) : ObjectScan → Prop where
  /-- The variable names the scan to the first brace. -/
  | firstBrace (h : env.Gives "nats_json_object_scan" "first_brace") :
      DeterminesScan env .firstBrace
  /-- The variable names the balanced scan. -/
  | balanced (h : env.Gives "nats_json_object_scan" "balanced") : DeterminesScan env .balanced
  /-- There is no such variable. -/
  | unset (h : ∀ v, ¬env.Gives "nats_json_object_scan" v) : DeterminesScan env .firstBrace

/-- The environment determines these settings. -/
structure Determines (env : Environment) (found : Settings) : Prop where
  /-- The zone is the value of its variable, any text, and there is none without the variable. -/
  zone : ∀ name, found.zone = some name ↔ env.Gives "nats_json_zone" name
  /-- The scan is one that a variable may name. -/
  scan : env.DeterminesScan found.scan

/-- The environment holds a value that is not the name of a scan. -/
def IsInvalid (env : Environment) : Prop :=
  ∃ v, env.Gives "nats_json_object_scan" v ∧ v ≠ "first_brace" ∧ v ≠ "balanced"

variable {env : Environment} {name : String}

theorem setting?_eq_some_iff {value : String} :
    env.setting? name = some value ↔ env.Gives name value := by
  simp only [setting?, Option.map_eq_some_iff, List.find?_eq_some_iff_append]
  constructor
  · rintro ⟨⟨n, v⟩, ⟨hname, later, earlier, henv, hlater⟩, rfl⟩
    refine ⟨earlier.reverse, n, later.reverse, ?_, by simpa using hname, ?_⟩
    · rw [← env.reverse_reverse, henv]
      simp
    · exact fun p hp => by simpa using hlater p (List.mem_reverse.1 hp)
  · rintro ⟨before, n, after, rfl, hname, hafter⟩
    refine ⟨(n, value), ⟨by simpa using hname, after.reverse, before.reverse, by simp, ?_⟩, rfl⟩
    exact fun p hp => by simpa using hafter p (List.mem_reverse.1 hp)

theorem setting?_eq_none_iff : env.setting? name = none ↔ ∀ v, ¬env.Gives name v := by
  simp only [← setting?_eq_some_iff, Option.eq_none_iff_forall_ne_some, ne_eq]

/-- An environment has one value for a name. -/
theorem Gives.unique {v v' : String} (h : env.Gives name v) (h' : env.Gives name v') : v = v' := by
  rw [← setting?_eq_some_iff] at h h'
  exact Option.some.inj (h.symm.trans h')

/-- An environment determines one scan. -/
theorem DeterminesScan.unique {scan scan' : ObjectScan} (h : env.DeterminesScan scan)
    (h' : env.DeterminesScan scan') : scan = scan' := by
  cases h with
  | firstBrace h =>
    cases h' with
    | firstBrace | unset => rfl
    | balanced h' => exact absurd (h.unique h') (by decide)
  | balanced h =>
    cases h' with
    | balanced => rfl
    | firstBrace h' => exact absurd (h.unique h') (by decide)
    | unset h' => exact absurd h (h' _)
  | unset h =>
    cases h' with
    | firstBrace | unset => rfl
    | balanced h' => exact absurd h' (h _)

/-- An invalid environment determines no scan. -/
theorem DeterminesScan.not_isInvalid {scan : ObjectScan} (h : env.DeterminesScan scan) :
    ¬env.IsInvalid := by
  rintro ⟨v, hv, hfirst, hbalanced⟩
  cases h with
  | firstBrace h => exact hfirst (hv.unique h)
  | balanced h => exact hbalanced (hv.unique h)
  | unset h => exact h v hv

/-- An environment determines one choice of settings. -/
theorem Determines.unique {found found' : Settings} (h : env.Determines found)
    (h' : env.Determines found') : found = found' := by
  have hzone : found.zone = found'.zone :=
    Option.ext fun name => (h.zone name).trans (h'.zone name).symm
  have hscan := h.scan.unique h'.scan
  cases found
  cases found'
  simp only at hzone hscan
  rw [hzone, hscan]

end Environment

namespace Settings

variable {env : Environment}

/-- The scan of an environment is the one that it determines, if it is not invalid. -/
theorem scanFrom_cases (env : Environment) :
    (∃ scan, env.DeterminesScan scan ∧
      scanFrom none (env.setting? "nats_json_object_scan") = .ok scan) ∨
    (env.IsInvalid ∧
      scanFrom none (env.setting? "nats_json_object_scan") = .error .scanUnknown) := by
  cases hv : env.setting? "nats_json_object_scan" with
  | none => exact .inl ⟨_, .unset (Environment.setting?_eq_none_iff.1 hv), rfl⟩
  | some v =>
    have hgives := Environment.setting?_eq_some_iff.1 hv
    by_cases hfirst : v = "first_brace"
    · subst hfirst
      exact .inl ⟨_, .firstBrace hgives, rfl⟩
    · by_cases hbalanced : v = "balanced"
      · subst hbalanced
        exact .inl ⟨_, .balanced hgives, rfl⟩
      · refine .inr ⟨⟨v, hgives, hfirst, hbalanced⟩, ?_⟩
        simp only [scanFrom, ObjectScan.ofName?, if_neg hfirst, if_neg hbalanced]
        rfl

/-- The settings of an environment are those that it determines, if it is not invalid. -/
theorem ofEnvironment_cases (env : Environment) :
    (∃ found, env.Determines found ∧ ofEnvironment env = .ok found) ∨
    (env.IsInvalid ∧ ofEnvironment env = .error .invalidSettings) := by
  have hbuild : ofEnvironment env =
      match scanFrom none (env.setting? "nats_json_object_scan") with
      | .ok scan => .ok ⟨env.setting? "nats_json_zone", scan⟩
      | .error _ => .error .invalidSettings := by
    simp only [ofEnvironment, build, Arguments.setting?, List.find?_nil, Option.map_none, zoneFrom,
      List.filterMap_nil]
    cases scanFrom none (env.setting? "nats_json_object_scan") <;> rfl
  rw [hbuild]
  obtain ⟨scan, hscan, hfrom⟩ | ⟨hinvalid, hfrom⟩ := scanFrom_cases env
  · rw [hfrom]
    exact .inl ⟨_, ⟨fun name => Environment.setting?_eq_some_iff, hscan⟩, rfl⟩
  · rw [hfrom]
    exact .inr ⟨hinvalid, rfl⟩

/-- **The settings of an environment** are those that it determines. -/
theorem ofEnvironment_eq_ok_iff {found : Settings} :
    ofEnvironment env = .ok found ↔ env.Determines found := by
  obtain ⟨found', h, heq⟩ | ⟨hinvalid, heq⟩ := ofEnvironment_cases env
  · rw [heq, Except.ok.injEq]
    constructor
    · rintro rfl
      exact h
    · exact h.unique
  · rw [heq]
    constructor
    · intro h
      contradiction
    · intro h
      exact absurd hinvalid h.scan.not_isInvalid

/-- They are refused when it holds a value that is none, and for no other reason. -/
theorem ofEnvironment_eq_error_iff {e : Error} :
    ofEnvironment env = .error e ↔ env.IsInvalid ∧ e = .invalidSettings := by
  obtain ⟨found, h, heq⟩ | ⟨hinvalid, heq⟩ := ofEnvironment_cases env
  · rw [heq]
    constructor
    · intro h
      contradiction
    · rintro ⟨hinvalid, -⟩
      exact absurd hinvalid h.scan.not_isInvalid
  · rw [heq, Except.error.injEq, eq_comm]
    exact ⟨fun h => ⟨hinvalid, h⟩, And.right⟩

end Settings

end FlatJson
