import FlatJson.Proofs.Changeover
import FlatJson.Proofs.Instant
import FlatJson.Proofs.Operation
import FlatJson.Zone.Posix

/-!
# The wall clock of a zone

A timestamp is shown on the wall clock that its zone has at its instant. Where the wall clock is
turned back it shows the same twice; a mark tells the second time from the first.

* `Rule.InForce` is the offset of a rule at an instant, told by the changeovers of all years.
* `Rule.IsSettled.repeatsAt_iff`: a wall clock is marked when an earlier instant has shown it.
* `Rule.IsSettled.eq_of_same_wall`: a wall clock and its mark determine the instant.
* `Destination.Keeps` says which rule a destination keeps at an instant. Of the clock of a host it
  is assumed that it keeps one from some instant on, as `HostZone.clock` does.
* `shown_at_instant`: a timestamp keeps its instant, and nothing else of the text matters.
-/

namespace FlatJson

/-! ### Rules -/

namespace Rule

variable {r : Rule}

/-- Daylight time, if there is any, starts and stops inside of every year. -/
def IsOrderly (r : Rule) : Prop := ∀ d, r.daylight = some d → d.IsOrderly r.standard

/-- Daylight time, if there is any, is ahead and its end keeps away from its start. -/
def IsSettled (r : Rule) : Prop := ∀ d, r.daylight = some d → d.IsSettled r.standard

theorem IsSettled.isOrderly (h : r.IsSettled) : r.IsOrderly := fun d hd => (h d hd).toIsOrderly

/-- The offset that is in force at a time of the calendar. -/
inductive InForce (r : Rule) (n : Int) : UtcOffset → Prop where
  /-- The next changeover ends daylight time. -/
  | daylight {d : Daylight} (hd : r.daylight = some d) (hon : d.IsOn r.standard n) :
    InForce r n d.offset
  /-- There is no daylight time, or the next changeover begins it. -/
  | standard (hoff : ∀ d, r.daylight = some d → ¬ d.IsOn r.standard n) : InForce r n r.standard

theorem InForce.unique {n : Int} {o o' : UtcOffset} (h : r.InForce n o) (h' : r.InForce n o') :
    o = o' := by
  cases h with
  | @daylight d hd hon =>
    cases h' with
    | @daylight d' hd' _ =>
      rw [hd] at hd'
      rw [Option.some.inj hd']
    | standard hoff => exact absurd hon (hoff d hd)
  | standard hoff =>
    cases h' with
    | @daylight d hd hon => exact absurd hon (hoff d hd)
    | standard => rfl

theorem IsOrderly.inForce_offsetAt (h : r.IsOrderly) (u : Clock) :
    r.InForce u.micros (r.offsetAt u) := by
  unfold offsetAt
  split
  · rename_i hd
    exact .standard fun d hd' => by simp [hd] at hd'
  · rename_i d hd
    have hiff := (h d hd).holdsAt_iff_isOn u
    split
    · rename_i hholds
      exact .daylight hd (hiff.1 hholds)
    · rename_i hholds
      refine .standard fun d' hd' hon => hholds ?_
      rw [hd] at hd'
      obtain rfl := Option.some.inj hd'
      exact hiff.2 hon

theorem repeatsAt_iff_of_daylight {d : Daylight} (hd : r.daylight = some d) (v : Clock) :
    r.repeatsAt v = true ↔ d.stopAt r.standard v.date.year ≤ v.micros ∧
      v.micros < d.stopAt r.standard v.date.year + d.lead r.standard := by
  unfold repeatsAt
  rw [hd]
  simp [Daylight.stopAt, Daylight.lead]

section
variable (h : r.IsSettled)
include h

/-- If two instants show the same, then the earlier one is in daylight time and the later one is
not, and the lead of daylight time is between them. -/
theorem IsSettled.turned_back {n n' : Int} {o o' : UtcOffset} (ho : r.InForce n o)
    (ho' : r.InForce n' o') (hlt : n < n') (hwall : n + o.micros = n' + o'.micros) :
    ∃ d, r.daylight = some d ∧ n' = n + d.lead r.standard ∧
      d.IsOn r.standard n ∧ ¬ d.IsOn r.standard n' := by
  cases ho with
  | @daylight d hd hon =>
    cases ho' with
    | @daylight d' hd' _ =>
      rw [hd] at hd'
      obtain rfl := Option.some.inj hd'
      omega
    | standard hoff =>
      refine ⟨d, hd, ?_, hon, hoff d hd⟩
      simp only [Daylight.lead]
      omega
  | standard =>
    cases ho' with
    | @daylight d hd _ =>
      have hlead := (h d hd).lead_pos
      simp only [Daylight.lead] at hlead
      omega
    | standard => omega

/-- **A wall clock is marked as repeated** when an earlier instant has shown it. -/
theorem IsSettled.repeatsAt_iff (v : Clock) : r.repeatsAt v = true ↔
    ∃ n o, n < v.micros ∧ r.InForce n o ∧
      n + o.micros = v.micros + (r.offsetAt v).micros := by
  obtain ⟨o', ho'⟩ : ∃ o', o' = r.offsetAt v := ⟨_, rfl⟩
  have hforce := h.isOrderly.inForce_offsetAt v
  rw [← ho'] at hforce ⊢
  constructor
  · intro hrepeats
    obtain ⟨d, hd⟩ : ∃ d, r.daylight = some d := by
      cases hd : r.daylight with
      | none => simp [repeatsAt, hd] at hrepeats
      | some d => exact ⟨d, rfl⟩
    have hlead := (h d hd).lead_pos
    obtain ⟨y, hy, hlt, hle⟩ :=
      ((h d hd).exists_stop_iff v).2 ((repeatsAt_iff_of_daylight hd v).1 hrepeats)
    -- the clock has shown the same the lead of daylight time before
    have hsum : v.micros - d.lead r.standard + d.lead r.standard = v.micros := by omega
    have hstraddles := (h d hd).straddles_iff.2
      ⟨y, hy, show v.micros - d.lead r.standard < _ by omega, by rwa [hsum]⟩
    rw [hsum] at hstraddles
    obtain ⟨hon, hoff⟩ := hstraddles
    refine ⟨v.micros - d.lead r.standard, d.offset, by omega, .daylight hd hon, ?_⟩
    cases hforce with
    | @daylight d' hd' hon' =>
      rw [hd] at hd'
      obtain rfl := Option.some.inj hd'
      contradiction
    | standard =>
      simp only [Daylight.lead]
      omega
  · rintro ⟨n, o, hlt, ho, hwall⟩
    obtain ⟨d, hd, hn, hon, hoff⟩ := h.turned_back ho hforce hlt hwall
    rw [hn] at hoff
    obtain ⟨y, hy, huntil, hle⟩ := (h d hd).straddles_iff.1 ⟨hon, hoff⟩
    exact (repeatsAt_iff_of_daylight hd v).2
      (((h d hd).exists_stop_iff v).1 ⟨y, hy, by omega, by omega⟩)

/-- What shows the same at a later instant has not been shown before. -/
theorem IsSettled.repeatsAt_ne {u v : Clock} (hlt : u.micros < v.micros)
    (hwall : u.micros + (r.offsetAt u).micros = v.micros + (r.offsetAt v).micros) :
    r.repeatsAt u ≠ r.repeatsAt v := by
  have hu := h.isOrderly.inForce_offsetAt u
  have hv := h.isOrderly.inForce_offsetAt v
  rw [(h.repeatsAt_iff v).2 ⟨_, _, hlt, hu, hwall⟩]
  intro hrepeats
  obtain ⟨n, o, hearlier, ho, hwall'⟩ := (h.repeatsAt_iff u).1 hrepeats
  -- the clock would have to be turned back twice, from daylight time both times
  obtain ⟨d, hd, -, hon, -⟩ := h.turned_back hu hv hlt hwall
  obtain ⟨d', hd', -, -, hoff⟩ := h.turned_back ho hu hearlier hwall'
  rw [hd] at hd'
  obtain rfl := Option.some.inj hd'
  exact hoff hon

/-- **A wall clock and its mark determine the instant.** -/
theorem IsSettled.eq_of_same_wall {u v : Clock}
    (hwall : u.micros + (r.offsetAt u).micros = v.micros + (r.offsetAt v).micros)
    (hrepeats : r.repeatsAt u = r.repeatsAt v) : u.micros = v.micros := by
  rcases Int.lt_trichotomy u.micros v.micros with hlt | heq | hlt
  · exact absurd hrepeats (h.repeatsAt_ne hlt hwall)
  · exact heq
  · exact absurd hrepeats.symm (h.repeatsAt_ne hlt hwall.symm)

end

end Rule

/-! ### Zones that keep a rule -/

theorem namedRules_regular : ∀ p ∈ namedRules, ∀ d ∈ p.2.daylight, d.IsRegular p.2.standard := by
  decide

/-- The rules of all named zones are settled. -/
theorem isSettled_of_namedRule? {name : String} {r : Rule} (h : namedRule? name = some r) :
    r.IsSettled := by
  obtain ⟨before, after, hrules, -⟩ := List.lookup_eq_some_iff.1 h
  intro d hd
  exact Daylight.isSettled_of_isRegular
    (namedRules_regular (name, r) (by rw [hrules]; simp) d hd)

/-- From an instant on the offset on the host is the one that the rule has in force. -/
def HostClock.KeepsFrom (h : HostClock) (since : Int) (r : Rule) : Prop :=
  ∀ u : Clock, since ≤ u.micros → r.InForce u.micros (h.offsetAt u)

/-- From its first year on the clock of a host keeps the rule of its zone. -/
theorem HostZone.keepsFrom_clock {h : HostZone} (hr : h.rule.IsOrderly) :
    h.clock.KeepsFrom (yearMicros firstYear) h.rule := by
  intro u hu
  have hyear : firstYear ≤ u.date.year := by
    refine Nat.le_of_not_lt fun hlt => ?_
    have hmono := yearMicros_mono (y := u.date.year + 1) (by omega) hlt
    have hend := u.year_bounds.2
    omega
  have hdaylight : h.inDaylight u = h.rule.inDaylight u := if_pos hyear
  have hoffset : h.clock.offsetAt u = h.rule.offsetAt u := by
    simp only [clock, Rule.offsetAt, hdaylight, Rule.inDaylight]
    cases h.rule.daylight <;> rfl
  rw [hoffset]
  exact hr.inForce_offsetAt u

/-- The rule that a destination keeps at an instant. -/
inductive Destination.Keeps (n : Int) : Destination → Rule → Prop where
  /-- Universal time keeps that there is no offset. -/
  | utc : Keeps n (.zone .utc) ⟨.zero, none⟩
  /-- A fixed offset does not change. -/
  | fixed (offset : UtcOffset) (abbreviation : Option Text) :
      Keeps n (.zone (.fixed offset abbreviation)) ⟨offset, none⟩
  /-- A zone with a rule of its own keeps it at all instants. -/
  | named {name : String} {rule : Rule} (h : namedRule? name = some rule) :
      Keeps n (.zone (.named name rule.clock)) rule
  /-- A host keeps a rule that it has kept since an earlier instant. -/
  | host {clock : HostClock} {since : Int} {rule : Rule} (h : clock.KeepsFrom since rule)
      (hn : since ≤ n) : Keeps n (.host clock) rule

/-- An instant is shown with the offset that the rule has in force. -/
theorem Destination.Keeps.inForce {d : Destination} {rule : Rule} {u : Clock}
    (h : d.Keeps u.micros rule) : rule.InForce u.micros ((d.zoneAt u).offsetAt u) := by
  cases h with
  | utc | fixed => exact .standard fun d hd => by contradiction
  | named h => exact (isSettled_of_namedRule? h).isOrderly.inForce_offsetAt u
  | host h hn => exact h u hn

/-! ### Timestamps -/

/-- A text that is written as a timestamp is read by an operation of some session, and shown at a
destination as a moment. -/
structure ShownAt (d : Destination) (t : Text) (w : Timestamp) (m : Moment) : Prop where
  spelling : w.IsSpelling t
  run : ∃ (choice : Option ZoneChoice) (s s' : Session),
    (Session.zone choice).run s = (.ok d, s') ∧ (Session.timestamp t choice).run s = (.ok m, s')

namespace ShownAt

variable {d : Destination} {t : Text} {w : Timestamp} {m : Moment}

theorem of_run {choice : Option ZoneChoice} {s s' : Session} {u : Clock}
    (hzone : (Session.zone choice).run s = (.ok d, s')) (hw : w.IsSpelling t)
    (hu : w.utc? = some u) (hshow : (d.zoneAt u).show? u = some m) : ShownAt d t w m := by
  refine ⟨hw, choice, s, s', hzone, ?_⟩
  exact Session.run_timestamp_eq_ok_iff.2
    ⟨_, hzone, parseTimestamp_eq_ok_iff.2 ⟨w, u, hw, hu, hshow⟩⟩

/-- With a database of rules a timestamp is shown on the wall clock of a rule. -/
theorem of_namedRule? {name : String} {rule : Rule} {u v : Clock}
    (hrule : namedRule? name = some rule) (hname : name.toUpper ∉ Zone.utcNames)
    (hw : w.IsSpelling t) (hu : w.utc? = some u)
    (hv : v.micros = u.micros + (rule.offsetAt u).micros) :
    ShownAt (.zone (.named name rule.clock)) t w
      ⟨⟨rule.offsetAt u, rule.repeatsAt u, .named name rule.clock⟩, v⟩ := by
  have hfound : Zone.ofName ruledZones name = .ok (.named name rule.clock) := by
    rw [Zone.ofName, if_neg hname, ruledZones_of_some hrule]
  have hzone : (Session.zone (some (.named name))).run (.start [] HostZone.utc.clock ruledZones) =
      (.ok (.zone (.named name rule.clock)), .start [] HostZone.utc.clock ruledZones) := by
    rw [Session.run_zone_some, ZoneChoice.resolve, Session.start, hfound]
    rfl
  exact of_run hzone hw hu (Zone.show?_eq_some_iff.2 ⟨rfl, hv⟩)

/-- Without a choice and settings a timestamp is shown on the clock of the host. -/
theorem of_host (host : HostClock) {u v : Clock} (hw : w.IsSpelling t) (hu : w.utc? = some u)
    (hv : v.micros = u.micros + (host.offsetAt u).micros) :
    ShownAt (.host host) t w ⟨⟨host.offsetAt u, false, host.zoneAt u⟩, v⟩ := by
  have hzone : (Session.zone none).run (.start [] host ruledZones) =
      (.ok (.host host), ⟨[], some ⟨none, .firstBrace⟩, host, ruledZones⟩) := rfl
  exact of_run hzone hw hu (Zone.show?_eq_some_iff.2 ⟨rfl, hv⟩)

/-- The parts of a moment are those of the destination at the instant. -/
theorem exists_utc (h : ShownAt d t w m) : ∃ u : Clock, w.utc? = some u ∧
    m.toPlacement = ⟨(d.zoneAt u).offsetAt u, (d.zoneAt u).repeatsAt u, d.zoneAt u⟩ ∧
      m.clock.micros = u.micros + ((d.zoneAt u).offsetAt u).micros := by
  obtain ⟨choice, s, s', hzone, htimestamp⟩ := h.run
  obtain ⟨d', hzone', hm⟩ := Session.run_timestamp_eq_ok_iff.1 htimestamp
  rw [hzone] at hzone'
  cases hzone'
  obtain ⟨w', u, hw', hu, hshow⟩ := parseTimestamp_eq_ok_iff.1 hm
  obtain rfl := h.spelling.unique hw'
  exact ⟨u, hu, Zone.show?_eq_some_iff.1 hshow⟩

/-- **Nothing else of a text matters.** Texts that name the same instant are shown alike. -/
theorem eq_of_same_instant {t' : Text} {w' : Timestamp} {m' : Moment} (h : ShownAt d t w m)
    (h' : ShownAt d t' w' m') (hsame : w'.nanosAt / 1000 = w.nanosAt / 1000) : m' = m := by
  obtain ⟨u, hu, hplace, hclock⟩ := h.exists_utc
  obtain ⟨u', hu', hplace', hclock'⟩ := h'.exists_utc
  have hmicros : u'.micros = u.micros := by
    rw [Timestamp.micros_of_utc? hu, Timestamp.micros_of_utc? hu', hsame]
  obtain rfl := Clock.micros_injective hmicros
  have hwall : m'.clock = m.clock := Clock.micros_injective (by rw [hclock, hclock'])
  cases m
  cases m'
  simp only at hplace hplace' hwall
  rw [hplace, hplace', hwall]

/-- **A text keeps its instant.** The moment shows the instant, rounded down to a microsecond, with
the offset that the destination has for it. -/
theorem exists_instant (h : ShownAt d t w m) : ∃ u : Clock, u.micros = m.instant ∧
    m.instant = w.nanosAt / 1000 ∧ m.offset = (d.zoneAt u).offsetAt u ∧
      m.clock.micros = u.micros + m.offset.micros ∧ m.repeated = (d.zoneAt u).repeatsAt u := by
  obtain ⟨u, hu, hplace, hclock⟩ := h.exists_utc
  have hoffset : m.offset = (d.zoneAt u).offsetAt u := congrArg Placement.offset hplace
  rw [← hoffset] at hclock
  have hinstant : m.instant = u.micros := by
    rw [Moment.instant]
    omega
  exact ⟨u, hinstant.symm, hinstant.trans (Timestamp.micros_of_utc? hu), hoffset, hclock,
    congrArg Placement.repeated hplace⟩

end ShownAt

end FlatJson
