import FlatJson.Proofs.ClockOrder
import FlatJson.Proofs.UniversalTime
import FlatJson.Proofs.WallClock

/-!
# The written form of timestamps

A wall clock is written with nine fraction digits, and with a `Z` behind it whatever its offset is.
For a timestamp that was read in universal time this is a canonical form; in another zone it is the
text of another instant, unless the offset is zero.

* `CanonicalForm` is the text in which an instant is written in universal time.
* `canonical_form`: it names the instant, is its own canonical form, and sorts by time.
* `IsWritten` is the form in which wall clocks are written.
* `written_in_zone`: what the text stands for that is written for a timestamp in any zone.
-/

namespace FlatJson

/-! ### The canonical form -/

/-- A text is accepted in universal time; written again it has its canonical form. It names the
instant that many microseconds after the beginning of year 1. -/
inductive CanonicalForm (t : Text) : Text → Int → Prop where
  /-- The text is read by an operation of some session. -/
  | written {choice : ZoneChoice} {s s' : Session} {w : Timestamp} {m : Moment}
      (hutc : choice.IsUtc s.zones) (hw : w.IsSpelling t)
      (hrun : (Session.timestamp t (some choice)).run s = (.ok m, s')) :
      CanonicalForm t (m.clock.render ++ ['Z']) (w.nanosAt / 1000)

/-- The canonical form is the wall clock of the instant. -/
theorem canonicalForm_iff {t c : Text} {n : Int} : CanonicalForm t c n ↔
    ∃ (w : Timestamp) (u : Clock), w.IsSpelling t ∧ w.utc? = some u ∧
      c = u.render ++ ['Z'] ∧ n = u.micros := by
  constructor
  · rintro @⟨choice, s, s', w, m, hutc, hw, hrun⟩
    obtain ⟨w', u, hw', hu, rfl⟩ := Session.exists_utc_of_run_timestamp hutc hrun
    obtain rfl := hw.unique hw'
    exact ⟨w', _, hw', hu, rfl, (Timestamp.micros_of_utc? hu).symm⟩
  · rintro ⟨w, u, hw, hu, rfl, rfl⟩
    let s : Session := .start [] HostZone.utc.clock ruledZones
    have hutc : ZoneChoice.IsUtc s.zones (.named "UTC") := isUtc_of_mem List.mem_cons_self s.zones
    obtain ⟨m, hrun, rfl, -⟩ := Session.run_timestamp_utc hutc hw hu
    rw [Timestamp.micros_of_utc? hu]
    exact .written hutc hw hrun

/-- A wall clock that was written names its instant. -/
theorem nanosAt_render (c : Clock) : Timestamp.nanosAt ⟨c.date.year, c.date.month, c.date.day,
    c.time.hour, c.time.minute, c.time.second, c.time.micro * 1000, 0⟩ = 1000 * c.micros := by
  have hmicros := Timestamp.micros_of_utc? (utc?_render c)
  simp only [Timestamp.nanosAt] at *
  omega

namespace CanonicalForm

variable {t t' c c' : Text} {n n' : Int} (h : CanonicalForm t c n) (h' : CanonicalForm t' c' n')
include h h'

/-- Canonical forms are in the order of their instants. -/
theorem lt_iff : c < c' ↔ n < n' := by
  obtain ⟨w, u, -, -, rfl, rfl⟩ := canonicalForm_iff.1 h
  obtain ⟨w', u', -, -, rfl, rfl⟩ := canonicalForm_iff.1 h'
  rw [Clock.render_append_lt_iff]
  simp only [lt_irrefl, and_false, or_false]

/-- Texts have the same canonical form if they name the same microsecond. -/
theorem eq_iff : c = c' ↔ n = n' := by
  obtain ⟨w, u, -, -, rfl, rfl⟩ := canonicalForm_iff.1 h
  obtain ⟨w', u', -, -, rfl, rfl⟩ := canonicalForm_iff.1 h'
  rw [Clock.render_append_inj]
  exact ⟨congrArg Clock.micros, Clock.micros_injective⟩

end CanonicalForm

/-- **The canonical form of a timestamp.** A text that is accepted in universal time has a canonical
form, the same for every choice of universal time and in every session. The canonical form is itself
accepted, it names the instant of the text, rounded down to a microsecond, and it is its own
canonical form. Canonical forms are in the order of their instants, and are the same for the same
microsecond. Every wall clock that is written, wherever it was shown, is read as it is. -/
theorem canonical_form :
    (∀ (t : Text) (choice : ZoneChoice) (s s' : Session) (m : Moment), choice.IsUtc s.zones →
      (Session.timestamp t (some choice)).run s = (.ok m, s') →
      ∃ n, CanonicalForm t (m.clock.render ++ ['Z']) n) ∧
    (∀ {t c : Text} {n : Int}, CanonicalForm t c n →
      (∀ (choice : ZoneChoice) (s : Session), choice.IsUtc s.zones → ∃ m m',
        (Session.timestamp t (some choice)).run s = (.ok m, s) ∧ m.clock.render ++ ['Z'] = c ∧
        (Session.timestamp c (some choice)).run s = (.ok m', s) ∧ m'.clock.render ++ ['Z'] = c) ∧
      (∃ w : Timestamp, w.IsSpelling c ∧ w.nanosAt = 1000 * n) ∧
      ∀ t' c' n', CanonicalForm t' c' n' → (c < c' ↔ n < n') ∧ (c = c' ↔ n = n')) ∧
    ∀ (u : Clock) (choice : ZoneChoice) (s : Session), choice.IsUtc s.zones → ∃ m,
      (Session.timestamp (u.render ++ ['Z']) (some choice)).run s = (.ok m, s) ∧ m.clock = u := by
  refine ⟨?_, ?_, ?_⟩
  · intro t choice s s' m hutc hrun
    obtain ⟨w, -, hw, -⟩ := Session.exists_utc_of_run_timestamp hutc hrun
    exact ⟨_, .written hutc hw hrun⟩
  · intro t c n h
    obtain ⟨w, u, hw, hu, rfl, rfl⟩ := canonicalForm_iff.1 h
    refine ⟨fun choice s hutc => ?_, ⟨_, isSpelling_render u, nanosAt_render u⟩, ?_⟩
    · obtain ⟨m, hrun, hm, -⟩ := Session.run_timestamp_utc hutc hw hu
      obtain ⟨m', hrun', hm', -⟩ := Session.run_timestamp_render hutc u
      exact ⟨m, m', hrun, by rw [hm], hrun', by rw [hm']⟩
    · exact fun t' c' n' h' => ⟨h.lt_iff h', h.eq_iff h'⟩
  · intro u choice s hutc
    obtain ⟨m, hrun, hm, -⟩ := Session.run_timestamp_render hutc u
    exact ⟨m, hrun, hm⟩

/-- Two texts with different offsets, of the same hour, are told apart by their canonical forms. -/
theorem canonical_form_offset : ∃ n n',
    CanonicalForm "2021-01-25T20:09:10.5+01:00".toList "2021-01-25T19:09:10.500000000Z".toList n ∧
    CanonicalForm "2021-01-25t19:09:10.5000019z".toList "2021-01-25T19:09:10.500001000Z".toList n' ∧
    n < n' := by
  let day : Date := ⟨2021, 1, 25, by decide⟩
  let u : Clock := ⟨day, 19, 9, 10, 500000, by decide, by decide, by decide, by decide⟩
  let u' : Clock := ⟨day, 19, 9, 10, 500001, by decide, by decide, by decide, by decide⟩
  have h : CanonicalForm "2021-01-25T20:09:10.5+01:00".toList
      "2021-01-25T19:09:10.500000000Z".toList u.micros :=
    canonicalForm_iff.2 ⟨⟨2021, 1, 25, 20, 9, 10, 500000000, 60⟩, u,
      read?_eq_some_iff.1 (by decide +kernel), by rfl, by decide +kernel, rfl⟩
  have h' : CanonicalForm "2021-01-25t19:09:10.5000019z".toList
      "2021-01-25T19:09:10.500001000Z".toList u'.micros :=
    canonicalForm_iff.2 ⟨⟨2021, 1, 25, 19, 9, 10, 500001900, 0⟩, u',
      read?_eq_some_iff.1 (by decide +kernel), by rfl, by decide +kernel, rfl⟩
  obtain ⟨-, -, horder⟩ := canonical_form.2.1 h
  exact ⟨_, _, h, h', (horder _ _ _ h').1.1 (by decide +kernel)⟩

/-! ### Written texts -/

/-- A row of `width` digits `0` to `9`. -/
structure IsPlainRow (width : Nat) (t : Text) : Prop where
  /-- The row has that many characters. -/
  length : t.length = width
  /-- All of them are digits from `0` to `9`. -/
  plain : ∀ c ∈ t, c ∈ digitChars

/-- The form in which wall clocks are written: digits `0` to `9`, capital letters, and nine fraction
digits of which the last three are zeros. -/
inductive IsWritten : Text → Prop where
  /-- The text consists of rows of digits with marks between them. -/
  | parts {year month day hour minute second micro : Text} (hyear : IsPlainRow 4 year)
      (hmonth : IsPlainRow 2 month) (hday : IsPlainRow 2 day) (hhour : IsPlainRow 2 hour)
      (hminute : IsPlainRow 2 minute) (hsecond : IsPlainRow 2 second)
      (hmicro : IsPlainRow 6 micro) :
      IsWritten (year ++ '-' :: (month ++ '-' :: (day ++ 'T' :: (hour ++ ':' :: (minute ++
        ':' :: (second ++ '.' :: (micro ++ ['0', '0', '0'] ++ ['Z'])))))))

namespace IsPlainRow

variable {width : Nat} {t : Text}

instance : DecidablePred (IsPlainRow width) := fun t =>
  decidable_of_iff (t.length = width ∧ t.all (digitChars.contains ·) = true)
    ⟨fun ⟨hlength, hplain⟩ => ⟨hlength, by simpa using hplain⟩,
      fun ⟨hlength, hplain⟩ => ⟨hlength, by simpa using hplain⟩⟩

theorem append {width' : Nat} {t' : Text} (h : IsPlainRow width t) (h' : IsPlainRow width' t') :
    IsPlainRow (width + width') (t ++ t') := by
  refine ⟨by rw [List.length_append, h.length, h'.length], fun c hc => ?_⟩
  exact (List.mem_append.1 hc).elim (h.plain c) (h'.plain c)

theorem isDigitRow (h : IsPlainRow width t) : IsDigitRow width t (digitsValue t) := by
  refine ⟨h.length, fun c hc => ?_, rfl⟩
  obtain ⟨d, hd, rfl⟩ := exists_of_mem_digitChars (h.plain c hc)
  exact isDigit_digitChar hd

/-- A row of digits `0` to `9` is the one that is written for its number. -/
theorem padded_digitsValue (h : IsPlainRow width t) : padded width (digitsValue t) = t := by
  induction width generalizing t with
  | zero => rw [List.length_eq_zero_iff.1 h.length, padded]
  | succ width ih =>
    obtain ⟨row, c, rfl⟩ : ∃ row c, t = row ++ [c] := by
      rcases List.eq_nil_or_concat t with rfl | ⟨row, c, rfl⟩
      · exact absurd h.length (by simp)
      · exact ⟨row, c, List.concat_eq_append⟩
    obtain ⟨d, hd, rfl⟩ := exists_of_mem_digitChars (h.plain c (by simp))
    have hrow : IsPlainRow width row :=
      ⟨by simpa using h.length, fun c hc => h.plain c (List.mem_append_left _ hc)⟩
    rw [digitsValue_append_singleton, digitValue?_digitChar d hd, Option.getD_some, padded]
    have hdiv : (10 * digitsValue row + d) / 10 = digitsValue row := by omega
    have hmod : (10 * digitsValue row + d) % 10 = d := by omega
    rw [hdiv, hmod, ih hrow]

end IsPlainRow

/-- A text in the written form is the one that is written for its instant. -/
theorem IsWritten.eq_render {t : Text} {w : Timestamp} {u : Clock} (h : IsWritten t)
    (hw : w.IsSpelling t) (hu : w.utc? = some u) : t = u.render ++ ['Z'] := by
  obtain @⟨year, month, day, hour, minute, second, micro, hyear, hmonth, hday, hhour, hminute,
    hsecond, hmicro⟩ := h
  have hnanos : IsPlainRow 9 (micro ++ ['0', '0', '0']) :=
    hmicro.append (show IsPlainRow 3 ['0', '0', '0'] by decide)
  have hzero : digitValue? '0' = some 0 := digitValue?_digitChar 0 (by decide)
  have hthousand : digitsValue (micro ++ ['0', '0', '0']) = digitsValue micro * 1000 := by
    rw [List.append_cons, List.append_cons, digitsValue_append_singleton,
      digitsValue_append_singleton, digitsValue_append_singleton, hzero, Option.getD_some]
    omega
  have hspelling := Timestamp.IsSpelling.parts hyear.isDigitRow hmonth.isDigitRow
    hday.isDigitRow (.inl rfl) hhour.isDigitRow hminute.isDigitRow hsecond.isDigitRow
    (.digits hnanos.isDigitRow (by decide) (by decide)) (.zulu (.inl rfl))
  obtain rfl := hspelling.unique hw
  obtain ⟨⟨heqYear, heqMonth, heqDay⟩, heqHour, heqMinute, heqSecond, heqMicro⟩ :=
    Timestamp.clock?_eq_some_iff.1 (Timestamp.clock?_of_utc? rfl hu)
  have heqNanos : u.time.micro * 1000 = digitsValue (micro ++ ['0', '0', '0']) := by
    simp only [heqMicro, hthousand, Nat.sub_self, Nat.pow_eq, Nat.pow_zero, Nat.mul_one]
    rw [Nat.mul_div_cancel _ (by decide)]
  simp only [Clock.render, heqYear, heqMonth, heqDay, heqHour, heqMinute, heqSecond, heqNanos,
    hyear.padded_digitsValue, hmonth.padded_digitsValue, hday.padded_digitsValue,
    hhour.padded_digitsValue, hminute.padded_digitsValue, hsecond.padded_digitsValue,
    hnanos.padded_digitsValue, List.append_assoc, List.cons_append]

end FlatJson
