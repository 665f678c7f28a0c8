import FlatJson.Proofs.Spelling
import FlatJson.Session

/-!
# Operations of a session, step by step

* `Session.run_bind`: an operation goes on in the session that its first part leaves.
* `Session.run_zone_some`: a zone that is chosen is found without a look at the settings.
* `Session.run_timestamp`, `Session.run_timestamp_other`: the zone is looked up for a text that is
  written as a timestamp, and for no other one.
* `Session.run_timestamp_eq_ok_iff`: reading a timestamp succeeds when the zone is found and the
  text names an instant that can be shown there.
-/

namespace FlatJson

namespace Session

variable {α β : Type}

theorem run_bind (x : Run α) (f : α → Run β) (s : Session) :
    (x >>= f).run s = match x.run s with
      | (.ok a, s') => (f a).run s'
      | (.error e, s') => (.error e, s') := by
  unfold ExceptT.run
  simp only [bind, ExceptT.bind, ExceptT.mk, StateT.bind]
  obtain ⟨⟨r, s'⟩, h⟩ : ∃ p, p = x s := ⟨_, rfl⟩
  rw [← h]
  cases r <;> rfl

theorem run_lift (x : Except Error α) (s : Session) : (liftM x : Run α).run s = (x, s) := by
  cases x <;> rfl

theorem run_get (s : Session) : (get : Run Session).run s = (.ok s, s) := rfl

/-- A zone that is chosen is found without a look at the settings. -/
theorem run_zone_some (choice : ZoneChoice) (s : Session) :
    (zone (some choice)).run s = ((choice.resolve s.zones).map .zone, s) := by
  unfold zone
  simp only [run_bind, run_get, run_lift]
  cases choice.resolve s.zones <;> rfl

/-- The zone of a timestamp is found first, once its text is known to be written as one. -/
theorem run_timestamp {text : Text} (h : ∃ w : Timestamp, w.IsSpelling text)
    (choice : Option ZoneChoice) (s : Session) :
    (timestamp text choice).run s = match (zone choice).run s with
      | (.ok d, s') => (parseTimestamp text d, s')
      | (.error e, s') => (.error e, s') := by
  obtain ⟨w, hw⟩ := h
  have hsome : ¬(Timestamp.read? text).isNone := by simp [read?_eq_some_iff.2 hw]
  unfold timestamp
  simp only [if_neg hsome, run_bind, run_lift]
  rcases (zone choice).run s with ⟨_ | d, s'⟩ <;> rfl

/-- The zone does not matter for a text that is not written as a timestamp. -/
theorem run_timestamp_other {text : Text} (h : ¬∃ w : Timestamp, w.IsSpelling text)
    (choice : Option ZoneChoice) (s : Session) (d : Destination) :
    (timestamp text choice).run s = (parseTimestamp text d, s) := by
  unfold timestamp
  rw [parseTimestamp, read?_eq_none_iff.2 h]
  rfl

theorem run_timestamp_eq_ok_iff {text : Text} {choice : Option ZoneChoice} {s s' : Session}
    {m : Moment} : (timestamp text choice).run s = (.ok m, s') ↔
      ∃ d, (zone choice).run s = (.ok d, s') ∧ parseTimestamp text d = .ok m := by
  by_cases h : ∃ w : Timestamp, w.IsSpelling text
  · rw [run_timestamp h]
    constructor
    · intro hrun
      split at hrun
      · rename_i d t hzone
        obtain ⟨hm, rfl⟩ := Prod.mk.inj hrun
        exact ⟨d, hzone, hm⟩
      · cases hrun
    · rintro ⟨d, hzone, hm⟩
      rw [hzone]
      exact congrArg (·, s') hm
  · have hother (d : Destination) : parseTimestamp text d ≠ .ok m := by
      simp [parseTimestamp, read?_eq_none_iff.2 h]
    rw [run_timestamp_other h choice s (.host s.host)]
    constructor
    · intro hrun
      exact absurd (Prod.mk.inj hrun).1 (hother _)
    · rintro ⟨d, -, hm⟩
      exact absurd hm (hother d)

/-- Reading a string field as a timestamp is reading its text. -/
theorem run_readTimestamp_eq_ok {name message text : Text} {choice : Option ZoneChoice}
    {s s' : Session} {m : Moment} (htext : readString? name message = some text)
    (h : (timestamp text choice).run s = (.ok m, s')) :
    (readTimestamp name message choice).run s = (.ok (some m), s') := by
  unfold readTimestamp
  rw [htext]
  simp only [run_bind, h]
  rfl

end Session

end FlatJson
