import FlatJson.Object
import Mathlib.Order.Bounds.Basic

/-!
# Places in a text

A place is the number of characters before it. The searches for a word and for a brace find the
least place from which on the word or the brace stands in the text.

* `StandsAt` says that a stretch of text stands at a place.
* `fromFirst?_eq_none_iff`, `isLeast_of_fromFirst?`: the search for a word finds its least place.
* `OpensAt` is the place at which the object of a name opens.
* `objectSearch`: how the search for the object of a name goes, whatever the scan for its end.
* `extractObject_eq_ok_iff`: where an object that is extracted opens, and where it ends.
-/

namespace FlatJson

/-- The stretch stands at the place in the text. -/
def StandsAt (stretch t : Text) (place : Nat) : Prop :=
  ∃ before after, t = before ++ (stretch ++ after) ∧ before.length = place

section
variable {stretch t : Text} {place : Nat}

theorem standsAt_append (before stretch after : Text) :
    StandsAt stretch (before ++ (stretch ++ after)) before.length :=
  ⟨before, after, rfl, rfl⟩

theorem standsAt_zero_iff : StandsAt stretch t 0 ↔ stretch <+: t := by
  constructor
  · rintro ⟨before, after, rfl, hlength⟩
    obtain rfl := List.length_eq_zero_iff.1 hlength
    exact ⟨after, rfl⟩
  · rintro ⟨after, rfl⟩
    exact ⟨[], after, rfl, rfl⟩

theorem standsAt_cons_iff {c : Char} :
    StandsAt stretch (c :: t) (place + 1) ↔ StandsAt stretch t place := by
  constructor
  · rintro ⟨_ | ⟨d, before⟩, after, ht, hlength⟩
    · simp at hlength
    · exact ⟨before, after, (List.cons.inj ht).2, by simpa using hlength⟩
  · rintro ⟨before, after, rfl, rfl⟩
    exact ⟨c :: before, after, rfl, rfl⟩

theorem standsAt_nil_iff : StandsAt stretch [] place ↔ stretch = [] ∧ place = 0 := by
  constructor
  · rintro ⟨before, after, ht, rfl⟩
    simp_all
  · rintro ⟨rfl, rfl⟩
    exact ⟨[], [], rfl, rfl⟩

/-- What comes before a text only shifts its places. -/
theorem standsAt_append_iff {before : Text} :
    StandsAt stretch (before ++ t) (before.length + place) ↔ StandsAt stretch t place := by
  induction before with
  | nil => simp
  | cons c before ih =>
    rw [List.cons_append, List.length_cons, Nat.add_right_comm, standsAt_cons_iff, ih]

/-- From a place on, the least place is that of the text from there on. -/
theorem isLeast_append_iff {before : Text} :
    IsLeast {q | before.length ≤ q ∧ StandsAt stretch (before ++ t) q} (before.length + place) ↔
      IsLeast {q | StandsAt stretch t q} place := by
  constructor
  · rintro ⟨⟨-, hstands⟩, hleast⟩
    refine ⟨standsAt_append_iff.1 hstands, fun q hq => ?_⟩
    exact Nat.le_of_add_le_add_left (hleast ⟨Nat.le_add_right _ q, standsAt_append_iff.2 hq⟩)
  · rintro ⟨hstands, hleast⟩
    refine ⟨⟨Nat.le_add_right _ _, standsAt_append_iff.2 hstands⟩, ?_⟩
    rintro q ⟨hle, hq⟩
    obtain ⟨k, rfl⟩ := Nat.exists_eq_add_of_le hle
    exact Nat.add_le_add_left (hleast (standsAt_append_iff.1 hq)) _

/-- A character that a text does not have stands for the first time where it is put behind the
text. -/
theorem isLeast_standsAt {c : Char} {u : Text} (hu : c ∉ u) (after : Text) :
    IsLeast {q | StandsAt [c] (u ++ c :: after) q} u.length := by
  refine ⟨standsAt_append u [c] after, ?_⟩
  rintro q ⟨before, rest, heq, rfl⟩
  by_contra hlt
  rw [Nat.not_le] at hlt
  have hmem : c ∈ u := by
    have hbegins : before ++ [c] <+: u ++ c :: after := ⟨rest, by simp [heq]⟩
    refine (List.prefix_of_prefix_length_le hbegins (List.prefix_append u _) ?_).subset (by simp)
    rw [List.length_append, List.length_singleton]
    exact hlt
  exact hu hmem

end

/-! ### The first occurrence of a word -/

theorem startsWith_iff_standsAt {word t : Text} :
    startsWith word t = true ↔ StandsAt word t 0 := by
  rw [startsWith_iff, standsAt_zero_iff]
  exact ⟨fun ⟨rest, h⟩ => ⟨rest, h.symm⟩, fun ⟨rest, h⟩ => ⟨rest, h.symm⟩⟩

theorem fromFirst?_eq_none_iff {word t : Text} :
    fromFirst? word t = none ↔ ∀ p, ¬StandsAt word t p := by
  induction t with
  | nil => simp [fromFirst?, startsWith_iff_standsAt, standsAt_nil_iff]
  | cons c rest ih =>
    rw [fromFirst?]
    split
    · rename_i h
      rw [startsWith_iff_standsAt] at h
      simp only [reduceCtorEq, false_iff, not_forall, not_not]
      exact ⟨0, h⟩
    · rename_i h
      rw [startsWith_iff_standsAt] at h
      rw [ih]
      constructor
      · rintro hno (_ | p)
        · exact h
        · rw [standsAt_cons_iff]
          exact hno p
      · intro hno p hp
        exact hno (p + 1) (standsAt_cons_iff.2 hp)

/-- The part of a text from the first occurrence of a word on starts at the least place of the
word. -/
theorem isLeast_of_fromFirst? {word t u : Text} (h : fromFirst? word t = some u) :
    ∃ before, t = before ++ u ∧ IsLeast {p | StandsAt word t p} before.length := by
  induction t with
  | nil =>
    rw [fromFirst?] at h
    split at h
    · rename_i hw
      obtain rfl := Option.some.inj h
      rw [startsWith_iff_standsAt] at hw
      exact ⟨[], rfl, hw, fun _ _ => Nat.zero_le _⟩
    · contradiction
  | cons c rest ih =>
    rw [fromFirst?] at h
    split at h
    · rename_i hw
      obtain rfl := Option.some.inj h
      rw [startsWith_iff_standsAt] at hw
      exact ⟨[], rfl, hw, fun _ _ => Nat.zero_le _⟩
    · rename_i hw
      rw [startsWith_iff_standsAt] at hw
      obtain ⟨before, rfl, hstands, hleast⟩ := ih h
      refine ⟨c :: before, rfl, standsAt_cons_iff.2 hstands, ?_⟩
      rintro (_ | p) hp
      · exact absurd hp hw
      · exact Nat.succ_le_succ (hleast (standsAt_cons_iff.1 hp))

/-- Skipping all characters but one is searching for that one. -/
theorem dropWhile_ne_eq (c : Char) (t : Text) :
    t.dropWhile (· != c) = (fromFirst? [c] t).getD [] := by
  induction t with
  | nil => rfl
  | cons d rest ih =>
    by_cases hd : d = c
    · subst hd
      simp [fromFirst?, startsWith]
    · rw [List.dropWhile_cons_of_pos (by simpa using hd), ih]
      simp [fromFirst?, startsWith, Ne.symm hd]

/-! ### The object of a name -/

/-- The object of a name opens at the place: there is the first opening brace from the first
occurrence of the name on. -/
def OpensAt (name t : Text) (place : Nat) : Prop :=
  ∃ p, IsLeast {q | StandsAt name t q} p ∧ IsLeast {q | p ≤ q ∧ StandsAt ['\x7b'] t q} place

theorem OpensAt.unique {name t : Text} {b b' : Nat} (h : OpensAt name t b)
    (h' : OpensAt name t b') : b = b' := by
  obtain ⟨p, hp, hb⟩ := h
  obtain ⟨p', hp', hb'⟩ := h'
  obtain rfl := hp.unique hp'
  exact hb.unique hb'

theorem OpensAt.standsAt {name t : Text} {b : Nat} (h : OpensAt name t b) :
    ∃ before inner, t = before ++ '\x7b' :: inner ∧ before.length = b := by
  obtain ⟨p, -, hb⟩ := h
  exact hb.1.2

/-- What is extracted if the object opens in front of the text. -/
structure EndsIn (inner : Text) (scan : ObjectScan) (extracted : Except ObjectAbsence Text) :
    Prop where
  /-- The object is the brace and the part of the text that the scan goes over. -/
  ok_iff : ∀ object, extracted = .ok object ↔
    ∃ v, scan.span? inner = some v ∧ object = '\x7b' :: v
  /-- There is none if the scan does not end. -/
  error_iff : ∀ why, extracted = .error why ↔ scan.span? inner = none ∧ why = .noEnd

/-- How the search for the object of a name goes. Only its end depends on the scan. -/
inductive ObjectSearch (name t : Text) : Prop where
  /-- The name does not occur. -/
  | noName (hname : ∀ p, ¬StandsAt name t p)
      (hextract : ∀ scan, extractObject scan name t = .error (.noName name))
  /-- There is no opening brace from the name on. -/
  | noBrace {p : Nat} (hname : IsLeast {q | StandsAt name t q} p)
      (hbrace : ∀ q, p ≤ q → ¬StandsAt ['\x7b'] t q)
      (hextract : ∀ scan, extractObject scan name t = .error .noBrace)
  /-- The end is looked for behind the brace. -/
  | opened {before inner : Text} (htext : t = before ++ '\x7b' :: inner)
      (hopens : OpensAt name t before.length)
      (hextract : ∀ scan, EndsIn inner scan (extractObject scan name t))

theorem objectSearch (name t : Text) : ObjectSearch name t := by
  cases hname : fromFirst? name t with
  | none =>
    refine .noName (fromFirst?_eq_none_iff.1 hname) fun scan => ?_
    rw [extractObject, hname]
  | some u =>
    obtain ⟨before, rfl, hleast⟩ := isLeast_of_fromFirst? hname
    cases hbrace : fromFirst? ['\x7b'] u with
    | none =>
      refine .noBrace hleast ?_ fun scan => ?_
      · intro q hq
        obtain ⟨k, rfl⟩ := Nat.exists_eq_add_of_le hq
        rw [standsAt_append_iff]
        exact fromFirst?_eq_none_iff.1 hbrace k
      · rw [extractObject, hname]
        simp only [dropWhile_ne_eq, hbrace, Option.getD_none]
    | some v =>
      obtain ⟨gap, rfl, hfirst⟩ := isLeast_of_fromFirst? hbrace
      obtain ⟨inner, rfl⟩ := startsWith_iff.1 (fromFirst?_eq_some hbrace).1
      refine @ObjectSearch.opened _ _ (before ++ gap) inner (by simp) ⟨_, hleast, ?_⟩ fun scan => ?_
      · rw [List.length_append]
        exact isLeast_append_iff.2 hfirst
      · rw [extractObject, hname]
        simp only [dropWhile_ne_eq, hbrace, Option.getD_some]
        constructor <;> cases hspan : scan.span? inner <;> simp [hspan, eq_comm]

section
variable {name t : Text} (scan : ObjectScan)

theorem extractObject_of_noName (h : ∀ p, ¬StandsAt name t p) :
    extractObject scan name t = .error (.noName name) := by
  rw [extractObject, fromFirst?_eq_none_iff.2 h]

theorem extractObject_of_noBrace {p : Nat} (hname : IsLeast {q | StandsAt name t q} p)
    (h : ∀ q, p ≤ q → ¬StandsAt ['\x7b'] t q) : extractObject scan name t = .error .noBrace := by
  cases objectSearch name t with
  | noName hno => exact absurd hname.1 (hno p)
  | noBrace _ _ hextract => exact hextract scan
  | opened htext hopens _ =>
    obtain ⟨p', hp', hb⟩ := hopens
    obtain rfl := hp'.unique hname
    exact absurd hb.1.2 (h _ hb.1.1)

theorem extractObject_of_opensAt {before inner : Text}
    (h : OpensAt name (before ++ '\x7b' :: inner) before.length) :
    EndsIn inner scan (extractObject scan name (before ++ '\x7b' :: inner)) := by
  cases objectSearch name (before ++ '\x7b' :: inner) with
  | noName hno _ =>
    obtain ⟨p, hp, -⟩ := h
    exact absurd hp.1 (hno p)
  | noBrace hname hno _ =>
    obtain ⟨p, hp, hb⟩ := h
    obtain rfl := hp.unique hname
    exact absurd hb.1.2 (hno _ hb.1.1)
  | opened htext hopens hextract =>
    obtain ⟨rfl, hinner⟩ := List.append_inj htext (h.unique hopens)
    obtain rfl := (List.cons.inj hinner).2
    exact hextract scan

end

/-- An object that is extracted opens where the name says, and goes on to the end of the scan. -/
theorem extractObject_eq_ok_iff {scan : ObjectScan} {name t object : Text} :
    extractObject scan name t = .ok object ↔
      ∃ before inner v, t = before ++ '\x7b' :: inner ∧ OpensAt name t before.length ∧
        scan.span? inner = some v ∧ object = '\x7b' :: v := by
  constructor
  · intro h
    cases objectSearch name t with
    | noName _ hextract => simp [hextract] at h
    | noBrace _ _ hextract => simp [hextract] at h
    | opened htext hopens hextract =>
      obtain ⟨v, hspan, hobject⟩ := ((hextract scan).ok_iff object).1 h
      exact ⟨_, _, v, htext, hopens, hspan, hobject⟩
  · rintro ⟨before, inner, v, rfl, hopens, hspan, rfl⟩
    exact ((extractObject_of_opensAt scan hopens).ok_iff _).2 ⟨v, hspan, rfl⟩

end FlatJson
