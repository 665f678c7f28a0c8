import FlatJson.Proofs.Extraction
import FlatJson.Proofs.Position

/-!
# Balanced objects

The balanced scan counts braces and keeps track of quoted strings. What it accepts is a grammar: an
object is a pair of braces around a row of items, and an item is a string, an object or any other
character.

* `Balanced` is the grammar.
* `Balanced.transparent`: the scan passes over whatever is derived.
* `closesFrom_of_balancedSpan?`: what the scan has gone over is derived.
* `balancedSpan?_eq_some_iff` puts the two together.
* `balanced_objects`: the scan ends an object where the grammar does, and no object is the
  beginning of another one.
-/

namespace FlatJson

/-! ### The grammar -/

/-- What is derived. -/
inductive ObjectSymbol where
  /-- A pair of braces with a row of items. -/
  | object
  /-- A string, an object or another character. -/
  | item
  /-- A row of items. -/
  | items

/-- **The grammar of balanced objects.** -/
inductive Balanced : ObjectSymbol → Text → Prop where
  | object {t : Text} (h : Balanced .items t) : Balanced .object ('\x7b' :: t ++ ['\x7d'])
  | plain {c : Char} (h : IsPlain c) : Balanced .item [c]
  | string {t : Text} (h : IsStringBody t) : Balanced .item (inQuotes t)
  | nested {t : Text} (h : Balanced .object t) : Balanced .item t
  | nil : Balanced .items []
  | cons {t u : Text} (h : Balanced .item t) (more : Balanced .items u) : Balanced .items (t ++ u)

theorem balanced_object_iff {t : Text} :
    Balanced .object t ↔ ∃ u, t = '\x7b' :: (u ++ ['\x7d']) ∧ Balanced .items u := by
  constructor
  · rintro ⟨h⟩
    exact ⟨_, rfl, h⟩
  · rintro ⟨u, rfl, h⟩
    exact .object h

/-! ### What is derived is scanned -/

/-- The balanced scan passes over everything that is derived. -/
theorem Balanced.transparent {s : ObjectSymbol} {t : Text} (h : Balanced s t) : Transparent t := by
  induction h with
  | object _ ih => exact ih.braces
  | plain hc => exact transparent_nil.cons hc
  | string ht => exact ht.transparent
  | nested _ ih => exact ih
  | nil => exact transparent_nil
  | cons _ _ ih ihmore => exact ih.append ihmore

/-! ### What is scanned is derived -/

/-- The balanced scan goes over a character and does not end there. -/
inductive ScanStep (c : Char) : ScanPlace → Nat → ScanPlace → Nat → Prop where
  | escaped {n : Nat} : ScanStep c .escaped n .quoted n
  | slash {n : Nat} (h : c = '\\') : ScanStep c .quoted n .escaped n
  | endQuote {n : Nat} (h : c = '"') : ScanStep c .quoted n .outside n
  | quoted {n : Nat} (hquote : c ≠ '"') (hslash : c ≠ '\\') : ScanStep c .quoted n .quoted n
  | quote {n : Nat} (h : c = '"') : ScanStep c .outside n .quoted n
  | opening {n : Nat} (h : c = '\x7b') : ScanStep c .outside n .outside (n + 1)
  | closing {n : Nat} (h : c = '\x7d') : ScanStep c .outside (n + 1) .outside n
  | plain {n : Nat} (h : IsPlain c) : ScanStep c .outside n .outside n

/-- The scan ends at the brace that closes the outermost object and goes over any other
character. -/
theorem balancedSpan?_cons_eq_some {place : ScanPlace} {n : Nat} {c : Char} {rest v : Text}
    (h : balancedSpan? place n (c :: rest) = some v) :
    (place = .outside ∧ n = 0 ∧ c = '\x7d' ∧ v = [c]) ∨
      ∃ place' n' w, ScanStep c place n place' n' ∧ balancedSpan? place' n' rest = some w ∧
        v = c :: w := by
  have goesOn {place' : ScanPlace} {n' : Nat} (hstep : ScanStep c place n place' n')
      (h : (balancedSpan? place' n' rest).map (c :: ·) = some v) :
      ∃ place' n' w, ScanStep c place n place' n' ∧ balancedSpan? place' n' rest = some w ∧
        v = c :: w := by
    obtain ⟨w, hw, rfl⟩ := Option.map_eq_some_iff.1 h
    exact ⟨place', n', w, hstep, hw, rfl⟩
  cases place with
  | escaped => exact .inr (goesOn .escaped h)
  | quoted =>
    simp only [balancedSpan?] at h
    split at h
    · exact .inr (goesOn (.slash ‹_›) h)
    · split at h
      · exact .inr (goesOn (.endQuote ‹_›) h)
      · exact .inr (goesOn (.quoted ‹_› ‹_›) h)
  | outside =>
    rw [balancedSpan?_outside] at h
    split at h
    · exact .inr (goesOn (.quote ‹_›) h)
    · split at h
      · exact .inr (goesOn (.opening ‹_›) h)
      · split at h
        · rename_i hclose
          cases n with
          | zero => exact .inl ⟨rfl, rfl, hclose, (Option.some.inj h).symm⟩
          | succ n => exact .inr (goesOn (.closing hclose) h)
        · exact .inr (goesOn (.plain ⟨‹_›, ‹_›, ‹_›⟩) h)

/-- What the scan has gone over is the beginning of the text. -/
theorem isPrefix_of_balancedSpan? {place : ScanPlace} {n : Nat} {t v : Text}
    (h : balancedSpan? place n t = some v) : v <+: t := by
  induction t generalizing place n v with
  | nil => simp [balancedSpan?] at h
  | cons c rest ih =>
    rcases balancedSpan?_cons_eq_some h with ⟨-, -, -, rfl⟩ | ⟨place', n', w, -, hw, rfl⟩
    · exact ⟨rest, rfl⟩
    · exact List.cons_prefix_cons.2 ⟨rfl, ih hw⟩

/-- The text consists of rows of items, each with a closing brace behind it, one more than the
number says. -/
inductive Closes : Nat → Text → Prop where
  | last {t : Text} (h : Balanced .items t) : Closes 0 (t ++ ['\x7d'])
  | next {n : Nat} {t u : Text} (h : Balanced .items t) (more : Closes n u) :
      Closes (n + 1) (t ++ '\x7d' :: u)

/-- The text ends the string in which it starts, if it starts in one, and then closes the
objects. -/
inductive ClosesFrom : ScanPlace → Nat → Text → Prop where
  | outside {n : Nat} {t : Text} (h : Closes n t) : ClosesFrom .outside n t
  | quoted {n : Nat} {t u : Text} (ht : IsStringBody t) (h : Closes n u) :
      ClosesFrom .quoted n (t ++ '"' :: u)
  | escaped {n : Nat} {c : Char} {t u : Text} (ht : IsStringBody t) (h : Closes n u) :
      ClosesFrom .escaped n (c :: (t ++ '"' :: u))

theorem Closes.cons {n : Nat} {t u : Text} (ht : Balanced .item t) (h : Closes n u) :
    Closes n (t ++ u) := by
  cases h with
  | last hu =>
    rw [← List.append_assoc]
    exact .last (.cons ht hu)
  | next hu more =>
    rw [← List.append_assoc]
    exact .next (.cons ht hu) more

/-- With an opening brace in front there is one object less to close. -/
theorem Closes.opening {n : Nat} {t : Text} (h : Closes (n + 1) t) : Closes n ('\x7b' :: t) := by
  cases h with
  | next ht more =>
    have hobject := more.cons (.nested (.object ht))
    simpa using hobject

theorem ScanStep.closesFrom {c : Char} {place place' : ScanPlace} {n n' : Nat} {w : Text}
    (hstep : ScanStep c place n place' n') (h : ClosesFrom place' n' w) :
    ClosesFrom place n (c :: w) := by
  cases hstep with
  | escaped =>
    cases h with
    | quoted ht hu => exact .escaped ht hu
  | slash hc =>
    subst hc
    cases h with
    | escaped ht hu => exact .quoted (.escape ht) hu
  | endQuote hc =>
    subst hc
    cases h with
    | outside hu => exact .quoted .nil hu
  | quoted hquote hslash =>
    cases h with
    | quoted ht hu => exact .quoted (.char hquote hslash ht) hu
  | quote hc =>
    subst hc
    cases h with
    | quoted ht hu => simpa [inQuotes] using ClosesFrom.outside (hu.cons (.string ht))
  | opening hc =>
    subst hc
    cases h with
    | outside hu => exact .outside hu.opening
  | closing hc =>
    subst hc
    cases h with
    | outside hu => exact .outside (.next .nil hu)
  | plain hc =>
    cases h with
    | outside hu => exact .outside (hu.cons (.plain hc))

/-- What the scan has gone over is derived. -/
theorem closesFrom_of_balancedSpan? {place : ScanPlace} {n : Nat} {t v : Text}
    (h : balancedSpan? place n t = some v) : ClosesFrom place n v := by
  induction t generalizing place n v with
  | nil => simp [balancedSpan?] at h
  | cons c rest ih =>
    rcases balancedSpan?_cons_eq_some h with ⟨rfl, rfl, rfl, rfl⟩ | ⟨place', n', w, hstep, hw, rfl⟩
    · exact .outside (.last .nil)
    · exact hstep.closesFrom (ih hw)

/-- **The balanced scan accepts the grammar.** Behind an opening brace it goes over what makes an
object with the brace. -/
theorem balancedSpan?_eq_some_iff {t v : Text} :
    balancedSpan? .outside 0 t = some v ↔ Balanced .object ('\x7b' :: v) ∧ v <+: t := by
  rw [balanced_object_iff]
  constructor
  · intro h
    refine ⟨?_, isPrefix_of_balancedSpan? h⟩
    cases closesFrom_of_balancedSpan? h with
    | outside hclose =>
      cases hclose with
      | last hu => exact ⟨_, rfl, hu⟩
  · rintro ⟨⟨u, hv, hu⟩, rest, rfl⟩
    obtain rfl := (List.cons.inj hv).2
    rw [List.append_assoc]
    exact hu.transparent 0 ('\x7d' :: rest)

/-! ### Objects in a text -/

/-- A balanced object stands in the text from the first to the second place, both included. -/
def ObjectBetween (t : Text) (first last : Nat) : Prop :=
  ∃ object, Balanced .object object ∧ StandsAt object t first ∧ first + object.length = last + 1

/-- The place of the brace at which the balanced scan ends the object that opens at a place. -/
def closingPlace? (t : Text) (place : Nat) : Option Nat :=
  (balancedSpan? .outside 0 (t.drop (place + 1))).map (place + ·.length)

/-- Why a name has no balanced object. -/
inductive LacksObject (name t : Text) : ObjectAbsence → Prop where
  /-- The name does not occur. -/
  | noName (h : ∀ p, ¬StandsAt name t p) : LacksObject name t (.noName name)
  /-- There is no opening brace from its first occurrence on. -/
  | noBrace {p : Nat} (hname : IsLeast {q | StandsAt name t q} p)
      (h : ∀ q, p ≤ q → ¬StandsAt ['\x7b'] t q) : LacksObject name t .noBrace
  /-- No object stands at the opening brace. -/
  | noEnd {b : Nat} (hopens : OpensAt name t b)
      (h : ∀ object, StandsAt object t b → ¬Balanced .object object) : LacksObject name t .noEnd

/-- What stands where an object opens is an object just when the balanced scan goes over it. -/
theorem balanced_standsAt_iff {before inner object : Text} :
    Balanced .object object ∧ StandsAt object (before ++ '\x7b' :: inner) before.length ↔
      ∃ v, balancedSpan? .outside 0 inner = some v ∧ object = '\x7b' :: v := by
  have hstands := @standsAt_append_iff object ('\x7b' :: inner) 0 before
  rw [Nat.add_zero, standsAt_zero_iff] at hstands
  rw [hstands]
  simp only [balancedSpan?_eq_some_iff]
  constructor
  · rintro ⟨hobject, hbegins⟩
    obtain ⟨u, rfl, -⟩ := balanced_object_iff.1 hobject
    exact ⟨_, ⟨hobject, (List.cons_prefix_cons.1 hbegins).2⟩, rfl⟩
  · rintro ⟨v, ⟨hobject, hbegins⟩, rfl⟩
    exact ⟨hobject, List.cons_prefix_cons.2 ⟨rfl, hbegins⟩⟩

/-- The balanced scan finds the last place of an object. -/
theorem closingPlace?_eq_some_iff {t : Text} {b e : Nat} (hb : StandsAt ['\x7b'] t b) :
    closingPlace? t b = some e ↔ ObjectBetween t b e := by
  obtain ⟨before, inner, rfl, rfl⟩ := hb
  have hdrop : (before ++ (['\x7b'] ++ inner)).drop (before.length + 1) = inner := by
    simp [List.drop_append]
  rw [closingPlace?, hdrop, Option.map_eq_some_iff]
  constructor
  · rintro ⟨v, hv, rfl⟩
    obtain ⟨hobject, hstands⟩ := balanced_standsAt_iff.2 ⟨v, hv, rfl⟩
    exact ⟨_, hobject, hstands, rfl⟩
  · rintro ⟨object, hobject, hstands, he⟩
    obtain ⟨v, hv, rfl⟩ := balanced_standsAt_iff.1 ⟨hobject, hstands⟩
    refine ⟨v, hv, ?_⟩
    rw [List.length_cons] at he
    omega

/-- The object that is extracted stands where the object of the name opens. -/
theorem extractObject_balanced_eq_ok_iff {name t object : Text} :
    extractObject .balanced name t = .ok object ↔
      ∃ b, OpensAt name t b ∧ StandsAt object t b ∧ Balanced .object object := by
  rw [extractObject_eq_ok_iff]
  constructor
  · rintro ⟨before, inner, v, rfl, hopens, hspan, hobject⟩
    obtain ⟨hbalanced, hstands⟩ := balanced_standsAt_iff.2 ⟨v, hspan, hobject⟩
    exact ⟨_, hopens, hstands, hbalanced⟩
  · rintro ⟨b, hopens, hstands, hobject⟩
    obtain ⟨before, inner, rfl, rfl⟩ := hopens.standsAt
    obtain ⟨v, hspan, rfl⟩ := balanced_standsAt_iff.1 ⟨hobject, hstands⟩
    exact ⟨before, inner, v, rfl, hopens, hspan, rfl⟩

theorem extractObject_balanced_eq_error_iff {name t : Text} {why : ObjectAbsence} :
    extractObject .balanced name t = .error why ↔ LacksObject name t why := by
  constructor
  · intro h
    cases objectSearch name t with
    | noName hno hextract =>
      obtain rfl := Except.error.inj ((hextract .balanced).symm.trans h)
      exact .noName hno
    | noBrace hname hno hextract =>
      obtain rfl := Except.error.inj ((hextract .balanced).symm.trans h)
      exact .noBrace hname hno
    | opened htext hopens hextract =>
      subst htext
      obtain ⟨hspan, rfl⟩ := ((hextract .balanced).error_iff _).1 h
      refine .noEnd hopens fun object hstands hobject => ?_
      obtain ⟨v, hv, -⟩ := balanced_standsAt_iff.1 ⟨hobject, hstands⟩
      simp [ObjectScan.span?, hv] at hspan
  · intro h
    cases h with
    | noName hno => exact extractObject_of_noName .balanced hno
    | noBrace hname hno => exact extractObject_of_noBrace .balanced hname hno
    | noEnd hopens hno =>
      obtain ⟨before, inner, rfl, rfl⟩ := hopens.standsAt
      refine ((extractObject_of_opensAt .balanced hopens).error_iff _).2 ⟨?_, rfl⟩
      rw [Option.eq_none_iff_forall_ne_some]
      intro v hspan
      obtain ⟨hobject, hstands⟩ := balanced_standsAt_iff.2 ⟨v, hspan, rfl⟩
      exact hno _ hstands hobject

/-- **The balanced scan and the grammar.** At most one object starts at an opening brace; the scan
finds its end, or none if there is no object. So it extracts the object that stands at the opening
brace of a name, and fails only if the name does not occur, no brace follows or no object stands
there. -/
theorem balanced_objects (name t : Text) :
    (∀ b, StandsAt ['\x7b'] t b →
      (∀ e e', ObjectBetween t b e → ObjectBetween t b e' → e = e') ∧
        (∀ e, closingPlace? t b = some e ↔ ObjectBetween t b e) ∧
        (closingPlace? t b = none ↔ ∀ e, ¬ObjectBetween t b e)) ∧
      (∀ object, extractObject .balanced name t = .ok object ↔
        ∃ b, OpensAt name t b ∧ StandsAt object t b ∧ Balanced .object object) ∧
      ∀ why, extractObject .balanced name t = .error why ↔ LacksObject name t why := by
  refine ⟨fun b hb => ?_, ?_⟩
  · have hiff {e : Nat} := closingPlace?_eq_some_iff (e := e) hb
    refine ⟨fun e e' h h' => ?_, fun e => hiff, ?_⟩
    · rw [← hiff] at h h'
      exact Option.some.inj (h.symm.trans h')
    · rw [Option.eq_none_iff_forall_ne_some]
      exact forall_congr' fun e => not_congr hiff
  · exact ⟨fun object => extractObject_balanced_eq_ok_iff,
      fun why => extractObject_balanced_eq_error_iff⟩

/-- A quote behind a backslash does not end a string. -/
example : extractObject .balanced ['n']
      "n: \x7b\"a\": \"\\\"\x7d\", \"b\": \x7b\x7d\x7d\x7d".toList =
    .ok "\x7b\"a\": \"\\\"\x7d\", \"b\": \x7b\x7d\x7d".toList := by rfl

end FlatJson
