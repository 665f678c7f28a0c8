import FlatJson.Proofs.Nesting

/-!
# The two scans for the end of an object

The scan for the first closing brace does not look at strings and nested objects. Where the balanced
scan ends an object, the other scan ends the same object there or earlier.

* `EndsOutside` says that a text ends outside of quoted strings, read from its beginning.
* `balanced_items_iff`: up to the first closing brace, a row of items is a text that ends outside of
  quoted strings and opens no object outside of them.
* `firstBrace_balanced`: when the two scans agree, and how they differ.
-/

namespace FlatJson

/-! ### Quoted strings -/

/-- The text ends outside of quoted strings. -/
inductive EndsOutside : Text → Prop where
  | nil : EndsOutside []
  | char {c : Char} {t : Text} (h : c ≠ '"') (more : EndsOutside t) : EndsOutside (c :: t)
  | string {t u : Text} (h : IsStringBody t) (more : EndsOutside u) : EndsOutside (inQuotes t ++ u)

/-- A string ends at one quote only. -/
theorem IsStringBody.cancel {t t' u u' : Text} (ht : IsStringBody t) (ht' : IsStringBody t')
    (h : t ++ '"' :: u = t' ++ '"' :: u') : u = u' := by
  induction ht generalizing t' with
  | nil =>
    cases ht' with
    | nil => exact (List.cons.inj h).2
    | char hquote => exact absurd (List.cons.inj h).1.symm hquote
    | escape => exact absurd (List.cons.inj h).1 (by decide)
  | char hquote hslash _ ih =>
    cases ht' with
    | nil => exact absurd (List.cons.inj h).1 hquote
    | char _ _ ht' => exact ih ht' (List.cons.inj h).2
    | escape => exact absurd (List.cons.inj h).1 hslash
  | escape _ ih =>
    cases ht' with
    | nil => exact absurd (List.cons.inj h).1 (by decide)
    | char _ hslash => exact absurd (List.cons.inj h).1.symm hslash
    | escape ht' => exact ih ht' (List.cons.inj (List.cons.inj h).2).2

theorem endsOutside_cons_iff {c : Char} {t : Text} (hc : c ≠ '"') :
    EndsOutside (c :: t) ↔ EndsOutside t := by
  constructor
  · intro h
    generalize hu : c :: t = u at h
    cases h with
    | nil => contradiction
    | char _ more =>
      obtain rfl := (List.cons.inj hu).2
      exact more
    | string => exact absurd (List.cons.inj hu).1 hc
  · exact .char hc

/-- A text that starts with a string and ends outside of strings does so behind it. -/
theorem EndsOutside.of_string {t u x : Text} (ht : IsStringBody t) (hx : x ≠ [])
    (h : EndsOutside x) (hbegins : x <+: inQuotes t ++ u) :
    ∃ y, x = inQuotes t ++ y ∧ EndsOutside y := by
  obtain ⟨rest, heq⟩ := hbegins
  cases h with
  | nil => contradiction
  | char hc => exact absurd (List.cons.inj heq).1 hc
  | @string t' y ht' more =>
    have hbody : t' ++ '"' :: (y ++ rest) = t ++ '"' :: u := by simpa [inQuotes] using heq
    obtain rfl := ht'.cancel ht hbody
    obtain rfl := List.append_cancel_right hbody
    exact ⟨y, rfl, more⟩

theorem EndsOutside.append {t u : Text} (ht : EndsOutside t) (hu : EndsOutside u) :
    EndsOutside (t ++ u) := by
  induction ht with
  | nil => exact hu
  | char hc _ ih => exact .char hc ih
  | string h _ ih =>
    rw [List.append_assoc]
    exact .string h ih

theorem Balanced.endsOutside {s : ObjectSymbol} {t : Text} (h : Balanced s t) : EndsOutside t := by
  induction h with
  | object _ ih => exact .char (by decide) (ih.append (.char (by decide) .nil))
  | plain hc => exact .char hc.1 .nil
  | string ht => simpa using EndsOutside.string ht .nil
  | nested _ ih => exact ih
  | nil => exact .nil
  | cons _ _ ih ihmore => exact ih.append ihmore

/-! ### Rows of items without a nested object -/

/-- No object is opened outside of quoted strings. -/
def OpensNothing (t : Text) : Prop := ∀ x y, t = x ++ '\x7b' :: y → ¬EndsOutside x

theorem opensNothing_cons_iff {c : Char} {t : Text} (hc : IsPlain c) :
    OpensNothing (c :: t) ↔ OpensNothing t := by
  constructor
  · rintro h x y rfl hx
    exact h (c :: x) y rfl (.char hc.1 hx)
  · intro h x y heq hx
    cases x with
    | nil => exact hc.2.1 (List.cons.inj heq).1
    | cons d x =>
      obtain ⟨rfl, rfl⟩ := List.cons.inj heq
      exact h x y rfl ((endsOutside_cons_iff hc.1).1 hx)

theorem opensNothing_string_iff {t u : Text} (ht : IsStringBody t) :
    OpensNothing (inQuotes t ++ u) ↔ OpensNothing u := by
  constructor
  · rintro h x y rfl hx
    exact h (inQuotes t ++ x) y (by rw [List.append_assoc]) (.string ht hx)
  · intro h x y heq hx
    have hne : x ≠ [] := by
      rintro rfl
      exact absurd (List.cons.inj heq).1 (by decide)
    obtain ⟨x', rfl, hx'⟩ := hx.of_string ht hne ⟨_, heq.symm⟩
    rw [List.append_assoc] at heq
    exact h x' y (List.append_cancel_left heq) hx'

/-- Without a closing brace, a row of items is a text that ends outside of quoted strings and opens
no object outside of them. -/
theorem balanced_items_iff {t : Text} (hclose : '\x7d' ∉ t) :
    Balanced .items t ↔ EndsOutside t ∧ OpensNothing t := by
  constructor
  · intro h
    refine ⟨h.endsOutside, ?_⟩
    generalize hs : ObjectSymbol.items = s at h
    induction h with
    | nil => simp [OpensNothing]
    | cons hitem _ _ ih =>
      rw [List.mem_append, not_or] at hclose
      have hrow := ih hclose.2 rfl
      cases hitem with
      | plain hc => exact (opensNothing_cons_iff hc).2 hrow
      | string ht => exact (opensNothing_string_iff ht).2 hrow
      | nested h =>
        cases h with
        | object => simp at hclose
    | _ => contradiction
  · rintro ⟨h, hopen⟩
    induction h with
    | nil => exact .nil
    | @char c t hc _ ih =>
      simp only [List.mem_cons, not_or] at hclose
      have hplain : IsPlain c := by
        refine ⟨hc, ?_, Ne.symm hclose.1⟩
        rintro rfl
        exact hopen [] t rfl .nil
      exact .cons (.plain hplain) (ih hclose.2 ((opensNothing_cons_iff hplain).1 hopen))
    | @string t u ht _ ih =>
      rw [List.mem_append, not_or] at hclose
      exact .cons (.string ht) (ih hclose.2 ((opensNothing_string_iff ht).1 hopen))

/-! ### The two scans -/

theorem firstBraceSpan?_eq_none_iff {t : Text} : firstBraceSpan? t = none ↔ '\x7d' ∉ t := by
  constructor
  · intro h hmem
    obtain ⟨u, after, rfl, hu⟩ := List.eq_append_cons_of_mem hmem
    simp [firstBraceSpan?_append hu] at h
  · intro h
    induction t with
    | nil => rfl
    | cons c rest ih =>
      simp only [List.mem_cons, not_or] at h
      rw [firstBraceSpan?, if_neg (Ne.symm h.1), ih h.2]
      rfl

/-- The balanced scan ends at a closing brace. -/
theorem closing_mem_of_balancedSpan? {t v : Text} (h : balancedSpan? .outside 0 t = some v) :
    '\x7d' ∈ t := by
  obtain ⟨hobject, hbegins⟩ := balancedSpan?_eq_some_iff.1 h
  obtain ⟨u, hu, -⟩ := balanced_object_iff.1 hobject
  obtain rfl := (List.cons.inj hu).2
  exact hbegins.subset (by simp)

/-- The balanced scan does not end before the first closing brace. -/
theorem isPrefix_of_balancedSpan?_append {u after v : Text} (hu : '\x7d' ∉ u)
    (h : balancedSpan? .outside 0 (u ++ '\x7d' :: after) = some v) : u ++ ['\x7d'] <+: v := by
  obtain ⟨hobject, hbegins⟩ := balancedSpan?_eq_some_iff.1 h
  obtain ⟨w, hw, -⟩ := balanced_object_iff.1 hobject
  obtain rfl := (List.cons.inj hw).2
  have hfirst : u ++ ['\x7d'] <+: u ++ '\x7d' :: after := ⟨after, by simp⟩
  refine List.prefix_of_prefix_length_le hfirst hbegins ?_
  -- otherwise the scan would have ended inside of `u`
  rcases Nat.lt_or_ge w.length u.length with hlt | hle
  · have hinside : w ++ ['\x7d'] <+: u := by
      refine List.prefix_of_prefix_length_le hbegins (List.prefix_append u _) ?_
      rw [List.length_append, List.length_singleton]
      exact hlt
    exact absurd (hinside.subset (by simp)) hu
  · simpa using hle

/-- The two scans agree when there is a row of items before the first closing brace. -/
theorem balancedSpan?_append_eq_iff {u : Text} (hu : '\x7d' ∉ u) (after : Text) :
    balancedSpan? .outside 0 (u ++ '\x7d' :: after) = some (u ++ ['\x7d']) ↔
      EndsOutside u ∧ OpensNothing u := by
  rw [balancedSpan?_eq_some_iff, balanced_object_iff, ← balanced_items_iff hu]
  constructor
  · rintro ⟨⟨w, hw, hitems⟩, -⟩
    obtain rfl := List.append_cancel_right (List.cons.inj hw).2
    exact hitems
  · intro hitems
    exact ⟨⟨u, rfl, hitems⟩, after, by simp⟩

/-- Read from one place on, another place lies outside of quoted strings. -/
def IsOutside (t : Text) (start place : Nat) : Prop :=
  ∃ u, StandsAt u t start ∧ start + u.length = place ∧ EndsOutside u

theorem isOutside_append_iff {before u rest : Text} :
    IsOutside (before ++ '\x7b' :: (u ++ rest)) before.length (before.length + (u.length + 1)) ↔
      EndsOutside u := by
  have hstands {x : Text} := @standsAt_append_iff x ('\x7b' :: (u ++ rest)) 0 before
  simp only [Nat.add_zero, standsAt_zero_iff] at hstands
  rw [← endsOutside_cons_iff (show '\x7b' ≠ '"' by decide)]
  constructor
  · rintro ⟨x, hx, hlength, hends⟩
    rw [hstands] at hx
    have hu : '\x7b' :: u <+: '\x7b' :: (u ++ rest) := ⟨rest, rfl⟩
    obtain rfl := (List.prefix_of_prefix_length_le hx hu (by simp; omega)).eq_of_length
      (by simp; omega)
    exact hends
  · intro h
    exact ⟨_, hstands.2 ⟨rest, rfl⟩, by simp, h⟩

/-- An object that opens and closes at two places opens no other one in between. -/
theorem opensNothing_iff {before u after : Text} :
    OpensNothing u ↔ ∀ q, before.length < q → q < before.length + (u.length + 1) →
      StandsAt ['\x7b'] (before ++ '\x7b' :: (u ++ '\x7d' :: after)) q →
        ¬IsOutside (before ++ '\x7b' :: (u ++ '\x7d' :: after)) before.length q := by
  constructor
  · intro h q hlt hq hbrace
    obtain ⟨k, rfl⟩ : ∃ k, q = before.length + (k + 1) := ⟨q - before.length - 1, by omega⟩
    rw [standsAt_append_iff, standsAt_cons_iff] at hbrace
    obtain ⟨x, rest, heq, rfl⟩ := hbrace
    obtain ⟨y, rfl⟩ : ∃ y, u = x ++ '\x7b' :: y := by
      rcases List.append_eq_append_iff.1 heq with ⟨y, rfl, -⟩ | ⟨y, rfl, hy⟩
      · rw [List.length_append] at hq
        omega
      · cases y with
        | nil => simp at hq
        | cons d y =>
          obtain ⟨rfl, -⟩ := List.cons.inj hy
          exact ⟨y, rfl⟩
    rw [List.append_assoc, isOutside_append_iff]
    exact h x y rfl
  · rintro h x y rfl
    have hplace := h (before.length + (x.length + 1)) (by omega) (by simp)
    rw [List.append_assoc, isOutside_append_iff] at hplace
    refine hplace ?_
    rw [standsAt_append_iff, standsAt_cons_iff]
    exact standsAt_append x ['\x7b'] (y ++ '\x7d' :: after)

/-- **The two scans for the end of an object.** An object that the balanced scan extracts starts
with what the other scan extracts, at the same brace; where the other scan extracts nothing, neither
does the balanced one, for the same reason. The scan for the first closing brace extracts the same
as the balanced one just when this brace lies outside of quoted strings and no other object is
opened before it outside of them; otherwise the balanced scan extracts more, or nothing. -/
theorem firstBrace_balanced (name t : Text) :
    (∀ object, extractObject .balanced name t = .ok object →
      ∃ b short, OpensAt name t b ∧ StandsAt object t b ∧ StandsAt short t b ∧
        extractObject .firstBrace name t = .ok short ∧ short <+: object) ∧
      (∀ why, extractObject .firstBrace name t = .error why →
        extractObject .balanced name t = .error why) ∧
      ∀ short, extractObject .firstBrace name t = .ok short →
        ∃ b f, OpensAt name t b ∧ StandsAt short t b ∧ b + short.length = f + 1 ∧
          IsLeast {q | b ≤ q ∧ StandsAt ['\x7d'] t q} f ∧
          (extractObject .balanced name t = .ok short ↔ IsOutside t b f ∧
            ∀ q, b < q → q < f → StandsAt ['\x7b'] t q → ¬IsOutside t b q) ∧
          (extractObject .balanced name t ≠ .ok short →
            (∃ why, extractObject .balanced name t = .error why) ∨
              ∃ object, extractObject .balanced name t = .ok object ∧ short <+: object ∧
                short.length < object.length) := by
  cases objectSearch name t with
  | noName _ hextract => simp [hextract]
  | noBrace _ _ hextract => simp [hextract]
  | @opened before inner htext hopens hextract =>
    subst htext
    simp only [(hextract _).ok_iff, (hextract _).error_iff, ObjectScan.span?, ne_eq]
    by_cases hclose : '\x7d' ∈ inner
    · obtain ⟨u, after, rfl, hu⟩ := List.eq_append_cons_of_mem hclose
      have hshort : StandsAt ('\x7b' :: (u ++ ['\x7d']))
          (before ++ '\x7b' :: (u ++ '\x7d' :: after)) before.length :=
        ⟨before, after, by simp, rfl⟩
      simp only [firstBraceSpan?_append hu]
      refine ⟨?_, by simp, ?_⟩
      · rintro object ⟨v, hspan, rfl⟩
        refine ⟨_, _, hopens, (balanced_standsAt_iff.2 ⟨v, hspan, rfl⟩).2, hshort,
          ⟨_, rfl, rfl⟩, ?_⟩
        exact List.cons_prefix_cons.2 ⟨rfl, isPrefix_of_balancedSpan?_append hu hspan⟩
      · rintro short ⟨w, ⟨⟩, rfl⟩
        refine ⟨_, before.length + (u.length + 1), hopens, hshort, by simp; omega,
          isLeast_append_iff.2 ?_, ?_, ?_⟩
        · exact @isLeast_standsAt _ ('\x7b' :: u) (by simpa using hu) after
        · rw [isOutside_append_iff, ← opensNothing_iff, ← balancedSpan?_append_eq_iff hu after]
          simp
        · intro hne
          cases hspan : balancedSpan? .outside 0 (u ++ '\x7d' :: after) with
          | none => exact .inl ⟨_, rfl, rfl⟩
          | some v =>
            have hbegins := isPrefix_of_balancedSpan?_append hu hspan
            refine .inr ⟨_, ⟨v, rfl, rfl⟩, List.cons_prefix_cons.2 ⟨rfl, hbegins⟩, ?_⟩
            refine Nat.succ_lt_succ (Nat.lt_of_le_of_ne hbegins.length_le fun hlength => hne ?_)
            exact ⟨_, hspan, by rw [hbegins.eq_of_length hlength]⟩
    · have hnone : balancedSpan? .outside 0 inner = none := by
        rw [Option.eq_none_iff_forall_ne_some]
        exact fun v hspan => hclose (closing_mem_of_balancedSpan? hspan)
      simp [hnone, firstBraceSpan?_eq_none_iff.2 hclose]

end FlatJson
