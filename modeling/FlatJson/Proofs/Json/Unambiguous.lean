import FlatJson.Proofs.Json.Grammar

/-!
# JSON is unambiguous

No text stands for two values. Where a value ends is seen from what follows it, space aside: a
number goes on as long as there are characters of numbers, a row of items as long as there are
commas, and everything else has an end of its own.

* `Derives.unique`: two values at the beginning of a text are the same, and the same text is left.
* `Decodes.unique`: a whole text stands for at most one value.
-/

namespace FlatJson

namespace Json

/-! ### What follows -/

/-- The text does not begin with a character of the class. -/
def Avoids (p : Char → Bool) (t : Text) : Prop := ∀ c more, t = c :: more → p c = false

theorem avoids_nil (p : Char → Bool) : Avoids p [] := by
  intro c more h
  contradiction

theorem avoids_cons {p : Char → Bool} {c : Char} (hc : p c = false) (t : Text) :
    Avoids p (c :: t) := by
  intro d more h
  obtain ⟨rfl, -⟩ := List.cons.inj h
  exact hc

theorem Avoids.takeWhile {p : Char → Bool} {t : Text} (h : Avoids p t) : t.takeWhile p = [] := by
  cases t with
  | nil => rfl
  | cons c more => exact List.takeWhile_cons_of_neg (by simp [h c more rfl])

/-- A stretch of characters of a class, as long as possible, is determined. -/
theorem append_inj_of_avoids {p : Char → Bool} {a a' r r' : Text} (ha : ∀ c ∈ a, p c = true)
    (ha' : ∀ c ∈ a', p c = true) (hr : Avoids p r) (hr' : Avoids p r') (h : a ++ r = a' ++ r') :
    a = a' ∧ r = r' := by
  have hrow : a = a' := by
    have := congrArg (List.takeWhile p) h
    rwa [List.takeWhile_append_of_pos ha, List.takeWhile_append_of_pos ha', hr.takeWhile,
      hr'.takeWhile, List.append_nil, List.append_nil] at this
  subst hrow
  exact ⟨rfl, List.append_cancel_left h⟩

/-- The text from its first character that is not space. -/
def trim (t : Text) : Text := t.dropWhile isSpace

theorem trim_cons {c : Char} (hc : isSpace c = false) (t : Text) : trim (c :: t) = c :: t :=
  List.dropWhile_cons_of_neg (by simp [hc])

theorem trim_spaces {w : Text} (hw : IsSpaces w) (t : Text) : trim (w ++ t) = trim t :=
  List.dropWhile_append_of_pos hw

section
variable {c : Char} {m m' x x' : Text}

theorem IsMark.exists_trim (h : IsMark c m) (hc : isSpace c = false) :
    ∃ a, IsSpaces a ∧ ∀ x, trim (m ++ x) = c :: (a ++ x) := by
  obtain ⟨hbefore, hafter⟩ := h
  refine ⟨_, hafter, fun x => ?_⟩
  rw [List.append_assoc, trim_spaces hbefore, List.cons_append, trim_cons hc]

/-- The same sign can be taken away on both sides, with the space around it. -/
theorem IsMark.cancel (h : IsMark c m) (h' : IsMark c m') (hc : isSpace c = false)
    (heq : trim (m ++ x) = trim (m' ++ x')) : trim x = trim x' := by
  obtain ⟨a, ha, htrim⟩ := h.exists_trim hc
  obtain ⟨a', ha', htrim'⟩ := h'.exists_trim hc
  rw [htrim, htrim'] at heq
  rw [← trim_spaces ha x, ← trim_spaces ha' x', (List.cons.inj heq).2]

/-- Different signs cannot stand at the same place. -/
theorem IsMark.trim_ne (h : IsMark c m) (hc : isSpace c = false) {d : Char} (hne : d ≠ c)
    (more : Text) : trim (m ++ x) ≠ d :: more := by
  obtain ⟨a, -, htrim⟩ := h.exists_trim hc
  rw [htrim]
  intro heq
  exact hne (List.cons.inj heq).1.symm

end

/-! ### Numbers -/

/-- The characters of numbers. -/
def isNumeric (c : Char) : Bool :=
  c.isDigit || c == '-' || c == '+' || c == '.' || c == 'e' || c == 'E'

theorem isNumeric_of_isDigit {c : Char} (h : c.isDigit = true) : isNumeric c = true := by
  simp [isNumeric, h]

theorem IsFrac.numeric {t : Text} {q : ℚ} (h : IsFrac t q) : ∀ c ∈ t, isNumeric c = true := by
  cases h with
  | absent => simp
  | digits h =>
    intro c hc
    rcases List.mem_cons.1 hc with rfl | hc
    · rfl
    · exact isNumeric_of_isDigit (h.digit c hc)

theorem IsExp.numeric {t : Text} {e : ℤ} (h : IsExp t e) : ∀ c ∈ t, isNumeric c = true := by
  intro c hc
  cases h with
  | absent => simp at hc
  | bare he h =>
    rcases List.mem_cons.1 hc with rfl | hc
    · rcases he with rfl | rfl <;> rfl
    · exact isNumeric_of_isDigit (h.digit c hc)
  | plus he h | minus he h =>
    rcases List.mem_cons.1 hc with rfl | hc
    · rcases he with rfl | rfl <;> rfl
    · rcases List.mem_cons.1 hc with rfl | hc
      · rfl
      · exact isNumeric_of_isDigit (h.digit c hc)

theorem IsUnsigned.numeric {t : Text} {q : ℚ} (h : IsUnsigned t q) :
    ∀ c ∈ t, isNumeric c = true := by
  obtain ⟨hint, hfrac, hexp⟩ := h
  intro c hc
  simp only [List.mem_append] at hc
  rcases hc with hc | hc | hc
  · exact isNumeric_of_isDigit (hint.digit c hc)
  · exact hfrac.numeric c hc
  · exact hexp.numeric c hc

theorem IsNumber.numeric {t : Text} {q : ℚ} (h : IsNumber t q) : ∀ c ∈ t, isNumeric c = true := by
  cases h with
  | plus h => exact h.numeric
  | minus h =>
    intro c hc
    rcases List.mem_cons.1 hc with rfl | hc
    · rfl
    · exact h.numeric c hc

theorem IsUnsigned.exists_cons {t : Text} {q : ℚ} (h : IsUnsigned t q) :
    ∃ c more, t = c :: more ∧ c.isDigit = true := by
  obtain ⟨hint, -, -⟩ := h
  obtain ⟨c, more, rfl⟩ := List.exists_cons_of_ne_nil hint.ne_nil
  exact ⟨c, _, rfl, hint.digit c List.mem_cons_self⟩

theorem IsNumber.exists_cons {t : Text} {q : ℚ} (h : IsNumber t q) :
    ∃ c more, t = c :: more ∧ (c = '-' ∨ c.isDigit = true) := by
  cases h with
  | plus h =>
    obtain ⟨c, more, rfl, hc⟩ := h.exists_cons
    exact ⟨c, more, rfl, .inr hc⟩
  | minus h => exact ⟨'-', _, rfl, .inl rfl⟩

theorem IsExp.avoids {t : Text} {e : ℤ} (h : IsExp t e) : Avoids Char.isDigit t := by
  cases h with
  | absent => exact avoids_nil _
  | bare he | plus he | minus he =>
    refine avoids_cons ?_ _
    rcases he with rfl | rfl <;> rfl

theorem IsDigits.unique {row row' : Text} {n n' : Nat} (h : IsDigits row n)
    (h' : IsDigits row' n') (heq : row = row') : n = n' := by
  rw [← h.value, ← h'.value, heq]

theorem IsDigits.ne_sign {row t : Text} {n : Nat} {c : Char} (h : IsDigits row n)
    (hc : c.isDigit = false) : row ≠ c :: t := by
  rintro rfl
  have := h.digit c List.mem_cons_self
  rw [hc] at this
  contradiction

theorem IsExp.unique {t : Text} {e e' : ℤ} (h : IsExp t e) (h' : IsExp t e') : e = e' := by
  cases h with
  | absent => cases h'; rfl
  | bare he h =>
    cases h' with
    | bare he' h' => rw [h.unique h' rfl]
    | plus he' h' | minus he' h' => exact absurd rfl (h.ne_sign (by decide))
  | plus he h =>
    cases h' with
    | bare he' h' => exact absurd rfl (h'.ne_sign (by decide))
    | plus he' h' => rw [h.unique h' rfl]
  | minus he h =>
    cases h' with
    | bare he' h' => exact absurd rfl (h'.ne_sign (by decide))
    | minus he' h' => rw [h.unique h' rfl]

/-- The fraction ends where the power of ten begins. -/
theorem IsFrac.unique {t t' x x' : Text} {q q' : ℚ} {e e' : ℤ} (h : IsFrac t q) (h' : IsFrac t' q')
    (hx : IsExp x e) (hx' : IsExp x' e') (heq : t ++ x = t' ++ x') : q = q' ∧ x = x' := by
  have point {x more : Text} {e : ℤ} (hx : IsExp x e) : x ≠ '.' :: more := by
    rintro rfl
    cases hx with
    | bare he | plus he | minus he => rcases he with he | he <;> contradiction
  cases h with
  | absent =>
    cases h' with
    | absent => exact ⟨rfl, heq⟩
    | digits h' => exact absurd heq (point hx)
  | digits h =>
    cases h' with
    | absent => exact absurd heq.symm (point hx')
    | digits h' =>
      obtain ⟨rfl, rfl⟩ := append_inj_of_avoids h.digit h'.digit hx.avoids hx'.avoids
        (List.cons.inj heq).2
      exact ⟨by rw [h.unique h' rfl], rfl⟩

theorem IsUnsigned.unique {t t' : Text} {q q' : ℚ} (h : IsUnsigned t q) (h' : IsUnsigned t' q')
    (heq : t = t') : q = q' := by
  have avoids {f x : Text} {q : ℚ} {e : ℤ} (hf : IsFrac f q) (hx : IsExp x e) :
      Avoids Char.isDigit (f ++ x) := by
    cases hf with
    | absent => exact hx.avoids
    | digits => exact avoids_cons (by decide) _
  obtain ⟨hint, hfrac, hexp⟩ := h
  obtain ⟨hint', hfrac', hexp'⟩ := h'
  obtain ⟨rfl, hrest⟩ := append_inj_of_avoids hint.digit hint'.digit (avoids hfrac hexp)
    (avoids hfrac' hexp') heq
  obtain ⟨rfl, rfl⟩ := hfrac.unique hfrac' hexp hexp' hrest
  rw [hint.toIsDigits.unique hint'.toIsDigits rfl, hexp.unique hexp']

theorem IsNumber.unique {t : Text} {q q' : ℚ} (h : IsNumber t q) (h' : IsNumber t q') : q = q' := by
  have sign {t : Text} {q : ℚ} (h : IsUnsigned t q) {more : Text} : t ≠ '-' :: more := by
    rintro rfl
    obtain ⟨c, more, heq, hc⟩ := h.exists_cons
    obtain ⟨rfl, -⟩ := List.cons.inj heq
    contradiction
  cases h with
  | plus h =>
    cases h' with
    | plus h' => exact h.unique h' rfl
    | minus h' => exact absurd rfl (sign h)
  | minus h =>
    cases h' with
    | plus h' => exact absurd rfl (sign h')
    | minus h' => rw [h.unique h' rfl]

/-! ### Strings -/

theorem IsUnit.exists_cons {u : Text} {c : Char} (h : IsUnit u c) :
    ∃ a more, u = a :: more ∧ a ≠ '"' := by
  cases h with
  | plain _ quote => exact ⟨c, [], rfl, quote⟩
  | escape | code | pair => exact ⟨'\\', _, rfl, by decide⟩

theorem length_of_hexCode? {row : Text} {n : Nat} (h : hexCode? row = some n) : row.length = 4 := by
  unfold hexCode? at h
  split at h
  · rfl
  · contradiction

theorem hexCode?_inj {row row' r r' : Text} {n n' : Nat} (h : hexCode? row = some n)
    (h' : hexCode? row' = some n') (heq : row ++ r = row' ++ r') : n = n' ∧ r = r' := by
  have hlength : row.length = row'.length := by
    rw [length_of_hexCode? h, length_of_hexCode? h']
  obtain ⟨rfl, rfl⟩ := List.append_inj heq hlength
  rw [h] at h'
  exact ⟨Option.some.inj h', rfl⟩

theorem not_surrogate (c : Char) : ¬ (0xd800 ≤ c.toNat ∧ c.toNat < 0xe000) := by
  have := c.valid
  simp only [UInt32.isValidChar, Nat.isValidChar] at this
  simp only [Char.toNat]
  omega

theorem escape_letter {e c : Char} (h : (e, c) ∈ escapes) : e ≠ 'u' ∧
    ∀ c', (e, c') ∈ escapes → c = c' := by
  have table : ∀ p ∈ escapes, p.1 ≠ 'u' ∧ ∀ p' ∈ escapes, p.1 = p'.1 → p.2 = p'.2 := by decide
  exact ⟨(table _ h).1, fun c' h' => (table _ h).2 _ h' rfl⟩

/-- What stands for a character is no beginning of something else that stands for one. -/
theorem IsUnit.unique {u u' r r' : Text} {c c' : Char} (h : IsUnit u c) (h' : IsUnit u' c')
    (heq : u ++ r = u' ++ r') : c = c' ∧ r = r' := by
  cases h with
  | plain _ _ backslash =>
    cases h' with
    | plain => exact List.cons.inj heq
    | escape | code | pair => exact absurd (List.cons.inj heq).1 backslash
  | escape h =>
    cases h' with
    | plain _ _ backslash => exact absurd (List.cons.inj heq).1.symm backslash
    | escape h' =>
      simp only [List.cons_append, List.cons.injEq, true_and, List.nil_append] at heq
      obtain ⟨rfl, rfl⟩ := heq
      exact ⟨(escape_letter h).2 _ h', rfl⟩
    | code | pair =>
      simp only [List.cons_append, List.cons.injEq, true_and] at heq
      exact absurd heq.1 (escape_letter h).1
  | code h =>
    cases h' with
    | plain _ _ backslash => exact absurd (List.cons.inj heq).1.symm backslash
    | escape h' =>
      simp only [List.cons_append, List.cons.injEq, true_and] at heq
      exact absurd heq.1.symm (escape_letter h').1
    | code h' =>
      simp only [List.cons_append, List.cons.injEq, true_and] at heq
      obtain ⟨hcode, rfl⟩ := hexCode?_inj h h' heq
      exact ⟨Char.toNat_inj.1 hcode, rfl⟩
    | pair hhigh _ high_bounds =>
      -- the first half of a pair is not the code of a character
      simp only [List.cons_append, List.append_assoc, List.cons.injEq, true_and] at heq
      obtain ⟨hcode, -⟩ := hexCode?_inj h hhigh heq
      exact absurd (by omega) (not_surrogate c)
  | pair hhigh hlow high_bounds low_bounds hc =>
    cases h' with
    | plain _ _ backslash => exact absurd (List.cons.inj heq).1.symm backslash
    | escape h' =>
      simp only [List.cons_append, List.cons.injEq, true_and] at heq
      exact absurd heq.1.symm (escape_letter h').1
    | code h' =>
      simp only [List.cons_append, List.append_assoc, List.cons.injEq, true_and] at heq
      obtain ⟨hcode, -⟩ := hexCode?_inj hhigh h' heq
      exact absurd (by omega) (not_surrogate c')
    | pair hhigh' hlow' _ _ hc' =>
      simp only [List.cons_append, List.append_assoc, List.cons.injEq, true_and] at heq
      obtain ⟨hcode, hrest⟩ := hexCode?_inj hhigh hhigh' heq
      simp only [List.cons.injEq, true_and] at hrest
      obtain ⟨hcode', rfl⟩ := hexCode?_inj hlow hlow' hrest
      exact ⟨Char.toNat_inj.1 (by omega), rfl⟩

/-- A string ends at its first quote that is not escaped. -/
theorem IsChars.unique {t s : Text} (h : IsChars t s) : ∀ {t' s' r r' : Text}, IsChars t' s' →
    t ++ '"' :: r = t' ++ '"' :: r' → s = s' ∧ r = r' := by
  have unit {u x y : Text} {c : Char} (h : IsUnit u c) : u ++ x ≠ '"' :: y := by
    obtain ⟨a, more, rfl, ha⟩ := h.exists_cons
    intro heq
    exact ha (List.cons.inj heq).1
  induction h with
  | nil =>
    intro t' s' r r' h' heq
    cases h' with
    | nil => exact ⟨rfl, (List.cons.inj heq).2⟩
    | cons h' more' =>
      rw [List.append_assoc] at heq
      exact absurd heq.symm (unit h')
  | cons h more ih =>
    intro t' s' r r' h' heq
    cases h' with
    | nil =>
      rw [List.append_assoc] at heq
      exact absurd heq (unit h)
    | cons h' more' =>
      rw [List.append_assoc, List.append_assoc] at heq
      obtain ⟨rfl, hrest⟩ := h.unique h' heq
      obtain ⟨rfl, rfl⟩ := ih more' hrest
      exact ⟨rfl, rfl⟩

theorem IsString.unique {t t' s s' r r' : Text} (h : IsString t s) (h' : IsString t' s')
    (heq : t ++ r = t' ++ r') : s = s' ∧ r = r' := by
  obtain ⟨h⟩ := h
  obtain ⟨h'⟩ := h'
  simp only [inQuotes, List.cons_append, List.append_assoc, List.nil_append, List.cons.injEq,
    true_and] at heq
  exact h.unique h' heq

/-! ### First characters -/

/-- What a value is, as far as its first character tells. -/
inductive Shape where
  | null
  | bool (b : Bool)
  | number
  | string
  | group (b : Bracket)

/-- The shape of a value. -/
def shape : Json → Shape
  | .null => .null
  | .bool b => .bool b
  | .number _ => .number
  | .string _ => .string
  | .array _ => .group .array
  | .object _ => .group .object

/-- The shape of a value that begins with this character. -/
def shapeAt? (c : Char) : Option Shape :=
  if c = 'n' then some .null
  else if c = 't' then some (.bool true)
  else if c = 'f' then some (.bool false)
  else if c = '"' then some .string
  else if c = '[' then some (.group .array)
  else if c = '\x7b' then some (.group .object)
  else if c = '-' ∨ c.isDigit = true then some .number
  else none

theorem shapeAt?_number {c : Char} (h : c = '-' ∨ c.isDigit = true) :
    shapeAt? c = some .number := by
  have hne (d : Char) (hd : d ≠ '-') (hdigit : d.isDigit = false) : c ≠ d := by
    rintro rfl
    simp [hd, hdigit] at h
  rw [shapeAt?, if_neg (hne _ (by decide) (by decide)), if_neg (hne _ (by decide) (by decide)),
    if_neg (hne _ (by decide) (by decide)), if_neg (hne _ (by decide) (by decide)),
    if_neg (hne _ (by decide) (by decide)), if_neg (hne _ (by decide) (by decide)), if_pos h]

theorem shapeAt?_space {c : Char} (h : isSpace c = true) : shapeAt? c = none := by
  simp only [isSpace, Bool.or_eq_true, beq_iff_eq] at h
  rcases h with ((rfl | rfl) | rfl) | rfl <;> decide

theorem IsScalar.exists_cons {t : Text} {v : Json} (h : IsScalar t v) :
    ∃ c more, t = c :: more ∧ shapeAt? c = some v.shape := by
  cases h with
  | null | true | false => exact ⟨_, _, rfl, rfl⟩
  | number h =>
    obtain ⟨c, more, rfl, hc⟩ := h.exists_cons
    exact ⟨c, more, rfl, shapeAt?_number hc⟩
  | string h =>
    obtain ⟨h⟩ := h
    exact ⟨'"', _, rfl, rfl⟩

/-- What the first character that is not space tells of a derived text. -/
def Leads (S : Symbol) (v : Json) (s : Shape) : Prop :=
  match S with
  | .value => s = v.shape
  | .items b => v.shape = .group b

theorem Bracket.isSpace_opening (b : Bracket) : isSpace b.opening = false := by
  cases b <;> rfl

theorem Bracket.isSpace_closing (b : Bracket) : isSpace b.closing = false := by
  cases b <;> rfl

theorem Derives.head {S : Symbol} {t : Text} {v : Json} (h : Derives S t v) :
    ∃ c s, shapeAt? c = some s ∧ Leads S v s ∧ ∀ r, ∃ more, trim (t ++ r) = c :: more := by
  have start {c : Char} {s : Shape} {more r : Text} (hc : shapeAt? c = some s) :
      ∃ rest, trim (c :: more ++ r) = c :: rest := by
    refine ⟨_, trim_cons ?_ _⟩
    by_contra hspace
    rw [shapeAt?_space (by simpa using hspace)] at hc
    contradiction
  have bracket (b : Bracket) : shapeAt? b.opening = some (.group b) := by cases b <;> rfl
  induction h with
  | scalar h =>
    obtain ⟨c, more, rfl, hc⟩ := h.exists_cons
    exact ⟨c, _, hc, rfl, fun r => start hc⟩
  | @empty b _ _ ho hc =>
    obtain ⟨a, -, htrim⟩ := ho.exists_trim b.isSpace_opening
    refine ⟨b.opening, .group b, bracket b, by cases b <;> rfl, fun r => ?_⟩
    exact ⟨_, by rw [List.append_assoc, htrim]⟩
  | @group b _ _ _ v ho h hc ih =>
    obtain ⟨_, _, _, hv, _⟩ := ih
    obtain ⟨a, -, htrim⟩ := ho.exists_trim b.isSpace_opening
    refine ⟨b.opening, .group b, bracket b, hv.symm, fun r => ?_⟩
    exact ⟨_, by rw [List.append_assoc, htrim]⟩
  | element h ih =>
    obtain ⟨c, s, hc, -, hmore⟩ := ih
    exact ⟨c, s, hc, rfl, hmore⟩
  | elements h hm h' ih =>
    obtain ⟨c, s, hc, -, hmore⟩ := ih
    exact ⟨c, s, hc, rfl, fun r => by rw [List.append_assoc]; exact hmore _⟩
  | member hk | members hk =>
    obtain ⟨hk⟩ := hk
    refine ⟨'"', .string, rfl, rfl, fun r => ?_⟩
    rw [List.append_assoc]
    exact start (show shapeAt? '"' = some .string from rfl)

/-! ### Values -/

theorem IsScalar.unique {t t' r r' : Text} {v v' : Json} (h : IsScalar t v) (h' : IsScalar t' v')
    (hr : Avoids isNumeric r) (hr' : Avoids isNumeric r') (heq : t ++ r = t' ++ r') :
    v = v' ∧ r = r' := by
  have hshape : v.shape = v'.shape := by
    obtain ⟨c, more, rfl, hc⟩ := h.exists_cons
    obtain ⟨c', more', rfl, hc'⟩ := h'.exists_cons
    obtain ⟨rfl, -⟩ := List.cons.inj heq
    exact Option.some.inj (hc.symm.trans hc')
  cases h with
  | number h =>
    cases h' with
    | number h' =>
      obtain ⟨rfl, rfl⟩ := append_inj_of_avoids h.numeric h'.numeric hr hr' heq
      exact ⟨by rw [h.unique h'], rfl⟩
    | _ => simp [shape] at hshape
  | string h =>
    cases h' with
    | string h' =>
      obtain ⟨rfl, rfl⟩ := h.unique h' heq
      exact ⟨rfl, rfl⟩
    | _ => simp [shape] at hshape
  | null | true | false =>
    cases h' with
    | null | true | false =>
      first
        | exact ⟨rfl, List.append_cancel_left heq⟩
        | simp [shape] at hshape
    | _ => simp [shape] at hshape

/-- What may follow a derived text: no further character of a number, and no comma behind a row of
items. -/
def Follows (S : Symbol) (r : Text) : Prop :=
  Avoids isNumeric r ∧
    match S with
    | .value => True
    | .items _ => ∀ more, trim r ≠ ',' :: more

theorem IsSpaces.avoids {w : Text} (hw : IsSpaces w) {x : Text} (hx : Avoids isNumeric x) :
    Avoids isNumeric (w ++ x) := by
  cases w with
  | nil => exact hx
  | cons c w =>
    have hc := hw c List.mem_cons_self
    refine avoids_cons ?_ _
    simp only [isSpace, Bool.or_eq_true, beq_iff_eq] at hc
    rcases hc with ((rfl | rfl) | rfl) | rfl <;> rfl

theorem IsMark.avoids {c : Char} {m : Text} (h : IsMark c m) (hc : isNumeric c = false)
    (x : Text) : Avoids isNumeric (m ++ x) := by
  obtain ⟨hbefore, hafter⟩ := h
  rw [List.append_assoc]
  exact hbefore.avoids (avoids_cons hc _)

/-- What may follow a row of items may follow its last value. -/
theorem Follows.value {S : Symbol} {r : Text} (h : Follows S r) : Follows .value r := ⟨h.1, trivial⟩

/-- A comma ends a value. -/
theorem follows_comma {m : Text} (h : IsMark ',' m) (x : Text) : Follows .value (m ++ x) :=
  ⟨h.avoids rfl x, trivial⟩

/-- No comma follows a row of items. -/
theorem Follows.ne_comma {b : Bracket} {r m : Text} (h : Follows (.items b) r) (hm : IsMark ',' m)
    (x : Text) : trim r ≠ trim (m ++ x) := by
  obtain ⟨a, -, htrim⟩ := hm.exists_trim rfl
  rw [htrim]
  exact h.2 _

/-- A closing sign ends a row of items. -/
theorem follows_closing {b : Bracket} {c : Text} (h : IsMark b.closing c) (x : Text) :
    Follows (.items b) (c ++ x) := by
  refine ⟨h.avoids (by cases b <;> rfl) x, fun more => ?_⟩
  exact h.trim_ne b.isSpace_closing (by cases b <;> decide) more

/-- Behind an opening sign there is an item or the closing sign, not both. -/
theorem Derives.ne_closing {b : Bracket} {S : Symbol} {t c : Text} {v : Json} (h : Derives S t v)
    (hc : IsMark b.closing c) (r x : Text) : trim (t ++ r) ≠ trim (c ++ x) := by
  obtain ⟨d, s, hd, -, hmore⟩ := h.head
  obtain ⟨a, -, htrim⟩ := hc.exists_trim b.isSpace_closing
  obtain ⟨more, hmore⟩ := hmore r
  rw [hmore, htrim]
  intro heq
  obtain ⟨rfl, -⟩ := List.cons.inj heq
  cases b <;> contradiction

theorem Bracket.shape_nothing (b : Bracket) : b.nothing.shape = .group b := by
  cases b <;> rfl

theorem Derives.shape_items {b : Bracket} {t : Text} {v : Json} (h : Derives (.items b) t v) :
    v.shape = .group b := by
  obtain ⟨_, _, _, hv, _⟩ := h.head
  exact hv

theorem IsScalar.shape_ne {t : Text} {v : Json} (h : IsScalar t v) (b : Bracket) :
    v.shape ≠ .group b := by
  cases h <;> simp [shape]

theorem IsScalar.trim_append {t : Text} {v : Json} (h : IsScalar t v) (r : Text) :
    trim (t ++ r) = t ++ r := by
  obtain ⟨c, more, rfl, hc⟩ := h.exists_cons
  refine trim_cons ?_ _
  by_contra hspace
  rw [shapeAt?_space (by simpa using hspace)] at hc
  contradiction

theorem IsString.trim_append {t s : Text} (h : IsString t s) (r : Text) :
    trim (t ++ r) = t ++ r :=
  (IsScalar.string h).trim_append r

/-- The first character tells the two kinds of brackets and the scalars apart. -/
theorem Derives.shape_eq {t t' r r' : Text} {v v' : Json} (h : Derives .value t v)
    (h' : Derives .value t' v') (heq : trim (t ++ r) = trim (t' ++ r')) : v.shape = v'.shape := by
  obtain ⟨c, s, hc, rfl, hmore⟩ := h.head
  obtain ⟨c', s', hc', rfl, hmore'⟩ := h'.head
  obtain ⟨more, hmore⟩ := hmore r
  obtain ⟨more', hmore'⟩ := hmore' r'
  rw [hmore, hmore'] at heq
  obtain ⟨rfl, -⟩ := List.cons.inj heq
  exact Option.some.inj (hc.symm.trans hc')

/-- The same name can be taken away on both sides, with the colon behind it. -/
theorem IsString.cancel {k k' m m' x x' name name' : Text} (hk : IsString k name)
    (hk' : IsString k' name') (hm : IsMark ':' m) (hm' : IsMark ':' m')
    (heq : trim (k ++ (m ++ x)) = trim (k' ++ (m' ++ x'))) :
    name = name' ∧ trim x = trim x' := by
  rw [hk.trim_append, hk'.trim_append] at heq
  obtain ⟨rfl, hrest⟩ := hk.unique hk' heq
  exact ⟨rfl, hm.cancel hm' rfl (congrArg trim hrest)⟩

/-- **A value ends where it must.** If two texts are derived from the same symbol at the beginning
of a text, space aside, then they stand for the same value and leave the same text, space aside. -/
theorem Derives.unique {S : Symbol} {t : Text} {v : Json} (h : Derives S t v) :
    ∀ {t' r r' : Text} {v' : Json}, Derives S t' v' → Follows S r → Follows S r' →
      trim (t ++ r) = trim (t' ++ r') → v = v' ∧ trim r = trim r' := by
  -- over the derivation of the first text; the shape of the value, which its first character
  -- tells, leaves one way to derive the second
  induction h with
  | @scalar t v h =>
    intro t' r r' v' h' hr hr' heq
    have hshape := (Derives.scalar h).shape_eq h' heq
    cases h' with
    | scalar h' =>
      rw [h.trim_append, h'.trim_append] at heq
      obtain ⟨rfl, rfl⟩ := h.unique h' hr.1 hr'.1 heq
      exact ⟨rfl, rfl⟩
    | empty => exact absurd (hshape.trans (Bracket.shape_nothing _)) (h.shape_ne _)
    | group _ h' => exact absurd (hshape.trans h'.shape_items) (h.shape_ne _)
  | @empty b o c ho hc =>
    intro t' r r' v' h' hr hr' heq
    have hshape := b.shape_nothing.symm.trans ((Derives.empty ho hc).shape_eq h' heq)
    cases h' with
    | scalar h' => exact absurd hshape.symm (h'.shape_ne _)
    | empty ho' hc' =>
      rw [Bracket.shape_nothing] at hshape
      obtain rfl := Shape.group.inj hshape
      rw [List.append_assoc, List.append_assoc] at heq
      have hrest := ho.cancel ho' b.isSpace_opening heq
      exact ⟨rfl, hc.cancel hc' b.isSpace_closing hrest⟩
    | group ho' h' hc' =>
      rw [h'.shape_items] at hshape
      obtain rfl := Shape.group.inj hshape
      rw [List.append_assoc, List.append_assoc, List.append_assoc] at heq
      exact absurd (ho.cancel ho' b.isSpace_opening heq).symm (h'.ne_closing hc _ _)
  | @group b o t c v ho h hc ih =>
    intro t' r r' v' h' hr hr' heq
    have hshape := h.shape_items.symm.trans ((Derives.group ho h hc).shape_eq h' heq)
    cases h' with
    | scalar h' => exact absurd hshape.symm (h'.shape_ne _)
    | empty ho' hc' =>
      rw [Bracket.shape_nothing] at hshape
      obtain rfl := Shape.group.inj hshape
      rw [List.append_assoc, List.append_assoc, List.append_assoc] at heq
      exact absurd (ho.cancel ho' b.isSpace_opening heq) (h.ne_closing hc' _ _)
    | group ho' h' hc' =>
      rw [h'.shape_items] at hshape
      obtain rfl := Shape.group.inj hshape
      rw [List.append_assoc, List.append_assoc, List.append_assoc, List.append_assoc] at heq
      have hrest := ho.cancel ho' b.isSpace_opening heq
      obtain ⟨rfl, hrest⟩ := ih h' (follows_closing hc r) (follows_closing hc' r') hrest
      exact ⟨rfl, hc.cancel hc' b.isSpace_closing hrest⟩
  | element h ih =>
    intro t' r r' v' h' hr hr' heq
    cases h' with
    | element h' =>
      obtain ⟨rfl, hrest⟩ := ih h' hr.value hr'.value heq
      exact ⟨rfl, hrest⟩
    | elements h' hm' h'' =>
      rw [List.append_assoc, List.append_assoc] at heq
      obtain ⟨-, hrest⟩ := ih h' hr.value (follows_comma hm' _) heq
      exact absurd hrest (hr.ne_comma hm' _)
  | elements h hm h' ih ih' =>
    intro t' r r' v' h'' hr hr' heq
    rw [List.append_assoc, List.append_assoc] at heq
    cases h'' with
    | element h'' =>
      obtain ⟨-, hrest⟩ := ih h'' (follows_comma hm _) hr'.value heq
      exact absurd hrest.symm (hr'.ne_comma hm _)
    | elements h'' hm'' h''' =>
      rw [List.append_assoc, List.append_assoc] at heq
      obtain ⟨rfl, hrest⟩ := ih h'' (follows_comma hm _) (follows_comma hm'' _) heq
      obtain ⟨hvs, hrest⟩ := ih' h''' hr hr' (hm.cancel hm'' rfl hrest)
      rw [Json.array.inj hvs]
      exact ⟨rfl, hrest⟩
  -- as for arrays, with the name and the colon taken away before the value
  | member hk hm h ih =>
    intro t' r r' v' h' hr hr' heq
    rw [List.append_assoc, List.append_assoc] at heq
    cases h' with
    | member hk' hm' h' =>
      rw [List.append_assoc, List.append_assoc] at heq
      obtain ⟨rfl, hrest⟩ := hk.cancel hk' hm hm' heq
      obtain ⟨rfl, hrest⟩ := ih h' hr.value hr'.value hrest
      exact ⟨rfl, hrest⟩
    | members hk' hm' h' hm'' h'' =>
      simp only [List.append_assoc] at heq
      obtain ⟨rfl, hrest⟩ := hk.cancel hk' hm hm' heq
      obtain ⟨-, hrest⟩ := ih h' hr.value (follows_comma hm'' _) hrest
      exact absurd hrest (hr.ne_comma hm'' _)
  | members hk hm h hc h' ih ih' =>
    intro t' r r' v' h'' hr hr' heq
    simp only [List.append_assoc] at heq
    cases h'' with
    | member hk'' hm'' h'' =>
      rw [List.append_assoc, List.append_assoc] at heq
      obtain ⟨rfl, hrest⟩ := hk.cancel hk'' hm hm'' heq
      obtain ⟨-, hrest⟩ := ih h'' (follows_comma hc _) hr'.value hrest
      exact absurd hrest.symm (hr'.ne_comma hc _)
    | members hk'' hm'' h'' hc'' h''' =>
      simp only [List.append_assoc] at heq
      obtain ⟨rfl, hrest⟩ := hk.cancel hk'' hm hm'' heq
      obtain ⟨rfl, hrest⟩ := ih h'' (follows_comma hc _) (follows_comma hc'' _) hrest
      obtain ⟨hms, hrest⟩ := ih' h''' hr hr' (hc.cancel hc'' rfl hrest)
      rw [Json.object.inj hms]
      exact ⟨rfl, hrest⟩

theorem Decodes.exists_eq {t : Text} {v : Json} (h : Decodes t v) :
    ∃ body after, trim t = trim (body ++ after) ∧ Derives .value body v ∧
      Follows .value after := by
  obtain ⟨hbefore, h, hafter⟩ := h
  refine ⟨_, _, trim_spaces hbefore _, h, ?_, trivial⟩
  simpa using hafter.avoids (avoids_nil _)

/-- **A text stands for at most one value.** -/
theorem Decodes.unique {t : Text} {v v' : Json} (h : Decodes t v) (h' : Decodes t v') :
    v = v' := by
  obtain ⟨body, after, htrim, hv, hafter⟩ := h.exists_eq
  obtain ⟨body', after', htrim', hv', hafter'⟩ := h'.exists_eq
  exact (hv.unique hv' hafter hafter' (htrim.symm.trans htrim')).1

end Json

end FlatJson
