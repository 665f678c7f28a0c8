import FlatJson.Field.StringArray
import FlatJson.Proofs.Sign

/-!
# Reading fields without going back

A pattern is read by trying its terms in turn and going back to another way of a term when the
following terms fail. In the patterns of fields going back never helps: what a repetition could
leave over would not be taken by the next term either. So a field is found by a plain scan.

* `greedy_eq`: reading as much as possible first is reading as much as possible.
* `matchAt?_fieldPattern`: a field is its name in quotes, a colon between blanks, and a value.
* `capture?_string`, `capture?_number`, `capture?_boolean`, `capture?_stringArray`: what is
  captured of a value.
* `findField?_cons`, `findField?_quoted`: the search looks at one quote after the other.
-/

namespace FlatJson

variable {β : Type}

/-! ### Repetitions -/

/-- If leaving a character over never makes the rest readable, only the longest repetition
counts. -/
theorem greedy_eq {a : Atom} {next : Text → Option β}
    (h : ∀ c rest, a.accepts c = true → next rest = none → next (c :: rest) = none) (t : Text) :
    greedy a next t = next (t.dropWhile a.accepts) := by
  -- what cannot go on behind a stretch cannot go on before it either
  have up : ∀ t, next (t.dropWhile a.accepts) = none → next t = none := by
    intro t
    induction t with
    | nil => exact id
    | cons c rest ih =>
      by_cases hc : a.accepts c = true
      · rw [List.dropWhile_cons_of_pos hc]
        exact fun hn => h c rest hc (ih hn)
      · rw [List.dropWhile_cons_of_neg hc]
        exact id
  induction t with
  | nil => rfl
  | cons c rest ih =>
    by_cases hc : a.accepts c = true
    · rw [greedy, if_pos hc, ih, List.dropWhile_cons_of_pos hc]
      cases hn : next (rest.dropWhile a.accepts) with
      | none => exact h c rest hc (up rest hn)
      | some b => rfl
    · rw [greedy, if_neg hc, List.dropWhile_cons_of_neg hc]

theorem followAll_append (terms terms' : List Term) (next : Text → Option β) :
    followAll (terms ++ terms') next = followAll terms (followAll terms' next) := by
  induction terms with
  | nil => rfl
  | cons term terms ih => simp only [List.cons_append, followAll, ih]

/-- A row of letters is read like a word. -/
theorem followAll_letters (word : Text) (next : Text → Option β) (t : Text) :
    followAll (word.map (.one <| .letter ·)) next t = (afterWord? word t).bind next := by
  induction word generalizing t with
  | nil => rfl
  | cons w word ih =>
    cases t with
    | nil => rfl
    | cons c rest =>
      simp only [List.map_cons, followAll, Term.follow, Atom.accepts, afterWord?, ih]
      split <;> rfl

/-- A word is read when the text begins with its letters up to case. -/
theorem afterWord?_eq_some_iff {word t rest : Text} :
    afterWord? word t = some rest ↔ ∃ u, t = u ++ rest ∧ sameLetters word u = true := by
  induction word generalizing t with
  | nil =>
    simp only [afterWord?, Option.some.injEq]
    constructor
    · rintro rfl
      exact ⟨[], rfl, rfl⟩
    · rintro ⟨u, rfl, hu⟩
      cases u with
      | nil => rfl
      | cons c u => simp [sameLetters] at hu
  | cons w word ih =>
    cases t with
    | nil =>
      simp only [afterWord?, reduceCtorEq, List.nil_eq, List.append_eq_nil_iff, false_iff]
      rintro ⟨u, ⟨rfl, -⟩, hu⟩
      simp [sameLetters] at hu
    | cons c t =>
      simp only [afterWord?]
      constructor
      · split
        · rename_i hw
          intro h
          obtain ⟨u, rfl, hu⟩ := ih.1 h
          exact ⟨c :: u, rfl, by simp [sameLetters, hw, hu]⟩
        · intro h
          contradiction
      · rintro ⟨u, ht, hu⟩
        cases u with
        | nil => simp [sameLetters] at hu
        | cons d u =>
          obtain ⟨rfl, rfl⟩ := List.cons.inj ht
          simp only [sameLetters, Bool.and_eq_true] at hu
          rw [if_pos hu.1]
          exact ih.2 ⟨u, rfl, hu.2⟩

/-! ### Signs -/

/-- What is left of a text after a sign. -/
def afterSign? (sign : Char) : Text → Option Text
  | [] => none
  | c :: rest => if c = sign then some rest else none

theorem afterSign?_of_ne {sign c : Char} (h : c ≠ sign) (rest : Text) :
    afterSign? sign (c :: rest) = none :=
  if_neg h

theorem afterSign?_eq_some_iff {sign : Char} {t rest : Text} :
    afterSign? sign t = some rest ↔ t = sign :: rest := by
  cases t with
  | nil => simp [afterSign?]
  | cons c t =>
    by_cases hc : c = sign
    · simp [afterSign?, hc]
    · simp [afterSign?_of_ne hc, hc]

section
variable {sign : Char} (hsign : isSign sign = true)
include hsign

theorem follow_sign (next : Text → Option β) (t : Text) :
    Term.follow next (.one (.letter sign)) t = (afterSign? sign t).bind next := by
  cases t with
  | nil => rfl
  | cons c rest =>
    have hiff : (Atom.letter sign).accepts c = true ↔ c = sign := by
      rw [Atom.accepts, sameLetter_sign_iff hsign, eq_comm]
    by_cases hc : c = sign
    · rw [Term.follow, if_pos (hiff.2 hc), afterSign?, if_pos hc, Option.bind_some]
    · rw [Term.follow, if_neg (mt hiff.1 hc), afterSign?_of_ne hc, Option.bind_none]

/-- Blanks before a sign are all read with it. -/
theorem greedy_sign (hblank : isBlank sign = false) (next : Text → Option β) (t : Text) :
    greedy .blank (Term.follow next (.one (.letter sign))) t =
      (afterSign? sign (t.dropWhile isBlank)).bind next := by
  rw [greedy_eq]
  · exact follow_sign hsign next _
  · intro c rest hc _
    have hne : c ≠ sign := by
      rintro rfl
      simp_all [Atom.accepts]
    rw [follow_sign hsign, afterSign?_of_ne hne, Option.bind_none]

end

/-! ### Names -/

/-- What is left of a text after a mark, blanks around it included. -/
def afterSpaced? (mark : Char) (t : Text) : Option Text :=
  (afterSign? mark (t.dropWhile isBlank)).map (·.dropWhile isBlank)

/-- What is left of a text after a name in quotes and a colon. -/
def afterName? (name t : Text) : Option Text :=
  (afterSign? '"' t).bind fun t => (afterWord? name t).bind fun t =>
    (afterSign? '"' t).bind (afterSpaced? ':')

/-- Blanks around a mark are all read with it. -/
theorem follow_spaced {mark : Char} (hsign : isSign mark = true) (hblank : isBlank mark = false)
    {next : Text → Option β}
    (h : ∀ c rest, isBlank c = true → next rest = none → next (c :: rest) = none) (t : Text) :
    followAll [.many .blank, .one (.letter mark), .many .blank] next t =
      (afterSpaced? mark t).bind next := by
  change greedy .blank (Term.follow (greedy .blank next) (.one (.letter mark))) t = _
  have hnext : greedy .blank next = fun rest => next (rest.dropWhile isBlank) := by
    funext rest
    exact @greedy_eq _ .blank next h rest
  rw [greedy_sign hsign hblank, hnext, afterSpaced?, Option.bind_map]
  rfl

/-- A field is its name in quotes, a colon between blanks, and a value, if blanks before a value
do not count. -/
theorem matchAt?_fieldPattern {template : Pattern}
    (h : ∀ c rest, isBlank c = true → template.matchAt? rest = none →
      template.matchAt? (c :: rest) = none) (name t : Text) :
    (fieldPattern name template).matchAt? t = (afterName? name t).bind template.matchAt? := by
  have hname : (fieldPattern name template).before =
      .one (.letter '"') :: (name.map (.one <| .letter ·) ++ (.one (.letter '"') ::
        ([.many .blank, .one (.letter ':'), .many .blank] ++ template.before))) := by
    simp [fieldPattern, nameTerms]
  rw [Pattern.matchAt?, hname, followAll, follow_sign (by decide), afterName?]
  rcases afterSign? '"' t with _ | t
  · rfl
  · simp only [Option.bind_some, followAll_append, followAll_letters, followAll]
    rcases afterWord? name t with _ | t
    · rfl
    · simp only [Option.bind_some, follow_sign (show isSign '"' = true by decide)]
      rcases afterSign? '"' t with _ | t
      · rfl
      · exact follow_spaced (by decide) (by decide) h t

/-! ### Values -/

/-- The part that a pattern captures at the start of a text. -/
def Pattern.capture? (p : Pattern) (t : Text) : Option Text := (p.matchAt? t).map (·.captured)

theorem Reading.captured_append (v t rest : Text) : (⟨v ++ t, t, rest⟩ : Reading).captured = v := by
  simp [Reading.captured]

/-- Blanks before a value do not count, whatever its kind. -/
def FieldKind.SkipsBlanks (k : FieldKind) : Prop :=
  ∀ c rest, isBlank c = true → k.template.matchAt? rest = none →
    k.template.matchAt? (c :: rest) = none

/-- The text up to a quote on the same line. -/
def lineText? : Text → Option Text
  | [] => none
  | c :: rest =>
    if c = '"' then some [] else if c = '\n' then none else (lineText? rest).map (c :: ·)

theorem reluctant_inLine_quote (done t : Text) :
    (reluctant .inLine (fun t' => Term.follow (fun u => some (⟨done ++ t, t', u⟩ : Reading))
      (.one (.letter '"')) t') t).map (·.captured) = (lineText? t).map (done ++ ·) := by
  have quote : isSign '"' = true := by decide
  -- `done` is what the capture has gone over
  induction t generalizing done with
  | nil => rfl
  | cons c rest ih =>
    simp only [reluctant, lineText?, follow_sign quote]
    by_cases hc : c = '"'
    · subst hc
      simpa [afterSign?] using Reading.captured_append done ('"' :: rest) rest
    · by_cases hn : c = '\n'
      · subst hn
        simp [afterSign?_of_ne hc, Atom.accepts]
      · have := ih (done ++ [c])
        simp only [List.append_assoc, List.singleton_append, follow_sign quote] at this
        simp only [afterSign?_of_ne hc, Option.bind_none, Option.orElse_none, Atom.accepts,
          bne_iff_ne, ne_eq, hn, not_false_eq_true, if_true, hc, if_false, this, Option.map_map]
        rfl

/-- A string is a quote behind blanks and the text up to the next quote on the same line. -/
theorem stringTemplate_matchAt? (t : Text) :
    stringTemplate.matchAt? t = (afterSign? '"' (t.dropWhile isBlank)).bind fun s =>
      reluctant .inLine (fun t' => Term.follow (fun u => some (⟨s, t', u⟩ : Reading))
        (.one (.letter '"')) t') s :=
  greedy_sign (by decide) (by decide) _ t

theorem skipsBlanks_string : FieldKind.SkipsBlanks .string := by
  intro c rest hc h
  change stringTemplate.matchAt? _ = none at h
  change stringTemplate.matchAt? _ = none
  rwa [stringTemplate_matchAt?, List.dropWhile_cons_of_pos hc, ← stringTemplate_matchAt?]

theorem capture?_string (t : Text) :
    FieldKind.string.template.capture? t =
      (afterSign? '"' (t.dropWhile isBlank)).bind lineText? := by
  change (stringTemplate.matchAt? t).map _ = _
  rw [stringTemplate_matchAt?, Option.map_bind]
  congr 1
  funext s
  exact (reluctant_inLine_quote [] s).trans (by simp)

/-- What a row of digits at the start of a text captures. -/
def digitRow? (t : Text) : Option Text :=
  if t.takeWhile isDigit = [] then none else some (t.takeWhile isDigit)

/-- A number is the longest row of digits behind blanks. -/
theorem number_matchAt? (t : Text) :
    FieldKind.number.template.matchAt? t =
      let s := t.dropWhile isBlank
      (digitRow? s).map fun _ => ⟨s, s.dropWhile isDigit, s.dropWhile isDigit⟩ := by
  have digits : ∀ s : Text, Term.follow (fun t' => some (⟨s, t', t'⟩ : Reading))
      (.atLeastOne .digit) s =
        (digitRow? s).map fun _ => ⟨s, s.dropWhile isDigit, s.dropWhile isDigit⟩ := by
    intro s
    cases s with
    | nil => rfl
    | cons c rest =>
      by_cases hc : isDigit c = true
      · have : (c :: rest).dropWhile isDigit = rest.dropWhile isDigit :=
          List.dropWhile_cons_of_pos hc
        rw [Term.follow, if_pos (by exact hc), greedy_eq (by simp), digitRow?,
          List.takeWhile_cons_of_pos hc, if_neg (by simp), this]
        rfl
      · rw [Term.follow, if_neg (by exact hc), digitRow?, List.takeWhile_cons_of_neg hc]
        rfl
  change greedy .blank (fun s => Term.follow (fun t' => some (⟨s, t', t'⟩ : Reading))
    (.atLeastOne .digit) s) t = _
  rw [greedy_eq]
  · exact digits _
  · intro c rest hc _
    rw [digits, digitRow?, List.takeWhile_cons_of_neg (by simp [isDigit_blank hc])]
    rfl

theorem skipsBlanks_number : FieldKind.SkipsBlanks .number := by
  intro c rest hc h
  rw [number_matchAt?] at *
  rwa [List.dropWhile_cons_of_pos hc]

theorem capture?_number (t : Text) :
    FieldKind.number.template.capture? t = digitRow? (t.dropWhile isBlank) := by
  have captured := Reading.captured_append ((t.dropWhile isBlank).takeWhile isDigit)
    ((t.dropWhile isBlank).dropWhile isDigit) ((t.dropWhile isBlank).dropWhile isDigit)
  rw [List.takeWhile_append_dropWhile] at captured
  rw [Pattern.capture?, number_matchAt?]
  simp only [digitRow?]
  split
  · rfl
  · simp only [Option.map_some, captured]

/-- The characters at the start of a text that make a word up to case. -/
def wordAt? (word t : Text) : Option Text := (afterWord? word t).map fun _ => t.take word.length

/-- A truth value is one of the two words behind blanks. -/
theorem boolean_matchAt? (t : Text) :
    FieldKind.boolean.template.matchAt? t =
      let s := t.dropWhile isBlank
      [truthWord true, truthWord false].findSome? fun w =>
        (afterWord? w s).map fun u => ⟨s, u, u⟩ := by
  have words : ∀ s : Text, Term.follow (fun t' => some (⟨s, t', t'⟩ : Reading))
      (.oneOf [truthWord true, truthWord false]) s =
        [truthWord true, truthWord false].findSome? fun w =>
          (afterWord? w s).map fun u => ⟨s, u, u⟩ := by
    intro s
    simp only [Term.follow, Option.map_eq_bind]
    rfl
  change greedy .blank (fun s => Term.follow (fun t' => some (⟨s, t', t'⟩ : Reading))
    (.oneOf [truthWord true, truthWord false]) s) t = _
  rw [greedy_eq]
  · exact words _
  · intro c rest hc _
    have ht : sameLetter 't' c = false := sameLetter_blank hc (by decide)
    have hf : sameLetter 'f' c = false := sameLetter_blank hc (by decide)
    rw [words]
    simp [truthWord, afterWord?, ht, hf]

theorem skipsBlanks_boolean : FieldKind.SkipsBlanks .boolean := by
  intro c rest hc h
  rw [boolean_matchAt?] at *
  rwa [List.dropWhile_cons_of_pos hc]

theorem length_of_afterWord? {word t rest : Text} (h : afterWord? word t = some rest) :
    t = t.take word.length ++ rest := by
  obtain ⟨u, rfl, hu⟩ := afterWord?_eq_some_iff.1 h
  have hlen : word.length = u.length := by
    clear h
    fun_induction sameLetters word u with
    | case1 => rfl
    | case2 a as b bs ih =>
      simp only [Bool.and_eq_true] at hu
      simp [ih hu.2]
    | case3 => simp at hu
  simp [hlen]

theorem capture?_boolean (t : Text) :
    FieldKind.boolean.template.capture? t =
      [truthWord true, truthWord false].findSome? (wordAt? · (t.dropWhile isBlank)) := by
  have one : ∀ (w s : Text), ((afterWord? w s).map fun u => (⟨s, u, u⟩ : Reading)).map
      (·.captured) = wordAt? w s := by
    intro w s
    cases hw : afterWord? w s with
    | none => simp [wordAt?, hw]
    | some u =>
      have := Reading.captured_append (s.take w.length) u u
      rw [← length_of_afterWord? hw] at this
      simp [wordAt?, hw, this]
  rw [Pattern.capture?, boolean_matchAt?]
  simp only [List.findSome?_cons, List.findSome?_nil, ← one]
  cases (afterWord? (truthWord true) (t.dropWhile isBlank)) with
  | some u => rfl
  | none =>
    cases (afterWord? (truthWord false) (t.dropWhile isBlank)) <;> rfl

/-- What is left of a text after a closing bracket behind blanks. -/
def afterClosing? (t : Text) : Option Text := afterSign? ']' (t.dropWhile isBlank)

/-- The text up to a closing bracket on the same line, blanks before the bracket excluded. -/
def bracketText? : Text → Option Text
  | [] => none
  | c :: rest =>
    if (afterClosing? (c :: rest)).isSome then some []
    else if c = '\n' then none else (bracketText? rest).map (c :: ·)

/-- The readings of the end of an array, if it is left of `s` from `t` on. -/
def closings (s : Text) : Text → Option Reading :=
  reluctant .inLine fun t => (afterClosing? t).map fun u => ⟨s, t, u⟩

theorem follow_closing (s t : Text) :
    followAll [.many .blank, .one (.letter ']')] (fun u => some (⟨s, t, u⟩ : Reading)) t =
      (afterClosing? t).map fun u => ⟨s, t, u⟩ := by
  refine (greedy_sign (by decide) (by decide) _ t).trans ?_
  rw [afterClosing?, Option.map_eq_bind]
  rfl

theorem afterClosing?_blank {c : Char} (hc : isBlank c = true) (rest : Text) :
    afterClosing? (c :: rest) = afterClosing? rest := by
  rw [afterClosing?, afterClosing?, List.dropWhile_cons_of_pos hc]

theorem closings_captured (done t : Text) :
    (closings (done ++ t) t).map (·.captured) = (bracketText? t).map (done ++ ·) := by
  induction t generalizing done with
  | nil => rfl
  | cons c rest ih =>
    simp only [closings, reluctant, bracketText?]
    cases hu : afterClosing? (c :: rest) with
    | some u =>
      simpa using Reading.captured_append done (c :: rest) u
    | none =>
      by_cases hn : c = '\n'
      · subst hn
        simp [Atom.accepts]
      · have := ih (done ++ [c])
        simp only [List.append_assoc, List.singleton_append, closings] at this
        simp only [Option.map_none, Option.orElse_none, Atom.accepts, bne_iff_ne, ne_eq, hn,
          not_false_eq_true, if_true, Option.isSome_none, Bool.false_eq_true, if_false, this,
          Option.map_map]
        rfl

theorem closings_eq_none_iff {t : Text} : closings t t = none ↔ bracketText? t = none := by
  have h := closings_captured [] t
  simp only [List.nil_append, Option.map_id'] at h
  rw [← h, Option.map_eq_none_iff]

/-- An array is an opening bracket and the text up to the first closing bracket, without the
blanks at its two ends, if that text stays on one line. -/
theorem stringArray_matchAt? (t : Text) :
    FieldKind.stringArray.template.matchAt? t = (afterSign? '[' t).bind fun rest =>
      closings (rest.dropWhile isBlank) (rest.dropWhile isBlank) := by
  refine (follow_sign (by decide) _ t).trans ?_
  congr 1
  funext rest
  change greedy .blank (fun s => reluctant .inLine (fun t => followAll
    [.many .blank, .one (.letter ']')] (fun u => some (⟨s, t, u⟩ : Reading)) t) s) rest = _
  simp only [follow_closing]
  change greedy .blank (fun s => closings s s) rest = _
  rw [greedy_eq]
  · rfl
  · -- an array that does not end on its line does not do so either with a blank at its front
    intro c rest hc hn
    rw [closings_eq_none_iff] at *
    have hclosing : (afterClosing? rest).isSome = false := by
      cases rest with
      | nil => rfl
      | cons d rest =>
        rw [bracketText?] at hn
        split at hn
        · contradiction
        · simp_all
    rw [bracketText?, afterClosing?_blank hc, hclosing, hn]
    simp

theorem skipsBlanks_stringArray : FieldKind.SkipsBlanks .stringArray := by
  intro c rest hc _
  have hne : c ≠ '[' := by
    rintro rfl
    exact absurd hc (by decide)
  rw [stringArray_matchAt?, afterSign?_of_ne hne, Option.bind_none]

theorem capture?_stringArray (t : Text) :
    FieldKind.stringArray.template.capture? t =
      (afterSign? '[' t).bind fun rest => bracketText? (rest.dropWhile isBlank) := by
  rw [Pattern.capture?, stringArray_matchAt?, Option.map_bind]
  congr 1
  funext rest
  exact (closings_captured [] _).trans (by simp)

/-- Blanks before a value do not count. -/
theorem skipsBlanks (k : FieldKind) : k.SkipsBlanks := by
  cases k with
  | boolean => exact skipsBlanks_boolean
  | string => exact skipsBlanks_string
  | number => exact skipsBlanks_number
  | object => exact skipsBlanks_string
  | stringArray => exact skipsBlanks_stringArray

/-! ### Searching -/

theorem find?_cons (p : Pattern) (c : Char) (rest : Text) :
    p.find? (c :: rest) = (p.capture? (c :: rest)).or (p.find? rest) := by
  rw [Pattern.find?, Pattern.search?, Pattern.capture?]
  cases p.matchAt? (c :: rest) <;> rfl

/-- What a field's pattern captures at the start of a text. -/
theorem capture?_fieldPattern (name : Text) (k : FieldKind) (t : Text) :
    (fieldPattern name k.template).capture? t = (afterName? name t).bind k.template.capture? := by
  rw [Pattern.capture?, matchAt?_fieldPattern (skipsBlanks k), Option.map_bind]
  rfl

theorem findField?_nil (name : Text) (k : FieldKind) : findField? name k [] = none := rfl

/-- No field starts but at a quote. -/
theorem findField?_cons {c : Char} (hc : c ≠ '"') (name : Text) (k : FieldKind) (rest : Text) :
    findField? name k (c :: rest) = findField? name k rest := by
  rw [findField?, find?_cons, capture?_fieldPattern, afterName?, afterSign?_of_ne hc]
  rfl

theorem findField?_append {u : Text} (hu : '"' ∉ u) (name : Text) (k : FieldKind) (rest : Text) :
    findField? name k (u ++ rest) = findField? name k rest := by
  induction u with
  | nil => rfl
  | cons c u ih =>
    simp only [List.mem_cons, not_or] at hu
    rw [List.cons_append, findField?_cons (Ne.symm hu.1), ih hu.2]

/-- In front of every quote of the text there is a comma or a colon, so that no name without these
signs reaches from the beginning of the text to a quote. -/
def Barred (t : Text) : Prop := ∀ u v, t = u ++ '"' :: v → ',' ∈ u ∨ ':' ∈ u

/-- A text up to its first quote is determined. -/
theorem append_quote_inj {x y r s : Text} (hx : '"' ∉ x) (hy : '"' ∉ y)
    (h : x ++ '"' :: r = y ++ '"' :: s) : x = y ∧ r = s := by
  induction x generalizing y with
  | nil =>
    cases y with
    | nil => exact ⟨rfl, (List.cons.inj h).2⟩
    | cons d y =>
      obtain ⟨rfl, -⟩ := List.cons.inj h
      exact absurd List.mem_cons_self hy
  | cons c x ih =>
    cases y with
    | nil =>
      obtain ⟨rfl, -⟩ := List.cons.inj h
      exact absurd List.mem_cons_self hx
    | cons d y =>
      simp only [List.mem_cons, not_or] at hx hy
      obtain ⟨rfl, htail⟩ := List.cons.inj h
      obtain ⟨rfl, rfl⟩ := ih hx.2 hy.2 htail
      exact ⟨rfl, rfl⟩

/-- A name without the signs that stand between the strings of a message. -/
structure IsSearchable (name : Text) : Prop where
  /-- The name has no quote. -/
  quote : '"' ∉ name
  /-- The name has no colon. -/
  colon : ':' ∉ name
  /-- The name has no comma. -/
  comma : ',' ∉ name

theorem afterName?_eq_some {name t r : Text} (h : afterName? name ('"' :: t) = some r) :
    ∃ u v, t = u ++ '"' :: v ∧ sameLetters name u = true ∧ afterSpaced? ':' v = some r := by
  simp only [afterName?, Option.bind_eq_some_iff, afterSign?_eq_some_iff] at h
  obtain ⟨t', ht, s, hs, v, rfl, hr⟩ := h
  obtain ⟨u, rfl, hu⟩ := afterWord?_eq_some_iff.1 hs
  exact ⟨u, v, (List.cons.inj ht).2, hu, hr⟩

/-- No field starts at a quote before a barred text. -/
theorem afterName?_barred {name t : Text} (hname : IsSearchable name) (h : Barred t) :
    afterName? name ('"' :: t) = none := by
  rw [Option.eq_none_iff_forall_ne_some]
  intro r hr
  obtain ⟨u, v, rfl, hu, -⟩ := afterName?_eq_some hr
  rcases h u v rfl with hc | hc
  · exact not_mem_of_sameLetters (by decide) hname.comma hu hc
  · exact not_mem_of_sameLetters (by decide) hname.colon hu hc

theorem afterName?_quoted {name x rest : Text} (hname : IsSearchable name) (hx : '"' ∉ x) :
    afterName? name ('"' :: x ++ '"' :: rest) =
      if sameLetters name x then afterSpaced? ':' rest else none := by
  split
  · rename_i h
    have hw : afterWord? name (x ++ '"' :: rest) = some ('"' :: rest) :=
      afterWord?_eq_some_iff.2 ⟨x, rfl, h⟩
    rw [List.cons_append, afterName?, afterSign?, if_pos rfl, Option.bind_some, hw]
    rfl
  · rename_i h
    rw [Option.eq_none_iff_forall_ne_some]
    intro r hr
    obtain ⟨u, v, heq, hu, -⟩ := afterName?_eq_some hr
    -- a name that is read ends at the first quote, as `x` does
    obtain ⟨rfl, -⟩ :=
      append_quote_inj hx (not_mem_of_sameLetters (by decide) hname.quote hu) heq
    exact h hu

section
variable {name : Text} (hname : IsSearchable name)
include hname

/-- A closing quote before a barred text does not open a name. -/
theorem findField?_close {rest : Text} (hrest : Barred rest) (k : FieldKind) :
    findField? name k ('"' :: rest) = findField? name k rest := by
  rw [findField?, find?_cons, capture?_fieldPattern, afterName?_barred hname hrest]
  rfl

/-- A string in a message is a field of a name if it is the name and a colon and a value follow;
otherwise the search goes on at its closing quote. -/
theorem findField?_quoted_close {x : Text} (hx : '"' ∉ x) (rest : Text) (k : FieldKind) :
    findField? name k (inQuotes x ++ rest) =
      (if sameLetters name x then (afterSpaced? ':' rest).bind k.template.capture? else none).or
        (findField? name k ('"' :: rest)) := by
  have htext : inQuotes x ++ rest = '"' :: (x ++ '"' :: rest) := by simp [inQuotes]
  rw [htext, findField?, find?_cons, capture?_fieldPattern, ← List.cons_append,
    afterName?_quoted hname hx]
  congr 1
  · split <;> rfl
  · exact findField?_append hx name k ('"' :: rest)

/-- A string in a message is a field of a name if it is the name and a colon and a value follow;
the search goes on behind it. -/
theorem findField?_quoted {x rest : Text} (hx : '"' ∉ x) (hrest : Barred rest) (k : FieldKind) :
    findField? name k (inQuotes x ++ rest) =
      (if sameLetters name x then (afterSpaced? ':' rest).bind k.template.capture? else none).or
        (findField? name k rest) := by
  rw [findField?_quoted_close hname hx, findField?_close hname hrest]

end

end FlatJson
