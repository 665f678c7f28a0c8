import FlatJson.Proofs.Layout
import FlatJson.Proofs.Omitted
import FlatJson.Proofs.Search
import FlatJson.Zone.Posix

/-!
# The places of a field

A field stands in a text as its name in double quotes, a colon between blanks, and a value. These
stretches are told without a pattern; a text that has one of them at a place is read there by the
pattern of the field in this way and in no other one.

* `IsValue` and `IsField` are the stretches that make up a value and a field.
* `FieldAt` says that a field stands in a text.
* `matchAt?_fieldPattern_iff`: the pattern of a field reads just these stretches.
* `field_places`: what a search for a field and for all its places finds.
-/

namespace FlatJson

/-! ### Fields in a text -/

/-- The stretches of a value: the sign before the captured part, the captured part, the sign behind
it, and the text behind the value. -/
inductive IsValue : FieldKind → Text → Text → Text → Text → Prop where
  /-- A row of digits that is not empty and goes on as long as there are digits. -/
  | number {digits rest : Text} (hne : digits ≠ []) (hdigits : ∀ c ∈ digits, isDigit c = true)
      (hrest : ∀ c ∈ rest.head?, isDigit c = false) : IsValue .number [] digits [] rest
  /-- One of the words up to case. -/
  | boolean {b : Bool} {word rest : Text} (h : sameLetters (truthWord b) word = true) :
      IsValue .boolean [] word [] rest
  /-- A text in quotes, on one line. -/
  | string {inside rest : Text} (hquote : '"' ∉ inside) (hline : '\n' ∉ inside) :
      IsValue .string ['"'] inside ['"'] rest
  /-- A nested object is told like a string. -/
  | object {opening captured closing rest : Text}
      (h : IsValue .string opening captured closing rest) :
      IsValue .object opening captured closing rest

/-- The stretches of a field: all before the captured part, the captured part, the sign behind it,
and the text behind the field. -/
inductive IsField (name : Text) (k : FieldKind) : Text → Text → Text → Text → Prop where
  /-- The name up to case in quotes, a colon between blanks, and the value. -/
  | spaced {n u v opening captured closing rest : Text} (hn : sameLetters name n = true)
      (hu : IsBlankRun u) (hv : IsBlankRun v) (hvalue : IsValue k opening captured closing rest) :
      IsField name k (inQuotes n ++ (u ++ ':' :: (v ++ opening))) captured closing rest

/-- A field of the name and kind stands in the text at the place of the occurrence. -/
def FieldAt (name : Text) (k : FieldKind) (text : Text) (o : Occurrence) : Prop :=
  ∃ before lead closing rest, text = before ++ (lead ++ (o.captured ++ (closing ++ rest))) ∧
    IsField name k lead o.captured closing rest ∧ o.start = before.length ∧
    o.captureStart = o.start + lead.length ∧
    o.stop = o.captureStart + o.captured.length + closing.length

/-- What a field is read as under the label. -/
def KindLabel.readAs : KindLabel → FieldKind
  | field k => k
  | _ => .string

theorem KindLabel.template_readAs {label : KindLabel} (h : label ≠ .unkeyed) :
    label.template = .ok label.readAs.template := by
  cases label with
  | unkeyed => contradiction
  | field | value | absent | named | other => rfl

/-! ### Blanks -/

/-- A property of texts that do not begin with a blank holds behind the blanks of a text. -/
theorem dropWhile_isBlank_iff {P : Text → Prop}
    (h : ∀ c rest, isBlank c = true → ¬P (c :: rest)) {t : Text} :
    P (t.dropWhile isBlank) ↔ ∃ u s, t = u ++ s ∧ IsBlankRun u ∧ P s := by
  constructor
  · intro hP
    exact ⟨t.takeWhile isBlank, _, List.takeWhile_append_dropWhile.symm,
      fun c hc => List.mem_takeWhile_imp hc, hP⟩
  · rintro ⟨u, s, rfl, hu, hs⟩
    have hskip : s.dropWhile isBlank = s := by
      cases s with
      | nil => rfl
      | cons c s =>
        refine List.dropWhile_cons_of_neg fun hc => ?_
        exact h c s hc hs
    rwa [hu.dropWhile, hskip]

/-! ### Values -/

/-- The reading of the stretches of a value. -/
def ReadsValue (k : FieldKind) (t : Text) (r : Reading) : Prop :=
  ∃ opening captured closing rest, t = opening ++ (captured ++ (closing ++ rest)) ∧
    IsValue k opening captured closing rest ∧
    r = ⟨captured ++ (closing ++ rest), closing ++ rest, rest⟩

theorem readsValue_object_iff {t : Text} {r : Reading} :
    ReadsValue .object t r ↔ ReadsValue .string t r := by
  constructor
  · rintro ⟨opening, captured, closing, rest, heq, hvalue, hr⟩
    cases hvalue with
    | object h => exact ⟨opening, captured, closing, rest, heq, h, hr⟩
  · rintro ⟨opening, captured, closing, rest, heq, h, hr⟩
    exact ⟨opening, captured, closing, rest, heq, .object h, hr⟩

/-- A value does not begin with a blank. -/
theorem ReadsValue.not_blank {k : FieldKind} {c : Char} {t : Text} {r : Reading}
    (h : ReadsValue k (c :: t) r) : isBlank c = false := by
  obtain ⟨opening, captured, closing, rest, heq, hvalue, -⟩ := h
  rw [Bool.eq_false_iff]
  intro hblank
  cases hvalue with
  | number hne hdigits =>
    obtain ⟨d, digits, rfl⟩ := List.exists_cons_of_ne_nil hne
    obtain ⟨rfl, -⟩ := List.cons.inj heq
    simp [isDigit_blank hblank] at hdigits
  | @boolean b _ _ hword =>
    cases captured with
    | nil => cases b <;> contradiction
    | cons d word =>
      obtain ⟨rfl, -⟩ := List.cons.inj heq
      have hletter (a : Char) (ha : letterKey a ∉ blankCodes) : sameLetter a c = false :=
        sameLetter_blank hblank ha
      have ht := hletter 't' (by decide)
      have hf := hletter 'f' (by decide)
      cases b <;> simp [truthWord, sameLetters, ht, hf] at hword
  | string =>
    obtain ⟨rfl, -⟩ := List.cons.inj heq
    exact absurd hblank (by decide)
  | object hstring =>
    cases hstring with
    | string =>
      obtain ⟨rfl, -⟩ := List.cons.inj heq
      exact absurd hblank (by decide)

/-- The scan for the end of a string goes to the first quote, and there is no line feed before
it. -/
theorem reluctant_inLine_eq_some_iff {β : Type} {f : Text → Text → β} {t : Text} {b : β} :
    reluctant .inLine (fun t' => Term.follow (fun u => some (f t' u)) (.one (.letter '"')) t') t =
        some b ↔
      ∃ v rest, t = v ++ '"' :: rest ∧ '"' ∉ v ∧ '\n' ∉ v ∧ b = f ('"' :: rest) rest := by
  have quote : isSign '"' = true := by decide
  induction t with
  | nil => simp [reluctant, Term.follow]
  | cons c rest ih =>
    simp only [follow_sign quote] at ih
    simp only [reluctant, follow_sign quote]
    by_cases hc : c = '"'
    · subst hc
      simp only [afterSign?, if_true, Option.bind_some, Option.orElse_some, Option.some.injEq]
      constructor
      · rintro rfl
        exact ⟨[], rest, rfl, by simp, by simp, rfl⟩
      · rintro ⟨v, rest', heq, hquote, -, rfl⟩
        cases v with
        | nil => rw [(List.cons.inj heq).2]
        | cons d v =>
          obtain ⟨rfl, -⟩ := List.cons.inj heq
          simp at hquote
    · rw [afterSign?_of_ne hc, Option.bind_none, Option.orElse_none]
      constructor
      · split
        · rename_i hline
          intro h
          obtain ⟨v, rest', rfl, hquote, hv, rfl⟩ := ih.1 h
          refine ⟨c :: v, rest', rfl, by simp [hquote, Ne.symm hc], ?_, rfl⟩
          rw [Atom.accepts, bne_iff_ne] at hline
          simp [hv, Ne.symm hline]
        · intro h
          contradiction
      · rintro ⟨v, rest', heq, hquote, hv, rfl⟩
        cases v with
        | nil => exact absurd (List.cons.inj heq).1 hc
        | cons d v =>
          obtain ⟨rfl, rfl⟩ := List.cons.inj heq
          simp only [List.mem_cons, not_or] at hquote hv
          rw [if_pos (by simpa [Atom.accepts] using Ne.symm hv.1)]
          exact ih.2 ⟨v, rest', rfl, hquote.2, hv.2, rfl⟩

theorem number_matchAt?_iff {t : Text} {r : Reading} :
    FieldKind.number.template.matchAt? t = some r ↔ ReadsValue .number (t.dropWhile isBlank) r := by
  rw [number_matchAt?]
  generalize t.dropWhile isBlank = s
  simp only [digitRow?]
  constructor
  · split
    · intro h
      contradiction
    · rename_i hne
      intro h
      obtain rfl := Option.some.inj h
      refine ⟨[], s.takeWhile isDigit, [], s.dropWhile isDigit, by simp, .number hne ?_ ?_, by simp⟩
      · exact fun c hc => List.mem_takeWhile_imp hc
      · intro c hc
        have := List.head?_dropWhile_not isDigit s
        rw [Option.mem_def.1 hc] at this
        simpa using this
  · rintro ⟨_, digits, _, rest, rfl, ⟨hne, hdigits, hrest⟩, rfl⟩
    have hnil : rest.takeWhile isDigit = [] ∧ rest.dropWhile isDigit = rest := by
      cases rest with
      | nil => exact ⟨rfl, rfl⟩
      | cons c rest =>
        have hc : isDigit c = false := hrest c rfl
        exact ⟨List.takeWhile_cons_of_neg (by simp [hc]), List.dropWhile_cons_of_neg (by simp [hc])⟩
    simp only [List.nil_append]
    rw [List.takeWhile_append_of_pos hdigits, List.dropWhile_append_of_pos hdigits, hnil.1, hnil.2,
      List.append_nil, if_neg hne, Option.map_some]

/-- A text begins with one of the two words at most. -/
theorem truthWord_unique {t u u' : Text} {b b' : Bool} (h : afterWord? (truthWord b) t = some u)
    (h' : afterWord? (truthWord b') t = some u') : b = b' := by
  cases t with
  | nil => cases b <;> contradiction
  | cons c rest =>
    -- the words differ in their first letters
    have first {d : Bool} {v : Text} (hd : afterWord? (truthWord d) (c :: rest) = some v) :
        letterKey c = letterKey (if d then 't' else 'f') := by
      cases d <;> simp only [truthWord, afterWord?] at hd <;> split at hd
      all_goals first | contradiction | exact (sameLetter_iff.1 ‹_›).symm
    have hkey := (first h).symm.trans (first h')
    cases b <;> cases b' <;> first | rfl | exact absurd hkey (by decide)

theorem boolean_matchAt?_iff {t : Text} {r : Reading} :
    FieldKind.boolean.template.matchAt? t = some r ↔
      ReadsValue .boolean (t.dropWhile isBlank) r := by
  rw [boolean_matchAt?]
  generalize t.dropWhile isBlank = s
  constructor
  · intro h
    obtain ⟨w, hw, hr⟩ := List.exists_of_findSome?_eq_some h
    obtain ⟨b, rfl⟩ : ∃ b, w = truthWord b := by
      simp only [List.mem_cons, List.not_mem_nil, or_false] at hw
      rcases hw with rfl | rfl
      · exact ⟨true, rfl⟩
      · exact ⟨false, rfl⟩
    obtain ⟨rest, hrest, rfl⟩ := Option.map_eq_some_iff.1 hr
    obtain ⟨word, rfl, hword⟩ := afterWord?_eq_some_iff.1 hrest
    exact ⟨[], word, [], rest, rfl, .boolean hword, rfl⟩
  · rintro ⟨_, word, _, rest, rfl, hvalue, rfl⟩
    cases hvalue with
    | @boolean b _ _ hword =>
      have hrest : afterWord? (truthWord b) (word ++ rest) = some rest :=
        afterWord?_eq_some_iff.2 ⟨word, rfl, hword⟩
      cases b with
      | true => simp [hrest]
      | false =>
        have hother : afterWord? (truthWord true) (word ++ rest) = none := by
          rw [Option.eq_none_iff_forall_ne_some]
          exact fun u hu => absurd (truthWord_unique hu hrest) (by decide)
        simp [hrest, hother]

theorem string_matchAt?_iff {t : Text} {r : Reading} :
    stringTemplate.matchAt? t = some r ↔ ReadsValue .string (t.dropWhile isBlank) r := by
  rw [stringTemplate_matchAt?, Option.bind_eq_some_iff]
  simp only [afterSign?_eq_some_iff, reluctant_inLine_eq_some_iff]
  constructor
  · rintro ⟨s, hs, v, rest, rfl, hquote, hline, rfl⟩
    exact ⟨['"'], v, ['"'], rest, hs, .string hquote hline, rfl⟩
  · rintro ⟨_, v, _, rest, hs, hvalue, rfl⟩
    cases hvalue with
    | string hquote hline => exact ⟨_, hs, v, rest, rfl, hquote, hline, rfl⟩

/-- The pattern of a value reads the stretches of a value behind blanks. -/
theorem value_matchAt?_iff {k : FieldKind} (hk : k ≠ .stringArray) {t : Text} {r : Reading} :
    k.template.matchAt? t = some r ↔ ReadsValue k (t.dropWhile isBlank) r := by
  cases k with
  | stringArray => contradiction
  | number => exact number_matchAt?_iff
  | boolean => exact boolean_matchAt?_iff
  | string => exact string_matchAt?_iff
  | object => exact string_matchAt?_iff.trans readsValue_object_iff.symm

theorem readsValue_dropWhile_iff {k : FieldKind} {t : Text} {r : Reading} :
    ReadsValue k (t.dropWhile isBlank) r ↔
      ∃ u s, t = u ++ s ∧ IsBlankRun u ∧ ReadsValue k s r := by
  refine @dropWhile_isBlank_iff (ReadsValue k · r) ?_ t
  intro c rest hblank h
  rw [h.not_blank] at hblank
  contradiction

/-! ### Fields -/

theorem afterSpaced?_eq_some_iff {mark : Char} (hmark : isBlank mark = false) {t s : Text} :
    afterSpaced? mark t = some s ↔
      ∃ u rest, t = u ++ mark :: rest ∧ IsBlankRun u ∧ s = rest.dropWhile isBlank := by
  rw [afterSpaced?, Option.map_eq_some_iff]
  simp only [afterSign?_eq_some_iff]
  constructor
  · rintro ⟨rest, heq, rfl⟩
    refine ⟨t.takeWhile isBlank, rest, ?_, fun c hc => List.mem_takeWhile_imp hc, rfl⟩
    rw [← heq, List.takeWhile_append_dropWhile]
  · rintro ⟨u, rest, rfl, hu, rfl⟩
    exact ⟨rest, by rw [hu.dropWhile, List.dropWhile_cons_of_neg (by simp [hmark])], rfl⟩

/-- Behind a name in quotes there is a colon between blanks. -/
theorem afterName?_eq_some_iff {name t s : Text} :
    afterName? name t = some s ↔ ∃ n u rest, t = inQuotes n ++ (u ++ ':' :: rest) ∧
      sameLetters name n = true ∧ IsBlankRun u ∧ s = rest.dropWhile isBlank := by
  simp only [afterName?, Option.bind_eq_some_iff, afterSign?_eq_some_iff, afterWord?_eq_some_iff,
    afterSpaced?_eq_some_iff (show isBlank ':' = false by decide)]
  constructor
  · rintro ⟨_, rfl, _, ⟨n, rfl, hn⟩, _, rfl, u, rest, rfl, hu, rfl⟩
    exact ⟨n, u, rest, by simp [inQuotes], hn, hu, rfl⟩
  · rintro ⟨n, u, rest, rfl, hn, hu, rfl⟩
    exact ⟨n ++ '"' :: (u ++ ':' :: rest), by simp [inQuotes], _, ⟨n, rfl, hn⟩, _, rfl, u, rest,
      rfl, hu, rfl⟩

/-- The pattern of a field reads the stretches of a field. -/
theorem matchAt?_fieldPattern_iff {name t : Text} {k : FieldKind} (hk : k ≠ .stringArray)
    {r : Reading} :
    (fieldPattern name k.template).matchAt? t = some r ↔
      ∃ lead captured closing rest, t = lead ++ (captured ++ (closing ++ rest)) ∧
        IsField name k lead captured closing rest ∧
        r = ⟨captured ++ (closing ++ rest), closing ++ rest, rest⟩ := by
  -- blanks before a value are skipped behind the colon, and there are none left for the value
  have hblanks (t : Text) : k.template.matchAt? (t.dropWhile isBlank) = some r ↔
      ∃ v s, t = v ++ s ∧ IsBlankRun v ∧ ReadsValue k s r := by
    rw [value_matchAt?_iff hk, List.dropWhile_idempotent, readsValue_dropWhile_iff]
  rw [matchAt?_fieldPattern (skipsBlanks k), Option.bind_eq_some_iff]
  constructor
  · rintro ⟨_, hname, hvalue⟩
    obtain ⟨n, u, rest, rfl, hn, hu, rfl⟩ := afterName?_eq_some_iff.1 hname
    obtain ⟨v, _, rfl, hv, opening, captured, closing, rest, rfl, h, rfl⟩ := (hblanks _).1 hvalue
    exact ⟨_, captured, closing, rest, by simp, .spaced hn hu hv h, rfl⟩
  · rintro ⟨_, captured, closing, rest, rfl, @⟨n, u, v, opening, _, _, _, hn, hu, hv, h⟩, rfl⟩
    refine ⟨_, afterName?_eq_some_iff.2
      ⟨n, u, v ++ (opening ++ (captured ++ (closing ++ rest))), by simp, hn, hu, rfl⟩, ?_⟩
    exact (hblanks _).2 ⟨v, _, rfl, hv, opening, captured, closing, rest, rfl, h, rfl⟩

/-- A field is read at the places where its stretches are. -/
theorem occursIn_fieldPattern_iff {name text : Text} {k : FieldKind} (hk : k ≠ .stringArray)
    {o : Occurrence} :
    (fieldPattern name k.template).OccursIn text o ↔ FieldAt name k text o := by
  constructor
  · rintro ⟨t, r, ⟨before, rfl⟩, hr, rfl⟩
    obtain ⟨lead, captured, closing, rest, rfl, hfield, rfl⟩ := (matchAt?_fieldPattern_iff hk).1 hr
    refine ⟨before, lead, closing, rest, ?_, ?_, ?_, ?_, ?_⟩ <;>
      simp only [Reading.occurrence, Reading.captured_append, List.length_append]
    · exact hfield
    all_goals omega
  · rintro ⟨before, lead, closing, rest, rfl, hfield, hstart, hcapture, hstop⟩
    refine ⟨_, _, List.suffix_append before _,
      (matchAt?_fieldPattern_iff hk).2 ⟨_, _, _, _, rfl, hfield, rfl⟩, ?_⟩
    obtain ⟨start, stop, captureStart, captured⟩ := o
    simp only at hstart hcapture hstop
    simp only [Reading.occurrence, Reading.captured_append, List.length_append, hstart, hcapture,
      hstop, Occurrence.mk.injEq, and_true]
    omega

/-- The leftmost field is found. -/
theorem findField?_eq_some_iff {name text v : Text} {k : FieldKind} (hk : k ≠ .stringArray) :
    findField? name k text = some v ↔ ∃ o, IsFirst (FieldAt name k text) 0 o ∧ o.captured = v := by
  have hoccurs : (fieldPattern name k.template).OccursIn text = FieldAt name k text := by
    funext o
    exact propext (occursIn_fieldPattern_iff hk)
  rw [findField?, Pattern.find?_eq_some_iff, hoccurs]

theorem findField?_eq_none_iff {name text : Text} {k : FieldKind} (hk : k ≠ .stringArray) :
    findField? name k text = none ↔ ∀ o, ¬FieldAt name k text o := by
  simp only [findField?, Pattern.find?_eq_none_iff, occursIn_fieldPattern_iff hk]

/-- A field has at least its quotes. -/
theorem advances_fieldPattern {k : FieldKind} (hk : k ≠ .stringArray) (name : Text) :
    (fieldPattern name k.template).Advances := by
  intro t r hr
  obtain ⟨_, captured, closing, rest, rfl, ⟨-, -, -, -⟩, rfl⟩ := (matchAt?_fieldPattern_iff hk).1 hr
  simp only [inQuotes, List.length_append, List.length_cons, List.length_nil]
  omega

/-! ### Searching for a field -/

theorem KindLabel.readAs_ne_stringArray {label : KindLabel} (h : label ≠ .field .stringArray) :
    label.readAs ≠ .stringArray := by
  cases label with
  | field k =>
    rintro rfl
    exact h rfl
  | value | absent | named | other | unkeyed => exact FieldKind.noConfusion

section
variable {label : KindLabel} (hkeyed : label ≠ .unkeyed) (name text : Text) (s : Session)
include hkeyed

theorem outcome_field :
    (Command.ask (.field name label) (.text text)).outcome s =
      .ok (.ofOption .text ((fieldPattern name label.readAs.template).find? text)) := by
  rw [Command.outcome, Command.run, Query.answer, KindLabel.template_readAs hkeyed]
  rfl

theorem outcome_places :
    (Command.ask (.places name label) (.text text)).outcome s =
      .ok (.places ((fieldPattern name label.readAs.template).occurrences text)) := by
  rw [Command.outcome, Command.run, Query.answer, KindLabel.template_readAs hkeyed]
  rfl

end

/-- **Searching for a field.** Under every label that is known as a kind or stands for a string,
what is found is captured at the first place where a field of the name stands in the text, and
nothing is found if there is no such place. At one place there is one field. All places of the field
are found one after the other, each search starting where the last field ended; they do not overlap
and come in their order, and the first of them is the one that a single search finds. -/
theorem field_places {label : KindLabel} (hkeyed : label ≠ .unkeyed)
    (harray : label ≠ .field .stringArray) (name text : Text) (s : Session) :
    ∃ found places,
      (Command.ask (.field name label) (.text text)).outcome s = .ok (.ofOption .text found) ∧
      (Command.ask (.places name label) (.text text)).outcome s = .ok (.places places) ∧
      (∀ v, found = some v ↔
        ∃ o, IsFirst (FieldAt name label.readAs text) 0 o ∧ o.captured = v) ∧
      (found = none ↔ ∀ o, ¬FieldAt name label.readAs text o) ∧
      (∀ o o', FieldAt name label.readAs text o → FieldAt name label.readAs text o' →
        o.start = o'.start → o = o') ∧
      Successive (FieldAt name label.readAs text) 0 places ∧
      (∀ o ∈ places, o.start < o.stop) ∧ places.Pairwise (fun o o' => o.stop ≤ o'.start) ∧
      found = places.head?.map (·.captured) := by
  have hk := KindLabel.readAs_ne_stringArray harray
  have hadvances := advances_fieldPattern hk name
  have hoccurs : (fieldPattern name label.readAs.template).OccursIn text =
      FieldAt name label.readAs text := by
    funext o
    exact propext (occursIn_fieldPattern_iff hk)
  have hplaces := Pattern.successive_occurrences hadvances text
  have hextent : ∀ o, FieldAt name label.readAs text o → o.start < o.stop := by
    intro o ho
    exact hadvances.start_lt_stop ((occursIn_fieldPattern_iff hk).2 ho)
  rw [hoccurs] at hplaces
  refine ⟨_, _, outcome_field hkeyed name text s, outcome_places hkeyed name text s, ?_, ?_, ?_,
    hplaces, fun o ho => hextent o (hplaces.mem o ho), (hplaces.disjoint hextent).2,
    Pattern.find?_eq_head? text⟩
  · intro v
    rw [Pattern.find?_eq_some_iff, hoccurs]
  · rw [Pattern.find?_eq_none_iff, hoccurs]
  · rw [← hoccurs]
    exact fun o o' ho ho' => ho.eq_of_start ho'

theorem field_places_number :
    let text := "\"a.b\": -1, \"aXb\": 2, \"A.B\"\n: 34, \"a.b\": 5".toList
    (KindLabel.field .number ≠ .unkeyed ∧ KindLabel.field .number ≠ .field .stringArray) ∧
      ∃ o, IsFirst (FieldAt "a.b".toList .number text) 0 o ∧ o.captured = ['3', '4'] := by
  intro text
  have hkeyed : KindLabel.field .number ≠ .unkeyed := by decide
  have harray : KindLabel.field .number ≠ .field .stringArray := by decide
  obtain ⟨found, places, hfound, -, hfirst, -⟩ :=
    field_places hkeyed harray "a.b".toList text (.start [] HostZone.utc.clock ruledZones)
  have hanswer : (fieldPattern "a.b".toList FieldKind.number.template).find? text =
      some ['3', '4'] := by decide +kernel
  rw [outcome_field hkeyed, KindLabel.readAs, hanswer] at hfound
  have hvalue : found = some ['3', '4'] := by
    cases found with
    | none => cases hfound
    | some v => rw [Answer.text.inj (Except.ok.inj hfound)]
  exact ⟨⟨hkeyed, harray⟩, (hfirst _).1 hvalue⟩

end FlatJson
