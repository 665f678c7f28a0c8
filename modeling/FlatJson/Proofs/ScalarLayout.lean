import FlatJson.Proofs.ReadBack

/-!
# Single values in any layout

Strings, numbers and truth values are read the same from every rendering of a flat object. The
search for a field can only succeed at the name of a field, whatever blanks stand between the signs,
and an attempt that fails there is passed over to the next name.

* `findField?_field_layout`: a search finds a field or passes over it, whatever its layout.
* `findField?_rendering`: what a search finds in a rendering.
* `readScalars_rendering`: two renderings of the same fields are read alike.
-/

namespace FlatJson

/-! ### Values -/

/-- Only arrays have other layouts than the one they are written in. -/
theorem Content.Layout.text_or_array {c : Content} {s : Text} (h : c.Layout s) :
    (s = c.text ∧ ∀ items, c ≠ .array items) ∨
      ∃ items, c = .array items ∧ Enclosed IsQuoted '[' ']' items s := by
  cases h with
  | string | boolean | integer => exact .inl ⟨rfl, by simp⟩
  | array h => exact .inr ⟨_, rfl, h⟩

/-- The inside of what is enclosed in signs. -/
theorem Enclosed.exists_eq {α : Type} {layout : α → Text → Prop} {opening closing : Char}
    {items : List α} {s : Text} (h : Enclosed layout opening closing items s) :
    ∃ t, s = opening :: t ++ [closing] := by
  cases h with
  | empty => exact ⟨_, rfl⟩
  | @row items u t v => exact ⟨u ++ t ++ v, by simp⟩

section
variable {c : Content} {s : Text} (h : c.Layout s) {rest : Text}
include h

/-- The text of a value does not begin with a blank. -/
theorem dropWhile_layout : (s ++ rest).dropWhile isBlank = s ++ rest := by
  obtain ⟨rfl, -⟩ | ⟨items, -, hlaid⟩ := h.text_or_array
  · exact dropWhile_content
  · obtain ⟨t, rfl⟩ := hlaid.exists_eq
    exact List.dropWhile_cons_of_neg (by decide)

variable (hc : ∀ t ∈ c.strings, '"' ∉ t) (hrest : EndsLaid rest)
include hc hrest

/-- The layout of a value does not matter for what is captured of it, arrays apart. -/
theorem capture?_layout {k : FieldKind} (hk : k ≠ .stringArray) :
    k.template.capture? (s ++ rest) = c.captured? k := by
  obtain ⟨rfl, hother⟩ | ⟨items, rfl, hlaid⟩ := h.text_or_array
  · exact capture?_content hc (fun items harray => absurd harray (hother items)) hrest k
  · obtain ⟨t, rfl⟩ := hlaid.exists_eq
    have hnone : k.begins '[' = false ∧ (Content.array items).captured? k = none := by
      cases k with
      | stringArray => contradiction
      | _ => exact ⟨by decide, rfl⟩
    rw [hnone.2]
    exact capture?_of_not_begins (by decide) hnone.1 _

/-- No field begins in a value, whatever its layout. -/
theorem findField?_layout {name : Text} (hname : IsSearchable name) (k : FieldKind) :
    findField? name k (s ++ rest) = findField? name k rest := by
  obtain ⟨rfl, -⟩ | ⟨items, rfl, hlaid⟩ := h.text_or_array
  · exact findField?_content hname k hc hrest
  · have hclosing : EndsValue (']' :: rest) := endsValue_closing (.inl rfl) hrest.barred
    cases hlaid with
    | @empty u hu =>
      have htext : '[' :: u ++ [']'] ++ rest = '[' :: (u ++ ']' :: rest) := by simp
      rw [htext, findField?_cons (by decide), findField?_append (hu.notMem (by decide)),
        findField?_cons (by decide)]
    | @row _ u t v hu hrow hv =>
      have htext : '[' :: u ++ t ++ v ++ [']'] ++ rest =
          '[' :: (u ++ (t ++ (v ++ ']' :: rest))) := by
        simp
      rw [htext, findField?_cons (by decide), findField?_append (hu.notMem (by decide)),
        findField?_laid hname k hrow hc (.spaced hv hclosing),
        findField?_append (hv.notMem (by decide)), findField?_cons (by decide)]

end

/-! ### Searching a rendering -/

/-- No name, string or element of the fields has a quote. -/
def AreUnquoted (fields : List Field) : Prop :=
  ∀ f ∈ fields, '"' ∉ f.name ∧ ∀ t ∈ f.content.strings, '"' ∉ t

section
variable {name : Text} (hname : IsSearchable name) {k : FieldKind} (hk : k ≠ .stringArray)
include hname hk

/-- A search finds a field or passes over it, whatever its layout. -/
theorem findField?_field_layout {f : Field} {s : Text} (h : f.Layout s) (hf : AreUnquoted [f])
    {rest : Text} (hrest : EndsLaid rest) :
    findField? name k (s ++ rest) = (firstCaptured? k name [f]).or (findField? name k rest) := by
  obtain ⟨hquote, hstrings⟩ := hf f List.mem_cons_self
  obtain @⟨u, v, s, hu, hv, h⟩ := h
  have htext : inQuotes f.name ++ u ++ ':' :: v ++ s ++ rest =
      inQuotes f.name ++ (u ++ ':' :: (v ++ (s ++ rest))) := by
    simp
  rw [htext, findField?_named hname k hquote hu hv (dropWhile_layout h),
    capture?_layout h hstrings hrest hk, findField?_layout h hstrings hrest hname]
  simp [firstCaptured?]

/-- A search goes through a row of fields one by one. -/
theorem findField?_row_layout {fields : List Field} {s : Text} (h : Laid Field.Layout fields s)
    (hf : AreUnquoted fields) {rest : Text} (hrest : EndsLaid rest) :
    findField? name k (s ++ rest) =
      (firstCaptured? k name fields).or (findField? name k rest) := by
  induction h with
  | last h => exact findField?_field_layout hname hk h hf hrest
  | @cons x y more t u v r h hu hv hmore ih =>
    have hx : AreUnquoted [x] := fun f hmem => hf f (by simp_all)
    have htail : AreUnquoted (y :: more) := fun f hmem => hf f (List.mem_cons_of_mem _ hmem)
    have htext : t ++ u ++ ',' :: v ++ r ++ rest = t ++ (u ++ ',' :: (v ++ (r ++ rest))) := by simp
    have hfields : x :: y :: more = [x] ++ (y :: more) := rfl
    rw [htext, findField?_field_layout hname hk h hx (.spaced hu (endsValue_comma _)),
      findField?_append (hu.notMem (by decide)), findField?_cons (by decide),
      findField?_append (hv.notMem (by decide)), ih htail, hfields, firstCaptured?_append,
      Option.or_assoc]

/-- **What a search finds in a rendering.** It is what the pattern of the kind captures of the first
field with a matching name of which it captures something. -/
theorem findField?_rendering {fields : List Field} {t : Text} (h : IsRendering fields t)
    (hf : AreUnquoted fields) : findField? name k t = firstCaptured? k name fields := by
  obtain @⟨u, v, s, hu, hv, h⟩ := h
  have hend : findField? name k v = none := by
    simpa [findField?_nil] using findField?_append (hv.notMem (by decide)) name k []
  have hclosing : EndsValue ('\x7d' :: v) := by
    refine endsValue_closing (.inr rfl) ?_
    simpa using hv.barred barred_nil
  rw [List.append_assoc, findField?_append (hu.notMem (by decide))]
  cases h with
  | @empty w hw =>
    have htext : '\x7b' :: w ++ ['\x7d'] ++ v = '\x7b' :: (w ++ '\x7d' :: v) := by simp
    rw [htext, findField?_cons (by decide), findField?_append (hw.notMem (by decide)),
      findField?_cons (by decide), hend]
    rfl
  | @row _ w t x hw h hx =>
    have htext : '\x7b' :: w ++ t ++ x ++ ['\x7d'] ++ v =
        '\x7b' :: (w ++ (t ++ (x ++ '\x7d' :: v))) := by
      simp
    rw [htext, findField?_cons (by decide), findField?_append (hw.notMem (by decide)),
      findField?_row_layout hname hk h hf (.spaced hx hclosing),
      findField?_append (hx.notMem (by decide)), findField?_cons (by decide), hend, Option.or_none]

end

/-! ### Written messages -/

theorem Content.Layout.written {c : Content} {s : Text} (h : c.Layout s) : c.Layout c.text := by
  obtain ⟨rfl, -⟩ | ⟨items, rfl, -⟩ := h.text_or_array
  · exact h
  · refine .array ?_
    by_cases hne : items = []
    · subst hne
      exact .empty isBlankRun_nil
    · simpa [text] using Enclosed.row isBlankRun_nil (laid_items hne) isBlankRun_nil

theorem Field.Layout.written {f : Field} {s : Text} (h : f.Layout s) : f.Layout f.text := by
  obtain ⟨-, -, h⟩ := h
  simpa [text] using Field.Layout.spaced isBlankRun_nil isBlankRun_space h.written

theorem Laid.written {fields : List Field} {s : Text} (h : Laid Field.Layout fields s) :
    Laid Field.Layout fields (rowText (fields.map .field)) := by
  induction h with
  | last h => exact .last h.written
  | cons h _ _ _ ih =>
    have hrow := Laid.cons h.written isBlankRun_nil isBlankRun_nil ih
    simpa [rowText, Member.text] using hrow

/-- The message that is written of some fields is one of their renderings. -/
theorem isRendering_objectText {fields : List Field} {t : Text} (h : IsRendering fields t) :
    IsRendering fields (objectText (fields.map .field)) := by
  obtain ⟨-, -, h⟩ := h
  have henclosed : Enclosed Field.Layout '\x7b' '\x7d' fields (objectText (fields.map .field)) := by
    cases h with
    | empty => exact .empty isBlankRun_nil
    | row _ h _ => simpa [objectText] using Enclosed.row isBlankRun_nil h.written isBlankRun_nil
  simpa using IsRendering.spaced isBlankRun_nil isBlankRun_nil henclosed

/-! ### Reading a rendering -/

/-- What the readers of single values find of a name in a message is what they see of the first of
these fields. -/
structure ReadsScalars (name message : Text) (fields : List Field) : Prop where
  /-- A string is the first text on one line. -/
  string : readString? name message = firstShown? Content.line? name fields
  /-- A number is the first number. -/
  number : readNumber name message = .ok (firstShown? Content.number? name fields)
  /-- A truth value is the first truth value. -/
  truth : readBool? name message = firstShown? Content.truth? name fields

/-- What the readers find does not tell one message from another. -/
structure AlikeScalars (name message message' : Text) : Prop where
  /-- The strings are the same. -/
  string : readString? name message = readString? name message'
  /-- The numbers are the same. -/
  number : readNumber name message = readNumber name message'
  /-- The truth values are the same. -/
  truth : readBool? name message = readBool? name message'

theorem readsScalars_of_find {name message : Text} {fields : List Field}
    (h : ∀ k ≠ .stringArray, findField? name k message = firstCaptured? k name fields)
    (hshort : ∀ f ∈ fields, f.content.IsShort) : ReadsScalars name message fields where
  string := readString?_of_find (h .string (by decide))
  number := readNumber_of_find (h .number (by decide)) hshort
  truth := readBool?_of_find (h .boolean (by decide))

theorem ReadsScalars.alike {name message message' : Text} {fields : List Field}
    (h : ReadsScalars name message fields) (h' : ReadsScalars name message' fields) :
    AlikeScalars name message message' where
  string := h.string.trans h'.string.symm
  number := h.number.trans h'.number.symm
  truth := h.truth.trans h'.truth.symm

/-- **Single values in any layout.** From two renderings of the same fields a reader gets the same
answer: what it sees of the first field with a matching name of which it sees something. -/
theorem readsScalars_rendering {fields : List Field} (hf : AreUnquoted fields)
    (hshort : ∀ f ∈ fields, f.content.IsShort) {t t' : Text} (h : IsRendering fields t)
    (h' : IsRendering fields t') {name : Text} (hname : IsSearchable name) :
    ReadsScalars name t fields ∧ AlikeScalars name t t' := by
  have reads {t : Text} (h : IsRendering fields t) : ReadsScalars name t fields :=
    readsScalars_of_find (fun _ hk => findField?_rendering hname hk h hf) hshort
  exact ⟨reads h, (reads h).alike (reads h')⟩

/-- The array and the string on two lines are passed over, in the written message and in another
layout of it. -/
theorem readsScalars_lines :
    let fields : List Field :=
      [⟨['n'], .array [['n']]⟩, ⟨['N'], .string ['a', '\n']⟩, ⟨['n'], .integer 7⟩]
    let laid := "\n\x7b\"n\":\n[ \"n\"\n]\n,\n\"N\" : \"a\n\",\t\"n\"\n:7 \x7d".toList
    IsRendering fields laid ∧
      ReadsScalars ['n'] (objectText (fields.map .field)) fields ∧
      AlikeScalars ['n'] (objectText (fields.map .field)) laid := by
  intro fields laid
  have harray : Content.Layout (.array [['n']])
      ('[' :: [' '] ++ inQuotes ['n'] ++ ['\n'] ++ [']']) :=
    .array (.row (by decide) (.last rfl) (by decide))
  -- the texts of the three fields, each with blanks of its own
  have hfirst := @Field.Layout.spaced ⟨['n'], _⟩ [] ['\n'] _ (by decide) (by decide) harray
  have hsecond := @Field.Layout.spaced ⟨['N'], _⟩ [' '] [' '] _ (by decide) (by decide)
    (.string ['a', '\n'])
  have hthird := @Field.Layout.spaced ⟨['n'], _⟩ ['\n'] [] _ (by decide) (by decide) (.integer 7)
  have hrow := @Laid.cons _ _ _ _ _ _ ['\n'] ['\n'] _ hfirst (by decide) (by decide)
    (@Laid.cons _ _ _ _ _ _ [] ['\t'] _ hsecond (by decide) (by decide) (.last hthird))
  have hlaid : IsRendering fields laid := by
    have h := @IsRendering.spaced _ ['\n'] [] _ (by decide) (by decide)
      (@Enclosed.row _ _ '\x7b' '\x7d' _ [] _ [' '] (by decide) hrow (by decide))
    refine Eq.mp (congrArg (IsRendering fields) ?_) h
    decide +kernel
  have hf : AreUnquoted fields := by
    simp only [AreUnquoted, fields, List.mem_cons, List.not_mem_nil, or_false]
    rintro f (rfl | rfl | rfl) <;> decide
  have hshort : ∀ f ∈ fields, f.content.IsShort := by
    simp only [fields, List.mem_cons, List.not_mem_nil, or_false]
    rintro f (rfl | rfl | rfl)
    · trivial
    · trivial
    · change (decimal 7).length ≤ numeralLimit
      decide +kernel
  exact ⟨hlaid, readsScalars_rendering hf hshort (isRendering_objectText hlaid) hlaid
    ⟨by decide, by decide, by decide⟩⟩

end FlatJson
