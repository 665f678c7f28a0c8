import FlatJson.Proofs.ArrayLayout
import FlatJson.Proofs.FieldPlaces
import Mathlib.Order.Bounds.Basic

/-!
# The places of an array

An array field is told here without a pattern: its row goes from the opening bracket to the first
closing one, blanks at its two ends do not count, and its elements stand between all its commas.

* `rowElements` are the elements of a row: what stands between its commas, stripped.
* `ArrayAt` says that an array field stands at a place of a text, and what its row is.
* `capture?_array_iff`: the pattern of an array field captures just these rows.
* `pieces_stripped`: cutting at the commas with the blanks around them is cutting at the commas and
  stripping the pieces.
* `array_places`: which array is read, and how.
-/

namespace FlatJson

/-! ### Rows -/

/-- Nothing is captured without a closing bracket. -/
theorem bracketText?_of_notMem {t : Text} (ht : ']' ∉ t) : bracketText? t = none := by
  induction t with
  | nil => rfl
  | cons c t ih =>
    have hclosing : afterClosing? (c :: t) = none := afterSign?_of_notMem ht
    simp only [List.mem_cons, not_or] at ht
    rw [bracketText?, hclosing, ih ht.2]
    simp

/-- What is captured behind an opening bracket is the text up to the first closing one, stripped, if
it is on one line. -/
theorem bracketText?_dropWhile_iff {t row : Text} :
    bracketText? (t.dropWhile isBlank) = some row ↔ ∃ inside rest, t = inside ++ ']' :: rest ∧
      ']' ∉ inside ∧ row = stripped inside ∧ '\n' ∉ row := by
  have captured {inside : Text} (h : ']' ∉ inside) (rest : Text) :
      bracketText? ((inside ++ ']' :: rest).dropWhile isBlank) =
        if '\n' ∈ stripped inside then none else some (stripped inside) := by
    rw [dropWhile_append_sign (by decide)]
    exact bracketText?_bracket (fun hmem => h ((List.dropWhile_sublist isBlank).subset hmem)) rest
  constructor
  · intro h
    by_cases hbracket : ']' ∈ t
    · obtain ⟨inside, rest, rfl, hinside⟩ := List.eq_append_cons_of_mem hbracket
      rw [captured hinside] at h
      split at h
      · contradiction
      · rename_i hline
        obtain rfl := Option.some.inj h
        exact ⟨inside, rest, rfl, hinside, rfl, hline⟩
    · rw [bracketText?_of_notMem fun hmem =>
        hbracket ((List.dropWhile_sublist isBlank).subset hmem)] at h
      contradiction
  · rintro ⟨inside, rest, rfl, hinside, rfl, hline⟩
    rw [captured hinside, if_neg hline]

/-! ### Elements -/

/-- The elements of a row: what stands between all its commas, without the blanks at the two ends
and without quotes. -/
def rowElements (row : Text) : List Text :=
  if row = [] then [] else (row.splitOn ',').map fun piece => (stripped piece).filter (· != '"')

/-- Without a comma there is one piece. -/
theorem pieces_of_notMem {t : Text} (ht : ',' ∉ t) : pieces elementSeparator t = [t] := by
  induction t with
  | nil => rw [pieces]
  | cons c t ih =>
    have hnone : afterSpaced? ',' (c :: t) = none := by
      rw [afterSpaced?, afterSign?_of_notMem ht, Option.map_none]
    simp only [List.mem_cons, not_or] at ht
    rw [pieces_cons hnone, ih ht.2]
    rfl

/-- The first comma ends the first piece, and the blanks around it belong to no piece. -/
theorem pieces_comma {w : Text} (hw : ',' ∉ w) (rest : Text) :
    pieces elementSeparator (w ++ ',' :: rest) =
      w.rdropWhile isBlank :: pieces elementSeparator (rest.dropWhile isBlank) := by
  have hu : IsBlankRun (w.rtakeWhile isBlank) := fun c hc => List.mem_rtakeWhile_imp hc
  have hv : IsBlankRun (rest.takeWhile isBlank) := fun c hc => List.mem_takeWhile_imp hc
  have hcut := pieces_separator hu hv (List.dropWhile_idempotent isBlank rest)
  rw [List.append_assoc, List.cons_append, List.takeWhile_append_dropWhile] at hcut
  have hfront : ',' ∉ w.rdropWhile isBlank := fun hmem =>
    hw ((List.rdropWhile_prefix isBlank w).sublist.subset hmem)
  have := pieces_append hfront (List.rdropWhile_idempotent isBlank w) hcut
  rwa [← List.append_assoc, List.rdropWhile_append_rtakeWhile, List.append_nil] at this

/-- **Cutting at the commas with the blanks around them** is cutting at all commas and stripping the
pieces, if the blanks at the two ends are stripped too. -/
theorem pieces_stripped (t : Text) :
    pieces elementSeparator (stripped t) = (t.splitOn ',').map stripped := by
  -- the induction goes from one comma to the next
  induction hlength : t.length using Nat.strongRecOn generalizing t with
  | ind n ih =>
    subst hlength
    by_cases hcomma : ',' ∈ t
    · obtain ⟨w, rest, rfl, hw⟩ := List.eq_append_cons_of_mem hcomma
      have hfront : ',' ∉ w.dropWhile isBlank := fun hmem =>
        hw ((List.dropWhile_sublist isBlank).subset hmem)
      have hends : stripped (w ++ ',' :: rest) =
          w.dropWhile isBlank ++ ',' :: rest.rdropWhile isBlank := by
        rw [stripped, dropWhile_append_sign (by decide), rdropWhile_append_sign (by decide)]
      have hrest := ih rest.length (by simp only [List.length_append, List.length_cons]; omega)
        rest rfl
      rw [hends, pieces_comma hfront, ← stripped_eq, hrest,
        List.splitOn_append_cons_self_of_not_mem hw, List.map_cons, stripped]
    · have hwhole : ',' ∉ stripped t := fun hmem => hcomma ((stripped_sublist t).subset hmem)
      rw [pieces_of_notMem hwhole, List.splitOn_eq_singleton hcomma, List.map_singleton]

/-- The elements of a stripped row stand between its commas. -/
theorem arrayElements_stripped (t : Text) :
    arrayElements (stripped t) = rowElements (stripped t) := by
  have hpieces := pieces_stripped (stripped t)
  rw [stripped_idempotent] at hpieces
  rw [arrayElements, rowElements, hpieces, List.map_map]
  rfl

/-- Cutting at a sign gives one piece more than there are signs. -/
theorem length_splitOn (c : Char) (t : Text) : (t.splitOn c).length = t.count c + 1 := by
  induction t with
  | nil => rfl
  | cons d t ih =>
    rw [List.splitOn_cons_eq_if_modifyHead]
    by_cases hd : d = c
    · simp [hd, ih]
    · simp [hd, ih]

/-- A piece has no separator, and nothing that is not in the text. -/
theorem mem_splitOn {c : Char} {t piece : Text} (h : piece ∈ t.splitOn c) :
    c ∉ piece ∧ piece.Sublist t := by
  induction t generalizing piece with
  | nil =>
    obtain rfl : piece = [] := by simpa using h
    simp
  | cons d t ih =>
    rw [List.splitOn_cons_eq_if_modifyHead] at h
    split at h
    · rcases List.mem_cons.1 h with rfl | h
      · simp
      · exact ⟨(ih h).1, (ih h).2.cons d⟩
    · rename_i hd
      cases hpieces : t.splitOn c with
      | nil => exact absurd hpieces (List.splitOn_ne_nil c t)
      | cons first more =>
        rw [hpieces] at h ih
        rcases List.mem_cons.1 h with rfl | h
        · obtain ⟨hfirst, hsub⟩ := ih List.mem_cons_self
          have hne : c ≠ d := fun heq => hd (by rw [heq, beq_self_eq_true])
          exact ⟨by simp [hfirst, hne], hsub.cons_cons d⟩
        · have := ih (List.mem_cons_of_mem _ h)
          exact ⟨this.1, this.2.cons d⟩

/-- No element has a quote or a comma, nor anything that is not in the row. -/
theorem mem_rowElements {row item : Text} (h : item ∈ rowElements row) :
    '"' ∉ item ∧ ',' ∉ item ∧ item ⊆ row := by
  rw [rowElements] at h
  split at h
  · contradiction
  · obtain ⟨piece, hpiece, rfl⟩ := List.mem_map.1 h
    obtain ⟨hcomma, hsub⟩ := mem_splitOn hpiece
    have hitem : (stripped piece).filter (· != '"') ⊆ piece :=
      (List.filter_sublist.trans (stripped_sublist piece)).subset
    refine ⟨by simp, fun hmem => hcomma (hitem hmem), ?_⟩
    exact List.Subset.trans hitem hsub.subset

/-! ### Places -/

/-- An array field of the name stands at the place in the text: the name up to case in quotes, a
colon between blanks and an opening bracket. Its row is what stands between this bracket and the
first closing one behind it, without the blanks at the two ends, and the row is on one line. -/
inductive ArrayAt (name : Text) : Text → Nat → Text → Prop where
  /-- The stretches of an array field. -/
  | spaced {before n u v inside rest row : Text} (hn : sameLetters name n = true)
      (hu : IsBlankRun u) (hv : IsBlankRun v) (hinside : ']' ∉ inside)
      (hrow : row = stripped inside) (hline : '\n' ∉ row) :
      ArrayAt name (before ++ (inQuotes n ++ (u ++ ':' :: (v ++ '[' :: (inside ++ ']' :: rest)))))
        before.length row

/-- The pattern of an array field captures the row of an array field at the beginning of a text. -/
theorem capture?_array_iff {name t row : Text} :
    (fieldPattern name FieldKind.stringArray.template).capture? t = some row ↔
      ∃ n u v inside rest, t = inQuotes n ++ (u ++ ':' :: (v ++ '[' :: (inside ++ ']' :: rest))) ∧
        sameLetters name n = true ∧ IsBlankRun u ∧ IsBlankRun v ∧ ']' ∉ inside ∧
        row = stripped inside ∧ '\n' ∉ row := by
  have hopening (s r : Text) :
      s.dropWhile isBlank = '[' :: r ↔ ∃ v t, s = v ++ t ∧ IsBlankRun v ∧ t = '[' :: r := by
    refine @dropWhile_isBlank_iff (· = '[' :: r) ?_ s
    rintro c rest hc ⟨⟩
    exact absurd hc (by decide)
  simp only [capture?_fieldPattern, Option.bind_eq_some_iff, afterName?_eq_some_iff,
    capture?_stringArray, afterSign?_eq_some_iff, bracketText?_dropWhile_iff]
  constructor
  · rintro ⟨_, ⟨n, u, s, rfl, hn, hu, rfl⟩, r, hs, inside, rest, rfl, hrow⟩
    obtain ⟨v, _, rfl, hv, rfl⟩ := (hopening s _).1 hs
    exact ⟨n, u, v, inside, rest, rfl, hn, hu, hv, hrow⟩
  · rintro ⟨n, u, v, inside, rest, rfl, hn, hu, hv, hrow⟩
    exact ⟨_, ⟨n, u, _, rfl, hn, hu, rfl⟩, _, (hopening _ _).2 ⟨v, _, rfl, hv, rfl⟩, inside, rest,
      rfl, hrow⟩

/-- An array field stands at the places where its pattern is read. -/
theorem arrayAt_iff_occursIn {name text row : Text} {place : Nat} :
    ArrayAt name text place row ↔
      ∃ o, (fieldPattern name FieldKind.stringArray.template).OccursIn text o ∧
        o.start = place ∧ o.captured = row := by
  constructor
  · rintro @⟨before, n, u, v, inside, rest, _, hn, hu, hv, hinside, hrow, hline⟩
    have hcapture := capture?_array_iff.2 ⟨n, u, v, inside, rest, rfl, hn, hu, hv, hinside, hrow,
      hline⟩
    obtain ⟨r, hr, hcaptured⟩ := Option.map_eq_some_iff.1 hcapture
    refine ⟨_, ⟨_, r, List.suffix_append before _, hr, rfl⟩, ?_, hcaptured⟩
    simp [Reading.occurrence]
  · rintro ⟨o, ⟨t, r, ⟨before, rfl⟩, hr, rfl⟩, rfl, rfl⟩
    obtain ⟨n, u, v, inside, rest, rfl, hn, hu, hv, hinside, hrow, hline⟩ :=
      capture?_array_iff.1 (Option.map_eq_some_iff.2 ⟨r, hr, rfl⟩)
    have hplace : (r.occurrence (before ++ (inQuotes n ++ (u ++ ':' :: (v ++ '[' ::
        (inside ++ ']' :: rest))))) (inQuotes n ++ (u ++ ':' :: (v ++ '[' ::
        (inside ++ ']' :: rest))))).start = before.length := by
      simp [Reading.occurrence]
    rw [hplace]
    exact .spaced hn hu hv hinside hrow hline

/-- At one place there is one array. -/
theorem ArrayAt.unique {name text row row' : Text} {place : Nat} (h : ArrayAt name text place row)
    (h' : ArrayAt name text place row') : row = row' := by
  obtain ⟨o, ho, hstart, rfl⟩ := arrayAt_iff_occursIn.1 h
  obtain ⟨o', ho', hstart', rfl⟩ := arrayAt_iff_occursIn.1 h'
  rw [ho.eq_of_start ho' (hstart.trans hstart'.symm)]

/-- The row at the first place of an array field is found. -/
theorem findField?_array_eq_some_iff {name text row : Text} :
    findField? name .stringArray text = some row ↔
      ∃ place, IsLeast {p | ∃ r, ArrayAt name text p r} place ∧ ArrayAt name text place row := by
  rw [findField?, Pattern.find?_eq_some_iff]
  constructor
  · rintro ⟨o, ho, rfl⟩
    refine ⟨o.start, ⟨⟨o.captured, ?_⟩, ?_⟩, ?_⟩
    · exact arrayAt_iff_occursIn.2 ⟨o, ho.mem, rfl, rfl⟩
    · rintro p ⟨r, hr⟩
      obtain ⟨o', ho', rfl, -⟩ := arrayAt_iff_occursIn.1 hr
      exact ho.least o' ho' (Nat.zero_le _)
    · exact arrayAt_iff_occursIn.2 ⟨o, ho.mem, rfl, rfl⟩
  · rintro ⟨place, hleast, hrow⟩
    obtain ⟨o, ho, rfl, hcaptured⟩ := arrayAt_iff_occursIn.1 hrow
    refine ⟨o, ⟨ho, Nat.zero_le _, fun o' ho' _ => hleast.2 ⟨o'.captured, ?_⟩⟩, hcaptured⟩
    exact arrayAt_iff_occursIn.2 ⟨o', ho', rfl, rfl⟩

theorem findField?_array_eq_none_iff {name text : Text} :
    findField? name .stringArray text = none ↔ ∀ place row, ¬ArrayAt name text place row := by
  rw [findField?, Pattern.find?_eq_none_iff]
  constructor
  · intro h place row hrow
    obtain ⟨o, ho, -⟩ := arrayAt_iff_occursIn.1 hrow
    exact h o ho
  · exact fun h o ho => h _ _ (arrayAt_iff_occursIn.2 ⟨o, ho, rfl, rfl⟩)

/-- The row of an array is stripped, on one line and without closing brackets. -/
theorem ArrayAt.row_plain {name text row : Text} {place : Nat} (h : ArrayAt name text place row) :
    stripped row = row ∧ ']' ∉ row ∧ '\n' ∉ row := by
  obtain ⟨-, -, -, hinside, rfl, hline⟩ := h
  exact ⟨stripped_idempotent _, fun hmem => hinside ((stripped_sublist _).subset hmem), hline⟩

/-- The elements of an array are as many as its commas and one more, and none of them has a
character that is written around elements. -/
theorem ArrayAt.elements {name text row : Text} {place : Nat} (h : ArrayAt name text place row) :
    (row ≠ [] → (rowElements row).length = row.count ',' + 1) ∧
      ∀ item ∈ rowElements row, '"' ∉ item ∧ ',' ∉ item ∧ ']' ∉ item ∧ '\n' ∉ item := by
  obtain ⟨-, hclosing, hline⟩ := h.row_plain
  refine ⟨fun hrow => ?_, fun item hitem => ?_⟩
  · rw [rowElements, if_neg hrow, List.length_map, length_splitOn]
  · obtain ⟨hquote, hcomma, hrow⟩ := mem_rowElements hitem
    exact ⟨hquote, hcomma, fun hmem => hclosing (hrow hmem), fun hmem => hline (hrow hmem)⟩

/-- **Reading an array.** If no array field of the name stands in the text, none is found and the
empty list is read. Otherwise the elements of the row at the first place of such a field are found
and read: none for an empty row, else one more than the row has commas, and no element has a quote,
a comma, a closing bracket or a line feed. At one place there is one row. -/
theorem array_places (name text : Text) :
    ((∀ place row, ¬ArrayAt name text place row) ∧ findStringArray? name text = none ∧
        readStringArray name text = [] ∨
      ∃ place row, IsLeast {p | ∃ r, ArrayAt name text p r} place ∧ ArrayAt name text place row ∧
        findStringArray? name text = some (rowElements row) ∧
        readStringArray name text = rowElements row ∧
        (row ≠ [] → (rowElements row).length = row.count ',' + 1) ∧
        ∀ item ∈ rowElements row, '"' ∉ item ∧ ',' ∉ item ∧ ']' ∉ item ∧ '\n' ∉ item) ∧
      ∀ place row row', ArrayAt name text place row → ArrayAt name text place row' →
        row = row' := by
  refine ⟨?_, fun _ _ _ h h' => h.unique h'⟩
  cases hfound : findField? name .stringArray text with
  | none =>
    have hfind : findStringArray? name text = none := by
      rw [findStringArray?, hfound, Option.map_none]
    exact .inl ⟨findField?_array_eq_none_iff.1 hfound, hfind, by rw [readStringArray, hfind]; rfl⟩
  | some row =>
    obtain ⟨place, hplace, hrow⟩ := findField?_array_eq_some_iff.1 hfound
    have hfind : findStringArray? name text = some (rowElements row) := by
      have hstripped := hrow.row_plain.1
      rw [findStringArray?, hfound, Option.map_some, ← hstripped, arrayElements_stripped]
    exact .inr ⟨place, row, hplace, hrow, hfind, by rw [readStringArray, hfind]; rfl,
      hrow.elements⟩

/-- Empty pieces count, and line feeds do not at the ends of the row. -/
example : findStringArray? "subs".toList "\"SUBS\" : [\n\"a b\" ,, c\n]".toList =
    some ["a b".toList, [], ['c']] := by decide +kernel

end FlatJson
