import FlatJson.Field.StringArray
import FlatJson.Proofs.Layout

/-!
# Arrays in any layout

What is captured of an array has to stand on one line, but for the blanks at its two ends; the
elements are cut apart afterwards, at commas with any blanks around them. So an array is read
whatever blanks there are in it, unless one of those around a comma is a line feed.

* `bracketText?_bracket`: what is captured up to a closing bracket.
* `pieces_laid`: a row of elements is cut into these elements.
* `readStringArray_layout`: what is read of an array in any layout.
-/

namespace FlatJson

/-! ### Rows of elements -/

section
variable {items : List Text} {s : Text} (h : Laid IsQuoted items s)
include h

/-- A row of elements stands between two quotes. -/
theorem exists_laid_eq : ∃ w, s = '"' :: w ++ ['"'] := by
  induction h with
  | @last x t h => exact ⟨x, h⟩
  | @cons x y more t u v r h hu hv hmore ih =>
    obtain ⟨w, rfl⟩ := ih
    refine ⟨x ++ '"' :: u ++ ',' :: v ++ '"' :: w, ?_⟩
    rw [h]
    simp [inQuotes]

/-- A sign that is in no element is not in the row. -/
theorem notMem_laid {c : Char} (hblank : isBlank c = false) (hc : c ≠ '"' ∧ c ≠ ',')
    (hitems : ∀ t ∈ items, c ∉ t) : c ∉ s := by
  induction h with
  | @last x t h =>
    rw [h]
    simp [inQuotes, hc.1, hitems x List.mem_cons_self]
  | @cons x y more t u v r h hu hv hmore ih =>
    have := ih fun t ht => hitems t (List.mem_cons_of_mem _ ht)
    rw [h]
    simp [inQuotes, hc, hitems x List.mem_cons_self, hu.notMem hblank, hv.notMem hblank, this]

end

/-- Without blanks, a row of elements is the inside of an array that has been written. -/
theorem laid_items {items : List Text} (hne : items ≠ []) :
    Laid IsQuoted items ([','].intercalate (items.map inQuotes)) := by
  induction items with
  | nil => contradiction
  | cons x items ih =>
    cases items with
    | nil =>
      have hlast : Laid IsQuoted [x] (inQuotes x) := .last rfl
      simpa using hlast
    | cons y items =>
      have hx : IsQuoted x (inQuotes x) := rfl
      have hrow := Laid.cons hx isBlankRun_nil isBlankRun_nil (ih (by simp))
      rw [intercalate_items]
      simpa using hrow

/-! ### What is captured -/

theorem bracketText?_of_closing {t : Text} (h : (afterClosing? t).isSome) :
    bracketText? t = some [] := by
  cases t with
  | nil => contradiction
  | cons c rest => rw [bracketText?, if_pos h]

/-- The text up to the first closing bracket is captured without the blanks before the bracket, if
it is on one line. -/
theorem bracketText?_bracket {w : Text} (hw : ']' ∉ w) (rest : Text) :
    bracketText? (w ++ ']' :: rest) =
      if '\n' ∈ w.rdropWhile isBlank then none else some (w.rdropWhile isBlank) := by
  induction w with
  | nil => rfl
  | cons c w ih =>
    by_cases hblank : IsBlankRun (c :: w)
    · have hclosing : (afterClosing? (c :: w ++ ']' :: rest)).isSome := by
        rw [afterClosing?, hblank.dropWhile]
        rfl
      rw [bracketText?_of_closing hclosing, hblank.rdropWhile]
      rfl
    · have hclosing : afterClosing? (c :: (w ++ ']' :: rest)) = none :=
        afterSign?_append hblank hw _
      simp only [List.mem_cons, not_or] at hw
      rw [List.cons_append, bracketText?, hclosing, ih hw.2, rdropWhile_cons hblank]
      by_cases hc : c = '\n'
      · simp [hc]
      · by_cases hline : '\n' ∈ w.rdropWhile isBlank
        · simp [hc, hline]
        · simp [hc, hline, Ne.symm hc]

/-- An array in any layout is captured if no line feed stands in its row of elements. -/
theorem capture?_laid {items : List Text} {s : Text} (h : Laid IsQuoted items s)
    (hitems : ∀ t ∈ items, ']' ∉ t) {u v : Text} (hu : IsBlankRun u) (hv : IsBlankRun v)
    (rest : Text) :
    FieldKind.stringArray.template.capture? ('[' :: u ++ s ++ v ++ ']' :: rest) =
      if '\n' ∈ s then none else some s := by
  have hbracket := notMem_laid h (by decide) (by decide) hitems
  obtain ⟨w, rfl⟩ := exists_laid_eq h
  have htext : '[' :: u ++ ('"' :: w ++ ['"']) ++ v ++ ']' :: rest =
      '[' :: (u ++ '"' :: (w ++ '"' :: v ++ ']' :: rest)) := by simp
  have hrow : ('"' :: (w ++ '"' :: v)).rdropWhile isBlank = '"' :: w ++ ['"'] := by
    rw [← List.cons_append, rdropWhile_append_sign (by decide), hv.rdropWhile]
  have hw : ']' ∉ '"' :: (w ++ '"' :: v) := by
    simp_all [hv.notMem (show isBlank ']' = false by decide)]
  rw [htext, capture?_stringArray, afterSign?, if_pos rfl, Option.bind_some, hu.dropWhile,
    List.dropWhile_cons_of_neg (by decide), ← List.cons_append, bracketText?_bracket hw, hrow]

/-! ### Elements -/

theorem followAll_elementSeparator (t : Text) :
    followAll elementSeparator some t = afterSpaced? ',' t := by
  rw [elementSeparator, follow_spaced (by decide) (by decide) (by simp), Option.bind_fun_some]

theorem pieces_cons {c : Char} {rest : Text} (h : afterSpaced? ',' (c :: rest) = none) :
    pieces elementSeparator (c :: rest) = consPiece c (pieces elementSeparator rest) := by
  rw [pieces, followAll_elementSeparator, h]

/-- A comma with blanks around it is cut out. -/
theorem pieces_separator {u v r : Text} (hu : IsBlankRun u) (hv : IsBlankRun v)
    (hr : r.dropWhile isBlank = r) :
    pieces elementSeparator (u ++ ',' :: v ++ r) = [] :: pieces elementSeparator r := by
  have hmark : afterSpaced? ',' (u ++ ',' :: v ++ r) = some r := by
    rw [List.append_assoc, List.cons_append, hu.afterSpaced?_mark (by decide), hv.dropWhile, hr]
  obtain ⟨c, t, ht⟩ : ∃ c t, u ++ ',' :: v ++ r = c :: t :=
    List.exists_cons_of_ne_nil (by simp)
  have hlength : r.length ≤ t.length := by
    have := congrArg List.length ht
    simp only [List.length_append, List.length_cons] at this
    omega
  rw [ht] at hmark
  rw [ht, pieces, followAll_elementSeparator, hmark]
  exact if_pos hlength

/-- A stretch without commas that does not end with a blank is the beginning of a piece. -/
theorem pieces_append {w rest : Text} (hw : ',' ∉ w) (hlast : w.rdropWhile isBlank = w)
    {piece : Text} {more : List Text} (h : pieces elementSeparator rest = piece :: more) :
    pieces elementSeparator (w ++ rest) = (w ++ piece) :: more := by
  induction w with
  | nil => exact h
  | cons c w ih =>
    have hblank : ¬IsBlankRun (c :: w) := by
      intro hblank
      rw [hblank.rdropWhile] at hlast
      contradiction
    have hnone : afterSpaced? ',' (c :: (w ++ rest)) = none := by
      rw [afterSpaced?, ← List.cons_append, afterSign?_append hblank hw, Option.map_none]
    have htail : w.rdropWhile isBlank = w := by
      rw [List.rdropWhile_eq_self_iff] at *
      intro hne
      have := hlast (List.cons_ne_nil c w)
      rwa [List.getLast_cons hne] at this
    simp only [List.mem_cons, not_or] at hw
    rw [List.cons_append, pieces_cons hnone, ih hw.2 htail]
    rfl

/-- The pieces of a row of elements are the elements in quotes. -/
theorem pieces_laid {items : List Text} {s : Text} (h : Laid IsQuoted items s)
    (hitems : ∀ t ∈ items, ',' ∉ t) : pieces elementSeparator s = items.map inQuotes := by
  have quoted (x : Text) (hx : ',' ∉ x) {rest : Text} {more : List Text}
      (hrest : pieces elementSeparator rest = [] :: more) :
      pieces elementSeparator (inQuotes x ++ rest) = inQuotes x :: more := by
    have hlast : (inQuotes x).rdropWhile isBlank = inQuotes x :=
      rdropWhile_append_sign (by decide) ('"' :: x) []
    have := pieces_append (by simpa [inQuotes] using hx) hlast hrest
    rwa [List.append_nil] at this
  induction h with
  | @last x t h =>
    have hnil : pieces elementSeparator [] = [[]] := by rw [pieces]
    have := quoted x (hitems x List.mem_cons_self) hnil
    rw [h]
    simpa using this
  | @cons x y more t u v r h hu hv hmore ih =>
    have ih := ih fun t ht => hitems t (List.mem_cons_of_mem _ ht)
    have hr : r.dropWhile isBlank = r := by
      obtain ⟨w, rfl⟩ := exists_laid_eq hmore
      exact List.dropWhile_cons_of_neg (by decide)
    have hcut := pieces_separator hu hv hr
    have htext : t ++ u ++ ',' :: v ++ r = inQuotes x ++ (u ++ ',' :: v ++ r) := by
      rw [h]
      simp
    rw [htext, quoted x (hitems x List.mem_cons_self) hcut, ih]
    rfl

theorem filter_inQuotes {t : Text} (ht : '"' ∉ t) : (inQuotes t).filter (· != '"') = t := by
  have : t.filter (· != '"') = t := by
    rw [List.filter_eq_self]
    intro c hc
    simp only [bne_iff_ne, ne_eq]
    rintro rfl
    exact ht hc
  simp [inQuotes, this]

/-- A row of elements is read as these elements. -/
theorem arrayElements_laid {items : List Text} {s : Text} (h : Laid IsQuoted items s)
    (hquote : ∀ t ∈ items, '"' ∉ t) (hcomma : ∀ t ∈ items, ',' ∉ t) : arrayElements s = items := by
  have hne : s ≠ [] := by
    obtain ⟨w, rfl⟩ := exists_laid_eq h
    simp
  rw [arrayElements, if_neg hne, pieces_laid h hcomma, List.map_map]
  refine (List.map_congr_left fun t ht => ?_).trans (List.map_id _)
  exact filter_inQuotes (hquote t ht)

/-! ### Reading -/

/-- A text with an array field: there may be blanks around its colon, inside its brackets and around
its commas, and no quote stands before it. Its elements make a row, and the tail is what stands from
the last quote of the row on. -/
inductive HasArray (name : Text) (items : List Text) (row tail : Text) : Text → Prop where
  /-- Blanks around the colon and inside the brackets, any text at the end. -/
  | spaced {before u v w x rest : Text} (hbefore : '"' ∉ before) (hu : IsBlankRun u)
      (hv : IsBlankRun v) (hw : IsBlankRun w) (hx : IsBlankRun x) (hrow : Laid IsQuoted items row)
      (htail : tail = '"' :: x ++ ']' :: rest) :
      HasArray name items row tail
        (before ++ inQuotes name ++ u ++ ':' :: v ++ '[' :: w ++ row ++ x ++ ']' :: rest)

section
variable {name : Text} {items : List Text} {row tail text : Text} (hname : IsSearchable name)
  (hquote : ∀ t ∈ items, '"' ∉ t) (hbracket : ∀ t ∈ items, ']' ∉ t)
  (h : HasArray name items row tail text)
include hname hquote hbracket h

/-- An array field is captured, unless a line feed stands in its row; then the search goes on at the
last quote of the row. -/
theorem findField?_array : findField? name .stringArray text =
    if '\n' ∈ row then findField? name .stringArray tail else some row := by
  obtain @⟨before, u, v, w, x, rest, hbefore, hu, hv, hw, hx, hrow, rfl⟩ := h
  have htext : before ++ inQuotes name ++ u ++ ':' :: v ++ '[' :: w ++ row ++ x ++ ']' :: rest =
      before ++ (inQuotes name ++
        (u ++ ':' :: (v ++ '[' :: (w ++ (row ++ (x ++ ']' :: rest)))))) := by
    simp
  have hcapture : FieldKind.stringArray.template.capture?
      ('[' :: (w ++ (row ++ (x ++ ']' :: rest)))) = if '\n' ∈ row then none else some row := by
    simpa using capture?_laid hrow hbracket hw hx rest
  have hclosing : afterSpaced? ':' (x ++ ']' :: rest) = none := by
    rw [hx.afterSpaced?]
    rfl
  rw [htext, findField?_append hbefore,
    findField?_named hname _ hname.quote hu hv (List.dropWhile_cons_of_neg (by decide)),
    if_pos (sameLetters_self name), hcapture, findField?_cons (by decide),
    findField?_append (hw.notMem (by decide)),
    findField?_laid_close hname _ hrow hquote hclosing]
  split <;> simp

/-- **Arrays in any layout.** An array field is read as its elements whatever blanks stand around
its colon, inside its brackets and around its commas, unless one of those around a comma is a line
feed (or one stands in an element): then the search goes on behind the array as if the message did
not have it. -/
theorem readStringArray_layout (hcomma : ∀ t ∈ items, ',' ∉ t) :
    findStringArray? name text =
        (if '\n' ∈ row then findStringArray? name tail else some items) ∧
      readStringArray name text = if '\n' ∈ row then readStringArray name tail else items := by
  have hfind : findStringArray? name text =
      if '\n' ∈ row then findStringArray? name tail else some items := by
    rw [findStringArray?, findField?_array hname hquote hbracket h, findStringArray?]
    by_cases hline : '\n' ∈ row
    · rw [if_pos hline, if_pos hline]
    · rw [if_neg hline, if_neg hline, Option.map_some, arrayElements_laid _ hquote hcomma]
      obtain ⟨-, -, -, -, -, hrow, -⟩ := h
      exact hrow
  refine ⟨hfind, ?_⟩
  rw [readStringArray, hfind, readStringArray]
  split <;> rfl

end

/-- Line feeds behind the colon and inside the brackets do no harm. -/
theorem readStringArray_blanks :
    let text := "\x7b\"subs\"\t:\n[\n\"a\" ,\t\"b\"\r\n], \"n\": [1]\x7d".toList
    findStringArray? "subs".toList text = some [['a'], ['b']] ∧
      readStringArray "subs".toList text = [['a'], ['b']] := by
  intro text
  have hrow : Laid IsQuoted [['a'], ['b']] "\"a\" ,\t\"b\"".toList :=
    @Laid.cons _ _ ['a'] ['b'] [] (inQuotes ['a']) [' '] ['\t'] (inQuotes ['b']) rfl
      (by decide) (by decide) (.last rfl)
  have h : HasArray "subs".toList [['a'], ['b']] "\"a\" ,\t\"b\"".toList
      "\"\r\n], \"n\": [1]\x7d".toList text :=
    @HasArray.spaced _ _ _ _ ['\x7b'] ['\t'] ['\n'] ['\n'] ['\r', '\n']
      ", \"n\": [1]\x7d".toList (by decide) (by decide) (by decide) (by decide) (by decide) hrow rfl
  have := readStringArray_layout ⟨by decide, by decide, by decide⟩ (by decide) (by decide) h
    (by decide)
  rwa [if_neg (by decide), if_neg (by decide)] at this

/-- A line feed behind a comma hides the array, although nothing but blanks is added. -/
theorem readStringArray_line_feed :
    let text := "\x7b\"subs\": [\n  \"a\",\n  \"b\"\n]\x7d".toList
    HasArray "subs".toList [['a'], ['b']] "\"a\",\n  \"b\"".toList "\"\n]\x7d".toList text ∧
      findStringArray? "subs".toList text = none ∧ readStringArray "subs".toList text = [] := by
  intro text
  have hrow : Laid IsQuoted [['a'], ['b']] "\"a\",\n  \"b\"".toList :=
    @Laid.cons _ _ ['a'] ['b'] [] (inQuotes ['a']) [] ['\n', ' ', ' '] (inQuotes ['b']) rfl
      (by decide) (by decide) (.last rfl)
  refine ⟨?_, by decide +kernel, by decide +kernel⟩
  exact @HasArray.spaced _ _ _ _ ['\x7b'] [] [' '] ['\n', ' ', ' '] ['\n'] ['\x7d'] (by decide)
    (by decide) (by decide) (by decide) (by decide) hrow rfl

end FlatJson
