import FlatJson.Proofs.Composition
import FlatJson.Proofs.Scan
import Mathlib.Data.List.DropRight

/-!
# Layouts

A message need not be written without blanks: there may be a run of them around every brace,
bracket, colon, comma and value. A layout says what the text of a value is, up to these runs.

* `Laid` is a row of things with commas between them, `Enclosed` such a row between two brackets.
* `Content.Layout`, `Field.Layout` and `IsRendering` are the layouts of values, fields and flat
  objects.
* `stripped` is a text without the blanks at its two ends.
* `EndsValue` and `EndsLaid` say what may follow a value.
* `findField?_named`: what a search finds at a name, a colon and a value.
* `findField?_laid`: no field begins in the quoted texts of a row.
-/

namespace FlatJson

/-! ### Runs of blanks -/

/-- All characters are blank. -/
def IsBlankRun (u : Text) : Prop := ∀ c ∈ u, isBlank c = true

instance : DecidablePred IsBlankRun := fun _ => decidable_of_iff _ List.all_eq_true

theorem isBlankRun_nil : IsBlankRun [] := by simp [IsBlankRun]

theorem isBlankRun_space : IsBlankRun [' '] := by decide

namespace IsBlankRun

variable {u : Text} (h : IsBlankRun u)
include h

theorem notMem {c : Char} (hc : isBlank c = false) : c ∉ u := by
  intro hmem
  rw [h c hmem] at hc
  contradiction

theorem dropWhile (t : Text) : (u ++ t).dropWhile isBlank = t.dropWhile isBlank :=
  List.dropWhile_append_of_pos h

theorem afterSpaced? (mark : Char) (t : Text) :
    FlatJson.afterSpaced? mark (u ++ t) = FlatJson.afterSpaced? mark t := by
  rw [FlatJson.afterSpaced?, FlatJson.afterSpaced?, h.dropWhile]

/-- A mark is found behind blanks, and the blanks behind it are passed over. -/
theorem afterSpaced?_mark {mark : Char} (hmark : isBlank mark = false) (t : Text) :
    FlatJson.afterSpaced? mark (u ++ mark :: t) = some (t.dropWhile isBlank) := by
  rw [h.afterSpaced?, FlatJson.afterSpaced?, List.dropWhile_cons_of_neg (by simp [hmark]),
    afterSign?, if_pos rfl, Option.map_some]

end IsBlankRun

/-! ### Blanks at the ends of a text -/

/-- A text without the blanks at its two ends. -/
def stripped (t : Text) : Text := (t.dropWhile isBlank).rdropWhile isBlank

/-- The blanks at the beginning of a text end before a character that is not blank. -/
theorem dropWhile_append_sign {c : Char} (hc : isBlank c = false) (w rest : Text) :
    (w ++ c :: rest).dropWhile isBlank = w.dropWhile isBlank ++ c :: rest := by
  rw [List.dropWhile_append, List.dropWhile_cons_of_neg (by simp [hc])]
  split
  · rename_i h
    rw [List.isEmpty_iff.1 h, List.nil_append]
  · rfl

/-- The blanks at the end of a text begin behind a character that is not blank. -/
theorem rdropWhile_append_sign {c : Char} (hc : isBlank c = false) (w rest : Text) :
    (w ++ c :: rest).rdropWhile isBlank = w ++ c :: rest.rdropWhile isBlank := by
  have hreverse : (w ++ c :: rest).reverse = rest.reverse ++ c :: w.reverse := by simp
  rw [List.rdropWhile, hreverse, dropWhile_append_sign hc, List.rdropWhile]
  simp

theorem IsBlankRun.rdropWhile {u : Text} (h : IsBlankRun u) : u.rdropWhile isBlank = [] :=
  List.rdropWhile_eq_nil_iff.2 h

/-- A text that is not blank has a first character that is not. -/
theorem exists_of_not_isBlankRun {t : Text} (h : ¬IsBlankRun t) :
    ∃ u c v, t = u ++ c :: v ∧ IsBlankRun u ∧ isBlank c = false := by
  induction t with
  | nil => exact absurd isBlankRun_nil h
  | cons d t ih =>
    by_cases hd : isBlank d = true
    · have ht : ¬IsBlankRun t := fun ht => h (List.forall_mem_cons.2 ⟨hd, ht⟩)
      obtain ⟨u, c, v, rfl, hu, hc⟩ := ih ht
      exact ⟨d :: u, c, v, rfl, List.forall_mem_cons.2 ⟨hd, hu⟩, hc⟩
    · exact ⟨[], d, t, rfl, isBlankRun_nil, by simpa using hd⟩

theorem rdropWhile_cons {c : Char} {w : Text} (h : ¬IsBlankRun (c :: w)) :
    (c :: w).rdropWhile isBlank = c :: w.rdropWhile isBlank := by
  obtain ⟨u, d, v, heq, -, hd⟩ := exists_of_not_isBlankRun h
  cases u with
  | nil =>
    obtain ⟨rfl, rfl⟩ := List.cons.inj heq
    exact rdropWhile_append_sign hd [] w
  | cons e u =>
    obtain ⟨rfl, rfl⟩ : c = e ∧ w = u ++ d :: v := List.cons.inj heq
    rw [rdropWhile_append_sign hd, ← List.cons_append, rdropWhile_append_sign hd, List.cons_append]

/-- It does not matter which end is stripped first. -/
theorem stripped_eq (t : Text) : stripped t = (t.rdropWhile isBlank).dropWhile isBlank := by
  by_cases h : IsBlankRun t
  · rw [stripped, h.rdropWhile, List.dropWhile_eq_nil_iff.2 h]
    rfl
  · obtain ⟨u, c, v, rfl, hu, hc⟩ := exists_of_not_isBlankRun h
    rw [stripped, dropWhile_append_sign hc, rdropWhile_append_sign hc, rdropWhile_append_sign hc,
      dropWhile_append_sign hc]

theorem stripped_idempotent (t : Text) : stripped (stripped t) = stripped t := by
  rw [stripped_eq (stripped t), stripped, List.rdropWhile_idempotent, ← stripped, stripped_eq,
    List.dropWhile_idempotent]

theorem stripped_sublist (t : Text) : (stripped t).Sublist t :=
  (List.rdropWhile_prefix isBlank _).sublist.trans (List.dropWhile_sublist isBlank)

theorem afterSign?_of_notMem {sign : Char} {t : Text} (h : sign ∉ t) :
    afterSign? sign (t.dropWhile isBlank) = none := by
  rw [Option.eq_none_iff_forall_ne_some]
  intro rest hrest
  have hmem : sign ∈ t.dropWhile isBlank := by
    rw [afterSign?_eq_some_iff.1 hrest]
    exact List.mem_cons_self
  exact h ((List.dropWhile_sublist isBlank).subset hmem)

/-- A sign is not what comes first behind the blanks of a text that has other characters before
it. -/
theorem afterSign?_append {sign : Char} {w : Text} (hblank : ¬IsBlankRun w) (hw : sign ∉ w)
    (rest : Text) : afterSign? sign ((w ++ rest).dropWhile isBlank) = none := by
  obtain ⟨u, c, v, rfl, hu, hc⟩ := exists_of_not_isBlankRun hblank
  have htext : u ++ c :: v ++ rest = u ++ (c :: (v ++ rest)) := by simp
  rw [htext, hu.dropWhile, List.dropWhile_cons_of_neg (by simp [hc]), afterSign?_of_ne]
  rintro rfl
  simp at hw

/-! ### Rows -/

section
variable {α : Type} (layout : α → Text → Prop)

/-- Things laid out in a row: a comma stands between one and the next, with blanks around it. -/
inductive Laid : List α → Text → Prop where
  /-- The last thing of the row. -/
  | last {x : α} {t : Text} (h : layout x t) : Laid [x] t
  /-- A thing before others. -/
  | cons {x y : α} {more : List α} {t u v r : Text} (h : layout x t) (hu : IsBlankRun u)
      (hv : IsBlankRun v) (hmore : Laid (y :: more) r) :
      Laid (x :: y :: more) (t ++ u ++ ',' :: v ++ r)

/-- A row between an opening and a closing sign, with blanks at both ends. -/
inductive Enclosed (opening closing : Char) : List α → Text → Prop where
  /-- Nothing but blanks between the signs. -/
  | empty {u : Text} (hu : IsBlankRun u) :
      Enclosed opening closing [] (opening :: u ++ [closing])
  /-- A row that is not empty. -/
  | row {items : List α} {u t v : Text} (hu : IsBlankRun u) (h : Laid layout items t)
      (hv : IsBlankRun v) : Enclosed opening closing items (opening :: u ++ t ++ v ++ [closing])

end

/-- A text in quotes has no layout but itself. -/
def IsQuoted (t s : Text) : Prop := s = inQuotes t

/-- The text of a value up to blanks. -/
inductive Content.Layout : Content → Text → Prop where
  /-- A text in quotes. -/
  | string (t : Text) : Layout (.string t) (inQuotes t)
  /-- One of the two words. -/
  | boolean (b : Bool) : Layout (.boolean b) (truthWord b)
  /-- A numeral. -/
  | integer (n : Nat) : Layout (.integer n) (decimal n)
  /-- Texts in quotes, between brackets. -/
  | array {items : List Text} {s : Text} (h : Enclosed IsQuoted '[' ']' items s) :
      Layout (.array items) s

/-- The text of a field up to blanks: its name in quotes, a colon and its value. -/
inductive Field.Layout : Field → Text → Prop where
  /-- A field with blanks around the colon. -/
  | spaced {f : Field} {u v s : Text} (hu : IsBlankRun u) (hv : IsBlankRun v)
      (h : f.content.Layout s) : Layout f (inQuotes f.name ++ u ++ ':' :: v ++ s)

/-- The text of a flat object up to blanks, which may also stand before and behind it. -/
inductive IsRendering : List Field → Text → Prop where
  /-- Fields between braces. -/
  | spaced {fields : List Field} {u v s : Text} (hu : IsBlankRun u) (hv : IsBlankRun v)
      (h : Enclosed Field.Layout '\x7b' '\x7d' fields s) : IsRendering fields (u ++ s ++ v)

/-! ### What may follow a value -/

theorem barred_nil : Barred [] := by
  intro u v h
  simp at h

/-- A comma or a colon bars all that follows. -/
theorem barred_mark {c : Char} (hc : c = ',' ∨ c = ':') (t : Text) : Barred (c :: t) := by
  intro u v h
  cases u with
  | nil =>
    obtain ⟨rfl, -⟩ := List.cons.inj h
    simp at hc
  | cons d u =>
    obtain ⟨rfl, -⟩ := List.cons.inj h
    rcases hc with rfl | rfl <;> simp

theorem Barred.cons {c : Char} (hc : c ≠ '"') {t : Text} (h : Barred t) : Barred (c :: t) := by
  intro u v heq
  cases u with
  | nil => exact absurd (List.cons.inj heq).1 hc
  | cons d u =>
    rcases h u v (List.cons.inj heq).2 with hd | hd
    · exact .inl (List.mem_cons_of_mem _ hd)
    · exact .inr (List.mem_cons_of_mem _ hd)

/-- Blanks before a barred text do not let a name through. -/
theorem IsBlankRun.barred {u t : Text} (hu : IsBlankRun u) (h : Barred t) : Barred (u ++ t) := by
  have hquote := hu.notMem (c := '"') (by decide)
  clear hu
  induction u with
  | nil => exact h
  | cons c u ih =>
    simp only [List.mem_cons, not_or] at hquote
    exact (ih hquote.2).cons (Ne.symm hquote.1)

/-- What may follow a value: a sign that ends it, and then no quote that a name could reach. -/
structure EndsValue (t : Text) : Prop where
  /-- The text begins with a comma or a closing sign. -/
  head : ∃ c ∈ [',', ']', '\x7d'], ∃ more, t = c :: more
  /-- No name reaches from the beginning of the text to a quote. -/
  barred : Barred t

theorem endsValue_comma (t : Text) : EndsValue (',' :: t) :=
  ⟨⟨',', by simp, t, rfl⟩, barred_mark (.inl rfl) t⟩

theorem endsValue_closing {c : Char} (hc : c = ']' ∨ c = '\x7d') {t : Text} (h : Barred t) :
    EndsValue (c :: t) := by
  refine ⟨⟨c, ?_, t, rfl⟩, h.cons ?_⟩
  · rcases hc with rfl | rfl <;> simp
  · rcases hc with rfl | rfl <;> decide

/-- A string before such a text is not the name of a field. -/
theorem EndsValue.afterSpaced? {t : Text} (h : EndsValue t) : afterSpaced? ':' t = none := by
  obtain ⟨c, hc, more, rfl⟩ := h.head
  have hplain : isBlank c = false ∧ c ≠ ':' := by
    simp only [List.mem_cons, List.not_mem_nil, or_false] at hc
    rcases hc with rfl | rfl | rfl <;> decide
  obtain ⟨hblank, hne⟩ := hplain
  rw [FlatJson.afterSpaced?, List.dropWhile_cons_of_neg (by simp [hblank]), afterSign?_of_ne hne,
    Option.map_none]

/-- A row of digits ends before such a text. -/
theorem EndsValue.takeWhile {t : Text} (h : EndsValue t) : t.takeWhile isDigit = [] := by
  obtain ⟨c, hc, more, rfl⟩ := h.head
  have hdigit : isDigit c = false := by
    simp only [List.mem_cons, List.not_mem_nil, or_false] at hc
    rcases hc with rfl | rfl | rfl <;> decide
  exact List.takeWhile_cons_of_neg (by simp [hdigit])

/-- Blanks, and then what may follow a value. -/
inductive EndsLaid : Text → Prop where
  /-- A run of blanks before such a text. -/
  | spaced {u t : Text} (hu : IsBlankRun u) (h : EndsValue t) : EndsLaid (u ++ t)

theorem EndsValue.laid {t : Text} (h : EndsValue t) : EndsLaid t := .spaced isBlankRun_nil h

namespace EndsLaid

variable {t : Text} (h : EndsLaid t)
include h

theorem afterSpaced? : FlatJson.afterSpaced? ':' t = none := by
  obtain ⟨hu, h⟩ := h
  rw [hu.afterSpaced?, h.afterSpaced?]

theorem takeWhile : t.takeWhile isDigit = [] := by
  obtain @⟨u, t, hu, h⟩ := h
  cases u with
  | nil => exact h.takeWhile
  | cons c u => exact List.takeWhile_cons_of_neg (by simp [isDigit_blank (hu c (by simp))])

theorem barred : Barred t := by
  obtain ⟨hu, h⟩ := h
  exact hu.barred h.barred

end EndsLaid

/-! ### Searching -/

section
variable {name : Text} (hname : IsSearchable name) (k : FieldKind)
include hname

/-- At a name with a colon and a value behind it a field is found, or else the search goes on at the
value. -/
theorem findField?_named {x u v value : Text} (hx : '"' ∉ x) (hu : IsBlankRun u)
    (hv : IsBlankRun v) (hvalue : value.dropWhile isBlank = value) :
    findField? name k (inQuotes x ++ (u ++ ':' :: (v ++ value))) =
      (if sameLetters name x then k.template.capture? value else none).or
        (findField? name k value) := by
  have hcolon : Barred (u ++ ':' :: (v ++ value)) := hu.barred (barred_mark (.inr rfl) _)
  rw [findField?_quoted hname hx hcolon, hu.afterSpaced?_mark (by decide), hv.dropWhile, hvalue,
    Option.bind_some, findField?_append (hu.notMem (by decide)), findField?_cons (by decide),
    findField?_append (hv.notMem (by decide))]

/-- A text in quotes that is not a name is passed over up to its closing quote. -/
theorem findField?_inQuotes {x rest : Text} (hx : '"' ∉ x)
    (hrest : FlatJson.afterSpaced? ':' rest = none) :
    findField? name k (inQuotes x ++ rest) = findField? name k ('"' :: rest) := by
  rw [findField?_quoted_close hname hx, hrest, Option.bind_none, ite_self, Option.none_or]

/-- No field begins in a string that is a value. -/
theorem findField?_string {x rest : Text} (hx : '"' ∉ x) (hrest : EndsLaid rest) :
    findField? name k (inQuotes x ++ rest) = findField? name k rest := by
  rw [findField?_inQuotes hname k hx hrest.afterSpaced?, findField?_close hname hrest.barred]

/-- No field begins before the last quote of a row of texts. -/
theorem findField?_laid_close {items : List Text} {s rest : Text} (h : Laid IsQuoted items s)
    (hitems : ∀ t ∈ items, '"' ∉ t) (hrest : FlatJson.afterSpaced? ':' rest = none) :
    findField? name k (s ++ rest) = findField? name k ('"' :: rest) := by
  induction h with
  | last h =>
    rw [h]
    exact findField?_inQuotes hname k (hitems _ List.mem_cons_self) hrest
  | @cons x y more t u v r h hu hv hmore ih =>
    have htext : t ++ u ++ ',' :: v ++ r ++ rest =
        inQuotes x ++ (u ++ ',' :: (v ++ (r ++ rest))) := by
      rw [h]
      simp
    rw [htext, findField?_string hname k (hitems x List.mem_cons_self)
        (.spaced hu (endsValue_comma _)),
      findField?_append (hu.notMem (by decide)), findField?_cons (by decide),
      findField?_append (hv.notMem (by decide)),
      ih fun t ht => hitems t (List.mem_cons_of_mem _ ht)]

/-- No field begins in a row of texts. -/
theorem findField?_laid {items : List Text} {s rest : Text} (h : Laid IsQuoted items s)
    (hitems : ∀ t ∈ items, '"' ∉ t) (hrest : EndsLaid rest) :
    findField? name k (s ++ rest) = findField? name k rest := by
  rw [findField?_laid_close hname k h hitems hrest.afterSpaced?,
    findField?_close hname hrest.barred]

end

end FlatJson
