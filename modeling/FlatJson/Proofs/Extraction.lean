import FlatJson.Object
import FlatJson.Proofs.Composition
import FlatJson.Proofs.Numeral

/-!
# Extracting a message that has been written

The balanced scan counts the braces outside of quoted strings. A text is *transparent* if the scan
comes out of it as it went in, whatever the number of open objects and whatever follows; the members
of a message are transparent, since their braces come in pairs and their strings end where they
should.

* `IsStringBody` is what stands between the quotes of a string; `IsStringBody.transparent`: the scan
  passes over a string.
* `transparent_rowText`: a row of members is transparent.
* `fromFirst?_eq_of_first`: the search for a name stops at its first occurrence.
* `extract_closed`: the balanced scan extracts a closed message as it was written, and the other
  scan extracts it up to its first closing brace.
-/

namespace FlatJson

/-! ### Transparent texts -/

/-- The balanced scan passes over the text and goes on with as many open objects as before. -/
def Transparent (u : Text) : Prop :=
  ∀ nested rest, balancedSpan? .outside nested (u ++ rest) =
    (balancedSpan? .outside nested rest).map (u ++ ·)

/-- A character that means nothing to the balanced scan outside of quoted strings. -/
def IsPlain (c : Char) : Prop := c ≠ '"' ∧ c ≠ '\x7b' ∧ c ≠ '\x7d'

instance (c : Char) : Decidable (IsPlain c) :=
  inferInstanceAs (Decidable (c ≠ '"' ∧ c ≠ '\x7b' ∧ c ≠ '\x7d'))

theorem balancedSpan?_outside (nested : Nat) (c : Char) (rest : Text) :
    balancedSpan? .outside nested (c :: rest) =
      if c = '"' then (balancedSpan? .quoted nested rest).map (c :: ·)
      else if c = '\x7b' then (balancedSpan? .outside (nested + 1) rest).map (c :: ·)
      else if c = '\x7d' then
        match nested with
        | 0 => some [c]
        | n + 1 => (balancedSpan? .outside n rest).map (c :: ·)
      else (balancedSpan? .outside nested rest).map (c :: ·) := by
  cases nested <;> rfl

theorem transparent_nil : Transparent [] := by
  intro nested rest
  simp

theorem Transparent.append {u v : Text} (hu : Transparent u) (hv : Transparent v) :
    Transparent (u ++ v) := by
  intro nested rest
  rw [List.append_assoc, hu, hv, Option.map_map]
  congr 1
  funext t
  simp

theorem Transparent.cons {c : Char} (hc : IsPlain c) {u : Text} (hu : Transparent u) :
    Transparent (c :: u) := by
  intro nested rest
  obtain ⟨hquote, hopen, hclose⟩ := hc
  rw [List.cons_append, balancedSpan?_outside, if_neg hquote, if_neg hopen, if_neg hclose, hu,
    Option.map_map]
  rfl

theorem transparent_of_plain {u : Text} (h : ∀ c ∈ u, IsPlain c) : Transparent u := by
  induction u with
  | nil => exact transparent_nil
  | cons c u ih =>
    exact (ih fun d hd => h d (List.mem_cons_of_mem _ hd)).cons (h c List.mem_cons_self)

/-- The characters between the quotes of a string. A backslash goes with the character behind
it. -/
inductive IsStringBody : Text → Prop where
  | nil : IsStringBody []
  | char {c : Char} {t : Text} (hquote : c ≠ '"') (hslash : c ≠ '\\') (h : IsStringBody t) :
      IsStringBody (c :: t)
  | escape {c : Char} {t : Text} (h : IsStringBody t) : IsStringBody ('\\' :: c :: t)

/-- Inside of a quoted string only its end counts. -/
theorem IsStringBody.balancedSpan? {t : Text} (h : IsStringBody t) (nested : Nat) (rest : Text) :
    FlatJson.balancedSpan? .quoted nested (t ++ '"' :: rest) =
      (FlatJson.balancedSpan? .outside nested rest).map (t ++ '"' :: ·) := by
  induction h with
  | nil => rfl
  | char hquote hslash _ ih =>
    rw [List.cons_append, FlatJson.balancedSpan?, if_neg hslash, if_neg hquote, ih, Option.map_map]
    rfl
  | escape _ ih =>
    rw [List.cons_append, List.cons_append, FlatJson.balancedSpan?, if_pos rfl,
      FlatJson.balancedSpan?, ih, Option.map_map, Option.map_map]
    rfl

theorem IsStringBody.transparent {t : Text} (h : IsStringBody t) : Transparent (inQuotes t) := by
  intro nested rest
  have htext : inQuotes t ++ rest = '"' :: (t ++ '"' :: rest) := by simp [inQuotes]
  rw [htext, balancedSpan?_outside, if_pos rfl, h.balancedSpan?, Option.map_map]
  congr 1
  funext s
  simp [inQuotes]

theorem isStringBody_of_unescaped {t : Text} (hquote : '"' ∉ t) (hslash : '\\' ∉ t) :
    IsStringBody t := by
  induction t with
  | nil => exact .nil
  | cons c t ih =>
    simp only [List.mem_cons, not_or] at hquote hslash
    exact .char (Ne.symm hquote.1) (Ne.symm hslash.1) (ih hquote.2 hslash.2)

theorem transparent_inQuotes {t : Text} (hquote : '"' ∉ t) (hslash : '\\' ∉ t) :
    Transparent (inQuotes t) :=
  (isStringBody_of_unescaped hquote hslash).transparent

/-- A pair of braces around a transparent text is transparent. -/
theorem Transparent.braces {u : Text} (hu : Transparent u) :
    Transparent ('\x7b' :: u ++ ['\x7d']) := by
  intro nested rest
  have htext : '\x7b' :: u ++ ['\x7d'] ++ rest = '\x7b' :: (u ++ '\x7d' :: rest) := by simp
  have hclose : balancedSpan? .outside (nested + 1) ('\x7d' :: rest) =
      (balancedSpan? .outside nested rest).map ('\x7d' :: ·) := rfl
  rw [htext, balancedSpan?_outside, if_neg (by decide), if_pos rfl, hu, hclose, Option.map_map,
    Option.map_map]
  congr 1
  funext s
  simp

/-! ### Members are transparent -/

/-- The texts have no quote and no backslash. -/
def AreUnescaped (texts : List Text) : Prop := ∀ t ∈ texts, '"' ∉ t ∧ '\\' ∉ t

theorem isPlain_digitChar {d : Nat} (h : d < 10) : IsPlain (digitChar d) := by
  have table : ∀ d < 10, IsPlain (digitChar d) := by decide
  exact table d h

theorem transparent_decimal (n : Nat) : Transparent (decimal n) := by
  refine transparent_of_plain fun c hc => ?_
  obtain ⟨d, hd, rfl⟩ := exists_of_mem_decimal hc
  exact isPlain_digitChar hd

theorem transparent_items {items : List Text} (h : AreUnescaped items) :
    Transparent ([','].intercalate (items.map inQuotes)) := by
  induction items with
  | nil => exact transparent_nil
  | cons x items ih =>
    have hx := h x List.mem_cons_self
    have ih := ih fun t ht => h t (List.mem_cons_of_mem _ ht)
    cases items with
    | nil => simpa using transparent_inQuotes hx.1 hx.2
    | cons y items =>
      rw [intercalate_items]
      exact (transparent_inQuotes hx.1 hx.2).append (ih.cons (by decide))

theorem Content.transparent_text {c : Content} (h : AreUnescaped c.strings) :
    Transparent c.text := by
  cases c with
  | string t =>
    have ht := h t (by simp [strings])
    exact transparent_inQuotes ht.1 ht.2
  | boolean b =>
    have table : (Content.boolean b).text.all (fun c => decide (IsPlain c)) = true := by
      cases b <;> decide
    exact transparent_of_plain fun c hc => of_decide_eq_true (List.all_eq_true.1 table c hc)
  | integer n => exact transparent_decimal n
  | duration d =>
    simp only [text, signedDecimal]
    split
    · exact (transparent_decimal _).cons (by decide)
    · exact transparent_decimal _
  | array items =>
    have hclose : Transparent [']'] := transparent_nil.cons (by decide)
    exact ((transparent_items h).append hclose).cons (by decide)
  | timestamp clock =>
    exact transparent_inQuotes (notMem_render (by decide) clock) (notMem_render (by decide) clock)

mutual

theorem Member.transparent_text : ∀ {x : Member}, AreUnescaped x.texts → Transparent x.text
  | .field f, h => by
    have hname := h f.name List.mem_cons_self
    have hcontent := Content.transparent_text fun t ht => h t (List.mem_cons_of_mem _ ht)
    refine (transparent_inQuotes hname.1 hname.2).append ?_
    exact (hcontent.cons (by decide)).cons (by decide)
  | .object name members, h => by
    have hname := h name List.mem_cons_self
    have hrow := transparent_rowText fun t ht => h t (List.mem_cons_of_mem _ ht)
    rw [Member.text, List.append_assoc]
    refine (transparent_inQuotes hname.1 hname.2).append ?_
    exact (hrow.braces.cons (by decide)).cons (by decide)

/-- The scan passes over a row of members. -/
theorem transparent_rowText : ∀ {members : List Member}, AreUnescaped (textsOf members) →
    Transparent (rowText members)
  | [], _ => transparent_nil
  | [x], h => Member.transparent_text (x := x) fun t ht => h t (List.mem_append_left _ ht)
  | x :: y :: more, h => by
    have hx := Member.transparent_text (x := x) fun t ht => h t (List.mem_append_left _ ht)
    have hmore : Transparent (rowText (y :: more)) :=
      transparent_rowText fun t ht => h t (List.mem_append_right _ ht)
    exact hx.append (hmore.cons (by decide))

end

/-! ### The first occurrence of a name -/

/-- The search stops behind a text if the word does not occur any earlier. -/
theorem fromFirst?_eq_of_first {word before after : Text}
    (h : ∀ q r, before ++ (word ++ after) = q ++ (word ++ r) → before.length ≤ q.length) :
    fromFirst? word (before ++ (word ++ after)) = some (word ++ after) := by
  induction before with
  | nil =>
    have hstarts : startsWith word (word ++ after) = true := startsWith_iff.2 ⟨after, rfl⟩
    rw [List.nil_append]
    cases hw : word ++ after with
    | nil => rw [fromFirst?, ← hw, hstarts, if_pos rfl]
    | cons c rest => rw [fromFirst?, ← hw, hstarts, if_pos rfl]
  | cons c before ih =>
    have hstarts : ¬ startsWith word (c :: (before ++ (word ++ after))) = true := by
      intro hs
      obtain ⟨r, hr⟩ := startsWith_iff.1 hs
      -- that would be an occurrence at the very beginning
      have := h [] r hr
      simp at this
    rw [List.cons_append, fromFirst?, if_neg hstarts]
    refine ih fun q r hq => ?_
    have := h (c :: q) r (by rw [List.cons_append, hq, List.cons_append])
    simpa using this

theorem dropWhile_brace {u : Text} (hu : '\x7b' ∉ u) (rest : Text) :
    (u ++ '\x7b' :: rest).dropWhile (· != '\x7b') = '\x7b' :: rest := by
  rw [List.dropWhile_append_of_pos]
  · exact List.dropWhile_cons_of_neg (by simp)
  · intro c hc
    simp only [bne_iff_ne, ne_eq]
    rintro rfl
    exact hu hc

/-- A text in which a named object stands between other texts. -/
def surrounded (before name object after : Text) : Text :=
  before ++ inQuotes name ++ ':' :: ' ' :: object ++ after

/-- The name does not occur in the text before its place behind the quote. -/
def OccursFirstAt (name text : Text) (place : Nat) : Prop :=
  ∀ q r, text = q ++ name ++ r → place ≤ q.length

/-- An object is looked for in what follows its opening brace. -/
theorem extractObject_surrounded (scan : ObjectScan) {before name inner after object : Text}
    (hname : '\x7b' ∉ name) (hfirst : OccursFirstAt name
      (surrounded before name ('\x7b' :: inner) after) (before.length + 1))
    (hspan : scan.span? (inner ++ after) = some object) :
    extractObject scan name (surrounded before name ('\x7b' :: inner) after) =
      .ok ('\x7b' :: object) := by
  have htext : surrounded before name ('\x7b' :: inner) after =
      (before ++ ['"']) ++ (name ++ ('"' :: ':' :: ' ' :: '\x7b' :: (inner ++ after))) := by
    simp [surrounded, inQuotes]
  have hfound : fromFirst? name (surrounded before name ('\x7b' :: inner) after) =
      some (name ++ '"' :: ':' :: ' ' :: '\x7b' :: (inner ++ after)) := by
    rw [htext] at hfirst ⊢
    refine fromFirst?_eq_of_first fun q r hq => ?_
    simpa using hfirst q r (by rw [hq, List.append_assoc])
  have hbrace : (name ++ '"' :: ':' :: ' ' :: '\x7b' :: (inner ++ after)).dropWhile
      (· != '\x7b') = '\x7b' :: (inner ++ after) := by
    have hmarks : '\x7b' ∉ name ++ ['"', ':', ' '] := by simp [hname]
    simpa using dropWhile_brace hmarks (inner ++ after)
  rw [extractObject, hfound]
  simp only [hbrace, hspan]

/-! ### The first closing brace -/

theorem firstBraceSpan?_append {u : Text} (hu : '\x7d' ∉ u) (rest : Text) :
    firstBraceSpan? (u ++ '\x7d' :: rest) = some (u ++ ['\x7d']) := by
  induction u with
  | nil => rfl
  | cons c u ih =>
    simp only [List.mem_cons, not_or] at hu
    rw [List.cons_append, firstBraceSpan?, if_neg (Ne.symm hu.1), ih hu.2]
    rfl

theorem brace_mem_inQuotes {t : Text} : '\x7d' ∈ inQuotes t ↔ '\x7d' ∈ t := by
  simp [inQuotes]

theorem brace_notMem_decimal (n : Nat) : '\x7d' ∉ decimal n := by
  intro h
  obtain ⟨d, hd, heq⟩ := exists_of_mem_decimal h
  exact (isPlain_digitChar hd).2.2 heq.symm

/-- A value has a closing brace only in the texts that a caller has chosen. -/
theorem Content.brace_mem_text {c : Content} :
    '\x7d' ∈ c.text ↔ ∃ t ∈ c.strings, '\x7d' ∈ t := by
  cases c with
  | string t => simp [text, strings, brace_mem_inQuotes]
  | boolean b => cases b <;> simp [text, strings, truthWord]
  | integer n => simp [text, strings, brace_notMem_decimal]
  | duration d =>
    simp only [text, strings, signedDecimal]
    split <;> simp [brace_notMem_decimal]
  | array items => simp [text, strings, mem_items (c := '\x7d') (by decide)]
  | timestamp clock =>
    have := notMem_render (c := '\x7d') (by decide) clock
    simp only [text, strings, brace_mem_inQuotes, this]
    simp

theorem Member.brace_mem_text {x : Member} :
    '\x7d' ∉ x.text ↔ (∃ f, x = .field f) ∧ ∀ t ∈ x.texts, '\x7d' ∉ t := by
  cases x with
  | field f => simp [text, texts, Field.text, brace_mem_inQuotes, Content.brace_mem_text]
  | object name members => simp [text]

/-- A row of members has no closing brace if there is no nested object and none of the texts has
one. -/
theorem brace_mem_rowText {members : List Member} :
    '\x7d' ∉ rowText members ↔
      (∀ x ∈ members, ∃ f, x = .field f) ∧ ∀ t ∈ textsOf members, '\x7d' ∉ t := by
  induction members with
  | nil => simp [rowText, textsOf]
  | cons x more ih =>
    cases more with
    | nil => simp [rowText, textsOf, Member.brace_mem_text]
    | cons y more =>
      have hrow : rowText (x :: y :: more) = x.text ++ ',' :: rowText (y :: more) := rfl
      have htexts : textsOf (x :: y :: more) = x.texts ++ textsOf (y :: more) := rfl
      have hsplit : '\x7d' ∉ rowText (x :: y :: more) ↔
          '\x7d' ∉ x.text ∧ '\x7d' ∉ rowText (y :: more) := by
        rw [hrow]
        simp
      rw [hsplit, ih, Member.brace_mem_text, htexts]
      simp only [List.forall_mem_cons, List.forall_mem_append]
      grind

/-- **Extracting a message that has been written.** Whatever comes before and behind, if a name
stands for the first time before a closed message, then the balanced scan extracts the message as it
was written. The other scan extracts it up to its first closing brace, and that is all of it just
when it has no nested object and no text in it has a closing brace. -/
theorem extract_closed {entries : List Entry} {m : Message}
    (hm : writeAll .opened entries = .ok m) (htexts : AreUnescaped (textsOf (membersOf entries)))
    {before name after : Text} (hname : '\x7b' ∉ name)
    (hfirst : OccursFirstAt name (surrounded before name m.closed after) (before.length + 1)) :
    extractObject .balanced name (surrounded before name m.closed after) = .ok m.closed ∧
      (∃ u v, m.closed = u ++ '\x7d' :: v ∧ '\x7d' ∉ u ∧
        extractObject .firstBrace name (surrounded before name m.closed after) =
          .ok (u ++ ['\x7d'])) ∧
      (extractObject .firstBrace name (surrounded before name m.closed after) = .ok m.closed ↔
        (∀ x ∈ membersOf entries, ∃ f, x = .field f) ∧
          ∀ t ∈ textsOf (membersOf entries), '\x7d' ∉ t) := by
  have hclosed : m.closed = '\x7b' :: (rowText (membersOf entries) ++ ['\x7d']) :=
    closed_eq_objectText hm
  have hbalanced := transparent_rowText htexts
  rw [hclosed] at hfirst ⊢
  rw [← brace_mem_rowText]
  -- from here on any text that the balanced scan passes over will do
  generalize rowText (membersOf entries) = row at *
  obtain ⟨u, v, hrow, hu⟩ : ∃ u v, row ++ ['\x7d'] = u ++ '\x7d' :: v ∧ '\x7d' ∉ u :=
    List.eq_append_cons_of_mem (by simp)
  have hspan : firstBraceSpan? (row ++ ['\x7d'] ++ after) = some (u ++ ['\x7d']) := by
    rw [hrow, List.append_assoc, List.cons_append, firstBraceSpan?_append hu]
  have hfirstBrace := extractObject_surrounded .firstBrace hname hfirst hspan
  refine ⟨?_, ⟨'\x7b' :: u, v, by rw [hrow]; rfl, by simp [hu], hfirstBrace⟩, ?_⟩
  · refine extractObject_surrounded .balanced hname hfirst ?_
    rw [List.append_assoc]
    exact hbalanced 0 _
  · rw [hfirstBrace, Except.ok.injEq, List.cons.injEq, List.append_left_inj]
    constructor
    · rintro ⟨-, rfl⟩
      exact hu
    · intro hno
      refine ⟨rfl, ?_⟩
      have hwhole : firstBraceSpan? (row ++ ['\x7d'] ++ after) = some (row ++ ['\x7d']) := by
        rw [List.append_assoc]
        exact firstBraceSpan?_append hno after
      rw [hspan] at hwhole
      exact List.append_cancel_right (Option.some.inj hwhole)

/-- A brace in a string misleads only the scan for the first closing brace. -/
theorem extract_brace_in_string :
    extractObject .balanced ['n'] "\x7b\"n\": \x7b\"s\": \"\x7d\"\x7d\x7d".toList =
        .ok "\x7b\"s\": \"\x7d\"\x7d".toList ∧
      extractObject .firstBrace ['n'] "\x7b\"n\": \x7b\"s\": \"\x7d\"\x7d\x7d".toList ≠
        .ok "\x7b\"s\": \"\x7d\"\x7d".toList := by
  have hm : writeAll .opened [.call ⟨['s'], .text ['\x7d'], .absent⟩] =
      .ok ⟨"\x7b\"s\": \"\x7d\",".toList⟩ := by rfl
  have hfirst : OccursFirstAt ['n'] (surrounded ['\x7b'] ['n'] "\x7b\"s\": \"\x7d\"\x7d".toList
      ['\x7d']) 2 := by
    intro q r hq
    rcases q with _ | ⟨c, _ | ⟨d, q⟩⟩
    · simp [surrounded] at hq
    · simp [surrounded, inQuotes] at hq
    · simp
  obtain ⟨hbalanced, -, hwhole⟩ :=
    extract_closed hm (by unfold AreUnescaped; decide) (by decide) hfirst
  refine ⟨hbalanced, fun h => ?_⟩
  exact (hwhole.1 h).2 ['\x7d'] (by decide) (by decide)

end FlatJson
