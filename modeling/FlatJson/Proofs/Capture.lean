import FlatJson.Proofs.ArrayLayout
import FlatJson.Proofs.Numeral

/-!
# What a search finds in a written message

A search for a field goes through a message from quote to quote. Of the quotes of a message that has
been written, only those in front of a name can begin a field: the closing ones have a comma or a
colon before the next quote, and behind a string or an element there is no colon.

* `Content.captured?` is what the pattern of a kind captures of a content.
* `findField?_objectText`: a search finds the first field with a matching name of which it captures
  something, at any depth.
-/

namespace FlatJson

/-! ### Quotes in values -/

theorem quote_notMem_decimal (n : Nat) : '"' ∉ decimal n := by
  intro h
  obtain ⟨d, hd, heq⟩ := exists_of_mem_decimal h
  have table : ∀ d < 10, '"' ≠ digitChar d := by decide
  exact table d hd heq

theorem quote_notMem_signedDecimal (n : Int) : '"' ∉ signedDecimal n := by
  rw [signedDecimal]
  split <;> simp [quote_notMem_decimal]

/-! ### Passing over values -/

section
variable {name : Text} (hname : IsSearchable name) (k : FieldKind)
include hname

theorem findField?_items {items : List Text} (hitems : ∀ t ∈ items, '"' ∉ t) {rest : Text}
    (hrest : EndsLaid rest) :
    findField? name k ([','].intercalate (items.map inQuotes) ++ rest) =
      findField? name k rest := by
  by_cases hne : items = []
  · subst hne
    rfl
  · exact findField?_laid hname k (laid_items hne) hitems hrest

/-- No field begins in a value. -/
theorem findField?_content {c : Content} (hc : ∀ t ∈ c.strings, '"' ∉ t) {rest : Text}
    (hrest : EndsLaid rest) :
    findField? name k (c.text ++ rest) = findField? name k rest := by
  cases c with
  | string t => exact findField?_string hname k (hc t (by simp [Content.strings])) hrest
  | boolean b =>
    refine findField?_append ?_ name k rest
    cases b <;> simp [Content.text, truthWord]
  | integer n => exact findField?_append (quote_notMem_decimal n) name k rest
  | duration d => exact findField?_append (quote_notMem_signedDecimal _) name k rest
  | array items =>
    have htext : (Content.array items).text ++ rest =
        '[' :: ([','].intercalate (items.map inQuotes) ++ ']' :: rest) := by
      simp [Content.text]
    have hclosing : EndsLaid (']' :: rest) := (endsValue_closing (.inl rfl) hrest.barred).laid
    rw [htext, findField?_cons (by decide),
      findField?_items hname k (show ∀ t ∈ items, '"' ∉ t from hc) hclosing,
      findField?_cons (by decide)]
  | timestamp clock => exact findField?_string hname k (notMem_render (by decide) clock) hrest

end

/-! ### Captured values -/

namespace Content

/-- What the pattern of a kind captures of a content. -/
def captured? : FieldKind → Content → Option Text
  | .string, string t | .object, string t => if '\n' ∈ t then none else some t
  | .string, timestamp c | .object, timestamp c => some (c.render ++ ['Z'])
  | .number, integer n => some (decimal n)
  | .number, duration d => if d.nanos < 0 then none else some (decimal d.nanos.natAbs)
  | .boolean, boolean b => some (truthWord b)
  | .stringArray, array items => some ([','].intercalate (items.map inQuotes))
  | _, _ => none

/-- The signs with which the text of a content may begin. -/
def heads : Content → List Char
  | string _ | timestamp _ => ['"']
  | boolean _ => ['t', 'f']
  | integer _ => digitChars
  | duration _ => '-' :: digitChars
  | array _ => ['[']

/-- A content can be told by the sign with which its text begins. -/
theorem exists_text_eq_cons {p : Char → Bool} {c : Content} (h : c.heads.all p = true) :
    ∃ head more, c.text = head :: more ∧ p head = true := by
  rw [List.all_eq_true] at h
  have numeral (n : Nat) : ∃ head ∈ digitChars, ∃ more, decimal n = head :: more := by
    obtain ⟨d, hd, more, htext⟩ := exists_decimal_eq_cons n
    exact ⟨_, digitChar_mem hd, more, htext⟩
  cases c with
  | string | timestamp | array => exact ⟨_, _, rfl, h _ List.mem_cons_self⟩
  | boolean b => cases b <;> exact ⟨_, _, rfl, h _ (by simp [heads])⟩
  | integer n =>
    obtain ⟨head, hhead, more, htext⟩ := numeral n
    exact ⟨head, more, htext, h head hhead⟩
  | duration d =>
    simp only [text, signedDecimal]
    split
    · exact ⟨'-', _, rfl, h _ List.mem_cons_self⟩
    · obtain ⟨head, hhead, more, htext⟩ := numeral d.nanos.natAbs
      exact ⟨head, more, htext, h head (List.mem_cons_of_mem _ hhead)⟩

end Content

theorem lineText?_append {t rest : Text} (ht : '"' ∉ t) :
    lineText? (t ++ '"' :: rest) = if '\n' ∈ t then none else some t := by
  induction t with
  | nil => rfl
  | cons c t ih =>
    simp only [List.mem_cons, not_or] at ht
    rw [List.cons_append, lineText?, if_neg (Ne.symm ht.1), ih ht.2]
    by_cases hc : c = '\n'
    · rw [if_pos hc, if_pos (by simp [hc])]
    · rw [if_neg hc]
      by_cases hmem : '\n' ∈ t
      · simp [hmem]
      · simp [hmem, Ne.symm hc]

/-- The numeral of a number is the longest row of digits. -/
theorem digitRow?_decimal (n : Nat) {rest : Text} (h : EndsLaid rest) :
    digitRow? (decimal n ++ rest) = some (decimal n) := by
  have hdigits : ∀ c ∈ decimal n, isDigit c = true := by
    intro c hc
    obtain ⟨d, hd, rfl⟩ := exists_of_mem_decimal hc
    exact isDigit_digitChar hd
  have hne : decimal n ≠ [] := by
    obtain ⟨d, -, more, hcons⟩ := exists_decimal_eq_cons n
    simp [hcons]
  have hrow : (decimal n ++ rest).takeWhile isDigit = decimal n := by
    rw [List.takeWhile_append_of_pos hdigits, h.takeWhile, List.append_nil]
  rw [digitRow?, hrow, if_neg hne]

/-- The characters with which the text of a value of a kind may begin. -/
def FieldKind.begins : FieldKind → Char → Bool
  | boolean, c => sameLetter 't' c || sameLetter 'f' c
  | string, c | object, c => c == '"'
  | number, c => isDigit c
  | stringArray, c => c == '['

/-- A pattern captures nothing of a text that begins otherwise. -/
theorem capture?_of_not_begins {k : FieldKind} {c : Char} (hblank : isBlank c = false)
    (hc : k.begins c = false) (rest : Text) : k.template.capture? (c :: rest) = none := by
  have hskip : (c :: rest).dropWhile isBlank = c :: rest :=
    List.dropWhile_cons_of_neg (by simp [hblank])
  have hstring (hne : (c == '"') = false) :
      FieldKind.string.template.capture? (c :: rest) = none := by
    rw [capture?_string, hskip, afterSign?_of_ne (ne_of_beq_false hne), Option.bind_none]
  cases k with
  | string => exact hstring hc
  | object => exact hstring hc
  | number =>
    have hdigit : isDigit c = false := hc
    rw [capture?_number, hskip, digitRow?, List.takeWhile_cons_of_neg (by simp [hdigit]),
      if_pos rfl]
  | stringArray =>
    rw [capture?_stringArray, afterSign?_of_ne (ne_of_beq_false hc), Option.bind_none]
  | boolean =>
    rw [FieldKind.begins, Bool.or_eq_false_iff] at hc
    rw [capture?_boolean, hskip]
    simp [truthWord, wordAt?, afterWord?, hc.1, hc.2]

section
variable {c : Content} {rest : Text}

theorem dropWhile_content : (c.text ++ rest).dropWhile isBlank = c.text ++ rest := by
  have hheads : c.heads.all (fun head => !isBlank head) = true := by cases c <;> rfl
  obtain ⟨head, more, htext, hblank⟩ := Content.exists_text_eq_cons hheads
  rw [Bool.not_eq_true'] at hblank
  rw [htext, List.cons_append, List.dropWhile_cons_of_neg (by simp [hblank])]

/-- A pattern captures nothing of a content that begins otherwise. -/
theorem capture?_other {k : FieldKind}
    (hheads : c.heads.all (fun head => !isBlank head && !k.begins head) = true) :
    k.template.capture? (c.text ++ rest) = none := by
  obtain ⟨head, more, htext, hhead⟩ := Content.exists_text_eq_cons hheads
  simp only [Bool.and_eq_true, Bool.not_eq_true'] at hhead
  rw [htext, List.cons_append]
  exact capture?_of_not_begins hhead.1 hhead.2 _

/-- A string is captured as it is, unless it has a line feed. -/
theorem capture?_string_content (hc : ∀ t ∈ c.strings, '"' ∉ t) :
    FieldKind.string.template.capture? (c.text ++ rest) = c.captured? .string := by
  have inside {t : Text} (ht : '"' ∉ t) :
      FieldKind.string.template.capture? (inQuotes t ++ rest) =
        if '\n' ∈ t then none else some t := by
    have htext : inQuotes t ++ rest = '"' :: (t ++ '"' :: rest) := by simp [inQuotes]
    rw [capture?_string, htext, List.dropWhile_cons_of_neg (by decide), afterSign?, if_pos rfl,
      Option.bind_some, lineText?_append ht]
  cases c with
  | string t => exact inside (hc t (by simp [Content.strings]))
  | timestamp clock =>
    have hline : '\n' ∉ clock.render ++ ['Z'] := notMem_render (by decide) clock
    exact (inside (notMem_render (by decide) clock)).trans (if_neg hline)
  | array | boolean | integer | duration => exact capture?_other rfl

/-- A numeral without a sign is captured as it is. -/
theorem capture?_number_content (hrest : EndsLaid rest) :
    FieldKind.number.template.capture? (c.text ++ rest) = c.captured? .number := by
  cases c with
  | string | timestamp | array | boolean => exact capture?_other rfl
  | integer n =>
    rw [capture?_number, dropWhile_content]
    exact digitRow?_decimal n hrest
  | duration d =>
    by_cases hneg : d.nanos < 0
    · have htext : (Content.duration d).text = '-' :: decimal d.nanos.natAbs := by
        rw [Content.text, signedDecimal, if_pos hneg]
      rw [htext, List.cons_append, capture?_of_not_begins (by decide) (by decide),
        Content.captured?, if_pos hneg]
    · have htext : (Content.duration d).text = decimal d.nanos.natAbs := by
        rw [Content.text, signedDecimal, if_neg hneg]
      rw [capture?_number, dropWhile_content, htext, digitRow?_decimal _ hrest, Content.captured?,
        if_neg hneg]

/-- A truth value is captured as it is. -/
theorem capture?_boolean_content :
    FieldKind.boolean.template.capture? (c.text ++ rest) = c.captured? .boolean := by
  cases c with
  | boolean b =>
    rw [capture?_boolean, dropWhile_content]
    cases b <;> rfl
  | string | timestamp | array | integer | duration => exact capture?_other rfl

/-- The inside of an array is captured as it is, if its elements have no closing bracket and no
line feed. -/
theorem capture?_stringArray_content
    (hc : ∀ items, c = .array items → ∀ t ∈ items, ']' ∉ t ∧ '\n' ∉ t) :
    FieldKind.stringArray.template.capture? (c.text ++ rest) = c.captured? .stringArray := by
  cases c with
  | string | timestamp | boolean | integer | duration => exact capture?_other rfl
  | array items =>
    have hitems := hc items rfl
    by_cases hne : items = []
    · subst hne
      rw [capture?_stringArray]
      rfl
    · have hline : '\n' ∉ [','].intercalate (items.map inQuotes) := by
        rw [mem_items (by decide)]
        rintro ⟨t, ht, hmem⟩
        exact (hitems t ht).2 hmem
      have := capture?_laid (laid_items hne) (fun t ht => (hitems t ht).1) isBlankRun_nil
        isBlankRun_nil rest
      rw [if_neg hline] at this
      simpa [Content.text, Content.captured?] using this

/-- What the pattern of a kind captures of a value. -/
theorem capture?_content (hc : ∀ t ∈ c.strings, '"' ∉ t)
    (hitems : ∀ items, c = .array items → ∀ t ∈ items, ']' ∉ t ∧ '\n' ∉ t)
    (hrest : EndsLaid rest) (k : FieldKind) :
    k.template.capture? (c.text ++ rest) = c.captured? k := by
  cases k with
  | boolean => exact capture?_boolean_content
  | string => exact capture?_string_content hc
  | number => exact capture?_number_content hrest
  | object => exact (capture?_string_content hc).trans (by cases c <;> rfl)
  | stringArray => exact capture?_stringArray_content hitems

end

/-! ### Searching a row of members -/

/-- The texts in a row of members do not interfere with its signs. -/
structure IsReadable (members : List Member) : Prop where
  /-- No name, string or element has a quote. -/
  quote : ∀ t ∈ textsOf members, '"' ∉ t
  /-- No element of an array has a comma, a closing bracket or a line feed. -/
  items : ∀ f ∈ fieldsOf members, ∀ items, f.content = .array items →
    ∀ t ∈ items, ',' ∉ t ∧ ']' ∉ t ∧ '\n' ∉ t

theorem IsReadable.head {x : Member} {more : List Member} (h : IsReadable (x :: more)) :
    IsReadable [x] := by
  constructor
  · intro t ht
    exact h.quote t (by simp_all [textsOf])
  · intro f hf
    exact h.items f (by simp_all [fieldsOf])

theorem IsReadable.tail {x : Member} {more : List Member} (h : IsReadable (x :: more)) :
    IsReadable more := by
  constructor
  · intro t ht
    exact h.quote t (by simp [textsOf, ht])
  · intro f hf
    exact h.items f (by simp [fieldsOf, hf])

theorem IsReadable.inside {name : Text} {members : List Member}
    (h : IsReadable [.object name members]) : IsReadable members := by
  constructor
  · intro t ht
    exact h.quote t (by simp [textsOf, Member.texts, ht])
  · intro f hf
    exact h.items f (by simp [fieldsOf, Member.fields, hf])

/-- What is captured first of the fields with a matching name. -/
def firstCaptured? (k : FieldKind) (name : Text) (fields : List Field) : Option Text :=
  fields.findSome? fun f => if sameLetters name f.name then f.content.captured? k else none

theorem firstCaptured?_append (k : FieldKind) (name : Text) (fields fields' : List Field) :
    firstCaptured? k name (fields ++ fields') =
      (firstCaptured? k name fields).or (firstCaptured? k name fields') :=
  List.findSome?_append

/-- No kind captures anything at an opening brace. -/
theorem capture?_brace (k : FieldKind) (t : Text) : k.template.capture? ('\x7b' :: t) = none :=
  capture?_of_not_begins (by decide) (by cases k <;> decide) t

/-- A search finds a field or passes over it. -/
theorem findField?_field {name : Text} (hname : IsSearchable name) (k : FieldKind) {f : Field}
    (h : IsReadable [.field f]) {rest : Text} (hrest : EndsValue rest) :
    findField? name k (f.text ++ rest) =
      (firstCaptured? k name [f]).or (findField? name k rest) := by
  have hquote : '"' ∉ f.name := h.quote _ (by simp [textsOf, Member.texts])
  have hstrings : ∀ t ∈ f.content.strings, '"' ∉ t := by
    intro t ht
    exact h.quote t (by simp [textsOf, Member.texts, ht])
  have hitems : ∀ items, f.content = .array items → ∀ t ∈ items, ']' ∉ t ∧ '\n' ∉ t := by
    intro items hc t ht
    exact (h.items f (by simp [fieldsOf, Member.fields]) items hc t ht).2
  have htext : f.text ++ rest =
      inQuotes f.name ++ ([] ++ ':' :: ([' '] ++ (f.content.text ++ rest))) := by
    simp [Field.text]
  rw [htext, findField?_named hname k hquote isBlankRun_nil isBlankRun_space dropWhile_content,
    capture?_content hstrings hitems hrest.laid, findField?_content hname k hstrings hrest.laid]
  simp [firstCaptured?]

mutual

/-- A search goes through a member field by field. -/
theorem findField?_member {name : Text} (hname : IsSearchable name) (k : FieldKind) :
    ∀ {x : Member}, IsReadable [x] → ∀ {rest : Text}, EndsValue rest →
    findField? name k (x.text ++ rest) =
      (firstCaptured? k name x.fields).or (findField? name k rest)
  | .field f, h, rest, hrest => findField?_field hname k h hrest
  | .object m members, h, rest, hrest => by
    have hquote : '"' ∉ m := h.quote _ (by simp [textsOf, Member.texts])
    -- nothing is captured at the brace, so the search goes on behind it
    have htext : (Member.object m members).text ++ rest =
        inQuotes m ++ ([] ++ ':' :: ([' '] ++ '\x7b' :: (rowText members ++ '\x7d' :: rest))) := by
      simp [Member.text]
    rw [htext, findField?_named hname k hquote isBlankRun_nil isBlankRun_space
        (List.dropWhile_cons_of_neg (by decide)), capture?_brace, ite_self, Option.none_or,
      findField?_cons (by decide),
      findField?_row hname k h.inside (endsValue_closing (.inr rfl) hrest.barred),
      findField?_cons (by decide), Member.fields]

/-- A search goes through a row of members field by field. -/
theorem findField?_row {name : Text} (hname : IsSearchable name) (k : FieldKind) :
    ∀ {members : List Member}, IsReadable members → ∀ {rest : Text}, EndsValue rest →
    findField? name k (rowText members ++ rest) =
      (firstCaptured? k name (fieldsOf members)).or (findField? name k rest)
  | [], _, rest, _ => rfl
  | [x], h, rest, hrest => by
    rw [rowText, findField?_member hname k h hrest, fieldsOf, fieldsOf, List.append_nil]
  | x :: y :: more, h, rest, hrest => by
    have htext : rowText (x :: y :: more) ++ rest =
        x.text ++ ',' :: (rowText (y :: more) ++ rest) := by
      simp [rowText]
    have hfields : fieldsOf (x :: y :: more) = x.fields ++ fieldsOf (y :: more) := rfl
    rw [htext, findField?_member hname k h.head (endsValue_comma _), findField?_cons (by decide),
      findField?_row hname k h.tail hrest, hfields, firstCaptured?_append, Option.or_assoc]

end

/-- **What a search finds in a closed message.** It is what the pattern of the kind captures of the
first field, at any depth, with a matching name of which it captures something. -/
theorem findField?_objectText {name : Text} (hname : IsSearchable name) (k : FieldKind)
    {members : List Member} (h : IsReadable members) :
    findField? name k (objectText members) = firstCaptured? k name (fieldsOf members) := by
  have htext : objectText members = '\x7b' :: (rowText members ++ ['\x7d']) := rfl
  rw [htext, findField?_cons (by decide),
    findField?_row hname k h (endsValue_closing (.inr rfl) barred_nil), findField?_cons (by decide),
    findField?_nil, Option.or_none]

end FlatJson
