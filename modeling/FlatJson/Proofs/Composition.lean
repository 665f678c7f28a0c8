import FlatJson.Message

/-!
# What writing leaves in a message

A message is written by calls that append fields, and a caller may put a closed message into
another one as a nested object. What then stands in the message is a row of members: the fields
that were worth writing, and the nested objects.

* `Value.content?` is what a field shows of a value, `membersOf` the members that a row of entries
  leaves.
* `writeAll_content`: after entries that all succeed each member has been appended, with a comma
  behind it.
* `closed_eq_objectText`: the closed message is the row of the members between braces, with commas
  between them only.
-/

namespace FlatJson

/-! ### Contents -/

/-- What a field shows of the value that was written. -/
inductive Content where
  /-- A text. -/
  | string (t : Text)
  /-- A truth value. -/
  | boolean (b : Bool)
  /-- A number. -/
  | integer (n : Nat)
  /-- A length of time. -/
  | duration (d : Duration)
  /-- A list of texts. -/
  | array (items : List Text)
  /-- A date and a time of day. -/
  | timestamp (c : Clock)

namespace Content

/-- The text of a content. -/
def text : Content → Text
  | string t => inQuotes t
  | boolean b => truthWord b
  | integer n => decimal n
  | duration d => signedDecimal d.nanos
  | array items => '[' :: [','].intercalate (items.map inQuotes) ++ [']']
  | timestamp c => inQuotes (c.render ++ ['Z'])

/-- The texts in a content that a caller has chosen. -/
def strings : Content → List Text
  | string t => [t]
  | array items => items
  | boolean _ | integer _ | duration _ | timestamp _ => []

/-- No numeral in the content is too long. -/
def IsShort : Content → Prop
  | integer n => (decimal n).length ≤ numeralLimit
  | duration d => (decimal d.nanos.natAbs).length ≤ numeralLimit
  | string _ | boolean _ | array _ | timestamp _ => True

end Content

/-- A comma stands between one element and the next. -/
theorem intercalate_items (x y : Text) (items : List Text) :
    [','].intercalate ((x :: y :: items).map inQuotes) =
      inQuotes x ++ ',' :: [','].intercalate ((y :: items).map inQuotes) := by
  rw [List.map_cons, List.map_cons, List.intercalate_cons_cons, ← List.map_cons]
  simp

/-- A character that does not separate elements is in the inside of an array only if it is in one of
the elements. -/
theorem mem_items {c : Char} (hc : c ≠ '"' ∧ c ≠ ',') {items : List Text} :
    c ∈ [','].intercalate (items.map inQuotes) ↔ ∃ t ∈ items, c ∈ t := by
  obtain ⟨hquote, hcomma⟩ := hc
  induction items with
  | nil => simp
  | cons x items ih =>
    have quoted : c ∈ inQuotes x ↔ c ∈ x := by simp [inQuotes, hquote]
    cases items with
    | nil => simp [quoted]
    | cons y items =>
      rw [intercalate_items, List.mem_append, List.mem_cons, ih, quoted]
      simp [hcomma]

/-- The text of a value that is one. -/
def Value.text? : Value → Option Text
  | .text t => some t
  | _ => none

/-- What a field shows of a value that may be written; `none` if the value is left out. -/
def Value.content? : Value → Option Content
  | .text t => some (.string t)
  | .bool b => some (.boolean b)
  | .int n => if n < 0 then none else some (.integer n.toNat)
  | .duration d => if d.micros = 0 then none else some (.duration d)
  | .list items | .tuple items =>
    if items.isEmpty then none else (items.mapM Value.text?).map .array
  | .dateTime clock _ => some (.timestamp clock)
  | _ => none

/-- A field of a message. -/
structure Field where
  /-- Its name. -/
  name : Text
  /-- What it shows. -/
  content : Content

/-- The text of a field. -/
def Field.text (f : Field) : Text := inQuotes f.name ++ ':' :: ' ' :: f.content.text

/-! ### Single calls -/

/-- A value that fits a kind is one of six. -/
theorem ValueKind.fits_cases {k : ValueKind} {v : Value} (h : k.fits v = true) :
    (∃ t, k = .string ∧ v = .text t) ∨ (∃ b, k = .boolean ∧ v = .bool b) ∨
    (∃ n, k = .integer ∧ v = .int n) ∨ (∃ d, k = .duration ∧ v = .duration d) ∨
    (∃ items, k = .stringArray ∧ (v = .list items ∨ v = .tuple items) ∧
      items.all Value.isText = true) ∨
    (∃ c p, k = .timestamp ∧ v = .dateTime c p) := by
  unfold ValueKind.fits at h
  split at h <;> simp_all

/-- A list of texts as values. -/
theorem exists_map_text {items : List Value} (h : items.all Value.isText = true) :
    ∃ ts : List Text, items = ts.map .text := by
  induction items with
  | nil => exact ⟨[], rfl⟩
  | cons v items ih =>
    simp only [List.all_cons, Bool.and_eq_true] at h
    obtain ⟨ts, rfl⟩ := ih h.2
    cases v with
    | text t => exact ⟨t :: ts, rfl⟩
    | _ => simp [Value.isText] at h

theorem mapM_text?_map (ts : List Text) : (ts.map Value.text).mapM Value.text? = some ts := by
  induction ts with
  | nil => rfl
  | cons t ts ih => simp [List.mapM_cons, ih, Value.text?]

theorem content?_listed {v : Value} {ts : List Text}
    (hv : v = .list (ts.map .text) ∨ v = .tuple (ts.map .text)) :
    v.content? = if ts.isEmpty then none else some (.array ts) := by
  rcases hv with rfl | rfl <;>
    simp only [Value.content?, mapM_text?_map, List.isEmpty_map, Option.map_some]

theorem mapM_plainText_map (ts : List Text) :
    (ts.map Value.text).mapM Value.plainText = .ok ts := by
  induction ts with
  | nil => rfl
  | cons t ts ih =>
    simp only [List.map_cons, List.mapM_cons, ih]
    rfl

/-- A list of texts is written as its content. -/
theorem encode_listed {v : Value} {ts : List Text}
    (hv : v = .list (ts.map .text) ∨ v = .tuple (ts.map .text)) :
    ValueKind.stringArray.encode v = .ok (Content.array ts).text := by
  rcases hv with rfl | rfl <;>
    simp only [ValueKind.encode, Value.elements, bind, Except.bind, mapM_plainText_map] <;> rfl

/-- What is written as an admitted kind: the content if it is worth writing and no numeral is too
long. -/
theorem ValueKind.fragment?_of_admits {k : ValueKind} {v : Value} (h : k.admits v = true)
    (name : Text) :
    k.fragment? name v = (k.worthWriting v).bind fun worth =>
      if worth then (k.encode v).map fun t => some (inQuotes name ++ ':' :: ' ' :: t ++ [','])
      else .ok none := by
  simp only [ValueKind.fragment?, ValueKind.check, h, if_true]
  cases k.worthWriting v with
  | error e => rfl
  | ok worth =>
    cases worth with
    | false => rfl
    | true => cases k.encode v <;> rfl

theorem ValueKind.admits_of_fragment? {k : ValueKind} {name : Text} {v : Value} {o : Option Text}
    (h : k.fragment? name v = .ok o) : k.admits v = true := by
  cases hk : k.admits v with
  | true => rfl
  | false => simp [ValueKind.fragment?, ValueKind.check, hk, bind, Except.bind] at h

theorem integerText_eq_ok {n : Int} {t : Text} (h : integerText n = .ok t) :
    t = signedDecimal n ∧ (decimal n.natAbs).length ≤ numeralLimit := by
  unfold integerText writeNumeral? at h
  split at h
  · contradiction
  · rename_i t' ht
    split at ht
    · rename_i hlen
      obtain rfl := Option.some.inj ht
      exact ⟨(Except.ok.inj h).symm, hlen⟩
    · contradiction

theorem signedDecimal_toNat {n : Int} (h : ¬ n < 0) : signedDecimal n = decimal n.toNat := by
  rw [signedDecimal, if_neg h]
  congr 1
  omega

/-- What is worth writing of the values that fit are those with a content. -/
theorem ValueKind.worthWriting_of_fits {k : ValueKind} {v : Value} (h : k.fits v = true) :
    k.worthWriting v = .ok v.content?.isSome := by
  rcases fits_cases h with ⟨s, rfl, rfl⟩ | ⟨b, rfl, rfl⟩ | ⟨n, rfl, rfl⟩ | ⟨d, rfl, rfl⟩ |
    ⟨items, rfl, hv, hall⟩ | ⟨c, p, rfl, rfl⟩
  · rfl
  · rfl
  · simp only [worthWriting, Value.isNonNegative, Value.content?]
    split <;> simp <;> omega
  · simp only [worthWriting, Value.content?]
    split <;> simp_all
  · obtain ⟨ts, rfl⟩ := exists_map_text hall
    have hworth : ValueKind.stringArray.worthWriting v = .ok (!ts.isEmpty) := by
      rcases hv with rfl | rfl <;> simp [worthWriting, Value.isInhabited]
    rw [hworth, content?_listed hv]
    cases ts <;> rfl
  · rfl

/-- A value that fits a kind is written as its content. -/
theorem ValueKind.encode_of_fits {k : ValueKind} {v : Value} (h : k.fits v = true) {c : Content}
    {t : Text} (hc : v.content? = some c) (ht : k.encode v = .ok t) : t = c.text ∧ c.IsShort := by
  rcases fits_cases h with ⟨s, rfl, rfl⟩ | ⟨b, rfl, rfl⟩ | ⟨n, rfl, rfl⟩ | ⟨d, rfl, rfl⟩ |
    ⟨items, rfl, hv, hall⟩ | ⟨clock, p, rfl, rfl⟩
  · obtain rfl := Option.some.inj hc
    exact ⟨(Except.ok.inj ht).symm, trivial⟩
  · obtain rfl := Option.some.inj hc
    exact ⟨(Except.ok.inj ht).symm, trivial⟩
  · obtain ⟨rfl, hlen⟩ := integerText_eq_ok (n := n) ht
    simp only [Value.content?] at hc
    split at hc
    · contradiction
    · rename_i hn
      obtain rfl := Option.some.inj hc
      refine ⟨signedDecimal_toNat hn, ?_⟩
      rwa [Content.IsShort, show n.toNat = n.natAbs by omega]
  · obtain ⟨rfl, hlen⟩ := integerText_eq_ok (n := d.nanos) ht
    simp only [Value.content?] at hc
    split at hc
    · contradiction
    · obtain rfl := Option.some.inj hc
      exact ⟨rfl, hlen⟩
  · obtain ⟨ts, rfl⟩ := exists_map_text hall
    have hcontent : c = .array ts := by
      rw [content?_listed hv] at hc
      split at hc
      · contradiction
      · exact (Option.some.inj hc).symm
    rw [encode_listed hv] at ht
    subst hcontent
    exact ⟨(Except.ok.inj ht).symm, trivial⟩
  · obtain rfl := Option.some.inj hc
    exact ⟨(Except.ok.inj ht).symm, trivial⟩

/-- What a successful call writes: the field with the content of the value and a comma, or nothing
if the value has no content. -/
theorem ValueKind.fragment?_eq_ok {k : ValueKind} {name : Text} {v : Value} {o : Option Text}
    (h : k.fragment? name v = .ok o) :
    o = v.content?.map (fun c => (Field.mk name c).text ++ [',']) ∧
      ∀ c, v.content? = some c → c.IsShort := by
  have hk := admits_of_fragment? h
  rw [fragment?_of_admits hk] at h
  unfold admits at hk
  split at hk
  · -- an optional kind leaves an absent value out
    rename_i habsent
    obtain rfl : v = .absent := by cases v <;> simp_all [Value.isAbsent]
    refine ⟨?_, fun c hc => nomatch hc⟩
    cases k <;> simp_all [isOptional, worthWriting, Value.isAbsent, Except.bind, Value.content?]
  · rw [worthWriting_of_fits hk] at h
    cases hc : v.content? with
    | none =>
      simp only [hc, Option.isSome_none, Except.bind] at h
      exact ⟨(Except.ok.inj h).symm, fun c hc => nomatch hc⟩
    | some c =>
      simp only [hc, Option.isSome_some, Except.bind, if_true] at h
      cases ht : k.encode v with
      | error e => simp [ht, Except.map] at h
      | ok t =>
        obtain ⟨rfl, hshort⟩ := encode_of_fits hk hc ht
        simp only [ht, Except.map] at h
        refine ⟨(Except.ok.inj h).symm, fun c' hc' => ?_⟩
        rwa [← Option.some.inj hc']

/-- What a successful call leaves in a message. -/
theorem Message.add_eq_ok {m m' : Message} {a : Addition} (h : m.add a = .ok m') :
    m' = m.append ((a.value.content?.map fun c => (Field.mk a.name c).text ++ [',']).getD []) ∧
      ∀ c, a.value.content? = some c → c.IsShort := by
  unfold Message.add at h
  cases hf : fragment? a.name a.value a.kind with
  | error e => simp [hf, Except.map] at h
  | ok o =>
    simp only [hf, Except.map] at h
    obtain rfl := Except.ok.inj h
    unfold fragment? at hf
    split at hf
    · -- no kind is looked for if the value is absent
      rename_i habsent
      obtain rfl := Except.ok.inj hf
      have hv : a.value = .absent := by
        cases hv : a.value <;> simp_all [Value.isAbsent]
      rw [hv]
      exact ⟨rfl, fun c hc => nomatch hc⟩
    · cases hk : resolveKind a.kind a.value with
      | error e => simp [hk, bind, Except.bind] at hf
      | ok k =>
        simp only [hk, bind, Except.bind] at hf
        obtain ⟨rfl, hshort⟩ := ValueKind.fragment?_eq_ok hf
        exact ⟨rfl, hshort⟩

/-! ### Rows of entries -/

/-- What a caller writes into a message. -/
inductive Entry where
  /-- A call that appends a field. -/
  | call (a : Addition)
  /-- The text of another message that has been written and closed, as an object with a name. -/
  | object (name : Text) (entries : List Entry)

/-- What stands in a message. -/
inductive Member where
  /-- A field. -/
  | field (f : Field)
  /-- A nested object. -/
  | object (name : Text) (members : List Member)

mutual

/-- The message with an entry behind it, if all calls succeed. -/
def Entry.write (m : Message) : Entry → Except Error Message
  | .call a => m.add a
  | .object name entries => do
    let inner ← writeAll .opened entries
    return m.append (inQuotes name ++ ':' :: ' ' :: inner.closed ++ [','])

/-- The message with a row of entries behind it, if all calls succeed. -/
def writeAll (m : Message) : List Entry → Except Error Message
  | [] => .ok m
  | e :: entries => do writeAll (← e.write m) entries

end

mutual

/-- What an entry leaves in a message, if it is worth writing. -/
def Entry.member? : Entry → Option Member
  | .call a => a.value.content?.map fun c => .field ⟨a.name, c⟩
  | .object name entries => some (.object name (membersOf entries))

/-- The members that a row of entries leaves in a message. -/
def membersOf : List Entry → List Member
  | [] => []
  | e :: entries => e.member?.toList ++ membersOf entries

end

mutual

/-- The text of a member. -/
def Member.text : Member → Text
  | .field f => f.text
  | .object name members => inQuotes name ++ ':' :: ' ' :: '\x7b' :: rowText members ++ ['\x7d']

/-- The texts of a row of members with commas between them. -/
def rowText : List Member → Text
  | [] => []
  | [x] => x.text
  | x :: y :: more => x.text ++ ',' :: rowText (y :: more)

end

/-- The text of an object with these members. -/
def objectText (members : List Member) : Text := '\x7b' :: rowText members ++ ['\x7d']

mutual

/-- The fields of a member at any depth, in the order of the text. -/
def Member.fields : Member → List Field
  | .field f => [f]
  | .object _ members => fieldsOf members

/-- The fields of a row of members at any depth, in the order of the text. -/
def fieldsOf : List Member → List Field
  | [] => []
  | x :: more => x.fields ++ fieldsOf more

end

mutual

/-- The texts in a member that a caller has chosen: names, strings and elements of arrays. -/
def Member.texts : Member → List Text
  | .field f => f.name :: f.content.strings
  | .object name members => name :: textsOf members

/-- The texts in a row of members that a caller has chosen. -/
def textsOf : List Member → List Text
  | [] => []
  | x :: more => x.texts ++ textsOf more

end

mutual

theorem Member.mem_texts {f : Field} {t : Text} (ht : t ∈ f.name :: f.content.strings) :
    ∀ {x : Member}, f ∈ x.fields → t ∈ x.texts
  | .field g, hf => by
    obtain rfl := List.mem_singleton.1 hf
    exact ht
  | .object _ _, hf => List.mem_cons_of_mem _ (mem_textsOf ht hf)

/-- The texts of a field are among those of its message. -/
theorem mem_textsOf {f : Field} {t : Text} (ht : t ∈ f.name :: f.content.strings) :
    ∀ {members : List Member}, f ∈ fieldsOf members → t ∈ textsOf members
  | [], hf => absurd hf List.not_mem_nil
  | _ :: _, hf => by
    rcases List.mem_append.1 hf with hf | hf
    · exact List.mem_append_left _ (Member.mem_texts ht hf)
    · exact List.mem_append_right _ (mem_textsOf ht hf)

end

/-- The row with a comma behind every member is the row with one comma behind it. -/
theorem flatMap_text_comma (members : List Member) :
    members.flatMap (fun x => x.text ++ [',']) =
      if members = [] then [] else rowText members ++ [','] := by
  induction members with
  | nil => rfl
  | cons x more ih =>
    rw [List.flatMap_cons, ih]
    cases more with
    | nil => simp [rowText]
    | cons y more => simp [rowText]

theorem rowText_eq_intercalate (members : List Member) :
    rowText members = [','].intercalate (members.map Member.text) := by
  induction members with
  | nil => rfl
  | cons x more ih =>
    cases more with
    | nil => simp [rowText]
    | cons y more =>
      rw [rowText, ih]
      simp [List.intercalate]

/-- Closing a message takes away the comma behind its last member. -/
theorem closed_of_content {m : Message} {members : List Member}
    (h : m.content = '\x7b' :: members.flatMap fun x => x.text ++ [',']) :
    m.closed = objectText members := by
  rw [flatMap_text_comma] at h
  by_cases hm : members = []
  · subst hm
    rw [Message.closed, h]
    rfl
  · rw [if_neg hm, ← List.cons_append] at h
    rw [Message.closed, h, List.getLast?_concat, if_pos rfl, List.dropLast_concat]
    rfl

mutual

/-- **What an entry leaves in a message.** The member that it stands for is appended, with a comma
behind it, and no numeral in it is too long. -/
theorem Entry.write_eq_ok {m m' : Message} : ∀ {e : Entry}, e.write m = .ok m' →
    m'.content = m.content ++ e.member?.toList.flatMap (fun x => x.text ++ [',']) ∧
      ∀ x ∈ e.member?, ∀ f ∈ x.fields, f.content.IsShort
  | .call a, h => by
    rw [Entry.write] at h
    obtain ⟨rfl, hshort⟩ := Message.add_eq_ok h
    cases hc : a.value.content? with
    | none => simp [Entry.member?, hc, Message.append]
    | some c =>
      have := hshort c hc
      simp [Entry.member?, hc, Message.append, Member.text, Member.fields, this]
  | .object name entries, h => by
    rw [Entry.write] at h
    cases hi : writeAll .opened entries with
    | error e => simp [hi, bind, Except.bind] at h
    | ok inner =>
      -- the inner message has begun with its brace, so it is closed to an object
      obtain ⟨hinner, hshort⟩ := writeAll_content hi
      have hclosed : inner.closed = objectText (membersOf entries) := closed_of_content hinner
      simp only [hi, bind, Except.bind, pure, Except.pure, hclosed] at h
      obtain rfl := Except.ok.inj h
      simpa [Entry.member?, Message.append, Member.text, Member.fields, objectText] using hshort

/-- **What a row of entries leaves in a message.** The members are appended in order, each with a
comma behind it, and no numeral in them is too long. -/
theorem writeAll_content {m m' : Message} : ∀ {entries : List Entry}, writeAll m entries = .ok m' →
    m'.content = m.content ++ (membersOf entries).flatMap (fun x => x.text ++ [',']) ∧
      ∀ f ∈ fieldsOf (membersOf entries), f.content.IsShort
  | [], h => by
    obtain rfl := Except.ok.inj h
    simp [membersOf, fieldsOf]
  | e :: entries, h => by
    rw [writeAll] at h
    cases he : e.write m with
    | error err => simp [he, bind, Except.bind] at h
    | ok m₁ =>
      simp only [he, bind, Except.bind] at h
      obtain ⟨h₁, hshort₁⟩ := Entry.write_eq_ok he
      obtain ⟨h₂, hshort₂⟩ := writeAll_content h
      rw [h₂, h₁, membersOf, List.flatMap_append, List.append_assoc]
      refine ⟨rfl, fun f hf => ?_⟩
      cases hx : e.member? with
      | none => exact hshort₂ f (by simpa [hx] using hf)
      | some x =>
        simp only [hx, Option.toList_some, List.singleton_append, fieldsOf, List.mem_append] at hf
        exact hf.elim (hshort₁ x hx f) (hshort₂ f)

end

/-- The text of a message whose entries all succeed: its members between braces, with commas
between them. -/
theorem closed_eq_objectText {entries : List Entry} {m : Message}
    (h : writeAll .opened entries = .ok m) : m.closed = objectText (membersOf entries) :=
  closed_of_content (writeAll_content h).1

end FlatJson
