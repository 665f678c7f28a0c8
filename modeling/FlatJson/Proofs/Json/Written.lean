import FlatJson.Proofs.Composition
import FlatJson.Proofs.Json.Unambiguous
import FlatJson.Proofs.Numeral

/-!
# What is written is JSON

Nothing is escaped in a message, so it is JSON only if no text in it has a character that would have
to be. Then it stands for the fields that were written, in their order.

* `Content.json` is what a content stands for, `jsonMembers` that of a row of members.
* `derives_objectText`: an object with nested objects to any depth is JSON.
* `closed_run`: at any point of a run of calls the closed message stands for the fields so far.
-/

namespace FlatJson

open Json

/-! ### Numerals -/

theorem rowValue_append_singleton (row : Text) (c : Char) :
    rowValue (row ++ [c]) = 10 * rowValue row + (c.toNat - '0'.toNat) := by
  simp [rowValue]

theorem toNat_digitChar {d : Nat} (h : d < 10) : (digitChar d).toNat - '0'.toNat = d := by
  have table : ∀ d < 10, (digitChar d).toNat - '0'.toNat = d := by decide
  exact table d h

theorem rowValue_decimal (n : Nat) : rowValue (decimal n) = n := by
  induction n using Nat.strongRecOn with
  | ind n ih =>
    rw [decimal]
    split
    · rename_i hn
      rw [← List.nil_append [digitChar n], rowValue_append_singleton, toNat_digitChar hn]
      simp [rowValue]
    · rw [rowValue_append_singleton, ih _ (by omega), toNat_digitChar (Nat.mod_lt _ (by decide))]
      omega

/-- A numeral of more than one digit does not begin with a zero. -/
theorem leading_decimal (n : Nat) : ∀ more, decimal n = '0' :: more → more = [] := by
  have zero : ∀ d < 10, digitChar d = '0' → d = 0 := by decide
  induction n using Nat.strongRecOn with
  | ind n ih =>
    intro more h
    rw [decimal] at h
    split at h
    · exact (List.cons.inj h).2.symm
    · rename_i hn
      obtain ⟨d, hd, tail, hcons⟩ := exists_decimal_eq_cons (n / 10)
      rw [hcons, List.cons_append] at h
      obtain ⟨hzero, -⟩ := List.cons.inj h
      -- the digits before the last one are a numeral too; if that is zero, `n` has one digit
      have htail := ih (n / 10) (by omega) tail (by rw [hcons, hzero])
      have hvalue := rowValue_decimal (n / 10)
      rw [hcons, htail, hzero] at hvalue
      have : rowValue ['0'] = 0 := rfl
      omega

theorem isInt_decimal (n : Nat) : IsInt (decimal n) n := by
  refine ⟨⟨?_, fun c hc => ?_, rowValue_decimal n⟩, leading_decimal n⟩
  · obtain ⟨d, -, more, h⟩ := exists_decimal_eq_cons n
    rw [h]
    exact List.cons_ne_nil _ _
  · obtain ⟨d, hd, rfl⟩ := exists_of_mem_decimal hc
    have table : ∀ d < 10, (digitChar d).isDigit = true := by decide
    exact table d hd

theorem isUnsigned_decimal (n : Nat) : IsUnsigned (decimal n) n := by
  simpa using IsUnsigned.parts (isInt_decimal n) .absent .absent

theorem isNumber_signedDecimal (n : ℤ) : IsNumber (signedDecimal n) n := by
  have hcast : ((n.natAbs : ℤ) : ℚ) = (n.natAbs : ℚ) := Int.cast_natCast _
  rw [signedDecimal]
  split
  · rename_i hn
    have habs : (n.natAbs : ℤ) = -n := by omega
    have hvalue : (n : ℚ) = -(n.natAbs : ℚ) := by rw [← hcast, habs, Int.cast_neg, neg_neg]
    rw [hvalue]
    exact .minus (isUnsigned_decimal _)
  · rename_i hn
    have habs : (n.natAbs : ℤ) = n := by omega
    have hvalue : (n : ℚ) = (n.natAbs : ℚ) := by rw [← hcast, habs]
    rw [hvalue]
    exact .plus (isUnsigned_decimal _)

/-! ### Texts -/

/-- The texts have no character that would have to be escaped. -/
def AreQuotable (texts : List Text) : Prop :=
  ∀ t ∈ texts, ∀ c ∈ t, 0x20 ≤ c.toNat ∧ c ≠ '"' ∧ c ≠ '\\'

-- the search is over the characters of the texts, not over all characters
instance (texts : List Text) : Decidable (AreQuotable texts) :=
  decidable_of_iff (texts.all fun t => t.all fun c => 0x20 ≤ c.toNat && c != '"' && c != '\\')
    (by simp [AreQuotable, and_assoc])

theorem AreQuotable.head {t : Text} {texts : List Text} (h : AreQuotable (t :: texts)) :
    IsString (inQuotes t) t := by
  have ht := h t List.mem_cons_self
  clear h
  refine .quoted ?_
  induction t with
  | nil => exact .nil
  | cons c t ih =>
    obtain ⟨control, quote, backslash⟩ := ht c List.mem_cons_self
    exact .cons (.plain control quote backslash) (ih fun d hd => ht d (List.mem_cons_of_mem _ hd))

theorem AreQuotable.tail {t : Text} {texts : List Text} (h : AreQuotable (t :: texts)) :
    AreQuotable texts :=
  fun s hs => h s (List.mem_cons_of_mem _ hs)

theorem AreQuotable.left {texts texts' : List Text} (h : AreQuotable (texts ++ texts')) :
    AreQuotable texts :=
  fun s hs => h s (List.mem_append_left _ hs)

theorem AreQuotable.right {texts texts' : List Text} (h : AreQuotable (texts ++ texts')) :
    AreQuotable texts' :=
  fun s hs => h s (List.mem_append_right _ hs)

theorem isSpaces_nil : IsSpaces [] := fun _ h => absurd h List.not_mem_nil

theorem isMark_bare (c : Char) : IsMark c [c] := .spaced isSpaces_nil isSpaces_nil

theorem isMark_colon : IsMark ':' [':', ' '] := by
  have hblank : IsSpaces [' '] := by
    intro c hc
    rw [List.mem_singleton.1 hc]
    rfl
  exact .spaced isSpaces_nil hblank

/-! ### Contents -/

/-- What a content stands for. -/
def Content.json : Content → Json
  | string t => .string t
  | boolean b => .bool b
  | integer n => .number n
  | duration d => .number (1000 * d.micros : ℤ)
  | array items => .array (items.map .string)
  | timestamp c => .string (c.render ++ ['Z'])

theorem derives_items {items : List Text} (h : AreQuotable items) (hne : items ≠ []) :
    Derives (.items .array) ([','].intercalate (items.map inQuotes))
      (.array (items.map .string)) := by
  induction items with
  | nil => contradiction
  | cons x items ih =>
    have hx : Derives .value (inQuotes x) (.string x) := .scalar (.string h.head)
    cases items with
    | nil => simpa using Derives.element hx
    | cons y items =>
      rw [intercalate_items]
      exact .elements hx (isMark_bare ',') (ih h.tail (by simp))

/-- The text of a content stands for it. -/
theorem Content.derives {c : Content} (h : AreQuotable c.strings) :
    Derives .value c.text c.json := by
  cases c with
  | string t => exact .scalar (.string h.head)
  | boolean b =>
    cases b
    · exact .scalar .false
    · exact .scalar .true
  | integer n => exact .scalar (.number (.plus (isUnsigned_decimal n)))
  | duration d =>
    have hnanos : 1000 * d.micros = d.nanos := Int.mul_comm _ _
    rw [json, hnanos]
    exact .scalar (.number (isNumber_signedDecimal d.nanos))
  | array items =>
    by_cases hne : items = []
    · subst hne
      exact .empty (b := .array) (isMark_bare '[') (isMark_bare ']')
    · exact .group (b := .array) (isMark_bare '[') (derives_items h hne) (isMark_bare ']')
  | timestamp clock =>
    have hquotable : AreQuotable [clock.render ++ ['Z']] := by
      intro t ht c hc
      obtain rfl := List.mem_singleton.1 ht
      have table : AreQuotable [clockChars] := by decide
      exact table _ List.mem_cons_self c (mem_clockChars hc)
    exact .scalar (.string hquotable.head)

/-! ### Members -/

mutual

/-- What a member stands for. -/
def Member.json : Member → Text × Json
  | .field f => (f.name, f.content.json)
  | .object name members => (name, .object (jsonMembers members))

/-- What a row of members stands for. -/
def jsonMembers : List Member → List (Text × Json)
  | [] => []
  | x :: more => x.json :: jsonMembers more

end

/-- An object is derived if its row of members is. -/
theorem derives_object {members : List Member} (h : members ≠ [] →
    Derives (.items .object) (rowText members) (.object (jsonMembers members))) :
    Derives .value (objectText members) (.object (jsonMembers members)) := by
  by_cases hne : members = []
  · subst hne
    exact .empty (b := .object) (isMark_bare '\x7b') (isMark_bare '\x7d')
  · exact .group (b := .object) (isMark_bare '\x7b') (h hne) (isMark_bare '\x7d')

mutual

theorem Member.derives : ∀ {x : Member}, AreQuotable x.texts →
    ∃ k t, x.text = k ++ ([':', ' '] ++ t) ∧ IsString k x.json.1 ∧ Derives .value t x.json.2
  | .field f, h => ⟨inQuotes f.name, f.content.text, rfl, h.head, f.content.derives h.tail⟩
  | .object name members, h => by
    refine ⟨inQuotes name, objectText members, by simp [Member.text, objectText], h.head, ?_⟩
    exact derives_object (derives_rowText h.tail)

/-- The text of a row of members stands for them. -/
theorem derives_rowText : ∀ {members : List Member}, AreQuotable (textsOf members) →
    members ≠ [] → Derives (.items .object) (rowText members) (.object (jsonMembers members))
  | [], _, hne => absurd rfl hne
  | [x], h, _ => by
    have hx : AreQuotable x.texts := h.left
    obtain ⟨k, t, htext, hk, ht⟩ := Member.derives hx
    rw [rowText, htext]
    exact .member hk isMark_colon ht
  | x :: y :: more, h, _ => by
    have hx : AreQuotable x.texts := h.left
    have hrest : AreQuotable (textsOf (y :: more)) := h.right
    obtain ⟨k, t, htext, hk, ht⟩ := Member.derives hx
    have hmore := derives_rowText hrest (List.cons_ne_nil _ _)
    have hrow : rowText (x :: y :: more) =
        k ++ ([':', ' '] ++ (t ++ ([','] ++ rowText (y :: more)))) := by
      rw [rowText, htext]
      simp
    rw [hrow]
    exact .members hk isMark_colon ht (isMark_bare ',') hmore

end

/-- **What is written is JSON.** An object with fields and nested objects to any depth stands for
them, in their order, if no text in it has a character that would have to be escaped. -/
theorem derives_objectText {members : List Member} (h : AreQuotable (textsOf members)) :
    Derives .value (objectText members) (.object (jsonMembers members)) :=
  derives_object (derives_rowText h)

/-! ### Runs of calls -/

/-- The fields that a row of calls leaves, in the order of the calls. -/
def emitted (calls : List Addition) : List Field :=
  calls.filterMap fun a => a.value.content?.map (Field.mk a.name)

theorem writeAll_calls (m : Message) (calls : List Addition) :
    writeAll m (calls.map .call) = calls.foldlM Message.add m := by
  induction calls generalizing m with
  | nil => rfl
  | cons a calls ih =>
    rw [List.map_cons, writeAll, List.foldlM_cons, Entry.write]
    cases m.add a with
    | error e => rfl
    | ok m' => exact ih m'

theorem membersOf_calls (calls : List Addition) :
    membersOf (calls.map .call) = (emitted calls).map .field := by
  induction calls with
  | nil => rfl
  | cons a calls ih =>
    rw [List.map_cons, membersOf, ih, Entry.member?]
    simp only [emitted, List.filterMap_cons]
    cases a.value.content? <;> rfl

theorem textsOf_fields (fields : List Field) :
    textsOf (fields.map .field) = fields.flatMap fun f => f.name :: f.content.strings := by
  induction fields with
  | nil => rfl
  | cons f fields ih => rw [List.map_cons, textsOf, ih, Member.texts, List.flatMap_cons]

theorem jsonMembers_fields (fields : List Field) :
    jsonMembers (fields.map .field) = fields.map fun f => (f.name, f.content.json) := by
  induction fields with
  | nil => rfl
  | cons f fields ih => rw [List.map_cons, jsonMembers, ih, Member.json, List.map_cons]

/-- A closed message stands for these fields and for nothing else, and the comma that closing takes
away is the one behind the last field. -/
structure StandsFor (m : Message) (fields : List Field) : Prop where
  /-- The text is derived as the object of the fields. -/
  derives : Derives .value m.closed (.object (fields.map fun f => (f.name, f.content.json)))
  /-- It stands for no other value. -/
  decodes : ∀ v, Decodes m.closed v → v = .object (fields.map fun f => (f.name, f.content.json))
  /-- Before it is closed every field has a comma behind it. -/
  content : m.content = '\x7b' :: fields.flatMap fun f => f.text ++ [',']
  /-- When it is closed there are commas between the fields only. -/
  closed : m.closed = '\x7b' :: [','].intercalate (fields.map Field.text) ++ ['\x7d']
  /-- A message without fields is an empty pair of braces. -/
  closed_nil : fields = [] → m.closed = ['\x7b', '\x7d']

theorem standsFor_of_run {calls : List Addition} {m : Message}
    (h : calls.foldlM Message.add .opened = .ok m)
    (hquotable : ∀ f ∈ emitted calls, AreQuotable (f.name :: f.content.strings)) :
    StandsFor m (emitted calls) := by
  rw [← writeAll_calls] at h
  have hcontent := (writeAll_content h).1
  have hclosed := closed_eq_objectText h
  rw [membersOf_calls] at hcontent hclosed
  have htexts : AreQuotable (textsOf ((emitted calls).map .field)) := by
    rw [textsOf_fields]
    intro t ht
    obtain ⟨f, hf, ht⟩ := List.mem_flatMap.1 ht
    exact hquotable f hf t ht
  have hderives := derives_objectText htexts
  rw [← hclosed, jsonMembers_fields] at hderives
  constructor
  case derives => exact hderives
  case decodes =>
    intro v hv
    refine hv.unique ?_
    simpa using Decodes.spaced isSpaces_nil hderives isSpaces_nil
  case content =>
    rw [hcontent, List.flatMap_map]
    rfl
  case closed =>
    rw [hclosed, objectText, rowText_eq_intercalate, List.map_map]
    rfl
  case closed_nil =>
    intro hnil
    rw [hclosed, hnil]
    rfl

/-- **A run of calls writes JSON.** At any point of a run of calls that all succeed, the closed
message stands for the fields that have been written so far, and closing it takes nothing away that
later calls need. -/
theorem closed_run {done more : List Addition} {last : Message}
    (h : (done ++ more).foldlM Message.add .opened = .ok last)
    (hquotable : ∀ f ∈ emitted done, AreQuotable (f.name :: f.content.strings)) :
    ∃ now, done.foldlM Message.add .opened = .ok now ∧
      more.foldlM Message.add now = .ok last ∧ StandsFor now (emitted done) := by
  rw [List.foldlM_append] at h
  cases hdone : done.foldlM Message.add .opened with
  | error e => simp [hdone, bind, Except.bind] at h
  | ok now =>
    rw [hdone] at h
    exact ⟨now, rfl, h, standsFor_of_run hdone hquotable⟩

/-- The text between two calls is JSON already. -/
theorem closed_run_string :
    Derives .value "\x7b\"a\": \",\"\x7d".toList (.object [(['a'], .string [','])]) ∧
      ∀ v, Decodes "\x7b\"a\": \",\"\x7d".toList v → v = .object [(['a'], .string [','])] := by
  let comma : Addition := ⟨['a'], .text [','], .absent⟩
  let truth : Addition := ⟨['b'], .bool true, .absent⟩
  have h : ([comma] ++ [truth]).foldlM Message.add .opened =
      .ok ⟨"\x7b\"a\": \",\",\"b\": true,".toList⟩ := by rfl
  have hquotable : ∀ f ∈ emitted [comma], AreQuotable (f.name :: f.content.strings) := by
    intro f hf
    obtain rfl : f = ⟨['a'], .string [',']⟩ := by simpa [comma, emitted, Value.content?] using hf
    decide
  obtain ⟨now, hnow, -, hstands⟩ := closed_run h hquotable
  obtain rfl : now = ⟨"\x7b\"a\": \",\",".toList⟩ := (Except.ok.inj hnow).symm
  exact ⟨hstands.derives, hstands.decodes⟩

end FlatJson
