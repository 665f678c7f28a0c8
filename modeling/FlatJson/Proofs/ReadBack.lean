import FlatJson.Proofs.Capture
import FlatJson.Proofs.UniversalTime

/-!
# Reading back what has been written

The readers look for a field anywhere in a message. In a message that has been written from fields
and nested objects they find what was written first under a matching name.

* `Content.line?`, `number?`, `truth?` and `items?` say what each reader sees of a content.
* `firstField?` is the first field, in the order of the text and at any depth, of which a reader
  sees something.
* `readsBack_closed`: the readers give what they see of that field.
-/

namespace FlatJson

/-! ### Elements of arrays -/

/-- The inside of an array is cut into its elements. -/
theorem arrayElements_items {items : List Text} (hquote : ∀ t ∈ items, '"' ∉ t)
    (hcomma : ∀ t ∈ items, ',' ∉ t) :
    arrayElements ([','].intercalate (items.map inQuotes)) = items := by
  by_cases hne : items = []
  · subst hne
    rfl
  · exact arrayElements_laid (laid_items hne) hquote hcomma

/-! ### What readers see of a content -/

namespace Content

/-- A text on one line: a string without a line feed, or a timestamp. -/
def line? : Content → Option Text
  | string t => if '\n' ∈ t then none else some t
  | timestamp c => some (c.render ++ ['Z'])
  | _ => none

/-- A number: an integer, or the nanoseconds of a duration that is not negative. -/
def number? : Content → Option Nat
  | integer n => some n
  | duration d => if d.nanos < 0 then none else some d.nanos.natAbs
  | _ => none

/-- A truth value. -/
def truth? : Content → Option Bool
  | boolean b => some b
  | _ => none

/-- A list of texts. -/
def items? : Content → Option (List Text)
  | array items => some items
  | _ => none

theorem captured?_string (c : Content) : c.captured? .string = c.line?.map id := by
  cases c with
  | string t => simp [captured?, line?]
  | _ => rfl

theorem captured?_number (c : Content) : c.captured? .number = c.number?.map decimal := by
  cases c with
  | duration d =>
    simp only [captured?, number?]
    split <;> rfl
  | _ => rfl

theorem captured?_boolean (c : Content) : c.captured? .boolean = c.truth?.map truthWord := by
  cases c <;> rfl

theorem captured?_stringArray (c : Content) : c.captured? .stringArray =
    c.items?.map fun items => [','].intercalate (items.map inQuotes) := by
  cases c <;> rfl

theorem IsShort.number {c : Content} (h : c.IsShort) {n : Nat} (hn : c.number? = some n) :
    (decimal n).length ≤ numeralLimit := by
  cases c with
  | integer k =>
    obtain rfl := Option.some.inj hn
    exact h
  | duration d =>
    simp only [number?] at hn
    split at hn
    · contradiction
    · obtain rfl := Option.some.inj hn
      exact h
  | _ => contradiction

end Content

section
variable {α : Type} (shows : Content → Option α) (name : Text)

/-- The first field with a matching name of which a reader sees something. -/
def firstField? (fields : List Field) : Option Field :=
  fields.find? fun f => sameLetters name f.name && (shows f.content).isSome

/-- What a reader sees of the first field with a matching name. -/
def firstShown? (fields : List Field) : Option α :=
  (firstField? shows name fields).bind fun f => shows f.content

variable {shows name}

theorem firstCaptured?_eq {k : FieldKind} {f : α → Text}
    (h : ∀ c : Content, c.captured? k = (shows c).map f) (fields : List Field) :
    firstCaptured? k name fields = (firstShown? shows name fields).map f := by
  induction fields with
  | nil => rfl
  | cons x fields ih =>
    simp only [firstCaptured?, firstShown?, firstField?, List.findSome?_cons, List.find?_cons] at *
    by_cases hx : sameLetters name x.name = true
    · cases hs : shows x.content with
      | none => simpa [hx, h, hs] using ih
      | some a => simp [hx, h, hs]
    · simp [hx, ih]

theorem firstField?_eq_some {fields : List Field} {x : Field}
    (h : firstField? shows name fields = some x) :
    x ∈ fields ∧ ∃ a, shows x.content = some a ∧ firstShown? shows name fields = some a := by
  have hx := List.find?_some h
  simp only [Bool.and_eq_true] at hx
  obtain ⟨a, ha⟩ := Option.isSome_iff_exists.1 hx.2
  exact ⟨List.mem_of_find?_eq_some h, a, ha, by rw [firstShown?, h, Option.bind_some, ha]⟩

theorem firstShown?_eq_none_iff {fields : List Field} :
    firstShown? shows name fields = none ↔ firstField? shows name fields = none := by
  constructor
  · intro h
    cases hx : firstField? shows name fields with
    | none => rfl
    | some x =>
      obtain ⟨-, a, -, ha⟩ := firstField?_eq_some hx
      rw [ha] at h
      contradiction
  · intro h
    rw [firstShown?, h, Option.bind_none]

theorem exists_firstField? {fields : List Field} {a : α}
    (h : firstShown? shows name fields = some a) :
    ∃ x ∈ fields, firstField? shows name fields = some x ∧ shows x.content = some a := by
  obtain ⟨x, hx, ha⟩ := Option.bind_eq_some_iff.1 h
  exact ⟨x, List.mem_of_find?_eq_some hx, hx, ha⟩

end

/-! ### The readers -/

/-- What the readers of a name find in a message is what they see of the first of these fields. -/
structure ReadsBack (name message : Text) (fields : List Field) : Prop where
  /-- A string is the first text on one line. -/
  string : readString? name message = firstShown? Content.line? name fields
  /-- If that is a timestamp, it is read as the wall clock that was written. -/
  timestamp : ∀ f c, firstField? Content.line? name fields = some f → f.content = .timestamp c →
    ∀ choice ∈ [ZoneChoice.named "UTC", .fixed .zero], ∀ s, ∃ m,
      (Session.readTimestamp name message (some choice)).run s = (.ok (some m), s) ∧
        m.clock = c ∧ m.offset = .zero ∧ m.repeated = false
  /-- A number is the first number. -/
  number : readNumber name message = .ok (firstShown? Content.number? name fields)
  /-- A duration is the first number as nanoseconds, rounded down. -/
  duration : ∀ d, readDuration name message = .ok (some d) ↔
    ∃ n, firstShown? Content.number? name fields = some n ∧ d.micros = (n / 1000 : Nat)
  /-- If that number was written for a duration, it is this duration. -/
  sameDuration : ∀ f d, firstField? Content.number? name fields = some f →
    f.content = .duration d → readDuration name message = .ok (some d)
  /-- Without a number there is no duration. -/
  noDuration : readDuration name message = .ok none ↔
    firstField? Content.number? name fields = none
  /-- A truth value is the first truth value. -/
  truth : readBool? name message = firstShown? Content.truth? name fields
  /-- An array is the first array. -/
  array : findStringArray? name message = firstShown? Content.items? name fields

section
variable {name message : Text} {fields : List Field}

theorem readString?_of_find
    (h : findField? name .string message = firstCaptured? .string name fields) :
    readString? name message = firstShown? Content.line? name fields := by
  rw [readString?, h, firstCaptured?_eq Content.captured?_string, Option.map_id, id]

/-- A number is read back from its numeral. -/
theorem readNumber_of_decimal {o : Option Nat} (h : findField? name .number message = o.map decimal)
    (hshort : ∀ n ∈ o, (decimal n).length ≤ numeralLimit) : readNumber name message = .ok o := by
  rw [readNumber, h]
  cases o with
  | none => rfl
  | some n => simp only [Option.map_some, readNumeral?_decimal (hshort n rfl)]

theorem readNumber_of_find
    (h : findField? name .number message = firstCaptured? .number name fields)
    (hshort : ∀ f ∈ fields, f.content.IsShort) :
    readNumber name message = .ok (firstShown? Content.number? name fields) := by
  rw [firstCaptured?_eq Content.captured?_number] at h
  refine readNumber_of_decimal h fun n hn => ?_
  obtain ⟨f, hf, -, hshown⟩ := exists_firstField? hn
  exact (hshort f hf).number hshown

theorem readBool?_of_find
    (h : findField? name .boolean message = firstCaptured? .boolean name fields) :
    readBool? name message = firstShown? Content.truth? name fields := by
  have words : sameLetters (truthWord true) ∘ truthWord = id := by
    funext b
    cases b <;> decide
  rw [readBool?, h, firstCaptured?_eq Content.captured?_boolean, Option.map_map, words,
    Option.map_id, id]

end

section
variable {name : Text} (hname : IsSearchable name) {members : List Member}
  (h : IsReadable members)
include hname h

theorem findStringArray?_objectText : findStringArray? name (objectText members) =
    firstShown? Content.items? name (fieldsOf members) := by
  rw [findStringArray?, findField?_objectText hname .stringArray h,
    firstCaptured?_eq Content.captured?_stringArray, Option.map_map]
  cases hitems : firstShown? Content.items? name (fieldsOf members) with
  | none => rfl
  | some items =>
    obtain ⟨f, hf, -, hshown⟩ := exists_firstField? hitems
    have hcontent : f.content = .array items := by
      cases hc : f.content <;> simp_all [Content.items?]
    have hquote : ∀ t ∈ items, '"' ∉ t := by
      intro t ht
      refine h.quote t (mem_textsOf (List.mem_cons_of_mem _ ?_) hf)
      rw [hcontent]
      exact ht
    have hcomma : ∀ t ∈ items, ',' ∉ t := fun t ht => (h.items f hf items hcontent t ht).1
    exact congrArg some (arrayElements_items hquote hcomma)

end

theorem readDuration_eq_some_iff {name message : Text} {o : Option Nat}
    (h : readNumber name message = .ok o) (d : Duration) :
    readDuration name message = .ok (some d) ↔ ∃ n, o = some n ∧ d.micros = (n / 1000 : Nat) := by
  rw [readDuration, h]
  cases o with
  | none => simp
  | some n =>
    simp only [Option.some.injEq, exists_eq_left', ← Duration.ofMicros?_eq_some]
    cases Duration.ofMicros? (n / 1000 : Nat) <;> simp

theorem readDuration_eq_none_iff {name message : Text} {o : Option Nat}
    (h : readNumber name message = .ok o) : readDuration name message = .ok none ↔ o = none := by
  rw [readDuration, h]
  cases o with
  | none => simp
  | some n =>
    simp only [reduceCtorEq, iff_false]
    split <;> simp

/-- A timestamp that was written is read as its wall clock in universal time. -/
theorem run_readTimestamp_render {name message : Text} {c : Clock}
    (h : readString? name message = some (c.render ++ ['Z'])) {choice : ZoneChoice}
    (hchoice : choice ∈ [ZoneChoice.named "UTC", .fixed .zero]) (s : Session) :
    ∃ m, (Session.readTimestamp name message (some choice)).run s = (.ok (some m), s) ∧
      m.clock = c ∧ m.offset = .zero ∧ m.repeated = false := by
  obtain ⟨m, hrun, hm⟩ := Session.run_timestamp_render (isUtc_of_mem hchoice s.zones) c
  exact ⟨m, Session.run_readTimestamp_eq_ok h hrun, hm⟩

/-- A duration is read from its nanoseconds. -/
theorem Content.micros_of_number? {d : Duration} {n : Nat}
    (h : (Content.duration d).number? = some n) : d.micros = (n / 1000 : Nat) := by
  simp only [number?] at h
  split at h
  · contradiction
  · obtain rfl := Option.some.inj h
    simp only [Duration.nanos] at *
    omega

/-- **Reading back what has been written.** After a row of calls that all succeed, with closed
messages as nested objects among them, each reader finds what it sees of the first field with a
matching name. -/
theorem readsBack_closed {entries : List Entry} {m : Message}
    (hm : writeAll .opened entries = .ok m) (h : IsReadable (membersOf entries)) {name : Text}
    (hname : IsSearchable name) : ReadsBack name m.closed (fieldsOf (membersOf entries)) := by
  have find (k : FieldKind) := findField?_objectText hname k h
  have hnumber := readNumber_of_find (find .number) (writeAll_content hm).2
  have hstring := readString?_of_find (find .string)
  rw [closed_eq_objectText hm]
  constructor
  case string => exact hstring
  case number => exact hnumber
  case truth => exact readBool?_of_find (find .boolean)
  case array => exact findStringArray?_objectText hname h
  case duration => exact readDuration_eq_some_iff hnumber
  case noDuration => exact (readDuration_eq_none_iff hnumber).trans firstShown?_eq_none_iff
  case sameDuration =>
    intro f d hf hd
    obtain ⟨-, n, hshown, hn⟩ := firstField?_eq_some hf
    rw [hd] at hshown
    exact (readDuration_eq_some_iff hnumber d).2 ⟨n, hn, Content.micros_of_number? hshown⟩
  case timestamp =>
    intro f c hf hc choice hchoice s
    obtain ⟨-, text, hshown, htext⟩ := firstField?_eq_some hf
    rw [hc] at hshown
    obtain rfl := Option.some.inj hshown
    exact run_readTimestamp_render (hstring.trans htext) hchoice s

/-- A name is found at any depth and whatever its case. -/
theorem readsBack_nested :
    ReadsBack ['N'] "\x7b\"m\": \x7b\"n\": \"x\"\x7d,\"n\": true\x7d".toList
      [⟨['n'], .string ['x']⟩, ⟨['n'], .boolean true⟩] := by
  have hm : writeAll .opened [.object ['m'] [.call ⟨['n'], .text ['x'], .absent⟩],
      .call ⟨['n'], .bool true, .absent⟩] =
        .ok ⟨"\x7b\"m\": \x7b\"n\": \"x\"\x7d,\"n\": true,".toList⟩ := by rfl
  refine readsBack_closed hm ⟨by decide, ?_⟩ ⟨by decide, by decide, by decide⟩
  intro f hf items hitems
  simp [membersOf, Entry.member?, fieldsOf, Member.fields, Value.content?] at hf
  rcases hf with rfl | rfl <;> contradiction

end FlatJson
