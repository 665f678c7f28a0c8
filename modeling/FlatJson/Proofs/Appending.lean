import FlatJson.Proofs.Composition
import FlatJson.Proofs.Numeral
import Mathlib.Data.List.Forall2

/-!
# Runs of calls that append fields

A caller may hand any value to a message, under any label, and go on after a call that has failed.
Which calls fail, and with which error, is told here without the order in which the checks are made.

* `Admitted` are the values of a kind, `WritesAs` is the kind that a call means.
* `Refused` says why a call fails, `IsLeftOut` what is not worth writing, and `Brings` puts them
  together.
* `addAll_exact`: a run of calls appends what its calls bring about, in order, and a call that fails
  leaves the message as it was.
-/

namespace FlatJson

/-! ### What calls mean -/

/-- The values that may be written as a kind. -/
inductive Admitted : ValueKind → Value → Prop where
  /-- A text. -/
  | string (t : Text) : Admitted .string (.text t)
  /-- A truth value. -/
  | boolean (b : Bool) : Admitted .boolean (.bool b)
  /-- An integer, which a truth value is not. -/
  | integer (n : Int) : Admitted .integer (.int n)
  /-- A length of time. -/
  | duration (d : Duration) : Admitted .duration (.duration d)
  /-- A list of texts. -/
  | list (ts : List Text) : Admitted .stringArray (.list (ts.map .text))
  /-- A list of fixed length, of texts. -/
  | tuple (ts : List Text) : Admitted .stringArray (.tuple (ts.map .text))
  /-- A date with a time of day. -/
  | timestamp (c : Clock) (p : Option Placement) : Admitted .timestamp (.dateTime c p)
  /-- No string. -/
  | noString : Admitted .string .absent
  /-- No array. -/
  | noArray : Admitted .stringArray .absent
  /-- No timestamp. -/
  | noTimestamp : Admitted .timestamp .absent

/-- The kind that a value has by itself, whatever its elements are. -/
inductive OwnKind : Value → ValueKind → Prop where
  /-- A truth value. -/
  | bool (b : Bool) : OwnKind (.bool b) .boolean
  /-- An integer. -/
  | int (n : Int) : OwnKind (.int n) .integer
  /-- A length of time. -/
  | duration (d : Duration) : OwnKind (.duration d) .duration
  /-- A date with a time of day. -/
  | dateTime (c : Clock) (p : Option Placement) : OwnKind (.dateTime c p) .timestamp
  /-- A text. -/
  | text (t : Text) : OwnKind (.text t) .string
  /-- A list. -/
  | list (items : List Value) : OwnKind (.list items) .stringArray
  /-- A list of fixed length. -/
  | tuple (items : List Value) : OwnKind (.tuple items) .stringArray

/-- As what a call writes its value: as the kind that is given, or as the value's own without a
label. -/
inductive WritesAs : Addition → ValueKind → Prop where
  /-- A kind is given. -/
  | given (name : Text) (v : Value) (k : ValueKind) : WritesAs ⟨name, v, .value k⟩ k
  /-- No kind is given. -/
  | own (name : Text) {v : Value} {k : ValueKind} (h : OwnKind v k) : WritesAs ⟨name, v, .absent⟩ k

/-- Why a call fails. -/
inductive Refused : Addition → Error → Prop where
  /-- The label cannot be looked up. -/
  | unkeyed (name : Text) (v : Value) : Refused ⟨name, v, .unkeyed⟩ .unkeyedKind
  /-- There is a label that can be looked up and is not a kind of value. -/
  | unknown (name : Text) (v : Value) {label : KindLabel} (hgiven : label ≠ .absent)
      (hkeyed : label ≠ .unkeyed) (hkind : ∀ k, label ≠ .value k) :
      Refused ⟨name, v, label⟩ (.unknownKind label)
  /-- No kind is given, and the value has none by itself. -/
  | kindless (name : Text) {v : Value} (hv : v ≠ .absent) (h : ∀ k, ¬ OwnKind v k) :
      Refused ⟨name, v, .absent⟩ (.cannotEncode v.typeName)
  /-- The value is not one of the kind. -/
  | misfit {a : Addition} {k : ValueKind} (hk : WritesAs a k) (h : ¬ Admitted k a.value) :
      Refused a (.cannotWrite a.value.typeName k)
  /-- The numeral of an integer that is not negative has more digits than are written. -/
  | tooLong {a : Addition} {k : ValueKind} {n : Nat} (hk : WritesAs a k) (h : Admitted k a.value)
      (hv : a.value = .int n) (hn : 10 ^ numeralLimit ≤ n) : Refused a .numeralTooLong

/-- What is not worth writing. -/
inductive IsLeftOut : Value → Prop where
  /-- No value. -/
  | absent : IsLeftOut .absent
  /-- A negative integer. -/
  | negative {n : Int} (h : n < 0) : IsLeftOut (.int n)
  /-- A length of time of zero. -/
  | zero {d : Duration} (h : d.micros = 0) : IsLeftOut (.duration d)
  /-- An empty list. -/
  | emptyList : IsLeftOut (.list [])
  /-- An empty list of fixed length. -/
  | emptyTuple : IsLeftOut (.tuple [])

/-- What a call brings about: the error with which it fails, or the text that it appends. -/
inductive Brings (a : Addition) : Except Error Text → Prop where
  /-- The call fails. -/
  | refused {e : Error} (h : Refused a e) : Brings a (.error e)
  /-- No value is written without a kind. -/
  | omitted (hkind : a.kind = .absent) (hv : a.value = .absent) : Brings a (.ok [])
  /-- The value is not worth writing. -/
  | leftOut {k : ValueKind} (hk : WritesAs a k) (h : Admitted k a.value)
      (hv : IsLeftOut a.value) : Brings a (.ok [])
  /-- The field is written with a comma behind it. -/
  | written {k : ValueKind} {c : Content} (hk : WritesAs a k) (h : Admitted k a.value)
      (hc : a.value.content? = some c) (hn : ∀ n : Nat, a.value = .int n → n < 10 ^ numeralLimit) :
      Brings a (.ok ('"' :: a.name ++ '"' :: ':' :: ' ' :: c.text ++ [',']))

/-! ### Kinds of values -/

theorem admits_iff {k : ValueKind} {v : Value} : k.admits v = true ↔ Admitted k v := by
  constructor
  · intro h
    unfold ValueKind.admits at h
    split at h
    · rename_i habsent
      obtain rfl : v = .absent := by cases v <;> simp_all [Value.isAbsent]
      cases k with
      | string => exact .noString
      | stringArray => exact .noArray
      | timestamp => exact .noTimestamp
      | boolean | integer | duration => contradiction
    · rcases ValueKind.fits_cases h with ⟨t, rfl, rfl⟩ | ⟨b, rfl, rfl⟩ | ⟨n, rfl, rfl⟩ |
        ⟨d, rfl, rfl⟩ | ⟨items, rfl, hv, hall⟩ | ⟨c, p, rfl, rfl⟩
      · exact .string t
      · exact .boolean b
      · exact .integer n
      · exact .duration d
      · obtain ⟨ts, rfl⟩ := exists_map_text hall
        rcases hv with rfl | rfl
        · exact .list ts
        · exact .tuple ts
      · exact .timestamp c p
  · intro h
    cases h with
    | list ts | tuple ts =>
      simp [ValueKind.admits, Value.isAbsent, ValueKind.fits, Value.isText]
    | _ => rfl

/-- A value has the kind that is inferred, and a value without a kind is refused by the name of its
type. -/
theorem inferKind_cases (v : Value) : (∃ k, OwnKind v k ∧ v.inferKind = .ok k) ∨
    (∀ k, ¬ OwnKind v k) ∧ v.inferKind = .error (.cannotEncode v.typeName) := by
  cases v with
  | bool b => exact .inl ⟨_, .bool b, rfl⟩
  | int n => exact .inl ⟨_, .int n, rfl⟩
  | duration d => exact .inl ⟨_, .duration d, rfl⟩
  | dateTime c p => exact .inl ⟨_, .dateTime c p, rfl⟩
  | text t => exact .inl ⟨_, .text t, rfl⟩
  | list items => exact .inl ⟨_, .list items, rfl⟩
  | tuple items => exact .inl ⟨_, .tuple items, rfl⟩
  | _ => exact .inr ⟨fun _ h => (nomatch h), rfl⟩

theorem inferKind_of_ownKind {v : Value} {k : ValueKind} (h : OwnKind v k) :
    v.inferKind = .ok k := by
  cases h <;> rfl

/-! ### Numerals -/

theorem integerText_of_lt {n : Int} (h : n.natAbs < 10 ^ numeralLimit) :
    integerText n = .ok (signedDecimal n) := by
  rw [integerText, writeNumeral?, if_pos ((length_decimal_le_iff (by decide)).2 h)]

theorem integerText_of_ge {n : Int} (h : 10 ^ numeralLimit ≤ n.natAbs) :
    integerText n = .error .numeralTooLong := by
  have hlong : ¬ (decimal n.natAbs).length ≤ numeralLimit := by
    rw [length_decimal_le_iff (by decide)]
    exact Nat.not_lt.2 h
  rw [integerText, writeNumeral?, if_neg hlong]

/-- The nanoseconds of a duration are never too many to be written. -/
theorem Duration.nanos_lt (d : Duration) : d.nanos.natAbs < 10 ^ numeralLimit := by
  have := d.atLeast
  have := d.atMost
  have hlimit : 10 ^ 23 ≤ 10 ^ numeralLimit := Nat.pow_le_pow_right (by decide) (by decide)
  refine Nat.lt_of_lt_of_le ?_ hlimit
  simp only [nanos]
  omega

/-! ### Contents of admitted values -/

section
variable {k : ValueKind} {v : Value} (h : Admitted k v)
include h

theorem worthWriting_of_admitted : k.worthWriting v = .ok v.content?.isSome := by
  cases habsent : v.isAbsent with
  | true =>
    cases h with
    | noString | noArray | noTimestamp => rfl
    | _ => contradiction
  | false =>
    have hfits := admits_iff.2 h
    rw [ValueKind.admits, habsent] at hfits
    exact ValueKind.worthWriting_of_fits hfits

theorem content?_eq_none_iff : v.content? = none ↔ IsLeftOut v := by
  constructor
  · intro hc
    cases h with
    | string | boolean | timestamp => contradiction
    | integer n =>
      simp only [Value.content?, ite_eq_left_iff, reduceCtorEq, imp_false, Decidable.not_not] at hc
      exact .negative hc
    | duration d =>
      simp only [Value.content?, ite_eq_left_iff, reduceCtorEq, imp_false, Decidable.not_not] at hc
      exact .zero hc
    | list ts =>
      rw [content?_listed (.inl rfl)] at hc
      obtain rfl : ts = [] := by simpa using hc
      exact .emptyList
    | tuple ts =>
      rw [content?_listed (.inr rfl)] at hc
      obtain rfl : ts = [] := by simpa using hc
      exact .emptyTuple
    | noString | noArray | noTimestamp => exact .absent
  · intro hleft
    cases hleft with
    | absent | emptyList | emptyTuple => rfl
    | negative hn => exact if_pos hn
    | zero hd => exact if_pos hd

/-- An admitted value with a content is written as its content, unless it is an integer with too
long a numeral. -/
theorem encode_of_admitted {c : Content} (hc : v.content? = some c)
    (hn : ∀ n : Nat, v = .int n → n < 10 ^ numeralLimit) : k.encode v = .ok c.text := by
  cases h with
  | string | boolean | timestamp => cases hc; rfl
  | noString | noArray | noTimestamp => contradiction
  | list ts =>
    rw [content?_listed (.inl rfl)] at hc
    split at hc <;> cases hc
    exact encode_listed (.inl rfl)
  | tuple ts =>
    rw [content?_listed (.inr rfl)] at hc
    split at hc <;> cases hc
    exact encode_listed (.inr rfl)
  | integer n =>
    simp only [Value.content?] at hc
    split at hc <;> cases hc
    rename_i hpos
    obtain ⟨m, rfl⟩ : ∃ m : Nat, n = m := ⟨n.toNat, by omega⟩
    rw [Content.text, ← signedDecimal_toNat hpos]
    exact integerText_of_lt (hn m rfl)
  | duration d =>
    simp only [Value.content?] at hc
    split at hc <;> cases hc
    exact integerText_of_lt d.nanos_lt

end

/-! ### Single calls -/

/-- What a call appends, or the error with which it fails. -/
def Addition.outcome (a : Addition) : Except Error Text :=
  (fragment? a.name a.value a.kind).map (·.getD [])

theorem Message.add_eq (m : Message) (a : Addition) : m.add a = a.outcome.map m.append := by
  rw [Message.add, Addition.outcome]
  cases fragment? a.name a.value a.kind <;> rfl

/-- Without a kind a value that is there is written as its own. -/
theorem fragment?_own (name : Text) {v : Value} (hv : v ≠ .absent) :
    fragment? name v .absent = v.inferKind >>= fun k => k.fragment? name v := by
  cases v with
  | absent => contradiction
  | _ => rfl

section
variable {a : Addition} {k : ValueKind}

theorem outcome_of_writesAs (hk : WritesAs a k) :
    a.outcome = (k.fragment? a.name a.value).map (·.getD []) := by
  cases hk with
  | given => rfl
  | own name h =>
    rename_i v
    have hpresent : v ≠ .absent := by
      rintro rfl
      cases h
    rw [Addition.outcome, fragment?_own name hpresent, inferKind_of_ownKind h]
    rfl

/-- A call that may write its value appends what is worth writing of it. -/
theorem outcome_of_admitted (hk : WritesAs a k) (h : Admitted k a.value) :
    a.outcome = if a.value.content?.isSome then
      (k.encode a.value).map fun t => '"' :: a.name ++ '"' :: ':' :: ' ' :: t ++ [',']
      else .ok [] := by
  rw [outcome_of_writesAs hk, ValueKind.fragment?_of_admits (admits_iff.2 h),
    worthWriting_of_admitted h]
  cases a.value.content?.isSome with
  | false => rfl
  | true =>
    simp only [Except.bind, if_true]
    cases k.encode a.value with
    | error e => rfl
    | ok t => simp [Except.map, inQuotes]

theorem outcome_of_refused {e : Error} (h : Refused a e) : a.outcome = .error e := by
  cases h with
  | unkeyed => rfl
  | unknown name v hgiven hkeyed hkind =>
    rename_i label
    cases label with
    | value k => exact absurd rfl (hkind k)
    | absent | unkeyed => contradiction
    | field | named | other => rfl
  | kindless name hv h =>
    rename_i v
    obtain ⟨k, hk, -⟩ | ⟨-, hinfer⟩ := inferKind_cases v
    · exact absurd hk (h k)
    · rw [Addition.outcome, fragment?_own name hv, hinfer]
      rfl
  | misfit hk h =>
    rename_i k
    rw [← admits_iff] at h
    rw [outcome_of_writesAs hk, ValueKind.fragment?, ValueKind.check, if_neg h]
    rfl
  | tooLong hk h hv hn =>
    rename_i k n
    have hcontent : (Value.int n).content?.isSome = true := by simp [Value.content?]
    have hlong : k.encode (.int n) = .error .numeralTooLong := by
      rw [hv] at h
      cases h
      exact integerText_of_ge (by simpa using hn)
    rw [outcome_of_admitted hk h, hv, if_pos hcontent, hlong]
    rfl

theorem outcome_of_brings {r : Except Error Text} (h : Brings a r) : a.outcome = r := by
  cases h with
  | refused h => exact outcome_of_refused h
  | omitted hkind hv => rw [Addition.outcome, hkind, hv]; rfl
  | leftOut hk h hv => rw [outcome_of_admitted hk h, (content?_eq_none_iff h).2 hv]; rfl
  | written hk h hc hn =>
    rw [outcome_of_admitted hk h, hc, encode_of_admitted h hc hn]
    rfl

/-- A call means a kind, or it has no value and no kind, or it fails. -/
theorem writesAs_cases (a : Addition) :
    (∃ k, WritesAs a k) ∨ (a.kind = .absent ∧ a.value = .absent) ∨ ∃ e, Refused a e := by
  obtain ⟨name, v, label⟩ := a
  cases label with
  | absent =>
    obtain ⟨k, hk, -⟩ | ⟨h, -⟩ := inferKind_cases v
    · exact .inl ⟨k, .own name hk⟩
    · by_cases hv : v = .absent
      · exact .inr (.inl ⟨rfl, hv⟩)
      · exact .inr (.inr ⟨_, .kindless name hv h⟩)
  | value k => exact .inl ⟨k, .given name v k⟩
  | unkeyed => exact .inr (.inr ⟨_, .unkeyed name v⟩)
  | field | named | other =>
    exact .inr (.inr ⟨_, .unknown name v (by simp) (by simp) (by simp)⟩)

/-- Every call brings something about. -/
theorem exists_brings (a : Addition) : ∃ r, Brings a r := by
  obtain ⟨k, hk⟩ | ⟨hkind, hv⟩ | ⟨e, he⟩ := writesAs_cases a
  · by_cases h : Admitted k a.value
    · cases hc : a.value.content? with
      | none => exact ⟨_, .leftOut hk h ((content?_eq_none_iff h).1 hc)⟩
      | some c =>
        by_cases hn : ∀ n : Nat, a.value = .int n → n < 10 ^ numeralLimit
        · exact ⟨_, .written hk h hc hn⟩
        · obtain ⟨n, hn⟩ := Classical.not_forall.1 hn
          obtain ⟨hv, hn⟩ := Classical.not_imp.1 hn
          exact ⟨_, .refused (.tooLong hk h hv (Nat.not_lt.1 hn))⟩
    · exact ⟨_, .refused (.misfit hk h)⟩
  · exact ⟨_, .omitted hkind hv⟩
  · exact ⟨_, .refused he⟩

/-- A call brings about one thing only. -/
theorem outcome_eq_iff {r : Except Error Text} : a.outcome = r ↔ Brings a r := by
  constructor
  · rintro rfl
    obtain ⟨r, hr⟩ := exists_brings a
    rwa [outcome_of_brings hr]
  · exact outcome_of_brings

end

/-! ### Runs -/

namespace Message

variable (m : Message)

/-- The message after a call, be it that the call fails. -/
theorem toOption_add (a : Addition) :
    (m.add a).toOption.getD m = m.append (a.outcome.toOption.getD []) := by
  rw [add_eq]
  cases a.outcome with
  | error e => simp [Except.map, Except.toOption, append]
  | ok t => rfl

theorem addAll_append (calls calls' : List Addition) :
    m.addAll (calls ++ calls') = (m.addAll calls).addAll calls' :=
  List.foldl_append

theorem addAll_cons (a : Addition) (calls : List Addition) :
    m.addAll (a :: calls) = (m.append (a.outcome.toOption.getD [])).addAll calls := by
  rw [← toOption_add]
  rfl

theorem content_addAll (calls : List Addition) :
    (m.addAll calls).content = m.content ++ calls.flatMap fun a => a.outcome.toOption.getD [] := by
  induction calls generalizing m with
  | nil => exact (List.append_nil _).symm
  | cons a calls ih => rw [addAll_cons, ih, append, List.flatMap_cons, List.append_assoc]

end Message

/-- What a call does at its place in a run. -/
structure ActsExactly (before : Message) (a : Addition) (after : Message) : Prop where
  /-- It brings about what it should, whatever the message is. -/
  outcome : ∀ r, before.add a = r.map before.append ↔ Brings a r
  /-- If it fails, the message stays as it is. -/
  failed : ∀ e, before.add a = .error e → after = before
  /-- If it succeeds, the run goes on with what it leaves. -/
  succeeded : ∀ m, before.add a = .ok m → after = m

theorem actsExactly (m : Message) (a : Addition) : ActsExactly m a (m.addAll [a]) := by
  constructor
  case outcome =>
    intro r
    rw [← outcome_eq_iff, Message.add_eq]
    constructor
    · intro h
      cases ho : a.outcome with
      | error e => cases r <;> simp_all [Except.map]
      | ok t => cases r <;> simp_all [Except.map, Message.append]
    · rintro rfl
      rfl
  case failed =>
    intro e h
    rw [Message.addAll, List.foldl_cons, h]
    rfl
  case succeeded =>
    intro m' h
    rw [Message.addAll, List.foldl_cons, h]
    rfl

/-- **Runs of calls.** Every call of a run, whatever its name, value and label are, brings about
exactly one thing; the run appends what its calls bring about, in order, and a call that fails
leaves the message as it was. -/
theorem addAll_exact (m : Message) (calls : List Addition) :
    ∃ outcomes : List (Except Error Text),
      (∀ rs, List.Forall₂ Brings calls rs ↔ rs = outcomes) ∧
      (m.addAll calls).content = m.content ++ outcomes.flatMap (fun r => r.toOption.getD []) ∧
      ∀ done a more, calls = done ++ a :: more →
        ActsExactly (m.addAll done) a (m.addAll (done ++ [a])) := by
  refine ⟨calls.map Addition.outcome, fun rs => ?_, ?_, ?_⟩
  · have hbrings : Brings = fun a r => a.outcome = r := by
      funext a r
      exact propext outcome_eq_iff.symm
    rw [hbrings, ← List.forall₂_map_left_iff (f := Addition.outcome), List.forall₂_eq_eq_eq,
      eq_comm]
  · rw [Message.content_addAll, List.flatMap_map]
  · intro done a more _
    rw [Message.addAll_append]
    exact actsExactly _ a

/-- A call that fails and one that has nothing to write leave no trace among the others. -/
example : (Message.opened.addAll [⟨['a'], .int (-1), .absent⟩,
    ⟨['b'], .bool true, .value .integer⟩, ⟨['c'], .bool true, .absent⟩]).content =
      "\x7b\"c\": true,".toList := by rfl

end FlatJson
