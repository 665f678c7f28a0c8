import FlatJson.Proofs.Appending
import FlatJson.Proofs.FieldPlaces
import FlatJson.Proofs.ReadBack
import Mathlib.Data.Nat.Digits.Defs

/-!
# Number fields

A number field is read as a number or as a duration. Both readers find the same row of digits, and
they are exact as long as the row is not longer than the limit and the duration not longer than the
longest one.

* `NumeralOf` is the number of a row of digits of any script.
* `NumberRead` says what the two readers give for what is found.
* `findField?_alone`: in a message of one field the name is found where it was written, whatever it
  is.
* `number_fields`: what the readers give for any message, and for a number or a duration that was
  written.
-/

namespace FlatJson

/-! ### Numerals -/

/-- The number in base ten whose digits are the values of the characters, the most significant one
first. -/
def NumeralOf (row : Text) (n : Nat) : Prop :=
  ∃ ds : List Nat, row.map digitValue? = ds.map some ∧ n = Nat.ofDigits 10 ds.reverse

theorem numeralOf_digitsValue {row : Text} (h : ∀ c ∈ row, isDigit c = true) :
    NumeralOf row (digitsValue row) := by
  refine ⟨row.map fun c => (digitValue? c).getD 0, ?_, ?_⟩
  · rw [List.map_map]
    refine List.map_congr_left fun c hc => ?_
    obtain ⟨d, hd⟩ := Option.isSome_iff_exists.1 (h c hc)
    rw [Function.comp, hd, Option.getD_some]
  · rw [Nat.ofDigits_eq_foldr, List.foldr_reverse, List.foldl_map, digitsValue]
    simp only [Nat.cast_id, Nat.add_comm]

/-! ### Reading -/

/-- The microseconds of the longest duration: 999999999 days, 23 hours, 59 minutes, 59 seconds and
999999 microseconds. -/
def longestMicros : Nat :=
  (((999999999 * 24 + 23) * 60 + 59) * 60 + 59) * 1000000 + 999999

theorem Duration.micros_le (d : Duration) : d.micros ≤ longestMicros := d.atMost

theorem exists_duration {n : Nat} (h : n ≤ longestMicros) :
    ∃ d : Duration, d.micros = n ∧ Duration.ofMicros? n = some d := by
  have hle : (n : Int) ≤ longestMicros := Int.ofNat_le.2 h
  exact ⟨⟨n, by omega, hle⟩, rfl, Duration.ofMicros?_eq_some.2 rfl⟩

theorem ofMicros?_of_beyond {n : Nat} (h : longestMicros < n) :
    Duration.ofMicros? n = none := by
  rw [Option.eq_none_iff_forall_ne_some]
  intro d hd
  have := d.micros_le
  rw [Duration.ofMicros?_eq_some.1 hd] at this
  omega

/-- What is read as a number and as a duration, given the row of digits that is found. -/
inductive NumberRead :
    Option Text → Except Error (Option Nat) → Except Error (Option Duration) → Prop where
  /-- There is no number field. -/
  | absent : NumberRead none (.ok none) (.ok none)
  /-- The row has too many digits, leading zeros included. -/
  | tooLong {row : Text} (hlong : numeralLimit < row.length) :
      NumberRead (some row) (.error .numeralTooLong) (.error .numeralTooLong)
  /-- The number is read, and its nanoseconds make a duration, rounded down to microseconds. -/
  | exact {row : Text} {n : Nat} {d : Duration} (hshort : row.length ≤ numeralLimit)
      (hn : NumeralOf row n) (hfits : n / 1000 ≤ longestMicros) (hd : d.micros = (n / 1000 : Nat)) :
      NumberRead (some row) (.ok (some n)) (.ok (some d))
  /-- The number is read, and its nanoseconds exceed the longest duration. -/
  | beyond {row : Text} {n : Nat} (hshort : row.length ≤ numeralLimit) (hn : NumeralOf row n)
      (hbeyond : longestMicros < n / 1000) :
      NumberRead (some row) (.ok (some n)) (.error .durationTooLong)

theorem FieldAt.digits {name text : Text} {o : Occurrence} (h : FieldAt name .number text o) :
    ∀ c ∈ o.captured, isDigit c = true := by
  obtain ⟨before, lead, closing, rest, -, hfield, -⟩ := h
  obtain ⟨-, -, -, hvalue⟩ := hfield
  cases hvalue with
  | number hne hdigits hrest => exact hdigits

/-- Both readers go by the row of digits that is found. -/
theorem numberRead (name text : Text) : NumberRead (findField? name .number text)
    (readNumber name text) (readDuration name text) := by
  cases hfound : findField? name .number text with
  | none =>
    have hnumber : readNumber name text = .ok none := by rw [readNumber, hfound]
    rw [readDuration, hnumber]
    exact .absent
  | some row =>
    obtain ⟨o, ho, rfl⟩ := (findField?_eq_some_iff (by decide)).1 hfound
    have hn := numeralOf_digitsValue ho.mem.digits
    by_cases hshort : o.captured.length ≤ numeralLimit
    · have hnumber : readNumber name text = .ok (some (digitsValue o.captured)) := by
        simp only [readNumber, hfound, readNumeral?, if_pos hshort]
      rw [readDuration, hnumber]
      rcases Nat.lt_or_ge longestMicros (digitsValue o.captured / 1000) with hbeyond | hfits
      · simp only [ofMicros?_of_beyond hbeyond]
        exact .beyond hshort hn hbeyond
      · obtain ⟨d, hd, hmicros⟩ := exists_duration hfits
        simp only [hmicros]
        exact .exact hshort hn hfits hd
    · have hnumber : readNumber name text = .error .numeralTooLong := by
        simp only [readNumber, hfound, readNumeral?, if_neg hshort]
      rw [readDuration, hnumber]
      exact .tooLong (Nat.lt_of_not_le hshort)

/-! ### One field -/

/-- Where a field of a name would start behind its own opening quote, the closing quote of the name
would come after the one that was written. -/
theorem afterName?_of_suffix {name tail t : Text} (htail : '"' ∉ tail)
    (ht : t <:+ name ++ '"' :: tail) : afterName? name t = none := by
  rw [Option.eq_none_iff_forall_ne_some]
  intro s hs
  obtain ⟨before, hbefore⟩ := ht
  obtain ⟨n, u, rest, rfl, hn, -, -⟩ := afterName?_eq_some_iff.1 hs
  have hlength := length_of_sameLetters hn
  have hsplit : (before ++ '"' :: n) ++ '"' :: (u ++ ':' :: rest) = (name ++ ['"']) ++ tail := by
    simpa [inQuotes] using hbefore
  refine htail ?_
  rcases List.append_eq_append_iff.1 hsplit with ⟨w, hleft, hright⟩ | ⟨w, -, hright⟩
  · have hempty : w = [] := by
      have := congrArg List.length hleft
      simp only [List.length_append, List.length_cons, List.length_nil] at this
      exact List.length_eq_zero_iff.1 (by omega)
    rw [hempty, List.nil_append] at hright
    rw [← hright]
    exact List.mem_cons_self
  · rw [hright]
    exact List.mem_append_right _ List.mem_cons_self

/-- In a message of one field without quotes in its value, the name is found where it was written,
whatever it is, and nowhere else. -/
theorem findField?_alone {name tail : Text} (htail : '"' ∉ tail) (k : FieldKind) :
    findField? name k (inQuotes name ++ tail) =
      (afterSpaced? ':' tail).bind k.template.capture? := by
  have htext : inQuotes name ++ tail = '"' :: (name ++ '"' :: tail) := by simp [inQuotes]
  have hword : afterWord? name (name ++ '"' :: tail) = some ('"' :: tail) :=
    afterWord?_eq_some_iff.2 ⟨name, rfl, sameLetters_self name⟩
  have hname : afterName? name ('"' :: (name ++ '"' :: tail)) = afterSpaced? ':' tail := by
    rw [afterName?, afterSign?, if_pos rfl, Option.bind_some, hword]
    rfl
  have hlater : (fieldPattern name k.template).find? (name ++ '"' :: tail) = none := by
    rw [Pattern.find?_eq_none_iff]
    rintro o ⟨t, r, ht, hr, -⟩
    rw [matchAt?_fieldPattern (skipsBlanks k), afterName?_of_suffix htail ht] at hr
    contradiction
  rw [findField?, htext, find?_cons, capture?_fieldPattern, hname, hlater, Option.or_none]

/-- Of a field with a number the numeral is found, if it has no sign. -/
theorem findField?_numeral (name : Text) {c : Content} (hc : '"' ∉ c.text) :
    findField? name .number ('"' :: name ++ '"' :: ':' :: ' ' :: c.text ++ [',']) =
      c.number?.map decimal := by
  have htext : '"' :: name ++ '"' :: ':' :: ' ' :: c.text ++ [','] =
      inQuotes name ++ ([] ++ ':' :: ([' '] ++ (c.text ++ [',']))) := by
    simp [inQuotes]
  have htail : '"' ∉ [] ++ ':' :: ([' '] ++ (c.text ++ [','])) := by
    simpa using hc
  rw [htext, findField?_alone htail, isBlankRun_nil.afterSpaced?_mark (by decide),
    isBlankRun_space.dropWhile, dropWhile_content, Option.bind_some,
    capture?_number_content (endsValue_comma []).laid, Content.captured?_number]

theorem readNumber_alone (name : Text) {c : Content} (hc : '"' ∉ c.text) (hshort : c.IsShort) :
    readNumber name ('"' :: name ++ '"' :: ':' :: ' ' :: c.text ++ [',']) = .ok c.number? :=
  readNumber_of_decimal (findField?_numeral name hc) fun _ hn => hshort.number hn

/-! ### Written fields -/

theorem add_empty_of_brings {a : Addition} {t : Text} (h : Brings a (.ok t)) :
    Message.empty.add a = .ok ⟨t⟩ := by
  rw [Message.add_eq, outcome_of_brings h]
  rfl

/-- A number that is written alone is read as it is; a negative one is not written. -/
theorem exists_add_integer (name : Text) {n : Int} (h : n < 10 ^ numeralLimit) :
    ∃ m, Message.empty.add ⟨name, .int n, .value .integer⟩ = .ok m ∧
      readNumber name m.content = .ok (if n < 0 then none else some n.toNat) := by
  have hkind := WritesAs.given name (.int n) .integer
  by_cases hneg : n < 0
  · refine ⟨_, add_empty_of_brings (.leftOut hkind (.integer n) (.negative hneg)), ?_⟩
    rw [if_pos hneg]
    rfl
  · obtain ⟨k, rfl⟩ : ∃ k : Nat, n = k := ⟨n.toNat, by omega⟩
    have hk : k < 10 ^ numeralLimit := by exact_mod_cast h
    have hwritten : Brings ⟨name, .int k, .value .integer⟩
        (.ok ('"' :: name ++ '"' :: ':' :: ' ' :: (Content.integer k).text ++ [','])) := by
      refine .written hkind (.integer k) ?_ fun i hi => ?_
      · rw [Value.content?, if_neg hneg, Int.toNat_natCast]
      · obtain rfl : k = i := by simpa using hi
        exact hk
    refine ⟨_, add_empty_of_brings hwritten, ?_⟩
    rw [if_neg hneg, Int.toNat_natCast]
    exact readNumber_alone name (quote_notMem_decimal k)
      ((length_decimal_le_iff (by decide)).2 hk)

/-- A duration that is written alone is read as it is if it is positive; otherwise it is not written
or has a sign. -/
theorem exists_add_duration (name : Text) (d : Duration) :
    ∃ m, Message.empty.add ⟨name, .duration d, .value .duration⟩ = .ok m ∧
      readDuration name m.content = .ok (if 0 < d.micros then some d else none) := by
  have hkind := WritesAs.given name (.duration d) .duration
  by_cases hzero : d.micros = 0
  · refine ⟨_, add_empty_of_brings (.leftOut hkind (.duration d) (.zero hzero)), ?_⟩
    rw [if_neg (by omega)]
    rfl
  · have hwritten : Brings ⟨name, .duration d, .value .duration⟩
        (.ok ('"' :: name ++ '"' :: ':' :: ' ' :: (Content.duration d).text ++ [','])) :=
      .written hkind (.duration d) (by rw [Value.content?, if_neg hzero]) (by simp)
    have hquote : '"' ∉ (Content.duration d).text := quote_notMem_signedDecimal d.nanos
    have hshort : (Content.duration d).IsShort := (length_decimal_le_iff (by decide)).2 d.nanos_lt
    have hnumber := readNumber_alone name hquote hshort
    refine ⟨_, add_empty_of_brings hwritten, ?_⟩
    by_cases hpos : 0 < d.micros
    · have hsome : (Content.duration d).number? = some d.nanos.natAbs :=
        if_neg (by simp only [Duration.nanos]; omega)
      rw [if_pos hpos, readDuration_eq_some_iff hnumber]
      exact ⟨_, hsome, Content.micros_of_number? hsome⟩
    · have hnone : (Content.duration d).number? = none :=
        if_pos (by simp only [Duration.nanos]; omega)
      rw [if_neg hpos, readDuration_eq_none_iff hnumber]
      exact hnone

/-- **Number fields.** The readers of numbers and of durations go by the digits of the leftmost
number field, and give nothing in the same cases: if there is no such field. They fail with the same
error for too many digits, leading zeros included. Otherwise the number is exact, whatever scripts
its digits are of, and the duration is exact up to the longest one, beyond which its reader fails.
A number that can be written at all is read as it is, under every name, and so is every positive
duration. -/
theorem number_fields (name : Text) :
    (∀ text, ∃ found,
      (found = none ↔ ∀ o, ¬FieldAt name .number text o) ∧
      (∀ row, found = some row ↔ ∃ o, IsFirst (FieldAt name .number text) 0 o ∧ o.captured = row) ∧
      NumberRead found (readNumber name text) (readDuration name text)) ∧
    (∀ n : Int, n < 10 ^ numeralLimit → ∃ m,
      Message.empty.add ⟨name, .int n, .value .integer⟩ = .ok m ∧
        readNumber name m.content = .ok (if n < 0 then none else some n.toNat)) ∧
    (∀ n : Int, 10 ^ numeralLimit ≤ n →
      Message.empty.add ⟨name, .int n, .value .integer⟩ = .error .numeralTooLong) ∧
    ∀ d : Duration, ∃ m,
      Message.empty.add ⟨name, .duration d, .value .duration⟩ = .ok m ∧
        readDuration name m.content = .ok (if 0 < d.micros then some d else none) := by
  refine ⟨fun text => ?_, fun n => exists_add_integer name, fun n hn => ?_,
    exists_add_duration name⟩
  · exact ⟨_, findField?_eq_none_iff (by decide), fun row => findField?_eq_some_iff (by decide),
      numberRead name text⟩
  · obtain ⟨k, rfl⟩ := Int.eq_ofNat_of_zero_le (Int.le_trans (by positivity) hn)
    have hrefused : Refused ⟨name, .int k, .value .integer⟩ .numeralTooLong :=
      .tooLong (.given name (.int k) .integer) (.integer k) rfl (by exact_mod_cast hn)
    rw [Message.add_eq, outcome_of_refused hrefused]
    rfl

/-- The digits of a number may be of several scripts. -/
example : readNumber ['n'] "\"N\" :\t٣4".toList = .ok (some 34) := by decide +kernel

end FlatJson
