import FlatJson.Proofs.Calendar
import FlatJson.Proofs.Numeral
import FlatJson.Timestamp
import Mathlib.Algebra.Group.Nat.Defs
import Mathlib.Data.List.TakeWhile

/-!
# How timestamps are written

A timestamp is four digits for the year, two for each of month, day, hour, minute and second, with
marks between them, a fraction of one to nine digits that may be left out, and `Z` or an offset.
Digits may be those of any script, and the letters may be small.

* `Timestamp.IsSpelling` is this form, with the numbers that the digits stand for.
* `read?_eq_some_iff`: reading accepts exactly this form.
* `isSpelling_render`: a wall clock is written in this form when a `Z` is put behind it.
-/

namespace FlatJson

/-- A row of `width` digits that stands for a number. -/
structure IsDigitRow (width : Nat) (t : Text) (n : Nat) : Prop where
  /-- The row has that many characters. -/
  length : t.length = width
  /-- All of them are digits. -/
  digits : ∀ c ∈ t, isDigit c = true
  /-- The number is that of the digits in base ten. -/
  value : digitsValue t = n

/-- The fraction of a second, with the nanoseconds that it stands for. -/
inductive IsFraction : Text → Nat → Prop where
  /-- It may be left out. -/
  | absent : IsFraction [] 0
  /-- It has one to nine digits behind a point. -/
  | digits {row : Text} {width n : Nat} (h : IsDigitRow width row n) (one_le : 1 ≤ width)
      (le_nine : width ≤ 9) : IsFraction ('.' :: row) (n * Nat.pow 10 (9 - width))

/-- The offset from universal time, with the minutes that it stands for. -/
inductive IsOffset : Text → Int → Prop where
  /-- A letter stands for universal time. -/
  | zulu {mark : Char} (h : mark = 'Z' ∨ mark = 'z') : IsOffset [mark] 0
  /-- Hours and minutes ahead. -/
  | ahead {h m : Text} {hours minutes : Nat} (hh : IsDigitRow 2 h hours)
      (hm : IsDigitRow 2 m minutes) :
      IsOffset ('+' :: h ++ ':' :: m) (hours * 60 + minutes : Nat)
  /-- Hours and minutes behind. -/
  | behind {h m : Text} {hours minutes : Nat} (hh : IsDigitRow 2 h hours)
      (hm : IsDigitRow 2 m minutes) :
      IsOffset ('-' :: h ++ ':' :: m) (-(hours * 60 + minutes : Nat))

/-- The text is the written form of a timestamp. -/
inductive Timestamp.IsSpelling : Text → Timestamp → Prop where
  /-- The text consists of rows of digits for the numbers with marks between them. -/
  | parts {year month day hour minute second fraction offset : Text} {mark : Char}
      {y mo d h mi s nanos : Nat} {minutes : Int}
      (hyear : IsDigitRow 4 year y) (hmonth : IsDigitRow 2 month mo) (hday : IsDigitRow 2 day d)
      (hmark : mark = 'T' ∨ mark = 't')
      (hhour : IsDigitRow 2 hour h) (hminute : IsDigitRow 2 minute mi)
      (hsecond : IsDigitRow 2 second s) (hfraction : IsFraction fraction nanos)
      (hoffset : IsOffset offset minutes) :
      IsSpelling (year ++ '-' :: (month ++ '-' :: (day ++ mark :: (hour ++ ':' :: (minute ++
        ':' :: (second ++ (fraction ++ offset))))))) ⟨y, mo, d, h, mi, s, nanos, minutes⟩

/-! ### Rows of digits -/

theorem readDigits?_eq_some_iff {width n : Nat} {t rest : Text} :
    readDigits? width t = some (n, rest) ↔ ∃ row, t = row ++ rest ∧ IsDigitRow width row n := by
  simp only [readDigits?]
  constructor
  · split
    · rename_i h
      intro heq
      obtain ⟨rfl, rfl⟩ := Prod.mk.inj (Option.some.inj heq)
      exact ⟨t.take width, (List.take_append_drop width t).symm, h.1, List.all_eq_true.1 h.2, rfl⟩
    · intro h
      contradiction
  · rintro ⟨row, rfl, rfl, hdigits, rfl⟩
    rw [List.take_left, List.drop_left, if_pos ⟨rfl, List.all_eq_true.2 hdigits⟩]

theorem afterMark?_eq_some_iff {marks : List Char} {t rest : Text} :
    afterMark? marks t = some rest ↔ ∃ c ∈ marks, t = c :: rest := by
  cases t with
  | nil => simp [afterMark?]
  | cons c t =>
    simp only [afterMark?]
    constructor
    · split
      · rename_i hc
        intro h
        exact ⟨c, hc, by rw [Option.some.inj h]⟩
      · intro h
        contradiction
    · rintro ⟨d, hd, heq⟩
      obtain ⟨rfl, rfl⟩ := List.cons.inj heq
      exact if_pos hd

/-- A number that is not too long is written as a row of digits. -/
theorem isDigitRow_padded {width n : Nat} (h : n < 10 ^ width) :
    IsDigitRow width (padded width n) n := by
  refine ⟨length_padded width n, ?_, ?_⟩
  · clear h
    induction width generalizing n with
    | zero => simp [padded]
    | succ width ih =>
      intro c hc
      rcases List.mem_append.1 hc with hc | hc
      · exact ih c hc
      · rw [List.mem_singleton.1 hc]
        exact isDigit_digitChar (Nat.mod_lt n (by decide))
  · induction width generalizing n with
    | zero =>
      obtain rfl : n = 0 := by simpa using h
      rfl
    | succ width ih =>
      rw [padded, digitsValue_append_singleton, ih (by rw [Nat.pow_succ] at h; omega),
        digitValue?_digitChar _ (Nat.mod_lt _ (by decide)), Option.getD_some]
      omega

/-! ### Fractions and offsets -/

/-- The text does not begin with a digit or a point, so that a fraction ends before it. -/
def EndsFraction (t : Text) : Prop := ∀ c rest, t = c :: rest → c ≠ '.' ∧ isDigit c = false

theorem IsOffset.endsFraction {t : Text} {n : Int} (h : IsOffset t n) : EndsFraction t := by
  intro c rest ht
  cases h with
  | zulu hmark =>
    obtain ⟨rfl, -⟩ := List.cons.inj ht
    rcases hmark with rfl | rfl <;> decide
  | ahead =>
    obtain ⟨rfl, -⟩ := List.cons.inj ht
    decide
  | behind =>
    obtain ⟨rfl, -⟩ := List.cons.inj ht
    decide

theorem isFraction_of_readFraction? {t rest : Text} {n : Nat}
    (h : readFraction? t = some (n, rest)) : ∃ f, t = f ++ rest ∧ IsFraction f n := by
  unfold readFraction? at h
  split at h
  · rename_i t'
    simp only at h
    split at h
    · contradiction
    · rename_i hne
      obtain ⟨rfl, rfl⟩ := Prod.mk.inj (Option.some.inj h)
      obtain ⟨row, hrow⟩ : ∃ row, row = (t'.take 9).takeWhile isDigit := ⟨_, rfl⟩
      rw [← hrow] at hne ⊢
      -- a tenth digit would be left in the rest
      obtain ⟨more, hmore⟩ : ∃ more, t' = row ++ more := by
        refine ⟨(t'.take 9).dropWhile isDigit ++ t'.drop 9, ?_⟩
        rw [hrow, ← List.append_assoc, List.takeWhile_append_dropWhile, List.take_append_drop]
      refine ⟨'.' :: row, by rw [hmore]; simp, .digits ⟨rfl, ?_, rfl⟩ ?_ ?_⟩
      · intro c hc
        rw [hrow] at hc
        exact List.mem_takeWhile_imp hc
      · exact List.length_pos_iff.2 hne
      · rw [hrow]
        exact Nat.le_trans (List.takeWhile_sublist _).length_le (List.length_take_le 9 t')
  · obtain ⟨rfl, rfl⟩ := Prod.mk.inj (Option.some.inj h)
    exact ⟨[], rfl, .absent⟩

theorem readFraction?_append {f rest : Text} {n : Nat} (hf : IsFraction f n)
    (hrest : EndsFraction rest) : readFraction? (f ++ rest) = some (n, rest) := by
  cases hf with
  | absent =>
    cases rest with
    | nil => rfl
    | cons c rest =>
      have := (hrest c rest rfl).1
      simp [readFraction?, this]
  | @digits row width n hrow one_le le_nine =>
    obtain ⟨rfl, hdigits, rfl⟩ := hrow
    have htake : ((row ++ rest).take 9).takeWhile isDigit = row := by
      rw [List.take_append, List.take_of_length_le le_nine, List.takeWhile_append_of_pos hdigits]
      -- a row of fewer than nine digits ends before `rest`, a row of nine does not reach it
      cases rest with
      | nil => simp
      | cons c rest =>
        cases 9 - row.length with
        | zero => simp
        | succ k => simp [(hrest c rest rfl).2]
    have hne : row ≠ [] := List.length_pos_iff.1 one_le
    simp [readFraction?, htake, hne]

theorem readHoursMinutes?_eq_some_iff {t : Text} {n : Nat} :
    readHoursMinutes? t = some n ↔ ∃ h m hours minutes, t = h ++ ':' :: m ∧
      IsDigitRow 2 h hours ∧ IsDigitRow 2 m minutes ∧ n = hours * 60 + minutes := by
  simp only [readHoursMinutes?, bind, Option.bind_eq_some_iff, Prod.exists, readDigits?_eq_some_iff,
    afterMark?_eq_some_iff]
  constructor
  · rintro ⟨hours, t₁, ⟨h, rfl, hh⟩, t₂, ⟨c, hc, rfl⟩, minutes, t₃, ⟨m, rfl, hm⟩, heq⟩
    split at heq
    · subst t₃
      obtain rfl := List.mem_singleton.1 hc
      exact ⟨h, m, hours, minutes, by simp, hh, hm, (Option.some.inj heq).symm⟩
    · contradiction
  · rintro ⟨h, m, hours, minutes, rfl, hh, hm, rfl⟩
    exact ⟨hours, _, ⟨h, rfl, hh⟩, m, ⟨':', by simp, rfl⟩, minutes, [], ⟨m, by simp, hm⟩, by simp⟩

theorem readOffsetMinutes?_eq_some_iff {t : Text} {n : Int} :
    readOffsetMinutes? t = some n ↔ IsOffset t n := by
  constructor
  · intro h
    unfold readOffsetMinutes? at h
    split at h
    · obtain rfl := Option.some.inj h
      exact .zulu (.inl rfl)
    · obtain rfl := Option.some.inj h
      exact .zulu (.inr rfl)
    · obtain ⟨k, hk, rfl⟩ := Option.map_eq_some_iff.1 h
      obtain ⟨n, hn, hk⟩ := Option.bind_eq_some_iff.1 hk
      obtain rfl := Option.some.inj hk
      obtain ⟨h, m, hours, minutes, rfl, hh, hm, rfl⟩ := readHoursMinutes?_eq_some_iff.1 hn
      exact .ahead hh hm
    · obtain ⟨k, hk, rfl⟩ := Option.map_eq_some_iff.1 h
      obtain ⟨n, hn, hk⟩ := Option.bind_eq_some_iff.1 hk
      obtain rfl := Option.some.inj hk
      obtain ⟨h, m, hours, minutes, rfl, hh, hm, rfl⟩ := readHoursMinutes?_eq_some_iff.1 hn
      exact .behind hh hm
    · contradiction
  · intro h
    cases h with
    | zulu hmark => rcases hmark with rfl | rfl <;> rfl
    | ahead hh hm =>
      exact Option.map_eq_some_iff.2 ⟨_, Option.bind_eq_some_iff.2
        ⟨_, readHoursMinutes?_eq_some_iff.2 ⟨_, _, _, _, rfl, hh, hm, rfl⟩, rfl⟩, rfl⟩
    | behind hh hm =>
      exact Option.map_eq_some_iff.2 ⟨_, Option.bind_eq_some_iff.2
        ⟨_, readHoursMinutes?_eq_some_iff.2 ⟨_, _, _, _, rfl, hh, hm, rfl⟩, rfl⟩, rfl⟩

/-! ### Timestamps -/

/-- **Reading accepts exactly the written form.** The numbers read are those that the parts of the
text stand for. -/
theorem read?_eq_some_iff {t : Text} {w : Timestamp} :
    Timestamp.read? t = some w ↔ w.IsSpelling t := by
  simp only [Timestamp.read?, bind, Option.bind_eq_some_iff, Prod.exists, readDigits?_eq_some_iff,
    afterMark?_eq_some_iff, readOffsetMinutes?_eq_some_iff]
  constructor
  · rintro ⟨y, t₁, ⟨year, rfl, hyear⟩, t₂, ⟨c₁, hc₁, rfl⟩, mo, t₃, ⟨month, rfl, hmonth⟩,
      t₄, ⟨c₂, hc₂, rfl⟩, d, t₅, ⟨day, rfl, hday⟩, t₆, ⟨mark, hmark, rfl⟩,
      h, t₇, ⟨hour, rfl, hhour⟩, t₈, ⟨c₃, hc₃, rfl⟩, mi, t₉, ⟨minute, rfl, hminute⟩,
      t₁₀, ⟨c₄, hc₄, rfl⟩, s, t₁₁, ⟨second, rfl, hsecond⟩, nanos, offset, hf, minutes, hoffset, hw⟩
    obtain rfl := List.mem_singleton.1 hc₁
    obtain rfl := List.mem_singleton.1 hc₂
    obtain rfl := List.mem_singleton.1 hc₃
    obtain rfl := List.mem_singleton.1 hc₄
    obtain ⟨fraction, rfl, hfraction⟩ := isFraction_of_readFraction? hf
    obtain rfl := Option.some.inj hw
    exact .parts hyear hmonth hday (by simpa using hmark) hhour hminute hsecond hfraction hoffset
  · rintro ⟨hyear, hmonth, hday, hmark, hhour, hminute, hsecond, hfraction, hoffset⟩
    exact ⟨_, _, ⟨_, rfl, hyear⟩, _, ⟨_, by simp, rfl⟩, _, _, ⟨_, rfl, hmonth⟩,
      _, ⟨_, by simp, rfl⟩, _, _, ⟨_, rfl, hday⟩, _, ⟨_, by simpa using hmark, rfl⟩,
      _, _, ⟨_, rfl, hhour⟩, _, ⟨_, by simp, rfl⟩, _, _, ⟨_, rfl, hminute⟩,
      _, ⟨_, by simp, rfl⟩, _, _, ⟨_, rfl, hsecond⟩,
      _, _, readFraction?_append hfraction hoffset.endsFraction, _, hoffset, rfl⟩

/-- A text is the written form of one timestamp only. -/
theorem Timestamp.IsSpelling.unique {t : Text} {w w' : Timestamp} (h : w.IsSpelling t)
    (h' : w'.IsSpelling t) : w' = w := by
  have hread := read?_eq_some_iff.2 h
  rw [read?_eq_some_iff.2 h'] at hread
  exact Option.some.inj hread

theorem read?_eq_none_iff {t : Text} :
    Timestamp.read? t = none ↔ ¬∃ w : Timestamp, w.IsSpelling t := by
  simp only [Option.eq_none_iff_forall_ne_some, ne_eq, read?_eq_some_iff, not_exists]

/-- A wall clock with a `Z` behind it is written as a timestamp of universal time. -/
theorem isSpelling_render (c : Clock) :
    Timestamp.IsSpelling (c.render ++ ['Z']) ⟨c.date.year, c.date.month, c.date.day, c.time.hour,
      c.time.minute, c.time.second, c.time.micro * 1000, 0⟩ := by
  have hyear := c.date.valid.year_le
  have hmonth := c.date.month_le
  have hday := c.date.day_le
  have hhour := c.time.hour_lt
  have hminute := c.time.minute_lt
  have hsecond := c.time.second_lt
  have hmicro := c.time.micro_lt
  have hfraction := IsFraction.digits
    (@isDigitRow_padded 9 (c.time.micro * 1000) (by omega)) (by decide) (by decide)
  have hparts := Timestamp.IsSpelling.parts
    (@isDigitRow_padded 4 c.date.year (Nat.lt_succ_of_le hyear))
    (@isDigitRow_padded 2 c.date.month (by omega)) (@isDigitRow_padded 2 c.date.day (by omega))
    (.inl rfl) (@isDigitRow_padded 2 c.time.hour (by omega))
    (@isDigitRow_padded 2 c.time.minute (by omega))
    (@isDigitRow_padded 2 c.time.second (by omega)) hfraction (.zulu (.inl rfl))
  simpa [Clock.render] using hparts

end FlatJson
