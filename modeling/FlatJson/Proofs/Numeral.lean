import FlatJson.Calendar.Clock
import Mathlib.Algebra.Group.Nat.Defs

/-!
# The characters of numerals and wall clocks

* `exists_of_mem_decimal`, `exists_of_mem_padded`: what is written for a number are the digits `0`
  to `9`.
* `exists_decimal_eq_cons`: a numeral is not empty.
* `length_decimal_le_iff`: the length of a numeral tells the size of the number.
* `mem_clockChars`: the characters with which a wall clock is written.
-/

namespace FlatJson

theorem isDigit_digitChar {d : Nat} (h : d < 10) : isDigit (digitChar d) = true := by
  rw [isDigit, digitValue?_digitChar d h]
  rfl

theorem exists_of_mem_decimal {n : Nat} {c : Char} (h : c ∈ decimal n) :
    ∃ d < 10, c = digitChar d := by
  induction n using Nat.strongRecOn with
  | ind n ih =>
    rw [decimal] at h
    split at h
    · rename_i hn
      exact ⟨n, hn, List.mem_singleton.1 h⟩
    · rcases List.mem_append.1 h with h | h
      · exact ih _ (by omega) h
      · exact ⟨n % 10, Nat.mod_lt _ (by decide), List.mem_singleton.1 h⟩

theorem exists_of_mem_padded {width n : Nat} {c : Char} (h : c ∈ padded width n) :
    ∃ d < 10, c = digitChar d := by
  induction width generalizing n with
  | zero => exact absurd h List.not_mem_nil
  | succ width ih =>
    rcases List.mem_append.1 h with h | h
    · exact ih h
    · exact ⟨n % 10, Nat.mod_lt _ (by decide), List.mem_singleton.1 h⟩

/-- A numeral begins with a digit. -/
theorem exists_decimal_eq_cons (n : Nat) : ∃ d < 10, ∃ more, decimal n = digitChar d :: more := by
  have hne : decimal n ≠ [] := by
    rw [decimal]
    split <;> simp
  obtain ⟨c, more, hcons⟩ := List.exists_cons_of_ne_nil hne
  obtain ⟨d, hd, rfl⟩ := exists_of_mem_decimal (n := n) (c := c) (by simp [hcons])
  exact ⟨d, hd, more, hcons⟩

/-- A numeral is as long as the number is large. -/
theorem length_decimal_le_iff {n width : Nat} (hwidth : 0 < width) :
    (decimal n).length ≤ width ↔ n < 10 ^ width := by
  induction width generalizing n with
  | zero => contradiction
  | succ width ih =>
    rw [decimal]
    split
    · rename_i hn
      have : 10 ^ 1 ≤ 10 ^ (width + 1) := Nat.pow_le_pow_right (by decide) hwidth
      simp only [List.length_singleton]
      omega
    · rename_i hn
      rw [List.length_append, List.length_singleton, Nat.add_le_add_iff_right, Nat.pow_succ,
        ← Nat.div_lt_iff_lt_mul (by decide)]
      rcases Nat.eq_zero_or_pos width with rfl | hpos
      · obtain ⟨d, -, more, hcons⟩ := exists_decimal_eq_cons (n / 10)
        simp only [hcons, List.length_cons, Nat.pow_zero]
        omega
      · exact ih hpos

/-- The digits of numerals. -/
def digitChars : List Char := ['0', '1', '2', '3', '4', '5', '6', '7', '8', '9']

theorem digitChar_mem {d : Nat} (h : d < 10) : digitChar d ∈ digitChars := by
  have table : ∀ d < 10, digitChar d ∈ digitChars := by decide
  exact table d h

theorem exists_of_mem_digitChars {c : Char} (h : c ∈ digitChars) : ∃ d < 10, c = digitChar d := by
  have hall : digitChars = (List.range 10).map digitChar := by decide
  rw [hall, List.mem_map] at h
  obtain ⟨d, hd, rfl⟩ := h
  exact ⟨d, List.mem_range.1 hd, rfl⟩

/-- The characters of wall clocks. -/
def clockChars : List Char := digitChars ++ ['-', 'T', ':', '.', 'Z']

theorem mem_clockChars {c : Char} {clock : Clock} (h : c ∈ clock.render ++ ['Z']) :
    c ∈ clockChars := by
  have row : ∀ width n, c ∈ padded width n → c ∈ clockChars := by
    intro width n h
    obtain ⟨d, hd, rfl⟩ := exists_of_mem_padded h
    exact List.mem_append_left _ (digitChar_mem hd)
  have marks : c ∈ ['-', 'T', ':', '.', 'Z'] → c ∈ clockChars := List.mem_append_right _
  simp only [Clock.render, List.mem_append, List.mem_cons, List.not_mem_nil, or_false] at h marks
  grind

theorem notMem_render {c : Char} (hc : c ∉ clockChars) (clock : Clock) :
    c ∉ clock.render ++ ['Z'] :=
  fun h => hc (mem_clockChars h)

end FlatJson
