import FlatJson.Text.Basic
import FlatJson.Text.Blank
import FlatJson.Text.Case
import FlatJson.Text.Digit

/-!
# Signs

The characters that give a message its shape (quotes, colons, commas, brackets and braces) have no
case: no other character is compared equal to one of them.

* `sameLetter_sign_iff`: a sign is the same letter as itself only.
* `letterKey_blank`, `isDigit_blank`: a blank character is neither a letter nor a digit.
-/

namespace FlatJson

/-! ### Keys of letters -/

theorem lowerRuns_target_ge : ∀ r ∈ lowerRuns, 0x69 ≤ r.target := by decide +kernel

theorem lowerVariants_ge : ∀ p ∈ lowerVariants, 0x69 ≤ p.2 := by decide

/-- Beyond ASCII no lower-case form is an ASCII sign. -/
theorem lowerCode_ge {n : Nat} (h : 0x80 ≤ n) : 0x69 ≤ lowerCode n := by
  unfold lowerCode
  split
  · rename_i r hr
    have := lowerRuns_target_ge r (List.mem_of_find?_eq_some hr)
    simp only [LowerRun.lower]
    omega
  · omega

theorem usualCode_ge {n : Nat} (h : 0x69 ≤ n) : 0x69 ≤ usualCode n := by
  unfold usualCode
  cases hl : lowerVariants.lookup n with
  | none => exact h
  | some m =>
    obtain ⟨p, hp, -, rfl⟩ : ∃ p ∈ lowerVariants, p.1 = n ∧ p.2 = m := by
      obtain ⟨l₁, l₂, hsplit, -⟩ := List.lookup_eq_some_iff.1 hl
      exact ⟨(n, m), by rw [hsplit]; simp, rfl, rfl⟩
    exact lowerVariants_ge p hp

/-- A sign is an ASCII character that is not a letter and comes before the small letters. -/
def isSign (c : Char) : Bool :=
  c.toNat < 0x41 || (0x5b ≤ c.toNat && c.toNat < 0x61)

theorem letterKey_sign {c : Char} (h : isSign c = true) : letterKey c = c.toNat := by
  simp only [isSign, Bool.or_eq_true, Bool.and_eq_true, decide_eq_true_eq] at h
  simp only [letterKey]
  rw [if_pos (by omega), if_neg (by simp only [Bool.and_eq_true, decide_eq_true_eq]; omega)]

/-- Only signs have the keys of signs. -/
theorem letterKey_lt {c : Char} (h : letterKey c < 0x61) : letterKey c = c.toNat := by
  simp only [letterKey] at *
  split at h
  · split at h
    · simp_all only [Bool.and_eq_true, decide_eq_true_eq]
      omega
    · simp_all
  · have := usualCode_ge (lowerCode_ge (n := c.toNat) (by omega))
    omega

/-- A sign is the same letter as itself only. -/
theorem sameLetter_sign_iff {a b : Char} (h : isSign a = true) : sameLetter a b = true ↔ a = b := by
  rw [sameLetter_iff, letterKey_sign h]
  constructor
  · intro hab
    have hlt : letterKey b < 0x61 := by
      simp only [isSign, Bool.or_eq_true, Bool.and_eq_true, decide_eq_true_eq] at h
      omega
    exact Char.toNat_inj.1 (hab.trans (letterKey_lt hlt))
  · rintro rfl
    exact (letterKey_sign h).symm

theorem sameLetter_comm (a b : Char) : sameLetter a b = sameLetter b a := by
  rw [Bool.eq_iff_iff, sameLetter_iff, sameLetter_iff, eq_comm]

theorem sameLetters_self (t : Text) : sameLetters t t = true := by
  induction t with
  | nil => rfl
  | cons c t ih => rw [sameLetters, sameLetter_iff.2 rfl, ih, Bool.and_self]

theorem length_of_sameLetters {t u : Text} (h : sameLetters t u = true) : t.length = u.length := by
  fun_induction sameLetters t u with
  | case1 => rfl
  | case2 a t b u ih =>
    simp only [Bool.and_eq_true] at h
    rw [List.length_cons, List.length_cons, ih h.2]
  | case3 => contradiction

/-- A text compared with one that has no such sign does not have it either. -/
theorem not_mem_of_sameLetters {s : Char} (hs : isSign s = true) {n t : Text} (hn : s ∉ n)
    (h : sameLetters n t = true) : s ∉ t := by
  fun_induction sameLetters n t with
  | case1 => exact hn
  | case2 a n b t ih =>
    simp only [Bool.and_eq_true] at h
    simp only [List.mem_cons, not_or] at hn ⊢
    refine ⟨?_, ih hn.2 h.2⟩
    rintro rfl
    rw [sameLetter_comm] at h
    exact hn.1 ((sameLetter_sign_iff hs).1 h.1)
  | case3 => simp at h

/-! ### Blank characters -/

/-- The code points of the blank characters. -/
def blankCodes : List Nat :=
  [0x9, 0xa, 0xb, 0xc, 0xd, 0x1c, 0x1d, 0x1e, 0x1f, 0x20, 0x85, 0xa0, 0x1680, 0x2000, 0x2001,
    0x2002, 0x2003, 0x2004, 0x2005, 0x2006, 0x2007, 0x2008, 0x2009, 0x200a, 0x2028, 0x2029, 0x202f,
    0x205f, 0x3000]

theorem mem_blankCodes {c : Char} (h : isBlank c = true) : c.toNat ∈ blankCodes := by
  simp only [isBlank, isBlankCode, Bool.or_eq_true, Bool.and_eq_true, decide_eq_true_eq,
    beq_iff_eq] at h
  simp only [blankCodes, List.mem_cons, List.not_mem_nil, or_false]
  omega

/-- A blank character has no case. -/
theorem letterKey_blank {c : Char} (h : isBlank c = true) : letterKey c = c.toNat := by
  have key : ∀ n ∈ blankCodes, (if n < 0x80 then if 0x41 ≤ n && n ≤ 0x5a then n + 0x20 else n
      else usualCode (lowerCode n)) = n := by decide +kernel
  exact key _ (mem_blankCodes h)

/-- A blank character is no case form of a character that is not blank. -/
theorem sameLetter_blank {a c : Char} (hc : isBlank c = true) (ha : letterKey a ∉ blankCodes) :
    sameLetter a c = false := by
  rw [← Bool.not_eq_true, sameLetter_iff, letterKey_blank hc]
  intro h
  exact ha (h ▸ mem_blankCodes hc)

theorem isDigit_blank {c : Char} (h : isBlank c = true) : isDigit c = false := by
  rw [← Bool.not_eq_true, isDigit, Option.isSome_iff_exists]
  rintro ⟨d, hd⟩
  obtain ⟨hlt, base, hbase, hc⟩ := digitValue?_eq_some_iff.1 hd
  have apart : ∀ base ∈ zeroCodes, ∀ n ∈ blankCodes, n < base ∨ base + 10 ≤ n := by decide +kernel
  have := apart base hbase _ (mem_blankCodes h)
  omega

end FlatJson
