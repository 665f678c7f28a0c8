/-!
# Decimal digits

The characters of the Unicode general category `Nd`. They come in groups of ten consecutive code
points, one group for each script, so the table lists the zeros.

* `digitValue?` is the value of a digit in its script.
-/

namespace FlatJson

/-- The code points of the zeros, ascending. -/
def zeroCodes : List Nat :=
  [0x30, 0x660, 0x6f0, 0x7c0, 0x966, 0x9e6, 0xa66, 0xae6, 0xb66, 0xbe6, 0xc66, 0xce6, 0xd66,
    0xde6, 0xe50, 0xed0, 0xf20, 0x1040, 0x1090, 0x17e0, 0x1810, 0x1946, 0x19d0, 0x1a80, 0x1a90,
    0x1b50, 0x1bb0, 0x1c40, 0x1c50, 0xa620, 0xa8d0, 0xa900, 0xa9d0, 0xa9f0, 0xaa50, 0xabf0,
    0xff10, 0x104a0, 0x10d30, 0x11066, 0x110f0, 0x11136, 0x111d0, 0x112f0, 0x11450, 0x114d0,
    0x11650, 0x116c0, 0x11730, 0x118e0, 0x11950, 0x11c50, 0x11d50, 0x11da0, 0x16a60, 0x16ac0,
    0x16b50, 0x1d7ce, 0x1d7d8, 0x1d7e2, 0x1d7ec, 0x1d7f6, 0x1e140, 0x1e2f0, 0x1e950, 0x1fbf0]

/-- The value of a decimal digit of any script, or `none` for another character. Only the first
group that does not end before the character can hold it. -/
def digitValue? (c : Char) : Option Nat :=
  match zeroCodes.find? fun base => c.toNat < base + 10 with
  | some base => if base ≤ c.toNat then some (c.toNat - base) else none
  | none => none

/-- The character is a decimal digit. -/
def isDigit (c : Char) : Bool := (digitValue? c).isSome

/-- A digit's value is less than ten. -/
theorem digitValue?_lt {c : Char} {d : Nat} (h : digitValue? c = some d) : d < 10 := by
  unfold digitValue? at h
  split at h
  · rename_i base hb
    have := List.find?_some hb
    simp only [decide_eq_true_eq] at this
    split at h
    · obtain rfl := Option.some.inj h
      omega
    · contradiction
  · contradiction

/-- In groups of ten that do not overlap, the first one that does not end before a number holds it
if any does. -/
theorem find?_group {bases : List Nat} (ascending : bases.Pairwise fun a b => a + 10 ≤ b)
    {base n : Nat} (hb : base ∈ bases) (hle : base ≤ n) (hlt : n < base + 10) :
    bases.find? (fun b => n < b + 10) = some base := by
  induction bases with
  | nil => contradiction
  | cons b bases ih =>
    rw [List.pairwise_cons] at ascending
    rcases List.mem_cons.1 hb with rfl | hb
    · simp [hlt]
    · have := ascending.1 base hb
      rw [List.find?_cons_of_neg (by simp only [decide_eq_true_eq]; omega)]
      exact ih ascending.2 hb

theorem zeroCodes_ascending : zeroCodes.Pairwise fun a b => a + 10 ≤ b := by decide

/-- A digit is as far from a zero as its value says. -/
theorem digitValue?_eq_some_iff {c : Char} {d : Nat} :
    digitValue? c = some d ↔ d < 10 ∧ ∃ base ∈ zeroCodes, c.toNat = base + d := by
  constructor
  · intro h
    refine ⟨digitValue?_lt h, ?_⟩
    unfold digitValue? at h
    split at h
    · rename_i base hb
      split at h
      · obtain rfl := Option.some.inj h
        exact ⟨base, List.mem_of_find?_eq_some hb, by omega⟩
      · contradiction
    · contradiction
  · rintro ⟨hd, base, hb, hc⟩
    unfold digitValue?
    rw [find?_group zeroCodes_ascending hb (by omega) (by omega)]
    simp [hc]

end FlatJson
