import FlatJson.Text.Basic
import FlatJson.Text.Digit

/-!
# Numerals

Numbers are written in base ten with the digits `0` to `9`, and read from decimal digits of any
script. Numerals of more than `numeralLimit` digits are neither written nor read.

* `decimal` writes a natural number, `signedDecimal` an integer, `padded` a number of fixed width.
* `digitsValue` is the number that a row of digits stands for.
* `readNumeral?` and `writeNumeral?` are the two with the limit on the length.
-/

namespace FlatJson

/-- The greatest number of digits of a numeral. -/
def numeralLimit : Nat := 4300

/-- The character `0` to `9` for a digit. -/
def digitChar (d : Nat) : Char := Char.ofNat ('0'.toNat + d)

/-- The decimal numeral of a natural number, without leading zeros. -/
def decimal (n : Nat) : Text :=
  if n < 10 then [digitChar n] else decimal (n / 10) ++ [digitChar (n % 10)]
termination_by n

/-- The decimal numeral of an integer, with a minus sign before a negative one. -/
def signedDecimal (n : Int) : Text :=
  if n < 0 then '-' :: decimal n.natAbs else decimal n.natAbs

/-- The last `width` decimal digits of a number, zeros included. -/
def padded : Nat → Nat → Text
  | 0, _ => []
  | width + 1, n => padded width (n / 10) ++ [digitChar (n % 10)]

/-- The number that the digits of a text stand for, most significant first. -/
def digitsValue (t : Text) : Nat :=
  t.foldl (fun n c => 10 * n + (digitValue? c).getD 0) 0

/-- The number that a row of digits stands for, unless it is longer than `numeralLimit`; leading
zeros count. -/
def readNumeral? (t : Text) : Option Nat :=
  if t.length ≤ numeralLimit then some (digitsValue t) else none

/-- The numeral of an integer, unless it has more than `numeralLimit` digits. -/
def writeNumeral? (n : Int) : Option Text :=
  if (decimal n.natAbs).length ≤ numeralLimit then some (signedDecimal n) else none

theorem digitValue?_digitChar : ∀ d, d < 10 → digitValue? (digitChar d) = some d := by decide

@[simp] theorem length_padded (width n : Nat) : (padded width n).length = width := by
  induction width generalizing n with
  | zero => rfl
  | succ width ih => simp [padded, ih]

@[simp] theorem digitsValue_nil : digitsValue [] = 0 := rfl

theorem digitsValue_append_singleton (t : Text) (c : Char) :
    digitsValue (t ++ [c]) = 10 * digitsValue t + (digitValue? c).getD 0 := by
  simp [digitsValue]

/-- A numeral stands for the number it was written for. -/
theorem digitsValue_decimal (n : Nat) : digitsValue (decimal n) = n := by
  induction n using Nat.strongRecOn with
  | ind n ih =>
    rw [decimal]
    split
    · rename_i h
      rw [← List.nil_append [digitChar n], digitsValue_append_singleton, digitValue?_digitChar n h]
      simp
    · rw [digitsValue_append_singleton, ih _ (by omega),
        digitValue?_digitChar _ (Nat.mod_lt _ (by decide)), Option.getD_some]
      omega

/-- What is written can be read back, signs aside. -/
theorem readNumeral?_decimal {n : Nat} (h : (decimal n).length ≤ numeralLimit) :
    readNumeral? (decimal n) = some n := by
  rw [readNumeral?, if_pos h, digitsValue_decimal]

end FlatJson
