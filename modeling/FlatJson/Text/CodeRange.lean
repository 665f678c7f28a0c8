/-!
# Ranges of code points

Classes of characters are given by tables of code point ranges.

* `CodeRange.covers_iff`: a table covers a character when its code point lies in one of the ranges.
-/

namespace FlatJson

/-- The code points from `first` to `last`, both ends included. -/
structure CodeRange where
  /-- The least code point of the range. -/
  first : Nat
  /-- The greatest code point of the range. -/
  last : Nat

namespace CodeRange

/-- The range holds the character. -/
def has (r : CodeRange) (c : Char) : Bool := r.first ≤ c.toNat && c.toNat ≤ r.last

/-- One of the ranges of the table holds the character. -/
def covers (table : List CodeRange) (c : Char) : Bool := table.any (·.has c)

/-- A table covers a character exactly when the character's code point lies in one of its ranges. -/
theorem covers_iff {table : List CodeRange} {c : Char} :
    covers table c = true ↔ ∃ r ∈ table, r.first ≤ c.toNat ∧ c.toNat ≤ r.last := by
  simp [covers, has]

end CodeRange

end FlatJson
