/-!
# Ranges of code points

A property of characters is written as a list of ranges of code points, both ends included.
-/

namespace TodoLedger.Text

/-- The first and the last code point of a range. -/
abbrev Range := Nat × Nat

namespace Range

/-- True when `c` lies in one of the ranges. -/
def cover (ranges : List Range) (c : Char) : Bool :=
  ranges.any fun r => r.1 ≤ c.toNat && c.toNat ≤ r.2

/-- A character is covered if its code point lies in one of the ranges. -/
theorem cover_iff {ranges : List Range} {c : Char} :
    cover ranges c ↔ ∃ r ∈ ranges, r.1 ≤ c.toNat ∧ c.toNat ≤ r.2 := by
  simp [cover]

end Range

end TodoLedger.Text
