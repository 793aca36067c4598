/-
This file holds sets of code points written as closed ranges, the form in which the properties of
characters are tabulated.
-/

namespace Testbed.Text

/-- Closed ranges of code points, ascending and apart. -/
abbrev Ranges := List (Nat × Nat)

/-- Whether a code point lies in one of the ranges. -/
def Ranges.contains (ranges : Ranges) (codePoint : Nat) : Bool :=
  ranges.any fun range => range.1 ≤ codePoint && codePoint ≤ range.2

theorem Ranges.contains_iff (ranges : Ranges) (codePoint : Nat) :
    ranges.contains codePoint = true ↔
      ∃ range ∈ ranges, range.1 ≤ codePoint ∧ codePoint ≤ range.2 := by
  simp [Ranges.contains]

end Testbed.Text
