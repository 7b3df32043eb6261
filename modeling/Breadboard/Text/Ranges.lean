import Breadboard.Text.Basic

/-! Sets of code points, given by the ends of their ranges. -/

namespace Breadboard

abbrev Ranges := List (Nat × Nat)

def Ranges.contains (ranges : Ranges) (n : Nat) : Bool :=
  ranges.any fun (first, last) => first ≤ n && n ≤ last

theorem Ranges.contains_iff {ranges : Ranges} {n : Nat} :
    ranges.contains n = true ↔ ∃ range ∈ ranges, range.1 ≤ n ∧ n ≤ range.2 := by
  simp [Ranges.contains]

end Breadboard
