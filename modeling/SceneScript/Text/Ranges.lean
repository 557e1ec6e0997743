/-!
Membership of a code point in a table of closed ranges.
-/

namespace SceneScript.Text

def inRanges (ranges : List (Nat × Nat)) (code : Nat) : Bool :=
  ranges.any fun range => range.1 ≤ code && code ≤ range.2

theorem inRanges_iff (ranges : List (Nat × Nat)) (code : Nat) :
    inRanges ranges code = true ↔ ∃ range ∈ ranges, range.1 ≤ code ∧ code ≤ range.2 := by
  simp [inRanges]

end SceneScript.Text
