/-! # Character ranges

    A table of a character property is a list of closed ranges of code points.
-/

namespace LoggerTree.Text

/-- Whether a character lies in one of the ranges, both ends included. -/
def inRanges (ranges : List (Nat × Nat)) (c : Char) : Bool :=
  ranges.any fun (low, high) => low ≤ c.toNat && c.toNat ≤ high

end LoggerTree.Text
