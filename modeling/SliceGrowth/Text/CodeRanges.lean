/-!
Sets of characters given by the ranges of their code points.
-/
namespace SliceGrowth.Text

/-- Inclusive ranges of code points, in increasing order. -/
abbrev CodeRanges := Array (Nat × Nat)

def CodeRanges.contains (ranges : CodeRanges) (c : Char) : Bool :=
  ranges.any fun (first, last) => first ≤ c.toNat && c.toNat ≤ last

end SliceGrowth.Text
