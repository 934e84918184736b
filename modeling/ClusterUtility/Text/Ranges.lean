/-
Sets of characters as ranges of code points.

A table of ranges is in ascending order, and both ends of a range belong to
it. The tables of this folder are those of version 17 of Unicode; those of
marks and of wide characters have additions of version 18.
-/
namespace ClusterUtility.Text

/-- Whether a character is in one of a list of ranges. -/
def inRanges (ranges : List (Nat × Nat)) (c : Char) : Bool :=
  ranges.any fun (low, high) => decide (low ≤ c.toNat ∧ c.toNat ≤ high)

end ClusterUtility.Text
