/-
How wide a text is on a terminal.

The width of a text is not the sum over its characters: letters join, and
several characters make one picture. It is the sum of what each character adds
to what follows it.
-/
import ClusterUtility.Text.Following

namespace ClusterUtility.Text

/-- The columns of a list of characters, and what its first one is to a
character before it. -/
def measure (cs : List Char) : Int × Following :=
  cs.foldr (fun c (total, following) =>
    let (n, following) := following.before c
    (total + n, following)) (0, .of .plain)

/-- The number of columns of a line of text. -/
def width (line : String) : Nat :=
  (measure line.toList).1.toNat

end ClusterUtility.Text
