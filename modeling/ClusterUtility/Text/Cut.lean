/-
Cutting a text to a number of bytes without breaking a character.
-/
namespace ClusterUtility.Text

/-- The longest beginning of a text that fits into a number of bytes. -/
def cutChars : Nat → List Char → List Char
  | _, [] => []
  | room, c :: rest =>
      if c.utf8Size ≤ room then c :: cutChars (room - c.utf8Size) rest else []

/-- The longest beginning of a text that fits into a number of bytes. -/
def cut (room : Nat) (text : String) : String :=
  String.ofList (cutChars room text.toList)

end ClusterUtility.Text
