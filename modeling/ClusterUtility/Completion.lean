/-
Completion tags: what the client is told a statement came to, where that is
not the statement's own tag.

A tag is empty until it is written, and the first writing counts until the
tag is cleared. It holds at most `CompletionTag.room` bytes; a longer text is
cut where a character ends.
-/
import ClusterUtility.Text.Cut

namespace ClusterUtility

/-- A completion tag. Whether it was written is kept apart from its text,
since an empty text may be written. -/
structure CompletionTag where
  text : String
  isSet : Bool
deriving DecidableEq, Repr

namespace CompletionTag

/-- The number of bytes that a tag holds. -/
def room : Nat := 63

/-- A tag that was not written. -/
def unset : CompletionTag := ⟨"", false⟩

instance : EmptyCollection CompletionTag := ⟨unset⟩

instance : Inhabited CompletionTag := ⟨unset⟩

/-- Writes a text into a tag, unless one was written before. -/
def set (tag : CompletionTag) (text : String) : CompletionTag :=
  if tag.isSet then tag else ⟨Text.cut room text, true⟩

/-- The text of a command with a number of rows. -/
def counted (command : String) (rows : Nat) : String :=
  command ++ " " ++ toString rows

/-- Whether nothing is in the tag. -/
def isEmpty (tag : CompletionTag) : Bool := tag.text.isEmpty

end CompletionTag

end ClusterUtility
