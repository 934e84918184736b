/-
SQL identifiers as text.

A name of small letters, digits and underscores that does not begin with a
digit stands for itself. Any other name is written between double quotes,
with each double quote of its own written twice.
-/
namespace ClusterUtility.Text

/-- A character that a plain identifier may begin with. -/
def beginsIdentifier (c : Char) : Bool := ('a' ≤ c && c ≤ 'z') || c == '_'

/-- A character that may stand in a plain identifier. -/
def inIdentifier (c : Char) : Bool :=
  beginsIdentifier c || ('0' ≤ c && c ≤ '9')

/-- Whether a name is a plain identifier. -/
def isPlainIdentifier : List Char → Bool
  | [] => false
  | c :: rest => beginsIdentifier c && rest.all inIdentifier

/-- A text with each double quote written twice. -/
def doubleQuotes : List Char → List Char
  | [] => []
  | c :: rest =>
      if c = '"' then '"' :: '"' :: doubleQuotes rest
      else c :: doubleQuotes rest

/-- A name as the characters of an identifier. -/
def identifierChars (name : List Char) : List Char :=
  if isPlainIdentifier name then name else '"' :: (doubleQuotes name ++ ['"'])

/-- A name as an identifier. -/
def identifier (name : String) : String :=
  String.ofList (identifierChars name.toList)

end ClusterUtility.Text
