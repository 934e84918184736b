/-
Writing JSON text, on one line or indented.

Both forms write the members of an object in their order and leave
characters outside ASCII as they are. What is written is a whole value; for a
part that is not, null stands in.
-/
import ClusterUtility.Json.Basic

namespace ClusterUtility.Json

/-- The hexadecimal digit of a number below sixteen. -/
def hexChar (n : Nat) : Char :=
  (Nat.digitChar n)

/-- A character as it stands between quotes. -/
def escapeChar (c : Char) : List Char :=
  match c with
  | '"' => ['\\', '"']
  | '\\' => ['\\', '\\']
  | '\x08' => ['\\', 'b']
  | '\x0c' => ['\\', 'f']
  | '\n' => ['\\', 'n']
  | '\r' => ['\\', 'r']
  | '\t' => ['\\', 't']
  | _ =>
      if c.toNat < 0x20 then
        ['\\', 'u', '0', '0', hexChar (c.toNat / 16), hexChar (c.toNat % 16)]
      else [c]

/-- A text between quotes. -/
def quote (s : String) : String :=
  "\"" ++ String.ofList (s.toList.flatMap escapeChar) ++ "\""

/-- A value without members or items. -/
def scalarText : Json → String
  | .null => "null"
  | .bool true => "true"
  | .bool false => "false"
  | .int n => toString n
  | .real x => x.text
  | .str s => quote s
  | .arr _ => "[]"
  | .obj _ => "\x7b\x7d"
  | .unreadable => "null"

mutual

/-- A value on one line. -/
def compact : Json → String
  | .arr items => "[" ++ String.intercalate "," (compactItems items) ++ "]"
  | .obj members =>
      "\x7b" ++ String.intercalate "," (compactMembers members) ++ "\x7d"
  | value => scalarText value

/-- Each item on one line. -/
def compactItems : List Json → List String
  | [] => []
  | item :: rest => item.compact :: compactItems rest

/-- Each member on one line. -/
def compactMembers : List (String × Json) → List String
  | [] => []
  | (name, value) :: rest =>
      (quote name ++ ":" ++ value.compact) :: compactMembers rest

end

/-- The blanks at the beginning of a line, two for each level. -/
def indent (level : Nat) : String :=
  String.ofList (List.replicate (2 * level) ' ')

/-- Lines between brackets, one level further in than the brackets. -/
def block (openBracket closeBracket : String) (level : Nat)
    (lines : List String) : String :=
  if lines.isEmpty then openBracket ++ closeBracket
  else
    openBracket ++ "\n"
      ++ String.intercalate ",\n" (lines.map fun line =>
        indent (level + 1) ++ line)
      ++ "\n" ++ indent level ++ closeBracket

mutual

/-- A value over several lines, the first of which is already indented. -/
def prettyAt (level : Nat) : Json → String
  | .arr items => block "[" "]" level (prettyItems (level + 1) items)
  | .obj members =>
      block "\x7b" "\x7d" level (prettyMembers (level + 1) members)
  | value => scalarText value

/-- Each item over several lines. -/
def prettyItems (level : Nat) : List Json → List String
  | [] => []
  | item :: rest => item.prettyAt level :: prettyItems level rest

/-- Each member over several lines. -/
def prettyMembers (level : Nat) : List (String × Json) → List String
  | [] => []
  | (name, value) :: rest =>
      (quote name ++ ": " ++ value.prettyAt level) :: prettyMembers level rest

end

/-- A value over several lines, two blanks to a level. -/
def pretty (value : Json) : String :=
  value.prettyAt 0

end ClusterUtility.Json
