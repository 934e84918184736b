/-
Objects as maps: each name once, with the value that was given last.
-/
import ClusterUtility.Directory
import ClusterUtility.Json.Basic

namespace ClusterUtility.Json

mutual

/-- A value whose objects, at every depth, have each name once. -/
def distinct : Json → Json
  | .arr items => .arr (distinctItems items)
  | .obj members => .obj (Directory.ofList (distinctMembers members)).entries
  | value => value

/-- Each item with distinct names. -/
def distinctItems : List Json → List Json
  | [] => []
  | item :: rest => item.distinct :: distinctItems rest

/-- Each member's value with distinct names. -/
def distinctMembers : List (String × Json) → List (String × Json)
  | [] => []
  | (name, value) :: rest => (name, value.distinct) :: distinctMembers rest

end

end ClusterUtility.Json
