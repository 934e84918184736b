/-
Names of objects, with or without a schema.

A name is shown with a point after its schema, and a text is read by
splitting it at its first point. Showing what was read gives the text back;
reading what was shown gives the name back unless a point stands where the
split would find it first.
-/
import ClusterUtility.Json.Record

namespace ClusterUtility

/-- The name of an object, qualified by a schema or not. -/
structure QualifiedName where
  schema : Option String
  name : String
deriving DecidableEq, Repr

namespace QualifiedName

/-- A name without a schema. -/
def bare (name : String) : QualifiedName := ⟨none, name⟩

/-- The name as it is shown and as catalogs are keyed: schema, point, name. -/
def text (q : QualifiedName) : String :=
  match q.schema with
  | none => q.name
  | some schema => schema ++ "." ++ q.name

/-- The parts of a text around its first point, if it has one. -/
def splitAtPoint (chars : List Char) : List Char × Option (List Char) :=
  match chars with
  | [] => ([], none)
  | c :: rest =>
      if c = '.' then ([], some rest)
      else
        let (before, after) := splitAtPoint rest
        (c :: before, after)

/-- The name that a text shows: what stands before the first point is the
schema. -/
def ofText (text : String) : QualifiedName :=
  match splitAtPoint text.toList with
  | (_, none) => ⟨none, text⟩
  | (schema, some name) => ⟨some (String.ofList schema), String.ofList name⟩

/-- The record form of a name. -/
def encode (q : QualifiedName) : Json :=
  .obj [("schema", Json.ofOption .str q.schema), ("name", .str q.name)]

/-- Reads a name; a missing schema is none. -/
def decode (j : Json) : Option QualifiedName :=
  j.record? do
    let schema ← Json.optional "schema" Json.string?
    let name ← Json.required "name" Json.string?
    pure ⟨schema, name⟩

end QualifiedName

end ClusterUtility
