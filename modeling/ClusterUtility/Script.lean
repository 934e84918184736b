/-
Scripts: statements with their texts, and the relations that are there before
the first one runs.

A script is a record of relations and statements, or a list of statements
alone. A record may be given by position, so a list is read as a record
first; the two forms do not meet, since the first item of the one is an
object of relations and that of the other an entry.
-/
import ClusterUtility.Directory
import ClusterUtility.Json.Reader
import ClusterUtility.RelationKind
import ClusterUtility.Statement.Encoding

namespace ClusterUtility

/-- A statement of a script with the text that other nodes receive. -/
structure ScriptEntry where
  text : String
  statement : Statement

/-- A script. -/
structure Script where
  /-- The relations that are there from the beginning. -/
  relations : List (String × RelationKind)
  entries : List ScriptEntry

/-- Reads an entry. -/
def ScriptEntry.decode (j : Json) : Option ScriptEntry :=
  j.record?
    (ScriptEntry.mk
      <$> Json.required "text" Json.string?
      <*> Json.required "statement" (Statement.decode .allowed))

namespace Script

/-- The relations of an object, each name once: of a repeated name the last
kind counts. -/
def relations? (j : Json) : Option (List (String × RelationKind)) :=
  (j.members? RelationKind.decode).map fun members =>
    (Directory.ofList members).entries

/-- Reads a script as a record. -/
def ofRecord? (j : Json) : Option Script :=
  j.record?
    (Script.mk
      <$> Json.withDefault "relations" [] relations?
      <*> Json.required "statements" (Json.list? ScriptEntry.decode))

/-- Reads a script as a list of entries. -/
def ofEntries? (j : Json) : Option Script :=
  (j.list? ScriptEntry.decode).map fun entries => ⟨[], entries⟩

/-- Reads a script: a record, else a list of entries. -/
def decode (j : Json) : Option Script :=
  (ofRecord? j).or (ofEntries? j)

/-- The script that a text holds. -/
def parse? (text : String) : Option Script :=
  (Json.parseWhole? text).bind decode

end Script

end ClusterUtility
