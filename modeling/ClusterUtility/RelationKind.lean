/-
What a catalog knows of a relation's name: the kind of relation it stands for.
-/
import ClusterUtility.Json.Record

namespace ClusterUtility

/-- The kind of a relation. -/
inductive RelationKind where
  | table
  | view
  | sequence
  | foreignTable
  | index
deriving DecidableEq, Repr

namespace RelationKind

/-- The name of the kind. -/
def name : RelationKind → String
  | .table => "Table"
  | .view => "View"
  | .sequence => "Sequence"
  | .foreignTable => "ForeignTable"
  | .index => "Index"

/-- Every kind of relation. -/
def values : List RelationKind :=
  [.table, .view, .sequence, .foreignTable, .index]

/-- The kind as its name. -/
def encode (k : RelationKind) : Json := .str k.name

/-- The kind of a name. -/
def decode (j : Json) : Option RelationKind := j.oneOf? values name

/-- Views and sequences live on coordinators only. -/
def isOnCoordinatorsOnly : RelationKind → Bool
  | .view => true
  | .sequence => true
  | _ => false

end RelationKind

end ClusterUtility
