/-
Nodes, groups of nodes, and the layout of a cluster as one node sees it.
-/
import ClusterUtility.Json.Record

namespace ClusterUtility

/-- A node, by the name it is registered under. -/
abbrev Node := String

/-- What a node does in the cluster. -/
inductive NodeRole where
  | coordinator
  | datanode
deriving DecidableEq, Repr

namespace NodeRole

/-- The name of the role. -/
def name : NodeRole → String
  | .coordinator => "Coordinator"
  | .datanode => "Datanode"

/-- Every role. -/
def values : List NodeRole := [.coordinator, .datanode]

/-- The role as its name. -/
def encode (r : NodeRole) : Json := .str r.name

/-- The role of a name. -/
def decode (j : Json) : Option NodeRole := j.oneOf? values name

end NodeRole

/-- The nodes that must run a statement besides the one that received it. -/
inductive NodeGroup where
  | all
  | coordinators
  | datanodes
  | none
deriving DecidableEq, Repr

namespace NodeGroup

/-- The name of the group. -/
def name : NodeGroup → String
  | .all => "All"
  | .coordinators => "Coordinators"
  | .datanodes => "Datanodes"
  | .none => "None"

/-- The group as messages and reports show it. -/
def text : NodeGroup → String
  | .all => "ALL"
  | .coordinators => "COORDINATORS"
  | .datanodes => "DATANODES"
  | .none => "NONE"

/-- Every group. -/
def values : List NodeGroup := [.all, .coordinators, .datanodes, .none]

/-- The group as its name. -/
def encode (g : NodeGroup) : Json := .str g.name

/-- The group of a name. -/
def decode (j : Json) : Option NodeGroup := j.oneOf? values name

end NodeGroup

/-- The layout of a cluster, seen from the local node. -/
structure Topology where
  localNode : Node
  coordinators : List Node
  datanodes : List Node
deriving DecidableEq, Repr

namespace Topology

/-- Two coordinators and two datanodes, seen from the first coordinator. -/
def standard : Topology :=
  ⟨"coord1", ["coord1", "coord2"], ["dn1", "dn2"]⟩

instance : Inhabited Topology := ⟨standard⟩

/-- The role of the local node: a node that is listed as a datanode is one. -/
def role (t : Topology) : NodeRole :=
  if t.localNode ∈ t.datanodes then .datanode else .coordinator

/-- Whether the local node is listed at all. -/
def isMember (t : Topology) : Bool :=
  decide (t.localNode ∈ t.coordinators ∨ t.localNode ∈ t.datanodes)

/-- The coordinators other than the local node. -/
def remoteCoordinators (t : Topology) : List Node :=
  t.coordinators.filter fun node => node ≠ t.localNode

/-- The remote members of a group, coordinators first. -/
def members (t : Topology) : NodeGroup → List Node
  | .all => t.remoteCoordinators ++ t.datanodes
  | .coordinators => t.remoteCoordinators
  | .datanodes => t.datanodes
  | .none => []

/-- The record of a layout. -/
def encode (t : Topology) : Json :=
  .obj
    [("local_node", .str t.localNode),
     ("coordinators", Json.ofTexts t.coordinators),
     ("datanodes", Json.ofTexts t.datanodes)]

/-- Reads a layout; all of its fields are needed. -/
def decode : Json → Option Topology :=
  Json.record?
    (Topology.mk
      <$> Json.required "local_node" Json.string?
      <*> Json.required "coordinators" (Json.list? Json.string?)
      <*> Json.required "datanodes" (Json.list? Json.string?))

end Topology

end ClusterUtility
