/-
Requests to run the text of a statement on a group of nodes.
-/
import ClusterUtility.Topology

namespace ClusterUtility

/-- How the results of the nodes are put together. -/
inductive ResultRule where
  /-- Every node must report the same outcome. -/
  | same
deriving DecidableEq, Repr

namespace ResultRule

/-- The name of the rule. -/
def name : ResultRule → String
  | .same => "Same"

/-- Every rule. -/
def values : List ResultRule := [.same]

/-- The rule as its name. -/
def encode (r : ResultRule) : Json := .str r.name

/-- The rule of a name. -/
def decode (j : Json) : Option ResultRule := j.oneOf? values name

end ResultRule

/-- A request to run a text on every node of a group. -/
structure RemoteRequest where
  text : String
  group : NodeGroup
  results : ResultRule
  /-- The text runs outside the transaction of the caller. -/
  autocommit : Bool
deriving DecidableEq, Repr

namespace RemoteRequest

/-- A request whose nodes must all report the same outcome. -/
def send (text : String) (group : NodeGroup) (autocommit : Bool) :
    RemoteRequest :=
  ⟨text, group, .same, autocommit⟩

/-- The record of a request. -/
def encode (r : RemoteRequest) : Json :=
  .obj
    [("statement_text", .str r.text),
     ("node_group", r.group.encode),
     ("combine", r.results.encode),
     ("force_autocommit", .bool r.autocommit)]

/-- Reads a request; all fields are needed. -/
def decode : Json → Option RemoteRequest :=
  Json.record?
    (RemoteRequest.mk
      <$> Json.required "statement_text" Json.string?
      <*> Json.required "node_group" NodeGroup.decode
      <*> Json.required "combine" ResultRule.decode
      <*> Json.required "force_autocommit" Json.bool?)

end RemoteRequest

end ClusterUtility
