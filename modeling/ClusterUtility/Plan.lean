/-
Plans: routes after the catalog was asked, and how a planned statement is
sent.

A plan is made before the statement runs, while the relations it names still
have their present names.
-/
import ClusterUtility.Program.Basic
import ClusterUtility.Route

namespace ClusterUtility

-- ====================================================== plans

/-- Where a statement goes, with the group of nodes known. -/
structure Plan where
  group : NodeGroup
  autocommit : Bool
  timing : Timing
deriving DecidableEq, Repr

namespace Plan

/-- The group of a relation, by the catalog. -/
def groupOf (name : QualifiedName) : Program NodeGroup := do
  let kind ← Program.ofReply (← Program.request (.relationKind name))
  return kind.group

/-- Checks that every relation belongs to a group, in order. -/
def requireGroup (command : String) (g : NodeGroup) :
    List QualifiedName → Program Unit :=
  Program.forEach fun name => do
    let other ← groupOf name
    if other = g then return () else .fail (.ambiguousTargets command)

/-- The one group that all relations belong to; no relations mean every
node. -/
def commonGroup (command : String) : List QualifiedName → Program NodeGroup
  | [] => return .all
  | name :: rest => do
      let g ← groupOf name
      requireGroup command g rest
      return g

/-- The group of nodes that a destination comes down to. -/
def resolve : Destination → Program NodeGroup
  | .group g => return g
  | .ofRelation name => groupOf name
  | .ofRelations command names => commonGroup command names

/-- The plan of a statement; none where it stays local. -/
def make (s : Statement) : Program (Option Plan) :=
  match s.route? with
  | none => return none
  | some route => do
      let g ← resolve route.destination
      return some ⟨g, route.autocommit, route.timing⟩

/-- The group of nodes that a statement goes to. -/
def targets (s : Statement) : Program NodeGroup := do
  match ← make s with
  | none => return .none
  | some plan => return plan.group

end Plan

-- ====================================================== sending

/-- Sends a text to a group of nodes as a plan says; a group without remote
members needs no message. -/
def propagate (topology : Topology) (text : String) (group : NodeGroup)
    (autocommit : Bool) : Program Unit :=
  if group = .none || (topology.members group).isEmpty then return ()
  else do
    Program.ofRemoteReply
      (← Program.request (.send (.send text group autocommit)))

/-- Sends a planned statement, if its time has come. -/
def propagateAt (topology : Topology) (text : String) (plan : Option Plan)
    (timing : Timing) : Program Unit :=
  match plan with
  | some p =>
      if p.timing = timing then propagate topology text p.group p.autocommit
      else return ()
  | none => return ()

/-- Records a session command with the connection pool, so that pooled
connections take it over. -/
def forwardSessionCommand (isLocal : Bool) (text command : String) :
    Program Unit := do
  let status ← Program.request (.setSessionOption isLocal text)
  if status < 0 then .fail (.poolerRejected command status) else return ()

/-- Drops pooled connections of this node. -/
def cleanConnections (clean : CleanConnection) : Program Unit := do
  Program.ofRemoteReply (← Program.request (.cleanConnections clean))

end ClusterUtility
