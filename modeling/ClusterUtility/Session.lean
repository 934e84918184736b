/-
Sessions: a client at work on a cluster in memory.

A session holds the configuration that statements are dispatched under, what
stands around their dispatch, and the cluster. Whatever a client does is a
program that runs on the cluster; what the client hears of it is gathered on
a desk.
-/
import ClusterUtility.Cluster.Answers
import ClusterUtility.Dispatch
import ClusterUtility.Program.StandIn

namespace ClusterUtility

-- ====================================================== the desk

/-- What came to a client. -/
structure Desk where
  tag : CompletionTag
  rows : List (List Json)
  logged : List String
  sightings : List Sighting

namespace Desk

/-- A desk with nothing on it but a completion tag. -/
def ofTag (tag : CompletionTag) : Desk := ⟨tag, [], [], []⟩

/-- Takes in what a program tells. -/
def hear (d : Desk) : Note → Desk
  | .clearTag => { d with tag := ∅ }
  | .setTag text => { d with tag := d.tag.set text }
  | .rows rows => { d with rows := d.rows ++ rows }
  | .logged text => { d with logged := d.logged ++ [text] }
  | .sighted s => { d with sightings := d.sightings ++ [s] }

/-- Takes in all that a program told, in order. -/
def hearAll (d : Desk) (notes : List Note) : Desk :=
  notes.foldl hear d

end Desk

-- ====================================================== sessions

/-- A session on a cluster in memory. -/
structure Session where
  config : Configuration
  interceptor : Interceptor
  stage : Staged Cluster

namespace Session

/-- A session on a fresh cluster whose catalog holds some relations. -/
def start (config : Configuration) (timestamp : String)
    (relations : List (String × RelationKind)) : Session :=
  let cluster := relations.foldl
    (fun c (name, kind) => c.setRelation name kind)
      (Cluster.fresh config.topology timestamp)
  ⟨config, .none, .plain cluster⟩

/-- The cluster of a session. -/
def cluster (s : Session) : Cluster := s.stage.world

/-- The session with another cluster. -/
def withCluster (s : Session) (c : Cluster) : Session :=
  { s with stage := { s.stage with world := c } }

/-- Changes the cluster directly. -/
def mapCluster (s : Session) (change : Cluster → Cluster) : Session :=
  s.withCluster (change s.cluster)

/-- Runs a program for a client that finds a tag on its desk: the result, what
the client heard, and the session after it. -/
def run {α : Type} (s : Session) (tag : CompletionTag) (p : Program α) :
    Except Failure α × Desk × Session :=
  let r := Program.run (Staged.answer Cluster.answer) p s.stage
  (r.result, (Desk.ofTag tag).hearAll r.notes, { s with stage := r.world })

/-- Dispatches a call. -/
def dispatch (s : Session) (tag : CompletionTag) (call : Call) :
    Except Failure Unit × Desk × Session :=
  s.run tag (ClusterUtility.dispatch s.config s.interceptor call)

/-- The coordinator starts again: its session is lost, and nothing stands
around dispatch any more. -/
def restart (s : Session) : Session :=
  { s.mapCluster Cluster.restart with interceptor := .none }

end Session

end ClusterUtility
