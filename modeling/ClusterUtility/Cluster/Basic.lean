/-
A cluster in memory: a local node with its session, what the other nodes and
the registry hold, and a journal of all that was done.

# What survives

The session is lost when the local node restarts. The catalog, the records of
prepared transactions here and elsewhere, the registry and the journal are
not.

# Faults

A cluster can be told to fail: nodes that cannot be reached, branches that do
not prepare or roll back, a registry that refuses, handlers that fail.
-/
import ClusterUtility.Cluster.Event
import ClusterUtility.Failure
import ClusterUtility.NodeSet
import ClusterUtility.Program.Request

namespace ClusterUtility

-- ====================================================== parts

/-- The session of the local node. -/
structure LocalSession where
  inBlock : Bool
  /-- The open block met an error. -/
  failed : Bool
  touchedCatalog : Bool
  options : List TransactionOption
  /-- The savepoints of the block, the oldest first. -/
  savepoints : List String
  status : TransactionStatus
  globalId : Option Gid
  /-- The nodes that the current transaction wrote to. -/
  written : NodeSet
  objects : SessionObjects

namespace LocalSession

/-- A session in which nothing happened yet. -/
def fresh : LocalSession :=
  ⟨false, false, false, [], [], .idle, none, ∅, ∅⟩

instance : Inhabited LocalSession := ⟨fresh⟩

/-- The session after its transaction ended with a status. -/
def ended (s : LocalSession) (status : TransactionStatus) : LocalSession :=
  { s with
    inBlock := false
    failed := false
    touchedCatalog := false
    options := []
    savepoints := []
    written := ∅
    status := status }

/-- The session after an error: an open block can only be rolled back. -/
def afterError (s : LocalSession) : LocalSession :=
  if s.inBlock then { s with failed := true } else s

/-- The session after a change of the catalog. -/
def afterCatalogChange (s : LocalSession) : LocalSession :=
  if s.inBlock then { s with touchedCatalog := true } else s

end LocalSession

/-- What is set to fail. -/
structure Faults where
  /-- Nodes on which no branch prepares. -/
  prepare : NodeSet
  /-- Nodes on which no prepared branch rolls back. -/
  rollback : NodeSet
  /-- Nodes that cannot be reached. -/
  transport : NodeSet
  /-- Coordinators that do not stop for a barrier. -/
  barrier : NodeSet
  /-- The registry refuses. -/
  registryDown : Bool
  /-- Handlers that fail, each with its message. -/
  handlers : Directory Kind String
  /-- The status that the connection pool answers with. -/
  poolStatus : Int

namespace Faults

/-- Nothing fails. -/
def none : Faults := ⟨∅, ∅, ∅, ∅, false, ∅, 0⟩

instance : Inhabited Faults := ⟨none⟩

end Faults

/-- An entry of the registry of global transactions. -/
structure RegistryEntry where
  transaction : PreparedTransaction
  status : TransactionStatus
deriving DecidableEq, Repr

/-- A cluster in memory. -/
structure Cluster where
  topology : Topology
  /-- All that was done, in order. -/
  journal : List Cluster.Event
  session : LocalSession
  faults : Faults
  /-- The catalog: the kind of each relation, by its name as shown. -/
  relations : Directory String RelationKind
  /-- What a statement about a table expands to, by its kind; a statement
  without an entry expands to itself. -/
  expansions : Directory Kind (List Statement)
  /-- How many rows a command counts, by its kind. -/
  rowCounts : Directory Kind Nat
  /-- The transactions that are prepared on the local node. -/
  localRecords : List Gid
  /-- The nodes that hold a prepared branch of a transaction. -/
  branches : Directory Gid NodeSet
  registry : Directory Gid RegistryEntry
  /-- The number of the next relation. -/
  nextRelation : Nat
  /-- The mark of the present moment. -/
  timestamp : String

namespace Cluster

/-- A cluster in which nothing happened yet. -/
def fresh (topology : Topology) (timestamp : String) : Cluster :=
  { topology, timestamp
    journal := []
    session := .fresh
    faults := .none
    relations := ∅
    expansions := ∅
    rowCounts := ∅
    localRecords := []
    branches := ∅
    registry := ∅
    nextRelation := 16384 }

-- ====================================================== setting up

/-- Enters a relation into the catalog, by the name that a text shows. -/
def setRelation (c : Cluster) (name : String)
    (kind : RelationKind) : Cluster :=
  { c with
      relations := c.relations.insert (QualifiedName.ofText name).text kind }

/-- Sets what the statements of a kind expand to. -/
def setExpansion (c : Cluster) (kind : Kind)
    (statements : List Statement) : Cluster :=
  { c with expansions := c.expansions.insert kind statements }

/-- Sets how many rows the statements of a kind count. -/
def setRowCount (c : Cluster) (kind : Kind) (rows : Nat) : Cluster :=
  { c with rowCounts := c.rowCounts.insert kind rows }

/-- The nodes count as written to by the current transaction. -/
def touchNodes (c : Cluster) (nodes : List Node) : Cluster :=
  { c with
      session := { c.session with
          written := c.session.written.insertAll nodes } }

/-- Sets other faults. -/
def withFaults (c : Cluster) (faults : Faults) : Cluster :=
  { c with faults := faults }

/-- The local node crashes and starts again. -/
def restart (c : Cluster) : Cluster :=
  { c with session := .fresh }

/-- Forgets the journal. -/
def clearJournal (c : Cluster) : Cluster :=
  { c with journal := [] }

-- ====================================================== inspection

/-- The requests in the journal. -/
def requests (c : Cluster) : List RemoteRequest :=
  c.journal.filterMap Event.request?

/-- The kinds of statements whose handlers ran. -/
def handled (c : Cluster) : List Kind :=
  c.journal.filterMap Event.handler?

/-- The nodes that hold a prepared branch of a transaction, in the order of
their names. -/
def branchNodes (c : Cluster) (gid : Gid) : List Node :=
  match c.branches.get? gid with
  | some nodes => nodes.nodes
  | none => []

/-- The status of a transaction in the registry. -/
def registryStatus (c : Cluster) (gid : Gid) : Option TransactionStatus :=
  (c.registry.get? gid).map (·.status)

/-- The kind of relation that a name stands for. -/
def relationKind (c : Cluster) (name : QualifiedName) :
    Except Failure RelationKind :=
  match c.relations.get? name.text with
  | some kind => .ok kind
  | none => .error (.relationNotFound name.text)

-- ====================================================== small steps

/-- Adds an entry to the journal. -/
def record (c : Cluster) (event : Event) : Cluster :=
  { c with journal := c.journal ++ [event] }

/-- Changes the session. -/
def mapSession (c : Cluster) (change : LocalSession → LocalSession) :
    Cluster :=
  { c with session := change c.session }

/-- Why a node cannot be reached, if it cannot. -/
def unreachable? (c : Cluster) (node : Node) : Option TransportFailure :=
  if node ∈ c.faults.transport then
    some (.unreachable node "connection refused") else none

end Cluster

end ClusterUtility
