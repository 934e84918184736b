/-
The other nodes of a cluster in memory: branches of transactions, statements
that are sent to them, barriers, and the connection pool.
-/
import ClusterUtility.Cluster.Basic

namespace ClusterUtility.Cluster

-- ====================================================== branches

/-- Begins the transaction on the other nodes. -/
def beginRemote (c : Cluster) (query : Option String) : Cluster :=
  c.record (.remoteBegin query)

/-- Prepares the branch of a node. -/
def prepareBranch (c : Cluster) (node : Node) (gid : Gid) :
    Except TransportFailure Unit × Cluster :=
  match c.unreachable? node with
  | some failure => (.error failure, c)
  | none =>
      if node ∈ c.faults.prepare then
        (.error (.remote node "could not prepare transaction"), c)
      else
        let held := ((c.branches.get? gid).getD ∅).insert node
        (.ok (),
         { c with branches := c.branches.insert gid held }.record
           (.branchPrepared node gid))

/-- What a node reports that holds no branch. -/
def noBranch (gid : Gid) : String :=
  "prepared transaction " ++ Failure.quoted gid ++ " does not exist"

/-- The branches without the one of a node; a transaction without branches
leaves the list. -/
def branchesWithout (branches : Directory Gid NodeSet) (gid : Gid)
    (held : NodeSet) (node : Node) : Directory Gid NodeSet :=
  let rest := held.erase node
  if rest.isEmpty then branches.erase gid else branches.insert gid rest

/-- Commits or rolls back the prepared branch of a node. -/
def finishBranch (c : Cluster) (node : Node) (gid : Gid) (commit : Bool) :
    Except TransportFailure Unit × Cluster :=
  match c.unreachable? node with
  | some failure => (.error failure, c)
  | none =>
      if !commit && decide (node ∈ c.faults.rollback) then
        (.error (.timeout node), c)
      else
        let held := (c.branches.get? gid).getD ∅
        if node ∈ held then
          (.ok (),
           { c with
               branches := branchesWithout c.branches gid held node }.record
             (.branchFinished node gid commit))
        else (.error (.remote node (noBranch gid)), c)

/-- Aborts the branches that are not prepared. -/
def abortBranches (c : Cluster) : Cluster :=
  (c.mapSession fun s => { s with written := ∅ }).record .branchesAborted

-- ====================================================== statements

/-- Why some node of a list cannot be reached: the first one counts. -/
def firstUnreachable? (c : Cluster) (nodes : List Node) :
    Option TransportFailure :=
  nodes.findSome? c.unreachable?

/-- The nodes count as written to, if the request runs in the transaction. -/
def enlist (s : LocalSession) (request : RemoteRequest) (nodes : List Node) :
    LocalSession :=
  if s.inBlock && !request.autocommit then { s with
      written := s.written.insertAll nodes }
  else s

/-- Runs a request on its group of nodes; all of them must be in reach. -/
def send (c : Cluster) (request : RemoteRequest) :
    Except TransportFailure Unit × Cluster :=
  let nodes := c.topology.members request.group
  match c.firstUnreachable? nodes with
  | some failure => (.error failure, c)
  | none =>
      (.ok (), (c.record (.sent request)).mapSession fun s =>
        enlist s request nodes)

-- ================================================= the connection pool

/-- Records a session command with the pool. -/
def setSessionOption (c : Cluster) (isLocal : Bool) (text : String) :
    Int × Cluster :=
  (c.faults.poolStatus, c.record (.sessionOptionSet isLocal text))

/-- Drops pooled connections. -/
def cleanConnections (c : Cluster) (clean : CleanConnection) : Cluster :=
  c.record (.connectionsCleaned clean.database)

-- ====================================================== barriers

/-- Stops a coordinator for a barrier. -/
def prepareBarrier (c : Cluster) (node : Node) (id : String) :
    Except TransportFailure Unit × Cluster :=
  match c.unreachable? node with
  | some failure => (.error failure, c)
  | none =>
      if node ∈ c.faults.barrier then
        (.error (.remote node "barrier rejected"), c)
      else (.ok (), c.record (.barrierPrepared node id))

/-- Writes a barrier on a node. -/
def executeBarrier (c : Cluster) (node : Node) (id : String) :
    Except TransportFailure Unit × Cluster :=
  match c.unreachable? node with
  | some failure => (.error failure, c)
  | none => (.ok (), c.record (.barrierExecuted node id))

end ClusterUtility.Cluster
