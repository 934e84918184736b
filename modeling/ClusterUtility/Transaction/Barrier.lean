/-
Barriers: a consistent cut through the transactions of all nodes.

A plain message to all nodes would not do, since each phase has to be
acknowledged by every node before the next one begins.

- First the other coordinators are asked, in order, to admit no new commits.
- Then every other node writes the barrier into its log, and this node does.
- Then the other coordinators are told to go on.

Where a node does not acknowledge in the first two phases, the coordinators
that had stopped are told to go on, and the barrier fails.
-/
import ClusterUtility.Program.Basic

namespace ClusterUtility

open Program (request ofReply forEach)

namespace Barrier

/-- The failure of a barrier that a node did not acknowledge. -/
def failure (id : String) (cause : TransportFailure) : Failure :=
  .barrierFailed id cause.node cause.message

/-- The identifier of a barrier that was given none: the local node and the
present moment. -/
def standardId (node : Node) (timestamp : String) : String :=
  node ++ "_" ++ timestamp

/-- Lets coordinators go on; one that does not hear of it changes nothing. -/
def release (id : String) : List Node → Program Unit :=
  forEach fun node => do
    let _ ← request (.endBarrier node id)
    return ()

/-- Stops the coordinators in order. After a refusal the ones that had
stopped are released. -/
def prepare (id : String) (stopped : List Node) : List Node → Program Unit
  | [] => return ()
  | node :: rest => do
      match ← request (.prepareBarrier node id) with
      | .ok () => prepare id (stopped ++ [node]) rest
      | .error cause => do
          release id stopped
          .fail (failure id cause)

/-- Writes the barrier on other nodes, in order. After a refusal the
coordinators are released. -/
def execute (id : String) (stopped : List Node) : List Node → Program Unit
  | [] => return ()
  | node :: rest => do
      match ← request (.executeBarrier node id) with
      | .ok () => execute id stopped rest
      | .error cause => do
          release id stopped
          .fail (failure id cause)

/-- Writes the barrier on this node. -/
def record (id : String) (stopped : List Node) : Program Unit := do
  match ← request (.recordBarrier id) with
  | .ok () => return ()
  | .error cause => do
      release id stopped
      .fail cause

/-- Ends the barrier on the coordinators in order, up to the first one that
does not acknowledge. -/
def finish (id : String) : List Node → Program Unit :=
  forEach fun node => do
    match ← request (.endBarrier node id) with
    | .ok () => return ()
    | .error cause => .fail (failure id cause)

/-- Runs a barrier with an identifier. -/
def run (topology : Topology) (id : String) : Program Unit := do
  let coordinators := topology.remoteCoordinators
  prepare id [] coordinators
  execute id coordinators (topology.members .all)
  record id coordinators
  finish id coordinators

/-- The identifier of a barrier. -/
def identify (topology : Topology) : Option String → Program String
  | some id => return id
  | none => do return standardId topology.localNode (← request .timestamp)

/-- Runs a barrier for a client of a coordinator, and gives its
identifier. -/
def start (topology : Topology) (id : Option String) (c : Context) :
    Program String :=
  if c.isClientFacing then do
    let id ← identify topology id
    run topology id
    return id
  else .fail .barrierOrigin

end Barrier

end ClusterUtility
