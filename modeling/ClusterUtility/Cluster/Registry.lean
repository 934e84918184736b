/-
The registry of global transactions of a cluster in memory.
-/
import ClusterUtility.Cluster.Basic

namespace ClusterUtility

namespace RegistryEntry

/-- The entry after a branch was finished: the node leaves it, and the outcome
is bound. -/
def withoutBranch (e : RegistryEntry) (node : Node) (commit : Bool) :
    RegistryEntry :=
  { e with
    transaction :=
      { e.transaction with
        participants := e.transaction.participants.filter fun n => n ≠ node
        outcome := .ofCommit commit } }

/-- The entry with another status, if the status may change so. -/
def withStatus (e : RegistryEntry) (status : TransactionStatus) :
    RegistryEntry :=
  if e.status.canBecome status then { e with status := status } else e

end RegistryEntry

namespace Cluster

/-- The failure of a registry that is down. -/
def registryFault : Failure :=
  .propagation (.unreachable "gtm" "connection refused")

/-- Whether an identifier belongs to a transaction that is not over. -/
def holdsUnfinished (registry : Directory Gid RegistryEntry)
    (gid : Gid) : Bool :=
  match registry.get? gid with
  | some entry => !entry.status.isTerminal
  | none => false

/-- Registers a prepared transaction. An identifier may be used again once its
transaction is over. -/
def register (c : Cluster) (t : PreparedTransaction) :
    Except Failure Unit × Cluster :=
  if c.faults.registryDown then (.error registryFault, c)
  else if holdsUnfinished c.registry t.gid then
    (.error (.transactionInUse t.gid), c)
  else (.ok (), { c with registry := c.registry.insert t.gid ⟨t, .prepared⟩ })

/-- The transaction under an identifier that waits to be finished. -/
def lookup (c : Cluster) (gid : Gid) : Option PreparedTransaction :=
  match c.registry.get? gid with
  | some entry =>
      if entry.status = .prepared then some entry.transaction else none
  | none => none

/-- Strikes a finished branch from an entry. -/
def dropBranch (c : Cluster) (gid : Gid) (node : Node)
    (commit : Bool) : Cluster :=
  { c with
      registry := c.registry.modify gid fun e => e.withoutBranch node commit }

/-- Ends a transaction in the registry. -/
def complete (c : Cluster) (gid : Gid)
    (status : TransactionStatus) : Cluster :=
  { c with registry := c.registry.modify gid fun e => e.withStatus status }

end Cluster

end ClusterUtility
