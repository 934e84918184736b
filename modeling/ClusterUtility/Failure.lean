/-
Why a statement, or a message to another node, fails.

A failure is a cause with what it is about. The wording of a cause and its
SQLSTATE are functions of it.
-/
import ClusterUtility.Transaction.Status

namespace ClusterUtility

-- =================================================== messages to nodes

/-- Why a message to a node failed. -/
inductive TransportFailure where
  | unreachable (node : Node) (reason : String)
  | remote (node : Node) (message : String)
  | timeout (node : Node)
deriving DecidableEq, Repr

namespace TransportFailure

/-- The node that the message was for. -/
def node : TransportFailure → Node
  | .unreachable node _ => node
  | .remote node _ => node
  | .timeout node => node

/-- The wording of the failure. -/
def message : TransportFailure → String
  | .unreachable node reason => "node " ++ node ++ " unreachable: " ++ reason
  | .remote node text => "node " ++ node ++ " reported: " ++ text
  | .timeout node => "timed out waiting for node " ++ node

end TransportFailure

-- ====================================================== statements

/-- Why a statement failed. -/
inductive Failure where
  /-- The transaction is read-only. -/
  | readOnly (command : String)
  /-- The node is in recovery. -/
  | recovery (command : String)
  /-- The operation is security-restricted. -/
  | restricted (command : String)
  /-- The command needs a transaction block. -/
  | blockRequired (command : String)
  /-- The command must not be in a transaction block. -/
  | blockForbidden (command : String)
  /-- The cluster is configured not to run the feature. -/
  | unsupported (feature : String)
  /-- The named relations live on different groups of nodes. -/
  | ambiguousTargets (command : String)
  /-- A participant did not prepare. -/
  | prepareFailed (gid : Gid) (node : Node) (reason : String)
  /-- A participant did not finish. -/
  | finishFailed (gid : Gid) (node : Node) (reason : String)
  /-- No transaction is prepared under the identifier. -/
  | unknownTransaction (gid : Gid)
  /-- A transaction is already prepared under the identifier. -/
  | transactionInUse (gid : Gid)
  /-- The transaction is bound to the other outcome. -/
  | outcomeConflict (gid : Gid) (outcome : Outcome)
  /-- The user is no superuser. -/
  | insufficientPrivilege (command : String)
  /-- The relation is not in the catalog. -/
  | relationNotFound (name : String)
  /-- A message to another node failed. -/
  | propagation (failure : TransportFailure)
  /-- The connection pool refused a session command. -/
  | poolerRejected (command : String) (status : Int)
  /-- A node did not acknowledge a barrier. -/
  | barrierFailed (id : String) (node : Node) (reason : String)
  /-- A barrier was not asked for by a client of a coordinator. -/
  | barrierOrigin
  /-- Expansions stand inside one another too deep. -/
  | recursionLimit (depth : Nat)
  /-- A command handler failed. -/
  | handler (text : String)
  /-- The configuration cannot be used. -/
  | configuration (text : String)
  /-- The form of the statement is no command. -/
  | unknownStatement (text : String)
  /-- A rule of this layer itself is broken. -/
  | internal (text : String)
  /-- Prepared statements execute one another without end. -/
  | endlessExecution (command : String)
deriving DecidableEq, Repr

namespace Failure

/-- A text between double quotes. -/
def quoted (text : String) : String := "\"" ++ text ++ "\""

/-- The wording of the failure. -/
def message : Failure → String
  | .readOnly command =>
      "cannot execute " ++ command ++ " in a read-only transaction"
  | .recovery command => "cannot execute " ++ command ++ " during recovery"
  | .restricted command =>
      "cannot execute " ++ command ++ " within security-restricted operation"
  | .blockRequired command =>
      command ++ " can only be used in transaction blocks"
  | .blockForbidden command =>
      command ++ " cannot run inside a transaction block"
  | .unsupported feature => "cluster does not support " ++ feature ++ " yet"
  | .ambiguousTargets command =>
      "cluster does not support " ++ command
        ++ " on multiple object types; issue views/sequences and tables"
        ++ " in separate statements"
  | .prepareFailed gid node reason =>
      "could not prepare transaction " ++ quoted gid ++ " on node " ++ node
        ++ ": " ++ reason
  | .finishFailed gid node reason =>
      "could not finish prepared transaction " ++ quoted gid ++ " on node "
        ++ node ++ ": "
        ++ reason
  | .unknownTransaction gid =>
      "prepared transaction with identifier " ++ quoted gid
        ++ " does not exist"
  | .transactionInUse gid =>
      "transaction identifier " ++ quoted gid ++ " is already in use"
  | .outcomeConflict gid outcome =>
      "prepared transaction " ++ quoted gid ++ " can only be finished with "
        ++ outcome.text
  | .insufficientPrivilege command => "must be superuser to do " ++ command
  | .relationNotFound name => "relation " ++ quoted name ++ " does not exist"
  | .propagation failure => "remote execution failed: " ++ failure.message
  | .poolerRejected command status =>
      "connection pool rejected " ++ command ++ " (status "
        ++ toString status ++ ")"
  | .barrierFailed id node reason =>
      "barrier " ++ quoted id ++ " failed on node " ++ node ++ ": " ++ reason
  | .barrierOrigin =>
      "BARRIER can only be issued by a client connected to a coordinator"
  | .recursionLimit depth =>
      "statement expansion exceeded maximum depth " ++ toString depth
  | .handler text => "Command error: " ++ text
  | .configuration text => "Configuration error: " ++ text
  | .unknownStatement text => "unrecognized statement kind: " ++ text
  | .internal text => "Internal error: " ++ text
  | .endlessExecution command => command ++ " leads back to itself"

/-- The SQLSTATE of the failure. -/
def sqlstate : Failure → String
  | .readOnly _ => "25006"
  | .recovery _ => "25006"
  | .restricted _ => "42501"
  | .insufficientPrivilege _ => "42501"
  | .blockRequired _ => "25P01"
  | .blockForbidden _ => "25001"
  | .unsupported _ => "0A000"
  | .barrierOrigin => "0A000"
  | .ambiguousTargets _ => "54001"
  | .recursionLimit _ => "54001"
  | .endlessExecution _ => "54001"
  | .prepareFailed .. => "40000"
  | .finishFailed .. => "08006"
  | .propagation _ => "08006"
  | .barrierFailed .. => "08006"
  | .unknownTransaction _ => "42704"
  | .transactionInUse _ => "42710"
  | .outcomeConflict .. => "55000"
  | .relationNotFound _ => "42P01"
  | .configuration _ => "F0000"
  | .poolerRejected .. => "XX000"
  | .handler _ => "XX000"
  | .unknownStatement _ => "XX000"
  | .internal _ => "XX000"

/-- Whether the failure tells of a fault in this layer, which no input of a
user causes. -/
def isInternal : Failure → Bool
  | .unknownStatement _ => true
  | .internal _ => true
  | _ => false

end Failure

end ClusterUtility
