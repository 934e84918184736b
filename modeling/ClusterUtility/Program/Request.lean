/-
Requests: everything that a dispatch may ask of the world around it.

The command handlers of the node, its transaction manager, the other nodes,
the registry of global transactions, the connection pool and the catalog are
reached by requests and by nothing else. `Request.Reply` says what comes
back. A reply may tell of a failure; what to do then is for the one who
asked.
-/
import ClusterUtility.Failure
import ClusterUtility.RelationKind
import ClusterUtility.RemoteRequest
import ClusterUtility.Statement.LogClass

namespace ClusterUtility

/-- The number of a relation that was just defined. -/
structure RelationNumber where
  value : Nat
deriving DecidableEq, Repr

/-- What a command handler gives back: the rows for the client, and the
number of rows processed where the command counts them. -/
structure Handled where
  rows : List (List Json)
  count : Option Nat

/-- A request to the world. -/
inductive Request where
  -- command handlers
  /-- Runs the handler of a statement. -/
  | execute (statement : Statement) (text : String)
  /-- The statements that implement a statement about a table, in order. -/
  | expand (statement : Statement) (text : String)
  /-- Enters a new relation into the catalog. -/
  | defineRelation (create : CreateTable) (kind : RelationKind)
  /-- Creates the storage of a new table for values that do not fit a row. -/
  | createStorage (relation : RelationNumber) (create : CreateTable)
  /-- Ties a new relation to its foreign server. -/
  | createForeignTable (relation : RelationNumber)
      (create : CreateForeignTable)
  /-- Applies the catalog changes of ALTER TABLE. -/
  | alterTable (alter : AlterTable)
  /-- Refuses who does not own a relation. -/
  | checkOwnership (relation : QualifiedName)
  /-- Forces a checkpoint, or a restart point during recovery. -/
  | checkpoint (restartPoint : Bool)
  -- the local transaction
  /-- Whether a transaction block is open. -/
  | inBlock
  /-- Whether the open block can only be rolled back. -/
  | inFailedBlock
  | beginBlock
  | setOption (option : TransactionOption)
  /-- Commits the block; the reply is false where it was rolled back. -/
  | endBlock
  | abortBlock
  /-- Prepares the block; the reply is false where it was rolled back. -/
  | prepareBlock (gid : Gid)
  /-- Commits or rolls back what was prepared on this node. -/
  | finishLocal (gid : Gid) (commit : Bool)
  | defineSavepoint (name : String)
  | releaseSavepoint (name : String)
  | rollbackToSavepoint (name : String)
  /-- Makes what earlier commands did visible to later ones. -/
  | advanceCommand
  /-- Whether the transaction changed the catalog of this node. -/
  | touchedCatalog
  -- branches on other nodes
  /-- Begins the transaction elsewhere, with a query instead of BEGIN. -/
  | beginRemote (query : Option String)
  /-- The nodes that the transaction wrote to. -/
  | participants
  | prepareBranch (node : Node) (gid : Gid)
  | finishBranch (node : Node) (gid : Gid) (commit : Bool)
  /-- Aborts the branches that are not prepared. -/
  | abortBranches
  -- the registry of global transactions
  | register (transaction : PreparedTransaction)
  /-- The transaction under an identifier, if it waits to be finished. -/
  | lookup (gid : Gid)
  /-- A branch was finished: it leaves the entry and binds its outcome. -/
  | dropBranch (gid : Gid) (node : Node) (commit : Bool)
  | complete (gid : Gid) (status : TransactionStatus)
  -- other nodes and the connection pool
  | send (request : RemoteRequest)
  /-- Records a session command; a status below zero is a refusal. -/
  | setSessionOption (isLocal : Bool) (text : String)
  | cleanConnections (clean : CleanConnection)
  -- the catalog
  | relationKind (name : QualifiedName)
  -- barriers
  | prepareBarrier (node : Node) (id : String)
  | executeBarrier (node : Node) (id : String)
  | endBarrier (node : Node) (id : String)
  | recordBarrier (id : String)
  /-- A mark of the present moment. -/
  | timestamp
  -- the session
  /-- The prepared statements and open portals. -/
  | sessionObjects

namespace Request

/-- What comes back for a request. -/
abbrev Reply : Request → Type
  | .execute .. => Except Failure Handled
  | .expand .. => Except Failure (List Statement)
  | .defineRelation .. => Except Failure RelationNumber
  | .createStorage .. => Except Failure Unit
  | .createForeignTable .. => Except Failure Unit
  | .alterTable _ => Except Failure Unit
  | .checkOwnership _ => Except Failure Unit
  | .checkpoint _ => Except Failure Unit
  | .inBlock => Bool
  | .inFailedBlock => Bool
  | .beginBlock => Except Failure Unit
  | .setOption _ => Except Failure Unit
  | .endBlock => Except Failure Bool
  | .abortBlock => Except Failure Unit
  | .prepareBlock _ => Except Failure Bool
  | .finishLocal .. => Except Failure Unit
  | .defineSavepoint _ => Except Failure Unit
  | .releaseSavepoint _ => Except Failure Unit
  | .rollbackToSavepoint _ => Except Failure Unit
  | .advanceCommand => Unit
  | .touchedCatalog => Bool
  | .beginRemote _ => Except TransportFailure Unit
  | .participants => List Node
  | .prepareBranch .. => Except TransportFailure Unit
  | .finishBranch .. => Except TransportFailure Unit
  | .abortBranches => Except TransportFailure Unit
  | .register _ => Except Failure Unit
  | .lookup _ => Option PreparedTransaction
  | .dropBranch .. => Unit
  | .complete .. => Unit
  | .send _ => Except TransportFailure Unit
  | .setSessionOption .. => Int
  | .cleanConnections _ => Except TransportFailure Unit
  | .relationKind _ => Except Failure RelationKind
  | .prepareBarrier .. => Except TransportFailure Unit
  | .executeBarrier .. => Except TransportFailure Unit
  | .endBarrier .. => Except TransportFailure Unit
  | .recordBarrier _ => Except Failure Unit
  | .timestamp => String
  | .sessionObjects => SessionObjects

end Request

end ClusterUtility
