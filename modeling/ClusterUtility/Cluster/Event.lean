/-
What a cluster did, as the entries of its journal.
-/
import ClusterUtility.RelationKind
import ClusterUtility.RemoteRequest
import ClusterUtility.Statement.Kind

namespace ClusterUtility.Cluster

/-- An entry of the journal. -/
inductive Event where
  /-- The handler of a statement ran. -/
  | handler (kind : Kind)
  | relationDefined (relation : String) (kind : RelationKind)
  | storageCreated (relation : String)
  | foreignTableCreated (relation : String)
  | tableAltered (relation : String)
  | ownershipChecked (relation : String)
  | checkpoint (restartPoint : Bool)
  | commandAdvanced
  | sent (request : RemoteRequest)
  | sessionOptionSet (isLocal : Bool) (text : String)
  | connectionsCleaned (database : Option String)
  | localBegin
  | localCommit
  | localAbort
  | localPrepare (gid : Gid)
  | localFinish (gid : Gid) (commit : Bool)
  | savepoint (name : String)
  | remoteBegin (query : Option String)
  | branchPrepared (node : Node) (gid : Gid)
  | branchFinished (node : Node) (gid : Gid) (commit : Bool)
  | branchesAborted
  | barrierPrepared (node : Node) (id : String)
  | barrierExecuted (node : Node) (id : String)
  | barrierEnded (node : Node) (id : String)
  | barrierRecorded (id : String)
deriving DecidableEq, Repr

namespace Event

/-- An identifier between single quotes. -/
def marked (id : String) : String := "'" ++ id ++ "'"

/-- What finishing a prepared transaction is called. -/
def finishWord (commit : Bool) : String :=
  if commit then "commit" else "rollback"

/-- A truth value in words. -/
def truthWord (b : Bool) : String :=
  if b then "true" else "false"

/-- The entry as it is shown. -/
def text : Event → String
  | .handler kind => "handler " ++ kind.name
  | .relationDefined relation kind => "define " ++ kind.name ++ " " ++ relation
  | .storageCreated relation => "secondary storage for " ++ relation
  | .foreignTableCreated relation => "foreign table " ++ relation
  | .tableAltered relation => "alter table " ++ relation
  | .ownershipChecked relation => "ownership check on " ++ relation
  | .checkpoint restartPoint =>
      if restartPoint then "restartpoint" else "checkpoint"
  | .commandAdvanced => "command counter increment"
  | .sent r =>
      "remote " ++ r.group.text ++ (if r.autocommit then " (autocommit)"
        else "") ++ ": "
        ++ r.text
  | .sessionOptionSet isLocal text =>
      "pooler set (local: " ++ truthWord isLocal ++ "): " ++ text
  | .connectionsCleaned (some database) =>
      "pooler clean for database " ++ database
  | .connectionsCleaned none => "pooler clean"
  | .localBegin => "local begin"
  | .localCommit => "local commit"
  | .localAbort => "local abort"
  | .localPrepare gid => "local prepare " ++ marked gid
  | .localFinish gid commit =>
      "local " ++ finishWord commit ++ " prepared " ++ marked gid
  | .savepoint name => "savepoint " ++ name
  | .remoteBegin (some query) => "remote begin: " ++ query
  | .remoteBegin none => "remote begin"
  | .branchPrepared node gid => "prepare " ++ marked gid ++ " on " ++ node
  | .branchFinished node gid commit =>
      finishWord commit ++ " prepared " ++ marked gid ++ " on " ++ node
  | .branchesAborted => "abort participants"
  | .barrierPrepared node id =>
      "prepare barrier " ++ marked id ++ " on " ++ node
  | .barrierExecuted node id =>
      "execute barrier " ++ marked id ++ " on " ++ node
  | .barrierEnded node id => "end barrier " ++ marked id ++ " on " ++ node
  | .barrierRecorded id => "local barrier record " ++ marked id

/-- The request of an entry for one. -/
def request? : Event → Option RemoteRequest
  | .sent r => some r
  | _ => none

/-- The kind of statement of an entry for a handler. -/
def handler? : Event → Option Kind
  | .handler kind => some kind
  | _ => none

end Event

end ClusterUtility.Cluster
