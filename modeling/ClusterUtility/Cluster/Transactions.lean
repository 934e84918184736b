/-
The transaction manager of the local node of a cluster in memory.
-/
import ClusterUtility.Cluster.Basic

namespace ClusterUtility.Cluster

-- ====================================================== blocks

/-- Opens a block; inside one, nothing happens. -/
def beginBlock (c : Cluster) : Cluster :=
  if c.session.inBlock then c
  else
    (c.mapSession fun s =>
      { s with inBlock := true, status := .inProgress, globalId :=
        none }).record .localBegin

/-- Takes over a characteristic of the transaction. -/
def setOption (c : Cluster) (option : TransactionOption) : Cluster :=
  c.mapSession fun s => { s with options := s.options ++ [option] }

/-- Ends the session's transaction without a commit. -/
def abortTransaction (c : Cluster) : Cluster :=
  (c.mapSession fun s => s.ended .aborted).record .localAbort

/-- Ends the block. A failed one is rolled back, and the answer is false. -/
def endBlock (c : Cluster) : Bool × Cluster :=
  if !c.session.inBlock then (true, c)
  else if c.session.failed then (false, c.abortTransaction)
  else (true, (c.mapSession fun s => s.ended .committed).record .localCommit)

/-- Rolls the block back; outside of one, nothing happens. -/
def abortBlock (c : Cluster) : Cluster :=
  if c.session.inBlock then c.abortTransaction else c

/-- Prepares the block under an identifier. Without a block, or with a failed
one, which is rolled back, the answer is false. -/
def prepareBlock (c : Cluster) (gid : Gid) : Except Failure Bool × Cluster :=
  if !c.session.inBlock then (.ok false, c)
  else if c.session.failed then (.ok false, c.abortTransaction)
  else if gid ∈ c.localRecords then (.error (.transactionInUse gid), c)
  else
    let prepared := c.mapSession fun s => { s.ended .prepared with
        globalId := some gid }
    (.ok true,
     { prepared with localRecords := c.localRecords ++ [gid] }.record
       (.localPrepare gid))

/-- The status of the session after a prepared transaction was finished. -/
def statusAfterFinish (s : LocalSession) (gid : Gid) (commit : Bool) :
    TransactionStatus :=
  if s.globalId = some gid ∧ s.status.canBecome (.ofCommit commit) then
    .ofCommit commit
  else s.status

/-- Commits or rolls back what was prepared here under an identifier. -/
def finishLocal (c : Cluster) (gid : Gid) (commit : Bool) :
    Except Failure Unit × Cluster :=
  if gid ∈ c.localRecords then
    let finished := c.mapSession fun s =>
      { s with status := statusAfterFinish s gid commit }
    (.ok (),
     { finished with
         localRecords := c.localRecords.filter fun g => g ≠ gid }.record
       (.localFinish gid commit))
  else (.error (.unknownTransaction gid), c)

-- ====================================================== savepoints

/-- The savepoints up to and with the newest one of a name; none if there is
no such savepoint. -/
def savepointsTo? (name : String) : List String → Option (List String)
  | [] => none
  | s :: rest =>
      match savepointsTo? name rest with
      | some kept => some (s :: kept)
      | none => if s = name then some [s] else none

/-- The failure of naming a savepoint that is not there. -/
def noSavepoint (name : String) : Failure :=
  .handler ("savepoint " ++ Failure.quoted name ++ " does not exist")

/-- Sets a savepoint. -/
def defineSavepoint (c : Cluster) (name : String) : Cluster :=
  (c.mapSession fun s => { s with
      savepoints := s.savepoints ++ [name] }).record
    (.savepoint name)

/-- Forgets the newest savepoint of a name and all later ones. -/
def releaseSavepoint (c : Cluster) (name : String) :
    Except Failure Unit × Cluster :=
  match savepointsTo? name c.session.savepoints with
  | none => (.error (noSavepoint name), c)
  | some kept =>
      (.ok (), c.mapSession fun s => { s with savepoints := kept.dropLast })

/-- Goes back to the newest savepoint of a name: it stays, later ones are
forgotten, and the block is no longer failed. -/
def rollbackToSavepoint (c : Cluster) (name : String) :
    Except Failure Unit × Cluster :=
  match savepointsTo? name c.session.savepoints with
  | none => (.error (noSavepoint name), c)
  | some kept =>
      (.ok (), c.mapSession fun s => { s with
          savepoints := kept, failed := false })

end ClusterUtility.Cluster
