/-
Transaction control, and two-phase commit over the nodes that a transaction
wrote to.

# PREPARE TRANSACTION

On the coordinator that has the command from a client, two phases follow one
another.

- First every participant prepares its branch, in order. Where one does not,
  the branches prepared before it are rolled back.
- Then the local side ends: with a record of its own where it changed the
  catalog of this node, else with a commit, since the branches hold all that
  has to survive. At last the transaction is registered under its identifier.

The registration is what makes the transaction prepared. Whatever fails
before it, all branches are rolled back and the local transaction is aborted.
A branch that cannot be rolled back at that moment is registered as one that
can only be rolled back, so that it stays within reach.

# COMMIT PREPARED and ROLLBACK PREPARED

The branches are finished in the order of the registry's entry. Each finished
branch leaves the entry and binds the outcome, so a finish that was
interrupted can be taken up again but not turned round.

# Other nodes

A node that has the command from a coordinator is itself a participant, and
deals with its own branch alone.
-/
import ClusterUtility.Program.Basic
import ClusterUtility.Transaction.BeginQuery

namespace ClusterUtility

open Program (request ofReply ofRemoteReply forEach)

/-- What a transaction command says besides its own tag, if anything. -/
abbrev TagOverride := Option String

/-- What the client is told of a commit that became a rollback. -/
def rolledBackTag : TagOverride := some "ROLLBACK"

-- ====================================================== BEGIN

/-- Begins a transaction block, on the other nodes first. -/
def beginTransaction (options : List TransactionOption) (c : Context) :
    Program Unit := do
  if c.propagates then
    ofRemoteReply (← request (.beginRemote (beginQuery? options)))
  ofReply (← request .beginBlock)
  forEach (fun option => do ofReply (← request (.setOption option))) options

-- ================================================= PREPARE TRANSACTION

/-- Rolls back prepared branches; gives those that could not be. -/
def rollBackBranches (gid : Gid) : List Node → Program (List Node)
  | [] => return []
  | node :: rest => do
      let reply ← request (.finishBranch node gid false)
      let inDoubt ← rollBackBranches gid rest
      match reply with
      | .ok () => return inDoubt
      | .error _ => return node :: inDoubt

/-- Undoes a transaction of which some branches are prepared. Branches in
doubt are registered to be rolled back later. Nothing that goes wrong here
changes what the command reports. -/
def undoPrepare (gid : Gid) (prepared : List Node) : Program Unit := do
  let inDoubt ← rollBackBranches gid prepared
  if !inDoubt.isEmpty then
    let _ ← request (.register (.rollbackOnly gid inDoubt))
  let _ ← request .abortBranches
  let _ ← request .abortBlock
  return ()

/-- Prepares the branch of each node, in order; after a failure the branches
prepared until then are undone. -/
def prepareBranches (gid : Gid) (prepared : List Node) :
    List Node → Program Unit
  | [] => return ()
  | node :: rest => do
      match ← request (.prepareBranch node gid) with
      | .ok () => prepareBranches gid (prepared ++ [node]) rest
      | .error failure => do
          undoPrepare gid prepared
          .fail (.prepareFailed gid failure.node failure.message)

/-- Ends the local side of a transaction whose branches are prepared. -/
def endLocalSide (gid : Gid) (hasRecord : Bool) :
    Program (Except Failure Bool) :=
  if hasRecord then request (.prepareBlock gid) else request .endBlock

/-- Registers a transaction whose branches and local side are prepared. Where
the registry refuses, everything is undone. -/
def registerPrepared (gid : Gid) (branches : List Node) (hasRecord : Bool) :
    Program TagOverride := do
  match ← request (.register (.undecided gid branches hasRecord)) with
  | .ok () => return none
  | .error failure => do
      if hasRecord then
        let _ ← request (.finishLocal gid false)
      undoPrepare gid branches
      .fail failure

/-- Prepares the open transaction of a client. -/
def prepareFromClient (gid : Gid) : Program TagOverride := do
  if (← request (.lookup gid)).isSome then
    .fail (.transactionInUse gid)
  else if ← request .inFailedBlock then
    let _ ← request .abortBranches
    let _ ← ofReply (← request (.prepareBlock gid))
    return rolledBackTag
  else
    let branches ← request .participants
    prepareBranches gid [] branches
    let hasRecord ← request .touchedCatalog
    match ← endLocalSide gid hasRecord with
    | .ok true => registerPrepared gid branches hasRecord
    | .ok false => do
        undoPrepare gid branches
        return rolledBackTag
    | .error failure => do
        undoPrepare gid branches
        .fail failure

/-- Prepares the branch that a coordinator asked this node for. -/
def prepareFromCoordinator (gid : Gid) : Program TagOverride := do
  if ← ofReply (← request (.prepareBlock gid)) then return none
  else return rolledBackTag

/-- PREPARE TRANSACTION. -/
def prepareTransaction (gid : Gid) (c : Context) : Program TagOverride :=
  if c.isClientFacing then prepareFromClient gid
  else prepareFromCoordinator gid

-- ======================================== COMMIT and ROLLBACK PREPARED

/-- Finishes one branch and strikes it from the registry's entry. -/
def finishBranch (gid : Gid) (commit : Bool) (node : Node) : Program Unit := do
  match ← request (.finishBranch node gid commit) with
  | .ok () => request (.dropBranch gid node commit)
  | .error failure => .fail (.finishFailed gid node failure.message)

/-- Finishes a registered transaction: its branches, then the local record,
then the entry. -/
def finishRegistered (t : PreparedTransaction) (gid : Gid) (commit : Bool) :
    Program Unit := do
  forEach (finishBranch gid commit) t.participants
  if t.coordinatorRecord then
    ofReply (← request (.finishLocal gid commit))
  request (.complete gid (.ofCommit commit))

/-- Finishes a prepared transaction for a client. -/
def finishFromClient (gid : Gid) (commit : Bool) : Program Unit := do
  match ← request (.lookup gid) with
  | none => .fail (.unknownTransaction gid)
  | some t =>
      if t.outcome.allows commit then finishRegistered t gid commit
      else .fail (.outcomeConflict gid t.outcome)

/-- COMMIT PREPARED and ROLLBACK PREPARED. -/
def finishPrepared (gid : Gid) (commit : Bool) (c : Context) : Program Unit :=
  if c.isClientFacing then finishFromClient gid commit
  else do ofReply (← request (.finishLocal gid commit))

-- ====================================================== all commands

/-- Runs a transaction command; gives what the client is told instead of the
command's own tag. -/
def TransactionCommand.run (c : Context) :
    TransactionCommand → Program TagOverride
  | .begin options => do
      beginTransaction options c
      return none
  | .start options => do
      beginTransaction options c
      return none
  | .commit => do
      if ← ofReply (← request .endBlock) then return none
      else return rolledBackTag
  | .rollback => do
      ofReply (← request .abortBlock)
      return none
  | .savepoint name => do
      ofReply (← request (.defineSavepoint name))
      return none
  | .release name => do
      ofReply (← request (.releaseSavepoint name))
      return none
  | .rollbackTo name => do
      ofReply (← request (.rollbackToSavepoint name))
      return none
  | .prepare gid => prepareTransaction gid c
  | .commitPrepared gid => do
      finishPrepared gid true c
      return none
  | .rollbackPrepared gid => do
      finishPrepared gid false c
      return none

end ClusterUtility
