/-
Stand-ins: answers that are laid down before they are asked for.

A staged world is a world with a queue of stand-ins for some of its calls.
Each call takes the next item of its queue, and the world hears nothing of a
call that a stand-in answered. An item may be empty, and a stand-in may not
fit the call; then the item is used up and the world answers, as it does
where the queue is empty.
-/
import ClusterUtility.Program.Basic

namespace ClusterUtility

-- ====================================================== calls

/-- A call that stand-ins may answer. -/
inductive StagedCall where
  | execute
  | expand
  | defineRelation
  | createStorage
  | createForeignTable
  | alterTable
  | checkOwnership
  | checkpoint
  | beginBlock
  | setOption
  | endBlock
  | abortBlock
  | prepareBlock
  | finishLocal
  | defineSavepoint
  | releaseSavepoint
  | rollbackToSavepoint
  | touchedCatalog
  | beginRemote
  | prepareBranch
  | finishBranch
  | abortBranches
  | register
  | send
  | setSessionOption
  | cleanConnections
  | relationKind
  | prepareBarrier
  | executeBarrier
  | endBarrier
  | recordBarrier
deriving DecidableEq, Repr

/-- The call of a request, if stand-ins may answer it. -/
def Request.stagedCall? : Request → Option StagedCall
  | .execute .. => some .execute
  | .expand .. => some .expand
  | .defineRelation .. => some .defineRelation
  | .createStorage .. => some .createStorage
  | .createForeignTable .. => some .createForeignTable
  | .alterTable _ => some .alterTable
  | .checkOwnership _ => some .checkOwnership
  | .checkpoint _ => some .checkpoint
  | .beginBlock => some .beginBlock
  | .setOption _ => some .setOption
  | .endBlock => some .endBlock
  | .abortBlock => some .abortBlock
  | .prepareBlock _ => some .prepareBlock
  | .finishLocal .. => some .finishLocal
  | .defineSavepoint _ => some .defineSavepoint
  | .releaseSavepoint _ => some .releaseSavepoint
  | .rollbackToSavepoint _ => some .rollbackToSavepoint
  | .touchedCatalog => some .touchedCatalog
  | .beginRemote _ => some .beginRemote
  | .prepareBranch .. => some .prepareBranch
  | .finishBranch .. => some .finishBranch
  | .abortBranches => some .abortBranches
  | .register _ => some .register
  | .send _ => some .send
  | .setSessionOption .. => some .setSessionOption
  | .cleanConnections _ => some .cleanConnections
  | .relationKind _ => some .relationKind
  | .prepareBarrier .. => some .prepareBarrier
  | .executeBarrier .. => some .executeBarrier
  | .endBarrier .. => some .endBarrier
  | .recordBarrier _ => some .recordBarrier
  | .inBlock => none
  | .inFailedBlock => none
  | .advanceCommand => none
  | .participants => none
  | .lookup _ => none
  | .dropBranch .. => none
  | .complete .. => none
  | .timestamp => none
  | .sessionObjects => none

-- ====================================================== stand-ins

/-- An answer that is laid down. -/
inductive StandIn where
  | failure (f : Failure)
  | remoteFailure (f : TransportFailure)
  | truth (b : Bool)
  | status (n : Int)
deriving DecidableEq, Repr

namespace StandIn

/-- The stand-in as the failure of a call on this node. -/
def failure? {α : Type} : StandIn → Option (Except Failure α)
  | .failure f => some (.error f)
  | .remoteFailure f => some (.error (.propagation f))
  | _ => none

/-- The stand-in as the reply of a call that says yes or no. -/
def verdict? : StandIn → Option (Except Failure Bool)
  | .truth b => some (.ok b)
  | other => other.failure?

/-- The stand-in as the failure of a call to another node. -/
def remoteFailure? : StandIn → Option (Except TransportFailure Unit)
  | .remoteFailure f => some (.error f)
  | _ => none

/-- The stand-in as a truth value. -/
def truth? : StandIn → Option Bool
  | .truth b => some b
  | _ => none

/-- The stand-in as the status of the connection pool. -/
def status? : StandIn → Option Int
  | .status n => some n
  | _ => none

/-- The reply to a request that a stand-in comes to, if it fits. -/
def reply? (s : StandIn) : (r : Request) → Option r.Reply
  | .execute .. => s.failure?
  | .expand .. => s.failure?
  | .defineRelation .. => s.failure?
  | .createStorage .. => s.failure?
  | .createForeignTable .. => s.failure?
  | .alterTable _ => s.failure?
  | .checkOwnership _ => s.failure?
  | .checkpoint _ => s.failure?
  | .beginBlock => s.failure?
  | .setOption _ => s.failure?
  | .endBlock => s.verdict?
  | .abortBlock => s.failure?
  | .prepareBlock _ => s.verdict?
  | .finishLocal .. => s.failure?
  | .defineSavepoint _ => s.failure?
  | .releaseSavepoint _ => s.failure?
  | .rollbackToSavepoint _ => s.failure?
  | .touchedCatalog => s.truth?
  | .beginRemote _ => s.remoteFailure?
  | .prepareBranch .. => s.remoteFailure?
  | .finishBranch .. => s.remoteFailure?
  | .abortBranches => s.remoteFailure?
  | .register _ => s.failure?
  | .send _ => s.remoteFailure?
  | .setSessionOption .. => s.status?
  | .cleanConnections _ => s.remoteFailure?
  | .relationKind _ => s.failure?
  | .prepareBarrier .. => s.remoteFailure?
  | .executeBarrier .. => s.remoteFailure?
  | .endBarrier .. => s.remoteFailure?
  | .recordBarrier _ => s.failure?
  | .inBlock => none
  | .inFailedBlock => none
  | .advanceCommand => none
  | .participants => none
  | .lookup _ => none
  | .dropBranch .. => none
  | .complete .. => none
  | .timestamp => none
  | .sessionObjects => none

end StandIn

-- ====================================================== staged worlds

/-- A world with queues of stand-ins. -/
structure Staged (σ : Type) where
  queues : Directory StagedCall (List (Option StandIn))
  world : σ

namespace Staged

variable {σ : Type}

/-- A world without stand-ins. -/
def plain (world : σ) : Staged σ := ⟨∅, world⟩

/-- Lays down the stand-ins of a call, in place of those that are left. -/
def lay (w : Staged σ) (call : StagedCall)
    (items : List (Option StandIn)) : Staged σ :=
  { w with queues := w.queues.insert call items }

/-- The next item for a request, and the world without it. -/
def next (w : Staged σ) (r : Request) : Option StandIn × Staged σ :=
  match r.stagedCall? with
  | none => (none, w)
  | some call =>
      match w.queues.get? call with
      | some (item :: rest) => (item, w.lay call rest)
      | _ => (none, w)

/-- The world behind the stage answers. -/
def pass (answer : Program.Answers σ) (r : Request) (w : Staged σ) :
    r.Reply × Staged σ :=
  let (reply, world) := answer r w.world
  (reply, { w with world := world })

/-- How a staged world answers. -/
def answer (behind : Program.Answers σ) :
    Program.Answers (Staged σ) := fun r w =>
  match w.next r with
  | (none, w') => pass behind r w'
  | (some item, w') =>
      match item.reply? r with
      | some reply => (reply, w')
      | none => pass behind r w'

end Staged

end ClusterUtility
