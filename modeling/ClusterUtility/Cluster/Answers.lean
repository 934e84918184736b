/-
How a cluster in memory answers requests.
-/
import ClusterUtility.Cluster.Commands
import ClusterUtility.Cluster.Nodes
import ClusterUtility.Cluster.Registry
import ClusterUtility.Cluster.Transactions
import ClusterUtility.Program.Basic

namespace ClusterUtility.Cluster

/-- The reply of a cluster to a request, and the cluster after it. -/
def answer : Program.Answers Cluster
  | .execute s _, c => c.execute s
  | .expand s _, c => (.ok (c.expand s), c)
  | .defineRelation create kind, c => c.defineRelation create kind
  | .createStorage _ create, c =>
      (.ok (), c.record (.storageCreated create.relation.text))
  | .createForeignTable _ create, c =>
      (.ok (), c.record (.foreignTableCreated create.table.relation.text))
  | .alterTable alter, c => c.alterTable alter
  | .checkOwnership name, c => (.ok (), c.record (.ownershipChecked name.text))
  | .checkpoint restartPoint, c =>
      (.ok (), c.record (.checkpoint restartPoint))
  | .inBlock, c => (c.session.inBlock, c)
  | .inFailedBlock, c => (c.session.inBlock && c.session.failed, c)
  | .beginBlock, c => (.ok (), c.beginBlock)
  | .setOption option, c => (.ok (), c.setOption option)
  | .endBlock, c => (.ok c.endBlock.1, c.endBlock.2)
  | .abortBlock, c => (.ok (), c.abortBlock)
  | .prepareBlock gid, c => c.prepareBlock gid
  | .finishLocal gid commit, c => c.finishLocal gid commit
  | .defineSavepoint name, c => (.ok (), c.defineSavepoint name)
  | .releaseSavepoint name, c => c.releaseSavepoint name
  | .rollbackToSavepoint name, c => c.rollbackToSavepoint name
  | .advanceCommand, c => ((), c.record .commandAdvanced)
  | .touchedCatalog, c => (c.session.touchedCatalog, c)
  | .beginRemote query, c => (.ok (), c.beginRemote query)
  | .participants, c => (c.session.written.nodes, c)
  | .prepareBranch node gid, c => c.prepareBranch node gid
  | .finishBranch node gid commit, c => c.finishBranch node gid commit
  | .abortBranches, c => (.ok (), c.abortBranches)
  | .register t, c => c.register t
  | .lookup gid, c => (c.lookup gid, c)
  | .dropBranch gid node commit, c => ((), c.dropBranch gid node commit)
  | .complete gid status, c => ((), c.complete gid status)
  | .send r, c => c.send r
  | .setSessionOption isLocal text, c => c.setSessionOption isLocal text
  | .cleanConnections clean, c => (.ok (), c.cleanConnections clean)
  | .relationKind name, c => (c.relationKind name, c)
  | .prepareBarrier node id, c => c.prepareBarrier node id
  | .executeBarrier node id, c => c.executeBarrier node id
  | .endBarrier node id, c => (.ok (), c.record (.barrierEnded node id))
  | .recordBarrier id, c => (.ok (), c.record (.barrierRecorded id))
  | .timestamp, c => (c.timestamp, c)
  | .sessionObjects, c => (c.session.objects, c)

end ClusterUtility.Cluster
