/-
Finishes after a restart of the coordinator.

A client may send COMMIT PREPARED or ROLLBACK PREPARED long after the prepare,
and the coordinator may have crashed in between. Its session is lost then, so
a finish must not need it: what it goes by is in the registry, on the other
nodes and in the local records.

# Two runs

One dispatch is run on a cluster and on the same cluster restarted, and the
runs are compared request by request. All that a finish asks about the session
is whether a block is open (`Request.Outlives`); where none is, a fresh session
gives the same answer, and the rest of the cluster is the same to begin with
and stays so (`restarted_answer`). Only the classification asks for more, for
the prepared statements and portals of the session, and it makes no use of them
for a transaction command.

After a restart nothing stands around dispatch, so the interceptors of the two
runs may differ, as long as both let the command through or neither does.
-/
import ClusterUtility.Proofs.Cluster.Block
import ClusterUtility.Proofs.Program.Alike
import ClusterUtility.Proofs.Transaction.Atomicity

namespace ClusterUtility

open Cluster (answer)
open Program (Alike Asks)

-- ============================================= what outlives a restart

/-- The reply says nothing of a session that no block is open in. -/
def Request.Outlives : Request → Prop
  | .inBlock => True
  | .lookup _ => True
  | .finishBranch .. => True
  | .dropBranch .. => True
  | .finishLocal .. => True
  | .complete .. => True
  | _ => False

/-- The second cluster is the first one restarted, while no block was open. -/
structure Cluster.Restarted (c d : Cluster) : Prop where
  eq : d = c.restart
  closed : c.session.inBlock = false

namespace Cluster

/-- A node finishes its branch without regard to the session. -/
theorem restart_finishBranch (c : Cluster) (node : Node) (gid : Gid)
    (commit : Bool) :
    c.restart.finishBranch node gid commit
      = ((c.finishBranch node gid commit).1,
        (c.finishBranch node gid commit).2.restart) := by
  have hfault : c.restart.finishFault? node commit
      = c.finishFault? node commit := rfl
  have hheld : c.restart.held gid = c.held gid := rfl
  rw [finishBranch_eq, finishBranch_eq, hfault, hheld]
  cases c.finishFault? node commit with
  | some failure => rfl
  | none =>
      by_cases hin : node ∈ c.held gid
      · simp only [hin, if_true]
        rfl
      · simp only [hin, if_false]

/-- A fresh session has no part in any prepared transaction. -/
theorem restart_finishLocal (c : Cluster) (gid : Gid) (commit : Bool) :
    c.restart.finishLocal gid commit
      = ((c.finishLocal gid commit).1,
        (c.finishLocal gid commit).2.restart) := by
  have hidle : statusAfterFinish .fresh gid commit = .idle := by
    refine if_neg fun hprepared => ?_
    cases hprepared.1
  have hrecords : c.restart.localRecords = c.localRecords := rfl
  rw [finishLocal_eq, finishLocal_eq, hrecords]
  by_cases hin : gid ∈ c.localRecords
  · simp only [hin, if_true, unrecord, mapSession, restart, hidle]
    rfl
  · simp only [hin, if_false]

/-- Such a request opens no block. -/
theorem closed_of_becomes {s s' : LocalSession} {r : Request}
    (h : s.Becomes r s') (hr : r.Outlives) (hclosed : s.inBlock = false) :
    s'.inBlock = false := by
  cases h with
  | kept r => exact hclosed
  | erred r => rw [LocalSession.inBlock_afterError, hclosed]
  | changed r => rw [LocalSession.inBlock_afterCatalogChange, hclosed]
  | ended r status hin hstatus => rfl
  | finished gid commit => exact hclosed
  | _ => exact False.elim hr

/-- What outlives a restart is answered alike, and stays so. -/
theorem restarted_answer (r : Request) (c d : Cluster) (hr : r.Outlives)
    (h : Restarted c d) :
    (answer r d).1 = (answer r c).1 ∧
      Restarted (answer r c).2 (answer r d).2 := by
  have hclosed := closed_of_becomes (becomes_answer r c) hr h.closed
  have hanswer : answer r c.restart
      = ((answer r c).1, (answer r c).2.restart) := by
    cases r with
    | inBlock =>
        show (false, c.restart) = (c.session.inBlock, c.restart)
        rw [h.closed]
    | lookup gid => rfl
    | dropBranch gid node commit => rfl
    | complete gid status => rfl
    | finishBranch node gid commit =>
        exact restart_finishBranch c node gid commit
    | finishLocal gid commit => exact restart_finishLocal c gid commit
    | _ => exact False.elim hr
  rw [h.eq, hanswer]
  exact ⟨rfl, rfl, hclosed⟩

end Cluster

-- ================================================== the two dispatches

variable {config : Configuration} {i j : Interceptor} {call : Call} {gid : Gid}
  {commit : Bool} {c d : Cluster}

/-- Of an interceptor, only a refusal matters, and what it notes. -/
theorem Interceptor.around_cases (i : Interceptor)
    (inner : Call → Program Unit) (call : Call) :
    let passed := if i.admits call.statement.kind then inner call
      else .fail (refusal call.statement.kind)
    i.around inner call = passed ∨
      i.around inner call = .tell (.sighted (sighting call)) passed := by
  cases i with
  | none => exact .inl rfl
  | standard => exact .inl rfl
  | recorder refused =>
      refine .inr ?_
      show Program.tell _ (if call.statement.kind ∈ refused then _ else _) = _
      by_cases hin : call.statement.kind ∈ refused <;>
        simp [Interceptor.admits, hin]

/-- Around runs that are alike, interceptors that agree on the statement make
no difference. -/
theorem Interceptor.alike_around {inner inner' : Call → Program Unit}
    {R : Cluster → Cluster → Prop}
    (hadmits : j.admits call.statement.kind = i.admits call.statement.kind)
    (hR : R c d)
    (h : Alike answer R (inner call) (inner' call) c d) :
    Alike answer R (i.around inner call) (j.around inner' call) c d := by
  have hpassed : Alike answer R
      (if i.admits call.statement.kind then inner call
        else .fail (refusal call.statement.kind))
      (if j.admits call.statement.kind then inner' call
        else .fail (refusal call.statement.kind))
      c d := by
    rw [hadmits]
    split
    · exact h
    · exact ⟨rfl, rfl, hR⟩
  have hleft : Alike answer R (i.around inner call)
      (if j.admits call.statement.kind then inner' call
        else .fail (refusal call.statement.kind))
      c d := by
    rcases i.around_cases inner call with hi | hi
    · rw [hi]
      exact hpassed
    · rw [hi]
      exact hpassed.sighted_left _
  rcases j.around_cases inner' call with hj | hj
  · rw [hj]
    exact hleft
  · rw [hj]
    exact hleft.sighted_right _

/-- What is left of a finish after its classification. -/
theorem alike_finish (hs : call.statement = .transaction (.finish gid commit))
    (h : Cluster.Restarted c d) :
    Alike answer Cluster.Restarted
      (Program.bind (passGate config call) fun _ => call.carriedOut config i)
      (Program.bind (passGate config call) fun _ => call.carriedOut config j)
      c d := by
  have hgate : Asks Request.Outlives (passGate config call) :=
    (within_passGate trivial config call).imp fun _ _ => trivial
  have hrun : Asks Request.Outlives
      (runLocally config.topology (fun _ => .done ()) call) := by
    have htreats : TreatsFinish Request.Outlives gid :=
      ⟨trivial, fun _ _ => trivial, fun _ _ => trivial, fun _ => trivial,
        fun _ => trivial⟩
    rw [runLocally_command hs]
    refine (asks_run_finish htreats commit call.context).bind fun tag => ?_
    cases tag with
    | none => trivial
    | some text => exact asks_tellTag call text
  refine (Program.alike_of_asks Cluster.restarted_answer hgate h).bind
    fun _ c' d' h' => ?_
  rw [carriedOut_command hs, carriedOut_command hs, runLocally_command hs,
    runLocally_command hs]
  rw [runLocally_command hs] at hrun
  exact Program.alike_of_asks Cluster.restarted_answer hrun h'

/-- The two dispatches cannot be told apart. -/
theorem alike_dispatch_finish
    (hs : call.statement = .transaction (.finish gid commit))
    (hadmits : j.admits call.statement.kind = i.admits call.statement.kind)
    (h : Cluster.Restarted c d) :
    Alike answer Cluster.Restarted (dispatch config i call)
      (dispatch config j call) c d := by
  have hclassify : Alike answer Cluster.Restarted (classify call.statement)
      (classify call.statement) c d := by
    rw [hs]
    exact ⟨rfl, rfl, h⟩
  have hprocess : Alike answer Cluster.Restarted
      (process config (fun s => dispatch config i (call.sub s)) call)
      (process config (fun s => dispatch config j (call.sub s)) call) c d := by
    refine hclassify.bind fun level c' d' h' => ?_
    dsimp only
    split
    · exact (alike_finish hs h').tell _
    · exact alike_finish hs h'
  have hlimited : Alike answer Cluster.Restarted
      (if config.maxDepth < call.context.depth then
        .fail (.recursionLimit config.maxDepth)
      else process config (fun s => dispatch config i (call.sub s)) call)
      (if config.maxDepth < call.context.depth then
        .fail (.recursionLimit config.maxDepth)
      else process config (fun s => dispatch config j (call.sub s)) call)
      c d := by
    split
    · exact ⟨rfl, rfl, h⟩
    · exact hprocess
  rw [dispatch_eq, dispatch_eq]
  refine Interceptor.alike_around hadmits h ?_
  unfold standardDispatch
  dsimp only
  split
  · exact hlimited.tell _
  · exact hlimited

/-- Where no block is open, a restart of the coordinator does not matter to a
finish: it ends the same way, the client is told the same, and the journal,
the registry, the branches on other nodes and the local records come out the
same. -/
theorem finish_outlives_restart
    (hs : call.statement = .transaction (.finish gid commit))
    (hadmits : j.admits call.statement.kind = i.admits call.statement.kind)
    (hclosed : c.session.inBlock = false) :
    let direct := Program.run answer (dispatch config i call) c
    let restarted := Program.run answer (dispatch config j call) c.restart
    restarted.result = direct.result ∧ restarted.told = direct.told ∧
      restarted.world = direct.world.restart := by
  have halike : Alike answer Cluster.Restarted (dispatch config i call)
      (dispatch config j call) c c.restart :=
    alike_dispatch_finish hs hadmits ⟨rfl, hclosed⟩
  exact ⟨halike.result, halike.told, halike.worlds.eq⟩

/-- A transaction that wrote to two nodes, of which one has committed: the
other one was out of reach. -/
def oneCommitted : Cluster :=
  twoBranches.after
    [.client (.prepare "g"),
     .setFaults { Faults.none with transport := (∅ : NodeSet).insert "dn2" },
     .client (.commitPrepared "g"),
     .setFaults .none]

/-- The call of a client that goes on with the commit. -/
def commitCall : Call :=
  ⟨.transaction (.commitPrepared "g"), "COMMIT PREPARED 'g'",
    .topLevel .coordinator, true, false⟩

/-- A commit that stopped at the second node is gone on with after the
restart. -/
theorem finish_outlives_restart_oneCommitted :
    oneCommitted.session.inBlock = false ∧
      (Program.run answer (dispatch .standard .none commitCall)
          oneCommitted.restart).result
        = .ok () ∧
      (Program.run answer (dispatch .standard .none commitCall)
          oneCommitted.restart).world
        = (Program.run answer (dispatch .standard .standard commitCall)
            oneCommitted).world.restart := by
  have hclosed : oneCommitted.session.inBlock = false := rfl
  obtain ⟨hresult, _, hworld⟩ :=
    @finish_outlives_restart .standard .standard .none commitCall "g" true
      oneCommitted rfl rfl hclosed
  exact ⟨hclosed, hresult.trans rfl, hworld⟩

end ClusterUtility
