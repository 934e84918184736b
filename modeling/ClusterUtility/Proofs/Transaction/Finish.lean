/-
What COMMIT PREPARED and ROLLBACK PREPARED from a client do.

A finish goes through the branches in the order of the entry and stops at the
first one that does not finish. So what it did is told by how far it came,
and a finish that fails before the first branch did nothing at all: an
identifier under which nothing waits, and an outcome that is bound to the
other way, leave the whole cluster as it is.
-/
import ClusterUtility.Proofs.Cluster.Perform
import ClusterUtility.Proofs.Transaction.Effect
import ClusterUtility.Transaction.TwoPhase

namespace ClusterUtility.Cluster

variable {c d : Cluster} {gid : Gid} {commit : Bool} {nodes : List Node}
  {t : PreparedTransaction}

-- ====================================================== one branch

/-- A finished branch is released, and leaves the entry. -/
theorem perform_finishBranch_of_held {node : Node}
    (hfree : c.blocked commit node = false) (hheld : node ∈ c.held gid) :
    c.perform (ClusterUtility.finishBranch gid commit node)
      = (.ok (), (c.release node gid commit).dropBranch gid node commit) := by
  have hfault : c.finishFault? node commit = none := by
    simpa [blocked] using hfree
  have hanswer : c.finishBranch node gid commit
      = (.ok (), c.release node gid commit) := by
    rw [finishBranch_eq, hfault]
    exact if_pos hheld
  unfold ClusterUtility.finishBranch
  rw [Program.bind_eq, perform_request_bind]
  simp only [answer, hanswer]
  rfl

/-- A branch that is blocked or not held stops the finish. -/
theorem perform_finishBranch_of_stopped {node : Node}
    (hstopped : c.blocked commit node = true ∨ node ∉ c.held gid) :
    ∃ failure, c.perform (ClusterUtility.finishBranch gid commit node)
      = (.error failure, c) := by
  obtain ⟨cause, hanswer⟩ : ∃ cause, c.finishBranch node gid commit
      = (.error cause, c) := by
    rw [finishBranch_eq]
    cases hfault : c.finishFault? node commit with
    | some cause => exact ⟨cause, rfl⟩
    | none =>
        rcases hstopped with hblocked | hgone
        · simp [blocked, hfault] at hblocked
        · exact ⟨_, if_neg hgone⟩
  refine ⟨.finishFailed gid node cause.message, ?_⟩
  unfold ClusterUtility.finishBranch
  rw [Program.bind_eq, perform_request_bind]
  simp only [answer, hanswer]
  rfl

-- ====================================================== many branches

/-- The cluster after nodes finished their branches and these left the
entry. -/
def finishAll (c : Cluster) (gid : Gid) (commit : Bool)
    (nodes : List Node) : Cluster :=
  nodes.foldl
    (fun c node => (c.release node gid commit).dropBranch gid node commit) c

/-- The transaction sees it as finishes of its own branches. -/
private theorem holding_finishAll (c : Cluster) (gid : Gid) (commit : Bool)
    (nodes : List Node) :
    (c.finishAll gid commit nodes).holding gid
      = (c.holding gid).finishAll gid commit nodes := by
  refine (List.foldl_hom (fun c : Cluster => c.holding gid)
    fun c node => ?_).symm
  rw [holding_dropBranch, holding_release]

/-- Finishing branches finishes all of them, or those before the first one
that is blocked or not held. -/
theorem perform_finishBranches (c : Cluster) (gid : Gid) (commit : Bool)
    (nodes : List Node) :
    c.perform (Program.forEach (ClusterUtility.finishBranch gid commit) nodes)
      = (.ok (), c.finishAll gid commit nodes) ∨
      ∃ done node rest failure, nodes = done ++ node :: rest ∧
        (c.blocked commit node = true ∨
          node ∉ (c.finishAll gid commit done).held gid) ∧
        c.perform
            (Program.forEach (ClusterUtility.finishBranch gid commit) nodes)
          = (.error failure, c.finishAll gid commit done) := by
  induction nodes generalizing c with
  | nil => exact .inl rfl
  | cons node rest ih =>
      unfold Program.forEach
      by_cases hgo : c.blocked commit node = false ∧ node ∈ c.held gid
      · rw [perform_bind_of_ok (perform_finishBranch_of_held hgo.1 hgo.2)]
        rcases ih ((c.release node gid commit).dropBranch gid node commit) with
          hok | ⟨done, other, left, failure, rfl, hstopped, hfail⟩
        · exact .inl hok
        · exact .inr
            ⟨node :: done, other, left, failure, rfl, hstopped, hfail⟩
      · have hstopped : c.blocked commit node = true ∨ node ∉ c.held gid := by
          rcases Bool.eq_false_or_eq_true (c.blocked commit node) with hb | hb
          · exact .inl hb
          · exact .inr fun hheld => hgo ⟨hb, hheld⟩
        obtain ⟨failure, hfail⟩ := perform_finishBranch_of_stopped hstopped
        exact .inr ⟨[], node, rest, failure, rfl, hstopped,
          perform_bind_of_error hfail _⟩

-- ====================================================== the command

/-- Under an identifier for which nothing waits there is nothing to finish. -/
theorem perform_finishFromClient_unknown (hlookup : c.lookup gid = none)
    (commit : Bool) :
    c.perform (finishFromClient gid commit)
      = (.error (.unknownTransaction gid), c) := by
  unfold finishFromClient
  rw [Program.bind_eq, perform_request_bind]
  simp only [answer, hlookup]
  rfl

/-- A transaction that is bound to the other outcome is left as it is. -/
theorem perform_finishFromClient_conflict (hlookup : c.lookup gid = some t)
    (hbound : t.outcome.allows commit = false) :
    c.perform (finishFromClient gid commit)
      = (.error (.outcomeConflict gid t.outcome), c) := by
  unfold finishFromClient
  rw [Program.bind_eq, perform_request_bind]
  simp only [answer, hlookup, hbound]
  rfl

/-- What follows once all branches are finished: the local record, if there is
one, and the end of the entry. -/
theorem finished_endRegistered (hlookup : c.lookup gid = some t)
    (hallows : t.outcome.allows commit = true)
    (hbranches :
      c.perform (Program.forEach (ClusterUtility.finishBranch gid commit)
          t.participants)
        = (.ok (), c.finishAll gid commit t.participants)) :
    Holding.Finished gid commit (c.blocked commit) (c.holding gid)
      (c.perform (finishRegistered t gid commit)).1
      ((c.perform (finishRegistered t gid commit)).2.holding gid) := by
  have hrecorded :
      ((c.holding gid).finishAll gid commit t.participants).recorded
        = (c.holding gid).recorded := by
    rw [Holding.finishAll_eq, Holding.releaseAll_eq]
  have hall := holding_finishAll c gid commit t.participants
  unfold finishRegistered
  rw [Program.bind_eq, perform_bind_of_ok hbranches]
  generalize c.finishAll gid commit t.participants = d at hall
  dsimp only
  cases hrecord : t.coordinatorRecord with
  | false =>
      have hneeds : t.coordinatorRecord = true →
          (c.holding gid).recorded = true := by
        intro htrue
        rw [hrecord] at htrue
        cases htrue
      have hdone : Holding.Finished gid commit (c.blocked commit)
          (c.holding gid) (.ok ()) _ :=
        .completed hlookup hallows hneeds
      rw [Holding.complete, hrecord, ← hall] at hdone
      rw [if_neg (by simp), perform_request]
      simp only [answer, holding_complete]
      exact hdone
  | true =>
      rw [if_pos rfl, Program.bind_eq, perform_request_bind]
      simp only [answer, finishLocal_eq]
      by_cases hin : gid ∈ d.localRecords
      · have hheld : (c.holding gid).recorded = true := by
          rw [← hrecorded, ← hall]
          exact (holding_recorded d gid).mpr hin
        have hdone : Holding.Finished gid commit (c.blocked commit)
            (c.holding gid) (.ok ()) _ :=
          .completed hlookup hallows fun _ => hheld
        rw [Holding.complete, hrecord, ← hall] at hdone
        simp only [hin, if_true]
        show Holding.Finished _ _ _ _ (.ok ())
          (((d.unrecord gid commit).complete gid (.ofCommit commit)).holding
            gid)
        rw [holding_complete, holding_unrecord]
        exact hdone
      · have hlost : (c.holding gid).recorded = false := by
          rw [← hrecorded, ← hall]
          refine Bool.eq_false_iff.mpr fun hheld => ?_
          exact hin ((holding_recorded d gid).mp hheld)
        simp only [hin, if_false]
        show Holding.Finished _ _ _ _ (.error (.unknownTransaction gid))
          (d.holding gid)
        rw [hall]
        exact .recordLost _ hlookup hallows hrecord hlost

/-- COMMIT PREPARED or ROLLBACK PREPARED from a client. -/
theorem finished_finishFromClient (c : Cluster) (gid : Gid) (commit : Bool) :
    Holding.Finished gid commit (c.blocked commit) (c.holding gid)
      (c.perform (finishFromClient gid commit)).1
      ((c.perform (finishFromClient gid commit)).2.holding gid) := by
  cases hlookup : c.lookup gid with
  | none =>
      rw [perform_finishFromClient_unknown hlookup]
      exact .unknown hlookup
  | some t =>
      cases hbound : t.outcome.allows commit with
      | false =>
          rw [perform_finishFromClient_conflict hlookup hbound]
          exact .conflict hlookup hbound
      | true =>
          unfold finishFromClient
          rw [Program.bind_eq, perform_request_bind]
          simp only [answer, hlookup, hbound, if_true]
          rcases perform_finishBranches c gid commit t.participants with
            hok | ⟨done, node, rest, failure, hsplit, hstopped, hfail⟩
          · exact finished_endRegistered hlookup hbound hok
          · rw [finishRegistered, Program.bind_eq, perform_bind_of_error hfail,
              holding_finishAll]
            rw [← holding_branches, holding_finishAll] at hstopped
            exact .interrupted failure hlookup hbound hsplit hstopped

end ClusterUtility.Cluster
