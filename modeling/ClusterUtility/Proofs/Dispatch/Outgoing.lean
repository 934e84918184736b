/-
What leaves the node.

Of the entries of the journal, some tell of a message to another node or to
the settings that the pool keeps for other nodes (`Event.isOutgoing`). They
are entered in the answers to nine requests, which stand in five different
parts of the dispatcher; each part has a guard of its own.

# Routed statements

A statement that a coordinator routed here has come to where it was meant to
go. It must not travel on, or nodes would send each other statements without
end. Where the context is not client-facing, no guard opens: what is left to
ask reaches this node alone, or is about its own branch of a prepared
transaction (`Request.staysHome`). The answers to such requests keep all that
other nodes have to do with (`KeepsToItself`), and so does every dispatch in
such a context, whatever its statement expands to.
-/
import ClusterUtility.Proofs.Cluster.Block
import ClusterUtility.Proofs.Transaction.Concern

namespace ClusterUtility

open Cluster (Event)

-- ================================================ entries and requests

/-- The entry tells of a message to another node, or to the settings that the
pool keeps for other nodes. -/
def Cluster.Event.isOutgoing : Event → Bool
  | .sent _ => true
  | .sessionOptionSet .. => true
  | .remoteBegin _ => true
  | .branchPrepared .. => true
  | .branchFinished .. => true
  | .branchesAborted => true
  | .barrierPrepared .. => true
  | .barrierExecuted .. => true
  | .barrierEnded .. => true
  | _ => false

/-- The request reaches this node alone, or is about its own branch of a
prepared transaction. -/
def Request.staysHome : Request → Bool
  | .prepareBlock _ => true
  | .finishLocal .. => true
  | r => r.reach.isLocal

namespace Request

variable {r : Request}

/-- What reaches this node alone stays home. -/
theorem staysHome_of_home (h : r.reach.isLocal = true) :
    r.staysHome = true := by
  unfold staysHome
  split
  · rfl
  · rfl
  · exact h

/-- What stays home makes no entry of a message. -/
theorem isOutgoing_of_records (h : r.staysHome = true) {event : Event}
    (hrecords : r.Records event) : event.isOutgoing = false := by
  cases r with
  | endBlock =>
      rcases hrecords with rfl | rfl
      · rfl
      · rfl
  | prepareBlock gid =>
      rcases hrecords with rfl | rfl
      · rfl
      · rfl
  | _ =>
      first
      | exact congrArg Event.isOutgoing hrecords
      | exact False.elim hrecords
      | exact absurd h Bool.false_ne_true

/-- What stays home leaves the branches of other nodes alone. -/
private theorem not_isAboutBranches (h : r.staysHome = true) :
    ¬ r.IsAboutBranches := by
  cases r <;> first | exact id | exact absurd h Bool.false_ne_true

end Request

-- =================================================== keeping to itself

namespace Cluster

variable {c d e : Cluster}

/-- Between the two clusters nothing went out: no message, no change of the
registry or of a branch on another node, and no node was written to. -/
structure KeepsToItself (c d : Cluster) : Prop where
  journal : Adds (fun event => event.isOutgoing = false) c d
  registry : d.registry = c.registry
  branches : d.branches = c.branches
  written : ∀ node ∈ d.session.written, node ∈ c.session.written

namespace KeepsToItself

private theorem refl (c : Cluster) : KeepsToItself c c :=
  ⟨.refl _ c, rfl, rfl, fun _ h => h⟩

/-- Nothing goes out over two steps if it does not in either. -/
private theorem trans (h : KeepsToItself c d) (h' : KeepsToItself d e) :
    KeepsToItself c e where
  journal := h.journal.trans h'.journal
  registry := h'.registry.trans h.registry
  branches := h'.branches.trans h.branches
  written := fun node hmem => h.written node (h'.written node hmem)

end KeepsToItself

/-- No node is written to by the answer to what stays home. -/
private theorem written_answer {r : Request} (hstays : r.staysHome = true)
    (c : Cluster) :
    ∀ node ∈ (answer r c).2.session.written, node ∈ c.session.written := by
  intro node hmem
  cases turns_answer r c with
  | goesOn hin hmark hwritten =>
      have hnosend : ∀ request, r ≠ .send request := by
        rintro request rfl
        cases hstays
      have hnoabort : r ≠ .abortBranches := by
        rintro rfl
        cases hstays
      rw [hwritten hnosend hnoabort] at hmem
      exact hmem
  | begins hr hout hin hjournal hwritten =>
      rw [hwritten] at hmem
      exact hmem
  | ends hout hwritten =>
      rw [hwritten] at hmem
      exact absurd hmem NodeSet.not_mem_empty

/-- The answer to a request that stays home keeps to itself. -/
theorem keepsToItself_answer {r : Request} (hstays : r.staysHome = true)
    (c : Cluster) : KeepsToItself c (answer r c).2 := by
  have hanswered := answered_answer r c
  obtain ⟨hregistry, hbranches⟩ :=
    hanswered.held (r.not_isAboutBranches hstays)
  exact ⟨.of_answered hanswered fun _ => r.isOutgoing_of_records hstays,
    hregistry, hbranches, written_answer hstays c⟩

end Cluster

-- =================================================== routed statements

/-- What a coordinator routed to this node, or what a datanode has, is sent to
no other node: neither by the statement nor by anything that it expands to. -/
theorem routed_keepsToItself (config : Configuration) (i : Interceptor)
    (call : Call) (hrouted : call.context.fromCoordinator = true ∨
      call.context.role = .datanode)
    (c : Cluster) :
    c.KeepsToItself (c.perform (dispatch config i call)).2 := by
  have hfacing : call.context.isClientFacing = false := by
    unfold Context.isClientFacing
    rcases hrouted with hfrom | hrole
    · rw [hfrom, Bool.not_true, Bool.and_false]
    · rw [hrole]
      rfl
  have hlocal := Context.not_propagates_of_routed hfacing
  have hpermits : Permits (fun r => r.staysHome = true) call.context := by
    refine ⟨fun _ => Request.staysHome_of_home, fun hp => absurd hp hlocal,
      fun hc => ?_⟩
    rw [hfacing] at hc
    cases hc
  have hasks : Program.Asks (fun r => r.staysHome = true)
      (dispatch config i call) :=
    asks_dispatch hpermits config i fun command _ hsome _ =>
      asks_run_routed hfacing (fun _ => rfl) (fun _ _ => rfl) hsome
  exact hasks.related Cluster.KeepsToItself.refl Cluster.KeepsToItself.trans
    (fun r w hr => Cluster.keepsToItself_answer hr w) c

/-- A coordinator has DROP DATABASE from another one: it drops what it keeps of
the database itself. -/
def routedDropDatabase : Call :=
  ⟨.dropDatabase "db" false, "DROP DATABASE db",
    .routed .coordinator, true, false⟩

/-- The coordinator runs the handler of the statement and does nothing else. -/
theorem routed_keepsToItself_dropDatabase :
    (Cluster.fresh .standard "").KeepsToItself
        ((Cluster.fresh .standard "").perform
          (dispatch .standard .none routedDropDatabase)).2 ∧
      ((Cluster.fresh .standard "").perform
        (dispatch .standard .none routedDropDatabase)).2.journal
          = [.handler .dropDatabase] :=
  ⟨routed_keepsToItself .standard .none routedDropDatabase (.inl rfl) _, rfl⟩

end ClusterUtility
