/-
The nodes and the registry agree.

A transaction has its branches on the nodes and its entry in the registry,
and nothing ties the two but the order of the requests. They agree
nevertheless, between any two moves, as long as the registry does not refuse:
the branches that are held are those that the entry lists, and where nothing
waits none is held.

# Why the registry may not refuse

A prepare that fails leaves branches that do not roll back to the registry. A
registry that refuses them too strands them: nothing lists them, and no finish
reaches them. Soundness, which says that what is listed is held, does not need
this condition; that what is held is listed is the part that does, and where
the registry is up no move strands a branch.
-/
import ClusterUtility.Proofs.Transaction.Stranded

namespace ClusterUtility

namespace Holding

variable {h : Holding}

/-- Every branch that is held is listed. -/
def Listed (h : Holding) : Prop :=
  ∀ node ∈ h.branches, ∃ t, h.waiting = some t ∧ node ∈ t.participants

/-- Where all that is held is listed and nothing waits, nothing is held. -/
private theorem Listed.not_held (hl : h.Listed) (hw : h.waiting = none)
    (node : Node) : node ∉ h.branches := by
  intro hmem
  obtain ⟨t, ht, _⟩ := hl node hmem
  rw [hw] at ht
  cases ht

end Holding

-- ====================================================== runs

/-- A move does not bring the registry down. -/
def Move.KeepsRegistry (m : Move) : Prop :=
  ∀ faults, m = .setFaults faults → faults.registryDown = false

variable {c : Cluster} {m : Move}

/-- A move that does not bring the registry down leaves it up. -/
private theorem registryDown_step (hup : c.faults.registryDown = false)
    (hm : m.KeepsRegistry) : (c.step m).faults.registryDown = false := by
  cases m with
  | dispatch config i call =>
      show (c.perform _).2.faults.registryDown = false
      rw [(Cluster.onward_perform c _).faults]
      exact hup
  | setFaults faults => exact hm faults rfl
  | _ => exact hup

/-- In every state that is reached without a refusal of the registry, every
held branch is listed. -/
theorem listed_reached (topology : Topology) (timestamp : String)
    {moves : List Move} (hup : ∀ m ∈ moves, m.KeepsRegistry) (gid : Gid) :
    ((Cluster.reached topology timestamp moves).holding gid).Listed := by
  intro node hmem
  refine Classical.byContradiction fun hunlisted => ?_
  rcases stranded_since (sound_fresh topology timestamp gid)
      ⟨hmem, hunlisted⟩ with
    ⟨hfresh, _⟩ | ⟨before, m, later, rfl, hm, _⟩
  · exact absurd (Cluster.mem_branchNodes.mpr hfresh.1) List.not_mem_nil
  · -- the registry was up until then, so nothing was stranded
    have hbefore : ∀ m ∈ before, m.KeepsRegistry :=
      fun m hm => hup m (List.mem_append_left _ hm)
    have hdown :
        ((Cluster.fresh topology timestamp).after before).faults.registryDown
          = false :=
      Cluster.after_induction (I := fun c => c.faults.registryDown = false)
        (fun _ _ => registryDown_step) rfl
        (Cluster.always_of_forall (fun m hm _ => hbefore m hm) _)
    have hrefuses := hm.refuses
    rw [hdown] at hrefuses
    cases hrefuses

/-- Whatever is dispatched, and whatever fails but the registry: the nodes
that hold a branch of a transaction are the participants of its entry, and
where the registry has nothing waiting, no node holds one. -/
theorem branches_agree (topology : Topology) (timestamp : String)
    (moves : List Move) (hup : ∀ m ∈ moves, m.KeepsRegistry) (gid : Gid) :
    (∀ t, (Cluster.reached topology timestamp moves).lookup gid = some t →
      ∀ node,
        node ∈ (Cluster.reached topology timestamp moves).branchNodes gid
          ↔ node ∈ t.participants) ∧
    ((Cluster.reached topology timestamp moves).lookup gid = none →
      (Cluster.reached topology timestamp moves).branchNodes gid = []) := by
  have hs := sound_of_isReached ⟨topology, timestamp, moves, rfl⟩ gid
  have hl := listed_reached topology timestamp hup gid
  refine ⟨fun t hlookup node => ⟨fun hmem => ?_, fun hlisted => ?_⟩,
    fun hlookup => ?_⟩
  · obtain ⟨t', hw, hlisted⟩ := hl node (Cluster.mem_branchNodes.mp hmem)
    obtain rfl : t = t' := Option.some.inj (hlookup.symm.trans hw)
    exact hlisted
  · exact Cluster.mem_branchNodes.mpr (hs.held t hlookup node hlisted)
  · rw [List.eq_nil_iff_forall_not_mem]
    intro node hmem
    exact hl.not_held hlookup node (Cluster.mem_branchNodes.mp hmem)

/-- A prepare that fails on one node and cannot be undone on another. -/
def stuckPrepare : List Move :=
  [.client (.begin []),
   .touch ["dn1", "dn2", "dn3"],
   .setFaults { Faults.none with
     prepare := (∅ : NodeSet).insert "dn3",
     rollback := (∅ : NodeSet).insert "dn1" },
   .client (.prepare "g")]

/-- The branch that did not roll back is the one that the entry lists. -/
theorem branches_agree_stuckPrepare :
    (∀ m ∈ stuckPrepare, m.KeepsRegistry) ∧
      (Cluster.reached .standard "" stuckPrepare).lookup "g"
        = some (.rollbackOnly "g" ["dn1"]) ∧
      ∀ node,
        node ∈ (Cluster.reached .standard "" stuckPrepare).branchNodes "g"
          ↔ node ∈ ["dn1"] := by
  have hup : ∀ m ∈ stuckPrepare, m.KeepsRegistry := by
    intro m hm faults heq
    subst heq
    simp only [stuckPrepare, Move.client, Move.statement, List.mem_cons,
      List.not_mem_nil, reduceCtorEq, Move.setFaults.injEq, or_false,
      false_or] at hm
    rw [hm]
    rfl
  have hlookup : (Cluster.reached .standard "" stuckPrepare).lookup "g"
      = some (.rollbackOnly "g" ["dn1"]) := rfl
  exact ⟨hup, hlookup,
    (branches_agree .standard "" stuckPrepare hup "g").1 _ hlookup⟩

end ClusterUtility
