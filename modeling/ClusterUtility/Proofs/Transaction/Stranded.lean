/-
Branches that nothing lists.

A finish reaches the branches that the registry lists under an identifier, so
a branch that is held and not listed holds its locks until someone looks on
the node itself. No single failure does that. It takes two at once, in one
PREPARE TRANSACTION from a client: a node that prepares its branch and then
does not roll it back, and a registry that takes in neither the transaction
nor the branch that stays (`Move.Strands`).

Nothing else strands a branch. The argument looks back: a branch that is
stranded after a move was so before it, or that move is one of these
(`stranded_before`). So for each stranded branch there is a last such move,
and it is stranded since (`stranded_since`).
-/
import ClusterUtility.Proofs.Transaction.Sound

namespace ClusterUtility

namespace Holding

variable {h h' : Holding} {gid : Gid} {commit : Bool} {node : Node}

/-- A finish reaches the branch of a node: the registry waits with it. -/
def Lists (h : Holding) (node : Node) : Prop :=
  ∃ t, h.waiting = some t ∧ node ∈ t.participants

/-- A node holds a branch that no finish reaches. -/
def Stranded (node : Node) (h : Holding) : Prop :=
  node ∈ h.branches ∧ ¬ h.Lists node

namespace Stranded

/-- Where nothing waits, every branch that is held is stranded. -/
private theorem of_waiting_none (hw : h.waiting = none)
    (hmem : node ∈ h.branches) : h.Stranded node := by
  refine ⟨hmem, fun ⟨t, ht, _⟩ => ?_⟩
  rw [hw] at ht
  cases ht

/-- The record and the finishes do not matter. -/
private theorem congr (hs : h'.Stranded node)
    (hbranches : h'.branches = h.branches) (hentry : h'.entry = h.entry) :
    h.Stranded node := by
  obtain ⟨hmem, hunlisted⟩ := hs
  rw [hbranches] at hmem
  refine ⟨hmem, fun ⟨t, hw, hlisted⟩ => hunlisted ⟨t, ?_, hlisted⟩⟩
  rw [waiting_congr hentry]
  exact hw

/-- A finish strands nothing: what it leaves held, it leaves listed. -/
theorem finished {blocked : Node → Bool} {result : Except Failure Unit}
    (heffect : Finished gid commit blocked h result h') :
    h'.Stranded node → h.Stranded node := by
  refine heffect.preserves (J := fun h' => h'.Stranded node → h.Stranded node)
    id (fun {t done rest} hw _ _ hs => ?_) fun {t} hw _ hs => ?_
  · obtain ⟨hmem, hunlisted⟩ := hs
    rw [finishAll_eq, releaseAll_eq] at hmem
    obtain ⟨hheld, hleft⟩ := NodeSet.mem_eraseAll.mp hmem
    refine ⟨hheld, fun ⟨t', hw', hlisted⟩ => hunlisted ?_⟩
    obtain rfl : t = t' := Option.some.inj (hw.symm.trans hw')
    exact ⟨_, waiting_finishAll hw gid commit done,
      List.mem_filter.mpr ⟨hlisted, decide_eq_true hleft⟩⟩
  · -- all that was listed is finished, so what is still held was not listed
    have hmem := hs.1
    rw [complete_branches] at hmem
    obtain ⟨hheld, hleft⟩ := NodeSet.mem_eraseAll.mp hmem
    refine ⟨hheld, fun ⟨t', hw', hlisted⟩ => hleft ?_⟩
    obtain rfl : t = t' := Option.some.inj (hw.symm.trans hw')
    exact hlisted

end Stranded

end Holding

-- ====================================================== the one way

/-- A client's PREPARE TRANSACTION meets a node that the transaction wrote to
and that cannot roll back a branch, while the registry is down. -/
structure Move.Strands (gid : Gid) (node : Node) (c : Cluster) (m : Move) :
    Prop where
  prepares : m.Prepares gid c
  written : node ∈ c.session.written
  stays : c.blocked false node = true
  refuses : c.faults.registryDown = true

variable {c d : Cluster} {m : Move} {gid : Gid} {node : Node}

/-- What an interrupted command strands is a branch that stays, on a node that
the transaction wrote to. -/
theorem Cluster.Interrupted.stranded {result : Except Failure TagOverride}
    {nodes : List Node} (hstop : Interrupted gid c result nodes d)
    (hw : (c.holding gid).waiting = none) (hs : (c.holding gid).Sound)
    (hstranded : ((d.undone gid nodes).holding gid).Stranded node) :
    (c.holding gid).Stranded node ∨
      node ∈ c.session.written ∧ c.blocked false node = true ∧
      c.faults.registryDown = true := by
  obtain ⟨hsublist, _, h, hheld, hrecord⟩ := hstop.holding
  have hbranches : h.branches = (c.holding gid).branches := by
    rcases hrecord with rfl | ⟨rfl, _, _⟩ <;> rfl
  have hentry : h.entry = (c.holding gid).entry := by
    rcases hrecord with rfl | ⟨rfl, _, _⟩ <;> rfl
  rw [hstop.holding_undone hheld] at hstranded
  obtain ⟨hmem, hunlisted⟩ := hstranded
  obtain ⟨hprepared, hstays⟩ := Holding.mem_undo.mp hmem
  rcases Holding.mem_holdAll.mp hprepared with hnode | hbefore
  · have hstuck : node ∈ nodes.filter (c.blocked false) :=
      List.mem_filter.mpr ⟨hnode, hstays hnode⟩
    rcases Holding.undone_cases h gid (c.blocked false)
        c.faults.registryDown nodes with ⟨_, hnone | hdown | hfull⟩ | hleft
    · rw [hnone] at hstuck
      cases hstuck
    · exact .inr ⟨hsublist.subset hnode, hstays hnode, hdown⟩
    · rw [Holding.accepts_congr hentry, hs.free hw] at hfull
      cases hfull
    · exact absurd ⟨_, hleft, hstuck⟩ hunlisted
  · rw [hbranches] at hbefore
    exact .inl (.of_waiting_none hw hbefore)

/-- What a command strands is a branch that stays, on a node that the
transaction wrote to. -/
private theorem Cluster.PrepareEnds.stranded
    {result : Except Failure TagOverride} (hends : PrepareEnds gid c result d)
    (hw : (c.holding gid).waiting = none) (hs : (c.holding gid).Sound)
    (hstranded : (d.holding gid).Stranded node) :
    (c.holding gid).Stranded node ∨
      node ∈ c.session.written ∧ c.blocked false node = true ∧
      c.faults.registryDown = true := by
  cases hends with
  | undone hstop => exact hstop.stranded hw hs hstranded
  | @registered d hend hfault =>
      rw [holding_registered hend] at hstranded
      obtain ⟨hmem, hunlisted⟩ := hstranded
      have hprepared : node
          ∈ ((c.holding gid).holdAll c.session.written.nodes).branches := by
        revert hmem
        cases c.session.touchedCatalog <;> exact id
      rcases Holding.mem_holdAll.mp hprepared with hnode | hbefore
      · exact absurd ⟨_, rfl, hnode⟩ hunlisted
      · exact .inl (.of_waiting_none hw hbefore)

/-- A branch that is stranded after a move was stranded before it, or the move
stranded it. -/
theorem stranded_before (hs : (c.holding gid).Sound)
    (hstranded : ((c.step m).holding gid).Stranded node) :
    (c.holding gid).Stranded node ∨ m.Strands gid node c := by
  by_cases hm : m.Prepares gid c
  · have hw : (c.holding gid).waiting = none := hm.2.2
    cases hfailed : c.session.inBlock && c.session.failed with
    | true =>
        have hkept : (c.step m).holding gid = c.holding gid := by
          unfold Cluster.step
          rw [enact_prepare hm.1 hm.2.1]
          exact Cluster.holding_prepareFromClient_of_failed hm.2.2 hfailed
        rw [hkept] at hstranded
        exact .inl hstranded
    | false =>
        obtain ⟨result, _, hends⟩ := prepareEnds_step hm hfailed
        refine (hends.stranded hw hs hstranded).imp_right ?_
        rintro ⟨hwritten, hstays, hdown⟩
        exact ⟨hm, hwritten, hstays, hdown⟩
  · have hmoved := moved_step c m gid
    generalize (c.step m).holding gid = h at hmoved hstranded
    left
    cases hmoved with
    | kept => exact hstranded
    | prepared hprepares heffect => exact absurd hprepares hm
    | recorded hissues => exact hstranded.congr rfl rfl
    | finished hissues heffect =>
        exact Holding.Stranded.finished heffect hstranded
    | unrecorded hfinishes => exact hstranded.congr rfl rfl

-- ====================================================== runs

/-- A branch that is stranded after a list of moves was so all along, or one
of the moves stranded it, and it was so since. -/
theorem stranded_since (hs : (c.holding gid).Sound) {moves : List Move}
    (hstranded : ((c.after moves).holding gid).Stranded node) :
    ((c.holding gid).Stranded node ∧
        c.Always (fun d _ => (d.holding gid).Stranded node) moves) ∨
      ∃ before m later, moves = before ++ m :: later ∧
        m.Strands gid node (c.after before) ∧
        (c.after (before ++ [m])).Always
          (fun d _ => (d.holding gid).Stranded node) later := by
  induction moves generalizing c with
  | nil => exact .inl ⟨hstranded, trivial⟩
  | cons m rest ih =>
      rcases ih (hs.moved (moved_step c m gid)) hstranded with
        ⟨hafter, hrest⟩ | ⟨before, m', later, rfl, hm, hsince⟩
      · rcases stranded_before hs hafter with hnow | hm
        · exact .inl ⟨hnow, hnow, hrest⟩
        · exact .inr ⟨[], m, rest, rfl, hm, hrest⟩
      · exact .inr ⟨m :: before, m', later, rfl, hm, hsince⟩

/-- In every run, a node that holds a branch of a transaction is a participant
of an entry of the registry that waits to be finished, but for branches that a
client's PREPARE TRANSACTION stranded: these are stranded since. -/
theorem held_branches_listed (topology : Topology) (timestamp : String)
    (moves : List Move) (gid : Gid) (node : Node)
    (hheld : node
      ∈ (Cluster.reached topology timestamp moves).branchNodes gid) :
    (∃ t,
      (Cluster.reached topology timestamp moves).registry.get? gid
        = some ⟨t, .prepared⟩ ∧
      node ∈ t.participants) ∨
      ∃ before m later, moves = before ++ m :: later ∧
        m.Strands gid node (.reached topology timestamp before) ∧
        (Cluster.reached topology timestamp (before ++ [m])).Always
          (fun d _ => (d.holding gid).Stranded node) later := by
  by_cases hlisted :
      ((Cluster.reached topology timestamp moves).holding gid).Lists node
  · obtain ⟨t, hw, hmem⟩ := hlisted
    exact .inl ⟨t, Holding.waiting_eq_some.mp hw, hmem⟩
  · have hstranded :
        ((Cluster.reached topology timestamp moves).holding gid).Stranded
          node :=
      ⟨Cluster.mem_branchNodes.mp hheld, hlisted⟩
    rcases stranded_since (sound_fresh topology timestamp gid) hstranded with
      ⟨hfresh, _⟩ | hsince
    · exact absurd (Cluster.mem_branchNodes.mpr hfresh.1) List.not_mem_nil
    · exact .inr hsince

/-- A transaction that wrote to two nodes. One of them does not prepare its
branch, the other one does not roll back, and the registry is down. -/
def strandingPrepare : List Move :=
  [.client (.begin []),
   .touch ["dn1", "dn2"],
   .setFaults { Faults.none with
     prepare := (∅ : NodeSet).insert "dn2"
     rollback := (∅ : NodeSet).insert "dn1"
     registryDown := true },
   .client (.prepare "g")]

/-- The branch that did not roll back is stranded by the prepare. -/
theorem held_branches_listed_strandingPrepare :
    "dn1" ∈ (Cluster.reached .standard "" strandingPrepare).branchNodes "g" ∧
      ∃ before m later, strandingPrepare = before ++ m :: later ∧
        m.Strands "g" "dn1" (.reached .standard "" before) := by
  have hheld : "dn1"
      ∈ (Cluster.reached .standard "" strandingPrepare).branchNodes "g" :=
    List.mem_singleton_self "dn1"
  refine ⟨hheld, ?_⟩
  rcases held_branches_listed .standard "" strandingPrepare "g" "dn1"
      hheld with ⟨t, hentry, _⟩ | ⟨before, m, later, hsplit, hm, _⟩
  · have hnone : (Cluster.reached .standard "" strandingPrepare).registry.get?
        "g" = none := rfl
    rw [hnone] at hentry
    cases hentry
  · exact ⟨before, m, later, hsplit, hm⟩

/-- Not every branch that is held is listed. -/
theorem not_all_branches_listed :
    ¬ ∀ (topology : Topology) (timestamp : String) (moves : List Move)
      (gid : Gid),
      ∀ node ∈ (Cluster.reached topology timestamp moves).branchNodes gid,
        ∃ t,
          (Cluster.reached topology timestamp moves).registry.get? gid
            = some ⟨t, .prepared⟩ ∧
          node ∈ t.participants := by
  intro hall
  obtain ⟨t, hentry, _⟩ :=
    hall .standard "" strandingPrepare "g" "dn1"
      (List.mem_singleton_self "dn1")
  have hnone : (Cluster.reached .standard "" strandingPrepare).registry.get?
      "g" = none := rfl
  rw [hnone] at hentry
  cases hentry

end ClusterUtility
