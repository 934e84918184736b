/-
An unsuccessful PREPARE TRANSACTION is a ROLLBACK.

In an open block the command can be unsuccessful in several ways: the block is
failed, a node does not prepare its branch, a record of that name is in the
way. The block is rolled back in each, but never by the same steps: a failed
one is ended as COMMIT would end it, and in the other cases it is left open
until the undoing aborts it.

What the local node keeps of transactions is its session and its records
(`localSide`). Preparing branches and rolling them back leave it alone, so
whichever way is taken, it is at last what ROLLBACK would have made of it
(`unsuccessful_prepare_rolls_back`). The registry has to be up for that: one
that is down refuses when the block is already committed, or its record
written.
-/
import ClusterUtility.Proofs.Dispatch.Told
import ClusterUtility.Proofs.Transaction.FailedPrepare

namespace ClusterUtility

namespace Cluster

variable {c d : Cluster} {gid : Gid} {nodes : List Node}

-- ====================================================== the local side

/-- What the local node keeps of transactions: its session, and the records of
those that were prepared here. -/
def localSide (c : Cluster) : LocalSession × List Gid :=
  (c.session, c.localRecords)

/-- Branches are held on the nodes. -/
private theorem localSide_holdAll (c : Cluster) (gid : Gid)
    (nodes : List Node) : (c.holdAll gid nodes).localSide = c.localSide :=
  keeps_holdAll (·.localSide) (fun _ _ => rfl) c nodes

/-- Undoing rolls an open block back. -/
theorem localSide_undone (hin : c.session.inBlock = true) (gid : Gid)
    (nodes : List Node) :
    (c.undone gid nodes).localSide = c.abortTransaction.localSide := by
  have hregister (c : Cluster) (t : PreparedTransaction) :
      (c.register t).2.localSide = c.localSide := by
    rw [register_eq]
    cases c.registryFault? t.gid <;> rfl
  obtain ⟨left, hleft, hundone⟩ :=
    undone_eq (·.localSide) (fun _ _ => rfl) hregister c nodes
  obtain ⟨hsession, hrecords⟩ := Prod.mk.inj hleft
  have hopen : left.abortBranches.session.inBlock = true := by
    show left.session.inBlock = true
    rw [hsession, hin]
  rw [hundone, abortBlock, if_pos hopen]
  show (left.session.ended .aborted, left.localRecords)
    = (c.session.ended .aborted, c.localRecords)
  rw [hsession, hrecords]

-- ====================================================== the command

/-- A registry that is up, and that has no reason of its own to refuse, takes
the transaction in. -/
theorem registryFault?_of_endLocal
    (hend : (c.holdAll gid nodes).endLocal gid = (.ok true, d))
    (hup : c.faults.registryDown = false)
    (haccepts : (c.holding gid).accepts = true) :
    d.registryFault? gid = none := by
  have hd : ((c.holdAll gid nodes).endLocal gid).2 = d :=
    congrArg Prod.snd hend
  refine registryFault?_eq_none.mpr ⟨?_, ?_⟩
  · rw [← hd, faults_endLocal, faults_holdAll]
    exact hup
  · rw [(endLocal_eq_ok_true hend).1, Holding.accepts_recordIf,
      holding_holdAll, Holding.accepts_holdAll]
    exact haccepts

/-- When the undoing begins, nothing happened here yet. -/
theorem Interrupted.localSide {result : Except Failure TagOverride}
    (hstop : Interrupted gid c result nodes d) (hin : c.session.inBlock = true)
    (hgood : c.session.failed = false) (hup : c.faults.registryDown = false)
    (haccepts : (c.holding gid).accepts = true) :
    d.localSide = c.localSide := by
  cases hstop with
  | refused failure hsplit hfault => exact localSide_holdAll ..
  | @unended reply d hall hend hreply =>
      cases localEnd_of_holdAll hin hgood hend with
      | occupied htouched => exact localSide_holdAll ..
      | recorded htouched => exact absurd rfl hreply
      | committed htouched => exact absurd rfl hreply
  | @unregistered failure d hall hend hfault =>
      rw [registryFault?_of_endLocal hend hup haccepts] at hfault
      cases hfault

/-- Unless a client's PREPARE TRANSACTION ends well and has nothing more to
say, it rolled the open block back. -/
theorem localSide_prepareFromClient (hlookup : c.lookup gid = none)
    (hin : c.session.inBlock = true) (hup : c.faults.registryDown = false)
    (haccepts : (c.holding gid).accepts = true)
    (hbad : (c.perform (prepareFromClient gid)).1 ≠ .ok none) :
    (c.perform (prepareFromClient gid)).2.localSide
      = c.abortTransaction.localSide := by
  cases hfailed : c.session.failed with
  | true =>
      have hboth := Bool.and_eq_true_iff.mpr ⟨hin, hfailed⟩
      rw [perform_prepareFromClient_of_failed hlookup hboth]
      rfl
  | false =>
      have hgood : (c.session.inBlock && c.session.failed) = false :=
        Bool.and_eq_false_iff.mpr (.inr hfailed)
      obtain ⟨result, w, hperform, hends⟩ := prepareEnds hlookup hgood
      rw [hperform] at hbad ⊢
      cases hends with
      | registered hend hfault => exact absurd rfl hbad
      | @undone _ nodes d hstop =>
          have hside := hstop.localSide hin hfailed hup haccepts
          obtain ⟨hsession, hrecords⟩ := Prod.mk.inj hside
          have hopen : d.session.inBlock = true := by
            rw [hsession]
            exact hin
          rw [localSide_undone hopen]
          show (d.session.ended .aborted, d.localRecords)
            = (c.session.ended .aborted, c.localRecords)
          rw [hsession, hrecords]

end Cluster

-- ====================================================== the moves

variable {c : Cluster} {m r : Move} {gid : Gid} {fromClient : Bool}

/-- The client of the move waits for a completion tag. -/
def Move.hasTag : Move → Bool
  | .dispatch _ _ call => call.hasTag
  | _ => false

/-- The completion tag that the move leaves its client with, who found the
given one on the desk. -/
def Move.tagAfter (tag : CompletionTag) (c : Cluster) : Move → CompletionTag
  | .dispatch config i call => call.tagAfter config i tag c
  | _ => tag

/-- The move fails, or its client is told of a rollback. -/
def Move.Unsuccessful (c : Cluster) (m : Move) : Prop :=
  (∃ failure, c.outcome m = .error failure) ∨
    (m.hasTag = true ∧ ∃ tag, m.tagAfter tag c = ⟨"ROLLBACK", true⟩)

/-- The client who waits for the tag of a PREPARE TRANSACTION is left with what
comes of the end of the command. -/
theorem tagAfter_prepare (hm : m.Issues (.prepare gid) fromClient)
    (hpass : m.Passes c) (htag : m.hasTag = true) (tag : CompletionTag) :
    m.tagAfter tag c
      = .ofEnd (c.perform
          (if fromClient then prepareFromClient gid
           else prepareFromCoordinator gid)).1 := by
  cases m with
  | dispatch config i call =>
      obtain ⟨hs, rfl⟩ := hm
      exact tagAfter_command hs hpass htag tag
  | _ => exact False.elim hm

/-- A ROLLBACK that is let through aborts the block. -/
theorem step_rollback (hr : r.Issues .rollback fromClient)
    (hpass : r.Passes c) : c.step r = c.abortBlock := by
  cases r with
  | dispatch config i call =>
      exact congrArg Prod.snd (perform_dispatch_command hr.1 hpass)
  | _ => exact False.elim hr

/-- An unsuccessful PREPARE TRANSACTION does not end well without a word. -/
theorem not_ok_none_of_unsuccessful (hm : m.Prepares gid c)
    (hbad : m.Unsuccessful c) :
    (c.perform (prepareFromClient gid)).1 ≠ .ok none := by
  intro hok
  rcases hbad with ⟨failure, hfailed⟩ | ⟨htag, tag, htold⟩
  · have houtcome := congrArg Prod.fst (enact_prepare hm.1 hm.2.1)
    rw [hok] at houtcome
    have hfailed : (c.enact m).1 = .error failure := hfailed
    rw [houtcome] at hfailed
    cases hfailed
  · rw [tagAfter_prepare hm.1 hm.2.1 htag, if_pos rfl, hok] at htold
    exact absurd htold (by decide)

/-- A client's PREPARE TRANSACTION that is unsuccessful in an open block, while
the registry is up, leaves the session and the records of the local node as a
ROLLBACK in its place would have left them. -/
theorem unsuccessful_prepare_rolls_back (hc : c.IsReached)
    (hin : c.session.inBlock = true) (hup : c.faults.registryDown = false)
    (hm : m.Prepares gid c) (hbad : m.Unsuccessful c)
    (hr : r.Issues .rollback fromClient) (hpass : r.Passes c) :
    (c.step m).session = (c.step r).session ∧
      (c.step m).localRecords = (c.step r).localRecords := by
  -- nothing waits, so the registry has no reason of its own to refuse
  have haccepts : (c.holding gid).accepts = true :=
    (sound_of_isReached hc gid).free hm.2.2
  have hstep : c.step m = (c.perform (prepareFromClient gid)).2 :=
    congrArg Prod.snd (enact_prepare hm.1 hm.2.1)
  have hside : (c.step m).localSide = (c.step r).localSide := by
    rw [hstep, step_rollback hr hpass, Cluster.abortBlock, if_pos hin]
    exact Cluster.localSide_prepareFromClient hm.2.2 hin hup haccepts
      (not_ok_none_of_unsuccessful hm hbad)
  exact Prod.mk.inj hside

/-- A block that changed the catalog and wrote to two nodes, the second of
which does not prepare. -/
def refusedHalfway : Cluster :=
  .reached .standard ""
    [.client (.begin []), .statement (.createView ⟨none, "v"⟩ false),
      .touch ["dn1", "dn2"],
     .setFaults { Faults.none with prepare := NodeSet.insert ∅ "dn2" }]

/-- The first branch was prepared when the second node refused, and what the
block had written to the catalog is forgotten as by a ROLLBACK. -/
theorem unsuccessful_prepare_rolls_back_refusedHalfway :
    refusedHalfway.session.touchedCatalog = true ∧
      Cluster.Event.branchPrepared "dn1" "g"
        ∈ (refusedHalfway.step (.client (.prepare "g"))).journal ∧
      (refusedHalfway.step (.client (.prepare "g"))).session
        = (refusedHalfway.step (.client .rollback)).session ∧
      (refusedHalfway.step (.client (.prepare "g"))).localRecords
        = (refusedHalfway.step (.client .rollback)).localRecords := by
  have hc : refusedHalfway.IsReached := ⟨_, _, _, rfl⟩
  have hm : (Move.client (.prepare "g")).Prepares "g" refusedHalfway :=
    ⟨⟨rfl, rfl⟩, ⟨rfl, by decide, rfl⟩, rfl⟩
  have hbad : (Move.client (.prepare "g")).Unsuccessful refusedHalfway :=
    .inl ⟨_, rfl⟩
  have hpass : (Move.client .rollback).Passes refusedHalfway :=
    ⟨rfl, by decide, rfl⟩
  refine ⟨rfl, by decide, ?_⟩
  exact unsuccessful_prepare_rolls_back hc rfl rfl hm hbad ⟨rfl, rfl⟩ hpass

end ClusterUtility
