/-
PREPARE TRANSACTION where there is nothing to prepare.

Without an open block there is nothing to prepare, and in a failed one there
is nothing left of it. Whether a transaction is prepared in its block is
decided by two primitives, which differ where no block is open: preparing the
block answers that nothing was prepared, but ending it answers that nothing
went wrong.

A node that has the command from a coordinator prepares its block, and a
coordinator whose block is failed does so too. Then nothing is prepared
anywhere, and the client is told of a rollback (`Move.ComesToNothing`). On a
coordinator without an open block the block is ended. So the command goes on
as if there were a transaction, and registers one that nobody began.
-/
import ClusterUtility.Proofs.Cluster.Coherent
import ClusterUtility.Proofs.Transaction.FailedBlock
import ClusterUtility.Proofs.Transaction.RolledBack

namespace ClusterUtility

namespace Cluster

variable {c d : Cluster} {gid : Gid}

-- ================================================= nothing is prepared

/-- Giving a block up prepares nothing. -/
private theorem preparesNothing_abortBlock (c : Cluster) :
    PreparesNothing c c.abortBlock := by
  unfold abortBlock
  split
  · exact ⟨rfl, rfl, [.localAbort], rfl, by simp⟩
  · exact .refl c

/-- Giving a block up writes no record. -/
private theorem localRecords_abortBlock (c : Cluster) :
    c.abortBlock.localRecords = c.localRecords := by
  unfold abortBlock
  split <;> rfl

/-- Preparing a block that is failed, or that is not there, rolls it back. -/
theorem prepareBlock_of_idle
    (hidle : c.session.inBlock = true → c.session.failed = true) (gid : Gid) :
    c.prepareBlock gid = (.ok false, c.abortBlock) := by
  unfold abortBlock
  cases hin : c.session.inBlock with
  | true =>
      rw [if_pos rfl]
      exact prepareBlock_of_failed hin (hidle hin) gid
  | false => exact (Reacts.preparesNothing hin).eq

/-- A node that has nothing to prepare rolls its block back, and says so. -/
private theorem perform_prepareFromCoordinator_of_idle
    (hidle : c.session.inBlock = true → c.session.failed = true) (gid : Gid) :
    c.perform (prepareFromCoordinator gid)
      = (.ok rolledBackTag, c.abortBlock) := by
  unfold prepareFromCoordinator
  rw [Program.bind_eq, perform_request_bind]
  simp only [answer, prepareBlock_of_idle hidle]
  rfl

-- ==================================================== no block is open

/-- Ending a block that is not there goes well. -/
theorem endLocal_of_unopened (hout : c.session.inBlock = false)
    (huntouched : c.session.touchedCatalog = false) (gid : Gid) :
    c.endLocal gid = (.ok true, c) := by
  unfold endLocal endBlock
  rw [huntouched, hout]
  rfl

/-- Where no block is open, PREPARE TRANSACTION from a client fails because a
node does not prepare or the registry is down, or it registers a
transaction. -/
theorem PrepareEnds.of_unopened {result : Except Failure TagOverride}
    (hends : PrepareEnds gid c result d) (hout : c.session.inBlock = false)
    (huntouched : c.session.touchedCatalog = false)
    (haccepts : (c.holding gid).accepts = true) :
    ((∃ failure, result = .error failure) ∧
        ¬ (c.faults.registryDown = false ∧
          ∀ node ∈ c.session.written.nodes, c.prepareFault? node = none)) ∨
      (result = .ok none ∧
        d.lookup gid
          = some (.undecided gid c.session.written.nodes false)) := by
  have hlocal : (c.holdAll gid c.session.written.nodes).endLocal gid
      = (.ok true, c.holdAll gid c.session.written.nodes) := by
    refine endLocal_of_unopened ?_ ?_ gid
    · rwa [session_holdAll]
    · rwa [session_holdAll]
  cases hends with
  | undone hstop =>
      cases hstop with
      | refused failure hsplit hfault =>
          refine .inl ⟨⟨_, rfl⟩, fun ⟨_, hall⟩ => hfault (hall _ ?_)⟩
          rw [hsplit]
          exact List.mem_append_right _ (List.mem_cons_self ..)
      | unended hall hend hreply =>
          rw [hlocal] at hend
          exact absurd (Prod.mk.inj hend).1.symm hreply
      | unregistered hall hend hfault =>
          refine .inl ⟨⟨_, rfl⟩, fun ⟨hup, _⟩ => ?_⟩
          rw [registryFault?_of_endLocal hend hup haccepts] at hfault
          cases hfault
  | @registered w hend hfault =>
      refine .inr ⟨rfl, ?_⟩
      rw [lookup_eq, holding_registered hend, huntouched]
      rfl

end Cluster

-- ====================================================== the move

variable {c : Cluster} {m : Move} {gid : Gid} {fromClient : Bool}

/-- The move ends well and its client is told of a rollback, while nothing is
prepared: not in the registry, not elsewhere, and not here. -/
structure Move.ComesToNothing (gid : Gid) (c : Cluster) (m : Move) : Prop where
  outcome : c.outcome m = .ok ()
  told : m.hasTag = true → ∀ tag, m.tagAfter tag c = ⟨"ROLLBACK", true⟩
  unknown : (c.step m).lookup gid = none
  nothing : c.PreparesNothing (c.step m)
  records : (c.step m).localRecords = c.localRecords

/-- A command that says that it rolled back, and that prepared nothing, comes
to nothing. -/
theorem comesToNothing_of_perform {d : Cluster}
    (hm : m.Issues (.prepare gid) fromClient) (hpass : m.Passes c)
    (hlookup : c.lookup gid = none)
    (hperform : c.perform
        (if fromClient then prepareFromClient gid
          else prepareFromCoordinator gid)
      = (.ok rolledBackTag, d))
    (hnothing : c.PreparesNothing d)
    (hrecords : d.localRecords = c.localRecords) : m.ComesToNothing gid c := by
  have henact := enact_preparation hm hpass
  dsimp only at henact
  rw [hperform] at henact
  have hstep : c.step m = d := congrArg Prod.snd henact
  refine ⟨congrArg Prod.fst henact, fun htag tag => ?_, ?_, ?_, ?_⟩
  · rw [tagAfter_prepare hm hpass htag, hperform]
    rfl
  · rw [hstep, Cluster.lookup_congr hnothing.registry gid]
    exact hlookup
  · rw [hstep]
    exact hnothing
  · rw [hstep]
    exact hrecords

/-- On a node that has it from a coordinator, the command comes to nothing. -/
private theorem comesToNothing_of_routed
    (hidle : c.session.inBlock = true → c.session.failed = true)
    (hlookup : c.lookup gid = none) (hm : m.Issues (.prepare gid) false)
    (hpass : m.Passes c) : m.ComesToNothing gid c :=
  comesToNothing_of_perform hm hpass hlookup
    (Cluster.perform_prepareFromCoordinator_of_idle hidle gid)
    (Cluster.preparesNothing_abortBlock c) (Cluster.localRecords_abortBlock c)

/-- In a failed block, the command of a client comes to nothing. -/
private theorem comesToNothing_of_failed (hin : c.session.inBlock = true)
    (hfailed : c.session.failed = true) (hlookup : c.lookup gid = none)
    (hm : m.Issues (.prepare gid) true) (hpass : m.Passes c) :
    m.ComesToNothing gid c := by
  have hboth := Bool.and_eq_true_iff.mpr ⟨hin, hfailed⟩
  have hperform := Cluster.perform_prepareFromClient_of_failed hlookup hboth
  have hnothing : c.PreparesNothing c.abortBranches.abortTransaction :=
    ⟨rfl, rfl, [.branchesAborted, .localAbort], List.append_assoc .., by simp⟩
  exact comesToNothing_of_perform hm hpass hlookup hperform hnothing rfl

/-- Where no block is open, a client's PREPARE TRANSACTION fails for a fault,
or it registers a transaction without a word. -/
theorem registers_of_unopened (hc : c.IsReached)
    (hout : c.session.inBlock = false) (hlookup : c.lookup gid = none)
    (hm : m.Issues (.prepare gid) true) (hpass : m.Passes c) :
    ((∃ failure, c.outcome m = .error failure) ∧
        ¬ (c.faults.registryDown = false ∧
          ∀ node ∈ c.session.written.nodes, c.prepareFault? node = none)) ∨
      (c.outcome m = .ok () ∧ (m.hasTag = true → ∀ tag, m.tagAfter tag c = ∅) ∧
        (c.step m).lookup gid
          = some (.undecided gid c.session.written.nodes false)) := by
  have huntouched : c.session.touchedCatalog = false := by
    refine Bool.eq_false_iff.mpr fun htouched => ?_
    have hin := (Cluster.coherent_of_isReached hc).touched htouched
    rw [hout] at hin
    cases hin
  have haccepts : (c.holding gid).accepts = true :=
    (sound_of_isReached hc gid).free hlookup
  have hgood : (c.session.inBlock && c.session.failed) = false :=
    Bool.and_eq_false_iff.mpr (.inl hout)
  obtain ⟨result, d, hperform, hends⟩ := Cluster.prepareEnds hlookup hgood
  have henact := enact_prepare hm hpass
  rw [hperform] at henact
  have houtcome : c.outcome m = result.map fun _ => () :=
    congrArg Prod.fst henact
  have hstep : c.step m = d := congrArg Prod.snd henact
  rcases hends.of_unopened hout huntouched haccepts with
    ⟨⟨failure, rfl⟩, hfaulty⟩ | ⟨rfl, hregistered⟩
  · exact .inl ⟨⟨failure, houtcome⟩, hfaulty⟩
  · refine .inr ⟨houtcome, fun htag tag => ?_, ?_⟩
    · rw [tagAfter_prepare hm hpass htag, if_pos rfl, hperform]
      rfl
    · rw [hstep]
      exact hregistered

/-- Where no block is open or the open one is failed, a PREPARE TRANSACTION of
an unknown identifier comes to nothing, unless a client gives it to a
coordinator and no block is open. Then nothing holds it up but a node or a
registry that fails, and a transaction is registered without a word. -/
theorem nothing_to_prepare (hc : c.IsReached)
    (hidle : c.session.inBlock = true → c.session.failed = true)
    (hlookup : c.lookup gid = none)
    (hm : m.Issues (.prepare gid) fromClient) (hpass : m.Passes c) :
    (m.ComesToNothing gid c ↔ (fromClient = true → c.session.inBlock = true)) ∧
      (fromClient = true → c.session.inBlock = false →
        c.faults.registryDown = false →
        (∀ node ∈ c.session.written.nodes, c.prepareFault? node = none) →
          c.outcome m = .ok () ∧
            (m.hasTag = true → ∀ tag, m.tagAfter tag c = ∅) ∧
            (c.step m).lookup gid
              = some (.undecided gid c.session.written.nodes false)) := by
  cases fromClient with
  | false =>
      have hnothing := comesToNothing_of_routed hidle hlookup hm hpass
      simp [hnothing]
  | true =>
      cases hin : c.session.inBlock with
      | true =>
          have hnothing := comesToNothing_of_failed hin (hidle hin) hlookup hm
            hpass
          exact ⟨⟨fun _ _ => rfl, fun _ => hnothing⟩, fun _ => nofun⟩
      | false =>
          have hregisters := registers_of_unopened hc hin hlookup hm hpass
          have hsomething : ¬ m.ComesToNothing gid c := by
            intro hnothing
            rcases hregisters with ⟨⟨failure, hfails⟩, _⟩ | ⟨_, _, hregistered⟩
            · have hok := hnothing.outcome
              rw [hfails] at hok
              cases hok
            · have hnone := hnothing.unknown
              rw [hregistered] at hnone
              cases hnone
          refine ⟨⟨fun h => absurd h hsomething,
            fun h => absurd (h rfl) Bool.false_ne_true⟩, ?_⟩
          intro _ _ hup hall
          exact hregisters.resolve_left fun hfails => hfails.2 ⟨hup, hall⟩

/-- A cluster in which nothing happened yet. -/
def untouchedCluster : Cluster := .reached .standard "" []

/-- A node has PREPARE TRANSACTION from a coordinator. -/
def routedPrepare : Move :=
  .dispatch .standard .none
    ⟨.transaction (.prepare "g"), "PREPARE TRANSACTION",
      .routed .datanode, true, false⟩

/-- In a session without a block, a coordinator finds nothing to prepare, and a
client has a transaction registered. -/
theorem nothing_to_prepare_untouchedCluster :
    routedPrepare.ComesToNothing "g" untouchedCluster ∧
      ¬ (Move.client (.prepare "g")).ComesToNothing "g" untouchedCluster ∧
      untouchedCluster.outcome (.client (.prepare "g")) = .ok () ∧
      (untouchedCluster.step (.client (.prepare "g"))).lookup "g"
        = some (.undecided "g" [] false) := by
  have hc : untouchedCluster.IsReached := ⟨_, _, _, rfl⟩
  have hissues : routedPrepare.Issues (.prepare "g") false := ⟨rfl, rfl⟩
  have hrouted := nothing_to_prepare hc nofun rfl hissues ⟨rfl, by decide, rfl⟩
  have hgives : (Move.client (.prepare "g")).Issues (.prepare "g") true :=
    ⟨rfl, rfl⟩
  have hclient := nothing_to_prepare hc nofun rfl hgives ⟨rfl, by decide, rfl⟩
  have hnodes : ∀ node ∈ untouchedCluster.session.written.nodes,
      untouchedCluster.prepareFault? node = none :=
    fun _ hmem => absurd hmem List.not_mem_nil
  obtain ⟨hok, _, hregistered⟩ := hclient.2 rfl rfl rfl hnodes
  have hnot : ¬ (Move.client (.prepare "g")).ComesToNothing "g"
      untouchedCluster :=
    fun h => absurd (hclient.1.mp h rfl) Bool.false_ne_true
  exact ⟨hrouted.1.mpr nofun, hnot, hok, hregistered⟩

end ClusterUtility
