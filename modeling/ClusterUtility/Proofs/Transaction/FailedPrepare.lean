/-
What a PREPARE TRANSACTION that fails leaves of the local transaction.

The branches are on other nodes, so preparing them and rolling them back
leaves the local side as it is (`SameLocal`). It ends in one of three ways.

- It was still open when the command was undone: the undoing aborts it.
- A record was written for it, and the registry refused the transaction: the
  record is rolled back, and with it the session.
- There was no record to write, so the block was committed, and then the
  registry refused. There is no way back from a commit, and an undoing that
  finds no block open does nothing.

The last way is the one in which a command that reports a failure has
committed. `Cluster.CommitsFirst` says when it is taken, and it is taken in no
other case (`PrepareEnds.session_of_error`).
-/
import ClusterUtility.Proofs.Transaction.Sound

namespace ClusterUtility

namespace Cluster

open Event (localCommit)

variable {c d e : Cluster} {gid : Gid} {nodes : List Node}

-- ====================================================== the local side

/-- Nothing happened to the local transaction. -/
structure SameLocal (c d : Cluster) : Prop where
  session : d.session = c.session
  commits : d.times localCommit = c.times localCommit

/-- Preparing branches is done elsewhere. -/
theorem sameLocal_holdAll (c : Cluster) (gid : Gid) (nodes : List Node) :
    SameLocal c (c.holdAll gid nodes) where
  session := session_holdAll ..
  commits := keeps_holdAll (·.times localCommit)
    (fun _ _ => times_record ..) c nodes

-- ====================================================== undoing

/-- Of the local side, undoing touches the open block alone, which it
aborts. -/
theorem session_undone (c : Cluster) (gid : Gid) (nodes : List Node) :
    (c.undone gid nodes).session.status
        = (if c.session.inBlock then .aborted else c.session.status) ∧
      (c.undone gid nodes).times localCommit = c.times localCommit := by
  have hrelease (c : Cluster) (node : Node) :
      ((c.release node gid false).session,
          (c.release node gid false).times localCommit)
        = (c.session, c.times localCommit) :=
    congrArg (Prod.mk _) (times_record ..)
  have hregister (c : Cluster) (t : PreparedTransaction) :
      ((c.register t).2.session, (c.register t).2.times localCommit)
        = (c.session, c.times localCommit) := by
    rw [register_eq]
    cases c.registryFault? t.gid <;> rfl
  obtain ⟨left, hleft, hundone⟩ :=
    undone_eq (fun c => (c.session, c.times localCommit)) hrelease hregister c
      nodes
  obtain ⟨hsame, hcommits⟩ := Prod.mk.inj hleft
  have hbranches : left.abortBranches.times localCommit
      = c.times localCommit :=
    (times_record ..).trans hcommits
  have hsession : left.abortBranches.session
      = { c.session with written := ∅ } := by
    rw [← hsame]
    rfl
  rw [hundone]
  unfold abortBlock
  rw [hsession]
  cases hin : c.session.inBlock with
  | true => exact ⟨rfl, (times_record ..).trans hbranches⟩
  | false =>
      rw [if_neg (by simp), hsession]
      exact ⟨rfl, hbranches⟩

-- ====================================================== ending

/-- The cluster after its block was committed. -/
def commitBlock (c : Cluster) : Cluster :=
  (c.mapSession fun s => s.ended .committed).record .localCommit

/-- A commit leaves what is held alone. -/
private theorem holding_commitBlock (c : Cluster) (gid : Gid) :
    c.commitBlock.holding gid = c.holding gid :=
  holding_record (c := c.mapSession _) rfl

/-- How the local side of a block ends that is open and not failed. -/
inductive LocalEnd (gid : Gid) (c : Cluster) :
    Except Failure Bool → Cluster → Prop
  /-- A record of that name is in the way, and the block stays open. -/
  | occupied (htouched : c.session.touchedCatalog = true) :
      LocalEnd gid c (.error (.transactionInUse gid)) c
  /-- A block that changed the catalog is recorded. -/
  | recorded (htouched : c.session.touchedCatalog = true) :
      LocalEnd gid c (.ok true) (c.writeRecord gid)
  /-- Any other block is committed. -/
  | committed (htouched : c.session.touchedCatalog = false) :
      LocalEnd gid c (.ok true) c.commitBlock

/-- There is no other end. -/
private theorem localEnd_of_open {reply : Except Failure Bool}
    (hin : c.session.inBlock = true) (hgood : c.session.failed = false)
    (hend : c.endLocal gid = (reply, d)) : LocalEnd gid c reply d := by
  unfold endLocal prepareBlock endBlock at hend
  rw [hin, hgood] at hend
  cases htouched : c.session.touchedCatalog with
  | true =>
      by_cases hrecord : gid ∈ c.localRecords
      · simp only [htouched, hrecord, if_true] at hend
        obtain ⟨rfl, rfl⟩ := Prod.mk.inj hend
        exact .occupied htouched
      · simp only [htouched, hrecord, if_true, if_false] at hend
        obtain ⟨rfl, rfl⟩ := Prod.mk.inj hend
        exact .recorded htouched
  | false =>
      rw [htouched] at hend
      obtain ⟨rfl, rfl⟩ := Prod.mk.inj hend
      exact .committed htouched

/-- It ends the same way after branches were prepared. -/
theorem localEnd_of_holdAll {reply : Except Failure Bool}
    (hin : c.session.inBlock = true) (hgood : c.session.failed = false)
    (hend : (c.holdAll gid nodes).endLocal gid = (reply, d)) :
    LocalEnd gid (c.holdAll gid nodes) reply d := by
  rw [← session_holdAll c gid nodes] at hin hgood
  exact localEnd_of_open hin hgood hend

/-- In an open block that is not failed, an interrupted command fails. -/
theorem Interrupted.error_of_open {result : Except Failure TagOverride}
    (hstop : Interrupted gid c result nodes d) (hin : c.session.inBlock = true)
    (hgood : c.session.failed = false) :
    ∃ failure, result = .error failure := by
  cases hstop with
  | refused failure hsplit hfault => exact ⟨_, rfl⟩
  | unregistered hall hend hfault => exact ⟨_, rfl⟩
  | @unended reply d hall hend hreply =>
      cases localEnd_of_holdAll hin hgood hend with
      | occupied htouched => exact ⟨_, rfl⟩
      | recorded htouched => exact absurd rfl hreply
      | committed htouched => exact absurd rfl hreply

/-- A record that is rolled back at once takes the session with it. -/
theorem session_unrecord_writeRecord (c : Cluster) (gid : Gid) :
    ((c.writeRecord gid).unrecord gid false).session.inBlock = false ∧
      ((c.writeRecord gid).unrecord gid false).session.status = .aborted ∧
      ((c.writeRecord gid).unrecord gid false).times localCommit
        = c.times localCommit := by
  refine ⟨rfl, if_pos ⟨rfl, rfl⟩, ?_⟩
  exact (times_record ..).trans (times_record ..)

-- ====================================================== the command

/-- PREPARE TRANSACTION will commit the block before it fails: there is no
record to write, every node prepares its branch, and the registry refuses. -/
structure CommitsFirst (c : Cluster) : Prop where
  untouched : c.session.touchedCatalog = false
  prepares : ∀ node ∈ c.session.written.nodes, c.prepareFault? node = none
  refuses : c.faults.registryDown = true

/-- What the session is, and how often the local node committed, after a
command that failed. -/
theorem PrepareEnds.session_of_error {result : Except Failure TagOverride}
    {failure : Failure} (hends : PrepareEnds gid c result d)
    (hresult : result = .error failure) (hin : c.session.inBlock = true)
    (hgood : c.session.failed = false)
    (haccepts : (c.holding gid).accepts = true) :
    (c.CommitsFirst ∧ d.session.status = .committed ∧
        d.times localCommit = c.times localCommit + 1) ∨
      (¬ c.CommitsFirst ∧ d.session.status = .aborted ∧
        d.times localCommit = c.times localCommit) := by
  have hheld (nodes : List Node) : SameLocal c (c.holdAll gid nodes) :=
    sameLocal_holdAll c gid nodes
  have htouches (htouched : c.session.touchedCatalog = true) :
      ¬ c.CommitsFirst := by
    intro hfirst
    have huntouched := hfirst.untouched
    rw [htouched] at huntouched
    cases huntouched
  cases hends with
  | registered hend hfault => cases hresult
  | @undone _ nodes d hstop =>
      obtain ⟨hstatus, hcommits⟩ := session_undone d gid nodes
      rw [hstatus, hcommits]
      cases hstop with
      | @refused _ rest node failure hsplit hfault =>
          -- the block is still open
          refine .inr ⟨fun h => hfault (h.prepares node ?_), ?_,
            (hheld nodes).commits⟩
          · rw [hsplit]
            exact List.mem_append_right _ (List.mem_cons_self ..)
          · rw [session_holdAll, hin, if_pos rfl]
      | @unended reply d hall hend hreply =>
          cases localEnd_of_holdAll hin hgood hend with
          | occupied htouched =>
              rw [session_holdAll] at htouched
              refine .inr ⟨htouches htouched, ?_, (hheld _).commits⟩
              rw [session_holdAll, hin, if_pos rfl]
          | recorded htouched => exact absurd rfl hreply
          | committed htouched => exact absurd rfl hreply
      | @unregistered failure d hall hend hfault =>
          have hrefused := refused_of_registryFault? hfault
          unfold unrecordIf
          cases localEnd_of_holdAll hin hgood hend with
          | recorded htouched =>
              rw [session_holdAll] at htouched
              obtain ⟨hout, haborted, hsame⟩ :=
                session_unrecord_writeRecord
                  (c.holdAll gid c.session.written.nodes) gid
              rw [htouched, if_pos rfl, hout, hsame]
              exact .inr ⟨htouches htouched, haborted, (hheld _).commits⟩
          | committed htouched =>
              rw [session_holdAll] at htouched
              rw [htouched]
              rw [holding_commitBlock, holding_holdAll,
                Holding.accepts_holdAll] at hrefused
              have hdown : c.faults.registryDown = true := by
                rcases hrefused with hdown | hfull
                · rwa [← faults_holdAll c gid c.session.written.nodes]
                · rw [haccepts] at hfull
                  cases hfull
              refine .inl ⟨⟨htouched, hall, hdown⟩, rfl, ?_⟩
              exact (times_record ..).trans
                (congrArg (· + 1) (hheld _).commits)

end Cluster

-- ====================================================== the move

variable {c : Cluster} {m : Move} {gid : Gid} {failure : Failure}

/-- A client's PREPARE TRANSACTION that fails in an open block aborts the local
transaction and commits nothing, unless it commits the block first: then the
session is left committed. -/
theorem local_side_of_failed_prepare (hc : c.IsReached) (hm : m.Prepares gid c)
    (hin : c.session.inBlock = true) (hgood : c.session.failed = false)
    (hfailed : c.outcome m = .error failure) :
    ∃ events, (c.step m).journal = c.journal ++ events ∧
      (¬ c.CommitsFirst →
        (c.step m).session.status = .aborted ∧
          Cluster.Event.localCommit ∉ events) ∧
      (c.CommitsFirst →
        (c.step m).session.status = .committed ∧
          Cluster.Event.localCommit ∈ events) := by
  obtain ⟨events, hjournal⟩ := Cluster.journal_step c m
  have hopen : (c.session.inBlock && c.session.failed) = false :=
    Bool.and_eq_false_iff.mpr (.inr hgood)
  obtain ⟨result, houtcome, hends⟩ := prepareEnds_step hm hopen
  obtain ⟨f, hresult⟩ : ∃ f, result = .error f := by
    cases result with
    | ok tag =>
        rw [houtcome] at hfailed
        cases hfailed
    | error f => exact ⟨f, rfl⟩
  -- nothing waits, so the registry has no reason of its own to refuse
  have haccepts : (c.holding gid).accepts = true :=
    (sound_of_isReached hc gid).free hm.2.2
  refine ⟨events, hjournal.symm, fun hlast => ?_, fun hfirst => ?_⟩
  · rcases hends.session_of_error hresult hin hgood haccepts with
      ⟨hfirst, _⟩ | ⟨_, hstatus, hcommits⟩
    · exact absurd hfirst hlast
    · refine ⟨hstatus, List.count_eq_zero.mp ?_⟩
      exact Cluster.count_added hjournal.symm hcommits
  · rcases hends.session_of_error hresult hin hgood haccepts with
      ⟨_, hstatus, hcommits⟩ | ⟨hlast, _⟩
    · refine ⟨hstatus, List.count_pos_iff.mp ?_⟩
      rw [Cluster.count_added hjournal.symm hcommits]
      exact Nat.one_pos
    · exact absurd hfirst hlast

/-- A transaction that wrote to one node and to no catalog, while the registry
is down. -/
def unregistrable : Cluster :=
  .reached .standard ""
    [.client (.begin []),
     .touch ["dn1"],
     .setFaults { Faults.none with registryDown := true }]

/-- The registry refuses, and the session is left committed. -/
theorem local_side_of_failed_prepare_unregistrable :
    (Move.client (.prepare "g")).Prepares "g" unregistrable ∧
      unregistrable.outcome (.client (.prepare "g"))
        = .error Cluster.registryFault ∧
      (unregistrable.step (.client (.prepare "g"))).session.status
        = .committed := by
  have hc : unregistrable.IsReached := ⟨_, _, _, rfl⟩
  have hm : (Move.client (.prepare "g")).Prepares "g" unregistrable :=
    ⟨⟨rfl, rfl⟩, ⟨rfl, by decide, rfl⟩, rfl⟩
  have hfailed : unregistrable.outcome (.client (.prepare "g"))
      = .error Cluster.registryFault := rfl
  have hfirst : unregistrable.CommitsFirst := by
    refine ⟨rfl, fun node hmem => ?_, rfl⟩
    obtain rfl : node = "dn1" := List.mem_singleton.mp hmem
    rfl
  obtain ⟨events, _, _, hcommitted⟩ :=
    local_side_of_failed_prepare hc hm rfl rfl hfailed
  exact ⟨hm, hfailed, (hcommitted hfirst).1⟩

end ClusterUtility
