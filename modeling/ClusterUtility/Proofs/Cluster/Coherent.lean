/-
What the places where a session keeps its transaction say of one another.

A session says in five places how its transaction stands: whether a block is
open, whether it met an error, whether it changed the catalog, what its status
is, and under which identifier it was prepared. A dozen operations write to
these places, and what was prepared is recorded outside of the session too, so
that it outlives a restart.

# Coherence

`Cluster.Coherent` lists what the places say of one another. Each part needs
the others to be kept: that an open block has no identifier is what lets a
finish spare it, since a finish changes the status of the session that bears
the identifier, whatever else is going on there.

# Operations

An operation is any request with any arguments, or any move of the cluster
(`Cluster.Operation`), and no order is required of them. Coherence is shown of
each way of answering (`Reacts.coherent`), and from there of an answer, a whole
program, a move and a list of operations.
-/
import ClusterUtility.Proofs.Cluster.Reaction
import ClusterUtility.Proofs.Cluster.Run

namespace ClusterUtility

-- ====================================================== coherence

/-- What a session and the records of prepared transactions say of one
another. -/
structure LocalSession.Coherent (s : LocalSession)
    (records : List Gid) : Prop where
  open_iff : s.inBlock = true ↔ s.status = .inProgress
  unidentified : s.inBlock = true → s.globalId = none
  failed : s.failed = true → s.inBlock = true
  touched : s.touchedCatalog = true → s.inBlock = true
  recorded : s.status = .prepared →
    ∃ gid, s.globalId = some gid ∧ gid ∈ records

namespace LocalSession

variable {s s' : LocalSession} {records : List Gid}

/-- A session that has had no transaction says nothing that could contradict
itself. -/
private theorem coherent_fresh (records : List Gid) : fresh.Coherent records :=
  ⟨⟨nofun, nofun⟩, nofun, nofun, nofun, nofun⟩

/-- A transaction that is over leaves nothing behind that could contradict
its status. -/
theorem coherent_ended {status : TransactionStatus}
    (hstatus : status = .committed ∨ status = .aborted) :
    (s.ended status).Coherent records := by
  have hopen : status ≠ .inProgress := by
    rcases hstatus with rfl | rfl <;> decide
  have hprepared : status ≠ .prepared := by
    rcases hstatus with rfl | rfl <;> decide
  exact ⟨⟨nofun, fun h => absurd h hopen⟩, nofun, nofun, nofun,
    fun h => absurd h hprepared⟩

/-- An open block is in progress, and it has no identifier. -/
private theorem coherent_begun :
    Coherent { s with inBlock := true, status := .inProgress,
                      globalId := none } records :=
  ⟨⟨fun _ => rfl, fun _ => rfl⟩, fun _ => rfl, fun _ => rfl,
    fun _ => rfl, nofun⟩

namespace Coherent

/-- An error is met in a block, or it leaves no trace. -/
private theorem afterError (h : s.Coherent records) :
    s.afterError.Coherent records := by
  unfold LocalSession.afterError
  split
  next hin =>
    exact ⟨h.open_iff, h.unidentified, fun _ => hin, h.touched, h.recorded⟩
  next => exact h

/-- A change of the catalog is marked in a block, or not at all. -/
private theorem afterCatalogChange (h : s.Coherent records) :
    s.afterCatalogChange.Coherent records := by
  unfold LocalSession.afterCatalogChange
  split
  next hin =>
    exact ⟨h.open_iff, h.unidentified, h.failed, fun _ => hin, h.recorded⟩
  next => exact h

/-- Nothing is said of the other places of a session. -/
theorem of_same (h : s.Coherent records) (hin : s'.inBlock = s.inBlock)
    (hfailed : s'.failed = s.failed)
    (htouched : s'.touchedCatalog = s.touchedCatalog)
    (hstatus : s'.status = s.status) (hgid : s'.globalId = s.globalId) :
    s'.Coherent records := by
  constructor
  · rw [hin, hstatus]
    exact h.open_iff
  · rw [hin, hgid]
    exact h.unidentified
  · rw [hfailed, hin]
    exact h.failed
  · rw [htouched, hin]
    exact h.touched
  · rw [hstatus, hgid]
    exact h.recorded

/-- A handler that ran marks the block, and keeps the session objects. -/
theorem afterHandler (h : s.Coherent records) (statement : Statement) :
    (s.afterHandler statement).Coherent records := by
  unfold LocalSession.afterHandler
  by_cases hddl : statement.levelAlone = .ddl
  · rw [if_pos hddl]
    exact h.afterCatalogChange.of_same rfl rfl rfl rfl rfl
  · rw [if_neg hddl]
    exact h.of_same rfl rfl rfl rfl rfl

end Coherent

end LocalSession

namespace Cluster

/-- The session and the records of a cluster do not contradict one another. -/
def Coherent (c : Cluster) : Prop := c.session.Coherent c.localRecords

-- ====================================================== one answer

variable {c d : Cluster} {r : Request} {reply : r.Reply}

/-- Preparing writes the identifier into the session and among the records. -/
theorem coherent_writeRecord (c : Cluster) (gid : Gid) :
    (c.writeRecord gid).Coherent := by
  refine ⟨⟨nofun, nofun⟩, nofun, nofun, nofun, fun _ => ⟨gid, rfl, ?_⟩⟩
  exact List.mem_append_right _ (List.mem_singleton_self gid)

/-- What a finish makes of the status of a session that is coherent: only one
that is prepared under the identifier changes. -/
theorem statusAfterFinish_eq {s : LocalSession} {records : List Gid}
    (h : s.Coherent records) (gid : Gid) (commit : Bool) :
    statusAfterFinish s gid commit
      = if s.status = .prepared ∧ s.globalId = some gid then .ofCommit commit
        else s.status := by
  unfold statusAfterFinish
  by_cases hgid : s.globalId = some gid
  · simp only [hgid, true_and, and_true]
    cases hs : s.status with
    | prepared => cases commit <;> rfl
    | inProgress =>
        -- an open block has no identifier
        have hnone := h.unidentified (h.open_iff.mpr hs)
        rw [hnone] at hgid
        cases hgid
    | idle | committed | aborted => cases commit <;> rfl
  · simp only [hgid, false_and, and_false]

/-- A finish leaves the session of an open block as it is. -/
theorem session_finishLocal_of_inBlock (h : c.Coherent)
    (hin : c.session.inBlock = true) (gid : Gid) (commit : Bool) :
    (c.finishLocal gid commit).2.session = c.session := by
  have hstatus : statusAfterFinish c.session gid commit
      = c.session.status := by
    -- an open block is in progress, and a prepared session is not
    rw [statusAfterFinish_eq h, if_neg]
    rintro ⟨hprepared, -⟩
    rw [h.open_iff.mp hin] at hprepared
    cases hprepared
  unfold finishLocal
  split
  · show { c.session with status := statusAfterFinish c.session gid commit }
        = _
    rw [hstatus]
  · rfl

/-- A finish strikes one record. A prepared session needs it only if it bears
the identifier, and then it is prepared no longer. -/
theorem coherent_unrecord (h : c.Coherent) (gid : Gid) (commit : Bool) :
    (c.unrecord gid commit).Coherent := by
  show LocalSession.Coherent
    { c.session with status := statusAfterFinish c.session gid commit }
    (c.localRecords.filter fun g => g ≠ gid)
  rw [statusAfterFinish_eq h]
  by_cases hours : c.session.status = .prepared ∧ c.session.globalId = some gid
  · rw [if_pos hours]
    have hout : c.session.inBlock ≠ true := by
      intro hin
      have hprepared := hours.1
      rw [h.open_iff.mp hin] at hprepared
      cases hprepared
    have hopen : TransactionStatus.ofCommit commit ≠ .inProgress := by
      cases commit <;> decide
    have hprepared : TransactionStatus.ofCommit commit ≠ .prepared := by
      cases commit <;> decide
    exact ⟨⟨fun hin => absurd hin hout, fun hs => absurd hs hopen⟩,
      h.unidentified, h.failed, h.touched, fun hs => absurd hs hprepared⟩
  · rw [if_neg hours]
    refine ⟨h.open_iff, h.unidentified, h.failed, h.touched, fun hs => ?_⟩
    obtain ⟨own, hown, hmem⟩ := h.recorded hs
    refine ⟨own, hown, List.mem_filter.mpr ⟨hmem, ?_⟩⟩
    have hne : own ≠ gid := by
      rintro rfl
      exact hours ⟨hs, hown⟩
    exact decide_eq_true hne

/-- In whatever way a request is answered, the session stays coherent. -/
theorem Reacts.coherent (hreacts : c.Reacts r reply d) (h : c.Coherent) :
    d.Coherent := by
  cases hreacts with
  | fails | failsToAlter => exact h.afterError
  | @runs s _ _ => exact h.afterHandler s
  | defines | alters => exact h.afterCatalogChange
  | begins => exact LocalSession.coherent_begun
  | commits => exact LocalSession.coherent_ended (.inl rfl)
  | endsFailed | aborts | preparesFailed =>
      exact LocalSession.coherent_ended (.inr rfl)
  | prepares => exact coherent_writeRecord c _
  | finishes => exact coherent_unrecord h _ _
  | characterizes | saves | releases | abortsBranches =>
      exact h.of_same rfl rfl rfl rfl rfl
  | goesBack =>
      exact ⟨h.open_iff, h.unidentified, nofun, h.touched, h.recorded⟩
  | @sends request _ =>
      show (enlist c.session request _).Coherent c.localRecords
      unfold enlist
      split
      · exact h.of_same rfl rfl rfl rfl rfl
      · exact h
  | _ => exact h

/-- An answer keeps a session coherent. -/
theorem coherent_answer (h : c.Coherent) (r : Request) :
    (answer r c).2.Coherent :=
  (reacts_answer r c).coherent h

-- ====================================================== operations

/-- What can be done to a cluster: a request to it, or a move of it. -/
inductive Operation where
  | ask (r : Request)
  | move (m : Move)

/-- The cluster after an operation. -/
def operate (c : Cluster) : Operation → Cluster
  | .ask r => (answer r c).2
  | .move m => c.step m

/-- The cluster after a list of operations. -/
def operated (c : Cluster) (operations : List Operation) : Cluster :=
  operations.foldl operate c

private theorem coherent_perform {α : Type} (h : c.Coherent) (p : Program α) :
    (c.perform p).2.Coherent :=
  (Program.asks_anything p).preserves (I := Coherent)
    (fun r _ _ hd => coherent_answer hd r) h

/-- So does every move; a restart leaves a fresh session. -/
private theorem coherent_step (h : c.Coherent) (m : Move) :
    (c.step m).Coherent := by
  cases m with
  | dispatch config i call => exact coherent_perform h _
  | touch nodes => exact LocalSession.Coherent.of_same h rfl rfl rfl rfl rfl
  | restart => exact LocalSession.coherent_fresh _
  | _ => exact h

/-- Every session that is reached is coherent. -/
theorem coherent_of_isReached (hc : c.IsReached) : c.Coherent := by
  obtain ⟨topology, timestamp, moves, rfl⟩ := hc
  exact after_induction (P := fun _ _ => True)
    (fun d m h _ => coherent_step h m) (LocalSession.coherent_fresh [])
      (always_of_forall (fun _ _ _ => trivial) _)

/-- Operations need no order, since each keeps a session coherent. -/
private theorem coherent_operate (h : c.Coherent) (o : Operation) :
    (c.operate o).Coherent := by
  cases o with
  | ask r => exact coherent_answer h r
  | move m => exact coherent_step h m

/-- So do all of a list. -/
private theorem coherent_operated (h : c.Coherent)
    (operations : List Operation) : (c.operated operations).Coherent := by
  induction operations generalizing c with
  | nil => exact h
  | cons o rest ih => exact ih (coherent_operate h o)

/-- Whatever is done to a fresh cluster, in any order and with any arguments,
its session does not contradict itself; and no finish, whatever its identifier,
touches the session of an open block. -/
theorem session_stays_coherent (topology : Topology) (timestamp : String)
    (operations : List Operation) :
    ((fresh topology timestamp).operated operations).Coherent ∧
      ∀ gid commit, ((fresh topology timestamp).operated
        operations).session.inBlock = true →
        (answer (.finishLocal gid commit)
            ((fresh topology timestamp).operated operations)).2.session
          = ((fresh topology timestamp).operated operations).session := by
  have hfresh : (fresh topology timestamp).Coherent :=
    LocalSession.coherent_fresh []
  have h := coherent_operated hfresh operations
  exact ⟨h, fun gid commit hin =>
    session_finishLocal_of_inBlock h hin gid commit⟩

/-- A block that was opened while another one waits to be finished. -/
def reopened : Cluster :=
  (fresh .standard "").operated [.ask .beginBlock, .ask (.prepareBlock "g"),
    .ask .beginBlock]

/-- A record waits to be finished while the session is in the next block. -/
theorem session_stays_coherent_reopened :
    "g" ∈ reopened.localRecords ∧ reopened.session.inBlock = true ∧
      (answer (.finishLocal "g" true) reopened).2.session
        = reopened.session := by
  have hin : reopened.session.inBlock = true := rfl
  exact ⟨by decide, hin,
    (session_stays_coherent .standard "" _).2 "g" true hin⟩

end Cluster

end ClusterUtility
