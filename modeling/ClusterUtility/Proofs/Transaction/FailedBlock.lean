/-
What a failed statement makes of an open block.

A block that is marked as failed can only be rolled back. The mark stays until
the block goes back to a savepoint (`KeepsFailure`), and as long as it is
there, COMMIT is a rollback, of which the client is told, and PREPARE
TRANSACTION prepares nothing (`BarsCommit`).

Not every failure sets the mark, though. A handler that fails does, but a
message that is not delivered, a relation that is there already and a
savepoint that is not there leave the block as it was, and so does an
interceptor (`Call.FailsUnmarked`). What was done here before such a failure,
be it a statement whose message did not reach the other nodes, is committed
with the block. So a failed statement bars the commit, or it failed without a
mark (`failure_bars_commit`).
-/
import ClusterUtility.Proofs.Dispatch.Explained
import ClusterUtility.Proofs.Dispatch.Nested
import ClusterUtility.Proofs.Dispatch.Told

namespace ClusterUtility

open Cluster (Continues SameBlock answer)
open Program (Leads exchanges)

variable {config : Configuration} {i : Interceptor} {call : Call}
  {c d e : Cluster} {f : Failure} {m : Move} {gid : Gid}

-- ====================================================== the mark stays

/-- The block went back to a savepoint. -/
def Exchange.GoesBack (x : Exchange) : Prop :=
  ∃ name, x = ⟨.rollbackToSavepoint name, .ok ()⟩

/-- A move in which the block goes back to a savepoint. -/
def Move.GoesBack (c : Cluster) : Move → Prop
  | .dispatch config i call =>
      ∃ x ∈ exchanges answer (ClusterUtility.dispatch config i call) c,
        x.GoesBack
  | _ => False

namespace Cluster

/-- The second cluster comes after the first one, and a block that was failed
is failed as long as it lasts. -/
structure KeepsFailure (c d : Cluster) : Prop where
  continues : Continues c d
  failed : SameBlock c d → c.session.failed = true → d.session.failed = true

namespace KeepsFailure

private theorem refl (c : Cluster) : KeepsFailure c c :=
  ⟨.refl c, fun _ => id⟩

private theorem trans (h : KeepsFailure c d) (h' : KeepsFailure d e) :
    KeepsFailure c e := by
  refine ⟨h.continues.trans h'.continues, fun hsame hfailed => ?_⟩
  obtain ⟨hin, _⟩ := h.continues.sameBlock h'.continues hsame
  obtain ⟨hopen, hbegins⟩ := hsame
  -- no block began on the whole way, so none did on either part of it
  have hlater := h'.continues.begins
  rw [hbegins] at hlater
  have hfirst : d.times .localBegin = c.times .localBegin :=
    Nat.le_antisymm hlater h.continues.begins
  have hmiddle : d.session.failed = true := h.failed ⟨hin, hfirst⟩ hfailed
  refine h'.failed ⟨hopen, ?_⟩ hmiddle
  rw [hbegins, hfirst]

end KeepsFailure

/-- An error leaves a failed block failed. -/
private theorem failed_afterError {s : LocalSession} (h : s.failed = true) :
    s.afterError.failed = true := by
  unfold LocalSession.afterError
  split
  · rfl
  · exact h

private theorem failed_afterCatalogChange {s : LocalSession}
    (h : s.failed = true) : s.afterCatalogChange.failed = true := by
  unfold LocalSession.afterCatalogChange
  split <;> exact h

/-- A message leaves a failed block failed. -/
private theorem failed_enlist {s : LocalSession} {request : RemoteRequest}
    {nodes : List Node} (h : s.failed = true) :
    (enlist s request nodes).failed = true := by
  unfold enlist
  split <;> exact h

/-- No answer takes the mark off an open block, but that of going back to a
savepoint. -/
theorem failed_answer {r : Request} (hin : c.session.inBlock = true)
    (hfailed : c.session.failed = true)
    (hback : ¬ Exchange.GoesBack ⟨r, (answer r c).1⟩)
    (hopen : (answer r c).2.session.inBlock = true) :
    (answer r c).2.session.failed = true := by
  have hbecomes := becomes_answer r c
  generalize hs : (answer r c).2.session = s at hbecomes hopen ⊢
  cases hbecomes with
  | erred => exact failed_afterError hfailed
  | changed => exact failed_afterCatalogChange hfailed
  | handled statement text marked hmarked =>
      rcases hmarked with rfl | rfl
      · exact hfailed
      · exact failed_afterCatalogChange hfailed
  | begun hout =>
      rw [hout] at hin
      cases hin
  | ended status _ => exact absurd hopen Bool.false_ne_true
  | prepared gid _ hsound => exact absurd hopen Bool.false_ne_true
  | @wentBack name kept hkept =>
      refine absurd ⟨name, ?_⟩ hback
      show Exchange.mk (.rollbackToSavepoint name)
          (c.rollbackToSavepoint name).1 = _
      unfold rollbackToSavepoint
      rw [hkept]
  | enlisted request nodes => exact failed_enlist hfailed
  | _ => exact hfailed

/-- No answer but that of going back to a savepoint makes a failed block good
again. -/
private theorem keepsFailure_answer (r : Request) (c : Cluster)
    (hback : ¬ Exchange.GoesBack ⟨r, (answer r c).1⟩) :
    KeepsFailure c (answer r c).2 := by
  refine ⟨continues_answer r c, fun hsame hfailed => ?_⟩
  obtain ⟨hin, _⟩ := (continues_answer r c).block hsame.2 hsame.1
  exact failed_answer hin hfailed hback hsame.1

/-- No move but one that goes back to a savepoint does. -/
private theorem keepsFailure_step (hback : ¬ m.GoesBack c) :
    KeepsFailure c (c.step m) := by
  cases m with
  | dispatch config i call =>
      refine Program.related_of_exchanges KeepsFailure.refl KeepsFailure.trans
        (P := fun x => ¬ x.GoesBack) keepsFailure_answer ?_
      exact fun x hx hgoes => hback ⟨x, hx, hgoes⟩
  | restart =>
      refine ⟨continues_step c .restart, fun hsame _ => ?_⟩
      cases hsame.1
  | _ => exact ⟨continues_step c _, fun _ => id⟩

/-- And no run of such moves. -/
private theorem keepsFailure_after {moves : List Move}
    (hmoves : d.Always (fun e m => ¬ m.GoesBack e) moves) :
    KeepsFailure d (d.after moves) :=
  after_induction (I := KeepsFailure d)
    (fun _ _ h hback => h.trans (keepsFailure_step hback)) (.refl d) hmoves

end Cluster

-- ================================================== a commit is barred

namespace Cluster

/-- On the way from the first cluster to the second one nothing is registered,
and no branch is prepared. -/
structure PreparesNothing (c d : Cluster) : Prop where
  registry : d.registry = c.registry
  branches : d.branches = c.branches
  journal : ∃ events, d.journal = c.journal ++ events ∧
    ∀ node gid, .branchPrepared node gid ∉ events

/-- The open block can only be rolled back. -/
structure BarsCommit (c : Cluster) : Prop where
  inBlock : c.session.inBlock = true
  failed : c.session.failed = true
  /-- COMMIT ends the block as a rollback, and the client is told. -/
  commit : ∀ (config : Configuration) (i : Interceptor) (call : Call),
    call.statement = .transaction .commit →
    i.admits call.statement.kind = true →
    call.context.depth ≤ config.maxDepth →
      c.perform (dispatch config i call) = (.ok (), c.abortTransaction) ∧
        c.abortTransaction.journal = c.journal ++ [.localAbort] ∧
        (call.hasTag = true → ∀ tag,
          ((Desk.ofTag tag).hearAll
            (Program.run answer (dispatch config i call) c).notes).tag
            = ⟨"ROLLBACK", true⟩)
  prepare : ∀ (config : Configuration) (i : Interceptor) (call : Call)
    (gid : Gid), call.statement = .transaction (.prepare gid) →
      PreparesNothing c (c.perform (dispatch config i call)).2

theorem PreparesNothing.refl (c : Cluster) : PreparesNothing c c :=
  ⟨rfl, rfl, [], (List.append_nil _).symm, fun _ _ => List.not_mem_nil⟩

/-- Ending a failed block rolls it back. -/
private theorem endBlock_of_failed (hin : c.session.inBlock = true)
    (hfailed : c.session.failed = true) :
    c.endBlock = (false, c.abortTransaction) := by
  unfold endBlock
  rw [hin, hfailed]
  rfl

/-- Preparing a failed block rolls it back. -/
theorem prepareBlock_of_failed (hin : c.session.inBlock = true)
    (hfailed : c.session.failed = true) (gid : Gid) :
    c.prepareBlock gid = (.ok false, c.abortTransaction) :=
  (Reacts.preparesFailed hin hfailed).eq

end Cluster

/-- COMMIT is let through by every gate. -/
theorem passes_commit (hs : call.statement = .transaction .commit)
    (hadmits : i.admits call.statement.kind = true)
    (hdepth : call.context.depth ≤ config.maxDepth) (c : Cluster) :
    call.Passes config i c := by
  refine ⟨hadmits, hdepth, perform_passGate_ok ?_ ?_ ?_ ?_⟩
  · -- the gate does not count it as a change
    have hmutates : (Statement.transaction .commit).gate.mutates = false := rfl
    rw [hs]
    unfold checkReadOnly
    rw [hmutates, Bool.and_false]
    rfl
  · rw [hs]
    rfl
  · rw [hs]
    rfl
  · rw [hs]
    exact (by decide : "COMMIT" ≠ unknownTag)

/-- COMMIT rolls a failed block back, and says so. -/
private theorem perform_commit_of_failed (hin : c.session.inBlock = true)
    (hfailed : c.session.failed = true) (context : Context) :
    c.perform (TransactionCommand.run context .commit)
      = (.ok rolledBackTag, c.abortTransaction) := by
  unfold TransactionCommand.run
  rw [Program.bind_eq, Cluster.perform_request_bind]
  simp only [answer, Cluster.endBlock_of_failed hin hfailed]
  rfl

/-- In a failed block, PREPARE TRANSACTION finds its identifier in use, or
rolls the block back. -/
theorem prepareTransaction_of_failed (hin : c.session.inBlock = true)
    (hfailed : c.session.failed = true) (gid : Gid) (context : Context) :
    c.PreparesNothing (c.perform (prepareTransaction gid context)).2 := by
  unfold prepareTransaction
  split
  · cases hlookup : c.lookup gid with
    | some t =>
        rw [Cluster.perform_prepareFromClient_known hlookup]
        exact .refl c
    | none =>
        have hboth := Bool.and_eq_true_iff.mpr ⟨hin, hfailed⟩
        rw [Cluster.perform_prepareFromClient_of_failed hlookup hboth]
        refine ⟨rfl, rfl, [.branchesAborted, .localAbort], ?_, by simp⟩
        exact List.append_assoc ..
  · unfold prepareFromCoordinator
    rw [Program.bind_eq, Cluster.perform_request_bind]
    simp only [answer, Cluster.prepareBlock_of_failed hin hfailed]
    exact ⟨rfl, rfl, [.localAbort], rfl, by simp⟩

/-- A block that is failed bars the commit. -/
theorem Cluster.barsCommit (hin : c.session.inBlock = true)
    (hfailed : c.session.failed = true) : c.BarsCommit := by
  refine ⟨hin, hfailed, fun config i call hs hadmits hdepth => ?_,
    fun config i call gid hs => ?_⟩
  · have hpass := passes_commit hs hadmits hdepth c
    refine ⟨?_, rfl, fun htag tag => ?_⟩
    · rw [perform_dispatch_command hs hpass,
        perform_commit_of_failed hin hfailed]
      rfl
    · show call.tagAfter config i tag c = _
      rw [tagAfter_command hs hpass htag, perform_commit_of_failed hin hfailed]
      rfl
  · by_cases hpass : call.Passes config i c
    · have hrun : (c.perform (dispatch config i call)).2
          = (c.perform (prepareTransaction gid call.context)).2 :=
        congrArg Prod.snd (perform_dispatch_command hs hpass)
      rw [hrun]
      exact prepareTransaction_of_failed hin hfailed gid call.context
    · obtain ⟨failure, hrefused⟩ := perform_dispatch_refused fun _ _ => hpass
      rw [hrefused]
      exact .refl c

-- =================================================== failed statements

/-- The dispatch fails, and what it fails with leaves an open block as it was:
a request that was refused without a trace, or an interceptor that refused a
statement. -/
inductive Call.FailsUnmarked (config : Configuration) (i : Interceptor)
    (call : Call) (c : Cluster) (f : Failure) (d : Cluster) : Prop
  | spared {r : Request} {next : r.Reply → Program Unit}
      (hleads : Leads answer (dispatch config i call) c (.ask r next) d)
      (hreply : r.spared? (answer r d).1 = some f) (hkept : (answer r d).2 = d)
  | intercepted {other : Call} (hother : other = call ∨ call.Contains other)
      (hdispatches : call.Dispatches config i c other d)
      (hkind : i.admits other.statement.kind = false)
      (hfailure : f = Interceptor.refusal other.statement.kind)

/-- A statement that fails for a fault while a block is open leaves the block
failed, or it fails without a mark. -/
theorem failed_or_unmarked
    (hfail : c.perform (dispatch config i call) = (.error f, d))
    (hfault : f.isFault = true) (hin : d.session.inBlock = true) :
    d.session.failed = true ∨ call.FailsUnmarked config i c f d := by
  have hnot (hother : f.isFault = false) : ¬ f.isFault = true := by
    rw [hother]
    exact Bool.false_ne_true
  -- what the gate refuses with is no fault
  have hrefusal {other : Call} {e : Cluster}
      (hgate : (e.perform (passGate config other)).1 = .error f) :
      ¬ f.isFault = true :=
    hnot (refusable_passGate hgate).isFault
  cases fails_dispatch config i hfail with
  | intercepted hkind hfailure hkept =>
      subst hkept
      exact .inr (.intercepted (.inl rfl) (call.dispatches_self ..) hkind
        hfailure)
  | refused hgate hkept => exact absurd hfault (hrefusal hgate)
  | own hown => exact absurd hfault (hnot (Failure.isFault_of_isOwn hown))
  | within hpass hcause =>
      cases hcause with
      | gate hinner hmoment hrefused =>
          exact absurd hfault (hrefusal hrefused)
      | @intercepted other next hinner hmoment hkind hfailure =>
          exact .inr (.intercepted (.inr hinner) ⟨next, hmoment⟩ hkind
            hfailure)
      | spared hmoment hreply hkept hspared =>
          exact .inr (.spared hmoment hreply hkept)
      | marked hfailed hmarked => exact .inl (hfailed hin)
      | own hown => exact absurd hfault (hnot (Failure.isFault_of_isOwn hown))

/-- A statement that fails for a fault while a block is open bars the commit of
the block, from then on until it goes back to a savepoint; or it fails without
a mark, in a block that was not failed before. -/
theorem failure_bars_commit
    (hfail : c.perform (dispatch config i call) = (.error f, d))
    (hfault : f.isFault = true) (hin : d.session.inBlock = true) :
    (∀ moves, d.Always (fun e m => ¬ m.GoesBack e) moves →
      SameBlock d (d.after moves) → (d.after moves).BarsCommit) ∨
      (d.session.failed = false ∧ call.FailsUnmarked config i c f d) := by
  cases hfailed : d.session.failed with
  | true =>
      refine .inl fun moves hmoves hsame => ?_
      have hkeeps := Cluster.keepsFailure_after hmoves
      exact Cluster.barsCommit hsame.1 (hkeeps.failed hsame hfailed)
  | false =>
      rcases failed_or_unmarked hfail hfault hin with hmark | hunmarked
      · rw [hfailed] at hmark
        cases hmark
      · exact .inr ⟨rfl, hunmarked⟩

/-- A view that is made in a block. -/
def viewInBlock : Call :=
  ⟨.createView ⟨none, "v"⟩ false, "CREATE VIEW v",
    .topLevel .coordinator, true, false⟩

/-- An open block, while something fails. -/
def openBlockWith (faults : Faults) : Cluster :=
  .reached .standard "" [.client (.begin []), .setFaults faults]

/-- An open block, while no message reaches the second coordinator. -/
def unheardBlock : Cluster :=
  openBlockWith { Faults.none with transport := NodeSet.insert ∅ "coord2" }

/-- An open block, while there is no space for a view. -/
def crampedBlock : Cluster :=
  openBlockWith { Faults.none with
      handlers := Directory.insert ∅ .createView "out of space" }

/-- A message that is not heard does not bar the commit of the block, and a
view for which there is no space does. -/
theorem failure_bars_commit_viewInBlock :
    (∃ f d,
      unheardBlock.perform (dispatch .standard .none viewInBlock)
        = (.error f, d) ∧
      viewInBlock.FailsUnmarked .standard .none unheardBlock f d ∧
      .localCommit ∈ (d.step (.client .commit)).journal) ∧
    ∃ f d,
      crampedBlock.perform (dispatch .standard .none viewInBlock)
        = (.error f, d) ∧
      d.BarsCommit := by
  refine ⟨?unheard, ?cramped⟩
  case unheard =>
    obtain ⟨f, d, hfail, hfault, hin, hgood, hcommit⟩ :
        ∃ f d,
          unheardBlock.perform (dispatch .standard .none viewInBlock)
            = (.error f, d) ∧
          f.isFault = true ∧ d.session.inBlock = true ∧
          d.session.failed = false ∧
          .localCommit ∈ (d.step (.client .commit)).journal :=
      ⟨_, _, rfl, rfl, rfl, rfl, by decide⟩
    refine ⟨f, d, hfail, ?_, hcommit⟩
    rcases failure_bars_commit hfail hfault hin with hbars | ⟨_, hunmarked⟩
    · have hmark := (hbars [] trivial ⟨hin, rfl⟩).failed
      have hbad : d.session.failed = true := hmark
      rw [hgood] at hbad
      cases hbad
    · exact hunmarked
  case cramped =>
    obtain ⟨f, d, hfail, hfault, hin, hmark⟩ :
        ∃ f d,
          crampedBlock.perform (dispatch .standard .none viewInBlock)
            = (.error f, d) ∧
          f.isFault = true ∧ d.session.inBlock = true ∧
          d.session.failed = true :=
      ⟨_, _, rfl, rfl, rfl, rfl⟩
    refine ⟨f, d, hfail, ?_⟩
    rcases failure_bars_commit hfail hfault hin with hbars | ⟨hgood, _⟩
    · exact hbars [] trivial ⟨hin, rfl⟩
    · rw [hgood] at hmark
      cases hmark

end ClusterUtility
