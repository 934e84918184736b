/-
One transaction block over many steps.

A block has no name, but the journal says when one begins. So two moments of
a run lie in the same block when no block began in between and one is open at
the second (`Cluster.SameBlock`); then it was open all along.

# One answer

An answer lets the block go on, begins it or ends it (`Cluster.Turns`). While
it goes on, the mark of a change of the catalog stays, and the nodes that the
block wrote to stay too, but for the two requests that are about them.

# Many answers

`Cluster.Continues` relates a moment to any later one, in the same block or
not. What it says of the block is that a change of the catalog, once it is
marked, stays marked until the block ends. It holds across every answer
(`continues_answer`), so across every dispatch and every move.
-/
import ClusterUtility.Proofs.Cluster.Run
import ClusterUtility.Proofs.Cluster.Session

namespace ClusterUtility

-- ====================================================== sessions

namespace LocalSession

variable (s : LocalSession)

/-- An error opens and ends no block. -/
@[simp] theorem inBlock_afterError : s.afterError.inBlock = s.inBlock := by
  unfold afterError
  split <;> rfl

/-- Nor does it change the mark. -/
@[simp] theorem touchedCatalog_afterError :
    s.afterError.touchedCatalog = s.touchedCatalog := by
  unfold afterError
  split <;> rfl

@[simp] theorem written_afterError : s.afterError.written = s.written := by
  unfold afterError
  split <;> rfl

/-- A change of the catalog opens and ends no block. -/
@[simp] theorem inBlock_afterCatalogChange :
    s.afterCatalogChange.inBlock = s.inBlock := by
  unfold afterCatalogChange
  split <;> rfl

/-- Inside a block it is marked. -/
@[simp] theorem touchedCatalog_afterCatalogChange :
    s.afterCatalogChange.touchedCatalog = (s.touchedCatalog || s.inBlock) := by
  unfold afterCatalogChange
  cases s.inBlock <;> simp

/-- The nodes that were written to are others. -/
@[simp] theorem written_afterCatalogChange :
    s.afterCatalogChange.written = s.written := by
  unfold afterCatalogChange
  split <;> rfl

end LocalSession

namespace Cluster

variable {c d e : Cluster}

-- ====================================================== going on

/-- The second cluster comes after the first one. Where no block began in
between, a block that is open in the second one was open in the first one, and
what it changed in the catalog is not forgotten. -/
structure Continues (c d : Cluster) : Prop where
  begins : c.times .localBegin ≤ d.times .localBegin
  block : d.times .localBegin = c.times .localBegin →
    d.session.inBlock = true →
    c.session.inBlock = true ∧
      (c.session.touchedCatalog = true → d.session.touchedCatalog = true)

/-- The block is as it was, and so is the mark. -/
structure SameMark (c d : Cluster) : Prop where
  inBlock : d.session.inBlock = c.session.inBlock
  touched : d.session.touchedCatalog = c.session.touchedCatalog

/-- No block began in between, and one is open in the second cluster. -/
def SameBlock (c d : Cluster) : Prop :=
  d.session.inBlock = true ∧ d.times .localBegin = c.times .localBegin

namespace Continues

theorem refl (c : Cluster) : Continues c c :=
  ⟨Nat.le_refl _, fun _ hin => ⟨hin, id⟩⟩

/-- Of three moments in a row, the last comes after the first. -/
theorem trans (h : Continues c d) (h' : Continues d e) : Continues c e := by
  refine ⟨Nat.le_trans h.begins h'.begins, fun hsame hin => ?_⟩
  -- no block began on the way to the end, so none on either part of it
  have hbegins := h.begins
  rw [← hsame] at hbegins
  have hde : e.times .localBegin = d.times .localBegin :=
    Nat.le_antisymm hbegins h'.begins
  rw [hde] at hsame
  obtain ⟨hin', htouched'⟩ := h'.block hde hin
  obtain ⟨hin'', htouched⟩ := h.block hsame hin'
  exact ⟨hin'', fun ht => htouched' (htouched ht)⟩

/-- Where an open block was open before, its mark decides. -/
private theorem of_session (hjournal : c.journal <+: d.journal)
    (hsession : d.session.inBlock = true → c.session.inBlock = true ∧
      (c.session.touchedCatalog = true → d.session.touchedCatalog = true)) :
    Continues c d :=
  ⟨hjournal.sublist.count_le _, fun _ => hsession⟩

/-- Where the session is as it was, the journal alone counts. -/
private theorem of_same (hjournal : c.journal <+: d.journal)
    (h : SameMark c d) : Continues c d := by
  refine .of_session hjournal fun hin => ?_
  rw [h.touched]
  exact ⟨h.inBlock.symm.trans hin, id⟩

/-- A moment between two in one block lies in it, and what was changed in the
catalog by then is not forgotten. -/
theorem sameBlock (h : Continues c d) (h' : Continues d e)
    (hblock : SameBlock c e) :
    d.session.inBlock = true ∧
      (d.session.touchedCatalog = true → e.session.touchedCatalog = true) := by
  refine h'.block (Nat.le_antisymm ?_ h'.begins) hblock.1
  rw [hblock.2]
  exact h.begins

end Continues

-- ====================================================== answers

/-- To mark a change is to mark it where a block is open. -/
private theorem session_markCatalog (c : Cluster) :
    c.markCatalog.session.inBlock = c.session.inBlock ∧
      c.markCatalog.session.touchedCatalog
        = (c.session.touchedCatalog || c.session.inBlock) :=
  ⟨LocalSession.inBlock_afterCatalogChange _,
    LocalSession.touchedCatalog_afterCatalogChange _⟩

/-- A handler that ran marked a change of the catalog if its statement, taken
alone, is DDL. -/
theorem session_execute_ok {s : Statement} {handled : Handled}
    (hok : (c.execute s).1 = .ok handled) :
    (c.execute s).2.session.inBlock = c.session.inBlock ∧
      (c.execute s).2.session.touchedCatalog
        = (c.session.touchedCatalog
          || (decide (s.levelAlone = .ddl) && c.session.inBlock)) := by
  unfold execute at hok ⊢
  split at hok
  · cases hok
  · show (if s.levelAlone = .ddl then (c.record (.handler s.kind)).markCatalog
        else c.record (.handler s.kind)).session.inBlock = _ ∧
      (if s.levelAlone = .ddl then (c.record (.handler s.kind)).markCatalog
        else c.record (.handler s.kind)).session.touchedCatalog = _
    by_cases hddl : s.levelAlone = .ddl
    · rw [if_pos hddl, decide_eq_true hddl, Bool.true_and]
      exact session_markCatalog _
    · rw [if_neg hddl, decide_eq_false hddl, Bool.false_and, Bool.or_false]
      exact ⟨rfl, rfl⟩

/-- A relation that is defined is a change of the catalog. -/
theorem session_defineRelation (c : Cluster) (create : CreateTable)
    (kind : RelationKind) :
    (c.defineRelation create kind).2.session.inBlock = c.session.inBlock ∧
      (c.defineRelation create kind).2.session.touchedCatalog
        = (c.session.touchedCatalog ||
            ((c.defineRelation create kind).1.isOk && c.session.inBlock)) := by
  unfold defineRelation
  dsimp only
  split
  · exact ⟨rfl, (Bool.or_false _).symm⟩
  · exact session_markCatalog _

/-- A table that is altered likewise, but a failure is none. -/
theorem session_alterTable (c : Cluster) (alter : AlterTable) :
    (c.alterTable alter).2.session.inBlock = c.session.inBlock ∧
      (c.alterTable alter).2.session.touchedCatalog
        = (c.session.touchedCatalog
          || ((c.alterTable alter).1.isOk && c.session.inBlock)) := by
  unfold alterTable
  split
  · refine ⟨LocalSession.inBlock_afterError _, ?_⟩
    exact (LocalSession.touchedCatalog_afterError _).trans
      (Bool.or_false _).symm
  · exact session_markCatalog _

/-- The nodes that are written to are no part of the mark. -/
private theorem session_enlist (s : LocalSession) (request : RemoteRequest)
    (nodes : List Node) :
    (enlist s request nodes).inBlock = s.inBlock ∧
      (enlist s request nodes).touchedCatalog = s.touchedCatalog := by
  unfold enlist
  split <;> exact ⟨rfl, rfl⟩

/-- To send something changes nothing here, whether it arrives or not. -/
theorem session_send (c : Cluster) (request : RemoteRequest) :
    (c.send request).2.session.inBlock = c.session.inBlock ∧
      (c.send request).2.session.touchedCatalog
        = c.session.touchedCatalog := by
  rcases send_cases c request with ⟨failure, hsend⟩ | hsend
  · rw [hsend]
    exact ⟨rfl, rfl⟩
  · rw [hsend]
    exact session_enlist ..

/-- What the answer to a request makes of the block. -/
inductive Turns (r : Request) (c d : Cluster) : Prop
  /-- There is a block exactly if there was one. Its mark stays, and so do the
  nodes that it wrote to, but for a request that is about them. -/
  | goesOn (hin : d.session.inBlock = c.session.inBlock)
      (hmark : c.session.touchedCatalog = true →
        d.session.touchedCatalog = true)
      (hwritten : (∀ request, r ≠ .send request) → r ≠ .abortBranches →
        d.session.written = c.session.written)
  | begins (hr : r = .beginBlock) (hout : c.session.inBlock = false)
      (hin : d.session.inBlock = true)
      (hjournal : d.journal = c.journal ++ [.localBegin])
      (hwritten : d.session.written = c.session.written)
  | ends (hout : d.session.inBlock = false) (hwritten : d.session.written = ∅)

namespace Turns

variable {r : Request}

/-- An answer that leaves the session alone lets the block go on. -/
private theorem refl (r : Request) (c : Cluster) : Turns r c c :=
  .goesOn rfl id fun _ _ => rfl

/-- So does every answer that leaves the parts of it alone that count. -/
private theorem of_session {s : LocalSession} (hs : d.session = s)
    (hin : s.inBlock = c.session.inBlock)
    (hmark : c.session.touchedCatalog = true → s.touchedCatalog = true)
    (hwritten : (∀ request, r ≠ .send request) → r ≠ .abortBranches →
      s.written = c.session.written) : Turns r c d := by
  subst hs
  exact .goesOn hin hmark hwritten

end Turns

/-- A block that is to begin begins, or it is open already. -/
theorem turns_beginBlock (c : Cluster) : Turns .beginBlock c c.beginBlock := by
  unfold beginBlock
  split
  · exact .refl _ c
  next hout => exact .begins rfl (Bool.eq_false_iff.mpr hout) rfl rfl rfl

/-- Every answer is a turn of the block. -/
theorem turns_answer (r : Request) (c : Cluster) :
    Turns r c (answer r c).2 := by
  by_cases hbegin : r = .beginBlock
  · rw [hbegin]
    exact turns_beginBlock c
  have hbecomes := becomes_answer r c
  generalize hs : (answer r c).2.session = s at hbecomes
  cases hbecomes with
  | kept => exact .of_session hs rfl id fun _ _ => rfl
  | erred =>
      refine .of_session hs (LocalSession.inBlock_afterError _)
        (fun hmark => ?_) fun _ _ =>
        LocalSession.written_afterError _
      rw [LocalSession.touchedCatalog_afterError, hmark]
  | changed =>
      refine .of_session hs (LocalSession.inBlock_afterCatalogChange _)
        (fun hmark => ?_) fun _ _ => LocalSession.written_afterCatalogChange _
      rw [LocalSession.touchedCatalog_afterCatalogChange, hmark, Bool.true_or]
  | handled statement text marked hmarked =>
      rcases hmarked with rfl | rfl
      · exact .of_session hs rfl id fun _ _ => rfl
      · refine .of_session hs (LocalSession.inBlock_afterCatalogChange _)
          (fun hmark => ?_) fun _ _ =>
            LocalSession.written_afterCatalogChange _
        simp only [LocalSession.touchedCatalog_afterCatalogChange,
          hmark, Bool.true_or]
  | begun hout => exact absurd rfl hbegin
  | characterized option => exact .of_session hs rfl id fun _ _ => rfl
  | ended status hin => exact .ends (by rw [hs]; rfl) (by rw [hs]; rfl)
  | prepared gid hin hsound => exact .ends (by rw [hs]; rfl) (by rw [hs]; rfl)
  | finished gid commit => exact .of_session hs rfl id fun _ _ => rfl
  | saved name => exact .of_session hs rfl id fun _ _ => rfl
  | released hkept => exact .of_session hs rfl id fun _ _ => rfl
  | wentBack hkept => exact .of_session hs rfl id fun _ _ => rfl
  | enlisted request nodes =>
      obtain ⟨hin, htouched⟩ := session_enlist c.session request nodes
      exact .of_session hs hin (fun hmark => htouched.trans hmark) fun h _ =>
        absurd rfl (h request)
  | cleared => exact .of_session hs rfl id fun _ h => absurd rfl h

/-- Every answer goes on. -/
theorem continues_answer (r : Request) (c : Cluster) :
    Continues c (answer r c).2 := by
  have hjournal := (onward_answer r c).journal
  cases turns_answer r c with
  | goesOn hin hmark hwritten =>
      exact .of_session hjournal fun h => ⟨hin.symm.trans h, hmark⟩
  | begins hr hout hin hbegun hwritten =>
      -- one more block began
      have hone : (answer r c).2.times .localBegin
          = c.times .localBegin + 1 := by
        unfold times
        rw [hbegun, List.count_append]
        rfl
      refine ⟨?_, fun hsame => ?_⟩
      · rw [hone]
        exact Nat.le_succ _
      · rw [hone] at hsame
        exact absurd hsame (Nat.succ_ne_self _)
  | ends hout hwritten =>
      refine .of_session hjournal fun hin => ?_
      rw [hout] at hin
      cases hin

-- ====================================================== runs

/-- A run goes on, since all its answers do. -/
private theorem continues_perform {α : Type} (c : Cluster) (p : Program α) :
    Continues c (c.perform p).2 :=
  Program.Within.related Continues.refl Continues.trans
    (fun r w _ => continues_answer r w) (Program.asks_anything p) c

/-- Every move goes on; a restart ends the block. -/
theorem continues_step (c : Cluster) (m : Move) : Continues c (c.step m) := by
  cases m with
  | dispatch config i call => exact continues_perform c _
  | restart =>
      refine .of_session (List.prefix_refl _) fun hin => ?_
      cases (hin : false = true)
  | _ => exact .of_same (List.prefix_refl _) ⟨rfl, rfl⟩

/-- So any later moment comes after. -/
theorem continues_after (c : Cluster) (moves : List Move) :
    Continues c (c.after moves) := by
  induction moves generalizing c with
  | nil => exact .refl c
  | cons m rest ih => exact (continues_step c m).trans (ih (c.step m))

end Cluster

end ClusterUtility
