/-
Whether catalog work shows in how a transaction is prepared.

A transaction is registered with a record of the local node exactly if its
session is marked as having changed the catalog. The mark is set by handlers:
those that enter or alter a relation always set it, and the handler of a
statement sets it if the statement is DDL.

# Two classes

A handler takes its statement alone, while the dispatcher classifies it with
the objects of the session. The two agree on all statements but those whose
class hangs on a prepared statement (`levelAlone_of_classify`): executing a
prepared DDL statement is DDL to the dispatcher, and not to the handler. So
catalog work that was left out of the record was done that way, and it can be
left out.
-/
import ClusterUtility.Proofs.Cluster.Block
import ClusterUtility.Proofs.Dispatch.Nested
import ClusterUtility.Proofs.Transaction.FailedPrepare

namespace ClusterUtility

-- ==================================================== handlers at work

/-- In an exchange a handler did its work: that of a statement, or the one that
enters a relation or alters a table. -/
def Exchange.Handles (s : Statement) : Exchange → Prop
  | ⟨.execute other _, reply⟩ => other = s ∧ reply.isOk = true
  | ⟨.defineRelation _ _, reply⟩ => reply.isOk = true
  | ⟨.alterTable _, reply⟩ => reply.isOk = true
  | _ => False

/-- In the dispatch of a call, a handler does its work. -/
def Call.RunsHandler (config : Configuration) (i : Interceptor) (call : Call)
    (c : Cluster) : Prop :=
  ∃ e ∈ Program.exchanges Cluster.answer (dispatch config i call) c,
    e.Handles call.statement

variable {c d v : Cluster} {config : Configuration} {i : Interceptor}
  {call other : Call} {s : Statement} {gid : Gid} {m : Move}

/-- A handler at work in an open block marks it, if the statement, taken alone,
is DDL. -/
theorem marked_of_handles {e : Exchange} (hhandles : e.Handles s)
    (hddl : s.levelAlone = .ddl)
    (hreply : e.reply = (Cluster.answer e.request v).1)
    (hin : v.session.inBlock = true) :
    (Cluster.answer e.request v).2.session.touchedCatalog = true := by
  obtain ⟨r, reply⟩ := e
  cases r with
  | execute other text =>
      obtain ⟨rfl, hok⟩ := hhandles
      have hreply : reply = (v.execute other).1 := hreply
      cases hresult : (v.execute other).1 with
      | error failure =>
          rw [hreply, hresult] at hok
          cases hok
      | ok handled =>
          refine (Cluster.session_execute_ok hresult).2.trans ?_
          rw [hddl, hin]
          exact Bool.or_true _
  | defineRelation create kind =>
      have hreply : reply = (v.defineRelation create kind).1 := hreply
      have hok : (v.defineRelation create kind).1.isOk = true := by
        rw [← hreply]
        exact hhandles
      refine (Cluster.session_defineRelation v create kind).2.trans ?_
      rw [hok, hin]
      exact Bool.or_true _
  | alterTable alter =>
      have hreply : reply = (v.alterTable alter).1 := hreply
      have hok : (v.alterTable alter).1.isOk = true := by
        rw [← hreply]
        exact hhandles
      refine (Cluster.session_alterTable v alter).2.trans ?_
      rw [hok, hin]
      exact Bool.or_true _
  | _ => exact False.elim hhandles

/-- If it was done in a block that is still open, the mark is still there. -/
theorem marked_of_runsHandler (hcall : call.Dispatches config i c other d)
    (hruns : other.RunsHandler config i d)
    (hddl : other.statement.levelAlone = .ddl)
    {moves : List Move}
    (hblock : d.SameBlock (c.after (.dispatch config i call :: moves))) :
    (c.after (.dispatch config i call :: moves)).session.touchedCatalog
      = true := by
  obtain ⟨next, hcall⟩ := hcall
  obtain ⟨e, hmem, hhandles⟩ := hruns
  obtain ⟨rest, v, hleads, hreply⟩ := Program.leads_of_mem_exchanges hmem
  have hwhole := hcall.trans (hleads.bind next)
  -- from the dispatch to the handler, and from there to the end
  have hbefore : d.Continues v :=
    hleads.related Cluster.Continues.refl Cluster.Continues.trans
      Cluster.continues_answer
  have hanswer : v.Continues (Cluster.answer e.request v).2 :=
    Cluster.continues_answer ..
  have hdispatch : (Cluster.answer e.request v).2.Continues
      (c.step (.dispatch config i call)) :=
    hwhole.related_after Cluster.Continues.refl Cluster.Continues.trans
      Cluster.continues_answer
  have hafter : (Cluster.answer e.request v).2.Continues
      (c.after (.dispatch config i call :: moves)) :=
    hdispatch.trans (Cluster.continues_after _ moves)
  have hin := (hbefore.sameBlock (hanswer.trans hafter) hblock).1
  have hmarked := marked_of_handles hhandles hddl hreply hin
  exact ((hbefore.trans hanswer).sameBlock hafter hblock).2 hmarked

-- ===================================================== the two classes

/-- Where the class does not hang on a prepared statement, the dispatcher finds
the class that the statement has alone. -/
theorem levelAlone_of_classify {level : LogClass}
    (hclass : (c.perform (classify s)).1 = .ok level)
    (halone : ∀ name, s.logTarget ≠ .prepared name) :
    s.levelAlone = level := by
  cases htarget : s.logTarget with
  | prepared name => exact absurd htarget (halone name)
  | level found =>
      have hlevel : s.level? c.session.objects = some found := by
        unfold Statement.level?
        rw [htarget]
        rfl
      have hfound : (c.perform (classify s)).1 = .ok found := by
        unfold classify
        rw [Program.bind_eq, Cluster.perform_request_bind]
        simp only [Cluster.answer, hlevel]
        rfl
      rw [hfound] at hclass
      unfold Statement.levelAlone
      rw [htarget]
      exact Except.ok.inj hclass

-- ====================================================== the record

/-- What a client's PREPARE TRANSACTION registers in an open block has a record
exactly if the session is marked. -/
theorem record_eq_touchedCatalog (hm : m.Prepares gid c)
    (hin : c.session.inBlock = true) (hok : c.outcome m = .ok ())
    {t : PreparedTransaction} (ht : (c.step m).lookup gid = some t) :
    t.coordinatorRecord = c.session.touchedCatalog := by
  cases hfailed : c.session.failed with
  | true =>
      -- a failed block registers nothing
      exfalso
      have hboth := Bool.and_eq_true_iff.mpr ⟨hin, hfailed⟩
      have hkept : (c.step m).holding gid = c.holding gid := by
        unfold Cluster.step
        rw [enact_prepare hm.1 hm.2.1]
        exact Cluster.holding_prepareFromClient_of_failed hm.2.2 hboth
      rw [Cluster.lookup_eq, hkept, ← Cluster.lookup_eq, hm.2.2] at ht
      cases ht
  | false =>
      have hgood : (c.session.inBlock && c.session.failed) = false :=
        Bool.and_eq_false_iff.mpr (.inr hfailed)
      obtain ⟨result, houtcome, hends⟩ := prepareEnds_step hm hgood
      rw [houtcome] at hok
      rw [Cluster.lookup_eq] at ht
      generalize c.step m = w at hends ht
      cases hends with
      | undone hstop =>
          obtain ⟨failure, rfl⟩ := hstop.error_of_open hin hfailed
          cases hok
      | registered hend hfault =>
          rw [Cluster.holding_registered hend] at ht
          obtain rfl := Option.some.inj ht
          rfl

/-- Of a transaction that is registered without a record, all work on the
catalog in its block was done by executing prepared statements. -/
theorem unrecorded_work_was_prepared (topology : Topology) (timestamp : String)
    {before later : List Move}
    (hcall : call.Dispatches config i
      (.reached topology timestamp before) other d)
    (hruns : other.RunsHandler config i d)
    (hddl : (d.perform (classify other.statement)).1 = .ok .ddl)
    (hblock : d.SameBlock (.reached topology timestamp
      (before ++ .dispatch config i call :: later)))
    (hm : m.Prepares gid (.reached topology timestamp
      (before ++ .dispatch config i call :: later)))
    (hok : (Cluster.reached topology timestamp
      (before ++ .dispatch config i call :: later)).outcome m = .ok ())
    {t : PreparedTransaction}
    (ht : ((Cluster.reached topology timestamp
      (before ++ .dispatch config i call :: later)).step m).lookup gid
        = some t)
    (hrecord : t.coordinatorRecord = false) :
    ∃ name, other.statement.logTarget = .prepared name := by
  refine Classical.byContradiction fun hnone => ?_
  have halone : other.statement.levelAlone = .ddl :=
    levelAlone_of_classify hddl fun name heq => hnone ⟨name, heq⟩
  have hunmarked := record_eq_touchedCatalog hm hblock.1 hok ht
  rw [hrecord] at hunmarked
  have hreached : Cluster.reached topology timestamp
      (before ++ .dispatch config i call :: later)
      = (Cluster.reached topology timestamp before).after
        (.dispatch config i call :: later) :=
    Cluster.after_append ..
  rw [hreached] at hblock hunmarked
  have hmarked := marked_of_runsHandler hcall hruns halone hblock
  rw [← hunmarked] at hmarked
  cases hmarked

/-- A client gives a statement to a coordinator that supports all
statements. -/
def permitted (s : Statement) : Call :=
  ⟨s, s.tag, .topLevel .coordinator, true, false⟩

/-- A CREATE VIEW is prepared, and a block is opened. -/
def preparedView : List Move :=
  [.dispatch .permissive .none
    (permitted (.prepare "p" (.createView ⟨none, "v"⟩ false))),
   .client (.begin [])]

/-- The prepared statement is executed. -/
def executedView : Call := permitted (.execute "p" none [])

/-- A view that EXECUTE creates does not mark the block, and the transaction is
registered without a record. -/
theorem unrecorded_work_was_prepared_executedView :
    executedView.RunsHandler .permissive .none
        (.reached .standard "" preparedView) ∧
      ((Cluster.reached .standard "" preparedView).perform
        (classify executedView.statement)).1 = .ok .ddl ∧
      ((Cluster.reached .standard ""
          (preparedView ++ [.dispatch .permissive .none executedView])).step
          (.client (.prepare "g"))).lookup "g"
        = some (.undecided "g" [] false) ∧
      ∃ name, executedView.statement.logTarget = .prepared name := by
  have hcall : executedView.Dispatches .permissive .none
      (.reached .standard "" preparedView) executedView
      (.reached .standard "" preparedView) := by
    refine ⟨.done, ?_⟩
    rw [Program.bind_done]
    exact .here
  have hruns : executedView.RunsHandler .permissive .none
      (.reached .standard "" preparedView) :=
    ⟨⟨.execute executedView.statement executedView.text, .ok ⟨[], none⟩⟩,
      .tail _ (.tail _ (.head _)), rfl, rfl⟩
  have hddl : ((Cluster.reached .standard "" preparedView).perform
      (classify executedView.statement)).1 = .ok .ddl := rfl
  have hblock : (Cluster.reached .standard "" preparedView).SameBlock
      (.reached .standard ""
        (preparedView ++ [.dispatch .permissive .none executedView])) :=
    ⟨rfl, by decide⟩
  have hm : (Move.client (.prepare "g")).Prepares "g"
      (.reached .standard ""
        (preparedView ++ [.dispatch .permissive .none executedView])) :=
    ⟨⟨rfl, rfl⟩, ⟨rfl, by decide, rfl⟩, rfl⟩
  have ht : ((Cluster.reached .standard ""
      (preparedView ++ [.dispatch .permissive .none executedView])).step
      (.client (.prepare "g"))).lookup "g"
        = some (.undecided "g" [] false) := rfl
  refine ⟨hruns, hddl, ht, ?_⟩
  exact unrecorded_work_was_prepared .standard "" hcall hruns hddl hblock hm
    rfl ht rfl

end ClusterUtility
