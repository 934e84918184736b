/-
What a move makes of what is held of a transaction.

Of all moves, only the commands that name a transaction touch its holding,
and only where they are let through. `Moved` lists how: a client's PREPARE
TRANSACTION and its finishes act as `Holding.Prepared` and `Holding.Finished`
say, and the commands that a coordinator routes here deal with the local
record alone. Every invariant over runs is a case analysis on it, and
`holding_after` carries it along a run.
-/
import ClusterUtility.Proofs.Cluster.Run
import ClusterUtility.Proofs.Transaction.Concern
import ClusterUtility.Proofs.Transaction.Finish
import ClusterUtility.Proofs.Transaction.Prepare

namespace ClusterUtility

variable {c : Cluster} {m : Move} {gid : Gid}

/-- What a move can make of the holding of a transaction. -/
inductive Moved (gid : Gid) (c : Cluster) (m : Move) : Holding → Prop
  /-- Nothing. -/
  | kept : Moved gid c m (c.holding gid)
  /-- A client prepared the transaction, or failed to. -/
  | prepared {h : Holding} (hm : m.Prepares gid c)
      (heffect :
        Holding.Prepared gid c.faults.registryDown (c.holding gid) h) :
      Moved gid c m h
  /-- The local node prepared its branch for a coordinator. -/
  | recorded (hm : m.Issues (.prepare gid) false) :
      Moved gid c m ((c.holding gid).recordIf true)
  /-- A client finished the transaction, or failed to. -/
  | finished {commit : Bool} {h : Holding}
      (hm : m.Issues (.finish gid commit) true)
      (heffect : Holding.Finished gid commit (c.blocked commit)
        (c.holding gid) (c.outcome m) h) :
      Moved gid c m h
  /-- The local node finished its branch for a coordinator. -/
  | unrecorded {commit : Bool} (hm : m.Finishes gid commit false c) :
      Moved gid c m ((c.holding gid).unrecord gid commit)

-- ====================================================== the commands

variable {config : Configuration} {i : Interceptor} {call : Call}
  {commit : Bool}

/-- The dispatch of a PREPARE TRANSACTION that is let through does to the
cluster what the command does. -/
theorem step_prepare (hs : call.statement = .transaction (.prepare gid))
    (hpass : call.Passes config i c) :
    c.step (.dispatch config i call)
      = (c.perform (prepareTransaction gid call.context)).2 :=
  (Prod.mk.inj (perform_dispatch_command hs hpass)).2

/-- A PREPARE TRANSACTION that is let through is the command, as a client has
it or as a coordinator routed it. -/
theorem enact_preparation {fromClient : Bool}
    (hm : m.Issues (.prepare gid) fromClient) (hpass : m.Passes c) :
    let command := if fromClient then prepareFromClient gid
      else prepareFromCoordinator gid
    c.enact m = ((c.perform command).1.map fun _ => (),
      (c.perform command).2) := by
  cases m with
  | dispatch config i call =>
      obtain ⟨hs, rfl⟩ := hm
      exact perform_dispatch_command hs hpass
  | _ => exact False.elim hm

/-- A client's PREPARE TRANSACTION that is let through is the command. -/
theorem enact_prepare (hm : m.Issues (.prepare gid) true)
    (hpass : m.Passes c) :
    c.enact m
      = ((c.perform (prepareFromClient gid)).1.map fun _ => (),
         (c.perform (prepareFromClient gid)).2) :=
  enact_preparation hm hpass

/-- A client's PREPARE TRANSACTION has one of the effects of a prepare. -/
theorem prepared_step (hm : m.Prepares gid c) :
    Holding.Prepared gid c.faults.registryDown (c.holding gid)
      ((c.step m).holding gid) := by
  unfold Cluster.step
  rw [enact_prepare hm.1 hm.2.1]
  exact Cluster.prepared_prepareFromClient hm.2.2

/-- How it ends where the block is not failed. -/
theorem prepareEnds_step (hm : m.Prepares gid c)
    (hopen : (c.session.inBlock && c.session.failed) = false) :
    ∃ result, c.outcome m = result.map (fun _ => ()) ∧
      Cluster.PrepareEnds gid c result (c.step m) := by
  obtain ⟨result, w, hperform, hends⟩ := Cluster.prepareEnds hm.2.2 hopen
  unfold Cluster.outcome Cluster.step
  rw [enact_prepare hm.1 hm.2.1, hperform]
  exact ⟨result, rfl, hends⟩

/-- The dispatch of a PREPARE TRANSACTION that is let through is listed. -/
private theorem moved_prepare
    (hs : call.statement = .transaction (.prepare gid))
    (hpass : call.Passes config i c) :
    Moved gid c (.dispatch config i call)
      ((c.step (.dispatch config i call)).holding gid) := by
  cases hfacing : call.context.isClientFacing with
  | true =>
      cases hlookup : c.lookup gid with
      | none =>
          have hm : (Move.dispatch config i call).Prepares gid c :=
            ⟨⟨hs, hfacing⟩, hpass, hlookup⟩
          exact .prepared hm (prepared_step hm)
      | some t =>
          rw [step_prepare hs hpass, prepareTransaction, if_pos hfacing,
            Cluster.perform_prepareFromClient_known hlookup]
          exact .kept
  | false =>
      rw [step_prepare hs hpass, prepareTransaction,
        if_neg (by simp [hfacing]), prepareFromCoordinator, Program.bind_eq,
        Cluster.perform_request_bind]
      simp only [Cluster.answer]
      by_cases hok : (c.prepareBlock gid).1 = .ok true
      · have hd : (c.prepareBlock gid).2 = c.writeRecord gid :=
          (Cluster.prepareBlock_eq_ok_true (Prod.ext hok rfl)).1
        have hrecord : (c.prepareBlock gid).2.holding gid
            = (c.holding gid).recordIf true := by
          rw [hd, Cluster.holding_writeRecord]
          rfl
        have hrecorded : Moved gid c (.dispatch config i call)
            ((c.prepareBlock gid).2.holding gid) := by
          rw [hrecord]
          exact .recorded ⟨hs, hfacing⟩
        rw [hok]
        exact hrecorded
      · have hkept : Moved gid c (.dispatch config i call)
            ((c.prepareBlock gid).2.holding gid) := by
          rw [Cluster.holding_prepareBlock hok gid]
          exact .kept
        cases hreply : (c.prepareBlock gid).1 with
        | error failure => exact hkept
        | ok prepared =>
            cases prepared with
            | true => exact absurd hreply hok
            | false => exact hkept

/-- The dispatch of a finish that is let through is the finish. -/
theorem perform_dispatch_finish
    (hs : call.statement = .transaction (.finish gid commit))
    (hpass : call.Passes config i c) :
    c.perform (dispatch config i call)
      = c.perform (finishPrepared gid commit call.context) := by
  have hrun : TransactionCommand.run call.context (.finish gid commit)
      = Program.bind (finishPrepared gid commit call.context) fun _ =>
        .done none := by
    cases commit <;> rfl
  rw [perform_dispatch_command hs hpass, hrun]
  cases hfinish : c.perform (finishPrepared gid commit call.context) with
  | mk result d =>
      cases result with
      | ok _ =>
          rw [Cluster.perform_bind_of_ok hfinish]
          rfl
      | error failure =>
          rw [Cluster.perform_bind_of_error hfinish]
          rfl

-- =============================================== finishes from clients

/-- A command that ends well was let through. -/
theorem passes_of_ok {command : TransactionCommand} {fromClient : Bool}
    (hm : m.Issues command fromClient) (hok : c.outcome m = .ok ()) :
    m.Passes c := by
  cases m with
  | dispatch config i call =>
      by_cases hpass : call.Passes config i c
      · exact hpass
      · obtain ⟨failure, hrefused⟩ := perform_dispatch_refused fun _ _ => hpass
        have hfailed : c.outcome (.dispatch config i call) = .error failure :=
          congrArg Prod.fst hrefused
        rw [hfailed] at hok
        cases hok
  | _ => exact False.elim hm

/-- A client's finish that is let through is the finish. -/
theorem enact_finish (hm : m.Issues (.finish gid commit) true)
    (hpass : m.Passes c) :
    c.enact m = c.perform (finishFromClient gid commit) := by
  cases m with
  | dispatch config i call =>
      have hfinish := perform_dispatch_finish hm.1 hpass
      rwa [finishPrepared, if_pos hm.2] at hfinish
  | _ => exact False.elim hm

/-- A client's finish that is let through has one of the effects of a
finish. -/
theorem finished_step (hm : m.Issues (.finish gid commit) true)
    (hpass : m.Passes c) :
    Holding.Finished gid commit (c.blocked commit) (c.holding gid)
      (c.outcome m) ((c.step m).holding gid) := by
  have henact := enact_finish hm hpass
  unfold Cluster.outcome Cluster.step
  rw [henact]
  exact Cluster.finished_finishFromClient c gid commit

/-- A finish of what does not wait does nothing. -/
theorem enact_unknown (hm : m.Issues (.finish gid commit) true)
    (hpass : m.Passes c) (hlookup : c.lookup gid = none) :
    c.enact m = (.error (.unknownTransaction gid), c) := by
  rw [enact_finish hm hpass]
  exact Cluster.perform_finishFromClient_unknown hlookup commit

/-- A finish that the outcome does not allow does nothing. -/
theorem enact_conflict {t : PreparedTransaction}
    (hm : m.Issues (.finish gid commit) true) (hpass : m.Passes c)
    (hlookup : c.lookup gid = some t)
    (hbound : t.outcome.allows commit = false) :
    c.enact m = (.error (.outcomeConflict gid t.outcome), c) := by
  rw [enact_finish hm hpass]
  exact Cluster.perform_finishFromClient_conflict hlookup hbound

-- ====================================================== all moves

/-- The dispatch of a finish that is let through is listed. -/
private theorem moved_finish (commit : Bool)
    (hs : call.statement = .transaction (.finish gid commit))
    (hpass : call.Passes config i c) :
    Moved gid c (.dispatch config i call)
      ((c.step (.dispatch config i call)).holding gid) := by
  cases hfacing : call.context.isClientFacing with
  | true =>
      have hissues :
          (Move.dispatch config i call).Issues (.finish gid commit) true :=
        ⟨hs, hfacing⟩
      exact .finished hissues (finished_step hissues hpass)
  | false =>
      have henact : c.enact (.dispatch config i call)
          = c.finishLocal gid commit := by
        have hfinish := perform_dispatch_finish hs hpass
        rw [finishPrepared, if_neg (by simp [hfacing])] at hfinish
        show c.perform (dispatch config i call) = _
        rw [hfinish, Program.bind_eq, Cluster.perform_request_bind]
        simp only [Cluster.answer, Cluster.finishLocal_eq]
        split <;> rfl
      have hstep : c.step (.dispatch config i call)
          = (c.finishLocal gid commit).2 :=
        congrArg Prod.snd henact
      have houtcome : c.outcome (.dispatch config i call)
          = (c.finishLocal gid commit).1 :=
        congrArg Prod.fst henact
      rw [Cluster.finishLocal_eq] at hstep houtcome
      rw [hstep]
      by_cases hin : gid ∈ c.localRecords
      · rw [if_pos hin] at houtcome ⊢
        rw [Cluster.holding_unrecord]
        exact .unrecorded ⟨⟨hs, hfacing⟩, houtcome⟩
      · rw [if_neg hin]
        exact .kept

/-- A move that is not about a transaction, or that is refused, leaves its
holding alone; all others are listed. -/
theorem moved_step (c : Cluster) (m : Move) (gid : Gid) :
    Moved gid c m ((c.step m).holding gid) := by
  cases m with
  | dispatch config i call =>
      by_cases hnames : ∃ command, call.statement = .transaction command ∧
          command.gid? = some gid
      · obtain ⟨command, hs, hgid⟩ := hnames
        by_cases hpass : call.Passes config i c
        · cases command with
          | prepare g =>
              obtain rfl : g = gid := Option.some.inj hgid
              exact moved_prepare hs hpass
          | commitPrepared g =>
              obtain rfl : g = gid := Option.some.inj hgid
              exact moved_finish true hs hpass
          | rollbackPrepared g =>
              obtain rfl : g = gid := Option.some.inj hgid
              exact moved_finish false hs hpass
          | _ => cases hgid
        · obtain ⟨failure, hrefused⟩ :=
            perform_dispatch_refused fun _ _ => hpass
          have hkept : c.step (.dispatch config i call) = c :=
            congrArg Prod.snd hrefused
          rw [hkept]
          exact .kept
      · have hkept : (c.step (.dispatch config i call)).holding gid
            = c.holding gid :=
          holding_dispatch_of_ne
            (fun command hs hgid => hnames ⟨command, hs, hgid⟩) config i c
        rw [hkept]
        exact .kept
  | touch nodes => exact .kept
  | restart => exact .kept
  | setFaults faults => exact .kept
  | setRelation name kind => exact .kept
  | setExpansion kind statements => exact .kept
  | setRowCount kind rows => exact .kept
  | passTime timestamp => exact .kept

/-- What all moves of a run keep of a holding holds after them. -/
theorem holding_after {P : Cluster → Move → Prop} {J : Holding → Prop}
    {moves : List Move}
    (hkeeps : ∀ {d : Cluster} {m : Move} {h : Holding},
      J (d.holding gid) → P d m → Moved gid d m h → J h)
    (hc : J (c.holding gid)) (hmoves : c.Always P moves) :
    J ((c.after moves).holding gid) :=
  Cluster.after_induction (I := fun d => J (d.holding gid))
    (fun d m hj hm => hkeeps hj hm (moved_step d m gid)) hc hmoves

end ClusterUtility
