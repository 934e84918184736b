/-
The dialogues of PREPARE TRANSACTION, whatever the world answers.

The facts about clusters speak of one world. Here the participants, the local
node and the registry may answer anything, and the command is known by the
exchanges that it makes.

# The courses

`Course` lists every dialogue that the command can have, with its result. The
command finds the identifier in use, or the block failed; or it asks for the
participants, and then it stops somewhere (`Stops`) and undoes what it did
(`Undoes`), or it is registered. That it keeps to these is shown part by part
of the program (`course_prepareFromClient`).
-/
import ClusterUtility.Proofs.Program.Exchange
import ClusterUtility.Transaction.TwoPhase

namespace ClusterUtility

open Program (Ensures ofReply request)

-- =================================================== reading exchanges

namespace Exchange

/-- The local side is ended, with a record or without one. -/
def localEnd (gid : Gid) (record : Bool) (reply : Except Failure Bool) :
    Exchange :=
  if record then ⟨.prepareBlock gid, reply⟩ else ⟨.endBlock, reply⟩

/-- The node that acknowledged that its branch is prepared. -/
def acknowledged? (gid : Gid) : Exchange → Option Node
  | ⟨.prepareBranch node g, reply⟩ =>
      if g = gid ∧ reply.isOk then some node else none
  | _ => none

/-- The node that did not roll its branch back. -/
def stuck? (gid : Gid) : Exchange → Option Node
  | ⟨.finishBranch node g false, reply⟩ =>
      if g = gid ∧ !reply.isOk then some node else none
  | _ => none

/-- What the command reports when this is the exchange that stops it. -/
def verdict (gid : Gid) : Exchange → Except Failure TagOverride
  | ⟨.prepareBranch _ _, .error failure⟩ =>
      .error (.prepareFailed gid failure.node failure.message)
  | ⟨.prepareBlock _, reply⟩ => reply.map fun _ => rolledBackTag
  | ⟨.endBlock, reply⟩ => reply.map fun _ => rolledBackTag
  | ⟨.register _, reply⟩ => reply.map fun _ => none
  | _ => .ok none

end Exchange

/-- The nodes that acknowledged their branches, in order. -/
def acknowledged (gid : Gid) (log : List Exchange) : List Node :=
  log.filterMap (Exchange.acknowledged? gid)

/-- The nodes that did not roll their branches back, in order. -/
def stuck (gid : Gid) (log : List Exchange) : List Node :=
  log.filterMap (Exchange.stuck? gid)

/-- A request by which a prepare is undone. -/
def Request.Undoes : Request → Prop
  | .finishBranch _ _ commit => commit = false
  | .finishLocal _ commit => commit = false
  | .register t => t.outcome = .rollback
  | .abortBranches => True
  | .abortBlock => True
  | _ => False

/-- What is offered to the registry of the nodes that did not roll back. -/
def offered (gid : Gid) (nodes : List Node) : List Request :=
  if nodes.isEmpty then [] else [.register (.rollbackOnly gid nodes)]

-- ====================================================== undoing

/-- Branches are rolled back, each once and in order; those that stay are
offered to the registry, all at once; the rest of the transaction is
aborted. -/
def Undoes (gid : Gid) (nodes : List Node) (log : List Exchange) : Prop :=
  ∃ rollbacks offer close, log = rollbacks ++ offer ++ close ∧
    rollbacks.map (·.request) = nodes.map (.finishBranch · gid false) ∧
    offer.map (·.request) = offered gid (stuck gid rollbacks) ∧
    close.map (·.request) = [.abortBranches, .abortBlock]

section undoing

variable {gid : Gid} {nodes : List Node} {log : List Exchange}

/-- Every request of an undoing undoes. -/
theorem Undoes.undoes (h : Undoes gid nodes log) :
    ∀ x ∈ log, x.request.Undoes := by
  obtain ⟨rollbacks, offer, close, rfl, hrollbacks, hoffer, hclose⟩ := h
  intro x hx
  have hrequest : x.request ∈ (rollbacks ++ offer ++ close).map (·.request) :=
    List.mem_map_of_mem hx
  rw [List.map_append, List.map_append, hrollbacks, hoffer, hclose] at hrequest
  unfold offered at hrequest
  rcases List.mem_append.mp hrequest with hrequest | hrequest
  · rcases List.mem_append.mp hrequest with hrequest | hrequest
    · obtain ⟨node, _, heq⟩ := List.mem_map.mp hrequest
      rw [← heq]
      rfl
    · split at hrequest
      · cases hrequest
      · rw [List.mem_singleton.mp hrequest]
        rfl
  · rcases List.mem_cons.mp hrequest with heq | hrequest
    · rw [heq]
      trivial
    · rw [List.mem_singleton.mp hrequest]
      trivial

/-- A node that rolled back is not stuck. -/
private theorem stuck_rolledBack {node : Node} :
    stuck gid (⟨.finishBranch node gid false, .ok ()⟩ :: log)
      = stuck gid log := by
  have hnone : Exchange.stuck? gid ⟨.finishBranch node gid false, .ok ()⟩
      = none :=
    if_neg (by simp [Except.isOk, Except.toBool])
  exact List.filterMap_cons_none hnone

/-- A node that did not roll back is stuck. -/
private theorem stuck_notRolledBack {node : Node}
    {failure : TransportFailure} :
    stuck gid (⟨.finishBranch node gid false, .error failure⟩ :: log)
      = node :: stuck gid log := by
  have hsome : Exchange.stuck? gid
      ⟨.finishBranch node gid false, .error failure⟩ = some node :=
    if_pos ⟨rfl, rfl⟩
  exact List.filterMap_cons_some hsome

/-- Rolling back asks every branch once and in order, and gives those that are
stuck. -/
private theorem ensures_rollBackBranches (gid : Gid) (nodes : List Node) :
    (rollBackBranches gid nodes).Ensures fun log result =>
      log.map (·.request) = nodes.map (.finishBranch · gid false) ∧
        result = .ok (stuck gid log) := by
  induction nodes with
  | nil => exact ⟨rfl, rfl⟩
  | cons node rest ih =>
      refine Ensures.request_bind fun reply => ih.bind ?_ ?_
      · rintro log inDoubt ⟨hrequests, hstuck⟩
        obtain rfl := Except.ok.inj hstuck
        have hrequests' (reply : Except TransportFailure Unit) :
            (⟨.finishBranch node gid false, reply⟩ :: (log ++ [])).map
                (·.request)
              = (node :: rest).map (.finishBranch · gid false) := by
          rw [List.append_nil]
          exact congrArg (Request.finishBranch node gid false :: ·) hrequests
        cases reply with
        | ok _ =>
            exact ⟨hrequests' _, by rw [List.append_nil, stuck_rolledBack]⟩
        | error failure =>
            exact ⟨hrequests' _, by rw [List.append_nil, stuck_notRolledBack]⟩
      · rintro log failure ⟨_, hstuck⟩
        cases hstuck

/-- Undoing a prepare undoes it, and never fails. -/
private theorem ensures_undoPrepare (gid : Gid) (nodes : List Node) :
    (undoPrepare gid nodes).Ensures fun log result =>
      Undoes gid nodes log ∧ result = .ok () := by
  refine (ensures_rollBackBranches gid nodes).bind ?_ ?_
  · rintro rollbacks inDoubt ⟨hrollbacks, hstuck⟩
    obtain rfl := Except.ok.inj hstuck
    dsimp only
    cases hall : (stuck gid rollbacks).isEmpty with
    | true =>
        intro reply reply'
        have hoffer : offered gid (stuck gid rollbacks) = [] := if_pos hall
        refine ⟨⟨rollbacks, [],
          [⟨.abortBranches, reply⟩, ⟨.abortBlock, reply'⟩], ?_, hrollbacks,
          hoffer.symm, rfl⟩, rfl⟩
        rw [List.append_nil]
    | false =>
        intro answer reply reply'
        have hoffer : offered gid (stuck gid rollbacks)
            = [.register (.rollbackOnly gid (stuck gid rollbacks))] :=
          if_neg (by simp [hall])
        refine ⟨⟨rollbacks, [⟨.register _, answer⟩],
          [⟨.abortBranches, reply⟩, ⟨.abortBlock, reply'⟩], ?_, hrollbacks,
          hoffer.symm, rfl⟩, rfl⟩
        rw [List.append_assoc]
        rfl
  · rintro log failure ⟨_, hstuck⟩
    cases hstuck

/-- What is reported after the undoing does not hang on what it meets. -/
theorem ensures_undo_report {α : Type}
    {Q : List Exchange → Except Failure α → Prop} (report : Except Failure α)
    (h : ∀ undo, Undoes gid nodes undo → Q undo report) :
    (Program.bind (undoPrepare gid nodes) fun _ =>
      ofReply report).Ensures Q := by
  refine (ensures_undoPrepare gid nodes).bind ?_ ?_
  · rintro undo _ ⟨hundo, _⟩
    have hreport := h undo hundo
    rw [← List.append_nil undo] at hreport
    cases report <;> exact hreport
  · rintro undo f ⟨_, hfailed⟩
    cases hfailed

end undoing

-- ====================================================== the courses

section courses

variable {gid : Gid} {nodes : List Node} {log : List Exchange}

/-- Nodes prepare their branches, one after another. -/
def acknowledgements (gid : Gid) (nodes : List Node) : List Exchange :=
  nodes.map fun node => ⟨.prepareBranch node gid, .ok ()⟩

/-- The participants are known, and some have prepared their branches. -/
def begun (gid : Gid) (nodes done : List Node) : List Exchange :=
  [⟨.lookup gid, none⟩, ⟨.inFailedBlock, false⟩, ⟨.participants, nodes⟩]
    ++ acknowledgements gid done

/-- All participants have prepared, and the local side has ended well. -/
def ended (gid : Gid) (nodes : List Node) (record : Bool) : List Exchange :=
  begun gid nodes nodes
    ++ [⟨.touchedCatalog, record⟩, .localEnd gid record (.ok true)]

/-- The exchange that stops the command, with all that was said before it; with
the nodes that have prepared their branches by then, and whether the local node
has written a record. -/
inductive Stops (gid : Gid) (nodes : List Node) :
    List Exchange → Exchange → List Node → Bool → Prop
  | refused {done rest : List Node} {node : Node} (failure : TransportFailure)
      (hsplit : nodes = done ++ node :: rest) :
      Stops gid nodes (begun gid nodes done)
        ⟨.prepareBranch node gid, .error failure⟩ done false
  | unended (record : Bool) {reply : Except Failure Bool}
      (hreply : reply ≠ .ok true) :
      Stops gid nodes
        (begun gid nodes nodes ++ [⟨.touchedCatalog, record⟩])
        (.localEnd gid record reply) nodes false
  | unregistered (record : Bool) (failure : Failure) :
      Stops gid nodes (ended gid nodes record)
        ⟨.register (.undecided gid nodes record), .error failure⟩ nodes record

/-- The dialogues of PREPARE TRANSACTION from a client, and how they end. -/
inductive Course (gid : Gid) :
    List Exchange → Except Failure TagOverride → Prop
  | inUse (t : PreparedTransaction) :
      Course gid [⟨.lookup gid, some t⟩] (.error (.transactionInUse gid))
  | failedBlock (reply : Except TransportFailure Unit)
      (ended : Except Failure Bool) :
      Course gid
        [⟨.lookup gid, none⟩, ⟨.inFailedBlock, true⟩, ⟨.abortBranches, reply⟩,
          ⟨.prepareBlock gid, ended⟩]
        (ended.map fun _ => rolledBackTag)
  | stopped {nodes done : List Node} {start unrecord undo : List Exchange}
      {last : Exchange} {record : Bool}
      (hstop : Stops gid nodes start last done record)
      (hunrecord : unrecord.map (·.request)
        = if record then [.finishLocal gid false] else [])
      (hundo : Undoes gid done undo) :
      Course gid (start ++ last :: (unrecord ++ undo)) (last.verdict gid)
  | registered (nodes : List Node) (record : Bool) :
      Course gid (ended gid nodes record
        ++ [⟨.register (.undecided gid nodes record), .ok ()⟩]) (.ok none)

theorem ended_append (gid : Gid) (nodes : List Node) (record : Bool)
    (rest : List Exchange) :
    ended gid nodes record ++ rest
      = begun gid nodes nodes
        ++ ⟨.touchedCatalog, record⟩ :: .localEnd gid record (.ok true)
        :: rest :=
  List.append_assoc ..

/-- All nodes prepare, or the first that does not makes the prepare of the
others undone. -/
private theorem ensures_prepareBranches (gid : Gid)
    (prepared nodes : List Node) :
    (prepareBranches gid prepared nodes).Ensures fun log result =>
      log = acknowledgements gid nodes ∧ result = .ok () ∨
        ∃ done node rest failure undo,
          nodes = done ++ node :: rest ∧
          log = acknowledgements gid done
            ++ ⟨.prepareBranch node gid, .error failure⟩ :: undo ∧
          Undoes gid (prepared ++ done) undo ∧
          result
            = .error (.prepareFailed gid failure.node failure.message) := by
  induction nodes generalizing prepared with
  | nil => exact .inl ⟨rfl, rfl⟩
  | cons node rest ih =>
      refine Ensures.request_bind fun reply => ?_
      cases reply with
      | ok _ =>
          refine (ih (prepared ++ [node])).imp fun log result h => ?_
          rcases h with ⟨rfl, rfl⟩ | hstopped
          · exact .inl ⟨rfl, rfl⟩
          · obtain ⟨done, other, left, failure, undo, rfl, rfl, hundo, rfl⟩ :=
              hstopped
            rw [List.append_assoc] at hundo
            exact .inr
              ⟨node :: done, other, left, failure, undo, rfl, rfl, hundo, rfl⟩
      | error failure =>
          refine ensures_undo_report
            (.error (.prepareFailed gid failure.node failure.message))
            fun undo hundo => ?_
          rw [← List.append_nil prepared] at hundo
          exact .inr ⟨[], node, rest, failure, undo, rfl, rfl, hundo, rfl⟩

/-- Ending the local side is one exchange, whose reply is given. -/
private theorem ensures_endLocalSide (gid : Gid) (record : Bool) :
    (endLocalSide gid record).Ensures fun log result =>
      ∃ reply, log = [.localEnd gid record reply] ∧ result = .ok reply := by
  cases record <;> exact fun reply => ⟨reply, rfl, rfl⟩

/-- Where no record was written, none is taken back. -/
private theorem unrecord_nil :
    ([] : List Exchange).map (·.request)
      = if false then [.finishLocal gid false] else [] :=
  rfl

/-- A prepare whose local side does not end well keeps to the courses. -/
private theorem course_unended (gid : Gid) (nodes : List Node) (record : Bool)
    {reply : Except Failure Bool} (hreply : reply ≠ .ok true) :
    (Program.bind (undoPrepare gid nodes) fun _ =>
      ofReply (reply.map fun _ => rolledBackTag)).Ensures fun log result =>
        Course gid
          (begun gid nodes nodes
            ++ ⟨.touchedCatalog, record⟩ :: .localEnd gid record reply :: log)
          result := by
  refine ensures_undo_report (reply.map fun _ => rolledBackTag)
    fun undo hundo => ?_
  have hcourse := Course.stopped (.unended record hreply) unrecord_nil hundo
  rw [List.append_assoc] at hcourse
  cases record <;> exact hcourse

/-- A prepare that comes to the registration keeps to the courses. -/
private theorem course_registerPrepared (gid : Gid) (nodes : List Node)
    (record : Bool) :
    (registerPrepared gid nodes record).Ensures fun log result =>
      Course gid
        (begun gid nodes nodes
          ++ ⟨.touchedCatalog, record⟩ :: .localEnd gid record (.ok true)
          :: log)
        result := by
  refine Ensures.request_bind fun reply => ?_
  cases reply with
  | ok _ =>
      have hcourse : Course gid _ _ := .registered nodes record
      rwa [ended_append] at hcourse
  | error failure =>
      -- the record, if there is one, goes before the branches
      have hrefused {unrecord undo : List Exchange}
          (hundo : Undoes gid nodes undo)
          (hunrecord : unrecord.map (·.request)
            = if record then [.finishLocal gid false] else []) :
          Course gid
            (begun gid nodes nodes
              ++ ⟨.touchedCatalog, record⟩ :: .localEnd gid record (.ok true)
              :: ⟨.register (.undecided gid nodes record), .error failure⟩
              :: (unrecord ++ undo))
            (.error failure) := by
        have hcourse :=
          Course.stopped (.unregistered record failure) hunrecord hundo
        rwa [ended_append] at hcourse
      cases record with
      | true =>
          intro answer
          have hunrecord :
              [(⟨.finishLocal gid false, answer⟩ : Exchange)].map (·.request)
                = [.finishLocal gid false] := rfl
          exact ensures_undo_report (.error failure) fun undo hundo =>
            hrefused hundo hunrecord
      | false =>
          exact ensures_undo_report (.error failure) fun undo hundo =>
            hrefused hundo unrecord_nil

/-- The command keeps to the courses. -/
theorem course_prepareFromClient (gid : Gid) :
    (prepareFromClient gid).Ensures (Course gid) := by
  refine Ensures.request_bind fun known => ?_
  cases known with
  | some t => exact .inUse t
  | none =>
      refine Ensures.request_bind fun failed => ?_
      cases failed with
      | true =>
          refine Ensures.request_bind fun reply =>
            Ensures.request_bind fun ended => ?_
          cases ended <;> exact .failedBlock reply _
      | false =>
          refine Ensures.request_bind fun nodes =>
            (ensures_prepareBranches gid [] nodes).bind ?_ ?_
          · rintro acks _ (⟨rfl, _⟩ | ⟨_, _, _, _, _, _, _, _, hfailed⟩)
            · refine Ensures.request_bind fun record =>
                (ensures_endLocalSide gid record).bind ?_ ?_
              · rintro _ reply ⟨_, rfl, hreply⟩
                obtain rfl := Except.ok.inj hreply
                match reply with
                | .ok true => exact course_registerPrepared gid nodes record
                | .ok false =>
                    have hended : (Except.ok false : Except Failure Bool)
                        ≠ .ok true := by simp
                    exact course_unended gid nodes record hended
                | .error failure =>
                    have hended : (Except.error failure : Except Failure Bool)
                        ≠ .ok true := by simp
                    exact course_unended gid nodes record hended
              · rintro _ failure ⟨reply, _, hreply⟩
                cases hreply
            · cases hfailed
          · rintro _ failure (⟨_, hok⟩ | hstopped)
            · cases hok
            · obtain ⟨done, node, rest, f, undo, rfl, rfl, hundo, hfailed⟩ :=
                hstopped
              obtain rfl := Except.error.inj hfailed
              have hstop : Stops gid (done ++ node :: rest) _ _ _ _ :=
                .refused f rfl
              exact Course.stopped hstop unrecord_nil hundo

end courses

end ClusterUtility
