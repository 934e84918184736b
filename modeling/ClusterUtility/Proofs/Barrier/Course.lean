/-
The dialogues of a barrier, whatever the world answers.

A barrier speaks with one node at a time, and each loop over nodes either
comes to the end of its list or stops at the first node that does not
acknowledge. `Walk` is that loop. What a barrier says is then in four parts:
the walks of its first two phases, what comes of the record on the local node,
and the messages by which coordinators go on. `Course` lists which parts go
together and how the barrier ends.

# Reading a dialogue

`heard` gives the nodes that a phase has sent a message to, in order, each
with whether it acknowledged. The parts of a course are of one phase each, so
what is heard of a phase in the whole is what is heard of it in its part.
-/
import ClusterUtility.Proofs.Program.Exchange
import ClusterUtility.Transaction.Barrier

namespace ClusterUtility.Barrier

open Program (Ensures request)

-- ====================================================== messages

/-- A phase of a barrier: the coordinators stop, the nodes write the barrier,
the coordinators go on. -/
inductive Phase where
  | prepare
  | execute
  | finish
deriving DecidableEq, Repr

/-- The message of a phase to a node, with its reply. -/
def Phase.message (phase : Phase) (id : String) (node : Node)
    (reply : Except TransportFailure Unit) : Exchange :=
  match phase with
  | .prepare => ⟨.prepareBarrier node id, reply⟩
  | .execute => ⟨.executeBarrier node id, reply⟩
  | .finish => ⟨.endBarrier node id, reply⟩

/-- The node that the message of a phase went to, with whether it
acknowledged. -/
def Phase.heard? (phase : Phase) (id : String) :
    Exchange → Option (Node × Bool)
  | ⟨.prepareBarrier node other, reply⟩ =>
      if phase = .prepare ∧ other = id then some (node, reply.isOk) else none
  | ⟨.executeBarrier node other, reply⟩ =>
      if phase = .execute ∧ other = id then some (node, reply.isOk) else none
  | ⟨.endBarrier node other, reply⟩ =>
      if phase = .finish ∧ other = id then some (node, reply.isOk) else none
  | _ => none

/-- The nodes that a phase has sent a message to, in order, each with whether
it acknowledged. -/
def heard (id : String) (phase : Phase) (log : List Exchange) :
    List (Node × Bool) :=
  log.filterMap (phase.heard? id)

/-- The nodes that a phase has sent a message to, in order. -/
def asked (id : String) (phase : Phase) (log : List Exchange) : List Node :=
  (heard id phase log).map (·.1)

/-- The nodes that acknowledged the message of a phase, in order. -/
def acknowledged (id : String) (phase : Phase)
    (log : List Exchange) : List Node :=
  ((heard id phase log).filter (·.2)).map (·.1)

/-- All nodes of a list, each with its acknowledgement. -/
def allAcknowledge (nodes : List Node) : List (Node × Bool) :=
  nodes.map (·, true)

section messages

variable {id : String} {phase other : Phase} {log : List Exchange}

/-- A message is heard in its own phase. -/
@[simp] theorem heard?_message (phase : Phase) (id : String) (node : Node)
    (reply : Except TransportFailure Unit) :
    phase.heard? id (phase.message id node reply)
      = some (node, reply.isOk) := by
  cases phase <;> exact if_pos ⟨rfl, rfl⟩

/-- A message of another phase is not heard. -/
private theorem heard?_message_of_ne {node : Node}
    {reply : Except TransportFailure Unit} (hne : phase ≠ other) :
    phase.heard? id (other.message id node reply) = none := by
  cases other <;> exact if_neg fun h => hne h.1

@[simp] theorem heard_append (id : String) (phase : Phase)
    (before after : List Exchange) :
    heard id phase (before ++ after)
      = heard id phase before ++ heard id phase after :=
  List.filterMap_append

@[simp] theorem heard_message (id : String) (phase : Phase) (node : Node)
    (reply : Except TransportFailure Unit) (log : List Exchange) :
    heard id phase (phase.message id node reply :: log)
      = (node, reply.isOk) :: heard id phase log :=
  List.filterMap_cons_some (heard?_message phase id node reply)

/-- A part of a dialogue is of one phase. -/
def IsOf (phase : Phase) (id : String) (part : List Exchange) : Prop :=
  ∀ x ∈ part, ∃ node reply, x = phase.message id node reply

/-- A part of a dialogue is the record on the local node, or nothing. -/
def IsRecord (id : String) (part : List Exchange) : Prop :=
  ∀ x ∈ part, ∃ reply, x = ⟨.recordBarrier id, reply⟩

/-- In a part of another phase nothing is heard. -/
theorem heard_of_other (phase : Phase) (h : IsOf other id log)
    (hne : phase ≠ other) : heard id phase log = [] := by
  refine List.filterMap_eq_nil_iff.mpr fun x hx => ?_
  obtain ⟨node, reply, rfl⟩ := h x hx
  exact heard?_message_of_ne hne

/-- The record is heard in no phase. -/
theorem heard_record (h : IsRecord id log) (phase : Phase) :
    heard id phase log = [] := by
  refine List.filterMap_eq_nil_iff.mpr fun x hx => ?_
  obtain ⟨reply, rfl⟩ := h x hx
  rfl

theorem allAcknowledge_fst (nodes : List Node) :
    (allAcknowledge nodes).map (·.1) = nodes := by
  rw [allAcknowledge, List.map_map]
  exact List.map_id nodes

/-- Where all acknowledge, the acknowledgers are all. -/
theorem acknowledgers_allAcknowledge (nodes : List Node) :
    ((allAcknowledge nodes).filter (·.2)).map (·.1) = nodes := by
  simp [allAcknowledge, List.filter_map, Function.comp_def]

theorem acknowledged_of_allAcknowledge {nodes : List Node}
    (h : heard id phase log = allAcknowledge nodes) :
    acknowledged id phase log = nodes := by
  rw [acknowledged, h, acknowledgers_allAcknowledge]

end messages

-- ====================================================== walks

/-- A phase goes through nodes in order, up to the first one that does not
acknowledge; with what stops it, if anything does. -/
inductive Walk (phase : Phase) (id : String) :
    List Node → List Exchange → Option TransportFailure → Prop
  | ended : Walk phase id [] [] none
  | next {node : Node} {rest : List Node} {log : List Exchange}
      {stop : Option TransportFailure} (h : Walk phase id rest log stop) :
      Walk phase id (node :: rest) (phase.message id node (.ok ()) :: log) stop
  | refused (node : Node) (rest : List Node) (cause : TransportFailure) :
      Walk phase id (node :: rest)
        [phase.message id node (.error cause)] (some cause)

/-- Coordinators go on, each told once and in order, whatever they reply. -/
inductive Releases (id : String) : List Node → List Exchange → Prop
  | ended : Releases id [] []
  | next {rest : List Node} {log : List Exchange} (node : Node)
      (reply : Except TransportFailure Unit) (h : Releases id rest log) :
      Releases id (node :: rest) (Phase.finish.message id node reply :: log)

section walks

variable {phase : Phase} {id : String} {nodes : List Node}
  {log : List Exchange}

/-- A walk keeps to its phase. -/
theorem Walk.isOf {stop : Option TransportFailure}
    (h : Walk phase id nodes log stop) : IsOf phase id log := by
  induction h with
  | ended => exact List.forall_mem_nil _
  | next h ih => exact List.forall_mem_cons.mpr ⟨⟨_, _, rfl⟩, ih⟩
  | refused node rest cause => exact List.forall_mem_singleton.mpr ⟨_, _, rfl⟩

/-- A walk that nothing stops hears from all of its nodes. -/
theorem Walk.heard_of_ended (h : Walk phase id nodes log none) :
    heard id phase log = allAcknowledge nodes := by
  generalize hstop : (none : Option TransportFailure) = stop at h
  induction h with
  | ended => rfl
  | next h ih =>
      rw [heard_message, ih hstop]
      rfl
  | refused node rest cause => cases hstop

/-- Where a walk is stopped, the node that stops it is the last one that it
spoke to. -/
theorem Walk.heard_of_refused {cause : TransportFailure}
    (h : Walk phase id nodes log (some cause)) :
    ∃ done node rest, nodes = done ++ node :: rest ∧
      heard id phase log = allAcknowledge done ++ [(node, false)] ∧
      log.getLast? = some (phase.message id node (.error cause)) := by
  generalize hstop : some cause = stop at h
  induction h with
  | ended => cases hstop
  | @next first _ left _ h ih =>
      obtain ⟨done, node, rest, rfl, hheard, hlast⟩ := ih hstop
      refine ⟨first :: done, node, rest, rfl, ?_, ?_⟩
      · rw [heard_message, hheard]
        rfl
      · rw [List.getLast?_cons, hlast]
        rfl
  | refused node rest cause =>
      obtain rfl := Option.some.inj hstop
      exact ⟨[], node, rest, rfl, heard_message .., rfl⟩

/-- To let go on is to speak in the last phase. -/
theorem Releases.isOf (h : Releases id nodes log) : IsOf .finish id log := by
  induction h with
  | ended => exact List.forall_mem_nil _
  | next node reply h ih => exact List.forall_mem_cons.mpr ⟨⟨_, _, rfl⟩, ih⟩

/-- All of the nodes are told, in order. -/
theorem Releases.asked (h : Releases id nodes log) :
    asked id .finish log = nodes := by
  induction h with
  | ended => rfl
  | next node reply h ih =>
      rw [Barrier.asked, heard_message, List.map_cons, ← Barrier.asked, ih]

end walks

-- ====================================================== courses

/-- How a barrier ends that a walk was the last part of. -/
def ending (id : String) : Option TransportFailure → Except Failure Unit
  | none => .ok ()
  | some cause => .error (failure id cause)

/-- The dialogues of a barrier in four parts (what was said in the first phase,
in the second one, for the record and to let the coordinators go on), and how
they end. -/
inductive Course (topology : Topology) (id : String) :
    List Exchange → List Exchange → List Exchange → List Exchange →
    Except Failure Unit → Prop
  | unprepared {prepares ends : List Exchange} {cause : TransportFailure}
      (hprepares : Walk .prepare id topology.remoteCoordinators prepares
        (some cause))
      (hends : Releases id (acknowledged id .prepare prepares) ends) :
      Course topology id prepares [] [] ends (.error (failure id cause))
  | unexecuted {prepares executes ends : List Exchange}
      {cause : TransportFailure}
      (hprepares : Walk .prepare id topology.remoteCoordinators prepares none)
      (hexecutes : Walk .execute id (topology.members .all) executes
        (some cause))
      (hends : Releases id topology.remoteCoordinators ends) :
      Course topology id prepares executes [] ends (.error (failure id cause))
  | unrecorded {prepares executes ends : List Exchange} (cause : Failure)
      (hprepares : Walk .prepare id topology.remoteCoordinators prepares none)
      (hexecutes : Walk .execute id (topology.members .all) executes none)
      (hends : Releases id topology.remoteCoordinators ends) :
      Course topology id prepares executes [⟨.recordBarrier id, .error cause⟩]
        ends (.error cause)
  | recorded {prepares executes ends : List Exchange}
      (stop : Option TransportFailure)
      (hprepares : Walk .prepare id topology.remoteCoordinators prepares none)
      (hexecutes : Walk .execute id (topology.members .all) executes none)
      (hends : Walk .finish id topology.remoteCoordinators ends stop) :
      Course topology id prepares executes [⟨.recordBarrier id, .ok ()⟩] ends
        (ending id stop)

/-- A barrier fails since a node did not acknowledge, or since its record could
not be written. -/
theorem Course.error_cases {topology : Topology} {id : String}
    {prepares executes records ends : List Exchange} {f : Failure}
    (h : Course topology id prepares executes records ends (.error f)) :
    (∃ cause, f = failure id cause) ∨
      ⟨.recordBarrier id, .error f⟩ ∈ records := by
  generalize houtcome : (.error f : Except Failure Unit) = outcome at h
  cases h with
  | unprepared hprepares hends => exact .inl ⟨_, Except.error.inj houtcome⟩
  | unexecuted hprepares hexecutes hends =>
      exact .inl ⟨_, Except.error.inj houtcome⟩
  | unrecorded cause hprepares hexecutes hends =>
      obtain rfl := Except.error.inj houtcome
      exact .inr (List.mem_singleton_self _)
  | recorded stop hprepares hexecutes hends =>
      cases stop with
      | none => cases houtcome
      | some cause => exact .inl ⟨cause, Except.error.inj houtcome⟩

/-- Letting the nodes go on never fails, whatever they reply. -/
private theorem ensures_release (id : String) (nodes : List Node) :
    (release id nodes).Ensures fun log result =>
      Releases id nodes log ∧ result = .ok () := by
  induction nodes with
  | nil => exact ⟨.ended, rfl⟩
  | cons node rest ih =>
      intro reply
      exact ih.imp fun log result h => ⟨.next node reply h.1, h.2⟩

/-- What is reported after the release does not hang on what it meets. -/
theorem ensures_release_fail {id : String} {nodes : List Node}
    {cause : Failure} {Q : List Exchange → Except Failure Unit → Prop}
    (h : ∀ ends, Releases id nodes ends → Q ends (.error cause)) :
    (Program.bind (release id nodes) fun _ => .fail cause).Ensures Q := by
  refine (ensures_release id nodes).bind (fun ends _ hends => ?_)
    fun ends f hends => ?_
  · have hfailed : Q (ends ++ []) (.error cause) := by
      rw [List.append_nil]
      exact h ends hends.1
    exact hfailed
  · cases hends.2

/-- The first phase walks down its nodes; if it is stopped, it lets those go on
that had stopped, and fails. -/
private theorem ensures_prepare (id : String) (stopped nodes : List Node) :
    (prepare id stopped nodes).Ensures fun log result =>
      Walk .prepare id nodes log none ∧ result = .ok () ∨
        ∃ prepares ends cause, log = prepares ++ ends ∧
          Walk .prepare id nodes prepares (some cause) ∧
          Releases id (stopped ++ acknowledged id .prepare prepares) ends ∧
          result = .error (failure id cause) := by
  induction nodes generalizing stopped with
  | nil => exact .inl ⟨.ended, rfl⟩
  | cons node rest ih =>
      refine Ensures.request_bind fun reply => ?_
      cases reply with
      | ok _ =>
          refine (ih (stopped ++ [node])).imp fun log result h => ?_
          rcases h with ⟨hwalk, rfl⟩
            | ⟨prepares, ends, cause, rfl, hwalk, hends, rfl⟩
          · exact .inl ⟨hwalk.next, rfl⟩
          · refine .inr ⟨_, ends, cause, rfl, hwalk.next, ?_, rfl⟩
            rw [List.append_assoc] at hends
            rw [acknowledged, heard_message]
            exact hends
      | error cause =>
          refine ensures_release_fail fun ends hends =>
            .inr ⟨_, ends, cause, rfl, .refused node rest cause, ?_, rfl⟩
          rw [acknowledged, heard_message]
          rw [← List.append_nil stopped] at hends
          exact hends

/-- The second phase does the same with those that had stopped for it. -/
private theorem ensures_execute (id : String) (stopped nodes : List Node) :
    (execute id stopped nodes).Ensures fun log result =>
      Walk .execute id nodes log none ∧ result = .ok () ∨
        ∃ executes ends cause, log = executes ++ ends ∧
          Walk .execute id nodes executes (some cause) ∧
          Releases id stopped ends ∧
          result = .error (failure id cause) := by
  induction nodes with
  | nil => exact .inl ⟨.ended, rfl⟩
  | cons node rest ih =>
      refine Ensures.request_bind fun reply => ?_
      cases reply with
      | ok _ =>
          refine ih.imp fun log result h => ?_
          rcases h with ⟨hwalk, rfl⟩
            | ⟨executes, ends, cause, rfl, hwalk, hends, rfl⟩
          · exact .inl ⟨hwalk.next, rfl⟩
          · exact .inr ⟨_, ends, cause, rfl, hwalk.next, hends, rfl⟩
      | error cause =>
          exact ensures_release_fail fun ends hends =>
            .inr ⟨_, ends, cause, rfl, .refused node rest cause, hends, rfl⟩

/-- The record is written, or the coordinators go on without it. -/
private theorem ensures_record (id : String) (stopped : List Node) :
    (record id stopped).Ensures fun log result =>
      log = [⟨.recordBarrier id, .ok ()⟩] ∧ result = .ok () ∨
        ∃ ends cause, log = ⟨.recordBarrier id, .error cause⟩ :: ends ∧
          Releases id stopped ends ∧ result = .error cause := by
  refine Ensures.request_bind fun reply => ?_
  cases reply with
  | ok _ => exact .inl ⟨rfl, rfl⟩
  | error cause =>
      exact ensures_release_fail fun ends hends =>
        .inr ⟨ends, cause, rfl, hends, rfl⟩

/-- The last phase is a walk, and nothing follows it. -/
private theorem ensures_finish (id : String) (nodes : List Node) :
    (finish id nodes).Ensures fun log result =>
      ∃ stop, Walk .finish id nodes log stop ∧ result = ending id stop := by
  induction nodes with
  | nil => exact ⟨none, .ended, rfl⟩
  | cons node rest ih =>
      intro reply
      cases reply with
      | ok _ =>
          exact ih.imp fun log result ⟨stop, hwalk, hresult⟩ =>
            ⟨stop, hwalk.next, hresult⟩
      | error cause => exact ⟨some cause, .refused node rest cause, rfl⟩

/-- A barrier keeps to the courses. -/
theorem course_run (topology : Topology) (id : String) :
    (run topology id).Ensures fun log result =>
      ∃ prepares executes records ends,
        log = prepares ++ (executes ++ (records ++ ends)) ∧
        Course topology id prepares executes records ends result := by
  refine (ensures_prepare id [] topology.remoteCoordinators).bind ?_ ?_
  · rintro prepares _ (⟨hprepares, _⟩ | ⟨_, _, _, _, _, _, hfailed⟩)
    · refine (ensures_execute id topology.remoteCoordinators
        (topology.members .all)).bind ?_ ?_
      · rintro executes _ (⟨hexecutes, _⟩ | ⟨_, _, _, _, _, _, hfailed⟩)
        · refine (ensures_record id topology.remoteCoordinators).bind ?_ ?_
          · rintro records _ (⟨rfl, _⟩ | ⟨_, _, _, _, hfailed⟩)
            · refine (ensures_finish id topology.remoteCoordinators).imp ?_
              rintro ends _ ⟨stop, hends, rfl⟩
              exact ⟨prepares, executes, _, ends, rfl,
                .recorded stop hprepares hexecutes hends⟩
            · cases hfailed
          · rintro _ f (⟨_, hdone⟩ | ⟨ends, cause, rfl, hends, hcause⟩)
            · cases hdone
            · obtain rfl := Except.error.inj hcause
              exact ⟨prepares, executes, [_], ends, rfl,
                .unrecorded _ hprepares hexecutes hends⟩
        · cases hfailed
      · rintro _ f (⟨_, hdone⟩
          | ⟨executes, ends, cause, rfl, hexecutes, hends, hcause⟩)
        · cases hdone
        · rw [hcause]
          exact ⟨prepares, executes, [], ends, rfl,
            .unexecuted hprepares hexecutes hends⟩
    · cases hfailed
  · rintro _ f (⟨_, hdone⟩
      | ⟨prepares, ends, cause, rfl, hprepares, hends, hcause⟩)
    · cases hdone
    · rw [hcause]
      exact ⟨prepares, [], [], ends, rfl, .unprepared hprepares hends⟩

-- ====================================================== the identifier

/-- How a barrier comes by its identifier: it is given, or it is made of the
local node and the present moment. -/
inductive Names (topology : Topology) :
    Option String → List Exchange → String → Prop
  | given (id : String) : Names topology (some id) [] id
  | made (moment : String) :
      Names topology none [⟨.timestamp, moment⟩]
        (standardId topology.localNode moment)

/-- The identifier is always found. -/
private theorem ensures_identify (topology : Topology)
    (given : Option String) :
    (identify topology given).Ensures fun log result =>
      ∃ id, Names topology given log id ∧ result = .ok id := by
  cases given with
  | some id => exact ⟨id, .given id, rfl⟩
  | none =>
      intro moment
      exact ⟨_, .made moment, rfl⟩

/-- A barrier that a client of a coordinator asks for. -/
theorem course_start (topology : Topology) (given : Option String)
    {c : Context} (hc : c.isClientFacing = true) :
    (start topology given c).Ensures fun log result =>
      ∃ id naming prepares executes records ends outcome,
        log = naming ++ (prepares ++ (executes ++ (records ++ ends))) ∧
        Names topology given naming id ∧
        Course topology id prepares executes records ends outcome ∧
        result = outcome.map fun _ => id := by
  unfold start
  rw [if_pos hc]
  refine (ensures_identify topology given).bind ?_ ?_
  · rintro naming _ ⟨id, hnames, hid⟩
    obtain rfl := Except.ok.inj hid
    refine (course_run topology _).bind ?_ ?_
    · rintro log _ ⟨prepares, executes, records, ends, rfl, hcourse⟩
      refine ⟨_, naming, prepares, executes, records, ends, _, ?_,
        hnames, hcourse, rfl⟩
      rw [List.append_nil]
    · rintro log f ⟨prepares, executes, records, ends, rfl, hcourse⟩
      exact ⟨_, naming, prepares, executes, records, ends, _, rfl,
        hnames, hcourse, rfl⟩
  · rintro naming f ⟨id, _, hid⟩
    cases hid

/-- Nobody else is served. -/
theorem start_refused (topology : Topology) (given : Option String)
    {c : Context} (hc : c.isClientFacing = false) :
    start topology given c = .fail .barrierOrigin := by
  unfold start
  rw [hc]
  rfl

end ClusterUtility.Barrier
