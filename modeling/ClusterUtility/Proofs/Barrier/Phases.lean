/-
A barrier is a consistent cut: no phase begins before every node acknowledged
the phase before it.

# What holds in every world

`ConsistentCut` says of the exchanges of a barrier what makes the cut
consistent. The phases follow one another (`inTurn`), so that a node of a
later phase is spoken to only after all that was heard of an earlier one, and
each phase goes down its list of nodes up to the first refusal. It is shown
of every course, and so it holds of every run (`barrier_cuts_consistently`).

# Who is left behind

A coordinator that stopped admits no commits until it is told to go on. A
barrier that fails in its first two phases tells all that had stopped, whether
they reply or not. The last phase is not as patient: it is a walk like the
others, and ends at the first coordinator that does not acknowledge. The
coordinators behind that one are stopped and hear nothing more
(`released_or_left_behind`).
-/
import ClusterUtility.Cluster.Answers
import ClusterUtility.Program.StandIn
import ClusterUtility.Proofs.Barrier.Course

namespace ClusterUtility.Barrier

open Program (exchanges)

-- ================================================= parts of a dialogue

/-- The place of a request in a barrier. -/
def stage : Request → Nat
  | .prepareBarrier .. => 0
  | .executeBarrier .. => 1
  | .recordBarrier _ => 2
  | .endBarrier .. => 3
  | _ => 4

section parts

variable {id : String} {prepares executes records ends : List Exchange}

/-- A part of one phase is of one stage. -/
private theorem stage_of_isOf {phase : Phase} {part : List Exchange}
    (h : IsOf phase id part) {x : Exchange} (hx : x ∈ part) :
    stage x.request
      = match phase with
        | .prepare => 0
        | .execute => 1
        | .finish => 3 := by
  obtain ⟨node, reply, rfl⟩ := h x hx
  cases phase <;> rfl

/-- The record has a stage of its own. -/
private theorem stage_of_isRecord {part : List Exchange} (h : IsRecord id part)
    {x : Exchange} (hx : x ∈ part) : stage x.request = 2 := by
  obtain ⟨reply, rfl⟩ := h x hx
  rfl

/-- The parts of a dialogue stand in the order of the phases. -/
theorem inTurn_of_parts (hprepares : IsOf .prepare id prepares)
    (hexecutes : IsOf .execute id executes) (hrecords : IsRecord id records)
    (hends : IsOf .finish id ends) :
    (prepares ++ (executes ++ (records ++ ends))).Pairwise
      fun x y => stage x.request ≤ stage y.request := by
  have hprepare {x : Exchange} (hx : x ∈ prepares) : stage x.request = 0 :=
    stage_of_isOf hprepares hx
  have hexecute {x : Exchange} (hx : x ∈ executes) : stage x.request = 1 :=
    stage_of_isOf hexecutes hx
  have hrecord {x : Exchange} (hx : x ∈ records) : stage x.request = 2 :=
    stage_of_isRecord hrecords hx
  have hend {x : Exchange} (hx : x ∈ ends) : stage x.request = 3 :=
    stage_of_isOf hends hx
  have hconstant {part : List Exchange} {n : Nat}
      (h : ∀ x ∈ part, stage x.request = n) :
      part.Pairwise fun x y => stage x.request ≤ stage y.request :=
    List.pairwise_of_forall_mem_list fun x hx y hy =>
      Nat.le_of_eq ((h x hx).trans (h y hy).symm)
  refine List.pairwise_append.mpr ⟨hconstant fun x => hprepare, ?_,
    fun x hx y _ => ?_⟩
  · refine List.pairwise_append.mpr ⟨hconstant fun x => hexecute, ?_,
      fun x hx y hy => ?_⟩
    · refine List.pairwise_append.mpr
        ⟨hconstant fun x => hrecord, hconstant fun x => hend,
          fun x hx y hy => ?_⟩
      rw [hrecord hx, hend hy]
      decide
    · rw [hexecute hx]
      rcases List.mem_append.mp hy with hy | hy
      · rw [hrecord hy]
        decide
      · rw [hend hy]
        decide
  · rw [hprepare hx]
    exact Nat.zero_le _

end parts

-- ===================================================== consistent cuts

/-- Nodes are sent a message in order, up to the first one that does not
acknowledge it. -/
def UpToRefusal (nodes : List Node) (heard : List (Node × Bool)) : Prop :=
  heard = allAcknowledge nodes ∨
    ∃ done node rest, nodes = done ++ node :: rest ∧
      heard = allAcknowledge done ++ [(node, false)]

/-- What makes a barrier with an identifier a consistent cut, read off its
exchanges and its result. -/
structure ConsistentCut (topology : Topology) (id : String)
    (log : List Exchange) (result : Except Failure String) : Prop where
  /-- Only messages of this barrier are sent, and only its record is
  written. -/
  concerns : ∀ x ∈ log,
    (∃ phase node reply, x = Phase.message phase id node reply) ∨
      ∃ reply, x = ⟨.recordBarrier id, reply⟩
  /-- Prepares come first, then executes, then the record, then the ends. -/
  inTurn : log.Pairwise fun x y => stage x.request ≤ stage y.request
  prepares : UpToRefusal topology.remoteCoordinators (heard id .prepare log)
  executes : heard id .execute log = [] ∨
    UpToRefusal (topology.members .all) (heard id .execute log)
  /-- Who is to execute, executes after all others have stopped. -/
  executed : heard id .execute log ≠ [] →
    heard id .prepare log = allAcknowledge topology.remoteCoordinators
  /-- The record is written after all others have executed. -/
  recorded : ∀ reply, ⟨.recordBarrier id, reply⟩ ∈ log →
    heard id .execute log = allAcknowledge (topology.members .all)
  /-- Coordinators go on in order, each told once. -/
  ends : asked id .finish log <+: topology.remoteCoordinators
  /-- Without a record, those go on that had stopped. -/
  released : ⟨.recordBarrier id, .ok ()⟩ ∉ log →
    asked id .finish log = acknowledged id .prepare log
  succeeds : result = .ok id ↔
    heard id .prepare log = allAcknowledge topology.remoteCoordinators ∧
      heard id .execute log = allAcknowledge (topology.members .all) ∧
      ⟨.recordBarrier id, .ok ()⟩ ∈ log ∧
      heard id .finish log = allAcknowledge topology.remoteCoordinators
  named : ∀ name, result = .ok name → name = id

section courses

variable {topology : Topology} {id : String}
  {prepares executes records ends log : List Exchange}
  {outcome : Except Failure Unit}

/-- Each part of a course is of its phase. -/
theorem Course.isOf
    (h : Course topology id prepares executes records ends outcome) :
    IsOf .prepare id prepares ∧ IsOf .execute id executes ∧
      IsRecord id records ∧ IsOf .finish id ends := by
  have hnothing {P : Exchange → Prop} : ∀ x ∈ ([] : List Exchange), P x :=
    List.forall_mem_nil P
  cases h with
  | unprepared hprepares hends =>
      exact ⟨hprepares.isOf, hnothing, hnothing, hends.isOf⟩
  | unexecuted hprepares hexecutes hends =>
      exact ⟨hprepares.isOf, hexecutes.isOf, hnothing, hends.isOf⟩
  | unrecorded cause hprepares hexecutes hends =>
      exact ⟨hprepares.isOf, hexecutes.isOf,
        List.forall_mem_singleton.mpr ⟨_, rfl⟩, hends.isOf⟩
  | recorded stop hprepares hexecutes hends =>
      exact ⟨hprepares.isOf, hexecutes.isOf,
        List.forall_mem_singleton.mpr ⟨_, rfl⟩, hends.isOf⟩

/-- A walk speaks to its nodes up to a refusal. -/
private theorem Walk.upToRefusal {phase : Phase} {nodes : List Node}
    {log : List Exchange} {stop : Option TransportFailure}
    (h : Walk phase id nodes log stop) :
    UpToRefusal nodes (heard id phase log) := by
  cases stop with
  | none => exact .inl h.heard_of_ended
  | some cause =>
      obtain ⟨done, node, rest, hnodes, hheard, _⟩ := h.heard_of_refused
      exact .inr ⟨done, node, rest, hnodes, hheard⟩

/-- A walk that was stopped has not heard from everyone. -/
theorem Walk.ne_of_refused {phase : Phase} {nodes : List Node}
    {log : List Exchange} {cause : TransportFailure}
    (h : Walk phase id nodes log (some cause)) :
    heard id phase log ≠ allAcknowledge nodes := by
  obtain ⟨done, node, rest, rfl, hheard, _⟩ := h.heard_of_refused
  intro hall
  have hrefused : (node, false) ∈ allAcknowledge (done ++ node :: rest) := by
    rw [← hall, hheard]
    exact List.mem_append_right _ (List.mem_singleton_self _)
  obtain ⟨_, _, heq⟩ := List.mem_map.mp hrefused
  cases heq

/-- The first part of a course is always a walk. -/
private theorem Course.prepares_walk
    (h : Course topology id prepares executes records ends outcome) :
    ∃ stop, Walk .prepare id topology.remoteCoordinators prepares stop := by
  cases h with
  | unprepared hprepares hends => exact ⟨_, hprepares⟩
  | unexecuted hprepares hexecutes hends => exact ⟨_, hprepares⟩
  | unrecorded cause hprepares hexecutes hends => exact ⟨_, hprepares⟩
  | recorded stop hprepares hexecutes hends => exact ⟨_, hprepares⟩

/-- The second phase is not begun, or it is begun after the first one came to
its end. -/
theorem Course.executes_walk
    (h : Course topology id prepares executes records ends outcome) :
    executes = [] ∨
      Walk .prepare id topology.remoteCoordinators prepares none ∧
        ∃ stop, Walk .execute id (topology.members .all) executes stop := by
  cases h with
  | unprepared hprepares hends => exact .inl rfl
  | unexecuted hprepares hexecutes hends =>
      exact .inr ⟨hprepares, _, hexecutes⟩
  | unrecorded cause hprepares hexecutes hends =>
      exact .inr ⟨hprepares, _, hexecutes⟩
  | recorded stop hprepares hexecutes hends =>
      exact .inr ⟨hprepares, _, hexecutes⟩

/-- The record is not asked for, or it is asked for after the second phase came
to its end. -/
theorem Course.records_walk
    (h : Course topology id prepares executes records ends outcome) :
    records = [] ∨ Walk .execute id (topology.members .all) executes none := by
  cases h with
  | unprepared hprepares hends => exact .inl rfl
  | unexecuted hprepares hexecutes hends => exact .inl rfl
  | unrecorded cause hprepares hexecutes hends => exact .inr hexecutes
  | recorded stop hprepares hexecutes hends => exact .inr hexecutes

/-- Nodes that are spoken to up to a refusal are the first of the list. -/
private theorem UpToRefusal.asked_prefix {phase : Phase} {nodes : List Node}
    {log : List Exchange} (h : UpToRefusal nodes (heard id phase log)) :
    asked id phase log <+: nodes := by
  unfold asked
  rcases h with hheard | ⟨done, node, rest, rfl, hheard⟩
  · simp only [hheard, allAcknowledge_fst, List.prefix_refl]
  · rw [hheard, List.map_append, allAcknowledge_fst]
    exact ⟨rest, List.append_assoc ..⟩

/-- Of nodes that are spoken to up to a refusal, those that acknowledge come
first. -/
theorem UpToRefusal.acknowledged_prefix {phase : Phase} {nodes : List Node}
    {log : List Exchange} (h : UpToRefusal nodes (heard id phase log)) :
    acknowledged id phase log <+: nodes := by
  unfold acknowledged
  rcases h with hheard | ⟨done, node, rest, rfl, hheard⟩
  · simp only [hheard, acknowledgers_allAcknowledge, List.prefix_refl]
  · rw [hheard, List.filter_append, List.map_append,
      acknowledgers_allAcknowledge]
    exact ⟨node :: rest, List.append_assoc ..⟩

/-- What is heard of a phase is heard in its part. -/
theorem Course.heard_parts
    (h : Course topology id prepares executes records ends outcome)
    (hlog : log = prepares ++ (executes ++ (records ++ ends))) :
    heard id .prepare log = heard id .prepare prepares ∧
      heard id .execute log = heard id .execute executes ∧
      heard id .finish log = heard id .finish ends := by
  obtain ⟨hprepares, hexecutes, hrecords, hends⟩ := h.isOf
  rw [hlog]
  simp only [heard_append, heard_record hrecords]
  refine ⟨?_, ?_, ?_⟩
  · rw [heard_of_other .prepare hexecutes nofun,
      heard_of_other .prepare hends nofun]
    exact List.append_nil _
  · rw [heard_of_other .execute hprepares nofun,
      heard_of_other .execute hends nofun]
    exact List.append_nil _
  · rw [heard_of_other .finish hprepares nofun,
      heard_of_other .finish hexecutes nofun]
    rfl

/-- The record of a dialogue is in its third part. -/
private theorem Course.mem_record_iff
    (h : Course topology id prepares executes records ends outcome)
    (hlog : log = prepares ++ (executes ++ (records ++ ends)))
    (reply : Except Failure Unit) :
    ⟨.recordBarrier id, reply⟩ ∈ log
      ↔ ⟨.recordBarrier id, reply⟩ ∈ records := by
  obtain ⟨hprepares, hexecutes, _, hends⟩ := h.isOf
  have hnot {phase : Phase} {part : List Exchange}
      (hpart : IsOf phase id part) :
      ⟨.recordBarrier id, reply⟩ ∉ part := by
    intro hmem
    obtain ⟨node, reply', heq⟩ := hpart _ hmem
    cases phase <;> cases heq
  rw [hlog]
  simp only [List.mem_append, hnot hprepares, hnot hexecutes, hnot hends,
    false_or, or_false]

/-- A course without an acknowledged record releases those that had
stopped. -/
theorem Course.released
    (h : Course topology id prepares executes records ends outcome)
    (hrecord : ⟨.recordBarrier id, .ok ()⟩ ∉ records) :
    asked id .finish ends = acknowledged id .prepare prepares := by
  cases h with
  | unprepared hprepares hends => exact hends.asked
  | unexecuted hprepares hexecutes hends =>
      rw [hends.asked, acknowledged_of_allAcknowledge hprepares.heard_of_ended]
  | unrecorded cause hprepares hexecutes hends =>
      rw [hends.asked, acknowledged_of_allAcknowledge hprepares.heard_of_ended]
  | recorded stop hprepares hexecutes hends =>
      exact absurd (List.mem_singleton_self _) hrecord

/-- The coordinators that are told to go on are the first of their list. -/
private theorem Course.ends_prefix
    (h : Course topology id prepares executes records ends outcome) :
    asked id .finish ends <+: topology.remoteCoordinators := by
  cases h with
  | unprepared hprepares hends =>
      rw [hends.asked]
      exact hprepares.upToRefusal.acknowledged_prefix
  | unexecuted hprepares hexecutes hends =>
      simp only [hends.asked, List.prefix_refl]
  | unrecorded cause hprepares hexecutes hends =>
      simp only [hends.asked, List.prefix_refl]
  | recorded stop hprepares hexecutes hends =>
      exact hends.upToRefusal.asked_prefix

/-- A course ends well if all nodes acknowledged in each of its phases, and the
record was written. -/
private theorem Course.succeeds
    (h : Course topology id prepares executes records ends outcome) :
    outcome = .ok () ↔
      heard id .prepare prepares = allAcknowledge topology.remoteCoordinators ∧
        heard id .execute executes = allAcknowledge (topology.members .all) ∧
        ⟨.recordBarrier id, .ok ()⟩ ∈ records ∧
        heard id .finish ends
          = allAcknowledge topology.remoteCoordinators := by
  cases h with
  | unprepared hprepares hends =>
      exact iff_of_false nofun fun hall => hprepares.ne_of_refused hall.1
  | unexecuted hprepares hexecutes hends =>
      exact iff_of_false nofun fun hall => hexecutes.ne_of_refused hall.2.1
  | unrecorded cause hprepares hexecutes hends =>
      refine iff_of_false nofun fun hall => ?_
      cases List.mem_singleton.mp hall.2.2.1
  | recorded stop hprepares hexecutes hends =>
      cases stop with
      | none =>
          exact iff_of_true rfl ⟨hprepares.heard_of_ended,
            hexecutes.heard_of_ended, List.mem_singleton_self _,
            hends.heard_of_ended⟩
      | some cause =>
          exact iff_of_false nofun fun hall => hends.ne_of_refused hall.2.2.2

/-- Every course is a consistent cut. -/
private theorem Course.consistentCut
    (h : Course topology id prepares executes records ends outcome)
    (hlog : log = prepares ++ (executes ++ (records ++ ends))) :
    ConsistentCut topology id log (outcome.map fun _ => id) := by
  obtain ⟨hprepares, hexecutes, hrecords, hends⟩ := h.isOf
  obtain ⟨hprepare, hexecute, hfinish⟩ := h.heard_parts hlog
  have hrecord := h.mem_record_iff hlog
  refine
    { concerns := fun x hx => ?concerns
      inTurn := ?inTurn
      prepares := ?prepares
      executes := ?executes
      executed := ?executed
      recorded := fun reply hmem => ?recorded
      ends := ?ends
      released := fun hmem => ?released
      succeeds := ?succeeds
      named := fun name hname => ?named }
  case concerns =>
    simp only [hlog, List.mem_append] at hx
    rcases hx with hx | hx | hx | hx
    · exact .inl ⟨_, hprepares x hx⟩
    · exact .inl ⟨_, hexecutes x hx⟩
    · exact .inr (hrecords x hx)
    · exact .inl ⟨_, hends x hx⟩
  case inTurn =>
    rw [hlog]
    exact inTurn_of_parts hprepares hexecutes hrecords hends
  case prepares =>
    obtain ⟨stop, hwalk⟩ := h.prepares_walk
    rw [hprepare]
    exact hwalk.upToRefusal
  case executes =>
    rw [hexecute]
    rcases h.executes_walk with rfl | ⟨_, stop, hwalk⟩
    · exact .inl rfl
    · exact .inr hwalk.upToRefusal
  case executed =>
    rw [hprepare, hexecute]
    intro hasked
    rcases h.executes_walk with rfl | ⟨hwalk, _⟩
    · exact absurd rfl hasked
    · exact hwalk.heard_of_ended
  case recorded =>
    rw [hrecord] at hmem
    rw [hexecute]
    rcases h.records_walk with rfl | hwalk
    · cases hmem
    · exact hwalk.heard_of_ended
  case ends =>
    rw [asked, hfinish]
    exact h.ends_prefix
  case released =>
    rw [hrecord] at hmem
    rw [asked, acknowledged, hprepare, hfinish]
    exact h.released hmem
  case succeeds =>
    rw [hprepare, hexecute, hfinish, hrecord, ← h.succeeds]
    cases outcome with
    | ok _ => exact iff_of_true rfl rfl
    | error cause =>
        constructor
        · intro hdone
          cases hdone
        · intro hdone
          cases hdone
  case named =>
    cases outcome with
    | ok _ => exact (Except.ok.inj hname).symm
    | error cause => cases hname

end courses

-- ====================================================== every barrier

section runs

variable {σ : Type} (answer : Program.Answers σ) (w : σ) (topology : Topology)
  (given : Option String)

/-- However the nodes answer, a barrier that a client of a coordinator asks for
is a consistent cut. -/
theorem barrier_cuts_consistently {c : Context}
    (hc : c.isClientFacing = true) :
    ∃ id naming log,
      exchanges answer (start topology given c) w = naming ++ log ∧
      Names topology given naming id ∧
      ConsistentCut topology id log
        (Program.run answer (start topology given c) w).result := by
  obtain ⟨id, naming, prepares, executes, records, ends, outcome, hlog, hnames,
      hcourse, hresult⟩ :=
    (course_start topology given hc).run answer w
  refine ⟨id, naming, _, hlog, hnames, ?_⟩
  rw [hresult]
  exact hcourse.consistentCut rfl

end runs

/-- Two coordinators besides the local node, and a datanode. -/
def threeCoordinators : Topology :=
  ⟨"coord1", ["coord1", "coord2", "coord3"], ["dn1"]⟩

/-- A cluster of three coordinators that is told once that its message to let
a coordinator go on timed out. -/
def oneEndLost : Staged Cluster :=
  (Staged.plain (.fresh threeCoordinators "")).lay .endBarrier
    [some (.remoteFailure (.timeout "coord2"))]

/-- One coordinator does not acknowledge in time that it may go on, and the cut
is consistent all the same. -/
theorem barrier_cuts_consistently_threeCoordinators :
    (Context.topLevel .coordinator).isClientFacing = true ∧
      ConsistentCut threeCoordinators "b1"
        (exchanges (Staged.answer Cluster.answer)
          (start threeCoordinators (some "b1") (.topLevel .coordinator))
          oneEndLost)
        (.error (.barrierFailed "b1" "coord2"
          "timed out waiting for node coord2")) := by
  have hc : (Context.topLevel .coordinator).isClientFacing = true := rfl
  refine ⟨hc, ?_⟩
  obtain ⟨id, naming, log, hlog, hnames, hcut⟩ :=
    barrier_cuts_consistently (Staged.answer Cluster.answer) oneEndLost
      threeCoordinators (some "b1") hc
  cases hnames
  rw [hlog]
  exact hcut

-- ================================================== who is left behind

/-- The last phase is stopped by a coordinator that does not acknowledge, and
those behind it are left to wait. -/
def LeavesBehind (topology : Topology) (id : String) (log : List Exchange)
    (result : Except Failure String) : Prop :=
  ∃ done node left cause,
    topology.remoteCoordinators = done ++ node :: left ∧ left ≠ [] ∧
    acknowledged id .prepare log = topology.remoteCoordinators ∧
    asked id .finish log = done ++ [node] ∧
    ⟨.recordBarrier id, .ok ()⟩ ∈ log ∧
    log.getLast? = some (Phase.finish.message id node (.error cause)) ∧
    result = .error (failure id cause)

/-- What is said before a barrier does not matter. -/
theorem LeavesBehind.after {topology : Topology} {id : String}
    {naming log : List Exchange} {result : Except Failure String}
    (h : LeavesBehind topology id log result)
    (hsilent : ∀ phase, heard id phase (naming ++ log) = heard id phase log) :
    LeavesBehind topology id (naming ++ log) result := by
  obtain ⟨done, node, left, cause, hnodes, hleft, hall, hasked, hrecord,
      hlast, hresult⟩ := h
  refine ⟨done, node, left, cause, hnodes, hleft, ?_, ?_,
    List.mem_append_right _ hrecord, ?_, hresult⟩
  · rw [acknowledged, hsilent]
    exact hall
  · rw [asked, hsilent]
    exact hasked
  · rw [List.getLast?_append, hlast]
    rfl

/-- Nothing is heard while the identifier is made. -/
private theorem heard_of_names {topology : Topology} {given : Option String}
    {naming : List Exchange} {id : String} (h : Names topology given naming id)
    (other : String) (phase : Phase) (log : List Exchange) :
    heard other phase (naming ++ log) = heard other phase log := by
  cases h <;> rfl

/-- Nothing is heard of a barrier in the dialogue of another one. -/
theorem heard_of_isOf_other {phase of : Phase} {id other : String}
    {part : List Exchange} (h : IsOf of id part) (hne : id ≠ other) :
    heard other phase part = [] := by
  refine List.filterMap_eq_nil_iff.mpr fun x hx => ?_
  obtain ⟨node, reply, rfl⟩ := h x hx
  cases of <;> exact if_neg fun heq => hne heq.2

section courses

variable {topology : Topology} {id : String}
  {prepares executes records ends log : List Exchange}
  {outcome : Except Failure Unit}

/-- A course says nothing for another barrier. -/
private theorem Course.heard_other
    (h : Course topology id prepares executes records ends outcome)
    {other : String} (hne : id ≠ other) (phase : Phase) :
    heard other phase (prepares ++ (executes ++ (records ++ ends))) = [] := by
  obtain ⟨hprepares, hexecutes, hrecords, hends⟩ := h.isOf
  have hrecord : heard other phase records = [] := by
    refine List.filterMap_eq_nil_iff.mpr fun x hx => ?_
    obtain ⟨reply, rfl⟩ := hrecords x hx
    rfl
  rw [heard_append, heard_append, heard_append,
    heard_of_isOf_other hprepares hne, heard_of_isOf_other hexecutes hne,
    hrecord, heard_of_isOf_other hends hne]
  rfl

/-- A course releases those that had stopped, or is stopped in its last
phase. -/
theorem Course.released_or_left
    (h : Course topology id prepares executes records ends outcome)
    (hlog : log = prepares ++ (executes ++ (records ++ ends))) :
    asked id .finish log = acknowledged id .prepare log ∨
      LeavesBehind topology id log (outcome.map fun _ => id) := by
  by_cases hrecord : ⟨.recordBarrier id, .ok ()⟩ ∈ log
  case neg => exact .inl ((h.consistentCut hlog).released hrecord)
  obtain ⟨hprepare, _, hfinish⟩ := h.heard_parts hlog
  have hwritten := hrecord
  rw [h.mem_record_iff hlog] at hwritten
  cases h with
  | unprepared hprepares hends => cases hwritten
  | unexecuted hprepares hexecutes hends => cases hwritten
  | unrecorded cause hprepares hexecutes hends =>
      cases List.mem_singleton.mp hwritten
  | recorded stop hprepares hexecutes hends =>
      have hall : acknowledged id .prepare log = topology.remoteCoordinators :=
        acknowledged_of_allAcknowledge
          (hprepare.trans hprepares.heard_of_ended)
      rw [hall]
      cases stop with
      | none =>
          refine .inl ?_
          rw [asked, hfinish, hends.heard_of_ended]
          exact allAcknowledge_fst _
      | some cause =>
          obtain ⟨done, node, left, hnodes, hheard, hlast⟩ :=
            hends.heard_of_refused
          have hasked : asked id .finish log = done ++ [node] := by
            rw [asked, hfinish, hheard, List.map_append, allAcknowledge_fst]
            rfl
          by_cases hleft : left = []
          · rw [hasked, hnodes, hleft]
            exact .inl rfl
          · refine .inr ⟨done, node, left, cause, hnodes, hleft, hall, hasked,
              hrecord, ?_, rfl⟩
            rw [hlog, List.getLast?_append, List.getLast?_append,
              List.getLast?_append, hlast]
            rfl

end courses

section runs

variable {σ : Type} (answer : Program.Answers σ) (w : σ) (topology : Topology)
  (given : Option String) (c : Context)

/-- Every coordinator that stopped for a barrier is told to go on, but for
those behind one that does not acknowledge this. -/
theorem released_or_left_behind (id : String) :
    asked id .finish (exchanges answer (start topology given c) w)
        = acknowledged id .prepare
            (exchanges answer (start topology given c) w) ∨
      LeavesBehind topology id (exchanges answer (start topology given c) w)
        (Program.run answer (start topology given c) w).result := by
  by_cases hc : c.isClientFacing = true
  case neg =>
    rw [start_refused topology given (Bool.eq_false_iff.mpr hc)]
    exact .inl rfl
  obtain ⟨actual, naming, prepares, executes, records, ends, outcome, hlog,
      hnames, hcourse, hresult⟩ :=
    (course_start topology given hc).run answer w
  rw [hlog, hresult]
  by_cases hid : actual = id
  · subst hid
    have hsilent := heard_of_names hnames actual
    rw [asked, acknowledged, hsilent, hsilent]
    exact (hcourse.released_or_left rfl).imp id fun hleft =>
      hleft.after fun phase => hsilent phase _
  · -- a barrier says nothing for another one
    refine .inl ?_
    rw [asked, acknowledged, heard_of_names hnames, heard_of_names hnames,
      hcourse.heard_other hid, hcourse.heard_other hid]
    rfl

end runs

/-- The second coordinator does not acknowledge, and the third one is left
behind. -/
theorem released_or_left_behind_thirdCoordinator :
    LeavesBehind threeCoordinators "b1"
      (exchanges (Staged.answer Cluster.answer)
        (start threeCoordinators (some "b1") (.topLevel .coordinator))
        oneEndLost)
      (.error (.barrierFailed "b1" "coord2"
        "timed out waiting for node coord2")) := by
  have hleft := released_or_left_behind (Staged.answer Cluster.answer)
    oneEndLost threeCoordinators (some "b1") (.topLevel .coordinator) "b1"
  exact hleft.resolve_left (by decide)

end ClusterUtility.Barrier
