/-
Whether a node takes itself for another one.

What a coordinator asks of other nodes it asks of the members of a group, of
the nodes of a barrier, or of those that its transaction wrote to. The local
node should be none of them. Of the coordinators it is left out; but datanodes
are taken as they are listed, so a node that is listed among them is a member
of the groups that it passes statements on to.

# To whom

The addresses of a dispatch can be told from its dialogue alone, whatever the
world replies (`WellAddressed`). Those of a barrier come from the topology,
phase by phase, and a branch is prepared of a node that was named as a
participant before. The participants are the nodes that the session counts as
written to, and nodes get there only as members of a group that a request was
sent to (`EnlistsMembers`).
-/
import ClusterUtility.Proofs.Transaction.CommitPoint
import ClusterUtility.Proofs.Transaction.Enlisted

namespace ClusterUtility

open Cluster (answer)
open Program (Asks Ensures Leads MustAsk Sequential exchanges
  leads_of_mem_exchanges)

variable {topology : Topology} {config : Configuration} {i : Interceptor}
  {call : Call} {log more : List Exchange} {c d : Cluster} {r : Request}

-- ====================================================== members

/-- The local node is left out of the other coordinators. -/
private theorem localNode_not_mem_remoteCoordinators (topology : Topology) :
    topology.localNode ∉ topology.remoteCoordinators := by
  simp [Topology.remoteCoordinators]

/-- Of all groups, the local node is a member of those with the datanodes in
them, if it is listed as one, and of no other. -/
theorem localNode_mem_members (topology : Topology) (group : NodeGroup) :
    topology.localNode ∈ topology.members group ↔
      topology.role = .datanode ∧ (group = .all ∨ group = .datanodes) := by
  have hremote := localNode_not_mem_remoteCoordinators topology
  have hrole : topology.role = .datanode ↔
      topology.localNode ∈ topology.datanodes := by
    unfold Topology.role
    split <;> simp [*]
  cases group with
  | all => simp [Topology.members, hremote, hrole]
  | coordinators => simp [Topology.members, hremote]
  | datanodes => simp [Topology.members, hrole]
  | none => simp [Topology.members]

-- ============================================= addresses in a dialogue

/-- The request goes to the right node as far as the dialogue tells: each phase
of a barrier to the nodes that it is for, and the request to prepare a branch
to a participant. -/
def Request.Addressed (topology : Topology) (log : List Exchange) :
    Request → Prop
  | .prepareBarrier node _ => node ∈ topology.remoteCoordinators
  | .executeBarrier node _ => node ∈ topology.members .all
  | .endBarrier node _ => node ∈ topology.remoteCoordinators
  | .prepareBranch node _ =>
      ∃ nodes, ⟨.participants, nodes⟩ ∈ log ∧ node ∈ nodes
  | _ => True

/-- All requests of a dialogue go to the right nodes. -/
def WellAddressed (topology : Topology) (log : List Exchange) : Prop :=
  ∀ x ∈ log, x.request.Addressed topology log

/-- What is addressed well in a dialogue is so in a longer one. -/
private theorem Request.Addressed.mono (h : r.Addressed topology log)
    (hsub : log ⊆ more) : r.Addressed topology more := by
  cases r with
  | prepareBranch node gid =>
      obtain ⟨nodes, hnodes, hnode⟩ := h
      exact ⟨nodes, hsub hnodes, hnode⟩
  | _ => exact h

/-- Two dialogues in a row are well addressed if both are. -/
private theorem WellAddressed.append (h : WellAddressed topology log)
    (h' : WellAddressed topology more) :
    WellAddressed topology (log ++ more) := by
  intro x hx
  rcases List.mem_append.mp hx with hx | hx
  · exact (h x hx).mono (List.subset_append_left log more)
  · exact (h' x hx).mono (List.subset_append_right log more)

/-- A request that is about neither a barrier nor a prepared transaction goes
to no wrong node. -/
private theorem addressed_of_reach (hbarrier : r.reach ≠ .barrier)
    (hprepared : r.reach ≠ .prepared) (log : List Exchange) :
    r.Addressed topology log := by
  cases r with
  | prepareBarrier | executeBarrier | endBarrier => exact absurd rfl hbarrier
  | prepareBranch => exact absurd rfl hprepared
  | _ => trivial

/-- A message of a barrier goes to a node of its phase. -/
private theorem addressed_of_ofBarrier (h : r.OfBarrier topology)
    (log : List Exchange) : r.Addressed topology log := by
  cases r with
  | prepareBarrier | executeBarrier | endBarrier => exact h
  | _ => exact False.elim h

private theorem addressed_of_undoes (h : r.Undoes) (log : List Exchange) :
    r.Addressed topology log := by
  cases r with
  | prepareBarrier | executeBarrier | endBarrier | prepareBranch =>
      exact False.elim h
  | _ => trivial

section courses

variable {gid : Gid} {nodes done : List Node}
  {result : Except Failure TagOverride}

/-- Branches are prepared of participants. -/
private theorem wellAddressed_begun (hdone : ∀ node ∈ done, node ∈ nodes)
    (topology : Topology) : WellAddressed topology (begun gid nodes done) := by
  intro x hx
  rcases mem_begun.mp hx with rfl | rfl | rfl | ⟨node, hnode, rfl⟩
  · trivial
  · trivial
  · trivial
  · exact ⟨nodes, mem_begun.mpr (.inr (.inr (.inl rfl))), hdone node hnode⟩

/-- To end the local side names no other node. -/
private theorem wellAddressed_ended (gid : Gid) (nodes : List Node)
    (record : Bool) (topology : Topology) :
    WellAddressed topology (ended gid nodes record) := by
  refine (wellAddressed_begun (fun _ hnode => hnode) topology).append
    fun x hx => ?_
  simp only [List.mem_cons, List.not_mem_nil, or_false] at hx
  rcases hx with rfl | rfl
  · trivial
  · cases record <;> trivial

/-- The exchange that stops a prepare is well addressed, and so is all before
it. -/
theorem Stops.wellAddressed {start : List Exchange} {last : Exchange}
    {record : Bool} (h : Stops gid nodes start last done record)
    (topology : Topology) : WellAddressed topology (start ++ [last]) := by
  cases h with
  | @refused _ rest node failure hsplit =>
      have hdone : ∀ other ∈ done, other ∈ nodes := by
        intro other hmem
        rw [hsplit]
        exact List.mem_append_left _ hmem
      have hparticipants :
          ⟨.participants, nodes⟩ ∈ begun gid nodes done :=
        mem_begun.mpr (.inr (.inr (.inl rfl)))
      intro x hx
      rcases List.mem_append.mp hx with hx | hx
      · exact (wellAddressed_begun hdone topology x hx).mono
          (List.subset_append_left ..)
      · obtain rfl := List.mem_singleton.mp hx
        refine ⟨nodes, List.mem_append_left _ hparticipants, ?_⟩
        rw [hsplit]
        exact List.mem_append_right _ List.mem_cons_self
  | unended record hreply =>
      rw [List.append_assoc]
      refine (wellAddressed_begun (fun _ hnode => hnode) topology).append
        fun x hx => ?_
      simp only [List.cons_append, List.nil_append, List.mem_cons,
        List.not_mem_nil, or_false] at hx
      rcases hx with rfl | rfl
      · trivial
      · cases record <;> trivial
  | unregistered record failure =>
      refine (wellAddressed_ended gid nodes record topology).append
        fun x hx => ?_
      obtain rfl := List.mem_singleton.mp hx
      trivial

/-- Only nodes that are named as participants are asked to prepare their
branches. -/
theorem Course.wellAddressed (h : Course gid log result)
    (topology : Topology) : WellAddressed topology log := by
  cases h with
  | inUse t =>
      intro x hx
      obtain rfl := List.mem_singleton.mp hx
      trivial
  | failedBlock reply ended =>
      intro x hx
      simp only [List.mem_cons, List.not_mem_nil, or_false] at hx
      rcases hx with rfl | rfl | rfl | rfl <;> trivial
  | stopped hstop hunrecord hundo =>
      rw [List.append_cons]
      exact (hstop.wellAddressed topology).append fun x hx =>
        addressed_of_undoes (undoes_rest hunrecord hundo x hx) _
  | registered nodes record =>
      refine (wellAddressed_ended gid nodes record topology).append
        fun x hx => ?_
      obtain rfl := List.mem_singleton.mp hx
      trivial

end courses

-- ==================================================== a whole dispatch

/-- A program that asks only such requests is well addressed. -/
private theorem wellAddressed_of_asks {α : Type} {p : Program α}
    (h : Asks (fun r => ∀ log, r.Addressed topology log) p) :
    p.Ensures fun log _ => WellAddressed topology log :=
  (Ensures.of_within h).imp fun log _ hlog x hx => hlog.1 x hx log

/-- To keep to the right addresses, whatever the world replies, is a property
that stays where one program follows another. -/
theorem sequential_wellAddressed (topology : Topology) :
    Sequential (fun r => ∀ log, r.Addressed topology log)
      fun p => p.Ensures fun log _ => WellAddressed topology log where
  ofAsks := wellAddressed_of_asks
  bind := by
    intro _ _ h hnext
    refine h.bind (fun _ u hlog => ?_) fun _ _ hlog => hlog
    exact (hnext u).imp fun _ _ hmore => hlog.append hmore
  after := by
    intro _ _ _ _ h hnext
    refine (Ensures.of_within h).bind (fun log value hlog => ?_)
      fun log _ hlog x hx => hlog.1 x hx log
    have hfirst : WellAddressed topology log := fun x hx => hlog.1 x hx log
    have hrest := hnext value (hlog.2 value rfl)
    exact hrest.imp fun _ _ hmore => hfirst.append hmore

private theorem serves_addressed (topology : Topology) (call : Call) :
    Serves (fun r => ∀ log, r.Addressed topology log) topology call where
  home := fun _ hr => addressed_of_reach (by simp [hr]) (by simp [hr])
  work := fun _ hr => addressed_of_reach (by simp [hr.reach])
    (by simp [hr.reach])
  beginRemote := fun _ _ _ => trivial
  setOption := fun _ _ _ _ => trivial
  clean := fun _ _ _ _ _ _ => trivial
  barrier := fun _ _ _ _ hr => addressed_of_ofBarrier hr

/-- Two-phase commit asks only participants to prepare their branches. -/
theorem wellAddressed_run {command : TransactionCommand}
    (hsome : command.gid?.isSome = true) (topology : Topology)
    (context : Context) :
    (command.run context).Ensures fun log _ => WellAddressed topology log := by
  have hfinish (gid : Gid) :
      TreatsFinish (fun r => ∀ log, r.Addressed topology log) gid :=
    ⟨fun _ => trivial, fun _ _ _ => trivial, fun _ _ _ => trivial,
      fun _ _ => trivial, fun _ _ => trivial⟩
  cases command with
  | prepare gid =>
      by_cases hfacing : context.isClientFacing = true
      · have hprogram : TransactionCommand.run context (.prepare gid)
            = prepareFromClient gid :=
          if_pos hfacing
        rw [hprogram]
        exact (course_prepareFromClient gid).imp fun _ _ hcourse =>
          hcourse.wellAddressed topology
      · have hrouted := Bool.eq_false_iff.mpr hfacing
        exact wellAddressed_of_asks (asks_run_routed hrouted
          (fun _ _ => trivial) (fun _ _ _ => trivial) hsome)
  | commitPrepared gid =>
      exact wellAddressed_of_asks (asks_run_finish (hfinish gid) true context)
  | rollbackPrepared gid =>
      exact wellAddressed_of_asks (asks_run_finish (hfinish gid) false context)
  | _ => cases hsome

/-- Whatever the world replies, all requests of a dispatch go to the right
nodes. -/
theorem wellAddressed_dispatch (config : Configuration) (i : Interceptor)
    (call : Call) :
    (dispatch config i call).Ensures fun log _ =>
      WellAddressed config.topology log := by
  induction call using dispatch_induction config with
  | h call ih =>
      refine sequential_dispatch (sequential_wellAddressed config.topology)
        config (serves_addressed config.topology call)
        (fun _ _ _ _ => trivial) ?_ i ih
      intro command hs hsome htop next hnext
      have hrun := wellAddressed_run hsome config.topology call.context
      refine hrun.bind (fun _ tag hlog => ?_) fun _ _ hlog => hlog
      exact (hnext tag).imp fun _ _ hmore => hlog.append hmore

-- ====================================================== participants

namespace Cluster

/-- The local node counts as written to only where it is listed as a
datanode. -/
structure EnlistsMembers (topology : Topology) (c : Cluster) : Prop where
  laidOut : c.topology = topology
  written : topology.localNode ∈ c.session.written → topology.role = .datanode

/-- What is sent enlists members of its group. -/
private theorem enlistsMembers_send (h : EnlistsMembers topology c)
    (request : RemoteRequest) :
    EnlistsMembers topology (c.send request).2 := by
  rcases send_cases c request with ⟨failure, hsend⟩ | hsend
  · rw [hsend]
    exact h
  · rw [hsend]
    refine ⟨h.laidOut, fun hmem => ?_⟩
    change topology.localNode ∈ (enlist c.session request _).written at hmem
    unfold enlist at hmem
    split at hmem
    · rcases NodeSet.mem_insertAll.mp hmem with hmember | hbefore
      · rw [h.laidOut] at hmember
        exact ((localNode_mem_members topology _).mp hmember).1
      · exact h.written hbefore
    · exact h.written hmem

/-- No other request enlists a node. -/
private theorem enlistsMembers_answer (r : Request)
    (h : EnlistsMembers topology c) :
    EnlistsMembers topology (answer r c).2 := by
  by_cases hsend : ∃ request, r = .send request
  · obtain ⟨request, rfl⟩ := hsend
    exact enlistsMembers_send h request
  refine ⟨(answered_answer r c).topology.trans h.laidOut,
    fun hmem => h.written ?_⟩
  by_cases habort : r = .abortBranches
  · subst habort
    exact absurd hmem NodeSet.not_mem_empty
  cases turns_answer r c with
  | goesOn hin hmark hwritten =>
      rwa [hwritten (fun request hr => hsend ⟨request, hr⟩) habort] at hmem
  | begins hr hout hin hjournal hwritten => rwa [hwritten] at hmem
  | ends hout hwritten =>
      rw [hwritten] at hmem
      exact absurd hmem NodeSet.not_mem_empty

/-- So it is at every moment of a dispatch, and after it. -/
theorem enlistsMembers_leads {α : Type} {p q : Program α}
    (hleads : Leads answer p c q d) (h : EnlistsMembers topology c) :
    EnlistsMembers topology d :=
  hleads.preserves (fun r _ => enlistsMembers_answer r) h

private theorem enlistsMembers_perform {α : Type} (p : Program α)
    (h : EnlistsMembers topology c) :
    EnlistsMembers topology (c.perform p).2 :=
  (Program.asks_anything p).preserves (fun r _ _ => enlistsMembers_answer r) h

end Cluster

/-- The move is dispatched under the layout of the cluster, or it declares no
nodes written to. -/
def Move.StaysOn (topology : Topology) : Move → Prop
  | .dispatch config _ _ => config.topology = topology
  | .touch _ => False
  | _ => True

/-- So it is after every run in which no nodes are declared. -/
private theorem enlistsMembers_reached (topology : Topology)
    (timestamp : String) {moves : List Move}
    (hmoves : ∀ m ∈ moves, m.StaysOn topology) :
    Cluster.EnlistsMembers topology
      (Cluster.reached topology timestamp moves) := by
  have hfresh : (Cluster.fresh topology timestamp).EnlistsMembers topology :=
    ⟨rfl, fun hmem => absurd hmem NodeSet.not_mem_empty⟩
  have halways :=
    Cluster.always_of_forall (P := fun _ m => m.StaysOn topology)
      (fun m hm _ => hmoves m hm) (Cluster.fresh topology timestamp)
  refine Cluster.after_induction (fun d m h hm => ?_) hfresh halways
  cases m with
  | dispatch config i call => exact Cluster.enlistsMembers_perform _ h
  | touch nodes => exact False.elim hm
  | restart =>
      exact ⟨h.laidOut, fun hmem => absurd hmem NodeSet.not_mem_empty⟩
  | _ => exact ⟨h.laidOut, h.written⟩

-- ====================================================== barriers

/-- The second phase of a barrier does not end well before each of its nodes is
asked. -/
theorem Barrier.mustAsk_execute {id : String} {stopped nodes : List Node}
    {node : Node} (hnode : node ∈ nodes) :
    (Barrier.execute id stopped nodes).MustAsk
      (· = .executeBarrier node id) := by
  induction nodes with
  | nil => cases hnode
  | cons first rest ih =>
      rcases List.mem_cons.mp hnode with rfl | hrest
      · unfold execute
        refine MustAsk.request_bind ?_ _
        rfl
      · refine MustAsk.bind_right fun reply => ?_
        cases reply with
        | ok _ => exact ih hrest
        | error cause => exact MustAsk.bind_right fun _ => MustAsk.fail _

/-- A BARRIER does not end well before it was written on every member of the
group of all nodes. -/
theorem mustAsk_barrier {id : Option String}
    (hs : call.statement = .barrier id) {node : Node}
    (hnode : node ∈ config.topology.members .all) (i : Interceptor) :
    (dispatch config i call).MustAsk fun r =>
      ∃ name, r = .executeBarrier node name := by
  refine mustAsk_dispatch (fun nested => ?_) i
  unfold runLocally
  rw [hs]
  refine MustAsk.bind_left ?_
  unfold Barrier.start
  split
  · refine MustAsk.bind_right fun name => ?_
    refine MustAsk.bind_left (MustAsk.bind_right fun _ => ?_)
    refine MustAsk.bind_left ?_
    refine (Barrier.mustAsk_execute hnode).imp
      fun log _ hasked value hvalue => ?_
    obtain ⟨x, hx, hr⟩ := hasked value hvalue
    exact ⟨x, hx, name, hr⟩
  · exact MustAsk.fail _

-- ==================================== how far the local node is remote

/-- The other node that is spoken to in a barrier, or to prepare its branch. -/
def Request.peer? : Request → Option Node
  | .prepareBarrier node _ => some node
  | .executeBarrier node _ => some node
  | .endBarrier node _ => some node
  | .prepareBranch node _ => some node
  | _ => none

/-- How far the local node takes itself for another one: as a datanode, if it
is listed as one, and never as a coordinator. -/
structure Cluster.RemoteAsDatanode (topology : Topology)
    (c : Cluster) : Prop where
  /-- It counts as written to exactly where it is a datanode and the open block
  sent to the datanodes. -/
  enlisted : topology.localNode ∈ c.session.written ↔
    topology.role = .datanode ∧ c.session.inBlock = true ∧
      ∃ request ∈ c.sentInBlock, request.autocommit = false ∧
        (request.group = .all ∨ request.group = .datanodes)
  /-- What a dispatch says to it, it says to a datanode: to write a barrier, or
  to prepare a branch. -/
  addressed : ∀ config i call, config.topology = topology →
    ∀ x ∈ exchanges answer (dispatch config i call) c,
      x.request.peer? = some topology.localNode →
      topology.role = .datanode ∧
        ((∃ id, x.request = .executeBarrier topology.localNode id) ∨
          ∃ gid, x.request = .prepareBranch topology.localNode gid)
  /-- A datanode is told of every barrier that succeeds. -/
  barrier : topology.role = .datanode → ∀ config i call id,
    config.topology = topology → call.statement = .barrier id →
    c.outcome (.dispatch config i call) = .ok () →
      ∃ x ∈ exchanges answer (dispatch config i call) c, ∃ name,
        x.request = .executeBarrier topology.localNode name
  /-- Where it counts as written to, its branch is prepared with the others. -/
  prepared : topology.localNode ∈ c.session.written →
    ∀ gid m, m.Issues (.prepare gid) true → c.outcome m = .ok () →
    (c.perform (prepareFromClient gid)).1 ≠ .ok rolledBackTag →
      ∃ events, (c.step m).journal = c.journal ++ events ∧
        .branchPrepared topology.localNode gid ∈ events

namespace Cluster

/-- The local node counts as written to where it is a datanode to which the
block sent something. -/
private theorem localNode_mem_written (hmembers : EnlistsMembers topology c)
    (hsent : c.WrittenAsSent) :
    topology.localNode ∈ c.session.written ↔
      topology.role = .datanode ∧ c.session.inBlock = true ∧
        ∃ request ∈ c.sentInBlock, request.autocommit = false ∧
          (request.group = .all ∨ request.group = .datanodes) := by
  cases hin : c.session.inBlock with
  | false =>
      rw [hsent.outside hin]
      refine iff_of_false NodeSet.not_mem_empty ?_
      rintro ⟨-, hblock, -⟩
      cases hblock
  | true =>
      rw [hsent.inside hin]
      unfold Enlisted
      rw [hmembers.laidOut]
      constructor
      · rintro ⟨request, hrequest, hinside, hmember⟩
        obtain ⟨hrole, hgroup⟩ := (localNode_mem_members topology _).mp hmember
        exact ⟨hrole, rfl, request, hrequest, hinside, hgroup⟩
      · rintro ⟨hrole, -, request, hrequest, hinside, hgroup⟩
        exact ⟨request, hrequest, hinside,
          (localNode_mem_members topology _).mpr ⟨hrole, hgroup⟩⟩

/-- Coordinators are spoken to as others only, and participants are nodes that
count as written to. -/
theorem role_of_peer (h : EnlistsMembers topology c) (config : Configuration)
    (htopology : config.topology = topology) (i : Interceptor) (call : Call)
    {x : Exchange}
    (hx : x ∈ exchanges answer (dispatch config i call) c)
    (hpeer : x.request.peer? = some topology.localNode) :
    topology.role = .datanode ∧
      ((∃ id, x.request = .executeBarrier topology.localNode id) ∨
        ∃ gid, x.request = .prepareBranch topology.localNode gid) := by
  have hlocal := localNode_not_mem_remoteCoordinators topology
  have haddressed := (wellAddressed_dispatch config i call).run answer c x hx
  rw [htopology] at haddressed
  obtain ⟨r, reply⟩ := x
  dsimp only at haddressed hpeer ⊢
  cases r with
  | prepareBarrier node id =>
      cases hpeer
      exact absurd haddressed hlocal
  | endBarrier node id =>
      cases hpeer
      exact absurd haddressed hlocal
  | executeBarrier node id =>
      cases hpeer
      exact ⟨((localNode_mem_members topology .all).mp haddressed).1,
        .inl ⟨id, rfl⟩⟩
  | prepareBranch node gid =>
      cases hpeer
      obtain ⟨nodes, hnodes, hmem⟩ := haddressed
      obtain ⟨next, v, hleads, hreply⟩ := leads_of_mem_exchanges hnodes
      obtain rfl : nodes = v.session.written.nodes := hreply
      exact ⟨(enlistsMembers_leads hleads h).written hmem, .inr ⟨gid, rfl⟩⟩
  | _ => cases hpeer

end Cluster

/-- Whatever the layout of the cluster, and after every run on it, the local
node takes itself for another one only where it is listed as a datanode, and
then it does: it is a member of the groups with the datanodes in them, so what
is sent to these enlists it, it asks itself to write every barrier, and it
prepares itself as a participant. Of the coordinators it is left out
everywhere. -/
theorem localNode_remote_only_as_datanode (topology : Topology)
    (timestamp : String) {moves : List Move}
    (hmoves : ∀ m ∈ moves, m.StaysOn topology) :
    (∀ group, topology.localNode ∈ topology.members group ↔
        topology.role = .datanode ∧ (group = .all ∨ group = .datanodes)) ∧
      (Cluster.reached topology timestamp moves).RemoteAsDatanode
        topology := by
  have hmembers := enlistsMembers_reached topology timestamp hmoves
  have hsent : (Cluster.reached topology timestamp moves).WrittenAsSent := by
    refine writtenAsSent_reached topology timestamp fun m hm nodes => ?_
    rintro rfl
    exact hmoves _ hm
  have hwritten := Cluster.localNode_mem_written hmembers hsent
  refine ⟨localNode_mem_members topology, ?_⟩
  refine
    { enlisted := hwritten
      addressed := fun config i call htopology x hx =>
        Cluster.role_of_peer hmembers config htopology i call hx
      barrier := fun hrole config i call id htopology hs hok => ?barrier
      prepared := fun hmem gid m hm hok hkept => ?prepared }
  case barrier =>
    have hnode : topology.localNode ∈ config.topology.members .all := by
      rw [htopology, localNode_mem_members]
      exact ⟨hrole, .inl rfl⟩
    exact (mustAsk_barrier hs hnode i).exists_mem hok
  case prepared =>
    obtain ⟨-, hin, -⟩ := hwritten.mp hmem
    obtain ⟨t, -, -, hparticipants, hjournal⟩ :=
      preparesEnlisted_step hsent hm hok hkept hin
    have hparticipant : topology.localNode ∈ t.participants :=
      (hparticipants _).mpr ((hsent.inside hin _).mp hmem)
    refine ⟨_, hjournal.trans (List.append_assoc ..),
      List.mem_append_left _ ?_⟩
    exact List.mem_map.mpr ⟨_, hparticipant, rfl⟩

/-- A coordinator that is a datanode as well. -/
def bothRoles : Configuration :=
  .withTopology .standard ⟨"coord1", ["coord1", "coord2"], ["coord1", "dn1"]⟩

/-- A client gives a statement to that node. -/
def atBothRoles (s : Statement) : Move :=
  .dispatch bothRoles .none ⟨s, s.tag, .topLevel .coordinator, true, false⟩

/-- In a block, a library is loaded on the datanodes. -/
def loadedInBlock : Cluster :=
  .reached bothRoles.topology "" [atBothRoles (.transaction (.begin [])),
    atBothRoles (.load "lib")]

/-- A coordinator that is listed as a datanode loads a library, prepares, and
writes a barrier: it does all of it also to itself. -/
theorem localNode_remote_only_as_datanode_bothRoles :
    bothRoles.validate = .ok () ∧ bothRoles.topology.role = .datanode ∧
      "coord1" ∈ bothRoles.topology.members .datanodes ∧
      "coord1" ∈ loadedInBlock.session.written ∧
      (∃ events,
        (loadedInBlock.step
            (atBothRoles (.transaction (.prepare "g")))).journal
          = loadedInBlock.journal ++ events ∧
        .branchPrepared "coord1" "g" ∈ events) ∧
      ∃ x ∈ exchanges answer (dispatch bothRoles .none
          ⟨.barrier (some "b1"), "BARRIER", .topLevel .coordinator, true,
            false⟩) loadedInBlock,
        ∃ name, x.request = .executeBarrier "coord1" name := by
  have hmoves : ∀ m ∈ [atBothRoles (.transaction (.begin [])),
      atBothRoles (.load "lib")], m.StaysOn bothRoles.topology := by
    intro m hm
    simp only [List.mem_cons, List.not_mem_nil, or_false] at hm
    rcases hm with rfl | rfl
    · rfl
    · rfl
  obtain ⟨hmembers, hremote⟩ :=
    localNode_remote_only_as_datanode bothRoles.topology "" hmoves
  have hrole : bothRoles.topology.role = .datanode := by decide
  have hwritten : "coord1" ∈ loadedInBlock.session.written :=
    hremote.enlisted.mpr ⟨hrole, rfl, _, List.mem_singleton_self _,
      rfl, .inr rfl⟩
  have hkept : (loadedInBlock.perform (prepareFromClient "g")).1
      ≠ .ok rolledBackTag := by
    intro h
    have hnone : (loadedInBlock.perform (prepareFromClient "g")).1
        = .ok none := rfl
    rw [hnone] at h
    cases h
  refine ⟨rfl, hrole, (hmembers .datanodes).mpr ⟨hrole, .inr rfl⟩,
    hwritten, ?_, ?_⟩
  · exact hremote.prepared hwritten "g"
      (atBothRoles (.transaction (.prepare "g"))) ⟨rfl, rfl⟩ rfl hkept
  · exact hremote.barrier hrole _ _ _ (some "b1") rfl rfl rfl

end ClusterUtility
