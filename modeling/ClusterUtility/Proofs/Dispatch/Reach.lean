/-
How far the requests of a dispatch reach.

`Request.reach` sorts requests by whom they reach: this node alone, by its
handlers or otherwise, other nodes by a message, the nodes of a barrier, or
those who keep prepared transactions. A dispatch asks little of the last three,
and its context says how much: messages only where it propagates, barriers only
where it is client-facing. What it asks about prepared transactions it asks
through one of the three commands that name such a transaction, and only at the
top level, since the gate refuses them inside an expansion.

# One call

What the local run of one call asks by itself can be told more closely:
`Serves` says what has to be permitted to it, statement by statement. Above
all, the handlers work for the statement that is dispatched and for no other
(`Request.WorksFor`). The statements that a call dispatches in turn are left
open, so any property of programs will do for them that stays where programs
follow one another (`sequential_dispatch`).

# All calls

`asks_dispatch` bounds a whole dispatch, expansions included, by any
predicate that permits these requests. The induction is on the levels that
are left below the limit of depth (`dispatch_induction`); a statement of an
expansion is one level deeper, permits at least what its parent does, and is
never at the top level.
-/
import ClusterUtility.Dispatch
import ClusterUtility.Proofs.Dispatch.Gate
import ClusterUtility.Proofs.Program.Within

namespace ClusterUtility

open Program (Asks Sequential Within note request ofReply sequential_asks)

-- ====================================================== reach

/-- Whom a request reaches. -/
inductive Reach where
  /-- This node alone, but for its handlers. -/
  | home
  /-- The handlers of this node. -/
  | work
  /-- Other nodes, or the settings that the pool keeps for them. -/
  | message
  /-- The nodes of a barrier. -/
  | barrier
  /-- Those who keep prepared transactions. -/
  | prepared
deriving DecidableEq

/-- Whom a request reaches. -/
def Request.reach : Request → Reach
  | .execute .. => .work
  | .defineRelation .. => .work
  | .createStorage .. => .work
  | .createForeignTable .. => .work
  | .alterTable _ => .work
  | .beginRemote _ => .message
  | .send _ => .message
  | .setSessionOption .. => .message
  | .prepareBarrier .. => .barrier
  | .executeBarrier .. => .barrier
  | .endBarrier .. => .barrier
  | .prepareBlock _ => .prepared
  | .finishLocal .. => .prepared
  | .prepareBranch .. => .prepared
  | .finishBranch .. => .prepared
  | .abortBranches => .prepared
  | .register _ => .prepared
  | .dropBranch .. => .prepared
  | .complete .. => .prepared
  | _ => .home

/-- This node alone is reached. -/
def Reach.isLocal : Reach → Bool
  | .home => true
  | .work => true
  | _ => false

/-- A handler is asked for a part of the work of a call. -/
def Request.WorksFor (call : Call) : Request → Prop
  | .execute s text => s = call.statement ∧ text = call.text
  | .defineRelation .. => call.statement.isPrimalCreate = true
  | .createStorage .. => call.statement.isPrimalCreate = true
  | .createForeignTable .. => call.statement.isPrimalCreate = true
  | .alterTable _ => ∃ alter, call.statement = .alterTable alter
  | _ => False

/-- A message of a barrier, to a node that this phase of the barrier is for. -/
def Request.OfBarrier (topology : Topology) : Request → Prop
  | .prepareBarrier node _ => node ∈ topology.remoteCoordinators
  | .executeBarrier node _ => node ∈ topology.members .all
  | .endBarrier node _ => node ∈ topology.remoteCoordinators
  | _ => False

/-- Below the top level, nothing is passed on. -/
theorem Context.not_propagates_of_nested {c : Context}
    (h : c.isTopLevel = false) : ¬ c.propagates = true := by
  unfold propagates
  rw [h, Bool.and_false]
  exact Bool.false_ne_true

/-- What does not come from a client is not passed on. -/
theorem Context.not_propagates_of_routed {c : Context}
    (h : c.isClientFacing = false) : ¬ c.propagates = true := by
  unfold propagates
  rw [h, Bool.false_and]
  exact Bool.false_ne_true

/-- A predicate permits what a dispatch asks in a context, but for prepared
transactions. -/
structure Permits (asks : Request → Prop) (c : Context) : Prop where
  home : ∀ r : Request, r.reach.isLocal = true → asks r
  message : c.propagates = true → ∀ r : Request, r.reach = .message → asks r
  barrier : c.isClientFacing = true →
    ∀ r : Request, r.reach = .barrier → asks r

/-- The request by which DROP DATABASE drops pooled connections elsewhere. -/
def cleanDatabaseRequest (database : String) : RemoteRequest :=
  .send (cleanDatabaseText database) .coordinators true

/-- A predicate permits what the local run of a call asks by itself, but for
prepared transactions. -/
structure Serves (asks : Request → Prop) (topology : Topology)
    (call : Call) : Prop where
  home : ∀ r : Request, r.reach = .home → asks r
  work : ∀ r : Request, r.WorksFor call → asks r
  beginRemote : call.context.propagates = true →
    ∀ query, asks (.beginRemote query)
  setOption : call.context.propagates = true →
    ∀ isLocal text, asks (.setSessionOption isLocal text)
  clean : call.context.propagates = true →
    (topology.members .coordinators).isEmpty = false →
    ∀ name missingOk, call.statement = .dropDatabase name missingOk →
      asks (.send (cleanDatabaseRequest name))
  barrier : call.context.isClientFacing = true →
    ∀ id, call.statement = .barrier id →
    ∀ r : Request, r.OfBarrier topology → asks r

variable {asks : Request → Prop} {call : Call}

/-- To permit all that is not about prepared transactions is enough. -/
theorem Permits.of_reach {c : Context}
    (h : ∀ r : Request, r.reach ≠ .prepared → asks r) : Permits asks c := by
  refine ⟨fun r hr => h r ?_, fun _ r hr => h r (by simp [hr]),
    fun _ r hr => h r (by simp [hr])⟩
  intro hprepared
  rw [hprepared] at hr
  cases hr

/-- What is permitted to a statement is permitted to those of its
expansion. -/
theorem Permits.sub {c : Context} (h : Permits asks c) :
    Permits asks c.forSubstatement where
  home := h.home
  message := fun hp => absurd hp (Context.not_propagates_of_nested rfl)
  barrier := h.barrier

/-- What reaches this node but for its handlers is permitted, too. -/
theorem Permits.chores {c : Context} (h : Permits asks c) (r : Request)
    (hr : r.reach = .home) : asks r := by
  refine h.home r ?_
  rw [hr]
  rfl

/-- The work of a call is for the handlers. -/
theorem Request.WorksFor.reach {r : Request} (h : r.WorksFor call) :
    r.reach = .work := by
  cases r with
  | execute | defineRelation | createStorage | createForeignTable
  | alterTable => rfl
  | _ => exact False.elim h

/-- A message of a barrier is for the nodes of one. -/
theorem Request.OfBarrier.reach {topology : Topology} {r : Request}
    (h : r.OfBarrier topology) : r.reach = .barrier := by
  cases r with
  | prepareBarrier | executeBarrier | endBarrier => rfl
  | _ => exact False.elim h

/-- What is permitted in a context serves every call in it. -/
theorem Permits.serves (h : Permits asks call.context) (topology : Topology) :
    Serves asks topology call where
  home := h.chores
  work := fun r hr => h.home r (by rw [hr.reach]; rfl)
  beginRemote := fun hp _ => h.message hp _ rfl
  setOption := fun hp _ _ => h.message hp _ rfl
  clean := fun hp _ _ _ _ => h.message hp _ rfl
  barrier := fun hc _ _ r hr => h.barrier hc r hr.reach

/-- What permits more serves as well. -/
theorem Serves.mono {asks' : Request → Prop} {topology : Topology}
    (h : Serves asks topology call) (hmono : ∀ r, asks r → asks' r) :
    Serves asks' topology call where
  home := fun r hr => hmono r (h.home r hr)
  work := fun r hr => hmono r (h.work r hr)
  beginRemote := fun hp query => hmono _ (h.beginRemote hp query)
  setOption := fun hp isLocal text => hmono _ (h.setOption hp isLocal text)
  clean := fun hp hmembers name missingOk hs =>
    hmono _ (h.clean hp hmembers name missingOk hs)
  barrier := fun hc id hs r hr => hmono r (h.barrier hc id hs r hr)

-- ============================================= handlers and expansions

/-- To write the tag asks nothing. -/
theorem asks_tellTag (call : Call) (text : String) :
    Asks asks (call.tellTag text) := by
  unfold Call.tellTag
  split <;> trivial

section work

variable (hwork : ∀ r : Request, r.WorksFor call → asks r)
include hwork

/-- A handler is asked to do its work, and that is all. -/
theorem asks_runHandler : Asks asks call.runHandler := by
  refine Asks.request_bind (hwork _ ⟨rfl, rfl⟩) fun reply => ?_
  refine Asks.bind (Asks.ofReply reply) fun handled => ?_
  show Asks asks (if call.takesRows = true then _ else _)
  split <;> trivial

/-- So it is where the number of rows does not matter. -/
private theorem asks_handle : Asks asks call.handle :=
  Asks.bind (asks_runHandler hwork) fun _ => trivial

/-- So it is where it does. -/
private theorem asks_handleCounted (command : String) :
    Asks asks (call.handleCounted command) := by
  refine Asks.bind (asks_runHandler hwork) fun count => ?_
  cases count with
  | none => trivial
  | some rows => exact asks_tellTag call _

/-- A table of an expansion is defined and given a place, with the counter
moved on in between. -/
private theorem asks_createTable
    (hprimal : call.statement.isPrimalCreate = true)
    (hhome : ∀ r : Request, r.reach = .home → asks r) (create : CreateTable) :
    Asks asks (createTable create) := by
  refine Asks.request_bind (hwork _ hprimal) fun reply => ?_
  refine Asks.bind (Asks.ofReply reply) fun relation => ?_
  refine Asks.request_bind (hhome _ rfl) fun _ => ?_
  exact Asks.request_bind (hwork _ hprimal) fun reply => Asks.ofReply reply

/-- A foreign table of an expansion is defined and created. -/
private theorem asks_createForeignTable
    (hprimal : call.statement.isPrimalCreate = true)
    (create : CreateForeignTable) : Asks asks (createForeignTable create) := by
  refine Asks.request_bind (hwork _ hprimal) fun reply => ?_
  refine Asks.bind (Asks.ofReply reply) fun relation => ?_
  exact Asks.request_bind (hwork _ hprimal) fun reply => Asks.ofReply reply

end work

section nested

variable (hhome : ∀ r : Request, r.reach = .home → asks r)
  {P : Program Unit → Prop} (hP : Sequential asks P)
include hhome hP

/-- Statements in sequence have a property that each of them has: the counter
is moved on between them. -/
private theorem sequential_inSequence {act : Statement → Program Unit}
    (hact : ∀ s, P (act s)) (statements : List Statement) :
    P (inSequence act statements) := by
  fun_induction inSequence act statements with
  | case1 => exact hP.ofAsks trivial
  | case2 s => exact hact s
  | case3 s rest hrest ih =>
      exact hP.bind (hact s) fun _ => hP.request_bind (hhome _ rfl) fun _ => ih

variable (hwork : ∀ r : Request, r.WorksFor call → asks r)
  {nested : Statement → Program Unit} (hnested : ∀ s, P (nested s))
include hwork hnested

/-- One of the statements that a call runs through has it, if their dispatches
have. -/
private theorem sequential_runExpanded (s : Statement) :
    P (runExpanded nested call.statement s) := by
  unfold runExpanded
  split
  next parent alter hparent =>
    have hasked : asks (.alterTable alter) := hwork _ ⟨parent, hparent⟩
    exact hP.ofAsks (Asks.request_bind hasked fun reply => Asks.ofReply reply)
  · split
    next hprimal => exact hP.ofAsks (asks_createTable hwork hprimal hhome _)
    next => exact hnested _
  · split
    next hprimal => exact hP.ofAsks (asks_createForeignTable hwork hprimal _)
    next => exact hnested _
  · exact hnested _

/-- So all of them together have it. -/
private theorem sequential_runExpansion : P (runExpansion nested call) := by
  refine hP.request_bind (hhome _ rfl) fun reply => ?_
  refine hP.ofReply_bind fun statements => ?_
  exact sequential_inSequence hhome hP
    (sequential_runExpanded hhome hP hwork hnested) statements

/-- So has CREATE SCHEMA with its elements. -/
private theorem sequential_createSchema (elements : List Statement) :
    P (createSchema nested call elements) := by
  have hschema : Asks asks call.withoutRows.handle := asks_handle hwork
  refine hP.after hschema fun _ _ => ?_
  refine hP.forEach (fun s => ?_) elements
  exact hP.request_bind (hhome _ rfl) fun _ => hnested s

end nested

-- ================================================== plans and messages

section plans

variable (hkind : ∀ name, asks (.relationKind name))
include hkind

/-- The catalog is asked for the kind of a relation. -/
private theorem asks_groupOf (name : QualifiedName) :
    Asks asks (Plan.groupOf name) := by
  refine Asks.request_bind (hkind name) fun reply => ?_
  exact Asks.bind (Asks.ofReply reply) fun _ => trivial

/-- To find the group that a plan is for asks the catalog alone. -/
private theorem asks_resolve (d : Destination) :
    Asks asks (Plan.resolve d) := by
  cases d with
  | group g => trivial
  | ofRelation name => exact asks_groupOf hkind name
  | ofRelations command names =>
      cases names with
      | nil => trivial
      | cons name rest =>
          refine Asks.bind (asks_groupOf hkind name) fun g => ?_
          refine Asks.bind (Asks.forEach (fun other => ?_) rest)
            fun _ => trivial
          refine Asks.bind (asks_groupOf hkind other) fun g' => ?_
          split <;> trivial

/-- Making a plan asks the catalog alone. -/
theorem asks_makePlan (s : Statement) : Asks asks (Plan.make s) := by
  unfold Plan.make
  split
  · trivial
  next route _ =>
    exact Asks.bind (asks_resolve hkind route.destination) fun _ => trivial

/-- Only a call that propagates has a plan. -/
theorem within_planCall (call : Call) :
    Within asks (fun plan => plan.isSome = true →
      call.context.propagates = true) (planCall call) := by
  unfold planCall
  split
  next hp =>
    exact Within.imp (asks_makePlan hkind call.statement) fun _ _ _ => hp
  next =>
    intro hnone
    cases hnone

end plans

/-- A statement is sent to other nodes where there are any. -/
theorem asks_propagate {topology : Topology} {text : String}
    {group : NodeGroup} {autocommit : Bool}
    (hsend : (topology.members group).isEmpty = false →
      asks (.send (.send text group autocommit))) :
    Asks asks (propagate topology text group autocommit) := by
  unfold propagate
  split
  · trivial
  next h =>
    have hmembers : (topology.members group).isEmpty = false :=
      (Bool.or_eq_false_iff.mp (Bool.eq_false_iff.mpr h)).2
    exact Asks.request_bind (hsend hmembers) fun reply =>
      Asks.ofRemoteReply reply

/-- The pool of this node is asked to drop connections. -/
theorem asks_cleanConnections (hhome : ∀ r : Request, r.reach = .home → asks r)
    (clean : CleanConnection) : Asks asks (cleanConnections clean) :=
  Asks.request_bind (hhome _ rfl) fun reply => Asks.ofRemoteReply reply

-- ====================================================== barriers

section barriers

variable {topology : Topology}
  (hbarrier : ∀ r : Request, r.OfBarrier topology → asks r)
include hbarrier

/-- A barrier is ended on coordinators. -/
private theorem asks_release (id : String) {nodes : List Node}
    (hnodes : ∀ node ∈ nodes, node ∈ topology.remoteCoordinators) :
    Asks asks (Barrier.release id nodes) := by
  induction nodes with
  | nil => trivial
  | cons node rest ih =>
      obtain ⟨hnode, hrest⟩ := List.forall_mem_cons.mp hnodes
      exact Asks.request_bind (hbarrier (.endBarrier node id) hnode)
        fun _ => ih hrest

/-- The first phase of a barrier asks coordinators, and ends the barrier on
those that are stopped if one refuses. -/
private theorem asks_prepare (id : String) {stopped nodes : List Node}
    (hstopped : ∀ node ∈ stopped, node ∈ topology.remoteCoordinators)
    (hnodes : ∀ node ∈ nodes, node ∈ topology.remoteCoordinators) :
    Asks asks (Barrier.prepare id stopped nodes) := by
  induction nodes generalizing stopped with
  | nil => trivial
  | cons node rest ih =>
      obtain ⟨hnode, hrest⟩ := List.forall_mem_cons.mp hnodes
      refine Asks.request_bind (hbarrier (.prepareBarrier node id) hnode)
        fun reply => ?_
      cases reply with
      | ok _ =>
          refine ih (fun other hmem => ?_) hrest
          rcases List.mem_append.mp hmem with hmem | hmem
          · exact hstopped other hmem
          · obtain rfl := List.mem_singleton.mp hmem
            exact hnode
      | error cause =>
          exact Asks.bind (asks_release hbarrier id hstopped) fun _ => trivial

/-- The second phase asks all nodes. -/
private theorem asks_execute (id : String) {stopped nodes : List Node}
    (hstopped : ∀ node ∈ stopped, node ∈ topology.remoteCoordinators)
    (hnodes : ∀ node ∈ nodes, node ∈ topology.members .all) :
    Asks asks (Barrier.execute id stopped nodes) := by
  induction nodes with
  | nil => trivial
  | cons node rest ih =>
      obtain ⟨hnode, hrest⟩ := List.forall_mem_cons.mp hnodes
      refine Asks.request_bind (hbarrier (.executeBarrier node id) hnode)
        fun reply => ?_
      cases reply with
      | ok _ => exact ih hrest
      | error cause =>
          exact Asks.bind (asks_release hbarrier id hstopped) fun _ => trivial

/-- The third phase asks the coordinators again. -/
private theorem asks_finish (id : String) {nodes : List Node}
    (hnodes : ∀ node ∈ nodes, node ∈ topology.remoteCoordinators) :
    Asks asks (Barrier.finish id nodes) := by
  induction nodes with
  | nil => trivial
  | cons node rest ih =>
      obtain ⟨hnode, hrest⟩ := List.forall_mem_cons.mp hnodes
      refine Asks.bind (p := Program.bind (request (.endBarrier node id)) _) ?_
        fun _ => ih hrest
      refine Asks.request_bind (hbarrier (.endBarrier node id) hnode)
        fun reply => ?_
      cases reply <;> trivial

end barriers

/-- A whole barrier asks its nodes, and this one for a timestamp and a
record. -/
theorem asks_barrier (hhome : ∀ r : Request, r.reach = .home → asks r)
    {c : Context} {topology : Topology}
    (hbarrier : c.isClientFacing = true →
      ∀ r : Request, r.OfBarrier topology → asks r)
    (id : Option String) : Asks asks (Barrier.start topology id c) := by
  unfold Barrier.start
  split
  next hc =>
    have hbarrier := hbarrier hc
    have hcoordinators : ∀ node ∈ topology.remoteCoordinators,
        node ∈ topology.remoteCoordinators :=
      fun _ hmem => hmem
    refine Asks.bind (p := Barrier.identify topology id) ?_ fun id => ?_
    · cases id with
      | some id => trivial
      | none => exact Asks.request_bind (hhome _ rfl) fun _ => trivial
    · refine Asks.bind (p := Barrier.run topology id) ?_ fun _ => trivial
      have hprepares := asks_prepare hbarrier id (List.forall_mem_nil _)
        hcoordinators
      have hexecutes := asks_execute hbarrier id hcoordinators
        fun node hmem => hmem
      refine Asks.bind hprepares fun _ => ?_
      refine Asks.bind hexecutes fun _ => ?_
      refine Asks.bind (p := Barrier.record id _) ?_ fun _ =>
        asks_finish hbarrier id hcoordinators
      refine Asks.request_bind (hhome _ rfl) fun reply => ?_
      cases reply with
      | ok _ => trivial
      | error cause =>
          exact Asks.bind (asks_release hbarrier id hcoordinators)
            fun _ => trivial
  next => trivial

-- ====================================================== the local run

/-- REINDEX asks its handler, if anything. -/
private theorem asks_runReindex
    (hwork : ∀ r : Request, r.WorksFor call → asks r)
    (objectType : ObjectType) : Asks asks (runReindex call objectType) := by
  unfold runReindex
  split
  · exact asks_handle hwork
  · exact asks_handle hwork
  · exact asks_handle hwork
  · trivial

/-- To begin asks the other nodes where the call propagates, and this one
everywhere. -/
private theorem asks_begin (hhome : ∀ r : Request, r.reach = .home → asks r)
    {c : Context}
    (hbegin : c.propagates = true → ∀ query, asks (.beginRemote query))
    (options : List TransactionOption) :
    Asks asks (beginTransaction options c) := by
  have hlocal : Asks asks (do
      ofReply (← request .beginBlock)
      Program.forEach (fun option => do
        ofReply (← request (.setOption option))) options) := by
    refine Asks.request_bind (hhome _ rfl) fun reply => ?_
    refine Asks.bind (Asks.ofReply reply) fun _ => ?_
    refine Asks.forEach (fun option => ?_) options
    exact Asks.request_bind (hhome _ rfl) fun reply => Asks.ofReply reply
  unfold beginTransaction
  dsimp only
  split
  next hp =>
    refine Asks.request_bind (hbegin hp _) fun reply => ?_
    exact Asks.bind (Asks.ofRemoteReply reply) fun _ => hlocal
  next => exact hlocal

/-- A command that names no prepared transaction asks nothing about one. -/
theorem asks_run (hhome : ∀ r : Request, r.reach = .home → asks r)
    {c : Context}
    (hbegin : c.propagates = true → ∀ query, asks (.beginRemote query))
    {command : TransactionCommand} (hgid : command.gid? = none) :
    Asks asks (command.run c) := by
  cases command with
  | begin options =>
      exact Asks.bind (asks_begin hhome hbegin options) fun _ => trivial
  | start options =>
      exact Asks.bind (asks_begin hhome hbegin options) fun _ => trivial
  | commit =>
      refine Asks.request_bind (hhome _ rfl) fun reply => ?_
      refine Asks.bind (Asks.ofReply reply) fun committed => ?_
      cases committed <;> trivial
  | rollback =>
      refine Asks.request_bind (hhome _ rfl) fun reply => ?_
      exact Asks.bind (Asks.ofReply reply) fun _ => trivial
  | savepoint name =>
      refine Asks.request_bind (hhome _ rfl) fun reply => ?_
      exact Asks.bind (Asks.ofReply reply) fun _ => trivial
  | release name =>
      refine Asks.request_bind (hhome _ rfl) fun reply => ?_
      exact Asks.bind (Asks.ofReply reply) fun _ => trivial
  | rollbackTo name =>
      refine Asks.request_bind (hhome _ rfl) fun reply => ?_
      exact Asks.bind (Asks.ofReply reply) fun _ => trivial
  | prepare gid => cases hgid
  | commitPrepared gid => cases hgid
  | rollbackPrepared gid => cases hgid

section serves

variable {topology : Topology} (h : Serves asks topology call)
include h

/-- A session command asks its handler, and then the pool where the call
propagates. -/
private theorem asks_runSessionCommand (isLocal untilCommit : Bool)
    (command : String) :
    Asks asks (runSessionCommand call isLocal untilCommit command) := by
  refine Asks.bind (asks_handle h.work) fun _ => ?_
  show Asks asks (if call.context.propagates = true then _ else _)
  split
  next hp =>
    refine Asks.request_bind (h.home _ rfl) fun inBlock => ?_
    show Asks asks (if (!(untilCommit && inBlock)) = true then _ else _)
    split
    · refine Asks.request_bind (h.setOption hp _ _) fun status => ?_
      show Asks asks (if status < 0 then _ else _)
      split <;> trivial
    · trivial
  next => trivial

/-- The requests that DROP DATABASE makes before its handler runs. -/
theorem asks_cleanDatabase (hp : call.context.propagates = true)
    {name : String} {missingOk : Bool}
    (hs : call.statement = .dropDatabase name missingOk) :
    Asks asks (cleanDatabase topology name) :=
  Asks.bind (asks_cleanConnections h.home _) fun _ =>
    asks_propagate fun hmembers => h.clean hp hmembers name missingOk hs

/-- What runs on this node, where the statements of an expansion and the
transaction commands have some property. -/
theorem sequential_runLocally {P : Program Unit → Prop}
    (hP : Sequential asks P) {nested : Statement → Program Unit}
    (hnested : ∀ s, P (nested s))
    (hcommand : ∀ command, call.statement = .transaction command →
      ∀ next : TagOverride → Program Unit, (∀ tag, P (next tag)) →
        P (Program.bind (command.run call.context) next)) :
    P (runLocally topology nested call) := by
  have hhandle : P call.handle := hP.ofAsks (asks_handle h.work)
  unfold runLocally
  cases hs : call.statement with
  | transaction command =>
      refine hcommand command hs _ fun tag => hP.ofAsks ?_
      cases tag with
      | none => trivial
      | some text => exact asks_tellTag call text
  | query q =>
      dsimp only
      split
      · exact hhandle
      · exact hP.ofAsks trivial
  | fetch f => exact hP.ofAsks (asks_handleCounted h.work _)
  | copy c => exact hP.ofAsks (asks_handleCounted h.work _)
  | createSchema name owner elements =>
      exact sequential_createSchema h.home hP h.work hnested elements
  | createTable create =>
      exact sequential_runExpansion h.home hP h.work hnested
  | createForeignTable create =>
      exact sequential_runExpansion h.home hP h.work hnested
  | alterTable alter => exact sequential_runExpansion h.home hP h.work hnested
  | createIndex i =>
      refine hP.request_bind (h.home _ rfl) fun reply => ?_
      exact hP.after (Asks.ofReply reply) fun _ _ => hhandle
  | checkpoint =>
      exact hP.ofAsks (Asks.request_bind (h.home _ rfl) fun reply =>
        Asks.ofReply reply)
  | reindex r => exact hP.ofAsks (asks_runReindex h.work r.objectType)
  | variableSet v =>
      exact hP.ofAsks (asks_runSessionCommand h v.isLocal v.isLocal "SET")
  | discard d =>
      exact hP.ofAsks (asks_runSessionCommand h false true "DISCARD")
  | dropDatabase name missingOk =>
      dsimp only
      split
      next hp => exact hP.after (asks_cleanDatabase h hp hs) fun _ _ => hhandle
      next => exact hhandle
  | cleanConnection clean =>
      exact hP.ofAsks (asks_cleanConnections h.home clean)
  | barrier id =>
      refine hP.ofAsks ?_
      exact Asks.bind (asks_barrier h.home (fun hc => h.barrier hc id hs) id)
        fun id => asks_tellTag call _
  | _ => exact hhandle

end serves

-- ==================================================== a whole dispatch

/-- A statement is classified by the objects of the session. -/
theorem asks_classify (hobjects : asks .sessionObjects) (s : Statement) :
    Asks asks (classify s) := by
  refine Asks.request_bind hobjects fun objects => ?_
  split <;> trivial

/-- The gate asks about the session alone, and at its end the context suits
the statement. -/
theorem within_passGate (hblock : asks .inBlock) (config : Configuration)
    (call : Call) :
    Within asks (fun _ => ∃ inBlock,
      checkContext call.statement call.context inBlock = .ok ())
        (passGate config call) := by
  unfold passGate
  refine Asks.bind (Asks.ofReply _) fun _ => ?_
  refine Asks.bind (Asks.ofReply _) fun _ => ?_
  refine Asks.request_bind hblock fun inBlock => ?_
  cases hcheck : checkContext call.statement call.context inBlock with
  | error failure => trivial
  | ok _ =>
      show Within asks _ (if call.statement.tag = unknownTag then _ else _)
      split
      · trivial
      · exact ⟨inBlock, hcheck⟩

/-- All that is sent by a plan is what the plan sends. -/
theorem asks_propagateAt {topology : Topology} {text : String}
    {plan : Option Plan}
    (hsend : ∀ p, plan = some p →
      asks (.send (.send text p.group p.autocommit)))
    (timing : Timing) : Asks asks (propagateAt topology text plan timing) := by
  cases plan with
  | none => trivial
  | some p =>
      show Asks asks (if p.timing = timing then _ else _)
      split
      · exact asks_propagate fun _ => hsend p rfl
      · trivial

/-- Around the process of a call whose depth is allowed there is nothing in its
dispatch but two notes, that the tag is cleared and that an interceptor saw the
call, and refusals. -/
theorem dispatch_of_process {P : Program Unit → Prop} {config : Configuration}
    {i : Interceptor} (hfail : ∀ failure, P (.fail failure))
    (hcleared : call.hasTag = true → ∀ p, P p →
      P (Program.bind (note .clearTag) fun _ => p))
    (hsighted : ∀ p, P p →
      P (Program.bind (note (.sighted (Interceptor.sighting call))) fun _ =>
        p))
    (hprocess : call.context.depth ≤ config.maxDepth →
      P (process config (fun s => dispatch config i (call.sub s)) call)) :
    P (dispatch config i call) := by
  have hlimited : P (if config.maxDepth < call.context.depth then
        .fail (.recursionLimit config.maxDepth)
      else process config (fun s => dispatch config i (call.sub s)) call) := by
    split
    · exact hfail _
    next hdepth => exact hprocess (Nat.not_lt.mp hdepth)
  have hstandard : P (standardDispatch config (dispatch config i) call) := by
    unfold standardDispatch
    dsimp only
    split
    next htag => exact hcleared htag _ hlimited
    · exact hlimited
  rw [dispatch_eq]
  cases i with
  | none => exact hstandard
  | standard => exact hstandard
  | recorder refused =>
      refine hsighted _ ?_
      split
      · exact hfail _
      · exact hstandard

section dispatch

variable {P : Program Unit → Prop} (hP : Sequential asks P)
  (config : Configuration) (h : Serves asks config.topology call)
  (hsend : call.context.propagates = true →
    ∀ group autocommit, asks (.send (.send call.text group autocommit)))
  (hcommand : ∀ command, call.statement = .transaction command →
    command.gid?.isSome = true → call.context.isTopLevel = true →
    ∀ next : TagOverride → Program Unit, (∀ tag, P (next tag)) →
      P (Program.bind (command.run call.context) next))
include hP h hsend hcommand

/-- The process of a call has a property if the dispatches that it makes in
turn have it. -/
private theorem sequential_process {nested : Statement → Program Unit}
    (hnested : ∀ s, P (nested s)) : P (process config nested call) := by
  have hplanCall := within_planCall (fun _ => h.home _ rfl) call
  have hrest : P (do
      passGate config call
      let plan ← planCall call
      propagateAt config.topology call.text plan .beforeLocal
      runLocally config.topology nested call
      propagateAt config.topology call.text plan .afterLocal) := by
    refine hP.after (within_passGate (h.home _ rfl) config call)
      fun _ ⟨inBlock, hcheck⟩ => ?_
    refine hP.after hplanCall fun plan hplan => ?_
    have hsent (timing : Timing) :
        P (propagateAt config.topology call.text plan timing) := by
      refine hP.ofAsks (asks_propagateAt (fun p hp => ?_) timing)
      exact hsend (hplan (Option.isSome_of_mem hp)) _ _
    refine hP.bind (hsent _) fun _ => hP.bind ?_ fun _ => hsent _
    refine sequential_runLocally h hP hnested fun command hs => ?_
    cases hgid : command.gid? with
    | none =>
        intro next hnext
        exact hP.after (asks_run h.home h.beginRemote hgid)
          fun tag _ => hnext tag
    | some gid =>
        have hsome : command.gid?.isSome = true := by
          rw [hgid]
          rfl
        rw [hs] at hcheck
        have htop := isTopLevel_of_checkContext hsome hcheck
        exact hcommand command hs hsome htop
  refine hP.after (asks_classify (h.home _ rfl) call.statement)
    fun level _ => ?_
  dsimp only
  split
  · exact hP.note_bind hrest
  · exact hrest

/-- A dispatch has a property if the dispatches that it makes in turn have
it. -/
theorem sequential_dispatch (i : Interceptor)
    (hnested : call.context.depth ≤ config.maxDepth →
      ∀ s, P (dispatch config i (call.sub s))) :
    P (dispatch config i call) := by
  refine dispatch_of_process (fun _ => hP.ofAsks trivial)
    (fun _ _ hp => hP.note_bind hp) (fun _ hp => hP.note_bind hp)
    fun hdepth => ?_
  exact sequential_process hP config h hsend hcommand (hnested hdepth)

end dispatch

/-- What is so of a call whenever it is so of the statements it dispatches in
turn is so of every call. -/
theorem dispatch_induction (config : Configuration) {motive : Call → Prop}
    (h : ∀ call : Call,
      (call.context.depth ≤ config.maxDepth → ∀ s, motive (call.sub s)) →
      motive call) (call : Call) : motive call := by
  generalize hlevels : config.maxDepth + 1 - call.context.depth = levels
  induction levels generalizing call with
  | zero => exact h call fun hdepth => absurd hlevels (by omega)
  | succ levels ih =>
      refine h call fun hdepth s => ih (call.sub s) ?_
      show config.maxDepth + 1 - (call.context.depth + 1) = levels
      omega

/-- A dispatch asks what is permitted, and beyond that only what its own
command asks about a prepared transaction. -/
theorem asks_dispatch (h : Permits asks call.context) (config : Configuration)
    (i : Interceptor)
    (hcommand : ∀ command, call.statement = .transaction command →
      command.gid?.isSome = true → call.context.isTopLevel = true →
      Asks asks (command.run call.context)) :
    Asks asks (dispatch config i call) := by
  induction call using dispatch_induction config with
  | h call ih =>
      refine sequential_dispatch (sequential_asks asks) config (h.serves _)
        (fun hp _ _ => h.message hp _ rfl) ?_ i fun hdepth s => ?_
      · intro command hs hsome htop next hnext
        exact Asks.bind (hcommand command hs hsome htop) hnext
      · -- below the top level there is no such command left
        refine ih hdepth s h.sub fun _ _ _ htop => ?_
        exact absurd htop Bool.false_ne_true

/-- Below the top level, a dispatch asks this node and the nodes of
barriers. -/
theorem asks_dispatch_nested (hnested : call.context.isTopLevel = false)
    (hhome : ∀ r : Request, r.reach.isLocal = true → asks r)
    (hbarrier : ∀ r : Request, r.reach = .barrier → asks r)
    (config : Configuration) (i : Interceptor) :
    Asks asks (dispatch config i call) := by
  have hlocal := Context.not_propagates_of_nested hnested
  have hpermits : Permits asks call.context :=
    ⟨hhome, fun hp => absurd hp hlocal, fun _ => hbarrier⟩
  refine asks_dispatch hpermits config i fun _ _ _ htop => ?_
  rw [hnested] at htop
  cases htop

end ClusterUtility
