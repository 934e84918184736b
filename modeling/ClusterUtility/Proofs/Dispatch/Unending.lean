/-
Failures of a recursion that does not end.

Two failures tell of one: expansions stand inside one another deeper than is
allowed, and prepared statements execute one another without end. Neither
comes from a request, since no answer tells of it, and neither comes from the
parts that a dispatch is made of: they arise where a call is looked at before
anything is done for it.

# Tame programs

A program is tame if it does not fail so by itself, whatever it is told
(`Program.Tame`); where a request is refused, the failure that it hands on is
the one of the reply. The parts are gone through one by one, up to the local
run of a statement that is not compound (`tame_runLocally`), and a tame
program does not fail so on any cluster (`isUnending_of_tame`).
-/
import ClusterUtility.Proofs.Dispatch.Explained

namespace ClusterUtility

open Program (request ofReply ofRemoteReply)

variable {α β : Type}

-- ====================================================== the failures

/-- The failure tells of a recursion that does not end. -/
def Failure.isUnending : Failure → Bool
  | .recursionLimit _ => true
  | .endlessExecution _ => true
  | _ => false

/-- The failure that a reply tells of. -/
def failure? (reply : Except Failure α) : Option Failure :=
  match reply with
  | .ok _ => none
  | .error f => some f

/-- A reply tells of a failure where it is that failure. -/
private theorem failure?_eq_some {reply : Except Failure α} {f : Failure} :
    failure? reply = some f ↔ reply = .error f := by
  cases reply <;> simp [failure?]

/-- The failure of this layer that a reply tells of. -/
def Request.told? : (r : Request) → r.Reply → Option Failure
  | .execute .., reply => failure? reply
  | .expand .., reply => failure? reply
  | .defineRelation .., reply => failure? reply
  | .createStorage .., reply => failure? reply
  | .createForeignTable .., reply => failure? reply
  | .alterTable _, reply => failure? reply
  | .checkOwnership _, reply => failure? reply
  | .checkpoint _, reply => failure? reply
  | .beginBlock, reply => failure? reply
  | .setOption _, reply => failure? reply
  | .endBlock, reply => failure? reply
  | .abortBlock, reply => failure? reply
  | .prepareBlock _, reply => failure? reply
  | .finishLocal .., reply => failure? reply
  | .defineSavepoint _, reply => failure? reply
  | .releaseSavepoint _, reply => failure? reply
  | .rollbackToSavepoint _, reply => failure? reply
  | .register _, reply => failure? reply
  | .relationKind _, reply => failure? reply
  | .recordBarrier _, reply => failure? reply
  | _, _ => none

/-- No answer tells of a recursion that does not end. -/
theorem isUnending_of_told {r : Request} {c : Cluster} {f : Failure}
    (h : r.told? (Cluster.answer r c).1 = some f) : f.isUnending = false := by
  cases r with
  | execute s text =>
      obtain ⟨⟨text, rfl⟩, -⟩ := Cluster.execute_error (failure?_eq_some.mp h)
      rfl
  | alterTable alter =>
      obtain ⟨⟨text, rfl⟩, -⟩ :=
        Cluster.alterTable_error (failure?_eq_some.mp h)
      rfl
  | defineRelation create kind =>
      obtain ⟨rfl, -⟩ := Cluster.defineRelation_error (failure?_eq_some.mp h)
      rfl
  | prepareBlock gid =>
      obtain rfl := Cluster.prepareBlock_error (failure?_eq_some.mp h)
      rfl
  | finishLocal gid commit =>
      obtain rfl := Cluster.finishLocal_error (failure?_eq_some.mp h)
      rfl
  | releaseSavepoint name =>
      obtain ⟨rfl, -⟩ := Cluster.releaseSavepoint_error (failure?_eq_some.mp h)
      rfl
  | rollbackToSavepoint name =>
      obtain ⟨rfl, -⟩ :=
        Cluster.rollbackToSavepoint_error (failure?_eq_some.mp h)
      rfl
  | register t =>
      rcases Cluster.register_error (failure?_eq_some.mp h) with rfl | rfl
      · rfl
      · rfl
  | relationKind name =>
      obtain rfl := Cluster.relationKind_error (failure?_eq_some.mp h)
      rfl
  | _ => cases h

-- ====================================================== tame programs

namespace Program

/-- Whatever it is told, the program fails for no recursion that does not
end. -/
def Tame : Program α → Prop
  | .done _ => True
  | .fail f => f.isUnending = false
  | .ask r next =>
      ∀ reply, (∀ f, r.told? reply = some f → f.isUnending = false) →
        (next reply).Tame
  | .tell _ next => next.Tame

namespace Tame

/-- A program in two parts is tame if both are. -/
theorem bind {p : Program α} {next : α → Program β} (hp : p.Tame)
    (hnext : ∀ value, (next value).Tame) : (Program.bind p next).Tame := by
  induction p with
  | done value => exact hnext value
  | fail f => exact hp
  | ask r rest ih =>
      intro reply htold
      exact ih reply (hp reply htold)
  | tell n rest ih => exact ih hp

theorem request (r : Request) : (Program.request r).Tame := fun _ _ => trivial

/-- A request whose reply tells of no failure of this layer. -/
theorem request_bind {r : Request} {next : r.Reply → Program β}
    (hnext : ∀ reply, (next reply).Tame) :
    (Program.bind (Program.request r) next).Tame :=
  fun reply _ => hnext reply

/-- A request, and what is done with its value; a refusal is handed on. -/
theorem ofReply_bind {τ : Type} (r : Request)
    (toReply : r.Reply → Except Failure τ)
    (htold : ∀ reply, r.told? reply = failure? (toReply reply))
    {next : τ → Program β} (hnext : ∀ value, (next value).Tame) :
    (Program.bind (Program.request r) fun reply =>
      Program.bind (ofReply (toReply reply)) next).Tame := by
  intro reply hfailure
  show (Program.bind (ofReply (toReply reply)) next).Tame
  cases hreply : toReply reply with
  | ok value => exact hnext value
  | error f =>
      refine hfailure f ?_
      rw [htold, failure?_eq_some]
      exact hreply

/-- A request that is the last thing the program does. -/
theorem request_ofReply {τ : Type} (r : Request)
    (toReply : r.Reply → Except Failure τ)
    (htold : ∀ reply, r.told? reply = failure? (toReply reply)) :
    (Program.bind (Program.request r) fun reply =>
      ofReply (toReply reply)).Tame := by
  have hdone (value : τ) : (Program.done value).Tame := trivial
  have h := ofReply_bind r toReply htold hdone
  simpa only [Program.bind_done] using h

/-- The reply of another node is no failure of this kind. -/
theorem ofRemoteReply (reply : Except TransportFailure α) :
    (ofRemoteReply reply).Tame := by
  cases reply <;> trivial

/-- An act for each item of a list is tame if the act is. -/
theorem forEach {act : α → Program Unit} (hact : ∀ item, (act item).Tame)
    (items : List α) : (Program.forEach act items).Tame := by
  induction items with
  | nil => trivial
  | cons item rest ih => exact (hact item).bind fun _ => ih

end Tame

end Program

open Program (Tame)

/-- On a cluster, a tame program fails for no recursion that does not end. -/
theorem isUnending_of_tame {p : Program α} (h : p.Tame) {c d : Cluster}
    {f : Failure} (hfail : c.perform p = (.error f, d)) :
    f.isUnending = false := by
  induction p generalizing c with
  | done value => cases hfail
  | fail g =>
      obtain rfl := Except.error.inj (Prod.mk.inj hfail).1
      exact h
  | ask r next ih =>
      refine ih _ (h _ ?_) hfail
      intro g htold
      exact isUnending_of_told htold
  | tell n next ih => exact ih h hfail

-- ====================================================== handlers

private theorem tame_tellTag (call : Call) (text : String) :
    (call.tellTag text).Tame := by
  unfold Call.tellTag
  split <;> trivial

/-- A handler that fails tells of no recursion. -/
private theorem tame_runHandler (call : Call) : call.runHandler.Tame := by
  refine Tame.ofReply_bind (.execute call.statement call.text) id
    (fun _ => rfl) fun handled => ?_
  split <;> trivial

/-- So it is where the number of rows does not matter. -/
theorem tame_handle (call : Call) : call.handle.Tame :=
  (tame_runHandler call).bind fun _ => trivial

/-- So it is where it does. -/
private theorem tame_handleCounted (call : Call) (command : String) :
    (call.handleCounted command).Tame := by
  refine (tame_runHandler call).bind fun count => ?_
  cases count with
  | none => trivial
  | some rows => exact tame_tellTag call _

/-- A table of an expansion is made without a dispatch. -/
theorem tame_createTable (create : CreateTable) :
    (createTable create).Tame := by
  refine Tame.ofReply_bind (.defineRelation create .table) id (fun _ => rfl)
    fun relation => ?_
  refine Tame.request_bind fun _ => ?_
  exact Tame.request_ofReply (.createStorage relation create) id fun _ => rfl

/-- So is a foreign table. -/
theorem tame_createForeignTable (create : CreateForeignTable) :
    (createForeignTable create).Tame := by
  refine Tame.ofReply_bind (.defineRelation create.table .foreignTable) id
    (fun _ => rfl) fun relation => ?_
  exact Tame.request_ofReply (.createForeignTable relation create) id
    fun _ => rfl

-- ================================================== plans and messages

/-- The catalog tells of no recursion. -/
private theorem tame_groupOf (name : QualifiedName) :
    (Plan.groupOf name).Tame :=
  Tame.ofReply_bind (.relationKind name) id (fun _ => rfl) fun _ => trivial

/-- A plan is refused for what the catalog has, and for nothing that is
dispatched. -/
private theorem tame_makePlan (s : Statement) : (Plan.make s).Tame := by
  unfold Plan.make
  split
  · trivial
  next route _ =>
    refine Tame.bind ?_ fun _ => trivial
    cases route.destination with
    | group g => trivial
    | ofRelation name => exact tame_groupOf name
    | ofRelations command names =>
        cases names with
        | nil => trivial
        | cons name rest =>
            refine (tame_groupOf name).bind fun g => ?_
            refine (Tame.forEach (fun other => ?_) rest).bind fun _ => trivial
            refine (tame_groupOf other).bind fun g' => ?_
            split <;> trivial

/-- So it is with the plan of a call. -/
theorem tame_planCall (call : Call) : (planCall call).Tame := by
  unfold planCall
  split
  · exact tame_makePlan call.statement
  · trivial

/-- A message fails on its way and not for a recursion. -/
private theorem tame_propagate (topology : Topology) (text : String)
    (group : NodeGroup) (autocommit : Bool) :
    (propagate topology text group autocommit).Tame := by
  unfold propagate
  split
  · trivial
  · exact Tame.request_bind fun reply => Tame.ofRemoteReply reply

/-- So does a plan that is carried out. -/
theorem tame_propagateAt (topology : Topology) (text : String)
    (plan : Option Plan) (timing : Timing) :
    (propagateAt topology text plan timing).Tame := by
  cases plan with
  | none => trivial
  | some plan =>
      unfold propagateAt
      dsimp only
      split
      · exact tame_propagate topology text plan.group plan.autocommit
      · trivial

private theorem tame_cleanConnections (clean : CleanConnection) :
    (cleanConnections clean).Tame :=
  Tame.request_bind fun reply => Tame.ofRemoteReply reply

/-- A session command fails in its handler or in the pool. -/
private theorem tame_runSessionCommand (call : Call)
    (isLocal untilCommit : Bool) (command : String) :
    (runSessionCommand call isLocal untilCommit command).Tame := by
  refine (tame_handle call).bind fun _ => ?_
  split
  · refine Tame.request_bind fun inBlock => ?_
    split
    · refine Tame.request_bind fun status => ?_
      split <;> trivial
    · trivial
  · trivial

/-- REINDEX fails in its handler, or since it is for no such object. -/
private theorem tame_runReindex (call : Call) (objectType : ObjectType) :
    (runReindex call objectType).Tame := by
  unfold runReindex
  split
  · exact tame_handle call
  · exact tame_handle call
  · exact tame_handle call
  · rfl

-- ====================================================== barriers

private theorem tame_release (id : String) (nodes : List Node) :
    (Barrier.release id nodes).Tame := by
  refine Tame.forEach (fun node => Tame.request_bind fun _ => ?_) nodes
  trivial

/-- The first phase of a barrier fails for a node that refuses. -/
private theorem tame_prepareBarrier (id : String) (stopped nodes : List Node) :
    (Barrier.prepare id stopped nodes).Tame := by
  induction nodes generalizing stopped with
  | nil => trivial
  | cons node rest ih =>
      refine Tame.request_bind fun reply => ?_
      cases reply with
      | ok _ => exact ih _
      | error cause => exact (tame_release id stopped).bind fun _ => rfl

/-- The second phase does, too. -/
private theorem tame_executeBarrier (id : String) (stopped nodes : List Node) :
    (Barrier.execute id stopped nodes).Tame := by
  induction nodes with
  | nil => trivial
  | cons node rest ih =>
      refine Tame.request_bind fun reply => ?_
      cases reply with
      | ok _ => exact ih
      | error cause => exact (tame_release id stopped).bind fun _ => rfl

/-- The record of a barrier fails as this node says. -/
private theorem tame_recordBarrier (id : String) (stopped : List Node) :
    (Barrier.record id stopped).Tame := by
  intro reply htold
  cases reply with
  | ok _ => trivial
  | error cause =>
      exact (tame_release id stopped).bind fun _ => htold cause rfl

/-- A barrier fails in one of its phases. -/
private theorem tame_barrier (topology : Topology) (given : Option String)
    (context : Context) : (Barrier.start topology given context).Tame := by
  unfold Barrier.start
  split
  · refine Tame.bind (p := Barrier.identify topology given) ?_ fun id => ?_
    · cases given with
      | some id => trivial
      | none => exact Tame.request_bind fun _ => trivial
    · refine Tame.bind (p := Barrier.run topology id) ?_ fun _ => trivial
      refine (tame_prepareBarrier id [] _).bind fun _ => ?_
      refine (tame_executeBarrier id _ _).bind fun _ => ?_
      refine (tame_recordBarrier id _).bind fun _ => ?_
      refine Tame.forEach (fun node => Tame.request_bind fun reply => ?_) _
      cases reply <;> trivial
  · rfl

-- ================================================ transaction commands

/-- To begin fails here or on other nodes. -/
private theorem tame_begin (options : List TransactionOption)
    (context : Context) : (beginTransaction options context).Tame := by
  have hlocal : Tame (Program.bind (request .beginBlock) fun reply =>
      Program.bind (ofReply reply) fun _ =>
        Program.forEach (fun option => do
          ofReply (← request (.setOption option))) options) := by
    refine Tame.ofReply_bind .beginBlock id (fun _ => rfl) fun _ => ?_
    refine Tame.forEach (fun option => ?_) options
    exact Tame.request_ofReply (.setOption option) id fun _ => rfl
  unfold beginTransaction
  dsimp only
  split
  · exact Tame.request_bind fun reply =>
      (Tame.ofRemoteReply reply).bind fun _ => hlocal
  · exact hlocal

/-- To roll branches back fails for nothing: those in doubt are only listed. -/
private theorem tame_rollBackBranches (gid : Gid) (nodes : List Node) :
    (rollBackBranches gid nodes).Tame := by
  induction nodes with
  | nil => trivial
  | cons node rest ih =>
      refine Tame.request_bind fun reply => ih.bind fun inDoubt => ?_
      cases reply <;> trivial

/-- What goes wrong while a PREPARE is undone is not reported. -/
theorem tame_undoPrepare (gid : Gid) (prepared : List Node) :
    (undoPrepare gid prepared).Tame := by
  refine (tame_rollBackBranches gid prepared).bind fun inDoubt => ?_
  have hrest : Tame (Program.bind (request .abortBranches) fun _ =>
      Program.bind (request .abortBlock) fun _ => .done ()) :=
    Tame.request_bind fun _ => Tame.request_bind fun _ => trivial
  dsimp only
  split
  · exact Tame.request_bind fun _ => hrest
  · exact hrest

/-- To prepare branches fails for a node that refuses, and after the
undoing. -/
private theorem tame_prepareBranches (gid : Gid) (prepared nodes : List Node) :
    (prepareBranches gid prepared nodes).Tame := by
  induction nodes generalizing prepared with
  | nil => trivial
  | cons node rest ih =>
      refine Tame.request_bind fun reply => ?_
      cases reply with
      | ok _ => exact ih _
      | error failure =>
          exact (tame_undoPrepare gid prepared).bind fun _ => rfl

/-- To register fails as the registry says. -/
private theorem tame_registerPrepared (gid : Gid) (branches : List Node)
    (hasRecord : Bool) : (registerPrepared gid branches hasRecord).Tame := by
  intro reply htold
  cases reply with
  | ok _ => trivial
  | error failure =>
      have hundo : Tame (Program.bind (undoPrepare gid branches) fun _ =>
          (.fail failure : Program TagOverride)) :=
        (tame_undoPrepare gid branches).bind fun _ => htold failure rfl
      cases hasRecord with
      | true => exact Tame.request_bind fun _ => hundo
      | false => exact hundo

/-- The local side of a PREPARE, and what follows it, whichever request it is
ended by. -/
theorem tame_endLocalSide (gid : Gid) (hasRecord : Bool)
    {next : Except Failure Bool → Program TagOverride}
    (hok : ∀ value, (next (.ok value)).Tame)
    (herror : ∀ f, f.isUnending = false → (next (.error f)).Tame) :
    (Program.bind (endLocalSide gid hasRecord) next).Tame := by
  have hreply (reply : Except Failure Bool)
      (htold : ∀ f, failure? reply = some f → f.isUnending = false) :
      (next reply).Tame := by
    cases reply with
    | ok value => exact hok value
    | error f => exact herror f (htold f rfl)
  cases hasRecord with
  | true => exact fun reply htold => hreply reply htold
  | false => exact fun reply htold => hreply reply htold

/-- A client's PREPARE TRANSACTION fails in one of its phases. -/
private theorem tame_prepareFromClient (gid : Gid) :
    (prepareFromClient gid).Tame := by
  refine Tame.request_bind fun known => ?_
  split
  · rfl
  refine Tame.request_bind fun failed => ?_
  cases failed with
  | true =>
      refine Tame.request_bind fun _ => ?_
      exact Tame.ofReply_bind (.prepareBlock gid) id (fun _ => rfl)
        fun _ => trivial
  | false =>
      refine Tame.request_bind fun branches => ?_
      refine (tame_prepareBranches gid [] branches).bind fun _ => ?_
      refine Tame.request_bind fun hasRecord => ?_
      refine tame_endLocalSide gid hasRecord (fun ended => ?_) fun f hf => ?_
      · cases ended with
        | true => exact tame_registerPrepared gid branches hasRecord
        | false => exact (tame_undoPrepare gid branches).bind fun _ => trivial
      · exact (tame_undoPrepare gid branches).bind fun _ => hf

/-- A client's COMMIT PREPARED or ROLLBACK PREPARED fails for a node that does
not answer, or for what the registry has. -/
private theorem tame_finishFromClient (gid : Gid) (commit : Bool) :
    (finishFromClient gid commit).Tame := by
  refine Tame.request_bind fun found => ?_
  cases found with
  | none => rfl
  | some t =>
      have hregistered : (finishRegistered t gid commit).Tame := by
        refine Tame.bind (Tame.forEach (fun node => ?_) _) fun _ => ?_
        · refine Tame.request_bind fun reply => ?_
          cases reply with
          | ok _ => exact Tame.request _
          | error failure => rfl
        · dsimp only
          split
          · exact Tame.ofReply_bind (.finishLocal gid commit) id (fun _ => rfl)
              fun _ => Tame.request _
          · exact Tame.request _
      dsimp only
      split
      · exact hregistered
      · rfl

/-- So it is with one that a coordinator sends. -/
private theorem tame_finishPrepared (gid : Gid) (commit : Bool)
    (context : Context) : (finishPrepared gid commit context).Tame := by
  unfold finishPrepared
  split
  · exact tame_finishFromClient gid commit
  · exact Tame.request_ofReply (.finishLocal gid commit) id fun _ => rfl

/-- So it is with a PREPARE TRANSACTION that a coordinator sends. -/
private theorem tame_prepareTransaction (gid : Gid) (context : Context) :
    (prepareTransaction gid context).Tame := by
  unfold prepareTransaction
  split
  · exact tame_prepareFromClient gid
  · refine Tame.ofReply_bind (.prepareBlock gid) id (fun _ => rfl)
      fun prepared => ?_
    cases prepared <;> trivial

/-- No transaction command fails for a recursion that does not end. -/
private theorem tame_run (command : TransactionCommand) (context : Context) :
    (command.run context).Tame := by
  cases command with
  | «begin» options => exact (tame_begin options context).bind fun _ => trivial
  | start options => exact (tame_begin options context).bind fun _ => trivial
  | commit =>
      refine Tame.ofReply_bind .endBlock id (fun _ => rfl) fun committed => ?_
      cases committed <;> trivial
  | rollback =>
      exact Tame.ofReply_bind .abortBlock id (fun _ => rfl) fun _ => trivial
  | savepoint name =>
      exact Tame.ofReply_bind (.defineSavepoint name) id (fun _ => rfl)
        fun _ => trivial
  | release name =>
      exact Tame.ofReply_bind (.releaseSavepoint name) id (fun _ => rfl)
        fun _ => trivial
  | rollbackTo name =>
      exact Tame.ofReply_bind (.rollbackToSavepoint name) id (fun _ => rfl)
        fun _ => trivial
  | prepare gid => exact tame_prepareTransaction gid context
  | commitPrepared gid =>
      exact (tame_finishPrepared gid true context).bind fun _ => trivial
  | rollbackPrepared gid =>
      exact (tame_finishPrepared gid false context).bind fun _ => trivial

-- ====================================================== the local run

/-- Where nothing else is carried out, nothing is dispatched. -/
theorem tame_runLocally {call : Call}
    (hsimple : call.statement.isCompound = false) (topology : Topology)
    (nested : Statement → Program Unit) :
    (runLocally topology nested call).Tame := by
  have hhandle : call.handle.Tame := tame_handle call
  unfold runLocally
  cases hs : call.statement with
  | createSchema | createTable | createForeignTable | alterTable =>
      rw [hs] at hsimple
      cases hsimple
  | transaction command =>
      refine (tame_run command call.context).bind fun tag => ?_
      cases tag with
      | none => trivial
      | some text => exact tame_tellTag call text
  | query q =>
      dsimp only
      split
      · exact hhandle
      · rfl
  | fetch f => exact tame_handleCounted call _
  | copy _ => exact tame_handleCounted call _
  | createIndex index =>
      exact Tame.ofReply_bind (.checkOwnership index.relation) id
        (fun _ => rfl) fun _ => hhandle
  | checkpoint =>
      exact Tame.request_ofReply (.checkpoint call.context.inRecovery) id
        fun _ => rfl
  | reindex r => exact tame_runReindex call r.objectType
  | variableSet v =>
      exact tame_runSessionCommand call v.isLocal v.isLocal "SET"
  | discard _ => exact tame_runSessionCommand call false true "DISCARD"
  | dropDatabase name _ =>
      have hclean : (cleanDatabase topology name).Tame :=
        (tame_cleanConnections _).bind fun _ =>
          tame_propagate topology _ .coordinators true
      dsimp only
      split
      · exact hclean.bind fun _ => hhandle
      · exact hhandle
  | cleanConnection clean => exact tame_cleanConnections clean
  | barrier id =>
      exact (tame_barrier topology id call.context).bind fun id =>
        tame_tellTag call _
  | _ => exact hhandle

end ClusterUtility
