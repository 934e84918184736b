/-
Every failure of a dispatch is explained.

The parts of a local run are gone through one by one. Most of them end with
the reply to a single request, and what that request does when it is refused
decides the cause: the handlers of statements and of ALTER TABLE leave an open
block failed, while a message that is not delivered, a relation that is there
already and a savepoint that is not there leave everything as it was.

What a dispatch comes to beyond its own local run are the dispatches of the
statements that it expands to. These are explained first, by induction on the
levels that are left below the limit of depth, and what explains them explains
the statement that they come from (`Explained.carriedOut`, `fails_dispatch`).
-/
import ClusterUtility.Proofs.Dispatch.Cause
import ClusterUtility.Proofs.Dispatch.Reach
import ClusterUtility.Proofs.Transaction.Enlisted

namespace ClusterUtility

open Cluster (answer)
open Program (request note ofReply ofRemoteReply)

variable {α β : Type} {config : Configuration} {i : Interceptor}
  {inner : Call → Prop} {call : Call} {c d : Cluster} {f : Failure}

-- ================================================= compound statements

/-- A statement that is carried out by carrying out others. -/
def Statement.isCompound : Statement → Bool
  | .createSchema .. => true
  | .createTable _ => true
  | .createForeignTable _ => true
  | .alterTable _ => true
  | _ => false

/-- The other call may be for a statement that this one expands to, at any
depth. -/
def Call.Contains (call other : Call) : Prop :=
  call.statement.isCompound = true ∧ other.context.IsWithin call.context

-- =========================================== requests that are refused

/-- After an error, an open block is failed. -/
theorem LocalSession.failed_afterError {s : LocalSession}
    (h : s.afterError.inBlock = true) : s.afterError.failed = true := by
  rw [LocalSession.inBlock_afterError] at h
  unfold afterError
  rw [if_pos h]

namespace Cluster

/-- What makes a handler fail is a fault of handlers. -/
private theorem handlerFault?_eq_some {kind : Kind}
    (h : c.handlerFault? kind = some f) : ∃ text, f = .handler text := by
  obtain ⟨text, _, rfl⟩ := Option.map_eq_some_iff.mp h
  exact ⟨text, rfl⟩

/-- A handler that fails leaves an open block failed. -/
theorem execute_error {s : Statement} (h : (c.execute s).1 = .error f) :
    (∃ text, f = .handler text) ∧
      ((c.execute s).2.session.inBlock = true →
        (c.execute s).2.session.failed = true) := by
  unfold execute at h ⊢
  split at h
  next failure hfault =>
    obtain rfl : failure = f := Except.error.inj h
    exact ⟨handlerFault?_eq_some hfault, LocalSession.failed_afterError⟩
  next => cases h

/-- So does the handler of ALTER TABLE. -/
theorem alterTable_error {alter : AlterTable}
    (h : (c.alterTable alter).1 = .error f) :
    (∃ text, f = .handler text) ∧
      ((c.alterTable alter).2.session.inBlock = true →
        (c.alterTable alter).2.session.failed = true) := by
  unfold alterTable at h ⊢
  split at h
  next failure hfault =>
    obtain rfl : failure = f := Except.error.inj h
    exact ⟨handlerFault?_eq_some hfault, LocalSession.failed_afterError⟩
  next => cases h

/-- A relation that is there already is not defined, and nothing else
happens. -/
theorem defineRelation_error {create : CreateTable} {kind : RelationKind}
    (h : (c.defineRelation create kind).1 = .error f) :
    f = nameTaken create.relation.text ∧
      (c.defineRelation create kind).2 = c := by
  unfold defineRelation at h ⊢
  dsimp only at h ⊢
  split at h
  next htaken =>
    rw [if_pos htaken]
    exact ⟨(Except.error.inj h).symm, rfl⟩
  next => cases h

/-- A savepoint that is not there is not released, and nothing else happens. -/
theorem releaseSavepoint_error {name : String}
    (h : (c.releaseSavepoint name).1 = .error f) :
    f = noSavepoint name ∧ (c.releaseSavepoint name).2 = c := by
  unfold releaseSavepoint at h ⊢
  split at h
  · exact ⟨(Except.error.inj h).symm, rfl⟩
  · cases h

/-- Nor is there a way back to it. -/
theorem rollbackToSavepoint_error {name : String}
    (h : (c.rollbackToSavepoint name).1 = .error f) :
    f = noSavepoint name ∧ (c.rollbackToSavepoint name).2 = c := by
  unfold rollbackToSavepoint at h ⊢
  split at h
  · exact ⟨(Except.error.inj h).symm, rfl⟩
  · cases h

/-- A local record is refused for an identifier that is in use. -/
theorem prepareBlock_error {gid : Gid}
    (h : (c.prepareBlock gid).1 = .error f) : f = .transactionInUse gid := by
  unfold prepareBlock at h
  split at h
  · cases h
  · split at h
    · cases h
    · split at h
      · exact (Except.error.inj h).symm
      · cases h

/-- A local record that is not there is not finished. -/
theorem finishLocal_error {gid : Gid} {commit : Bool}
    (h : (c.finishLocal gid commit).1 = .error f) :
    f = .unknownTransaction gid := by
  unfold finishLocal at h
  split at h
  · cases h
  · exact (Except.error.inj h).symm

/-- The registry is down, or has the identifier already. -/
theorem register_error {t : PreparedTransaction}
    (h : (c.register t).1 = .error f) :
    f = registryFault ∨ f = .transactionInUse t.gid := by
  unfold register at h
  split at h
  · exact .inl (Except.error.inj h).symm
  · split at h
    · exact .inr (Except.error.inj h).symm
    · cases h

/-- The catalog does not have the relation. -/
theorem relationKind_error {name : QualifiedName}
    (h : c.relationKind name = .error f) :
    f = .relationNotFound name.text := by
  unfold relationKind at h
  split at h
  · cases h
  · exact (Except.error.inj h).symm

end Cluster

/-- A client's PREPARE TRANSACTION fails for reasons of this layer, or as it is
told when it ends the local side or registers. -/
theorem Course.error_cases {gid : Gid} {log : List Exchange}
    (h : Course gid log (.error f)) :
    f.isOwn = true ∨ ⟨.prepareBlock gid, .error f⟩ ∈ log ∨
    ⟨.endBlock, .error f⟩ ∈ log ∨
      ∃ t, ⟨.register t, .error f⟩ ∈ log := by
  generalize hresult : (.error f : Except Failure TagOverride) = result at h
  cases h with
  | inUse t =>
      obtain rfl := Except.error.inj hresult
      exact .inl rfl
  | failedBlock reply ended =>
      cases ended with
      | ok _ => cases hresult
      | error g =>
          obtain rfl := Except.error.inj hresult
          exact .inr (.inl (by simp))
  | registered nodes record => cases hresult
  | stopped hstop hunrecord hundo =>
      cases hstop with
      | refused failure hsplit =>
          obtain rfl := Except.error.inj hresult
          exact .inl rfl
      | @unended record reply hreply =>
          cases reply with
          | ok _ => cases record <;> cases hresult
          | error g =>
              cases record with
              | true =>
                  obtain rfl := Except.error.inj hresult
                  exact .inr (.inl (by simp [Exchange.localEnd]))
              | false =>
                  obtain rfl := Except.error.inj hresult
                  exact .inr (.inr (.inl (by simp [Exchange.localEnd])))
      | unregistered record failure =>
          obtain rfl := Except.error.inj hresult
          exact .inr (.inr
            (.inr ⟨_, List.mem_append_right _ (List.mem_cons_self ..)⟩))

-- ====================================================== handlers

namespace Explained

/-- The handler of a statement, and what follows it. -/
private theorem execute {s : Statement} {text : String}
    {next : Handled → Program β}
    (hnext : ∀ handled d, Explained config i inner (next handled) d)
    (c : Cluster) :
    Explained config i inner
      (Program.bind (request (.execute s text)) fun reply =>
        Program.bind (Program.ofReply reply) next) c := by
  refine request_bind ((ofReply fun f hf => ?_).bind fun handled d _ =>
    hnext handled d)
  obtain ⟨⟨text, rfl⟩, hfailed⟩ := Cluster.execute_error hf
  exact .marked hfailed rfl

/-- A handler that fails leaves an open block failed. -/
private theorem runHandler (call : Call) (c : Cluster) :
    Explained config i inner call.runHandler c := by
  refine execute (fun handled d => ?_) c
  show Explained config i inner (if call.takesRows = true then _ else _) d
  split
  · exact of_ok rfl
  · exact done _ d

/-- So it is where the number of rows does not matter. -/
private theorem handle (call : Call) (c : Cluster) :
    Explained config i inner call.handle c :=
  (runHandler call c).bind fun _ d _ => done () d

/-- So it is where it does. -/
private theorem handleCounted (call : Call) (command : String) (c : Cluster) :
    Explained config i inner (call.handleCounted command) c := by
  refine (runHandler call c).bind fun count d _ => ?_
  cases count with
  | none => exact done () d
  | some rows => exact of_ok (perform_tellTag call _ d)

-- ====================================================== relations

/-- A relation that is there already leaves everything as it was. -/
private theorem defineRelation {create : CreateTable} {kind : RelationKind}
    {next : RelationNumber → Program β}
    (hnext : ∀ number d, Explained config i inner (next number) d)
    (c : Cluster) :
    Explained config i inner
      (Program.bind (request (.defineRelation create kind)) fun reply =>
        Program.bind (Program.ofReply reply) next) c := by
  refine ofReply_spared (.defineRelation create kind) id (fun reply f h => ?_)
    (fun f h => ?_) hnext
  · obtain rfl : reply = .error f := h
    rfl
  · obtain ⟨rfl, hkept⟩ := Cluster.defineRelation_error h
    exact ⟨rfl, hkept⟩

/-- So does a table of an expansion that is there already. -/
private theorem createTable (create : CreateTable) (c : Cluster) :
    Explained config i inner (ClusterUtility.createTable create) c :=
  defineRelation (fun _ _ => of_ok rfl) c

private theorem createForeignTable (create : CreateForeignTable)
    (c : Cluster) :
    Explained config i inner (ClusterUtility.createForeignTable create) c :=
  defineRelation (fun _ _ => of_ok rfl) c

/-- The handler of ALTER TABLE leaves an open block failed. -/
private theorem alterTable (alter : AlterTable) (c : Cluster) :
    Explained config i inner
      (Program.bind (request (.alterTable alter)) fun reply =>
        Program.ofReply reply) c := by
  refine request_bind (ofReply fun f hf => ?_)
  obtain ⟨⟨text, rfl⟩, hfailed⟩ := Cluster.alterTable_error hf
  exact .marked hfailed rfl

-- ================================================== plans and messages

/-- A relation that is not there is a failure of this layer. -/
private theorem groupOf (name : QualifiedName) (c : Cluster) :
    Explained config i inner (Plan.groupOf name) c := by
  refine request_bind ((ofReply_own fun f hf => ?_).bind fun _ d _ => done _ d)
  obtain rfl := Cluster.relationKind_error hf
  rfl

/-- So are relations of two groups. -/
private theorem requireGroup (command : String) (g : NodeGroup)
    (names : List QualifiedName) (c : Cluster) :
    Explained config i inner (Plan.requireGroup command g names) c := by
  refine forEach (fun name c => (groupOf name c).bind fun other d _ => ?_)
    names c
  split
  · exact done () d
  · exact fail rfl d

/-- So is all that goes wrong with a plan. -/
private theorem makePlan (s : Statement) (c : Cluster) :
    Explained config i inner (Plan.make s) c := by
  unfold Plan.make
  split
  · exact done _ c
  next route _ =>
    refine bind ?_ fun _ d _ => done _ d
    cases route.destination with
    | group g => exact done _ c
    | ofRelation name => exact groupOf name c
    | ofRelations command names =>
        cases names with
        | nil => exact done _ c
        | cons name rest =>
            refine (groupOf name c).bind fun g d _ => ?_
            exact (requireGroup command g rest d).bind fun _ d _ => done _ d

/-- So it is with the plan of a call. -/
private theorem planCall (call : Call) (c : Cluster) :
    Explained config i inner (ClusterUtility.planCall call) c := by
  unfold ClusterUtility.planCall
  split
  · exact makePlan call.statement c
  · exact done _ c

/-- A message that is not delivered leaves everything as it was. -/
theorem propagate (topology : Topology) (text : String) (group : NodeGroup)
    (autocommit : Bool) (c : Cluster) :
    Explained config i inner
      (ClusterUtility.propagate topology text group autocommit) c := by
  unfold ClusterUtility.propagate
  split
  · exact done () c
  · rcases c.send_cases (.send text group autocommit) with
      ⟨cause, hsend⟩ | hsend
    · have hreply : (answer (.send (.send text group autocommit)) c).1
          = .error cause :=
        congrArg Prod.fst hsend
      have hsome : (Request.send (.send text group autocommit)).spared?
          (answer (.send (.send text group autocommit)) c).1
            = some (.propagation cause) := by
        rw [hreply]
        rfl
      refine spared hsome (congrArg Prod.snd hsend) rfl ?_
      rw [hreply]
      rfl
    · refine request_bind ?_
      have hreply : (answer (.send (.send text group autocommit)) c).1
          = .ok () :=
        congrArg Prod.fst hsend
      rw [hreply]
      exact done () _

/-- So does a plan that is carried out. -/
private theorem propagateAt (topology : Topology) (text : String)
    (plan : Option Plan) (timing : Timing) (c : Cluster) :
    Explained config i inner
      (ClusterUtility.propagateAt topology text plan timing) c := by
  cases plan with
  | none => exact done () c
  | some plan =>
      unfold ClusterUtility.propagateAt
      dsimp only
      split
      · exact propagate topology text plan.group plan.autocommit c
      · exact done () c

/-- What the pool refuses is a failure of this layer. -/
private theorem forwardSessionCommand (isLocal : Bool) (text command : String)
    (c : Cluster) :
    Explained config i inner
      (ClusterUtility.forwardSessionCommand isLocal text command) c := by
  refine request_bind ?_
  split
  · exact fail rfl _
  · exact done () _

/-- A session command fails in its handler or in the pool. -/
private theorem runSessionCommand (call : Call) (isLocal untilCommit : Bool)
    (command : String) (c : Cluster) :
    Explained config i inner
      (ClusterUtility.runSessionCommand call isLocal untilCommit command)
      c := by
  refine (handle call c).bind fun _ d _ => ?_
  split
  · refine request_bind ?_
    split
    · exact forwardSessionCommand isLocal call.text command _
    · exact done () _
  · exact done () d

/-- REINDEX fails in its handler, or is refused by this layer. -/
private theorem runReindex (call : Call) (objectType : ObjectType)
    (c : Cluster) :
    Explained config i inner
      (ClusterUtility.runReindex call objectType) c := by
  unfold ClusterUtility.runReindex
  split
  · exact handle call c
  · exact handle call c
  · exact handle call c
  · exact fail rfl c

-- ====================================================== barriers

/-- A barrier fails for reasons of this layer, since the record on this node is
always written. -/
theorem barrier (topology : Topology) (given : Option String)
    (context : Context) (c : Cluster) :
    Explained config i inner (Barrier.start topology given context) c := by
  cases hc : context.isClientFacing with
  | false =>
      rw [Barrier.start_refused topology given hc]
      exact fail rfl c
  | true =>
      intro f d hfail
      obtain ⟨id, naming, prepares, executes, records, ends, outcome, hlog, _,
          hcourse, hresult⟩ :=
        (Barrier.course_start topology given hc).run answer c
      have hfailed : outcome.map (fun _ => id) = .error f := by
        rw [← hresult]
        exact congrArg Prod.fst hfail
      cases outcome with
      | ok _ => cases hfailed
      | error g =>
          obtain rfl : g = f := Except.error.inj hfailed
          rcases hcourse.error_cases with ⟨cause, rfl⟩ | hrecord
          · exact .own rfl
          · have hmem : ⟨.recordBarrier id, .error g⟩
                ∈ Program.exchanges answer
                  (Barrier.start topology given context) c := by
              rw [hlog]
              simp [hrecord]
            obtain ⟨_, v, _, hreply⟩ := Program.leads_of_mem_exchanges hmem
            cases hreply

-- ================================================ transaction commands

/-- The cluster is always ready to begin a block. -/
theorem begin (options : List TransactionOption) (context : Context)
    (c : Cluster) :
    Explained config i inner (beginTransaction options context) c := by
  have hoptions (c : Cluster) :
      Explained config i inner
        (Program.forEach (fun option => do
          Program.ofReply (← request (.setOption option))) options) c :=
    forEach (fun _ _ => of_ok rfl) options c
  unfold beginTransaction
  dsimp only
  split
  · exact request_bind ((done () _).bind fun _ d _ =>
      request_bind ((done () _).bind fun _ e _ => hoptions e))
  · exact request_bind ((done () _).bind fun _ d _ => hoptions d)

/-- A client's COMMIT PREPARED or ROLLBACK PREPARED fails for reasons of this
layer. -/
private theorem finishFromClient (gid : Gid) (commit : Bool) (c : Cluster) :
    Explained config i inner
      (ClusterUtility.finishFromClient gid commit) c := by
  refine request_bind ?_
  split
  · exact fail rfl _
  next t _ =>
    split
    · refine bind (forEach (fun node c => request_bind ?_) t.participants _)
        fun _ d _ => ?_
      · split
        · exact of_ok rfl
        · exact fail rfl _
      · dsimp only
        split
        · refine request_bind ((ofReply_own fun f hf => ?_).bind fun _ e _ =>
            of_ok rfl)
          obtain rfl := Cluster.finishLocal_error hf
          rfl
        · exact of_ok rfl
    · exact fail rfl _

/-- So does one that a coordinator sends. -/
private theorem finishPrepared (gid : Gid) (commit : Bool) (context : Context)
    (c : Cluster) :
    Explained config i inner
      (ClusterUtility.finishPrepared gid commit context) c := by
  unfold ClusterUtility.finishPrepared
  split
  · exact finishFromClient gid commit c
  · refine request_bind (ofReply_own fun f hf => ?_)
    obtain rfl := Cluster.finishLocal_error hf
    rfl

/-- What is told of the local side and of the registry is no refusal of the
gate. -/
theorem isRefusal_of_told {α : Type} {p : Program α} {gid : Gid}
    (h : f.isOwn = true ∨
      ⟨.prepareBlock gid, .error f⟩ ∈ Program.exchanges answer p c ∨
      ⟨.endBlock, .error f⟩ ∈ Program.exchanges answer p c ∨
      ∃ t, ⟨.register t, .error f⟩ ∈ Program.exchanges answer p c) :
    f.isRefusal = false := by
  rcases h with hown | hmem | hmem | ⟨t, hmem⟩
  · exact Failure.isRefusal_of_isOwn hown
  · obtain ⟨_, v, _, hreply⟩ := Program.leads_of_mem_exchanges hmem
    obtain rfl := Cluster.prepareBlock_error hreply.symm
    rfl
  · obtain ⟨_, v, _, hreply⟩ := Program.leads_of_mem_exchanges hmem
    cases hreply
  · obtain ⟨_, v, _, hreply⟩ := Program.leads_of_mem_exchanges hmem
    rcases Cluster.register_error hreply.symm with rfl | rfl
    · rfl
    · rfl

/-- A client's PREPARE TRANSACTION that fails leaves no block open, but where
its identifier is in use. -/
theorem prepareFromClient (gid : Gid) (c : Cluster) :
    Explained config i inner (ClusterUtility.prepareFromClient gid) c := by
  intro f d hfail
  cases hlookup : c.lookup gid with
  | some t =>
      rw [Cluster.perform_prepareFromClient_known hlookup] at hfail
      obtain rfl := Except.error.inj (Prod.mk.inj hfail).1
      exact .own rfl
  | none =>
      have hout : d.session.inBlock = false := by
        have hclosed := Cluster.inBlock_prepareFromClient hlookup
        rwa [hfail] at hclosed
      have hresult : (Program.run answer
          (ClusterUtility.prepareFromClient gid) c).result = .error f :=
        congrArg Prod.fst hfail
      have hcourse := (course_prepareFromClient gid).run answer c
      rw [hresult] at hcourse
      refine .marked (fun hin => ?_) (isRefusal_of_told hcourse.error_cases)
      rw [hout] at hin
      cases hin

/-- So does PREPARE TRANSACTION where a coordinator sends it. -/
private theorem prepareTransaction (gid : Gid) (context : Context)
    (c : Cluster) :
    Explained config i inner
      (ClusterUtility.prepareTransaction gid context) c := by
  unfold ClusterUtility.prepareTransaction
  split
  · exact prepareFromClient gid c
  · refine request_bind ((ofReply_own fun f hf => ?_).bind fun prepared d _ =>
      ?_)
    · obtain rfl := Cluster.prepareBlock_error hf
      rfl
    · split <;> exact done _ d

/-- A transaction command that fails is explained, whichever it is. -/
private theorem command (command : TransactionCommand) (context : Context)
    (c : Cluster) : Explained config i inner (command.run context) c := by
  cases command with
  | «begin» options =>
      exact (begin options context c).bind fun _ d _ => done _ d
  | start options => exact (begin options context c).bind fun _ d _ => done _ d
  | commit =>
      refine request_bind ((done _ _).bind fun committed d _ => ?_)
      split <;> exact done _ d
  | rollback => exact of_ok rfl
  | savepoint name => exact of_ok rfl
  | release name =>
      refine ofReply_spared (.releaseSavepoint name) id (fun reply f h => ?_)
        (fun f h => ?_) fun _ d => done _ d
      · obtain rfl : reply = .error f := h
        rfl
      · obtain ⟨rfl, hkept⟩ := Cluster.releaseSavepoint_error h
        exact ⟨rfl, hkept⟩
  | rollbackTo name =>
      refine ofReply_spared (.rollbackToSavepoint name) id
        (fun reply f h => ?_) (fun f h => ?_) fun _ d => done _ d
      · obtain rfl : reply = .error f := h
        rfl
      · obtain ⟨rfl, hkept⟩ := Cluster.rollbackToSavepoint_error h
        exact ⟨rfl, hkept⟩
  | prepare gid => exact prepareTransaction gid context c
  | commitPrepared gid =>
      exact (finishPrepared gid true context c).bind fun _ d _ => done _ d
  | rollbackPrepared gid =>
      exact (finishPrepared gid false context c).bind fun _ d _ => done _ d

-- ====================================================== the local run

section nested

variable {nested : Statement → Program Unit}

/-- Statements in sequence are explained if each of them is. -/
private theorem inSequence {act : Statement → Program Unit}
    (hact : ∀ s c, Explained config i inner (act s) c)
    (statements : List Statement) (c : Cluster) :
    Explained config i inner (ClusterUtility.inSequence act statements) c := by
  fun_induction ClusterUtility.inSequence act statements generalizing c with
  | case1 => exact done () c
  | case2 s => exact hact s c
  | case3 s rest hrest ih =>
      exact (hact s c).bind fun _ d _ => request_bind (ih _)

section expansion

variable (hnested : ∀ s c, Explained config i inner (nested s) c)
include hnested

/-- One of the statements of an expansion is explained if its dispatch is. -/
private theorem runExpanded (parent s : Statement) (c : Cluster) :
    Explained config i inner
      (ClusterUtility.runExpanded nested parent s) c := by
  unfold ClusterUtility.runExpanded
  split
  · exact alterTable _ c
  · split
    · exact createTable _ c
    · exact hnested _ c
  · split
    · exact createForeignTable _ c
    · exact hnested _ c
  · exact hnested _ c

/-- So are all of them together. -/
private theorem runExpansion (call : Call) (c : Cluster) :
    Explained config i inner (ClusterUtility.runExpansion nested call) c :=
  request_bind ((done _ _).bind fun statements d _ =>
    inSequence (runExpanded hnested call.statement) statements d)

/-- So is CREATE SCHEMA by its handler and the dispatches of its elements. -/
private theorem createSchema (call : Call) (elements : List Statement)
    (c : Cluster) :
    Explained config i inner
      (ClusterUtility.createSchema nested call elements) c := by
  refine (handle call.withoutRows c).bind fun _ d _ => ?_
  exact forEach (fun s e => request_bind (hnested s _)) elements d

end expansion

/-- So is a local run by the dispatches that it makes, and most local runs make
none. -/
private theorem runLocally (topology : Topology) (call : Call)
    (hnested : call.statement.isCompound = true →
      ∀ s c, Explained config i inner (nested s) c)
    (c : Cluster) :
    Explained config i inner
      (ClusterUtility.runLocally topology nested call) c := by
  have hhandle (c : Cluster) : Explained config i inner call.handle c :=
    handle call c
  unfold ClusterUtility.runLocally
  cases hs : call.statement with
  | transaction command =>
      refine (Explained.command command call.context c).bind fun tag d _ => ?_
      cases tag with
      | none => exact done () d
      | some text => exact of_ok (perform_tellTag call text d)
  | query q =>
      dsimp only
      split
      · exact hhandle c
      · exact fail rfl c
  | fetch f => exact handleCounted call _ c
  | copy _ => exact handleCounted call _ c
  | createSchema name owner elements =>
      exact createSchema (hnested (by rw [hs]; rfl)) call elements c
  | createTable create => exact runExpansion (hnested (by rw [hs]; rfl)) call c
  | createForeignTable create =>
      exact runExpansion (hnested (by rw [hs]; rfl)) call c
  | alterTable alter => exact runExpansion (hnested (by rw [hs]; rfl)) call c
  | createIndex index =>
      exact request_bind ((done _ _).bind fun _ d _ => hhandle d)
  | checkpoint => exact of_ok rfl
  | reindex r => exact runReindex call r.objectType c
  | variableSet v => exact runSessionCommand call v.isLocal v.isLocal "SET" c
  | discard _ => exact runSessionCommand call false true "DISCARD" c
  | dropDatabase name _ =>
      have hclean (c : Cluster) :
          Explained config i inner (cleanDatabase topology name) c :=
        bind (of_ok rfl) fun _ d _ => propagate topology _ .coordinators true d
      dsimp only
      split
      · exact (hclean c).bind fun _ d _ => hhandle d
      · exact hhandle c
  | cleanConnection clean => exact of_ok rfl
  | barrier id =>
      refine (Explained.barrier topology id call.context c).bind
        fun id d _ => ?_
      exact of_ok (perform_tellTag call _ d)
  | _ => exact hhandle c

end nested

/-- So is the carrying out of a call. -/
private theorem carriedOut (config : Configuration) (i : Interceptor)
    (call : Call)
    (hnested : call.statement.isCompound = true →
      ∀ s c, Explained config i inner (dispatch config i (call.sub s)) c)
    (c : Cluster) : Explained config i inner (call.carriedOut config i) c := by
  refine (planCall call c).bind fun plan d _ => ?_
  have hsend (timing : Timing) (d : Cluster) : Explained config i inner
      (ClusterUtility.propagateAt config.topology call.text plan timing) d :=
    propagateAt config.topology call.text plan timing d
  refine (hsend .beforeLocal d).bind fun _ e _ => ?_
  exact (runLocally config.topology call hnested e).bind fun _ w _ =>
    hsend .afterLocal w

end Explained

-- ==================================================== a whole dispatch

/-- How a dispatch fails. -/
inductive Call.Fails (config : Configuration) (i : Interceptor) (call : Call)
    (c : Cluster) (f : Failure) (d : Cluster) : Prop
  | intercepted (hkind : i.admits call.statement.kind = false)
      (hfailure : f = Interceptor.refusal call.statement.kind) (hkept : d = c)
  | refused (hgate : (c.perform (passGate config call)).1 = .error f)
      (hkept : d = c)
  | own (hown : f.isOwn = true)
  /-- It was let through and failed on the way. -/
  | within (hpass : call.Passes config i c)
      (hcause : Cause config i call.Contains (dispatch config i call) c f d)

/-- A call that is let through comes to its carrying out. -/
theorem leads_carriedOut {level : LogClass} (hpass : call.Passes config i c)
    (hlevel : (c.perform (classify call.statement)).1 = .ok level) :
    Program.Leads answer (dispatch config i call) c
      (call.carriedOut config i) c := by
  have hclass : Program.Leads answer (classify call.statement) c
      (.done level) c := by
    have hworld : (Program.run answer (classify call.statement) c).world = c :=
      perform_classify call.statement c
    have hleads := Program.leads_of_ok hlevel
    rwa [hworld] at hleads
  have hgate : Program.Leads answer (passGate config call) c (.done ()) c := by
    have hworld : (Program.run answer (passGate config call) c).world = c :=
      perform_passGate config call c
    have hleads := Program.leads_of_ok hpass.gate
    rwa [hworld] at hleads
  have hrest := hgate.bind fun _ => call.carriedOut config i
  have hprocess : Program.Leads answer
      (process config (fun s => dispatch config i (call.sub s)) call) c
      (call.carriedOut config i) c := by
    refine (hclass.bind _).trans ?_
    dsimp only [Program.done_bind]
    split
    · exact .tell hrest
    · exact hrest
  have hstandard : Program.Leads answer
      (standardDispatch config (dispatch config i) call) c
      (call.carriedOut config i) c := by
    unfold standardDispatch
    simp only [Nat.not_lt.mpr hpass.depth, if_false, Program.bind_eq]
    split
    · exact .tell hprocess
    · exact hprocess
  rw [dispatch_eq]
  cases i with
  | none => exact hstandard
  | standard => exact hstandard
  | recorder refused =>
      have hfree : call.statement.kind ∉ refused :=
        of_decide_eq_true hpass.admitted
      refine .tell ?_
      show Program.Leads answer
        (if call.statement.kind ∈ refused then _ else _) c _ c
      rw [if_neg hfree]
      exact hstandard

/-- A class that is not found is a failure of this layer. -/
private theorem isOwn_of_classify {s : Statement}
    (h : (c.perform (classify s)).1 = .error f) : f.isOwn = true := by
  unfold classify at h
  rw [Program.bind_eq, Cluster.perform_request_bind] at h
  split at h
  · cases h
  · obtain rfl := Except.error.inj h
    rfl

/-- The failure of a statement of an expansion is explained in the statement
that it comes from. -/
theorem Call.Fails.cause {s : Statement}
    (h : (call.sub s).Fails config i c f d)
    (hcompound : call.statement.isCompound = true) :
    Cause config i call.Contains (dispatch config i (call.sub s)) c f d := by
  have hinner : call.Contains (call.sub s) :=
    ⟨hcompound, call.context.isWithin_forSubstatement⟩
  have hhere : Program.Leads answer (dispatch config i (call.sub s)) c
      (Program.bind (dispatch config i (call.sub s)) .done) c := by
    rw [Program.bind_done]
    exact .here
  cases h with
  | intercepted hkind hfailure hkept =>
      subst hkept
      exact .intercepted hinner hhere hkind hfailure
  | refused hgate hkept =>
      subst hkept
      exact .gate hinner hhere hgate
  | own hown => exact .own hown
  | within hpass hcause =>
      exact hcause.imp fun other hother => ⟨hcompound, hother.2.deeper⟩

/-- Whenever a dispatch fails, it fails in one of these ways. -/
theorem fails_dispatch (config : Configuration) (i : Interceptor)
    (hfail : c.perform (dispatch config i call) = (.error f, d)) :
    call.Fails config i c f d := by
  induction call using dispatch_induction config generalizing c f d with
  | h call ih =>
      have hcame {g : Failure}
          (h : c.perform (dispatch config i call) = (.error g, c)) :
          f = g ∧ d = c := by
        rw [hfail] at h
        obtain ⟨hg, hd⟩ := Prod.mk.inj h
        exact ⟨Except.error.inj hg, hd⟩
      cases begins_dispatch config i call c with
      | intercepted hkind hperform =>
          exact .intercepted hkind (hcame hperform).1 (hcame hperform).2
      | tooDeep hperform =>
          rw [(hcame hperform).1]
          exact .own rfl
      | unclassified hlevel hperform =>
          rw [(hcame hperform).1]
          exact .own (isOwn_of_classify hlevel)
      | refused hgate hperform =>
          rw [(hcame hperform).1]
          exact .refused hgate (hcame hperform).2
      | passed hlevel hpass =>
          rw [perform_dispatch_of_passes hpass hlevel] at hfail
          have hnested (hcompound : call.statement.isCompound = true)
              (s : Statement) (e : Cluster) :
              Explained config i call.Contains
                (dispatch config i (call.sub s)) e :=
            fun g w hg => (ih hpass.depth s hg).cause hcompound
          have hcause := Explained.carriedOut config i call hnested c f d hfail
          exact .within hpass (hcause.of_leads (leads_carriedOut hpass hlevel))

end ClusterUtility
