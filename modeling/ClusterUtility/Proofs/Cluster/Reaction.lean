/-
Everything that the answer to a request can be.

A request is answered in one of a few ways, and which one depends on little of
the cluster: whether a block is open and failed, what is set to fail, what is
recorded. `Cluster.Reacts` lists all ways of all requests. Each has what it
depends on, the reply, and the cluster after it.

# Both directions

Every way on the list is the answer where what it depends on is so
(`Reacts.eq`), and there is always one that is so (`exists_reacts`). So the
answer is on the list (`reacts_answer`), and what is to be shown of all answers
is shown for each way on it. The functions that answer are opened here, and an
invariant of the cluster need open none of them.

# Ways that are much alike

Many requests only ask how things are, or make an entry in the journal and do
nothing else. They share a way each (`Request.OnlyLooks`, `Request.entry?`).
-/
import ClusterUtility.Cluster.Answers

namespace ClusterUtility

open Cluster (Event)

-- ====================================================== requests

namespace Request

/-- The request asks how things are, and its answer leaves them so. -/
def OnlyLooks : Request → Prop
  | .expand .. => True
  | .inBlock => True
  | .inFailedBlock => True
  | .touchedCatalog => True
  | .participants => True
  | .lookup _ => True
  | .relationKind _ => True
  | .timestamp => True
  | .sessionObjects => True
  | _ => False

/-- The entry that the answer to a request makes in the journal, where that is
all it does. -/
def entry? : Request → Option Event
  | .createStorage _ create => some (.storageCreated create.relation.text)
  | .createForeignTable _ create =>
      some (.foreignTableCreated create.table.relation.text)
  | .checkOwnership name => some (.ownershipChecked name.text)
  | .checkpoint restartPoint => some (.checkpoint restartPoint)
  | .advanceCommand => some .commandAdvanced
  | .beginRemote query => some (.remoteBegin query)
  | .setSessionOption isLocal text => some (.sessionOptionSet isLocal text)
  | .cleanConnections clean => some (.connectionsCleaned clean.database)
  | .endBarrier node id => some (.barrierEnded node id)
  | .recordBarrier id => some (.barrierRecorded id)
  | _ => none

end Request

-- =========================================== what becomes of a cluster

/-- The session after the handler of a statement ran. -/
def LocalSession.afterHandler (s : LocalSession) (statement : Statement) :
    LocalSession :=
  let marked := if statement.levelAlone = .ddl then s.afterCatalogChange else s
  { marked with objects := marked.objects.after statement }

namespace Cluster

variable {c d : Cluster} {r : Request} {reply : r.Reply}

/-- The cluster after the handler of a statement ran. -/
def ran (c : Cluster) (s : Statement) : Cluster :=
  { c.record (.handler s.kind) with
    session := c.session.afterHandler s
    relations := relationsAfter c.relations s }

/-- The cluster after a new relation was entered into the catalog. -/
def defined (c : Cluster) (create : CreateTable)
    (kind : RelationKind) : Cluster :=
  { (c.record (.relationDefined create.relation.text kind)).markCatalog with
    relations := c.relations.insert create.relation.text kind
    nextRelation := c.nextRelation + 1 }

/-- The nodes with a prepared branch of a transaction, as a set. -/
def held (c : Cluster) (gid : Gid) : NodeSet := (c.branches.get? gid).getD ∅

/-- The cluster after a node prepared its branch. -/
def hold (c : Cluster) (node : Node) (gid : Gid) : Cluster :=
  { c with
      branches := c.branches.insert gid ((c.held gid).insert node) }.record
    (.branchPrepared node gid)

/-- The cluster after a node finished its branch. -/
def release (c : Cluster) (node : Node) (gid : Gid)
    (commit : Bool) : Cluster :=
  { c with
      branches := branchesWithout c.branches gid (c.held gid) node }.record
    (.branchFinished node gid commit)

/-- The cluster after the registry took an entry in. -/
def enter (c : Cluster) (t : PreparedTransaction) : Cluster :=
  { c with registry := c.registry.insert t.gid ⟨t, .prepared⟩ }

/-- The cluster after the local node wrote a record. -/
def writeRecord (c : Cluster) (gid : Gid) : Cluster :=
  { c.mapSession fun s => { s.ended .prepared with globalId := some gid } with
    localRecords := c.localRecords ++ [gid] }.record (.localPrepare gid)

/-- The cluster after the local node finished a record. -/
def unrecord (c : Cluster) (gid : Gid) (commit : Bool) : Cluster :=
  { c.mapSession fun s => { s with
      status := statusAfterFinish s gid commit } with
    localRecords := c.localRecords.filter fun g => g ≠ gid }.record
      (.localFinish gid commit)

-- =========================================== what an answer depends on

/-- Why a node does not prepare its branch, if it does not. -/
def prepareFault? (c : Cluster) (node : Node) : Option TransportFailure :=
  match c.unreachable? node with
  | some failure => some failure
  | none =>
      if node ∈ c.faults.prepare then
        some (.remote node "could not prepare transaction")
      else none

/-- Why a node that holds a branch does not finish it, if it does not. -/
def finishFault? (c : Cluster) (node : Node) (commit : Bool) :
    Option TransportFailure :=
  match c.unreachable? node with
  | some failure => some failure
  | none =>
      if !commit && decide (node ∈ c.faults.rollback) then some (.timeout node)
      else none

/-- Why the registry refuses an identifier, if it does. -/
def registryFault? (c : Cluster) (gid : Gid) : Option Failure :=
  if c.faults.registryDown then some registryFault
  else if holdsUnfinished c.registry gid then some (.transactionInUse gid)
  else none

/-- A branch is prepared where nothing is in the way. -/
theorem prepareBranch_eq (c : Cluster) (node : Node) (gid : Gid) :
    c.prepareBranch node gid
      = match c.prepareFault? node with
        | some failure => (.error failure, c)
        | none => (.ok (), c.hold node gid) := by
  unfold prepareBranch prepareFault?
  cases c.unreachable? node with
  | some failure => rfl
  | none =>
      by_cases hp : node ∈ c.faults.prepare
      · simp only [hp, if_true]
      · simp only [hp, if_false]
        rfl

/-- A branch is finished where it is held and nothing is in the way. -/
theorem finishBranch_eq (c : Cluster) (node : Node) (gid : Gid)
    (commit : Bool) :
    c.finishBranch node gid commit
      = match c.finishFault? node commit with
        | some failure => (.error failure, c)
        | none =>
            if node ∈ c.held gid then (.ok (), c.release node gid commit)
            else (.error (.remote node (noBranch gid)), c) := by
  unfold finishBranch finishFault?
  cases c.unreachable? node with
  | some failure => rfl
  | none =>
      by_cases ht : (!commit && decide (node ∈ c.faults.rollback)) = true
      · simp only [ht, if_true]
      · simp only [ht]
        rfl

/-- An entry is taken in where nothing is in the way. -/
theorem register_eq (c : Cluster) (t : PreparedTransaction) :
    c.register t
      = match c.registryFault? t.gid with
        | some failure => (.error failure, c)
        | none => (.ok (), c.enter t) := by
  unfold register registryFault?
  by_cases hdown : c.faults.registryDown = true
  · simp only [hdown, if_true]
  · by_cases hheld : holdsUnfinished c.registry t.gid = true
    · simp only [hdown, hheld, if_true]
      rfl
    · simp only [hdown, hheld]
      rfl

/-- A record is finished where there is one. -/
theorem finishLocal_eq (c : Cluster) (gid : Gid) (commit : Bool) :
    c.finishLocal gid commit
      = if gid ∈ c.localRecords then (.ok (), c.unrecord gid commit)
        else (.error (.unknownTransaction gid), c) := rfl

-- ====================================================== reactions

/-- The ways in which a request is answered: what the answer depends on, the
reply, and the cluster after it. -/
inductive Reacts (c : Cluster) : (r : Request) → r.Reply → Cluster → Prop
  | looks {r : Request} {reply : r.Reply} (hlooks : r.OnlyLooks)
      (hreply : (answer r c).1 = reply) : Reacts c r reply c
  | notes {r : Request} {reply : r.Reply} {event : Event}
      (hentry : r.entry? = some event) (hreply : (answer r c).1 = reply) :
      Reacts c r reply (c.record event)
  -- handlers
  | fails {s : Statement} {text : String} {failure : Failure}
      (hfault : c.handlerFault? s.kind = some failure) :
      Reacts c (.execute s text) (.error failure)
        (c.mapSession LocalSession.afterError)
  | runs {s : Statement} {text : String}
      (hfault : c.handlerFault? s.kind = none) :
      Reacts c (.execute s text) (.ok ⟨shownRows s, c.countedRows s⟩) (c.ran s)
  | isDefined {create : CreateTable} {kind : RelationKind}
      (htaken : (c.relations.contains create.relation.text
        && !create.ifNotExists) = true) :
      Reacts c (.defineRelation create kind)
        (.error (nameTaken create.relation.text)) c
  | defines {create : CreateTable} {kind : RelationKind}
      (hfree : (c.relations.contains create.relation.text
        && !create.ifNotExists) = false) :
      Reacts c (.defineRelation create kind) (.ok ⟨c.nextRelation⟩)
        (c.defined create kind)
  | failsToAlter {alter : AlterTable} {failure : Failure}
      (hfault : c.handlerFault? .alterTable = some failure) :
      Reacts c (.alterTable alter) (.error failure)
        (c.mapSession LocalSession.afterError)
  | alters {alter : AlterTable} (hfault : c.handlerFault? .alterTable = none) :
      Reacts c (.alterTable alter) (.ok ())
        (c.record (.tableAltered alter.relation.text)).markCatalog
  -- the block of the session
  | hasBegun (hin : c.session.inBlock = true) : Reacts c .beginBlock (.ok ()) c
  | begins (hout : c.session.inBlock = false) :
      Reacts c .beginBlock (.ok ())
        ((c.mapSession fun s =>
          { s with
            inBlock := true, status := .inProgress, globalId := none }).record
          .localBegin)
  | characterizes {option : TransactionOption} :
      Reacts c (.setOption option) (.ok ()) (c.setOption option)
  | endsNothing (hout : c.session.inBlock = false) :
      Reacts c .endBlock (.ok true) c
  | endsFailed (hin : c.session.inBlock = true)
      (hfailed : c.session.failed = true) :
      Reacts c .endBlock (.ok false) c.abortTransaction
  | commits (hin : c.session.inBlock = true)
      (hsound : c.session.failed = false) :
      Reacts c .endBlock (.ok true)
        ((c.mapSession fun s => s.ended .committed).record .localCommit)
  | abortsNothing (hout : c.session.inBlock = false) :
      Reacts c .abortBlock (.ok ()) c
  | aborts (hin : c.session.inBlock = true) :
      Reacts c .abortBlock (.ok ()) c.abortTransaction
  | preparesNothing {gid : Gid} (hout : c.session.inBlock = false) :
      Reacts c (.prepareBlock gid) (.ok false) c
  | preparesFailed {gid : Gid} (hin : c.session.inBlock = true)
      (hfailed : c.session.failed = true) :
      Reacts c (.prepareBlock gid) (.ok false) c.abortTransaction
  | isRecorded {gid : Gid} (hin : c.session.inBlock = true)
      (hsound : c.session.failed = false) (hused : gid ∈ c.localRecords) :
      Reacts c (.prepareBlock gid) (.error (.transactionInUse gid)) c
  | prepares {gid : Gid} (hin : c.session.inBlock = true)
      (hsound : c.session.failed = false) (hfree : gid ∉ c.localRecords) :
      Reacts c (.prepareBlock gid) (.ok true) (c.writeRecord gid)
  | isUnrecorded {gid : Gid} {commit : Bool}
      (hunknown : gid ∉ c.localRecords) :
      Reacts c (.finishLocal gid commit) (.error (.unknownTransaction gid)) c
  | finishes {gid : Gid} {commit : Bool} (hrecorded : gid ∈ c.localRecords) :
      Reacts c (.finishLocal gid commit) (.ok ()) (c.unrecord gid commit)
  -- savepoints
  | saves {name : String} :
      Reacts c (.defineSavepoint name) (.ok ()) (c.defineSavepoint name)
  | releasesNothing {name : String}
      (hmissing : savepointsTo? name c.session.savepoints = none) :
      Reacts c (.releaseSavepoint name) (.error (noSavepoint name)) c
  | releases {name : String} {kept : List String}
      (hkept : savepointsTo? name c.session.savepoints = some kept) :
      Reacts c (.releaseSavepoint name) (.ok ())
        (c.mapSession fun s => { s with savepoints := kept.dropLast })
  | goesNowhere {name : String}
      (hmissing : savepointsTo? name c.session.savepoints = none) :
      Reacts c (.rollbackToSavepoint name) (.error (noSavepoint name)) c
  | goesBack {name : String} {kept : List String}
      (hkept : savepointsTo? name c.session.savepoints = some kept) :
      Reacts c (.rollbackToSavepoint name) (.ok ())
        (c.mapSession fun s => { s with savepoints := kept, failed := false })
  -- branches on other nodes
  | refusesBranch {node : Node} {gid : Gid} {failure : TransportFailure}
      (hfault : c.prepareFault? node = some failure) :
      Reacts c (.prepareBranch node gid) (.error failure) c
  | holds {node : Node} {gid : Gid} (hfault : c.prepareFault? node = none) :
      Reacts c (.prepareBranch node gid) (.ok ()) (c.hold node gid)
  | keepsBranch {node : Node} {gid : Gid} {commit : Bool}
      {failure : TransportFailure}
      (hfault : c.finishFault? node commit = some failure) :
      Reacts c (.finishBranch node gid commit) (.error failure) c
  | hasNoBranch {node : Node} {gid : Gid} {commit : Bool}
      (hfault : c.finishFault? node commit = none)
      (hmissing : node ∉ c.held gid) :
      Reacts c (.finishBranch node gid commit)
        (.error (.remote node (noBranch gid))) c
  | frees {node : Node} {gid : Gid} {commit : Bool}
      (hfault : c.finishFault? node commit = none)
      (hheld : node ∈ c.held gid) :
      Reacts c (.finishBranch node gid commit) (.ok ())
        (c.release node gid commit)
  | abortsBranches : Reacts c .abortBranches (.ok ()) c.abortBranches
  -- the registry
  | refuses {t : PreparedTransaction} {failure : Failure}
      (hfault : c.registryFault? t.gid = some failure) :
      Reacts c (.register t) (.error failure) c
  | registers {t : PreparedTransaction}
      (hfault : c.registryFault? t.gid = none) :
      Reacts c (.register t) (.ok ()) (c.enter t)
  | strikes {gid : Gid} {node : Node} {commit : Bool} :
      Reacts c (.dropBranch gid node commit) () (c.dropBranch gid node commit)
  | settles {gid : Gid} {status : TransactionStatus} :
      Reacts c (.complete gid status) () (c.complete gid status)
  -- statements and barriers on other nodes
  | isCutOff {request : RemoteRequest} {failure : TransportFailure}
      (hfault : c.firstUnreachable? (c.topology.members request.group)
        = some failure) :
      Reacts c (.send request) (.error failure) c
  | sends {request : RemoteRequest}
      (hfault : c.firstUnreachable? (c.topology.members request.group)
        = none) :
      Reacts c (.send request) (.ok ())
        ((c.record (.sent request)).mapSession fun s =>
          enlist s request (c.topology.members request.group))
  | doesNotHear {node : Node} {id : String} {failure : TransportFailure}
      (hfault : c.unreachable? node = some failure) :
      Reacts c (.prepareBarrier node id) (.error failure) c
  | doesNotStop {node : Node} {id : String}
      (hfault : c.unreachable? node = none)
      (hrejects : node ∈ c.faults.barrier) :
      Reacts c (.prepareBarrier node id)
        (.error (.remote node "barrier rejected")) c
  | stops {node : Node} {id : String} (hfault : c.unreachable? node = none)
      (hheeds : node ∉ c.faults.barrier) :
      Reacts c (.prepareBarrier node id) (.ok ())
        (c.record (.barrierPrepared node id))
  | doesNotWrite {node : Node} {id : String} {failure : TransportFailure}
      (hfault : c.unreachable? node = some failure) :
      Reacts c (.executeBarrier node id) (.error failure) c
  | writes {node : Node} {id : String} (hfault : c.unreachable? node = none) :
      Reacts c (.executeBarrier node id) (.ok ())
        (c.record (.barrierExecuted node id))

-- ================================================== each is the answer

/-- A question leaves the cluster as it is. -/
private theorem answer_of_onlyLooks (hlooks : r.OnlyLooks) (c : Cluster) :
    (answer r c).2 = c := by
  cases r with
  | expand | inBlock | inFailedBlock | touchedCatalog => rfl
  | participants | lookup | relationKind | timestamp | sessionObjects => rfl
  | _ => cases hlooks

/-- A request that makes an entry does nothing else. -/
private theorem answer_of_entry {event : Event}
    (hentry : r.entry? = some event) (c : Cluster) :
    (answer r c).2 = c.record event := by
  cases r with
  | createStorage | createForeignTable | checkOwnership | checkpoint
  | advanceCommand =>
      obtain rfl := Option.some.inj hentry
      rfl
  | beginRemote | setSessionOption | cleanConnections | endBarrier
  | recordBarrier =>
      obtain rfl := Option.some.inj hentry
      rfl
  | _ => cases hentry

/-- A handler that is not set to fail runs. -/
theorem execute_of_no_fault {s : Statement}
    (hfault : c.handlerFault? s.kind = none) :
    c.execute s = (.ok ⟨shownRows s, c.countedRows s⟩, c.ran s) := by
  unfold execute ran LocalSession.afterHandler
  rw [hfault]
  by_cases hddl : s.levelAlone = .ddl
  · simp only [hddl, if_true]
    rfl
  · simp only [hddl, if_false]
    rfl

/-- Every way on the list is the answer, where what it depends on is so. -/
theorem Reacts.eq (h : c.Reacts r reply d) : answer r c = (reply, d) := by
  cases h with
  | looks hlooks hreply => exact Prod.ext hreply (answer_of_onlyLooks hlooks c)
  | notes hentry hreply => exact Prod.ext hreply (answer_of_entry hentry c)
  | fails hfault => simp only [answer, execute, hfault]
  | runs hfault => exact execute_of_no_fault hfault
  | isDefined htaken => simp only [answer, defineRelation, htaken, if_true]
  | defines hfree =>
      simp only [answer, defineRelation, hfree]
      rfl
  | failsToAlter hfault => simp only [answer, alterTable, hfault]
  | alters hfault => simp only [answer, alterTable, hfault]
  | hasBegun hin => simp only [answer, beginBlock, hin, if_true]
  | begins hout =>
      simp only [answer, beginBlock, hout]
      rfl
  | endsNothing hout =>
      simp only [answer, endBlock, hout]
      rfl
  | endsFailed hin hfailed =>
      simp only [answer, endBlock, hin, hfailed]
      rfl
  | commits hin hsound =>
      simp only [answer, endBlock, hin, hsound]
      rfl
  | abortsNothing hout =>
      simp only [answer, abortBlock, hout]
      rfl
  | aborts hin => simp only [answer, abortBlock, hin, if_true]
  | preparesNothing hout =>
      simp only [answer, prepareBlock, hout]
      rfl
  | preparesFailed hin hfailed =>
      simp only [answer, prepareBlock, hin, hfailed]
      rfl
  | isRecorded hin hsound hused =>
      simp only [answer, prepareBlock, hin, hsound, hused]
      rfl
  | prepares hin hsound hfree =>
      simp only [answer, prepareBlock, hin, hsound, hfree]
      rfl
  | isUnrecorded hunknown =>
      simp only [answer, finishLocal_eq, hunknown, if_false]
  | finishes hrecorded =>
      simp only [answer, finishLocal_eq, hrecorded, if_true]
  | releasesNothing hmissing => simp only [answer, releaseSavepoint, hmissing]
  | releases hkept => simp only [answer, releaseSavepoint, hkept]
  | goesNowhere hmissing => simp only [answer, rollbackToSavepoint, hmissing]
  | goesBack hkept => simp only [answer, rollbackToSavepoint, hkept]
  | refusesBranch hfault => simp only [answer, prepareBranch_eq, hfault]
  | holds hfault => simp only [answer, prepareBranch_eq, hfault]
  | keepsBranch hfault => simp only [answer, finishBranch_eq, hfault]
  | hasNoBranch hfault hmissing =>
      simp only [answer, finishBranch_eq, hfault, hmissing, if_false]
  | frees hfault hheld =>
      simp only [answer, finishBranch_eq, hfault, hheld, if_true]
  | refuses hfault => simp only [answer, register_eq, hfault]
  | registers hfault => simp only [answer, register_eq, hfault]
  | isCutOff hfault => simp only [answer, Cluster.send, hfault]
  | sends hfault => simp only [answer, Cluster.send, hfault]
  | doesNotHear hfault => simp only [answer, prepareBarrier, hfault]
  | doesNotStop hfault hrejects =>
      simp only [answer, prepareBarrier, hfault, hrejects, if_true]
  | stops hfault hheeds =>
      simp only [answer, prepareBarrier, hfault, hheeds, if_false]
  | doesNotWrite hfault => simp only [answer, executeBarrier, hfault]
  | writes hfault => simp only [answer, executeBarrier, hfault]
  | characterizes | saves | abortsBranches | strikes | settles => rfl

-- =========================================== the answer is one of them

/-- There is a way for every request and every cluster. -/
theorem exists_reacts (r : Request) (c : Cluster) :
    ∃ reply d, c.Reacts r reply d := by
  cases r with
  | execute s text =>
      cases hfault : c.handlerFault? s.kind with
      | some failure => exact ⟨_, _, .fails hfault⟩
      | none => exact ⟨_, _, .runs hfault⟩
  | defineRelation create kind =>
      cases hname : c.relations.contains create.relation.text
        && !create.ifNotExists with
      | true => exact ⟨_, _, .isDefined hname⟩
      | false => exact ⟨_, _, .defines hname⟩
  | alterTable alter =>
      cases hfault : c.handlerFault? .alterTable with
      | some failure => exact ⟨_, _, .failsToAlter hfault⟩
      | none => exact ⟨_, _, .alters hfault⟩
  | beginBlock =>
      cases hin : c.session.inBlock with
      | true => exact ⟨_, _, .hasBegun hin⟩
      | false => exact ⟨_, _, .begins hin⟩
  | setOption option => exact ⟨_, _, .characterizes⟩
  | endBlock =>
      cases hin : c.session.inBlock with
      | false => exact ⟨_, _, .endsNothing hin⟩
      | true =>
          cases hfailed : c.session.failed with
          | true => exact ⟨_, _, .endsFailed hin hfailed⟩
          | false => exact ⟨_, _, .commits hin hfailed⟩
  | abortBlock =>
      cases hin : c.session.inBlock with
      | true => exact ⟨_, _, .aborts hin⟩
      | false => exact ⟨_, _, .abortsNothing hin⟩
  | prepareBlock gid =>
      cases hin : c.session.inBlock with
      | false => exact ⟨_, _, .preparesNothing hin⟩
      | true =>
          cases hfailed : c.session.failed with
          | true => exact ⟨_, _, .preparesFailed hin hfailed⟩
          | false =>
              by_cases hused : gid ∈ c.localRecords
              · exact ⟨_, _, .isRecorded hin hfailed hused⟩
              · exact ⟨_, _, .prepares hin hfailed hused⟩
  | finishLocal gid commit =>
      by_cases hrecorded : gid ∈ c.localRecords
      · exact ⟨_, _, .finishes hrecorded⟩
      · exact ⟨_, _, .isUnrecorded hrecorded⟩
  | defineSavepoint name => exact ⟨_, _, .saves⟩
  | releaseSavepoint name =>
      cases hkept : savepointsTo? name c.session.savepoints with
      | none => exact ⟨_, _, .releasesNothing hkept⟩
      | some kept => exact ⟨_, _, .releases hkept⟩
  | rollbackToSavepoint name =>
      cases hkept : savepointsTo? name c.session.savepoints with
      | none => exact ⟨_, _, .goesNowhere hkept⟩
      | some kept => exact ⟨_, _, .goesBack hkept⟩
  | prepareBranch node gid =>
      cases hfault : c.prepareFault? node with
      | some failure => exact ⟨_, _, .refusesBranch hfault⟩
      | none => exact ⟨_, _, .holds hfault⟩
  | finishBranch node gid commit =>
      cases hfault : c.finishFault? node commit with
      | some failure => exact ⟨_, _, .keepsBranch hfault⟩
      | none =>
          by_cases hheld : node ∈ c.held gid
          · exact ⟨_, _, .frees hfault hheld⟩
          · exact ⟨_, _, .hasNoBranch hfault hheld⟩
  | abortBranches => exact ⟨_, _, .abortsBranches⟩
  | register t =>
      cases hfault : c.registryFault? t.gid with
      | some failure => exact ⟨_, _, .refuses hfault⟩
      | none => exact ⟨_, _, .registers hfault⟩
  | dropBranch gid node commit => exact ⟨_, _, .strikes⟩
  | complete gid status => exact ⟨_, _, .settles⟩
  | send request =>
      cases hfault : c.firstUnreachable?
        (c.topology.members request.group) with
      | some failure => exact ⟨_, _, .isCutOff hfault⟩
      | none => exact ⟨_, _, .sends hfault⟩
  | prepareBarrier node id =>
      cases hfault : c.unreachable? node with
      | some failure => exact ⟨_, _, .doesNotHear hfault⟩
      | none =>
          by_cases hrejects : node ∈ c.faults.barrier
          · exact ⟨_, _, .doesNotStop hfault hrejects⟩
          · exact ⟨_, _, .stops hfault hrejects⟩
  | executeBarrier node id =>
      cases hfault : c.unreachable? node with
      | some failure => exact ⟨_, _, .doesNotWrite hfault⟩
      | none => exact ⟨_, _, .writes hfault⟩
  | createStorage | createForeignTable | checkOwnership | checkpoint
  | advanceCommand =>
      exact ⟨_, _, .notes rfl rfl⟩
  | beginRemote | setSessionOption | cleanConnections | endBarrier
  | recordBarrier =>
      exact ⟨_, _, .notes rfl rfl⟩
  | expand | inBlock | inFailedBlock | touchedCatalog =>
      exact ⟨_, _, .looks trivial rfl⟩
  | participants | lookup | relationKind | timestamp | sessionObjects =>
      exact ⟨_, _, .looks trivial rfl⟩

/-- An answer is given in one of the ways. -/
theorem reacts_of_answer (h : answer r c = (reply, d)) :
    c.Reacts r reply d := by
  obtain ⟨other, e, hreacts⟩ := exists_reacts r c
  rw [hreacts.eq] at h
  obtain ⟨rfl, rfl⟩ := Prod.mk.inj h
  exact hreacts

/-- What the cluster answers is on the list. -/
theorem reacts_answer (r : Request) (c : Cluster) :
    c.Reacts r (answer r c).1 (answer r c).2 :=
  reacts_of_answer rfl

end Cluster

end ClusterUtility
