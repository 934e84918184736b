/-
Dispatch: the life of one statement.

A statement is classified and logged, passes the gate, is planned, and runs
here and on the nodes of its plan. The statements that implement a statement
about a table, and the elements of CREATE SCHEMA, are dispatched in turn,
one level deeper; only the objects that such a statement is about in the
first place are handled directly.

# Depth

An expansion may contain anything, even what it came from, so nothing about
the statements bounds the recursion. The configured depth does: a call below
it is refused, and `dispatchWithin` counts the levels that are left.

# Interception

An interceptor stands around every dispatch, those of expansions included.
-/
import ClusterUtility.Completion
import ClusterUtility.Gate
import ClusterUtility.Plan
import ClusterUtility.Statement.Results
import ClusterUtility.Text.Identifier
import ClusterUtility.Transaction.Barrier
import ClusterUtility.Transaction.TwoPhase

namespace ClusterUtility

open Program (request note ofReply forEach)

-- ====================================================== calls

/-- A statement to be dispatched. -/
structure Call where
  statement : Statement
  /-- The text that the statement was given as; other nodes receive it. -/
  text : String
  context : Context
  /-- The client waits for a completion tag. -/
  hasTag : Bool
  /-- The client takes rows. -/
  takesRows : Bool

namespace Call

/-- The call of a statement that an expansion produced: nobody waits for its
tag or its rows. -/
def sub (call : Call) (s : Statement) : Call :=
  ⟨s, call.text, call.context.forSubstatement, false, false⟩

/-- Writes the completion tag, if anyone waits for it. -/
def tellTag (call : Call) (text : String) : Program Unit :=
  if call.hasTag then note (.setTag text) else return ()

/-- Runs the handler of the statement; gives the rows it counted. -/
def runHandler (call : Call) : Program (Option Nat) := do
  let handled ← ofReply (← request (.execute call.statement call.text))
  if call.takesRows then
    note (.rows handled.rows)
  return handled.count

/-- Runs the handler and nothing else. -/
def handle (call : Call) : Program Unit := do
  let _ ← call.runHandler
  return ()

/-- The call without anyone to take its rows. -/
def withoutRows (call : Call) : Call := { call with takesRows := false }

/-- Runs the handler and tells how many rows the command came to. -/
def handleCounted (call : Call) (command : String) : Program Unit := do
  match ← call.runHandler with
  | some rows => call.tellTag (CompletionTag.counted command rows)
  | none => return ()

end Call

-- ====================================================== expansions

/-- What happens between two statements of an expansion: each sees what the
one before it did. -/
def inSequence (act : Statement → Program Unit) : List Statement → Program Unit
  | [] => return ()
  | [s] => act s
  | s :: rest => do
      act s
      request .advanceCommand
      inSequence act rest

/-- Creates a table: its catalog entry, then its storage. -/
def createTable (create : CreateTable) : Program Unit := do
  let relation ← ofReply (← request (.defineRelation create .table))
  request .advanceCommand
  ofReply (← request (.createStorage relation create))

/-- Creates a foreign table: its catalog entry, then its tie to the server. -/
def createForeignTable (create : CreateForeignTable) : Program Unit := do
  let relation ← ofReply
      (← request (.defineRelation create.table .foreignTable))
  ofReply (← request (.createForeignTable relation create))

/-- Runs one statement of the expansion of another. The objects that the
other is about are handled directly, everything else is dispatched. -/
def runExpanded (nested : Statement → Program Unit) (parent s : Statement) :
    Program Unit :=
  match parent, s with
  | .alterTable _, .alterTable alter => do
    ofReply (← request (.alterTable alter))
  | _, .createTable create =>
      if parent.isPrimalCreate then createTable create else nested s
  | _, .createForeignTable create =>
      if parent.isPrimalCreate then createForeignTable create else nested s
  | _, _ => nested s

/-- Runs the expansion of a statement about a table. -/
def runExpansion (nested : Statement → Program Unit) (call : Call) :
    Program Unit := do
  let statements ← ofReply (← request (.expand call.statement call.text))
  inSequence (runExpanded nested call.statement) statements

/-- Creates a schema and then its elements, in order. -/
def createSchema (nested : Statement → Program Unit) (call : Call)
    (elements : List Statement) : Program Unit := do
  call.withoutRows.handle
  forEach (fun s => do request .advanceCommand; nested s) elements

-- ====================================================== the local run

/-- The request that drops pooled connections to a database elsewhere. -/
def cleanDatabaseText (database : String) : String :=
  "CLEAN CONNECTION TO ALL FOR DATABASE " ++ Text.identifier database ++ ";"

/-- Drops pooled connections to a database here and on the other
coordinators. -/
def cleanDatabase (topology : Topology) (database : String) :
    Program Unit := do
  cleanConnections (.forDatabase database)
  propagate topology (cleanDatabaseText database) .coordinators true

/-- Runs the handler of a session command and records it with the pool,
unless it ends with the open transaction. -/
def runSessionCommand (call : Call) (isLocal untilCommit : Bool)
    (command : String) :
    Program Unit := do
  call.handle
  if call.context.propagates then
    let inBlock ← request .inBlock
    if !(untilCommit && inBlock) then
      forwardSessionCommand isLocal call.text command

/-- Runs REINDEX, which exists for three types of objects. -/
def runReindex (call : Call) (objectType : ObjectType) : Program Unit :=
  match objectType with
  | .index => call.handle
  | .table => call.handle
  | .database => call.handle
  | other => .fail (.unknownStatement ("REINDEX " ++ other.name))

/-- Runs a statement on this node. -/
def runLocally (topology : Topology) (nested : Statement → Program Unit)
    (call : Call) :
    Program Unit :=
  match call.statement with
  | .transaction command => do
      match ← command.run call.context with
      | some tag => call.tellTag tag
      | none => return ()
  | .query q =>
      if q.cursor.isSome then call.handle
      else .fail (.internal "non-cursor plan reached utility dispatch")
  | .fetch f => call.handleCounted (if f.isMove then "MOVE" else "FETCH")
  | .copy _ => call.handleCounted "COPY"
  | .createSchema _ _ elements => createSchema nested call elements
  | .createTable _ => runExpansion nested call
  | .createForeignTable _ => runExpansion nested call
  | .alterTable _ => runExpansion nested call
  | .createIndex i => do
      ofReply (← request (.checkOwnership i.relation))
      call.handle
  | .checkpoint => do ofReply (← request (.checkpoint call.context.inRecovery))
  | .reindex r => runReindex call r.objectType
  | .variableSet v => runSessionCommand call v.isLocal v.isLocal "SET"
  | .discard _ => runSessionCommand call false true "DISCARD"
  | .dropDatabase name _ => do
      if call.context.propagates then
        cleanDatabase topology name
      call.handle
  | .cleanConnection clean => cleanConnections clean
  | .barrier id => do
      let id ← Barrier.start topology id call.context
      call.tellTag ("BARRIER " ++ id)
  | _ => call.handle

-- ====================================================== dispatch

/-- The class that a statement is logged under, by the session's objects. -/
def classify (s : Statement) : Program LogClass := do
  match s.level? (← request .sessionObjects) with
  | some level => return level
  | none => .fail (.endlessExecution s.tag)

/-- Lets a statement pass or refuses it. -/
def passGate (config : Configuration) (call : Call) : Program Unit := do
  ofReply (checkReadOnly call.statement call.statement.tag call.context)
  ofReply (config.checkSupported call.statement)
  ofReply (checkContext call.statement call.context (← request .inBlock))
  if call.statement.tag = unknownTag then
    .fail (.unknownStatement call.statement.kind.name)

/-- The plan of a call; what does not come from a client stays local. -/
def planCall (call : Call) : Program (Option Plan) :=
  if call.context.propagates then Plan.make call.statement else return none

/-- Dispatches a call whose depth is allowed. -/
def process (config : Configuration) (nested : Statement → Program Unit)
    (call : Call) :
    Program Unit := do
  let level ← classify call.statement
  if call.context.isTopLevel && level.isLoggedUnder config.logStatement then
    note (.logged call.text)
  passGate config call
  let plan ← planCall call
  propagateAt config.topology call.text plan .beforeLocal
  runLocally config.topology nested call
  propagateAt config.topology call.text plan .afterLocal

/-- Dispatches a call without an interceptor around it. -/
def standardDispatch (config : Configuration) (nested : Call → Program Unit)
    (call : Call) :
    Program Unit := do
  if call.hasTag then
    note .clearTag
  if config.maxDepth < call.context.depth then
    .fail (.recursionLimit config.maxDepth)
  else process config (fun s => nested (call.sub s)) call

-- ====================================================== interception

/-- What stands around every dispatch. -/
inductive Interceptor where
  /-- Nothing. -/
  | none
  /-- An interceptor that passes every call on. -/
  | standard
  /-- An interceptor that notes every call, and refuses statements of some
  kinds. -/
  | recorder (refused : List Kind)
deriving DecidableEq, Repr

namespace Interceptor

/-- What a recorder notes of a call. -/
def sighting (call : Call) : Sighting :=
  ⟨call.statement.kind, call.context.depth, call.context.isTopLevel,
    call.hasTag, call.text⟩

/-- The failure of a refused call. -/
def refusal (kind : Kind) : Failure := .handler (kind.name ++ " rejected")

/-- The dispatch of a call with the interceptor around it. -/
def around (i : Interceptor) (inner : Call → Program Unit) (call : Call) :
    Program Unit :=
  match i with
  | .none => inner call
  | .standard => inner call
  | .recorder refused => do
      note (.sighted (sighting call))
      if call.statement.kind ∈ refused then .fail (refusal call.statement.kind)
      else inner call

end Interceptor

/-- Dispatches a call below which there are a number of levels left. -/
def dispatchWithin (config : Configuration) (i : Interceptor) :
    Nat → Call → Program Unit
  | 0 =>
      i.around (standardDispatch config fun _ =>
        .fail (.recursionLimit config.maxDepth))
  | levels + 1 =>
      i.around (standardDispatch config (dispatchWithin config i levels))

/-- Dispatches a call. -/
def dispatch (config : Configuration) (i : Interceptor) (call : Call) :
    Program Unit :=
  dispatchWithin config i (config.maxDepth + 1 - call.context.depth) call

/-- A dispatch is the standard one, with every call that it makes dispatched
in turn. -/
theorem dispatch_eq (config : Configuration) (i : Interceptor) (call : Call) :
    dispatch config i call
      = i.around (standardDispatch config (dispatch config i)) call := by
  have inner : ∀ c : Call,
      dispatchWithin config i (config.maxDepth + 1 - c.context.depth) c
        = i.around (standardDispatch config (dispatch config i)) c := by
    intro c
    by_cases h : config.maxDepth < c.context.depth
    · have h0 : config.maxDepth + 1 - c.context.depth = 0 := by omega
      rw [h0]
      cases i <;> simp [dispatchWithin, Interceptor.around,
        standardDispatch, h]
    · obtain ⟨n, hn⟩ : ∃ n, config.maxDepth + 1 - c.context.depth = n + 1 :=
        ⟨config.maxDepth - c.context.depth, by omega⟩
      have hsub : ∀ s, dispatchWithin config i n (c.sub s)
          = dispatch config i (c.sub s) := by
        intro s
        have hd : config.maxDepth + 1 - (c.sub s).context.depth = n := by
          simp only [Call.sub, Context.forSubstatement]
          omega
        rw [dispatch, hd]
      rw [hn]
      cases i <;> simp [dispatchWithin, Interceptor.around,
        standardDispatch, hsub]
  exact inner call

end ClusterUtility
