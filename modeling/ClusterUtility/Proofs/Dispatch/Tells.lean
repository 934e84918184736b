/-
What a dispatch tells on its way.

Most parts of a dispatch tell nothing (`Program.Silent`): plans, messages to
other nodes, the cleaning of connections, and barriers. What is left are the
rows of a handler and the completion tag, both of the local run, and the notes
around it.

`Program.Tells` says of all notes of a program, on every path, that they have a
property. It goes from part to part as programs are put together, so one pass
through the local run serves every property of notes, and the dispatches that a
compound statement makes enter as a hypothesis.
-/
import ClusterUtility.Proofs.Dispatch.Told
import ClusterUtility.Proofs.Dispatch.Reach

namespace ClusterUtility

open Program (Silent Tells tells_ofReply tells_ofRemoteReply)

variable {P : Note → Prop}

-- ================================================== plans and messages

private theorem silent_groupOf (name : QualifiedName) :
    (Plan.groupOf name).Silent :=
  Tells.request_bind fun _ => Tells.ofReply_bind fun _ => trivial

/-- To find the group that a plan is for tells nothing. -/
private theorem silent_resolve (d : Destination) :
    (Plan.resolve d).Silent := by
  cases d with
  | group g => trivial
  | ofRelation name => exact silent_groupOf name
  | ofRelations command names =>
      cases names with
      | nil => trivial
      | cons name rest =>
          refine (silent_groupOf name).bind fun g => ?_
          refine (Tells.forEach (fun other => ?_) rest).bind fun _ => trivial
          refine (silent_groupOf other).bind fun g' => ?_
          split <;> trivial

/-- To plan a call tells nothing. -/
theorem silent_planCall (call : Call) : (planCall call).Silent := by
  unfold planCall
  split
  · unfold Plan.make
    split
    · trivial
    next route _ =>
      exact (silent_resolve route.destination).bind fun _ => trivial
  · trivial

/-- To send a statement to other nodes tells nothing. -/
private theorem silent_propagate (topology : Topology) (text : String)
    (group : NodeGroup) (autocommit : Bool) :
    (propagate topology text group autocommit).Silent := by
  unfold propagate
  split
  · trivial
  · exact Tells.request_bind tells_ofRemoteReply

/-- So it is with a plan, before the local run and after it. -/
theorem silent_propagateAt (topology : Topology) (text : String)
    (plan : Option Plan) (timing : Timing) :
    (propagateAt topology text plan timing).Silent := by
  cases plan with
  | none => trivial
  | some p =>
      unfold propagateAt
      dsimp only
      split
      · exact silent_propagate ..
      · trivial

private theorem silent_cleanConnections (clean : CleanConnection) :
    (cleanConnections clean).Silent :=
  Tells.request_bind tells_ofRemoteReply

/-- To clean the connections of a database, here and elsewhere, tells
nothing. -/
private theorem silent_cleanDatabase (topology : Topology)
    (database : String) : (cleanDatabase topology database).Silent :=
  (silent_cleanConnections _).bind fun _ => silent_propagate ..

-- ====================================================== barriers

private theorem silent_release (id : String) (nodes : List Node) :
    (Barrier.release id nodes).Silent := by
  refine Tells.forEach (fun node => ?_) nodes
  exact Tells.request_bind fun _ => trivial

/-- The first phase of a barrier tells nothing, also where a node refuses and
the stopped ones are let go. -/
private theorem silent_barrierPrepare (id : String)
    (stopped nodes : List Node) :
    (Barrier.prepare id stopped nodes).Silent := by
  induction nodes generalizing stopped with
  | nil => trivial
  | cons node rest ih =>
      refine Tells.request_bind fun reply => ?_
      cases reply with
      | ok _ => exact ih (stopped ++ [node])
      | error cause => exact (silent_release id stopped).bind fun _ => trivial

/-- So it is with the second phase. -/
private theorem silent_barrierExecute (id : String)
    (stopped nodes : List Node) :
    (Barrier.execute id stopped nodes).Silent := by
  induction nodes with
  | nil => trivial
  | cons node rest ih =>
      refine Tells.request_bind fun reply => ?_
      cases reply with
      | ok _ => exact ih
      | error cause => exact (silent_release id stopped).bind fun _ => trivial

/-- So it is with a whole barrier, its record and its end. -/
private theorem silent_barrierRun (topology : Topology) (id : String) :
    (Barrier.run topology id).Silent := by
  refine (silent_barrierPrepare id [] _).bind fun _ => ?_
  refine (silent_barrierExecute id _ _).bind fun _ => ?_
  refine Tells.bind (p := Barrier.record id _) ?_ fun _ => ?_
  · refine Tells.request_bind fun reply => ?_
    cases reply with
    | ok _ => trivial
    | error cause => exact (silent_release id _).bind fun _ => trivial
  · refine Tells.forEach (fun node => Tells.request_bind fun reply => ?_) _
    cases reply <;> trivial

/-- A barrier tells nothing: its identifier is what it ends with. -/
theorem silent_barrierStart (topology : Topology) (id : Option String)
    (c : Context) : (Barrier.start topology id c).Silent := by
  unfold Barrier.start
  split
  · refine Tells.bind (p := Barrier.identify topology id) ?_ fun id => ?_
    · cases id with
      | some id => trivial
      | none => exact Tells.request_bind fun _ => trivial
    · exact (silent_barrierRun topology id).bind fun _ => trivial
  · trivial

-- ====================================================== the local run

/-- The statements whose local run may write the tag. -/
def Statement.writesTag : Statement → Bool
  | .transaction _ => true
  | .fetch _ => true
  | .copy _ => true
  | .barrier _ => true
  | _ => false

section nested

variable {nested : Statement → Program Unit}
  (hnested : ∀ s, (nested s).Tells P)
include hnested

/-- One of the statements that a call runs through tells what a dispatch of it
tells, and nothing if it is run directly. -/
private theorem tells_runExpanded (parent s : Statement) :
    (runExpanded nested parent s).Tells P := by
  unfold runExpanded
  split
  · exact Tells.request_bind fun reply => tells_ofReply reply
  · split
    · refine Tells.request_bind fun reply => Tells.ofReply_bind fun _ => ?_
      refine Tells.request_bind fun _ => ?_
      exact Tells.request_bind fun reply => tells_ofReply reply
    · exact hnested _
  · split
    · refine Tells.request_bind fun reply => Tells.ofReply_bind fun _ => ?_
      exact Tells.request_bind fun reply => tells_ofReply reply
    · exact hnested _
  · exact hnested _

/-- All of them together tell what the dispatches of them tell. -/
private theorem tells_runExpansion (call : Call) :
    (runExpansion nested call).Tells P := by
  refine Tells.request_bind fun reply =>
    Tells.ofReply_bind fun statements => ?_
  fun_induction inSequence (runExpanded nested call.statement) statements with
  | case1 => trivial
  | case2 s => exact tells_runExpanded hnested call.statement s
  | case3 s rest hrest ih =>
      refine (tells_runExpanded hnested call.statement s).bind fun _ => ?_
      exact Tells.request_bind fun _ => ih

end nested

section local_run

variable {call : Call} (hrows : ∀ rows, P (.rows rows))

/-- Where nobody waits for the tag, it is not written. -/
theorem tells_tellTag (htag : call.hasTag = true → ∀ text, P (.setTag text))
    (text : String) : (call.tellTag text).Tells P := by
  unfold Call.tellTag
  split
  next hwaits => exact ⟨htag hwaits text, trivial⟩
  · trivial

include hrows

/-- A handler tells the rows that it shows. -/
theorem tells_runHandler (call : Call) : call.runHandler.Tells P := by
  refine Tells.request_bind fun reply => Tells.ofReply_bind fun handled => ?_
  show (if call.takesRows = true then _ else _ : Program (Option Nat)).Tells P
  split
  · exact ⟨hrows _, trivial⟩
  · trivial

/-- So it is where their number does not matter. -/
theorem tells_handle (call : Call) : call.handle.Tells P :=
  (tells_runHandler hrows call).bind fun _ => trivial

/-- Where it does, the tag is told too. -/
private theorem tells_handleCounted
    (htag : call.hasTag = true → ∀ text, P (.setTag text)) (command : String) :
    (call.handleCounted command).Tells P := by
  refine (tells_runHandler hrows call).bind fun count => ?_
  cases count with
  | none => trivial
  | some rows => exact tells_tellTag htag _

/-- A session command tells what its handler tells. -/
private theorem tells_runSessionCommand (call : Call)
    (isLocal untilCommit : Bool) (command : String) :
    (runSessionCommand call isLocal untilCommit command).Tells P := by
  refine (tells_handle hrows call).bind fun _ => ?_
  show (if call.context.propagates = true then _ else _ : Program Unit).Tells P
  split
  · refine Tells.request_bind fun inBlock => ?_
    show (if (!(untilCommit && inBlock)) = true
      then _ else _ : Program Unit).Tells P
    split
    · refine Tells.request_bind fun status => ?_
      show (if status < 0 then _ else _ : Program Unit).Tells P
      split <;> trivial
    · trivial
  · trivial

/-- So does REINDEX. -/
private theorem tells_runReindex (call : Call) (objectType : ObjectType) :
    (runReindex call objectType).Tells P := by
  unfold runReindex
  split
  · exact tells_handle hrows call
  · exact tells_handle hrows call
  · exact tells_handle hrows call
  · trivial

variable {nested : Statement → Program Unit}
  (hnested : ∀ s, (nested s).Tells P)
include hnested

/-- CREATE SCHEMA tells what its handler tells, and then what the dispatches of
its elements tell. -/
private theorem tells_createSchema (call : Call) (elements : List Statement) :
    (createSchema nested call elements).Tells P := by
  refine (tells_handle hrows call.withoutRows).bind fun _ => ?_
  exact Tells.forEach (fun s => Tells.request_bind fun _ => hnested s) elements

/-- What the local run tells are rows and, where the statement writes it and
somebody waits for it, the tag; and what the dispatches tell that it makes. -/
theorem tells_runLocally
    (htag : call.statement.writesTag = true → call.hasTag = true →
      ∀ text, P (.setTag text))
    (topology : Topology) : (runLocally topology nested call).Tells P := by
  unfold runLocally
  cases hs : call.statement with
  | transaction command =>
      refine (silent_run call.context command).tells.bind fun tag => ?_
      cases tag with
      | none => trivial
      | some text => exact tells_tellTag (htag (by rw [hs]; rfl)) text
  | fetch f => exact tells_handleCounted hrows (htag (by rw [hs]; rfl)) _
  | copy c => exact tells_handleCounted hrows (htag (by rw [hs]; rfl)) _
  | barrier id =>
      have hstart := silent_barrierStart topology id call.context
      refine hstart.tells.bind fun id => ?_
      exact tells_tellTag (htag (by rw [hs]; rfl)) _
  | query q =>
      dsimp only
      split
      · exact tells_handle hrows call
      · trivial
  | createSchema name owner elements =>
      exact tells_createSchema hrows hnested call elements
  | createTable create => exact tells_runExpansion hnested call
  | createForeignTable create => exact tells_runExpansion hnested call
  | alterTable alter => exact tells_runExpansion hnested call
  | createIndex i =>
      refine Tells.request_bind fun reply => Tells.ofReply_bind fun _ => ?_
      exact tells_handle hrows call
  | checkpoint =>
      exact Tells.request_bind fun reply => tells_ofReply reply
  | reindex r => exact tells_runReindex hrows call r.objectType
  | variableSet v =>
      exact tells_runSessionCommand hrows call v.isLocal v.isLocal "SET"
  | discard d => exact tells_runSessionCommand hrows call false true "DISCARD"
  | dropDatabase name missingOk =>
      dsimp only
      split
      · exact (silent_cleanDatabase topology name).tells.bind fun _ =>
          tells_handle hrows call
      · exact tells_handle hrows call
  | cleanConnection clean => exact (silent_cleanConnections clean).tells
  | _ => exact tells_handle hrows call

/-- What is left of a call that is let through, likewise. -/
theorem tells_carrying
    (htag : call.statement.writesTag = true → call.hasTag = true →
      ∀ text, P (.setTag text))
    (topology : Topology) : (do
      let plan ← planCall call
      propagateAt topology call.text plan .beforeLocal
      runLocally topology nested call
      propagateAt topology call.text plan .afterLocal).Tells P := by
  refine (silent_planCall call).tells.bind fun plan => ?_
  refine (silent_propagateAt ..).tells.bind fun _ => ?_
  refine (tells_runLocally hrows hnested htag topology).bind fun _ => ?_
  exact (silent_propagateAt ..).tells

end local_run

end ClusterUtility
