/-
The text of a statement is opaque, and logging does nothing.

A statement comes as a value and as a text. What is done about it is decided by
the value alone: the text is handed on to those who run it, and a line of the
log is written by the configuration, and nothing depends on either. So the
same statement with two texts, logged or not, is dispatched in the same way.

# The two dispatches

The dispatcher is followed part by part, with `Program.Retold` for the relation
of the two programs. Where no text is carried the bounds on requests are
enough. A statement of an expansion has the text of its parent, and no plan, so
below the top level the text goes to nobody but handlers and the pool.

# The two runs

A cluster looks at neither the texts it is handed nor its journal. So a journal
is kept with the text left open (`Cluster.Entry`): both runs leave the entries
of one such journal, each with its own text filled in, and else the same
cluster (`Program.Retold.sideBySide`).
-/
import ClusterUtility.Proofs.Dispatch.Forwarding
import ClusterUtility.Proofs.Cluster.Journal
import ClusterUtility.Proofs.Program.Retold
import ClusterUtility.Session

namespace ClusterUtility

open Cluster (Event answer)
open Program (Asks Retold Within request ofReply)

/-- The call with another text. -/
def Call.withText (call : Call) (text : String) : Call := { call with text }

/-- The configuration with other statements logged. -/
def Configuration.withLog (config : Configuration) (level : LogClass) :
    Configuration :=
  { config with logStatement := level }

-- ============================================ parts that carry no text

variable {own : NodeGroup → Bool → Prop} {besides : RemoteRequest → Prop}

/-- Only what is sent and what the pool records carries a text. -/
private theorem textFree_of_reach {r : Request} (hr : r.reach ≠ .message) :
    r.TextFree besides := by
  cases r with
  | send | setSessionOption => exact absurd rfl hr
  | _ => trivial

/-- What is asked of this node carries none, but for its handlers. -/
private theorem textFree_home (r : Request) (hr : r.reach = .home) :
    r.TextFree besides := by
  refine textFree_of_reach ?_
  rw [hr]
  decide

/-- Transaction commands carry no text. -/
theorem textFree_run (command : TransactionCommand) (c : Context) :
    Asks (fun r => r.TextFree besides) (command.run c) := by
  cases hgid : command.gid? with
  | none => exact asks_run textFree_home (fun _ _ => trivial) hgid
  | some gid =>
      refine asks_run_of_gid? ⟨textFree_home, fun r hr => ?_, trivial⟩ hgid c
      cases r with
      | send | setSessionOption => exact False.elim hr
      | _ => trivial

/-- Neither does what is handled directly. -/
theorem textFree_handled (s : Statement) :
    Asks (fun r => r.TextFree besides) s.handled := by
  cases s with
  | createTable create =>
      refine Asks.request_bind trivial fun reply =>
        Asks.bind (Asks.ofReply reply) fun _ => ?_
      refine Asks.request_bind trivial fun _ => ?_
      exact Asks.request_bind trivial fun reply => Asks.ofReply reply
  | createForeignTable create =>
      refine Asks.request_bind trivial fun reply =>
        Asks.bind (Asks.ofReply reply) fun _ => ?_
      exact Asks.request_bind trivial fun reply => Asks.ofReply reply
  | alterTable alter =>
      exact Asks.request_bind trivial fun reply => Asks.ofReply reply
  | _ => trivial

-- ============================================= handlers and expansions

variable {call : Call} {other : String}
  {nested nested' : Statement → Program Unit}

/-- A handler is handed the text. -/
private theorem retold_runHandler (call : Call) (other : String) :
    Retold own besides call.text other call.runHandler
      (call.withText other).runHandler := by
  have hwork (r : Request) (hr : r.WorksFor call) : r.TextFree besides :=
    textFree_of_reach (by simp [hr.reach])
  exact .execute call.statement fun reply =>
    .refl ((asks_runHandler hwork).2 reply)

/-- So it is where the number of rows does not matter. -/
private theorem retold_handle (call : Call) (other : String) :
    Retold own besides call.text other call.handle
      (call.withText other).handle :=
  (retold_runHandler call other).bind fun _ => .done ()

/-- So it is where the number is told with the tag. -/
private theorem retold_handleCounted (call : Call) (other : String)
    (command : String) :
    Retold own besides call.text other (call.handleCounted command)
      ((call.withText other).handleCounted command) := by
  refine (retold_runHandler call other).bind fun count => ?_
  cases count with
  | none => exact .done ()
  | some rows => exact .refl (asks_tellTag call _)

/-- REINDEX runs a handler, or fails with either text. -/
private theorem retold_runReindex (call : Call) (other : String)
    (objectType : ObjectType) :
    Retold own besides call.text other (runReindex call objectType)
      (runReindex (call.withText other) objectType) := by
  cases objectType with
  | index | table | database => exact retold_handle call other
  | _ => exact .fail _

/-- The pool is handed the text. -/
theorem retold_runSessionCommand (call : Call) (other : String)
    (isLocal untilCommit : Bool) (command : String) :
    Retold own besides call.text other
      (runSessionCommand call isLocal untilCommit command)
        (runSessionCommand (call.withText other) isLocal untilCommit
          command) := by
  refine (retold_handle call other).bind fun _ => ?_
  show Retold own besides _ _
    (if call.context.propagates = true then _ else _)
    (if call.context.propagates = true then _ else _)
  split
  · refine Retold.request_bind trivial fun inBlock => ?_
    show Retold own besides _ _
      (if (!(untilCommit && inBlock)) = true then _ else _)
      (if (!(untilCommit && inBlock)) = true then _ else _)
    split
    · refine .setOption isLocal fun status => .refl ?_
      show Asks _ (if status < 0 then _ else _)
      split <;> trivial
    · exact .done ()
  · exact .done ()

section nested

variable (hnested : ∀ s,
  Retold own besides call.text other (nested s) (nested' s))
include hnested

/-- Statements in sequence are retold where each of them is. -/
private theorem retold_inSequence (statements : List Statement) :
    Retold own besides call.text other (inSequence nested statements)
      (inSequence nested' statements) := by
  fun_induction inSequence nested statements with
  | case1 => exact .done ()
  | case2 s => exact hnested s
  | case3 s rest hrest ih =>
      rw [inSequence_next nested' s hrest]
      exact (hnested s).bind fun _ => Retold.request_bind trivial fun _ => ih

/-- What is handled directly carries no text; else a statement is
dispatched. -/
private theorem retold_runExpanded (parent s : Statement) :
    Retold own besides call.text other (runExpanded nested parent s)
      (runExpanded nested' parent s) := by
  rw [runExpanded_eq, runExpanded_eq]
  split
  · exact .refl (textFree_handled s)
  · exact hnested s

/-- A cluster expands a statement alike, whatever its text. -/
private theorem retold_runExpansion :
    Retold own besides call.text other (runExpansion nested call)
      (runExpansion nested' (call.withText other)) := by
  refine .expand call.statement fun reply => ?_
  have hreply : Retold own besides call.text other (ofReply reply)
      (ofReply reply) :=
    .refl (Asks.ofReply reply)
  refine hreply.bind fun statements => ?_
  exact retold_inSequence
    (retold_runExpanded hnested call.statement) statements

/-- A schema is retold by its handler and its elements. -/
private theorem retold_createSchema (elements : List Statement) :
    Retold own besides call.text other (createSchema nested call elements)
      (createSchema nested' (call.withText other) elements) := by
  refine Retold.bind (retold_handle call.withoutRows other) fun _ => ?_
  refine Retold.forEach (fun s => ?_) elements
  exact Retold.request_bind trivial fun _ => hnested s

/-- What runs on this node. -/
theorem retold_runLocally {topology : Topology}
    (hclean : ∀ request, call.context.propagates = true →
      IsCleaning topology call request → besides request) :
    Retold own besides call.text other (runLocally topology nested call)
      (runLocally topology nested' (call.withText other)) := by
  have hhandle : Retold own besides call.text other call.handle
      (call.withText other).handle :=
    retold_handle call other
  obtain ⟨s, text, context, hasTag, takesRows⟩ := call
  cases s with
  | transaction command =>
      refine Retold.bind (.refl (textFree_run command context)) fun tag => ?_
      cases tag with
      | none => exact .done ()
      | some said => exact .refl (asks_tellTag _ said)
  | query q =>
      unfold runLocally
      dsimp only [Call.withText]
      split
      · exact hhandle
      · exact .fail _
  | fetch f => exact retold_handleCounted _ other _
  | copy c => exact retold_handleCounted _ other _
  | createSchema name owner elements =>
      exact retold_createSchema hnested elements
  | createTable create => exact retold_runExpansion hnested
  | createForeignTable create => exact retold_runExpansion hnested
  | alterTable alter => exact retold_runExpansion hnested
  | createIndex i =>
      refine Retold.request_bind trivial fun reply => ?_
      exact Retold.bind (.refl (Asks.ofReply reply)) fun _ => hhandle
  | checkpoint =>
      exact .refl (Asks.request_bind trivial fun reply => Asks.ofReply reply)
  | reindex r => exact retold_runReindex _ other r.objectType
  | variableSet v =>
      exact retold_runSessionCommand _ other v.isLocal v.isLocal "SET"
  | discard d => exact retold_runSessionCommand _ other false true "DISCARD"
  | dropDatabase name missingOk =>
      show Retold own besides text other
        (if context.propagates = true then _ else _)
        (if context.propagates = true then _ else _)
      by_cases hp : context.propagates = true
      · rw [if_pos hp, if_pos hp]
        refine Retold.bind (.refl ?_) fun _ => hhandle
        refine Asks.bind (asks_cleanConnections textFree_home _) fun _ => ?_
        exact asks_propagate fun hmembers =>
          hclean _ hp ⟨name, missingOk, rfl, hmembers, rfl⟩
      · rw [if_neg hp, if_neg hp]
        exact hhandle
  | cleanConnection clean =>
      exact .refl (asks_cleanConnections textFree_home clean)
  | barrier id =>
      have hbarrier : Asks (fun r => r.TextFree besides)
          (Barrier.start topology id context) :=
        asks_barrier textFree_home
          (fun _ _ hr => textFree_of_reach (by simp [hr.reach])) id
      exact Retold.bind (.refl hbarrier) fun id => .refl (asks_tellTag _ _)
  | _ => exact hhandle

end nested

-- ==================================================== a whole dispatch

/-- A plan sends the one text or the other. -/
private theorem retold_propagateAt {topology : Topology} {text : String}
    {plan : Option Plan} (hown : ∀ p, plan = some p → own p.group p.autocommit)
    (timing : Timing) :
    Retold own besides text other (propagateAt topology text plan timing)
      (propagateAt topology other plan timing) := by
  cases plan with
  | none => exact .done ()
  | some p =>
      unfold propagateAt propagate
      dsimp only
      split
      · split
        · exact .done ()
        · exact .send (hown p rfl) fun reply =>
            .refl (Asks.ofRemoteReply reply)
      · exact .done ()

/-- Each of the two may be logged or not. -/
theorem retold_logged {text : String} {p q : Program Unit} (logs logs' : Bool)
    (line line' : String) (h : Retold own besides text other p q) :
    Retold own besides text other
      (if logs then Program.bind (Program.note (.logged line)) fun _ => p
        else p)
      (if logs' then Program.bind (Program.note (.logged line')) fun _ => q
        else q) := by
  cases logs <;> cases logs'
  · exact h
  · exact .logged_other line' h
  · exact .logged line h
  · exact .logged line (.logged_other line' h)

/-- A dispatch, with what it dispatches in turn. -/
theorem retold_dispatch (config : Configuration) (level : LogClass)
    (hown : Within (fun r => r.TextFree besides)
      (fun plan => ∀ p, plan = some p → own p.group p.autocommit)
      (planCall call))
    (hclean : ∀ request, call.context.propagates = true →
      IsCleaning config.topology call request → besides request)
    (hnested : call.context.depth ≤ config.maxDepth →
      ∀ s, Retold own besides call.text other
        (dispatch config .none (call.sub s))
        (dispatch (config.withLog level) .none
          ((call.withText other).sub s))) :
    Retold own besides call.text other (dispatch config .none call)
      (dispatch (config.withLog level) .none (call.withText other)) := by
  have hcarried (hdepth : call.context.depth ≤ config.maxDepth) :
      Retold own besides call.text other
        (Program.bind (passGate config call) fun _ =>
          call.carriedOut config .none)
        (Program.bind (passGate config call) fun _ =>
          (call.withText other).carriedOut (config.withLog level) .none) := by
    refine Retold.after (within_passGate trivial config call) fun _ _ => ?_
    refine Retold.after hown fun plan hplan => ?_
    refine (retold_propagateAt hplan .beforeLocal).bind fun _ => ?_
    refine Retold.bind (retold_runLocally (hnested hdepth) hclean) fun _ => ?_
    exact retold_propagateAt hplan .afterLocal
  have hprocess (hdepth : call.context.depth ≤ config.maxDepth) :
      Retold own besides call.text other
        (process config (fun s => dispatch config .none (call.sub s)) call)
        (process (config.withLog level)
          (fun s => dispatch (config.withLog level) .none
            ((call.withText other).sub s))
          (call.withText other)) := by
    have hclassify : Asks (fun r => r.TextFree besides)
        (classify call.statement) :=
      asks_classify trivial call.statement
    refine Retold.after hclassify fun found _ => ?_
    exact retold_logged _ _ _ _ (hcarried hdepth)
  have hlimited : Retold own besides call.text other
      (if config.maxDepth < call.context.depth then
          .fail (.recursionLimit config.maxDepth)
        else process config (fun s => dispatch config .none (call.sub s)) call)
      (if config.maxDepth < call.context.depth then
          .fail (.recursionLimit config.maxDepth)
        else process (config.withLog level)
          (fun s => dispatch (config.withLog level) .none
            ((call.withText other).sub s))
          (call.withText other)) := by
    split
    · exact .fail _
    next hdepth => exact hprocess (Nat.not_lt.mp hdepth)
  rw [dispatch_eq, dispatch_eq]
  show Retold _ _ _ _ (if call.hasTag = true then _ else _)
      (if call.hasTag = true then _ else _)
  split
  · exact .tell .clearTag hlimited
  · exact hlimited

/-- Below the top level, the text goes to no other node. -/
theorem retold_dispatch_nested (config : Configuration) (level : LogClass)
    (call : Call) (other : String)
    (hnested : call.context.isTopLevel = false) :
    Retold (fun _ _ => False) (fun _ => False) call.text other
      (dispatch config .none call)
        (dispatch (config.withLog level) .none (call.withText other)) := by
  induction call using dispatch_induction config with
  | h call ih =>
      have hlocal := Context.not_propagates_of_nested hnested
      refine retold_dispatch config level ?_ (fun _ hp => absurd hp hlocal)
        fun hdepth s => ih hdepth s rfl
      refine (within_planCall (fun _ => trivial) call).imp
        fun plan hplan p hp => ?_
      exact absurd (hplan (Option.isSome_of_mem hp)) hlocal

/-- Where the text itself is sent: DROP DATABASE, which sends something else
besides, has its text sent to all nodes. -/
def Call.OwnGroup (call : Call) (group : NodeGroup)
    (_autocommit : Bool) : Prop :=
  ∀ name missingOk, call.statement = .dropDatabase name missingOk →
    group = .all

/-- A plan is for a group that the text is sent to. -/
private theorem within_planCall_ownGroup (call : Call) :
    Within (fun r => r.TextFree besides)
      (fun plan => ∀ p, plan = some p → call.OwnGroup p.group p.autocommit)
        (planCall call) := by
  have hplan : Asks (fun r => r.TextFree besides) (planCall call) :=
    (within_planCall (fun _ => trivial) call).imp fun _ _ => trivial
  obtain ⟨s, text, context, hasTag, takesRows⟩ := call
  cases s with
  | dropDatabase name missingOk =>
      unfold planCall
      split
      · rintro p ⟨⟩ - - -
        rfl
      · intro p hp
        cases hp
  | _ =>
      refine hplan.imp fun plan _ p _ name missingOk hs => ?_
      cases hs

/-- The whole dispatch of a statement with another text. -/
theorem retold_dispatch_top (config : Configuration) (level : LogClass)
    (call : Call) (other : String) :
    Retold call.OwnGroup (IsCleaning config.topology call) call.text other
      (dispatch config .none call)
        (dispatch (config.withLog level) .none (call.withText other)) := by
  refine retold_dispatch config level (within_planCall_ownGroup call)
    (fun _ _ h => h) fun _ s => ?_
  refine (retold_dispatch_nested config level (call.sub s) other rfl).mono
    (fun _ _ h => h.elim) fun r hr => ?_
  cases r with
  | send | setSessionOption => exact False.elim hr
  | _ => trivial

-- =================================== a journal with the text left open

namespace Cluster

/-- An entry of a journal in which the text of the statement is left open. -/
inductive Entry where
  | fixed (event : Event)
  /-- The text was sent to a group of nodes. -/
  | sent (group : NodeGroup) (autocommit : Bool)
  /-- The pool recorded the text. -/
  | sessionOptionSet (isLocal : Bool)

/-- The entry with a text filled in. -/
def Entry.fill (text : String) : Entry → Event
  | .fixed event => event
  | .sent group autocommit => .sent (.send text group autocommit)
  | .sessionOptionSet isLocal => .sessionOptionSet isLocal text

/-- What is entered makes no use of the text: of all requests only some are
sent, and the pool records nothing. -/
def Event.TextFree (besides : RemoteRequest → Prop) : Event → Prop
  | .sent request => besides request
  | .sessionOptionSet .. => False
  | _ => True

/-- The text was sent where it may be, and nothing else hangs on it. -/
def Entry.Fits (own : NodeGroup → Bool → Prop)
    (besides : RemoteRequest → Prop) : Entry → Prop
  | .fixed event => event.TextFree besides
  | .sent group autocommit => own group autocommit
  | .sessionOptionSet _ => True

variable {r : Request} {event : Event} {entries : List Entry} {c d : Cluster}
  {journal : List Event} {text : String}

/-- What makes no use of the text enters nothing that does. -/
private theorem textFree_of_records (hr : r.TextFree besides)
    (h : r.Records event) : event.TextFree besides := by
  cases event with
  | sent request =>
      obtain rfl := Request.eq_send_of_records h
      exact hr
  | sessionOptionSet isLocal text =>
      cases r with
      | setSessionOption => exact hr
      | endBlock | prepareBlock =>
          rcases h with h | h
          · cases h
          · cases h
      | _ => cases h
  | _ => trivial

/-- What was entered by a request that makes no use of the text. -/
theorem Enters.fixed {added : List Event} (h : Enters r c added)
    (hr : r.TextFree besides) :
    ∀ entry ∈ added.map Entry.fixed, entry.Fits own besides := by
  intro entry hmem
  obtain ⟨event, hevent, rfl⟩ := List.mem_map.mp hmem
  exact textFree_of_records hr (h.records event hevent)

/-- Where no text is left open, none is filled in. -/
private theorem map_fill_fixed (text : String) (added : List Event) :
    (added.map Entry.fixed).map (Entry.fill text) = added := by
  simp [Function.comp_def, Entry.fill]

end Cluster

-- =============================================== two runs side by side

open Cluster (Entry Enters exists_enters map_fill_fixed)

/-- What is told but for the lines of the statement log. -/
def unlogged (notes : List Note) : List Note :=
  notes.filter fun n => !n.isLogged

/-- Two runs, the second one in a cluster with another journal, end the same
way and tell the same. Both enter the same entries, each with its own text, and
leave the same cluster but for the journal. -/
structure Retells {α : Type} (text other : String) (entries : List Entry)
    (c : Cluster) (journal : List Event)
    (run run' : Program.Run Cluster α) : Prop where
  result : run'.result = run.result
  told : unlogged run'.notes = unlogged run.notes
  entered : run.world.journal = c.journal ++ entries.map (Entry.fill text)
  world : run'.world
    = run.world.withJournal (journal ++ entries.map (Entry.fill other))

section runs

variable {α : Type} {text : String} {p q : Program α} {c d : Cluster}
  {journal : List Event} {run run' : Program.Run Cluster α}

/-- Two runs do so by entries that let the text go where it may. -/
def SideBySide (own : NodeGroup → Bool → Prop) (besides : RemoteRequest → Prop)
    (text other : String) (c : Cluster) (journal : List Event)
    (run run' : Program.Run Cluster α) : Prop :=
  ∃ entries, (∀ entry ∈ entries, entry.Fits own besides) ∧
    Retells text other entries c journal run run'

/-- What was entered before comes first. -/
theorem SideBySide.after (before : List Entry)
    (hfits : ∀ entry ∈ before, entry.Fits own besides)
    (hd : d.journal = c.journal ++ before.map (Entry.fill text))
    (h : SideBySide own besides text other d
      (journal ++ before.map (Entry.fill other)) run run') :
    SideBySide own besides text other c journal run run' := by
  obtain ⟨entries, hentries, hrest⟩ := h
  refine ⟨before ++ entries, fun entry hmem => ?_, hrest.result,
    hrest.told, ?_, ?_⟩
  · exact (List.mem_append.mp hmem).elim (hfits entry) (hentries entry)
  · rw [hrest.entered, hd, List.map_append, List.append_assoc]
  · rw [hrest.world, List.map_append, List.append_assoc]

/-- A request that both make in the same way, as far as the cluster is
concerned. -/
theorem sideBySide_ask {r : Request} (hr : r.TextFree besides)
    (h : ∀ added, Enters r c added →
      SideBySide own besides text other (answer r c).2 (journal ++ added) run
        run') : SideBySide own besides text other c journal run run' := by
  obtain ⟨added, henters⟩ := exists_enters r c
  refine .after (d := (answer r c).2) (added.map .fixed)
    (henters.fixed hr) ?_ ?_
  · rw [map_fill_fixed]
    exact henters.journal
  · rw [map_fill_fixed]
    exact h added henters

/-- Sending the one text or the other. -/
theorem send_withJournal (c : Cluster) (journal : List Event)
    (text other : String) (group : NodeGroup) (autocommit : Bool) :
    ∃ before : List Entry, (∀ entry ∈ before, entry = .sent group autocommit) ∧
      (c.send (.send text group autocommit)).2.journal
        = c.journal ++ before.map (Entry.fill text) ∧
      (c.withJournal journal).send (.send other group autocommit)
        = ((c.send (.send text group autocommit)).1,
          (c.send (.send text group autocommit)).2.withJournal
            (journal ++ before.map (Entry.fill other))) := by
  -- the group decides whether the text gets there, and the journal plays no
  -- part
  cases hfault : c.firstUnreachable? (c.topology.members group) with
  | some failure =>
      have hfails : c.send (.send text group autocommit)
          = (.error failure, c) :=
        (Cluster.Reacts.isCutOff hfault).eq
      have hfails' :
          (c.withJournal journal).send (.send other group autocommit)
            = (.error failure, c.withJournal journal) :=
        (Cluster.Reacts.isCutOff hfault).eq
      rw [hfails, hfails']
      exact ⟨[], List.forall_mem_nil _, by simp, by simp⟩
  | none =>
      have hsends : c.send (.send text group autocommit) = (.ok (), _) :=
        (Cluster.Reacts.sends hfault).eq
      have hsends' :
          (c.withJournal journal).send (.send other group autocommit)
            = (.ok (), _) :=
        (Cluster.Reacts.sends hfault).eq
      rw [hsends, hsends']
      exact ⟨[.sent group autocommit], by simp, rfl, rfl⟩

/-- Related programs run side by side. -/
theorem Program.Retold.sideBySide (h : Retold own besides text other p q)
    (c : Cluster) (journal : List Event) :
    SideBySide own besides text other c journal (Program.run answer p c)
      (Program.run answer q (c.withJournal journal)) := by
  induction h generalizing c journal with
  | done value =>
      refine ⟨[], List.forall_mem_nil _, rfl, rfl, ?_, ?_⟩
      · exact (List.append_nil _).symm
      · simp [Program.run]
  | fail failure =>
      refine ⟨[], List.forall_mem_nil _, rfl, rfl, ?_, ?_⟩
      · exact (List.append_nil _).symm
      · simp [Program.run]
  | @ask r next next' hr h ih =>
      refine sideBySide_ask hr fun added henters => ?_
      show SideBySide _ _ _ _ _ _ _ (Program.run answer
        (next' (answer r (c.withJournal journal)).1)
        (answer r (c.withJournal journal)).2)
      rw [henters journal]
      exact ih _ _ _
  | @execute s next next' h ih =>
      -- the handlers of a cluster do not look at the text
      refine sideBySide_ask (r := .execute s text) trivial
        fun added henters => ?_
      show SideBySide _ _ _ _ _ _ _ (Program.run answer
        (next' (answer (.execute s text) (c.withJournal journal)).1)
        (answer (.execute s text) (c.withJournal journal)).2)
      rw [henters journal]
      exact ih _ _ _
  | expand s h ih => exact ih _ c journal
  | @send group autocommit next next' hown h ih =>
      obtain ⟨before, hbefore, hd, hother⟩ :=
        send_withJournal c journal text other group autocommit
      have hfits : ∀ entry ∈ before, entry.Fits own besides := by
        intro entry hmem
        rw [hbefore entry hmem]
        exact hown
      refine .after before hfits hd ?_
      show SideBySide _ _ _ _ _ _ _ (Program.run answer
        (next' ((c.withJournal journal).send (.send other group autocommit)).1)
        ((c.withJournal journal).send (.send other group autocommit)).2)
      rw [hother]
      exact ih _ _ _
  | setOption isLocal h ih =>
      exact .after [.sessionOptionSet isLocal] (by simp [Entry.Fits])
        rfl (ih _ _ _)
  | tell n h ih =>
      obtain ⟨entries, hfits, hrun⟩ := ih c journal
      refine ⟨entries, hfits, hrun.result, ?_, hrun.entered, hrun.world⟩
      have htold := hrun.told
      unfold unlogged at htold ⊢
      simp only [Program.run, List.filter_cons, htold]
  | logged line h ih =>
      obtain ⟨entries, hfits, hrun⟩ := ih c journal
      exact ⟨entries, hfits, hrun.result, hrun.told, hrun.entered, hrun.world⟩
  | logged_other line h ih =>
      obtain ⟨entries, hfits, hrun⟩ := ih c journal
      exact ⟨entries, hfits, hrun.result, hrun.told, hrun.entered, hrun.world⟩

end runs

-- ===================================================== the whole of it

/-- A client takes no notice of the statement log. -/
theorem hearAll_unlogged (notes : List Note) {desk desk' : Desk}
    (htag : desk'.tag = desk.tag) (hrows : desk'.rows = desk.rows) :
    (desk'.hearAll (unlogged notes)).tag = (desk.hearAll notes).tag ∧
      (desk'.hearAll (unlogged notes)).rows = (desk.hearAll notes).rows := by
  induction notes generalizing desk desk' with
  | nil => exact ⟨htag, hrows⟩
  | cons n rest ih =>
      cases n with
      | logged line => exact ih htag hrows
      | clearTag => exact ih rfl hrows
      | setTag text => exact ih (congrArg (·.set text) htag) hrows
      | rows rows => exact ih htag (congrArg (· ++ rows) hrows)
      | sighted s => exact ih htag hrows

/-- The statement of a call is planned to go to a group of nodes. -/
def Call.PlannedFor (call : Call) (c : Cluster) (group : NodeGroup)
    (autocommit : Bool) : Prop :=
  ∃ plan, (c.perform (planCall call)).1 = .ok (some plan) ∧
    plan.group = group ∧ plan.autocommit = autocommit

/-- Runs that tell the same but for the lines of the statement log leave a
client with the same. -/
private theorem heard_of_unlogged {notes notes' : List Note}
    (h : unlogged notes' = unlogged notes) (tag : CompletionTag) :
    ((Desk.ofTag tag).hearAll notes').tag
        = ((Desk.ofTag tag).hearAll notes).tag ∧
      ((Desk.ofTag tag).hearAll notes').rows
        = ((Desk.ofTag tag).hearAll notes).rows := by
  have hheard (told : List Note) :
      ((Desk.ofTag tag).hearAll (unlogged told)).tag
          = ((Desk.ofTag tag).hearAll told).tag ∧
        ((Desk.ofTag tag).hearAll (unlogged told)).rows
          = ((Desk.ofTag tag).hearAll told).rows :=
    hearAll_unlogged told rfl rfl
  obtain ⟨htag, hrows⟩ := hheard notes
  obtain ⟨htag', hrows'⟩ := hheard notes'
  rw [h] at htag' hrows'
  constructor
  · rw [← htag', htag]
  · rw [← hrows', hrows]

/-- Where the text of a statement is sent, its plan is carried out: what DROP
DATABASE sends besides does not go to all nodes. -/
private theorem plannedFor_of_sent {config : Configuration} {call : Call}
    {c : Cluster} {events : List Event} {group : NodeGroup}
    {autocommit : Bool}
    (hjournal : (c.perform (dispatch config .none call)).2.journal
      = c.journal ++ events)
    (hsent : .sent (.send call.text group autocommit) ∈ events)
    (hown : call.OwnGroup group autocommit) :
    call.PlannedFor c group autocommit := by
  have hsends := (sent_dispatch config .none call c).of_append hjournal _ hsent
  rcases hsends _ rfl with
    ⟨plan, hplan, hrequest⟩ | ⟨name, missingOk, hs, -, hrequest⟩
  · obtain ⟨-, hgroup, -, hautocommit⟩ := RemoteRequest.mk.inj hrequest
    exact ⟨plan, hplan, hgroup.symm, hautocommit.symm⟩
  · obtain rfl := hown name missingOk hs
    have hcoordinators := congrArg RemoteRequest.group hrequest
    cases hcoordinators

/-- Dispatched with another text, and under other settings of the statement
log, a statement comes to the same: the result, what the client is told, and
the cluster, but for the journal. There the two texts stand in the same places,
where the plan of the statement was carried out and where the pool recorded a
session command; all else is the same in both. -/
theorem text_is_opaque (config : Configuration) (level : LogClass)
    (call : Call) (other : String) (c : Cluster) :
    let run := Program.run answer (dispatch config .none call) c
    let run' :=
      Program.run answer
        (dispatch (config.withLog level) .none (call.withText other)) c
    run'.result = run.result ∧
    (∀ tag, ((Desk.ofTag tag).hearAll run'.notes).tag
      = ((Desk.ofTag tag).hearAll run.notes).tag ∧
      ((Desk.ofTag tag).hearAll run'.notes).rows
        = ((Desk.ofTag tag).hearAll run.notes).rows) ∧
    ∃ entries : List Entry,
      (∀ entry ∈ entries,
        entry.Fits (call.PlannedFor c) (IsCleaning config.topology call)) ∧
      run.world.journal = c.journal ++ entries.map (Entry.fill call.text) ∧
      run'.world = run.world.withJournal
        (c.journal ++ entries.map (Entry.fill other)) := by
  intro run run'
  obtain ⟨entries, hfits, hrun⟩ :
      SideBySide call.OwnGroup (IsCleaning config.topology call) call.text
        other c c.journal run run' :=
    (retold_dispatch_top config level call other).sideBySide c c.journal
  refine ⟨hrun.result, heard_of_unlogged hrun.told, entries, ?_,
    hrun.entered, hrun.world⟩
  intro entry hmem
  have hentry := hfits entry hmem
  cases entry with
  | fixed event => exact hentry
  | sessionOptionSet isLocal => trivial
  | sent group autocommit =>
      have hsent : .sent (.send call.text group autocommit)
          ∈ entries.map (Entry.fill call.text) :=
        List.mem_map_of_mem hmem
      exact plannedFor_of_sent hrun.entered hsent hentry

/-- A client drops a database, in two spellings. -/
theorem text_is_opaque_clientDropDatabase :
    ∃ entries : List Entry,
      [.connectionsCleaned (some "db"), .sent (cleanDatabaseRequest "db"),
        .handler .dropDatabase, .sent (.send "DROP DATABASE db" .all true)]
        = entries.map (Entry.fill "DROP DATABASE db") ∧
      (Program.run answer (dispatch (Configuration.standard.withLog .all) .none
          (clientDropDatabase.withText "drop database db"))
            (.fresh .standard "")).world.journal
        = entries.map (Entry.fill "drop database db") := by
  obtain ⟨-, -, entries, -, hentered, hworld⟩ :=
    text_is_opaque .standard .all clientDropDatabase "drop database db"
      (.fresh .standard "")
  exact ⟨entries, hentered, congrArg (·.journal) hworld⟩

end ClusterUtility
