/-
What a compound statement does, entry by entry.

CREATE SCHEMA, CREATE TABLE, CREATE FOREIGN TABLE and ALTER TABLE are carried
out by carrying out other statements. A cluster may be told to expand a
statement about a table to anything, the statement itself included, so how
much is done cannot be read off the statement. What can be told is how the
parts make up the whole.

# In turn

The statements of an expansion are run in the order of the list, each once,
and the command counter is advanced between two of them (`InTurn`). Whatever
ran to its end before another one started has `Passed`; its entries stand
there in full, each part followed by one mark. Where a statement fails, its
own entries are the last ones, and the statements behind it are not run.

# One statement of an expansion

What the parent is about in the first place is handled directly
(`Statement.handles`), and its entries are known (`Statement.ownEntries`).
Everything else is dispatched one level deeper, and contributes what its own
dispatch enters (`Call.Contributes`). That dispatch is one of a call like any
other, so what is said of it is said by the same theorem, to any depth.

# The whole

Before the local run stand the checks, which enter nothing; behind it stands
the message to other nodes, which goes out if nothing failed
(`Call.Expands`).
-/
import ClusterUtility.Proofs.Dispatch.Explained
import ClusterUtility.Proofs.Dispatch.FanOut

namespace ClusterUtility

open Cluster (Event)
open Program (request ofReply forEach)

-- ========================================== results with their entries

namespace Cluster

variable {α β : Type} {c d e : Cluster}

/-- How a program ends on a cluster, what it enters into the journal, and the
cluster after it. -/
structure Performs (c : Cluster) (p : Program α) (result : Except Failure α)
    (events : List Event) (d : Cluster) : Prop where
  ends : c.perform p = (result, d)
  journal : d.journal = c.journal ++ events

/-- Every program ends, and enters something. -/
theorem exists_performs (c : Cluster) (p : Program α) :
    ∃ result events d, c.Performs p result events d := by
  obtain ⟨events, hjournal⟩ := (onward_perform c p).journal
  exact ⟨_, events, _, rfl, hjournal.symm⟩

namespace Performs

/-- A program that ended well is followed by the next, and their entries stand
in this order. -/
private theorem bind_ok {p : Program α} {next : α → Program β} {value : α}
    {result : Except Failure β} {events more : List Event}
    (hp : c.Performs p (.ok value) events d)
    (hnext : d.Performs (next value) result more e) :
    c.Performs (Program.bind p next) result (events ++ more) e where
  ends := (perform_bind_of_ok hp.ends next).trans hnext.ends
  journal := by rw [hnext.journal, hp.journal, List.append_assoc]

/-- The second program does not look at what the first one gave. -/
theorem then_ok {p : Program α} {q : Program β} {value : α}
    {result : Except Failure β} {events more : List Event}
    (hp : c.Performs p (.ok value) events d)
    (hq : d.Performs q result more e) :
    c.Performs (Program.bind p fun _ => q) result (events ++ more) e :=
  bind_ok hp hq

/-- A program that fails ends the whole, and its entries are the last ones. -/
private theorem bind_error {p : Program α} {f : Failure} {events : List Event}
    (hp : c.Performs p (.error f) events d) (next : α → Program β) :
    c.Performs (Program.bind p next) (.error f) events d where
  ends := perform_bind_of_error hp.ends next
  journal := hp.journal

theorem nothing {p : Program α} {result : Except Failure α}
    (h : c.perform p = (result, c)) : c.Performs p result [] c :=
  ⟨h, (List.append_nil _).symm⟩

/-- The mark after which a statement sees what was done before it. -/
theorem mark_then {q : Program β} {result : Except Failure β}
    {events : List Event}
    (h : (c.record .commandAdvanced).Performs q result events d) :
    c.Performs (Program.bind (request .advanceCommand) fun _ => q) result
      (.commandAdvanced :: events) d :=
  have hmark : c.Performs (request .advanceCommand) (.ok ()) [.commandAdvanced]
      (c.record .commandAdvanced) := ⟨rfl, rfl⟩
  hmark.then_ok h

end Performs

end Cluster

variable {config : Configuration} {i : Interceptor} {call : Call}
  {c d e : Cluster}

-- ====================================================== in turn

/-- How single statements end, what they enter, and what they leave behind. -/
abbrev Steps := Statement → Cluster → Except Failure Unit → List Event →
    Cluster → Prop

section turns

variable {one : Steps} {act : Statement → Program Unit}

/-- Statements ran to their ends, one after another, with the command counter
advanced after each; with what each of them entered, and the cluster that the
next one meets. -/
inductive Passed (one : Steps) : Cluster → List Statement → List (List Event) →
    Cluster → Prop
  | none {c : Cluster} : Passed one c [] [] c
  | next {c d e : Cluster} {s : Statement} {rest : List Statement}
      {part : List Event} {parts : List (List Event)}
      (h : one s c (.ok ()) part d)
      (hrest : Passed one (d.record .commandAdvanced) rest parts e) :
      Passed one c (s :: rest) (part :: parts) e

/-- What statements that have passed entered, the marks included. -/
def marked (parts : List (List Event)) : List Event :=
  parts.flatMap fun part => part ++ [.commandAdvanced]

/-- Statements are run in order, up to the first one that fails. -/
inductive InTurn (one : Steps) (c : Cluster) (statements : List Statement) :
    Except Failure Unit → List Event → Cluster → Prop
  | nothing (hnone : statements = []) : InTurn one c statements (.ok ()) [] c
  | all {before : List Statement} {last : Statement}
      {parts : List (List Event)} {part : List Event} {d e : Cluster}
      (hall : statements = before ++ [last])
      (hpassed : Passed one c before parts d)
      (hlast : one last d (.ok ()) part e) :
      InTurn one c statements (.ok ()) (marked parts ++ part) e
  | stopped {before after : List Statement} {s : Statement}
      {parts : List (List Event)} {part : List Event} {f : Failure}
      {d e : Cluster} (hsplit : statements = before ++ s :: after)
      (hpassed : Passed one c before parts d)
      (hfailed : one s d (.error f) part e) :
      InTurn one c statements (.error f) (marked parts ++ part) e

/-- One more statement in front. -/
theorem InTurn.next {s : Statement} {rest : List Statement}
    {part events : List Event} {result : Except Failure Unit}
    (h : one s c (.ok ()) part d)
    (hrest : InTurn one (d.record .commandAdvanced) rest result events e)
    (hne : rest ≠ []) :
    InTurn one c (s :: rest) result
      (part ++ .commandAdvanced :: events) e := by
  have hmarked (parts : List (List Event)) (last : List Event) :
      part ++ .commandAdvanced :: (marked parts ++ last)
        = marked (part :: parts) ++ last := by
    simp [marked]
  cases hrest with
  | nothing hnone => exact absurd hnone hne
  | all hall hpassed hlast =>
      rw [hmarked]
      exact .all (congrArg (s :: ·) hall) (.next h hpassed) hlast
  | stopped hsplit hpassed hfailed =>
      rw [hmarked]
      exact .stopped (congrArg (s :: ·) hsplit) (.next h hpassed) hfailed

/-- Between two statements in sequence the command counter is advanced. -/
theorem inSequence_next (act : Statement → Program Unit) (s : Statement)
    {rest : List Statement} (hne : rest ≠ []) :
    inSequence act (s :: rest)
      = Program.bind (act s) fun _ =>
        Program.bind (request .advanceCommand) fun _ =>
          inSequence act rest := by
  cases rest with
  | nil => exact absurd rfl hne
  | cons t rest => rfl

/-- Statements in sequence are run in turn. -/
theorem inTurn_inSequence
    (hact : ∀ s c, ∃ result events d, c.Performs (act s) result events d ∧
      one s c result events d)
    (statements : List Statement) (c : Cluster) :
    ∃ result events d, c.Performs (inSequence act statements) result events d ∧
      InTurn one c statements result events d := by
  induction statements generalizing c with
  | nil => exact ⟨.ok (), [], c, .nothing rfl, .nothing rfl⟩
  | cons s rest ih =>
      obtain ⟨result, part, d, hperforms, hone⟩ := hact s c
      by_cases hne : rest = []
      · subst hne
        have hfirst : [s] = [] ++ [s] := rfl
        refine ⟨result, part, d, hperforms, ?_⟩
        cases result with
        | ok _ => exact .all hfirst .none hone
        | error f => exact .stopped hfirst .none hone
      · rw [inSequence_next act s hne]
        cases result with
        | error f =>
            have hfirst : s :: rest = [] ++ s :: rest := rfl
            exact ⟨_, _, _, hperforms.bind_error _, .stopped hfirst .none hone⟩
        | ok _ =>
            obtain ⟨result, events, e, hrest, hturn⟩ :=
              ih (d.record .commandAdvanced)
            exact ⟨_, _, _, hperforms.then_ok hrest.mark_then,
              hturn.next hone hne⟩

end turns

-- ======================================= one statement of an expansion

namespace Statement

/-- The expansion of a statement handles another one directly: the objects that
the first one is about are created, or altered, and not dispatched again. -/
def handles (parent : Statement) : Statement → Bool
  | .createTable _ => parent.isPrimalCreate
  | .createForeignTable _ => parent.isPrimalCreate
  | .alterTable _ =>
      match parent with
      | .alterTable _ => true
      | _ => false
  | _ => false

/-- What is done for a statement that is handled directly. -/
def handled : Statement → Program Unit
  | .createTable create => ClusterUtility.createTable create
  | .createForeignTable create => ClusterUtility.createForeignTable create
  | .alterTable alter => do ofReply (← request (.alterTable alter))
  | _ => return ()

/-- What a statement enters that is handled directly. -/
def ownEntries : Statement → List Event
  | .createTable create =>
      [.relationDefined create.relation.text .table, .commandAdvanced,
        .storageCreated create.relation.text]
  | .createForeignTable create =>
      [.relationDefined create.table.relation.text .foreignTable,
        .foreignTableCreated create.table.relation.text]
  | .alterTable alter => [.tableAltered alter.relation.text]
  | _ => []

/-- A schema is not what its elements are about. -/
theorem handles_createSchema {name : String} {owner : Option String}
    {elements : List Statement} (s : Statement) :
    (Statement.createSchema name owner elements).handles s = false := by
  cases s <;> rfl

end Statement

/-- A statement of an expansion is handled directly, or dispatched. -/
theorem runExpanded_eq (nested : Statement → Program Unit)
    (parent s : Statement) :
    runExpanded nested parent s
      = if parent.handles s then s.handled else nested s := by
  unfold runExpanded
  split
  · rfl
  · rfl
  · rfl
  next htable hforeign halter =>
    have hnot : parent.handles s = false := by
      cases s with
      | createTable create => exact absurd rfl (htable create)
      | createForeignTable create => exact absurd rfl (hforeign create)
      | alterTable alter =>
          cases parent with
          | alterTable other => exact (halter other alter rfl rfl).elim
          | _ => rfl
      | _ => rfl
    rw [hnot]
    rfl

/-- Defining a relation fails and does nothing, or enters the relation. -/
theorem journal_defineRelation (c : Cluster) (create : CreateTable)
    (kind : RelationKind) :
    (∃ f, c.defineRelation create kind = (.error f, c)) ∨
      ∃ number d, c.defineRelation create kind = (.ok number, d) ∧
        d.journal = c.journal
          ++ [.relationDefined create.relation.text kind] := by
  cases hdefine : c.defineRelation create kind with
  | mk result d =>
      unfold Cluster.defineRelation at hdefine
      dsimp only at hdefine
      split at hdefine
      · obtain ⟨rfl, rfl⟩ := Prod.mk.inj hdefine
        exact .inl ⟨_, rfl⟩
      · obtain ⟨rfl, rfl⟩ := Prod.mk.inj hdefine
        exact .inr ⟨_, _, rfl, rfl⟩

/-- Altering a table fails and enters nothing, or enters that it was
altered. -/
theorem journal_alterTable (c : Cluster) (alter : AlterTable) :
    (∃ f d, c.alterTable alter = (.error f, d) ∧ d.journal = c.journal) ∨
      ∃ d, c.alterTable alter = (.ok (), d) ∧
        d.journal = c.journal ++ [.tableAltered alter.relation.text] := by
  unfold Cluster.alterTable
  split
  next f _ => exact .inl ⟨f, _, rfl, rfl⟩
  next => exact .inr ⟨_, rfl, rfl⟩

/-- A statement that is handled directly enters all of its entries, or fails
and enters none. -/
theorem performs_handled {parent s : Statement} (h : parent.handles s = true)
    (c : Cluster) :
    (∃ d, c.Performs s.handled (.ok ()) s.ownEntries d) ∨
      ∃ f d, c.Performs s.handled (.error f) [] d := by
  cases s with
  | createTable create =>
      have hbind := c.perform_request_bind
        (.defineRelation create .table) fun reply =>
        Program.bind (ofReply reply) fun relation =>
          Program.bind (request .advanceCommand) fun _ =>
            Program.bind (request (.createStorage relation create)) ofReply
      simp only [Cluster.answer] at hbind
      rcases journal_defineRelation c create .table with
        ⟨f, hdefine⟩ | ⟨number, d, hdefine, hj⟩
      · rw [hdefine] at hbind
        exact .inr ⟨f, c, .nothing hbind⟩
      · rw [hdefine] at hbind
        refine .inl ⟨_, hbind, ?_⟩
        show (d.journal ++ _) ++ _ = _
        rw [hj, List.append_assoc, List.append_assoc]
        rfl
  | createForeignTable create =>
      have hbind := c.perform_request_bind
        (.defineRelation create.table .foreignTable) fun reply =>
        Program.bind (ofReply reply) fun relation =>
          Program.bind (request (.createForeignTable relation create)) ofReply
      simp only [Cluster.answer] at hbind
      rcases journal_defineRelation c create.table .foreignTable with
        ⟨f, hdefine⟩ | ⟨number, d, hdefine, hj⟩
      · rw [hdefine] at hbind
        exact .inr ⟨f, c, .nothing hbind⟩
      · rw [hdefine] at hbind
        refine .inl ⟨_, hbind, ?_⟩
        show d.journal ++ _ = _
        rw [hj, List.append_assoc]
        rfl
  | alterTable alter =>
      have hbind := c.perform_request_bind (.alterTable alter) ofReply
      simp only [Cluster.answer] at hbind
      rcases journal_alterTable c alter with
        ⟨f, d, halter, hj⟩ | ⟨d, halter, hj⟩
      · rw [halter] at hbind
        exact .inr ⟨f, d, hbind, hj.trans (List.append_nil _).symm⟩
      · rw [halter] at hbind
        exact .inl ⟨d, hbind, hj⟩
  | _ => cases h

/-- What a statement of the expansion of a call contributes. -/
inductive Call.Contributes (config : Configuration) (i : Interceptor)
    (call : Call) : Steps
  | handled {s : Statement} {c d : Cluster}
      (hdirect : call.statement.handles s = true)
      (hperforms : c.Performs s.handled (.ok ()) s.ownEntries d) :
      call.Contributes config i s c (.ok ()) s.ownEntries d
  | failed {s : Statement} {c d : Cluster} {f : Failure}
      (hdirect : call.statement.handles s = true)
      (hperforms : c.Performs s.handled (.error f) [] d) :
      call.Contributes config i s c (.error f) [] d
  | dispatched {s : Statement} {c d : Cluster} {result : Except Failure Unit}
      {events : List Event} (hnested : call.statement.handles s = false)
      (hperforms : c.Performs (dispatch config i (call.sub s))
        result events d) :
      call.Contributes config i s c result events d

/-- Running a statement of an expansion contributes to its call. -/
theorem contributes_runExpanded (config : Configuration) (i : Interceptor)
    (call : Call) (s : Statement) (c : Cluster) :
    ∃ result events d,
      c.Performs
          (runExpanded (fun s => dispatch config i (call.sub s))
            call.statement s)
          result events d ∧
        call.Contributes config i s c result events d := by
  rw [runExpanded_eq]
  cases hdirect : call.statement.handles s with
  | true =>
      rcases performs_handled hdirect c with ⟨d, hperforms⟩ | ⟨f, d, hperforms⟩
      · exact ⟨_, _, d, hperforms, .handled hdirect hperforms⟩
      · exact ⟨_, _, d, hperforms, .failed hdirect hperforms⟩
  | false =>
      obtain ⟨result, events, d, hperforms⟩ :=
        c.exists_performs (dispatch config i (call.sub s))
      exact ⟨result, events, d, hperforms, .dispatched hdirect hperforms⟩

-- ====================================================== the local run

/-- A statement about a table, which the cluster expands. -/
def Statement.isExpanded : Statement → Bool
  | .createTable _ => true
  | .createForeignTable _ => true
  | .alterTable _ => true
  | _ => false

/-- The statements that the local run of a call goes through, with the cluster
that the first of them meets, and what is entered until then. -/
inductive Call.Unrolls (call : Call) (c : Cluster) :
    List Statement → Cluster → List Event → Prop
  | expanded (hs : call.statement.isExpanded = true) :
      call.Unrolls c (c.expand call.statement) c []
  | emptySchema {name : String} {owner : Option String} {d : Cluster}
      (hs : call.statement = .createSchema name owner [])
      (hhandled : c.Performs call.withoutRows.handle (.ok ())
        [.handler .createSchema] d) :
      call.Unrolls c [] d [.handler .createSchema]
  /-- The first element sees the schema, so the command counter is advanced
  before it too. -/
  | schema {name : String} {owner : Option String} {elements : List Statement}
      {d : Cluster} (hs : call.statement = .createSchema name owner elements)
      (hne : elements ≠ [])
      (hhandled : c.Performs call.withoutRows.handle (.ok ())
        [.handler .createSchema] d) :
      call.Unrolls c elements (d.record .commandAdvanced)
        [.handler .createSchema, .commandAdvanced]

/-- How the local run of a compound statement ends, what it enters, and what it
leaves behind. -/
inductive Call.Unfolds (config : Configuration) (i : Interceptor) (call : Call)
    (c : Cluster) : Except Failure Unit → List Event → Cluster → Prop
  /-- The handler of CREATE SCHEMA failed. -/
  | unhandled {f : Failure} {d : Cluster}
      (hhandler : c.Performs call.withoutRows.handle (.error f) [] d) :
      call.Unfolds config i c (.error f) [] d
  | unrolled {statements : List Statement} {start d : Cluster}
      {opening events : List Event} {result : Except Failure Unit}
      (hunrolls : call.Unrolls c statements start opening)
      (hturn : InTurn (call.Contributes config i) start statements
        result events d) :
      call.Unfolds config i c result (opening ++ events) d

/-- Elements that are marked in front are statements in sequence, after one
more mark. -/
theorem forEach_marked (act : Statement → Program Unit) (s : Statement)
    (rest : List Statement) :
    forEach (fun s => Program.bind (request .advanceCommand) fun _ => act s)
        (s :: rest)
      = Program.bind (request .advanceCommand) fun _ =>
        inSequence act (s :: rest) := by
  induction rest generalizing s with
  | nil =>
      show (Program.bind (Program.bind _ fun _ => act s) Program.done) = _
      rw [Program.bind_done]
      rfl
  | cons t rest ih =>
      rw [inSequence_next act s (List.cons_ne_nil t rest), ← ih t]
      exact Program.bind_assoc ..

/-- What follows the handler of CREATE SCHEMA: nothing, or the elements in
sequence after a mark. -/
theorem createSchema_eq (nested : Statement → Program Unit) (call : Call)
    (elements : List Statement) :
    createSchema nested call elements
      = Program.bind call.withoutRows.handle fun _ =>
          if elements = [] then .done ()
          else Program.bind (request .advanceCommand) fun _ =>
            inSequence nested elements := by
  cases elements with
  | nil => rfl
  | cons s rest =>
      rw [if_neg (List.cons_ne_nil s rest), ← forEach_marked]
      rfl

/-- The handler of CREATE SCHEMA enters that it ran, or fails and enters
nothing. -/
theorem performs_handle (call : Call) (c : Cluster) :
    (∃ f d, c.Performs call.handle (.error f) [] d) ∨
      ∃ d, c.Performs call.handle (.ok ())
        [.handler call.statement.kind] d := by
  have hperform := perform_handle call c
  rcases journal_execute c call.statement with
    ⟨f, hresult, hj⟩ | ⟨handled, hresult, hj⟩
  · rw [hresult] at hperform
    exact .inl ⟨f, _, hperform, hj.trans (List.append_nil _).symm⟩
  · rw [hresult] at hperform
    exact .inr ⟨_, hperform, hj⟩

/-- The expansion of a statement about a table is run in turn. -/
theorem unfolds_runExpansion (config : Configuration) (i : Interceptor)
    (hs : call.statement.isExpanded = true) (c : Cluster) :
    ∃ result events d,
      c.Performs (runExpansion (fun s => dispatch config i (call.sub s)) call)
          result events d ∧
        call.Unfolds config i c result events d := by
  obtain ⟨result, events, d, hperforms, hturn⟩ :=
    inTurn_inSequence (contributes_runExpanded config i call)
      (c.expand call.statement) c
  -- the request for the expansion only looks
  exact ⟨result, events, d, ⟨hperforms.ends, hperforms.journal⟩,
    .unrolled (.expanded hs) hturn⟩

/-- The elements of a schema are run in turn after its handler. -/
theorem unfolds_createSchema (config : Configuration) (i : Interceptor)
    {name : String} {owner : Option String} {elements : List Statement}
    (hs : call.statement = .createSchema name owner elements) (c : Cluster) :
    ∃ result events d,
      c.Performs
          (createSchema (fun s => dispatch config i (call.sub s)) call
            elements)
          result events d ∧
        call.Unfolds config i c result events d := by
  have hkind : call.withoutRows.statement.kind = .createSchema := by
    show call.statement.kind = _
    rw [hs]
    rfl
  rw [createSchema_eq]
  rcases performs_handle call.withoutRows c with
    ⟨f, d, hhandler⟩ | ⟨d, hhandler⟩
  · exact ⟨_, _, d, hhandler.bind_error _, .unhandled hhandler⟩
  rw [hkind] at hhandler
  by_cases hne : elements = []
  · subst hne
    exact ⟨_, _, d, hhandler.bind_ok (.nothing rfl),
      .unrolled (.emptySchema hs hhandler) (.nothing rfl)⟩
  · -- no element is handled directly, so to run one is to dispatch it
    have hnested (s : Statement) : call.statement.handles s = false := by
      rw [hs, Statement.handles_createSchema]
    have hcontributes (s : Statement) (e : Cluster) :
        ∃ result events w,
          e.Performs (dispatch config i (call.sub s)) result events w ∧
            call.Contributes config i s e result events w := by
      obtain ⟨result, events, w, hperforms⟩ :=
        e.exists_performs (dispatch config i (call.sub s))
      exact ⟨result, events, w, hperforms, .dispatched (hnested s) hperforms⟩
    obtain ⟨result, events, e, hperforms, hturn⟩ :=
      inTurn_inSequence hcontributes elements (d.record .commandAdvanced)
    refine ⟨result, _, e, ?_, .unrolled (.schema hs hne hhandler) hturn⟩
    rw [if_neg hne]
    exact hhandler.then_ok hperforms.mark_then

/-- The local run of a compound statement unfolds so. -/
theorem unfolds_runLocally (config : Configuration) (i : Interceptor)
    (hcompound : call.statement.isCompound = true) (c : Cluster) :
    ∃ result events d,
      c.Performs
          (runLocally config.topology
            (fun s => dispatch config i (call.sub s)) call)
          result events d ∧
        call.Unfolds config i c result events d := by
  unfold runLocally
  cases hs : call.statement with
  | createSchema name owner elements =>
      exact unfolds_createSchema config i hs c
  | createTable create =>
      exact unfolds_runExpansion config i (by rw [hs]; rfl) c
  | createForeignTable create =>
      exact unfolds_runExpansion config i (by rw [hs]; rfl) c
  | alterTable alter => exact unfolds_runExpansion config i (by rw [hs]; rfl) c
  | _ =>
      rw [hs] at hcompound
      cases hcompound

-- ================================================== the whole dispatch

/-- A call has a class, is let through, and its plan is known. -/
structure Call.Starts (config : Configuration) (i : Interceptor) (call : Call)
    (c : Cluster) (plan : Option Plan) : Prop where
  classified : ∃ level, (c.perform (classify call.statement)).1 = .ok level
  passes : call.Passes config i c
  planned : (c.perform (planCall call)).1 = .ok plan

/-- Planning only looks. -/
theorem perform_planCall (call : Call) (c : Cluster) :
    (c.perform (planCall call)).2 = c := by
  unfold planCall
  split
  · exact perform_makePlan call.statement c
  · rfl

/-- A plan goes out as the route of its statement says. -/
theorem within_makePlan_route (s : Statement) :
    (Plan.make s).Within (fun _ => True)
      fun plan => ∀ p, plan = some p →
        ∃ route, s.route? = some route ∧ p.autocommit = route.autocommit ∧
          p.timing = route.timing := by
  unfold Plan.make
  split
  · intro p h
    cases h
  next route hroute =>
    refine Program.Asks.bind (Program.asks_anything _) fun g p hp => ?_
    obtain rfl := Option.some.inj hp
    exact ⟨route, hroute, rfl, rfl⟩

/-- Compound statements go out after their local run. -/
theorem timing_of_isCompound {s : Statement} (hcompound : s.isCompound = true)
    {route : Route} (hroute : s.route? = some route) :
    route.timing = .afterLocal := by
  cases s with
  | createSchema | createTable | createForeignTable | alterTable =>
      obtain rfl := Option.some.inj hroute
      rfl
  | _ => cases hcompound

/-- A compound statement sends nothing before its local run, whatever the world
that its plan was made in. -/
theorem propagateAt_beforeLocal {σ : Type} {answer : Program.Answers σ} {w : σ}
    (hcompound : call.statement.isCompound = true) {plan : Option Plan}
    (hplan : (Program.run answer (planCall call) w).result = .ok plan)
    (topology : Topology) :
    propagateAt topology call.text plan .beforeLocal = .done () := by
  cases plan with
  | none => rfl
  | some p =>
      have htiming : p.timing = .afterLocal := by
        unfold planCall at hplan
        split at hplan
        · obtain ⟨route, hroute, -, htiming⟩ :=
            (within_makePlan_route call.statement).result hplan p rfl
          rw [htiming]
          exact timing_of_isCompound hcompound hroute
        · cases hplan
      have hnot : p.timing ≠ .beforeLocal := by
        rw [htiming]
        nofun
      exact if_neg hnot

/-- What is done for a compound statement that is let through: its local run,
and then the message of its plan. -/
theorem perform_dispatch_of_starts
    (hcompound : call.statement.isCompound = true) {plan : Option Plan}
    (hstarts : call.Starts config i c plan) :
    c.perform (dispatch config i call)
      = c.perform (Program.bind
          (runLocally config.topology
            (fun s => dispatch config i (call.sub s)) call)
          fun _ =>
            propagateAt config.topology call.text plan .afterLocal) := by
  obtain ⟨level, hlevel⟩ := hstarts.classified
  have hplan : c.perform (planCall call) = (.ok plan, c) :=
    Prod.ext hstarts.planned (perform_planCall call c)
  rw [perform_dispatch_of_passes hstarts.passes hlevel]
  unfold Call.carriedOut
  simp only [Program.bind_eq]
  rw [Cluster.perform_bind_of_ok hplan,
    propagateAt_beforeLocal hcompound hstarts.planned, Program.done_bind]

/-- A call whose plan cannot be made fails and does nothing. -/
theorem perform_carriedOut_unplanned {f : Failure}
    (hplan : (c.perform (planCall call)).1 = .error f) (config : Configuration)
    (i : Interceptor) : c.perform (call.carriedOut config i) = (.error f, c) :=
  Cluster.perform_bind_of_error (Prod.ext hplan (perform_planCall call c)) _

/-- A call that does not start fails and does nothing. -/
theorem perform_dispatch_of_not_starts
    (hnot : ∀ plan, ¬ call.Starts config i c plan) :
    ∃ f, c.perform (dispatch config i call) = (.error f, c) := by
  by_cases hpasses : ∃ level,
      (c.perform (classify call.statement)).1 = .ok level ∧
        call.Passes config i c
  · obtain ⟨level, hlevel, hpass⟩ := hpasses
    cases hplanned : (c.perform (planCall call)).1 with
    | ok plan => exact absurd ⟨⟨level, hlevel⟩, hpass, hplanned⟩ (hnot plan)
    | error f =>
        refine ⟨f, ?_⟩
        rw [perform_dispatch_of_passes hpass hlevel]
        exact perform_carriedOut_unplanned hplanned config i
  · exact perform_dispatch_refused fun level hlevel hpass =>
      hpasses ⟨level, hlevel, hpass⟩

/-- How the dispatch of a compound statement ends, what it enters, and what it
leaves behind. -/
inductive Call.Expands (config : Configuration) (i : Interceptor) (call : Call)
    (c : Cluster) : Except Failure Unit → List Event → Cluster → Prop
  /-- The statement was not let through. -/
  | refused {f : Failure} (hnot : ∀ plan, ¬ call.Starts config i c plan) :
      call.Expands config i c (.error f) [] c
  /-- The local run failed, and nothing is sent. -/
  | stopped {plan : Option Plan} {f : Failure} {events : List Event}
      {d : Cluster} (hstarts : call.Starts config i c plan)
      (hunfolds : call.Unfolds config i c (.error f) events d) :
      call.Expands config i c (.error f) events d
  /-- The local run ended well, and the message could not be sent. -/
  | unsent {plan : Option Plan} {f : Failure} {events : List Event}
      {d : Cluster} (hstarts : call.Starts config i c plan)
      (hunfolds : call.Unfolds config i c (.ok ()) events d)
      (hsend : d.Performs
        (propagateAt config.topology call.text plan .afterLocal)
        (.error f) [] d) :
      call.Expands config i c (.error f) events d
  | done {plan : Option Plan} {events : List Event} {d e : Cluster}
      (hstarts : call.Starts config i c plan)
      (hunfolds : call.Unfolds config i c (.ok ()) events d)
      (hsend : d.Performs
        (propagateAt config.topology call.text plan .afterLocal) (.ok ())
        (Plan.entriesAt config.topology call.text .afterLocal plan) e) :
      call.Expands config i c (.ok ())
        (events ++ Plan.entriesAt config.topology call.text .afterLocal plan) e

/-- A compound statement is carried out by running the statements of its
expansion in turn, and by nothing else but its own message. -/
theorem expands_dispatch (config : Configuration) (i : Interceptor)
    (hcompound : call.statement.isCompound = true) (c : Cluster) :
    ∃ result events d, c.Performs (dispatch config i call) result events d ∧
      call.Expands config i c result events d := by
  by_cases hstarts : ∃ plan, call.Starts config i c plan
  case neg =>
    have hnot (plan : Option Plan) : ¬ call.Starts config i c plan :=
      fun h => hstarts ⟨plan, h⟩
    obtain ⟨f, hperform⟩ := perform_dispatch_of_not_starts hnot
    exact ⟨.error f, [], c, .nothing hperform, .refused hnot⟩
  obtain ⟨plan, hstarts⟩ := hstarts
  have hperform := perform_dispatch_of_starts hcompound hstarts
  obtain ⟨result, events, d, hlocal, hunfolds⟩ :=
    unfolds_runLocally config i hcompound c
  cases result with
  | error f =>
      have hwhole := hlocal.bind_error fun _ =>
        propagateAt config.topology call.text plan .afterLocal
      exact ⟨_, events, d, ⟨hperform.trans hwhole.ends, hwhole.journal⟩,
        .stopped hstarts hunfolds⟩
  | ok _ =>
      rcases perform_propagateAt config.topology call.text plan
          .afterLocal d with ⟨f, hafter⟩ | ⟨e, hafter, hj⟩
      · -- a message that fails leaves no entry
        have hsend := Cluster.Performs.nothing hafter
        have hwhole := hlocal.then_ok hsend
        rw [List.append_nil] at hwhole
        exact ⟨_, events, d, ⟨hperform.trans hwhole.ends, hwhole.journal⟩,
          .unsent hstarts hunfolds hsend⟩
      · have hsend := Cluster.Performs.mk hafter hj
        have hwhole := hlocal.then_ok hsend
        exact ⟨_, _, e, ⟨hperform.trans hwhole.ends, hwhole.journal⟩,
          .done hstarts hunfolds hsend⟩

/-- A schema with a table and a view in it. -/
def schemaWithTable : Call :=
  ⟨.createSchema "s" none
      [.createTable ⟨⟨some "s", "t"⟩, [], [], false⟩,
        .createView ⟨some "s", "v"⟩ false],
    "CREATE SCHEMA s", .topLevel .coordinator, true, false⟩

/-- A cluster in which a table comes with a sequence. -/
def withSequences : Cluster :=
  (Cluster.fresh .standard "").setExpansion .createTable
    [.createTable ⟨⟨some "s", "t"⟩, [], [], false⟩,
      .createSequence ⟨some "s", "q"⟩]

/-- What is entered for that schema in this cluster. -/
def schemaWithTableEntries : List Event :=
  [.handler .createSchema, .commandAdvanced,
    .relationDefined "s.t" .table, .commandAdvanced, .storageCreated "s.t",
    .commandAdvanced,
    .handler .createSequence, .commandAdvanced,
    .handler .createView, .sent (.send "CREATE SCHEMA s" .all false)]

/-- The table comes with its sequence, between the schema and the view. -/
theorem expands_dispatch_schemaWithTable :
    schemaWithTable.statement.isCompound = true ∧
      ∃ d,
        withSequences.Performs (dispatch .standard .none schemaWithTable)
          (.ok ()) schemaWithTableEntries d ∧
        schemaWithTable.Expands .standard .none withSequences (.ok ())
          schemaWithTableEntries d := by
  have hcompound : schemaWithTable.statement.isCompound = true := rfl
  obtain ⟨result, events, d, hperforms, hexpands⟩ :=
    expands_dispatch .standard .none hcompound withSequences
  obtain rfl : .ok () = result := congrArg Prod.fst hperforms.ends
  obtain rfl : schemaWithTableEntries = events := by
    have hworld : (withSequences.perform
        (dispatch .standard .none schemaWithTable)).2 = d :=
      congrArg Prod.snd hperforms.ends
    have hjournal := hperforms.journal
    rw [← hworld] at hjournal
    exact hjournal
  exact ⟨hcompound, d, hperforms, hexpands⟩

end ClusterUtility
