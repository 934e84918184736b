/-
Which statements have a class, over the runs of a cluster.

The classifier looks through EXECUTE into the session's prepared statements,
and nothing keeps a statement out of that table: a name may be prepared as its
own execution, or as one that comes back to it by other names. From then on no
class exists for the executions of the name, and the dispatch of one fails
before anything else is looked at.

# The step that closes a loop

Handlers change the table in few ways. Taking names out leaves looking through
to end where it ended before, and so does putting in a statement from which it
does not come to the new name (`settled_after`). What is left is one step: the
handler of a PREPARE runs whose query comes to its own name, in the table that
it meets (`Request.ClosesLoop`).

# Runs

A run from a fresh session has classes for all statements, unless one of its
dispatches came to such a step (`settled_or_looped`); and a dispatch fails for
want of a class only after such a step, its own ones included, since it fails
so only at a call whose statement has none (`reaches_of_unending`).
-/
import ClusterUtility.Proofs.Cluster.Block
import ClusterUtility.Proofs.Dispatch.Recursion
import ClusterUtility.Proofs.Statement.LookThrough

namespace ClusterUtility

open Cluster (answer)
open Program (Leads)

variable {α : Type} {config : Configuration} {i : Interceptor} {call : Call}
  {c d : Cluster} {o o' : SessionObjects}

-- ====================================================== the table

/-- From every statement, looking through the session's objects ends. -/
def SessionObjects.Settled (o : SessionObjects) : Prop :=
  ∀ s : Statement, s.Settles o

/-- In a fresh session looking through ends. -/
private theorem SessionObjects.settled_empty :
    (∅ : SessionObjects).Settled := by
  intro s
  induction s using Statement.look_induction with
  | nowhere s level _ _ hnone =>
      exact ⟨_, fun t hlooks => absurd hlooks (hnone _ t)⟩
  | inside s t _ hlooks ih =>
      refine ⟨_, fun u hu => ?_⟩
      rw [← (hlooks _).unique hu]
      exact ih
  | execute name into params =>
      refine ⟨_, fun t hlooks => ?_⟩
      cases hlooks with
      | execute _ _ hprepared => cases hprepared

/-- A name that is in a smaller table stands there for what it stood for. -/
theorem SessionObjects.Settled.of_fewer (h : o.Settled)
    (hfewer : ∀ name p, o'.prepared.get? name = some p →
      o.prepared.get? name = some p) : o'.Settled := by
  refine fun s => (h s).of_fewer fun s t hlooks => ?_
  cases hlooks with
  | prepare name => exact .prepare name _
  | explain verbose => exact .explain verbose _
  | execute into params hprepared =>
      exact .execute into params (hfewer _ _ hprepared)

/-- After a statement ran, looking through ends as before, unless the statement
is a PREPARE whose query comes to its own name. -/
theorem settled_after (h : o.Settled) (s : Statement)
    (hopen : ∀ name query, s = .prepare name query → ¬ query.Reaches o name) :
    (o.after s).Settled := by
  cases s with
  | prepare name query => exact settles_prepare h (hopen name query rfl)
  | deallocate name =>
      cases name with
      | none =>
          refine h.of_fewer fun name p hp => ?_
          cases hp
      | some name =>
          refine h.of_fewer fun other p hp => ?_
          have hget : (o.prepared.erase name).get? other = some p := hp
          rw [Directory.get?_erase] at hget
          split at hget
          · cases hget
          · exact hget
  | query q =>
      have hsame : (o.after (.query q)).prepared = o.prepared := by
        unfold SessionObjects.after
        dsimp only
        split <;> rfl
      refine h.of_fewer fun name p hp => ?_
      rwa [hsame] at hp
  | closePortal portal => cases portal <;> exact h.of_fewer fun _ _ hp => hp
  | _ => exact h

-- ====================================================== one answer

/-- The handler of a PREPARE is to run whose query comes to its own name. -/
def Request.ClosesLoop (c : Cluster) (r : Request) : Prop :=
  ∃ name query text, r = .execute (.prepare name query) text ∧
    c.handlerFault? .prepare = none ∧ query.Reaches c.session.objects name

/-- A handler that does not fail keeps the session objects as its statement
leaves them. -/
theorem objects_execute {s : Statement}
    (hfault : c.handlerFault? s.kind = none) :
    (c.execute s).2.session.objects = c.session.objects.after s := by
  unfold Cluster.execute
  rw [hfault]
  dsimp only
  split
  · show (LocalSession.afterCatalogChange _).objects.after s = _
    unfold LocalSession.afterCatalogChange
    split <;> rfl
  · rfl

/-- A handler that fails leaves them as they are. -/
theorem objects_execute_failed {s : Statement} {f : Failure}
    (hfault : c.handlerFault? s.kind = some f) :
    (c.execute s).2.session.objects = c.session.objects := by
  unfold Cluster.execute
  rw [hfault]
  show c.session.afterError.objects = _
  unfold LocalSession.afterError
  split <;> rfl

/-- Other requests leave the session objects as they are. -/
theorem objects_answer_of_ne {r : Request}
    (hne : ∀ s text, r ≠ .execute s text) (c : Cluster) :
    (answer r c).2.session.objects = c.session.objects := by
  have hbecomes := Cluster.becomes_answer r c
  generalize (answer r c).2.session = s at hbecomes
  cases hbecomes with
  | handled statement text => exact absurd rfl (hne statement text)
  | erred =>
      unfold LocalSession.afterError
      split <;> rfl
  | changed =>
      unfold LocalSession.afterCatalogChange
      split <;> rfl
  | enlisted request nodes =>
      unfold Cluster.enlist
      split <;> rfl
  | _ => rfl

/-- An answer that closes no loop leaves looking through to end. -/
private theorem settled_answer {r : Request} (h : c.session.objects.Settled)
    (hopen : ¬ r.ClosesLoop c) : (answer r c).2.session.objects.Settled := by
  by_cases hexecute : ∃ s text, r = .execute s text
  · obtain ⟨s, text, rfl⟩ := hexecute
    show (c.execute s).2.session.objects.Settled
    cases hfault : c.handlerFault? s.kind with
    | some f =>
        rw [objects_execute_failed hfault]
        exact h
    | none =>
        rw [objects_execute hfault]
        refine settled_after h s fun name query hs hreaches => hopen ?_
        subst hs
        exact ⟨name, query, text, rfl, hfault, hreaches⟩
  · rw [objects_answer_of_ne (fun s text hr => hexecute ⟨s, text, hr⟩)]
    exact h

-- =================================================== programs and runs

/-- In the run of a program, a PREPARE closes a loop. -/
def Program.ClosesLoop (p : Program α) (c : Cluster) : Prop :=
  ∃ r next d, Leads answer p c (.ask r next) d ∧ r.ClosesLoop d

/-- The dispatch of a PREPARE, or of a statement that comes to one, closes a
loop. -/
def Move.ClosesLoop (c : Cluster) : Move → Prop
  | .dispatch config i call =>
      (ClusterUtility.dispatch config i call).ClosesLoop c
  | _ => False

/-- Some move of a run closed a loop. -/
def Cluster.Looped (c : Cluster) (moves : List Move) : Prop :=
  ∃ before m after, moves = before ++ m :: after ∧
    m.ClosesLoop (c.after before)

/-- At every moment of a run looking through ends, unless a loop was closed. -/
theorem settled_of_leads {p q : Program α} (hleads : Leads answer p c q d)
    (h : c.session.objects.Settled) (hopen : ¬ p.ClosesLoop c) :
    d.session.objects.Settled := by
  induction hleads with
  | here => exact h
  | @ask r next q c d hrest ih =>
      refine ih (settled_answer h fun hcloses =>
        hopen ⟨r, next, c, .here, hcloses⟩) ?_
      rintro ⟨r', next', e, hmoment, hcloses⟩
      exact hopen ⟨r', next', e, .ask hmoment, hcloses⟩
  | tell hrest ih =>
      refine ih h ?_
      rintro ⟨r', next', e, hmoment, hcloses⟩
      exact hopen ⟨r', next', e, .tell hmoment, hcloses⟩

/-- A program comes to its end. -/
theorem exists_leads_end (c : Cluster) (p : Program α) :
    ∃ q, Leads answer p c q (c.perform p).2 := by
  induction p generalizing c with
  | done value => exact ⟨_, .here⟩
  | fail f => exact ⟨_, .here⟩
  | ask r next ih =>
      obtain ⟨q, hleads⟩ := ih _ (answer r c).2
      exact ⟨q, .ask hleads⟩
  | tell n next ih =>
      obtain ⟨q, hleads⟩ := ih c
      exact ⟨q, .tell hleads⟩

/-- A move that closes no loop leaves looking through to end. -/
private theorem settled_step {m : Move} (h : c.session.objects.Settled)
    (hopen : ¬ m.ClosesLoop c) : (c.step m).session.objects.Settled := by
  cases m with
  | dispatch config i call =>
      obtain ⟨q, hleads⟩ := exists_leads_end c (dispatch config i call)
      exact settled_of_leads hleads h hopen
  | restart => exact SessionObjects.settled_empty
  | _ => exact h

/-- After a run looking through ends, unless some move closed a loop. -/
theorem settled_or_looped (h : c.session.objects.Settled) (moves : List Move) :
    (c.after moves).session.objects.Settled ∨ c.Looped moves := by
  induction moves generalizing c with
  | nil => exact .inl h
  | cons m rest ih =>
      by_cases hcloses : m.ClosesLoop c
      · exact .inr ⟨[], m, rest, rfl, hcloses⟩
      · rcases ih (settled_step h hcloses) with hsettled | hlooped
        · exact .inl hsettled
        · obtain ⟨before, m', after, rfl, hlater⟩ := hlooped
          exact .inr ⟨m :: before, m', after, rfl, hlater⟩

/-- A loop that was closed in the first part of a run was closed in the run. -/
theorem Cluster.Looped.append {moves : List Move} (h : c.Looped moves)
    (later : List Move) : c.Looped (moves ++ later) := by
  obtain ⟨before, m, after, rfl, hcloses⟩ := h
  exact ⟨before, m, after ++ later, by simp, hcloses⟩

/-- Where looking through ends, a dispatch fails for want of a class only if it
closed a loop itself. -/
theorem closesLoop_of_endless {command : String}
    (h : c.session.objects.Settled)
    (hfail : c.perform (dispatch config i call)
      = (.error (.endlessExecution command), d)) :
    (dispatch config i call).ClosesLoop c := by
  obtain ⟨other, hreaches, hother⟩ := reaches_of_unending hfail rfl
  obtain ⟨rest, hleads⟩ := hreaches.dispatches
  by_contra hopen
  have hsettled := settled_of_leads hleads h hopen
  cases hother with
  | unclassified hlevel =>
      exact level?_eq_none.mp (endless_of_classify hlevel).2
        (hsettled other.statement)

/-- After a PREPARE that closed a loop, executing its name has no class. -/
theorem level?_of_closesLoop {r : Request} {name : String} {query : Statement}
    {text : String} (hr : r = .execute (.prepare name query) text)
    (hcloses : r.ClosesLoop c) (into : Option QualifiedName)
    (params : List Json.Whole) :
    (Statement.execute name into params).level?
      (answer r c).2.session.objects = none := by
  obtain ⟨name', query', text', hr', hfault, hreaches⟩ := hcloses
  rw [hr] at hr'
  cases hr'
  subst hr
  show Statement.level? (c.execute (.prepare name query)).2.session.objects _
      = none
  rw [objects_execute hfault]
  exact level?_eq_none.mpr (not_settles_of_reaches hreaches into params)

/-- In the session that a run leaves behind, every statement has one of the
three classes, at the end of looking through it; or no class is found since
looking through does not end, and then a dispatch of the run closed a loop. A
dispatch that fails for want of a class follows such a step or makes it itself;
and after such a step, wherever it is made, executing the name has no class. -/
theorem classified_unless_looped (topology : Topology) (timestamp : String)
    (moves : List Move) :
    (∀ s : Statement,
      s.IsClassified
          (Cluster.reached topology timestamp moves).session.objects ∨
        (s.level? (Cluster.reached topology timestamp moves).session.objects
            = none ∧
          ¬ s.Settles
            (Cluster.reached topology timestamp moves).session.objects ∧
          (Cluster.fresh topology timestamp).Looped moves)) ∧
    (∀ config i call command d,
      (Cluster.reached topology timestamp moves).perform
          (dispatch config i call)
        = (.error (.endlessExecution command), d) →
      (Cluster.fresh topology timestamp).Looped
        (moves ++ [.dispatch config i call])) ∧
    ∀ c name query text,
      (Request.execute (.prepare name query) text).ClosesLoop c →
      ∀ into params, (Statement.execute name into params).level?
        (answer (.execute (.prepare name query) text) c).2.session.objects
          = none := by
  have hfresh : (Cluster.fresh topology timestamp).session.objects.Settled :=
    SessionObjects.settled_empty
  refine ⟨fun s => ?level, fun config i call command d hfail => ?dispatch,
    fun c name query text hcloses into params =>
      level?_of_closesLoop rfl hcloses into params⟩
  case level =>
    cases hlevel : s.level?
        (Cluster.reached topology timestamp moves).session.objects with
    | some level => exact .inl (isClassified_of_level? hlevel)
    | none =>
        have hendless := level?_eq_none.mp hlevel
        refine .inr ⟨rfl, hendless, ?_⟩
        rcases settled_or_looped hfresh moves with hsettled | hlooped
        · exact absurd (hsettled s) hendless
        · exact hlooped
  case dispatch =>
    rcases settled_or_looped hfresh moves with hsettled | hlooped
    · exact ⟨moves, .dispatch config i call, [], rfl,
        closesLoop_of_endless hsettled hfail⟩
    · exact hlooped.append _

/-- A name that is prepared as its own execution. -/
def selfExecution : List Move :=
  [.dispatch .permissive .none
    ⟨.prepare "p" (.execute "p" none []), "PREPARE p AS EXECUTE p",
      .topLevel .coordinator, true, false⟩]

/-- The execution of that name. -/
def executeItself : Call :=
  ⟨.execute "p" none [], "EXECUTE p", .topLevel .coordinator, true, false⟩

/-- The PREPARE closes a loop, and the execution of its name fails for want of
a class. -/
theorem classified_unless_looped_selfExecution :
    (Cluster.fresh .standard "").Looped selfExecution ∧
      ¬ executeItself.statement.Settles
        (Cluster.reached .standard "" selfExecution).session.objects ∧
      (∃ d, (Cluster.reached .standard "" selfExecution).perform
          (dispatch .permissive .none executeItself)
        = (.error (.endlessExecution "EXECUTE"), d)) ∧
      (Cluster.fresh .standard "").Looped
        (selfExecution ++ [.dispatch .permissive .none executeItself]) := by
  obtain ⟨hlevels, hdispatch, -⟩ :=
    classified_unless_looped .standard "" selfExecution
  have hnone : executeItself.statement.level?
      (Cluster.reached .standard "" selfExecution).session.objects
      = none := rfl
  obtain ⟨d, hfail⟩ : ∃ d, (Cluster.reached .standard "" selfExecution).perform
      (dispatch .permissive .none executeItself)
        = (.error (.endlessExecution "EXECUTE"), d) := ⟨_, rfl⟩
  rcases hlevels executeItself.statement with
    hclassified | ⟨-, hendless, hlooped⟩
  · obtain ⟨level, hlevel, -⟩ := hclassified.found
    rw [hnone] at hlevel
    cases hlevel
  · exact ⟨hlooped, hendless, ⟨d, hfail⟩, hdispatch _ _ _ _ d hfail⟩

end ClusterUtility
