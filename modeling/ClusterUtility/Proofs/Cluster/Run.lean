/-
Runs of a cluster.

# Moves

A cluster is moved by dispatches and from outside: nodes are written to, the
local node crashes and starts again, faults come and go, the catalog and what
statements expand to are set, time passes. A dispatch is a move with all that
it is given, so a run may change configuration, interceptor and context at
every step.

# Runs

`Cluster.after` is the cluster after a list of moves, and `Cluster.Always`
says something of every move of the list, at the cluster that it meets. An
invariant that every such move keeps holds after all of them
(`after_induction`).

`Cluster.history` looks inside the moves: it lists every cluster that a
request of the run meets, and the last one. Where each answer and each move
from outside takes a step of some kind, so does the history from each cluster
to the next (`history_chain`).

# Sessions

A session to which no stand-ins were given dispatches on its cluster as a
move does (`Session.dispatch_plain`), so what is so of all runs is so of what
a session leaves behind.
-/
import ClusterUtility.Proofs.Dispatch.Command
import ClusterUtility.Proofs.Program.Meets
import ClusterUtility.Session

namespace ClusterUtility

-- ====================================================== moves

/-- What can happen to a cluster next. -/
inductive Move where
  | dispatch (config : Configuration) (i : Interceptor) (call : Call)
  /-- The current transaction writes to nodes. -/
  | touch (nodes : List Node)
  /-- The local node crashes and starts again. -/
  | restart
  | setFaults (faults : Faults)
  | setRelation (name : String) (kind : RelationKind)
  | setExpansion (kind : Kind) (statements : List Statement)
  | setRowCount (kind : Kind) (rows : Nat)
  | passTime (timestamp : String)

namespace Cluster

/-- How a move ends, and the cluster after it. -/
def enact (c : Cluster) : Move → Except Failure Unit × Cluster
  | .dispatch config i call =>
      c.perform (ClusterUtility.dispatch config i call)
  | .touch nodes => (.ok (), c.touchNodes nodes)
  | .restart => (.ok (), c.restart)
  | .setFaults faults => (.ok (), c.withFaults faults)
  | .setRelation name kind => (.ok (), c.setRelation name kind)
  | .setExpansion kind statements => (.ok (), c.setExpansion kind statements)
  | .setRowCount kind rows => (.ok (), c.setRowCount kind rows)
  | .passTime timestamp => (.ok (), { c with timestamp })

/-- How a move ends. -/
def outcome (c : Cluster) (m : Move) : Except Failure Unit := (c.enact m).1

/-- The cluster after a move. -/
def step (c : Cluster) (m : Move) : Cluster := (c.enact m).2

/-- The cluster after a list of moves. -/
def after (c : Cluster) (moves : List Move) : Cluster := moves.foldl step c

/-- The cluster that a list of moves makes of a fresh one. -/
def reached (topology : Topology) (timestamp : String)
    (moves : List Move) : Cluster :=
  (fresh topology timestamp).after moves

/-- Some list of moves makes the cluster of a fresh one. -/
def IsReached (c : Cluster) : Prop :=
  ∃ topology timestamp moves, c = reached topology timestamp moves

/-- Something is so of every move of a list, at the cluster that the move
meets. -/
def Always (P : Cluster → Move → Prop) : Cluster → List Move → Prop
  | _, [] => True
  | c, m :: rest => P c m ∧ Always P (c.step m) rest

end Cluster

-- ============================================ commands among the moves

namespace Move

/-- The move dispatches a transaction command, as a client has it or as a
coordinator routed it. -/
def Issues (command : TransactionCommand) (fromClient : Bool) : Move → Prop
  | .dispatch _ _ call =>
      call.statement = .transaction command ∧
        call.context.isClientFacing = fromClient
  | _ => False

/-- The statement of the move is let through. -/
def Passes (c : Cluster) : Move → Prop
  | .dispatch config i call => call.Passes config i c
  | _ => True

/-- A client's PREPARE TRANSACTION that is let through, with nothing waiting
under its identifier. -/
def Prepares (gid : Gid) (c : Cluster) (m : Move) : Prop :=
  m.Issues (.prepare gid) true ∧ m.Passes c ∧ c.lookup gid = none

/-- A COMMIT PREPARED or ROLLBACK PREPARED that ends well. -/
def Finishes (gid : Gid) (commit fromClient : Bool) (c : Cluster)
    (m : Move) : Prop :=
  m.Issues (.finish gid commit) fromClient ∧ c.outcome m = .ok ()

/-- A COMMIT PREPARED or ROLLBACK PREPARED that a coordinator routed here, and
that ends well. -/
def FinishesRouted (gid : Gid) (c : Cluster) (m : Move) : Prop :=
  ∃ commit, m.Finishes gid commit false c

end Move

/-- A client gives a statement to a coordinator with the standard
configuration. -/
def Move.statement (s : Statement) : Move :=
  .dispatch .standard .none ⟨s, s.tag, .topLevel .coordinator, true, false⟩

/-- A client gives a transaction command. -/
def Move.client (command : TransactionCommand) : Move :=
  .statement (.transaction command)

/-- What a client gives is not routed. -/
theorem Move.not_finishesRouted_statement (s : Statement) (gid : Gid)
    (c : Cluster) : ¬ (Move.statement s).FinishesRouted gid c := by
  intro ⟨commit, hfinishes⟩
  have hfacing : true = false := hfinishes.1.2
  cases hfacing

-- ====================================================== runs

namespace Cluster

variable {P : Cluster → Move → Prop} {c : Cluster} {moves : List Move}

/-- Moves in a row are made one after the other. -/
theorem after_append (c : Cluster) (moves later : List Move) :
    c.after (moves ++ later) = (c.after moves).after later :=
  List.foldl_append

/-- What every move keeps holds after all of them. -/
theorem after_induction {I : Cluster → Prop}
    (hstep : ∀ c m, I c → P c m → I (c.step m)) (hc : I c)
    (hmoves : c.Always P moves) : I (c.after moves) := by
  induction moves generalizing c with
  | nil => exact hc
  | cons m rest ih => exact ih (hstep c m hc hmoves.1) hmoves.2

/-- What is so of every move of a list, whatever the cluster, always is. -/
theorem always_of_forall (h : ∀ m ∈ moves, ∀ c, P c m) (c : Cluster) :
    c.Always P moves := by
  induction moves generalizing c with
  | nil => trivial
  | cons m rest ih =>
      exact ⟨h m (List.mem_cons_self ..) c,
        ih (fun m' hm => h m' (List.mem_cons_of_mem _ hm)) (c.step m)⟩

/-- A move adds to the journal and takes nothing back. -/
theorem journal_step (c : Cluster) (m : Move) :
    c.journal <+: (c.step m).journal := by
  cases m with
  | dispatch config i call => exact (onward_perform c _).journal
  | _ => exact List.prefix_refl _

/-- What a list of moves adds to the journal. -/
theorem journal_after (c : Cluster) (moves : List Move) :
    ∃ events, (c.after moves).journal = c.journal ++ events := by
  suffices h : c.journal <+: (c.after moves).journal by
    obtain ⟨events, heq⟩ := h
    exact ⟨events, heq.symm⟩
  induction moves generalizing c with
  | nil => exact List.prefix_refl _
  | cons m rest ih => exact (journal_step c m).trans (ih (c.step m))

/-- The finishes among what was added to the journal were added to the
finishes. -/
theorem finishes_append {d : Cluster} {events : List Event}
    (h : d.journal = c.journal ++ events) (gid : Gid) :
    d.finishes gid = c.finishes gid ++ events.filter fun e =>
      (e.finish? gid).isSome := by
  unfold finishes
  rw [h, List.filter_append]

end Cluster

-- ====================================================== histories

namespace Cluster

/-- The clusters that a move goes through before its end: those that the
requests of a dispatch meet, or the one that something is done to from
outside. -/
def met (c : Cluster) : Move → List Cluster
  | .dispatch config i call =>
      Program.met answer (ClusterUtility.dispatch config i call) c
  | _ => [c]

/-- All clusters that a list of moves goes through, in order. -/
def history (c : Cluster) : List Move → List Cluster
  | [] => [c]
  | m :: rest => c.met m ++ (c.step m).history rest

variable {c : Cluster} {moves : List Move}

/-- A move begins in the cluster that it meets. -/
private theorem met_begins (c : Cluster) (m : Move) :
    ∃ rest, c.met m ++ [c.step m] = c :: rest := by
  cases m with
  | dispatch config i call => exact Program.met_begins answer _ c
  | _ => exact ⟨_, rfl⟩

/-- A history begins with the cluster that the first move meets. -/
theorem history_begins (c : Cluster) (moves : List Move) :
    ∃ rest, c.history moves = c :: rest := by
  induction moves generalizing c with
  | nil => exact ⟨[], rfl⟩
  | cons m rest ih =>
      obtain ⟨later, hlater⟩ := ih (c.step m)
      obtain ⟨first, hfirst⟩ := met_begins c m
      refine ⟨first ++ later, ?_⟩
      rw [history, hlater, ← List.cons_append, ← hfirst, List.append_assoc,
        List.singleton_append]

/-- What each move does from one of its clusters to the next is done all along
the history. -/
theorem history_chain {R : Cluster → Cluster → Prop}
    (hmove : ∀ (c : Cluster) m, (c.met m ++ [c.step m]).IsChain R)
    (c : Cluster) (moves : List Move) : (c.history moves).IsChain R := by
  induction moves generalizing c with
  | nil => exact List.isChain_singleton c
  | cons m rest ih =>
      obtain ⟨later, hlater⟩ := history_begins (c.step m) rest
      have hrest := ih (c.step m)
      rw [history, hlater, List.isChain_split]
      rw [hlater] at hrest
      exact ⟨hmove c m, hrest⟩

end Cluster

-- ====================================================== sessions

variable {α σ : Type}

/-- Where nothing is laid down, the world behind the stage answers. -/
theorem Staged.answer_plain (behind : Program.Answers σ)
    (r : Request) (w : σ) :
    Staged.answer behind r (.plain w)
      = ((behind r w).1, .plain (behind r w).2) := by
  have hnext : (Staged.plain w).next r = (none, .plain w) := by
    unfold Staged.next
    cases r.stagedCall? with
    | none => rfl
    | some call =>
        have hempty : (Staged.plain w).queues.get? call = none :=
          Directory.get?_empty call
        simp only [hempty]
  unfold Staged.answer
  rw [hnext]
  rfl

/-- A program runs on a stage without stand-ins as in the world behind it. -/
theorem Staged.run_plain (behind : Program.Answers σ) (p : Program α) (w : σ) :
    Program.run (Staged.answer behind) p (.plain w)
      = ⟨(Program.run behind p w).result,
        .plain (Program.run behind p w).world,
         (Program.run behind p w).notes⟩ := by
  induction p generalizing w with
  | done value => rfl
  | fail failure => rfl
  | ask r next ih =>
      show Program.run _ (next (Staged.answer behind r (.plain w)).1)
        (Staged.answer behind r (.plain w)).2 = _
      rw [Staged.answer_plain]
      exact ih _ _
  | tell n next ih =>
      simp only [Program.run, ih]

/-- The dispatch of a session without stand-ins is a move of its cluster. -/
theorem Session.dispatch_plain {s : Session} {c : Cluster}
    (hplain : s.stage = .plain c) (tag : CompletionTag) (call : Call) :
    (s.dispatch tag call).1
      = c.outcome (.dispatch s.config s.interceptor call) ∧
      (s.dispatch tag call).2.2.stage
        = .plain (c.step (.dispatch s.config s.interceptor call)) := by
  unfold Session.dispatch Session.run
  rw [hplain, Staged.run_plain]
  exact ⟨rfl, rfl⟩

end ClusterUtility
