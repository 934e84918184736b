/-
What a client is told of a transaction command.

# The command

A command tells its client nothing on its way (`silent_run`): it ends with
what there is to say besides its own name, or it fails.

# The dispatch

The dispatch clears the completion tag before anything else, and it writes
what the command ended with once the command is over. What comes in between
is at most a line in the statement log. So the tag that a client is left with
follows from how the command ends, whatever the tag was before
(`tagAfter_command`).
-/
import ClusterUtility.Proofs.Dispatch.Command
import ClusterUtility.Session

namespace ClusterUtility

open Cluster (answer)
open Program (request ofReply ofRemoteReply)

-- ==================================================== all that is told

namespace Program

variable {α β σ : Type} {P : Note → Prop}

/-- On every path, all that is told has some property. -/
def Tells (P : Note → Prop) : Program α → Prop
  | .done _ => True
  | .fail _ => True
  | .ask _ next => ∀ reply, Tells P (next reply)
  | .tell n next => P n ∧ Tells P next

/-- What is told has every property that follows from one it has. -/
theorem Tells.mono {Q : Note → Prop} {p : Program α} (h : p.Tells P)
    (himp : ∀ n, P n → Q n) : p.Tells Q := by
  induction p with
  | done value => trivial
  | fail failure => trivial
  | ask r next ih =>
      intro reply
      exact ih reply (h reply)
  | tell n next ih => exact ⟨himp n h.1, ih h.2⟩

/-- Two programs in a row tell what each of them tells. -/
theorem Tells.bind {p : Program α} {next : α → Program β} (h : p.Tells P)
    (hnext : ∀ value, (next value).Tells P) :
    (Program.bind p next).Tells P := by
  induction p with
  | done value => exact hnext value
  | fail failure => trivial
  | ask r rest ih =>
      intro reply
      exact ih reply (h reply)
  | tell n rest ih => exact ⟨h.1, ih h.2⟩

theorem tells_request (r : Request) : (request r).Tells P :=
  fun _ => trivial

/-- After a request, what counts is what follows each reply to it. -/
theorem Tells.request_bind {r : Request} {next : r.Reply → Program β}
    (hnext : ∀ reply, (next reply).Tells P) :
    (Program.bind (request r) next).Tells P :=
  hnext

/-- To end as a reply says is to tell nothing. -/
theorem tells_ofReply (reply : Except Failure α) :
    (ofReply reply).Tells P := by
  cases reply <;> trivial

/-- After a reply, what counts is what follows the values that it may have. -/
theorem Tells.ofReply_bind {reply : Except Failure α} {next : α → Program β}
    (hnext : ∀ value, (next value).Tells P) :
    (Program.bind (ofReply reply) next).Tells P :=
  (tells_ofReply reply).bind hnext

/-- To end as the reply of another node says is to tell nothing either. -/
theorem tells_ofRemoteReply (reply : Except TransportFailure α) :
    (ofRemoteReply reply).Tells P := by
  cases reply <;> trivial

/-- An act for each item of a list tells what the acts tell. -/
theorem Tells.forEach {act : α → Program Unit}
    (hact : ∀ item, (act item).Tells P) (items : List α) :
    (Program.forEach act items).Tells P := by
  induction items with
  | nil => trivial
  | cons item rest ih => exact (hact item).bind fun _ => ih

/-- What is told on every path is told in every run. -/
theorem Tells.notes {p : Program α} (h : p.Tells P)
    (answer : Answers σ) (w : σ) : ∀ n ∈ (run answer p w).notes, P n := by
  induction p generalizing w with
  | done value => exact List.forall_mem_nil _
  | fail failure => exact List.forall_mem_nil _
  | ask r next ih => exact ih _ (h _) _
  | tell n next ih => exact List.forall_mem_cons.mpr ⟨h.1, ih h.2 w⟩

/-- On every path nothing is told. -/
def Silent (p : Program α) : Prop :=
  p.Tells fun _ => False

/-- Whatever one says of all notes is so where there are none. -/
theorem Silent.tells {p : Program α} (h : p.Silent) : p.Tells P :=
  h.mono fun _ => False.elim

/-- Nothing is told in a run of a silent program. -/
theorem Silent.notes {p : Program α} (h : p.Silent)
    (answer : Answers σ) (w : σ) : (run answer p w).notes = [] :=
  List.eq_nil_iff_forall_not_mem.mpr (Tells.notes h answer w)

end Program

open Program (Silent Tells tells_request tells_ofReply tells_ofRemoteReply)

-- ====================================================== the commands

section commands

variable (gid : Gid)

/-- To begin tells nothing, on a coordinator and elsewhere. -/
private theorem silent_beginTransaction (options : List TransactionOption)
    (c : Context) : (beginTransaction options c).Silent := by
  unfold beginTransaction
  split
  · refine Tells.request_bind fun reply =>
      (tells_ofRemoteReply reply).bind fun _ => ?_
    refine Tells.request_bind fun reply =>
      Tells.ofReply_bind fun _ => ?_
    exact Tells.forEach (fun _ => Tells.request_bind tells_ofReply) options
  · refine Tells.request_bind fun reply =>
      Tells.ofReply_bind fun _ => ?_
    exact Tells.forEach (fun _ => Tells.request_bind tells_ofReply) options

/-- To roll branches back tells nothing, whether each of them answers or
not. -/
private theorem silent_rollBackBranches (nodes : List Node) :
    (rollBackBranches gid nodes).Silent := by
  induction nodes with
  | nil => trivial
  | cons node rest ih =>
      refine Tells.request_bind fun reply => ih.bind fun inDoubt => ?_
      cases reply <;> trivial

/-- To undo a preparation tells nothing. -/
private theorem silent_undoPrepare (nodes : List Node) :
    (undoPrepare gid nodes).Silent := by
  refine (silent_rollBackBranches gid nodes).bind fun inDoubt => ?_
  dsimp only
  split
  · exact fun _ _ _ => trivial
  · exact fun _ _ => trivial

/-- To prepare branches tells nothing, and neither does the undoing that a
refusal brings about. -/
private theorem silent_prepareBranches (prepared nodes : List Node) :
    (prepareBranches gid prepared nodes).Silent := by
  induction nodes generalizing prepared with
  | nil => trivial
  | cons node rest ih =>
      refine Tells.request_bind fun reply => ?_
      cases reply with
      | ok _ => exact ih (prepared ++ [node])
      | error failure =>
          exact (silent_undoPrepare gid prepared).bind fun _ => trivial

/-- To register tells nothing, and neither does the undoing. -/
private theorem silent_registerPrepared (branches : List Node)
    (hasRecord : Bool) : (registerPrepared gid branches hasRecord).Silent := by
  refine Tells.request_bind fun reply => ?_
  cases reply with
  | ok _ => trivial
  | error failure =>
      have hundo : (do
          undoPrepare gid branches
          .fail failure : Program TagOverride).Silent :=
        (silent_undoPrepare gid branches).bind fun _ => trivial
      dsimp only
      split
      · exact Tells.request_bind fun _ => hundo
      · exact hundo

/-- PREPARE TRANSACTION tells nothing where a client asks for it, on every one
of its ways. -/
private theorem silent_prepareFromClient : (prepareFromClient gid).Silent := by
  refine Tells.request_bind fun known => ?_
  split
  · trivial
  · refine Tells.request_bind fun failed => ?_
    split
    · refine Tells.request_bind fun _ => Tells.request_bind fun reply => ?_
      exact Tells.ofReply_bind fun _ => trivial
    · refine Tells.request_bind fun branches => ?_
      refine (silent_prepareBranches gid [] branches).bind fun _ => ?_
      refine Tells.request_bind fun hasRecord => ?_
      have hend : (endLocalSide gid hasRecord).Silent := by
        cases hasRecord <;> exact tells_request _
      refine hend.bind fun reply => ?_
      match reply with
      | .ok true => exact silent_registerPrepared gid branches hasRecord
      | .ok false =>
          exact (silent_undoPrepare gid branches).bind fun _ => trivial
      | .error failure =>
          exact (silent_undoPrepare gid branches).bind fun _ => trivial

/-- Nor does it elsewhere. -/
private theorem silent_prepareTransaction (c : Context) :
    (prepareTransaction gid c).Silent := by
  unfold prepareTransaction
  split
  · exact silent_prepareFromClient gid
  · refine Tells.request_bind fun reply =>
      Tells.ofReply_bind fun prepared => ?_
    cases prepared <;> trivial

/-- COMMIT PREPARED and ROLLBACK PREPARED tell nothing. -/
private theorem silent_finishPrepared (commit : Bool) (c : Context) :
    (finishPrepared gid commit c).Silent := by
  unfold finishPrepared
  split
  case isFalse => exact Tells.request_bind tells_ofReply
  refine Tells.request_bind fun known => ?_
  cases known with
  | none => trivial
  | some t =>
      have hcomplete : (request (.complete gid (.ofCommit commit))).Silent :=
        tells_request _
      dsimp only
      split
      case isFalse => trivial
      refine (Tells.forEach (fun node => ?_) t.participants).bind fun _ => ?_
      · refine Tells.request_bind fun reply => ?_
        cases reply with
        | ok _ => exact tells_request _
        | error failure => trivial
      · dsimp only
        split
        · exact Tells.request_bind fun reply =>
            Tells.ofReply_bind fun _ => hcomplete
        · exact hcomplete

end commands

/-- A command tells nothing on its way. -/
theorem silent_run (context : Context) (command : TransactionCommand) :
    (command.run context).Silent := by
  cases command with
  | begin options =>
      exact (silent_beginTransaction options context).bind fun _ => trivial
  | start options =>
      exact (silent_beginTransaction options context).bind fun _ => trivial
  | commit =>
      refine Tells.request_bind fun reply =>
        Tells.ofReply_bind fun ended => ?_
      cases ended <;> trivial
  | prepare gid => exact silent_prepareTransaction gid context
  | commitPrepared gid =>
      exact (silent_finishPrepared gid true context).bind fun _ => trivial
  | rollbackPrepared gid =>
      exact (silent_finishPrepared gid false context).bind fun _ => trivial
  | _ =>
      exact Tells.request_bind fun reply =>
        Tells.ofReply_bind fun _ => trivial

-- ====================================================== the dispatch

variable {config : Configuration} {i : Interceptor} {call : Call}
  {c d : Cluster}

/-- What follows a part that ends with a value is told after it. -/
theorem notes_bind_of_ok {α β : Type} {p : Program α} {value : α}
    (h : c.perform p = (.ok value, d)) (next : α → Program β) :
    (Program.run answer (Program.bind p next) c).notes
      = (Program.run answer p c).notes
        ++ (Program.run answer (next value) d).notes := by
  obtain ⟨hresult, rfl⟩ := Prod.mk.inj h
  rw [Program.run_bind, hresult]

/-- Nothing follows a part that fails. -/
theorem notes_bind_of_error {α β : Type} {p : Program α} {failure : Failure}
    (h : c.perform p = (.error failure, d)) (next : α → Program β) :
    (Program.run answer (Program.bind p next) c).notes
      = (Program.run answer p c).notes := by
  obtain ⟨hresult, _⟩ := Prod.mk.inj h
  rw [Program.run_bind, hresult]

theorem silent_classify (s : Statement) : (classify s).Silent := by
  refine Tells.request_bind fun objects => ?_
  split <;> trivial

/-- The gate tells nothing. -/
theorem silent_passGate (config : Configuration) (call : Call) :
    (passGate config call).Silent := by
  refine Tells.ofReply_bind fun _ => Tells.ofReply_bind fun _ => ?_
  refine Tells.request_bind fun inBlock => Tells.ofReply_bind fun _ => ?_
  split <;> trivial

/-- An interceptor that lets a call through tells at most that it saw it. -/
theorem notes_around (hi : i.admits call.statement.kind = true)
    (inner : Call → Program Unit) (c : Cluster) :
    ∃ sighted, (Program.run answer (i.around inner call) c).notes
      = sighted ++ (Program.run answer (inner call) c).notes := by
  cases i with
  | none => exact ⟨[], rfl⟩
  | standard => exact ⟨[], rfl⟩
  | recorder refused =>
      have hfree : call.statement.kind ∉ refused := of_decide_eq_true hi
      refine ⟨[.sighted (Interceptor.sighting call)], ?_⟩
      show (Program.run answer (.tell _
        (if call.statement.kind ∈ refused then _ else _)) c).notes = _
      rw [if_neg hfree]
      rfl

/-- Where a client waits for the tag, it is cleared before anything else. -/
theorem notes_standardDispatch (htag : call.hasTag = true)
    (hdepth : call.context.depth ≤ config.maxDepth) (c : Cluster) :
    (Program.run answer (standardDispatch config (dispatch config i) call)
        c).notes
      = .clearTag :: (Program.run answer
          (process config (fun s => dispatch config i (call.sub s)) call)
          c).notes := by
  unfold standardDispatch
  simp only [Nat.not_lt.mpr hdepth, if_false, Program.bind_eq, htag, if_true]
  rfl

/-- A statement that has a class is logged or not, and comes to the gate. -/
theorem notes_process {level : LogClass}
    (hlevel : (c.perform (classify call.statement)).1 = .ok level)
    (config : Configuration) (i : Interceptor) :
    ∃ logged,
      (Program.run answer
          (process config (fun s => dispatch config i (call.sub s)) call)
          c).notes
        = logged ++ (Program.run answer
            (Program.bind (passGate config call) fun _ =>
              call.carriedOut config i) c).notes ∧
      ∀ n ∈ logged, n = .logged call.text := by
  have hclass : c.perform (classify call.statement) = (.ok level, c) :=
    Prod.ext hlevel (perform_classify ..)
  unfold process
  rw [Program.bind_eq, notes_bind_of_ok hclass, (silent_classify _).notes]
  dsimp only
  split
  · exact ⟨[.logged call.text], rfl, fun n hn => List.mem_singleton.mp hn⟩
  · exact ⟨[], rfl, List.forall_mem_nil _⟩

/-- The client whose tag was cleared hears what it hears of the carrying out,
and before that at most that the statement is logged. -/
theorem notes_dispatch {level : LogClass} (hpass : call.Passes config i c)
    (hlevel : (c.perform (classify call.statement)).1 = .ok level)
    (htag : call.hasTag = true) :
    ∃ sighted logged, (Program.run answer (dispatch config i call) c).notes
        = sighted ++ .clearTag :: (logged ++
            (Program.run answer (call.carriedOut config i) c).notes) ∧
      ∀ n ∈ logged, n = .logged call.text := by
  have hgate : c.perform (passGate config call) = (.ok (), c) :=
    Prod.ext hpass.gate (perform_passGate ..)
  obtain ⟨sighted, haround⟩ :=
    notes_around hpass.admitted (standardDispatch config (dispatch config i)) c
  obtain ⟨logged, hprocess, hlogged⟩ := notes_process hlevel config i
  refine ⟨sighted, logged, ?_, hlogged⟩
  rw [dispatch_eq, haround, notes_standardDispatch htag hpass.depth, hprocess,
    notes_bind_of_ok hgate, (silent_passGate config call).notes,
    List.nil_append]

/-- The client of a call that is refused, though not by an interceptor, hears
that the tag is cleared, and at most that the statement is logged. -/
theorem notes_dispatch_refused (hadmits : i.admits call.statement.kind = true)
    (htag : call.hasTag = true)
    (hrefused : ∀ level, (c.perform (classify call.statement)).1 = .ok level →
      ¬ call.Passes config i c) :
    ∃ sighted logged, (Program.run answer (dispatch config i call) c).notes
        = sighted ++ .clearTag :: logged ∧
      ∀ n ∈ logged, n = .logged call.text := by
  obtain ⟨sighted, haround⟩ :=
    notes_around hadmits (standardDispatch config (dispatch config i)) c
  rw [dispatch_eq, haround]
  by_cases hdepth : call.context.depth ≤ config.maxDepth
  case neg =>
    refine ⟨sighted, [], ?_, List.forall_mem_nil _⟩
    unfold standardDispatch
    simp only [Nat.not_le.mp hdepth, if_true, Program.bind_eq, htag]
    rfl
  rw [notes_standardDispatch htag hdepth]
  cases hlevel : (c.perform (classify call.statement)).1 with
  | error failure =>
      have hclass : c.perform (classify call.statement)
          = (.error failure, c) :=
        Prod.ext hlevel (perform_classify ..)
      refine ⟨sighted, [], ?_, List.forall_mem_nil _⟩
      unfold process
      rw [Program.bind_eq, notes_bind_of_error hclass,
        (silent_classify _).notes]
  | ok level =>
      obtain ⟨logged, hprocess, hlogged⟩ := notes_process hlevel config i
      refine ⟨sighted, logged, ?_, hlogged⟩
      cases hgate : (c.perform (passGate config call)).1 with
      | ok _ => exact absurd ⟨hadmits, hdepth, hgate⟩ (hrefused level hlevel)
      | error failure =>
          have hfail : c.perform (passGate config call)
              = (.error failure, c) :=
            Prod.ext hgate (perform_passGate ..)
          rw [hprocess, notes_bind_of_error hfail,
            (silent_passGate config call).notes, List.append_nil]

-- ====================================================== the tag

/-- The note is about the completion tag. -/
def Note.isOfTag : Note → Bool
  | .clearTag => true
  | .setTag _ => true
  | _ => false

/-- What is not about the tag leaves it as it is. -/
theorem tag_hearAll_of_isOfTag {notes : List Note}
    (h : ∀ n ∈ notes, n.isOfTag = false) (desk : Desk) :
    (desk.hearAll notes).tag = desk.tag := by
  induction notes generalizing desk with
  | nil => rfl
  | cons n rest ih =>
      obtain ⟨hn, hrest⟩ := List.forall_mem_cons.mp h
      refine (ih hrest (desk.hear n)).trans ?_
      cases n with
      | clearTag | setTag => cases hn
      | rows | logged | sighted => rfl

/-- Of a desk, the tag alone decides what its tag becomes. -/
theorem tag_hearAll_congr {desk desk' : Desk} (h : desk.tag = desk'.tag)
    (notes : List Note) :
    (desk.hearAll notes).tag = (desk'.hearAll notes).tag := by
  induction notes generalizing desk desk' with
  | nil => exact h
  | cons n rest ih =>
      refine ih ?_
      cases n with
      | clearTag => rfl
      | setTag text => exact congrArg (CompletionTag.set · text) h
      | rows | logged | sighted => exact h

/-- What is told before the tag is cleared does not matter, nor does what is
logged after. -/
theorem tag_hearAll_cleared (desk : Desk) {line : String}
    {sighted logged told : List Note}
    (hlogged : ∀ n ∈ logged, n = .logged line) :
    (desk.hearAll (sighted ++ .clearTag :: (logged ++ told))).tag
      = ((Desk.ofTag ∅).hearAll told).tag := by
  have hkept : ∀ n ∈ logged, n.isOfTag = false := by
    intro n hn
    rw [hlogged n hn]
    rfl
  have htag : (((desk.hearAll sighted).hear .clearTag).hearAll logged).tag
      = (Desk.ofTag ∅).tag :=
    tag_hearAll_of_isOfTag hkept _
  have hsplit : desk.hearAll (sighted ++ .clearTag :: (logged ++ told))
      = (((desk.hearAll sighted).hear .clearTag).hearAll logged).hearAll
        told := by
    unfold Desk.hearAll
    rw [List.foldl_append, List.foldl_cons, List.foldl_append]
  rw [hsplit]
  exact tag_hearAll_congr htag told

/-- The tag that a client is left with which found the given one on its
desk. -/
def Call.tagAfter (config : Configuration) (i : Interceptor) (call : Call)
    (tag : CompletionTag) (c : Cluster) : CompletionTag :=
  ((Desk.ofTag tag).hearAll
    (Program.run answer (dispatch config i call) c).notes).tag

/-- The tag that comes of the end of a command. -/
def CompletionTag.ofEnd : Except Failure TagOverride → CompletionTag
  | .ok (some text) => set ∅ text
  | _ => ∅

/-- The client who waits for the tag of a command that is let through is left
with the one that comes of the end of the command. -/
theorem tagAfter_command {command : TransactionCommand}
    (hs : call.statement = .transaction command)
    (hpass : call.Passes config i c)
    (htag : call.hasTag = true) (tag : CompletionTag) :
    call.tagAfter config i tag c
      = .ofEnd (c.perform (command.run call.context)).1 := by
  have hlevel : (c.perform (classify call.statement)).1 = .ok .all := by
    rw [hs]
    rfl
  obtain ⟨sighted, logged, hnotes, hlogged⟩ := notes_dispatch hpass hlevel htag
  unfold Call.tagAfter
  rw [hnotes, tag_hearAll_cleared _ hlogged, carriedOut_command hs,
    runLocally_command hs]
  have hsilent := (silent_run call.context command).notes answer c
  cases hrun : c.perform (command.run call.context) with
  | mk result d =>
      cases result with
      | error failure =>
          rw [notes_bind_of_error hrun, hsilent]
          rfl
      | ok override =>
          rw [notes_bind_of_ok hrun, hsilent]
          cases override with
          | none => rfl
          | some text =>
              show ((Desk.ofTag ∅).hearAll
                  (Program.run answer (call.tellTag text) d).notes).tag = _
              unfold Call.tellTag
              rw [if_pos htag]
              rfl

end ClusterUtility
