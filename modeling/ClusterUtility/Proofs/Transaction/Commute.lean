/-
Finishes of different transactions commute.

# What a finish touches

The registry, the branches on other nodes and the records of the local node
are shared by all transactions, and a finish also changes the session, if it
is the one that prepared the transaction. But each answer to a request of a
finish goes by what is held of its own transaction (`LooksSame`), and what it
does is one of few steps, each of which changes a place at its own key
(`FinishStep`).

# In either order

Steps about different transactions leave a cluster the same in either order,
but for the order of their entries in the journal (`reordered_take`): a key of
a directory is never moved by a step about another one. What a finish goes by
is not changed by a step about another transaction (`looksSame_take`). So
their requests commute, and with them the whole commands, wherever they stop
(`finishes_commute`).
-/
import ClusterUtility.Proofs.Program.Commute
import ClusterUtility.Proofs.Transaction.Atomicity

namespace ClusterUtility

open Cluster (answer)
open Program (Asks Commutes Respects request)

-- ====================================================== directories

namespace Directory

variable {κ α : Type} [DecidableEq κ] {d : Directory κ α} {key other : κ}

/-- Two keys are taken out in either order. -/
private theorem erase_erase_comm (d : Directory κ α) (key other : κ) :
    (d.erase key).erase other = (d.erase other).erase key := by
  unfold erase
  rw [List.filter_filter, List.filter_filter]
  simp only [Bool.and_comm]

/-- Taking another key out of the entries does not move a value that is put
there. -/
private theorem filter_put (hne : key ≠ other) (value : α)
    (entries : List (κ × α)) :
    (put key value entries).filter (fun entry => entry.1 ≠ other)
      = put key value (entries.filter fun entry => entry.1 ≠ other) := by
  induction entries with
  | nil => simp [put, hne]
  | cons entry rest ih =>
      obtain ⟨k, a⟩ := entry
      by_cases hk : k = key
      · subst hk
        simp [put, hne]
      · by_cases ho : k = other
        · subst ho
          simpa [put, hk] using ih
        · simpa [put, hk, ho] using ih

/-- A value stays where it is when another key is taken out. -/
theorem erase_insert_of_ne (hne : key ≠ other) (d : Directory κ α)
    (value : α) :
    (d.insert key value).erase other = (d.erase other).insert key value :=
  congrArg Directory.mk (filter_put hne value d.entries)

/-- Values under two keys are put in either order, if one of them is there. -/
private theorem put_put_comm (hne : key ≠ other) (value value' : α)
    {entries : List (κ × α)} (hin : find key entries ≠ none) :
    put other value' (put key value entries)
      = put key value (put other value' entries) := by
  induction entries with
  | nil => exact absurd rfl hin
  | cons entry rest ih =>
      obtain ⟨k, a⟩ := entry
      by_cases hk : k = key
      · subst hk
        simp [put, hne]
      · have hrest : find key rest ≠ none := by simpa [find, hk] using hin
        by_cases ho : k = other
        · subst ho
          simp [put, hk]
        · simp [put, hk, ho, ih hrest]

/-- Only new keys are added at the end, so values under two keys can be put in
either order, if one of the keys is there. -/
theorem insert_insert_comm (hne : key ≠ other) (value value' : α)
    (hin : d.get? key ≠ none) :
    (d.insert key value).insert other value'
      = (d.insert other value').insert key value :=
  congrArg Directory.mk (put_put_comm hne value value' hin)

/-- Values under two keys are changed in either order. -/
private theorem modify_modify_comm (hne : key ≠ other) (d : Directory κ α)
    (change change' : α → α) :
    (d.modify key change).modify other change'
      = (d.modify other change').modify key change := by
  unfold modify
  cases hkey : d.get? key with
  | none =>
      cases hother : d.get? other with
      | none => simp only [hkey]
      | some b => simp only [get?_insert, hkey, hne.symm, if_false]
  | some a =>
      cases hother : d.get? other with
      | none => simp only [get?_insert, hkey, hother, hne, if_false]
      | some b =>
          simp only [get?_insert, hkey, hother, hne, hne.symm, if_false]
          exact insert_insert_comm hne _ _ (by simp [hkey])

end Directory

-- ============================================ the order of the journal

namespace Cluster

/-- Two clusters are the same but for the order of the entries in the
journal. -/
structure Reordered (c d : Cluster) : Prop where
  rest : d.clearJournal = c.clearJournal
  journal : d.journal.Perm c.journal

/-- To be the same but for the order of the journal is an equivalence. -/
private theorem equivalence_reordered : Equivalence Reordered where
  refl _ := ⟨rfl, .refl _⟩
  symm h := ⟨h.rest.symm, h.journal.symm⟩
  trans h h' := ⟨h'.rest.trans h.rest, h'.journal.trans h.journal⟩

/-- Of two such clusters, each is the other with another journal. -/
private theorem Reordered.eq {c d : Cluster} (h : Reordered c d) :
    d = { c with journal := d.journal } :=
  congrArg (fun e : Cluster => { e with journal := d.journal }) h.rest

end Cluster

-- ================================================== what a finish does

/-- What the answer to a request of a finish does to a cluster. -/
inductive FinishStep where
  | nothing
  /-- A node finished its branch. -/
  | release (node : Node) (commit : Bool)
  /-- A finished branch left the entry. -/
  | strike (node : Node) (commit : Bool)
  /-- The local node finished its record. -/
  | unrecord (commit : Bool)
  /-- The entry changed its status. -/
  | settle (status : TransactionStatus)

namespace FinishStep

/-- The branches after a step. -/
def branches (gid : Gid) (b : Directory Gid NodeSet) :
    FinishStep → Directory Gid NodeSet
  | .release node _ => Cluster.branchesWithout b gid ((b.get? gid).getD ∅) node
  | _ => b

/-- The registry after a step. -/
def registry (gid : Gid) (r : Directory Gid RegistryEntry) :
    FinishStep → Directory Gid RegistryEntry
  | .strike node commit => r.modify gid fun e => e.withoutBranch node commit
  | .settle status => r.modify gid fun e => e.withStatus status
  | _ => r

/-- The session after a step. -/
def session (gid : Gid) (s : LocalSession) : FinishStep → LocalSession
  | .unrecord commit =>
      { s with status := Cluster.statusAfterFinish s gid commit }
  | _ => s

/-- The local records after a step. -/
def localRecords (gid : Gid) (records : List Gid) : FinishStep → List Gid
  | .unrecord _ => records.filter fun g => g ≠ gid
  | _ => records

/-- The journal after a step. -/
def journal (gid : Gid) (events : List Cluster.Event) :
    FinishStep → List Cluster.Event
  | .release node commit => events ++ [.branchFinished node gid commit]
  | .unrecord commit => events ++ [.localFinish gid commit]
  | _ => events

-- ================================================ each place by itself

variable {g gid : Gid}

/-- A finish leaves a session alone that does not bear its identifier. -/
theorem session_unrecord_of_ne (s : LocalSession)
    (hgid : s.globalId ≠ some gid) (commit : Bool) :
    (unrecord commit).session gid s = s := by
  have hstatus : Cluster.statusAfterFinish s gid commit = s.status :=
    if_neg fun h => hgid h.1
  show { s with status := Cluster.statusAfterFinish s gid commit } = s
  rw [hstatus]

/-- Two steps change the local records in either order. -/
private theorem localRecords_comm (step step' : FinishStep)
    (records : List Gid) :
    step'.localRecords gid (step.localRecords g records)
      = step.localRecords g (step'.localRecords gid records) := by
  cases step with
  | unrecord commit =>
      cases step' with
      | unrecord commit' =>
          show (records.filter _).filter _ = (records.filter _).filter _
          rw [List.filter_filter, List.filter_filter]
          simp only [Bool.and_comm]
      | _ => rfl
  | _ => rfl

/-- A step enters the same into a journal in another order. -/
private theorem journal_perm (step : FinishStep)
    {events events' : List Cluster.Event} (h : events.Perm events') :
    (step.journal gid events).Perm (step.journal gid events') := by
  cases step with
  | release node commit => exact h.append_right _
  | unrecord commit => exact h.append_right _
  | _ => exact h

/-- Two entries come in either order. -/
theorem journal_comm (step step' : FinishStep) (events : List Cluster.Event) :
    (step'.journal gid (step.journal g events)).Perm
      (step.journal g (step'.journal gid events)) := by
  have hswap (e e' : Cluster.Event) :
      (events ++ [e] ++ [e']).Perm (events ++ [e'] ++ [e]) := by
    rw [List.append_assoc, List.append_assoc]
    exact List.perm_append_comm.append_left events
  cases step with
  | release node commit =>
      cases step' with
      | release | unrecord => exact hswap _ _
      | _ => exact .refl _
  | unrecord commit =>
      cases step' with
      | release | unrecord => exact hswap _ _
      | _ => exact .refl _
  | _ => exact .refl _

section apart

variable (hne : g ≠ gid) (step step' : FinishStep)
include hne

/-- A step leaves the branches of another transaction alone. -/
private theorem get?_branches_of_ne (b : Directory Gid NodeSet) :
    (step.branches g b).get? gid = b.get? gid := by
  cases step with
  | release node commit =>
      show (Cluster.branchesWithout b g _ node).get? gid = _
      unfold Cluster.branchesWithout
      dsimp only
      split <;> simp [hne]
  | _ => rfl

/-- A step leaves the entry of another transaction alone. -/
private theorem get?_registry_of_ne (r : Directory Gid RegistryEntry) :
    (step.registry g r).get? gid = r.get? gid := by
  cases step with
  | strike | settle =>
      unfold registry
      rw [Directory.get?_modify, if_neg hne]
  | _ => rfl

/-- A step leaves the record of another transaction alone. -/
private theorem mem_localRecords_of_ne (records : List Gid) :
    gid ∈ step.localRecords g records ↔ gid ∈ records := by
  cases step with
  | unrecord commit =>
      show gid ∈ records.filter (fun x => x ≠ g) ↔ _
      simp [hne.symm]
  | _ => exact Iff.rfl

/-- A transaction whose last branch is released leaves the directory, and one
with branches left is there already: neither moves the other one. -/
theorem release_comm (b : Directory Gid NodeSet) (node node' : Node)
    (commit commit' : Bool) :
    (release node' commit').branches gid ((release node commit).branches g b)
      = (release node commit).branches g
        ((release node' commit').branches gid b) := by
  have hheld := get?_branches_of_ne hne (.release node commit) b
  have hheld' := get?_branches_of_ne hne.symm (.release node' commit') b
  unfold branches at hheld hheld' ⊢
  dsimp only at hheld hheld' ⊢
  rw [hheld, hheld']
  unfold Cluster.branchesWithout
  dsimp only
  cases hrest : (((b.get? g).getD ∅).erase node).isEmpty with
  | true =>
      cases hrest' : (((b.get? gid).getD ∅).erase node').isEmpty with
      | true => exact Directory.erase_erase_comm b g gid
      | false => exact (Directory.erase_insert_of_ne hne.symm b _).symm
  | false =>
      cases hrest' : (((b.get? gid).getD ∅).erase node').isEmpty with
      | true => exact Directory.erase_insert_of_ne hne b _
      | false =>
          refine Directory.insert_insert_comm hne _ _ fun hnone => ?_
          rw [hnone] at hrest
          cases hrest

/-- Two steps change the branches in either order. -/
private theorem branches_comm (b : Directory Gid NodeSet) :
    step'.branches gid (step.branches g b)
      = step.branches g (step'.branches gid b) := by
  cases step with
  | release node commit =>
      cases step' with
      | release node' commit' =>
          exact release_comm hne b node node' commit commit'
      | _ => rfl
  | _ => rfl

/-- Two steps change the registry in either order. -/
private theorem registry_comm (r : Directory Gid RegistryEntry) :
    step'.registry gid (step.registry g r)
      = step.registry g (step'.registry gid r) := by
  cases step with
  | strike node commit =>
      cases step' with
      | strike node' commit' => exact Directory.modify_modify_comm hne r _ _
      | settle status' => exact Directory.modify_modify_comm hne r _ _
      | _ => rfl
  | settle status =>
      cases step' with
      | strike node' commit' => exact Directory.modify_modify_comm hne r _ _
      | settle status' => exact Directory.modify_modify_comm hne r _ _
      | _ => rfl
  | _ => rfl

/-- A session bears one identifier at most, so one of two finishes leaves it
alone. -/
theorem session_comm (s : LocalSession) :
    step'.session gid (step.session g s)
      = step.session g (step'.session gid s) := by
  cases step with
  | unrecord commit =>
      cases step' with
      | unrecord commit' =>
          -- neither finish changes the identifier
          by_cases hgid : s.globalId = some g
          · have hother : s.globalId ≠ some gid := by
              rw [hgid]
              exact fun h => hne (Option.some.inj h)
            rw [session_unrecord_of_ne _ hother commit']
            exact session_unrecord_of_ne ((unrecord commit).session g s)
              hother commit'
          · rw [session_unrecord_of_ne _ hgid commit]
            exact (session_unrecord_of_ne ((unrecord commit').session gid s)
              hgid commit).symm
      | _ => rfl
  | _ => rfl

end apart

end FinishStep

-- ================================================== steps of a cluster

namespace Cluster

variable {c d : Cluster} {g gid : Gid} {step step' : FinishStep}

/-- The cluster after a step of a finish. -/
def take (c : Cluster) (gid : Gid) (step : FinishStep) : Cluster :=
  { c with
    branches := step.branches gid c.branches
    registry := step.registry gid c.registry
    session := step.session gid c.session
    localRecords := step.localRecords gid c.localRecords
    journal := step.journal gid c.journal }

/-- A step does the same to a cluster whose journal is in another order. -/
theorem Reordered.take (h : Reordered c d) (gid : Gid) (step : FinishStep) :
    Reordered (c.take gid step) (d.take gid step) := by
  have hjournal := h.journal
  rw [h.eq] at hjournal ⊢
  exact ⟨rfl, FinishStep.journal_perm step hjournal⟩

/-- Steps about different transactions can be taken in either order. -/
theorem reordered_take (hne : g ≠ gid) (c : Cluster)
    (step step' : FinishStep) :
    Reordered ((c.take g step).take gid step')
      ((c.take gid step').take g step) := by
  refine ⟨?_, FinishStep.journal_comm step' step c.journal⟩
  simp only [take, clearJournal, FinishStep.branches_comm hne,
    FinishStep.registry_comm hne, FinishStep.session_comm hne]
  rw [FinishStep.localRecords_comm]

-- =============================================== what a finish goes by

/-- The second cluster looks like the first one to a finish of a
transaction. -/
structure LooksSame (gid : Gid) (c d : Cluster) : Prop where
  faults : d.faults = c.faults
  branches : d.branches.get? gid = c.branches.get? gid
  entry : d.registry.get? gid = c.registry.get? gid
  recorded : gid ∈ d.localRecords ↔ gid ∈ c.localRecords
  inBlock : d.session.inBlock = c.session.inBlock
  objects : d.session.objects = c.session.objects

/-- The order of the journal is nothing that a finish goes by. -/
private theorem Reordered.looksSame (h : Reordered c d) (gid : Gid) :
    LooksSame gid c d := by
  rw [h.eq]
  exact ⟨rfl, rfl, rfl, Iff.rfl, rfl, rfl⟩

/-- A step about another transaction changes nothing of it. -/
theorem looksSame_take (hne : g ≠ gid) (c : Cluster) (step : FinishStep) :
    LooksSame gid c (c.take g step) where
  faults := rfl
  branches := FinishStep.get?_branches_of_ne hne step c.branches
  entry := FinishStep.get?_registry_of_ne hne step c.registry
  recorded := FinishStep.mem_localRecords_of_ne hne step c.localRecords
  inBlock := by cases step <;> rfl
  objects := by cases step <;> rfl

end Cluster

-- ====================================================== requests

/-- The dispatch of a finish of the transaction makes requests like this. -/
def Request.ServesFinish (gid : Gid) : Request → Prop
  | .sessionObjects => True
  | .inBlock => True
  | .lookup g => g = gid
  | .finishBranch _ g _ => g = gid
  | .dropBranch g _ _ => g = gid
  | .finishLocal g _ => g = gid
  | .complete g _ => g = gid
  | _ => False

/-- The step that the answer to such a request takes. -/
def Request.finishStep (c : Cluster) : Request → FinishStep
  | .finishBranch node gid commit =>
      match c.finishFault? node commit with
      | some _ => .nothing
      | none => if node ∈ c.held gid then .release node commit else .nothing
  | .dropBranch _ node commit => .strike node commit
  | .finishLocal gid commit =>
      if gid ∈ c.localRecords then .unrecord commit else .nothing
  | .complete _ status => .settle status
  | _ => .nothing

namespace Cluster

variable {c d : Cluster} {g gid : Gid} {r s : Request}

/-- What the answer to a request of a finish does is its step. -/
private theorem answer_eq_take (hr : r.ServesFinish gid) (c : Cluster) :
    (answer r c).2 = c.take gid (r.finishStep c) := by
  cases r with
  | finishBranch node g commit =>
      obtain rfl : g = gid := hr
      show (c.finishBranch node g commit).2 = _
      rw [finishBranch_eq]
      unfold Request.finishStep
      dsimp only
      cases c.finishFault? node commit with
      | some failure => rfl
      | none =>
          dsimp only
          split <;> rfl
  | finishLocal g commit =>
      obtain rfl : g = gid := hr
      show (c.finishLocal g commit).2 = _
      rw [finishLocal_eq]
      unfold Request.finishStep
      dsimp only
      split <;> rfl
  | dropBranch g node commit =>
      obtain rfl : g = gid := hr
      rfl
  | complete g status =>
      obtain rfl : g = gid := hr
      rfl
  | sessionObjects | inBlock | lookup => rfl
  | _ => exact False.elim hr

/-- Clusters that look the same to a finish answer it alike. -/
theorem LooksSame.answer (h : LooksSame gid c d) (hr : r.ServesFinish gid) :
    (answer r d).1 = (answer r c).1 ∧ r.finishStep d = r.finishStep c := by
  cases r with
  | sessionObjects => exact ⟨h.objects, rfl⟩
  | inBlock => exact ⟨h.inBlock, rfl⟩
  | lookup g =>
      obtain rfl : g = gid := hr
      refine ⟨?_, rfl⟩
      show d.lookup g = c.lookup g
      unfold lookup
      rw [h.entry]
  | finishBranch node g commit =>
      obtain rfl : g = gid := hr
      have hfault : d.finishFault? node commit
          = c.finishFault? node commit := by
        unfold finishFault? unreachable?
        rw [h.faults]
      have hheld : d.held g = c.held g := by
        unfold held
        rw [h.branches]
      refine ⟨?_, ?_⟩
      · show (d.finishBranch node g commit).1
            = (c.finishBranch node g commit).1
        rw [finishBranch_eq, finishBranch_eq, hfault, hheld]
        split
        · rfl
        · split <;> rfl
      · unfold Request.finishStep
        dsimp only
        rw [hfault, hheld]
  | finishLocal g commit =>
      obtain rfl : g = gid := hr
      refine ⟨?_, ?_⟩
      · show (d.finishLocal g commit).1 = (c.finishLocal g commit).1
        rw [finishLocal_eq, finishLocal_eq]
        simp only [h.recorded]
        split <;> rfl
      · unfold Request.finishStep
        simp only [h.recorded]
  | dropBranch | complete => exact ⟨rfl, rfl⟩
  | _ => exact False.elim hr

/-- The order of the journal does not matter to a finish. -/
theorem respects_reordered (gid : Gid) :
    Respects Cluster.answer Reordered (Request.ServesFinish gid) := by
  intro r c d hr h
  obtain ⟨hreply, hstep⟩ := (h.looksSame gid).answer hr
  rw [answer_eq_take hr, answer_eq_take hr, hstep]
  exact ⟨hreply, h.take gid _⟩

/-- Requests of finishes of different transactions commute. -/
theorem commutes_requests (hne : g ≠ gid) (hr : r.ServesFinish g)
    (hs : s.ServesFinish gid) (c : Cluster) :
    Commutes Cluster.answer Reordered (request r) (request s) c := by
  have hfirst := (looksSame_take hne.symm c (s.finishStep c)).answer hr
  have hsecond := (looksSame_take hne c (r.finishStep c)).answer hs
  rw [← answer_eq_take hs] at hfirst
  rw [← answer_eq_take hr] at hsecond
  refine ⟨⟨congrArg Except.ok hfirst.1, rfl, trivial⟩,
    ⟨congrArg Except.ok hsecond.1, rfl, trivial⟩, ?_⟩
  show Reordered (Cluster.answer s (Cluster.answer r c).2).2
    (Cluster.answer r (Cluster.answer s c).2).2
  rw [answer_eq_take hs, answer_eq_take hr (Cluster.answer s c).2, hfirst.2,
    hsecond.2, answer_eq_take hr, answer_eq_take hs]
  exact reordered_take hne c _ _

end Cluster

-- ====================================================== the commands

variable {config config' : Configuration} {i i' : Interceptor}
  {call call' : Call} {gid gid' : Gid} {commit commit' : Bool} {c : Cluster}

/-- The dispatch of a command asks for the session objects and for an open
block, and then what the command asks. -/
theorem asks_dispatch_command {asks : Request → Prop}
    {command : TransactionCommand} (hs : call.statement = .transaction command)
    (hobjects : asks .sessionObjects) (hblock : asks .inBlock)
    (hrun : Asks asks (command.run call.context)) :
    Asks asks (dispatch config i call) := by
  have hgate : Asks asks (passGate config call) :=
    (within_passGate hblock config call).imp fun _ _ => trivial
  have hcarried : Asks asks (call.carriedOut config i) := by
    rw [carriedOut_command hs, runLocally_command hs]
    refine Asks.bind hrun fun tag => ?_
    cases tag with
    | none => trivial
    | some text => exact asks_tellTag call text
  have hrest : Asks asks (Program.bind (passGate config call) fun _ =>
      call.carriedOut config i) :=
    Asks.bind hgate fun _ => hcarried
  have hprocess : Asks asks
      (process config (fun s => dispatch config i (call.sub s)) call) := by
    refine Asks.bind (asks_classify hobjects call.statement) fun level => ?_
    dsimp only
    split <;> exact hrest
  exact dispatch_of_process (fun _ => trivial) (fun _ _ hp => hp)
    (fun _ hp => hp) fun _ => hprocess

/-- The dispatch of a finish makes the requests of a finish. -/
private theorem asks_dispatch_finish
    (hs : call.statement = .transaction (.finish gid commit)) :
    Asks (Request.ServesFinish gid) (dispatch config i call) := by
  have htreats : TreatsFinish (Request.ServesFinish gid) gid :=
    ⟨rfl, fun _ _ => rfl, fun _ _ => rfl, fun _ => rfl, fun _ => rfl⟩
  exact asks_dispatch_command hs trivial trivial
    (asks_run_finish htreats commit call.context)

/-- A finish leaves what is held of every other transaction alone. -/
theorem holding_dispatch_finish_of_ne
    (hs : call.statement = .transaction (.finish gid commit)) {g : Gid}
    (hne : gid ≠ g) (c : Cluster) :
    (c.perform (dispatch config i call)).2.holding g = c.holding g := by
  refine holding_dispatch_of_ne (fun command hcommand hgid => ?_) config i c
  rw [hs] at hcommand
  obtain rfl := Statement.transaction.inj hcommand
  have hsame : gid = g := by cases commit <;> exact Option.some.inj hgid
  exact hne hsame

/-- COMMIT PREPARED or ROLLBACK PREPARED of two different transactions can be
dispatched in either order: each ends as it does alone and tells the client the
same, and the clusters after both differ in the order of the journal at most.
Neither of them changes what is held of any transaction but its own. -/
theorem finishes_commute
    (hs : call.statement = .transaction (.finish gid commit))
    (hs' : call'.statement = .transaction (.finish gid' commit'))
    (hne : gid ≠ gid') (config config' : Configuration) (i i' : Interceptor)
    (c : Cluster) :
    let p := dispatch config i call
    let q := dispatch config' i' call'
    let afterFirst := Program.run answer p c
    let afterSecond := Program.run answer q c
    let thenSecond := Program.run answer q afterFirst.world
    let thenFirst := Program.run answer p afterSecond.world
    (thenFirst.result = afterFirst.result ∧
        thenFirst.told = afterFirst.told) ∧
      (thenSecond.result = afterSecond.result ∧
        thenSecond.told = afterSecond.told) ∧
      thenSecond.world.Reordered thenFirst.world ∧
      (∀ g, g ≠ gid → afterFirst.world.holding g = c.holding g) ∧
      ∀ g, g ≠ gid' → afterSecond.world.holding g = c.holding g := by
  have hcommutes : Commutes answer Cluster.Reordered (dispatch config i call)
      (dispatch config' i' call') c :=
    Program.commutes_of_asks Cluster.equivalence_reordered
      (Cluster.respects_reordered gid) (Cluster.respects_reordered gid')
      (fun r s w hr => Cluster.commutes_requests hne hr (c := w))
      (asks_dispatch_finish hs) (asks_dispatch_finish hs') c
  exact ⟨⟨hcommutes.first.result, hcommutes.first.told⟩,
    ⟨hcommutes.second.result, hcommutes.second.told⟩, hcommutes.worlds,
    fun g hg => holding_dispatch_finish_of_ne hs hg.symm c,
    fun g hg => holding_dispatch_finish_of_ne hs' hg.symm c⟩

/-- Two transactions with branches on one node. A node of the first one is out
of reach. -/
def sharedNode : Cluster :=
  .reached .standard ""
    [.client (.begin []), .touch ["dn1", "dn2"], .client (.prepare "g"),
     .client (.begin []), .touch ["dn1"], .client (.prepare "h"),
     .setFaults { Faults.none with transport := NodeSet.insert ∅ "dn2" }]

/-- The dispatch of a finish from a client. -/
def finishFor (gid : Gid) (commit : Bool) : Program Unit :=
  dispatch .standard .none
    ⟨.transaction (.finish gid commit), "",
      .topLevel .coordinator, true, false⟩

/-- The commit that stops at a node and the rollback of the other transaction
commute. -/
theorem finishes_commute_sharedNode :
    let afterCommit :=
      (Program.run answer (finishFor "g" true) sharedNode).world
    let afterRollback :=
      (Program.run answer (finishFor "h" false) sharedNode).world
    (∃ failure,
        (Program.run answer (finishFor "g" true) afterRollback).result
          = .error failure) ∧
      (Program.run answer (finishFor "h" false) afterCommit).result = .ok () ∧
      Cluster.Event.branchFinished "dn1" "g" true ∈ afterCommit.journal ∧
      (Program.run answer (finishFor "h" false) afterCommit).world.Reordered
        (Program.run answer (finishFor "g" true) afterRollback).world := by
  obtain ⟨⟨hcommit, _⟩, ⟨hrollback, _⟩, hworlds, _⟩ :=
    @finishes_commute
      ⟨.transaction (.finish "g" true), "",
        .topLevel .coordinator, true, false⟩
      ⟨.transaction (.finish "h" false), "",
        .topLevel .coordinator, true, false⟩
      "g" "h" true false rfl rfl (by decide) .standard .standard .none .none
      sharedNode
  exact ⟨⟨_, hcommit⟩, hrollback, by decide, hworlds⟩

end ClusterUtility
