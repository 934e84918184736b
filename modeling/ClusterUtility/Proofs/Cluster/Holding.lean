/-
What a cluster holds of one transaction, and who can change it.

# The holding

Two-phase commit keeps four things about a global transaction, each in a
place of its own: the nodes with a prepared branch, the registry's entry, the
record on the local node, and, for those who look back, the finishes in the
journal. `Cluster.holding` puts them side by side. Everything that is claimed
about the fate of a transaction is claimed about its holding, and a holding
says nothing of the session, so what a session loses cannot change it.

# Who can change it

`Request.Concerns` names the requests that touch the holding of a
transaction. All others leave it alone, whatever the state of the cluster
(`holding_answer`). The rest of the file says what the requests that do
concern a transaction make of its holding, one lemma each.
-/
import ClusterUtility.Proofs.Cluster.Reaction

namespace ClusterUtility

-- ====================================================== sets of nodes

namespace NodeSet

/-- Takes every node of a list out. -/
def eraseAll (s : NodeSet) (nodes : List Node) : NodeSet :=
  nodes.foldl erase s

/-- What is left of a set are the nodes that are not on the list. -/
@[simp] theorem mem_eraseAll {s : NodeSet} {nodes : List Node} {node : Node} :
    node ∈ s.eraseAll nodes ↔ node ∈ s ∧ node ∉ nodes := by
  induction nodes generalizing s with
  | nil => simp [eraseAll]
  | cons n rest ih =>
      show node ∈ (s.erase n).eraseAll rest ↔ _
      rw [ih, mem_erase, List.mem_cons, not_or, and_assoc]

/-- A set lists no node twice. -/
theorem nodes_nodup (s : NodeSet) : s.nodes.Nodup := by
  refine s.ascending.imp fun {a b} (hlt : a < b) (heq : a = b) => ?_
  rw [heq] at hlt
  exact String.lt_irrefl b hlt

/-- A set that lists no node is the empty one. -/
private theorem eq_empty_of_isEmpty {s : NodeSet}
    (h : s.isEmpty = true) : s = ∅ := by
  obtain ⟨nodes, ascending⟩ := s
  have hnil : nodes = [] := List.isEmpty_iff.mp h
  subst hnil
  rfl

end NodeSet

-- ====================================================== finishes

namespace Cluster.Event

/-- How a transaction is finished by an entry of the journal, if the entry is
a finish of one of its branches or of its local record. -/
def finish? (gid : Gid) : Event → Option Bool
  | .branchFinished _ g commit => if g = gid then some commit else none
  | .localFinish g commit => if g = gid then some commit else none
  | _ => none

end Cluster.Event

-- ====================================================== holdings

/-- What a cluster holds of one transaction. -/
structure Holding where
  /-- The nodes with a prepared branch. -/
  branches : NodeSet
  /-- The entry of the registry. -/
  entry : Option RegistryEntry
  /-- The local node has a record of its own. -/
  recorded : Bool
  /-- The finishes of branches and of the local record, in order. -/
  finishes : List Cluster.Event

namespace Holding

/-- The transaction of the entry, if it waits to be finished. -/
def waiting (h : Holding) : Option PreparedTransaction :=
  match h.entry with
  | some entry =>
      if entry.status = .prepared then some entry.transaction else none
  | none => none

/-- A node prepared its branch. -/
def hold (h : Holding) (node : Node) : Holding :=
  { h with branches := h.branches.insert node }

/-- A node finished its branch. -/
def release (h : Holding) (gid : Gid) (commit : Bool)
    (node : Node) : Holding :=
  { h with
    branches := h.branches.erase node
    finishes := h.finishes ++ [.branchFinished node gid commit] }

/-- A finished branch left the entry. -/
def strike (h : Holding) (commit : Bool) (node : Node) : Holding :=
  { h with entry := h.entry.map fun e => e.withoutBranch node commit }

/-- The registry took an entry in. -/
def enter (h : Holding) (t : PreparedTransaction) : Holding :=
  { h with entry := some ⟨t, .prepared⟩ }

/-- The entry changed its status. -/
def settle (h : Holding) (status : TransactionStatus) : Holding :=
  { h with entry := h.entry.map fun e => e.withStatus status }

/-- The local node finished its record. -/
def unrecord (h : Holding) (gid : Gid) (commit : Bool) : Holding :=
  { h with
    recorded := false
    finishes := h.finishes ++ [.localFinish gid commit] }

end Holding

namespace Cluster

/-- The finishes of a transaction in the journal, in order. -/
def finishes (c : Cluster) (gid : Gid) : List Event :=
  c.journal.filter fun e => (e.finish? gid).isSome

/-- What the cluster holds of a transaction. -/
def holding (c : Cluster) (gid : Gid) : Holding :=
  ⟨c.held gid, c.registry.get? gid, c.localRecords.contains gid,
    c.finishes gid⟩

/-- The nodes that are listed are those that hold a branch. -/
theorem mem_branchNodes {c : Cluster} {gid : Gid} {node : Node} :
    node ∈ c.branchNodes gid ↔ node ∈ c.held gid := by
  unfold branchNodes held
  cases c.branches.get? gid with
  | none => simp [NodeSet.not_mem_empty]
  | some nodes => exact Iff.rfl

/-- The registry offers for finishing what the holding has waiting. -/
theorem lookup_eq (c : Cluster) (gid : Gid) :
    c.lookup gid = (c.holding gid).waiting := rfl

/-- What waits hangs on the registry alone. -/
theorem lookup_congr {c d : Cluster}
    (h : d.registry = c.registry) (gid : Gid) :
    d.lookup gid = c.lookup gid := by
  unfold lookup
  rw [h]

/-- The branches are those that the nodes hold. -/
@[simp] theorem holding_branches (c : Cluster) (gid : Gid) :
    (c.holding gid).branches = c.held gid := rfl

/-- A record is there if it is among those of the local node. -/
@[simp] theorem holding_recorded (c : Cluster) (gid : Gid) :
    (c.holding gid).recorded = true ↔ gid ∈ c.localRecords :=
  List.contains_iff_mem

-- ================================================ what leaves it alone

/-- One more entry of the journal is one more finish, or none. -/
theorem finishes_record (c : Cluster) (event : Event) (gid : Gid) :
    (c.record event).finishes gid
      = c.finishes gid
        ++ (if (event.finish? gid).isSome then [event] else []) := by
  unfold finishes record
  rw [List.filter_append]
  by_cases h : (event.finish? gid).isSome = true <;> simp [h]

/-- An entry of the journal that is no finish of the transaction does not
show. -/
theorem holding_record {c : Cluster} {event : Event} {gid : Gid}
    (h : event.finish? gid = none) :
    (c.record event).holding gid = c.holding gid := by
  have hfin : (c.record event).finishes gid = c.finishes gid := by
    rw [finishes_record, h]
    simp
  show Holding.mk _ _ _ ((c.record event).finishes gid) = _
  rw [hfin]
  rfl

end Cluster

-- ====================================================== concern

namespace Request

/-- Whether a request can change what is held of a transaction. -/
def Concerns (gid : Gid) : Request → Prop
  | .prepareBlock g => g = gid
  | .finishLocal g _ => g = gid
  | .prepareBranch _ g => g = gid
  | .finishBranch _ g _ => g = gid
  | .register t => t.gid = gid
  | .dropBranch g _ _ => g = gid
  | .complete g _ => g = gid
  | _ => False

/-- Where an entry is all there is to an answer, it is no finish. -/
theorem finish?_of_entry {r : Request} {event : Cluster.Event}
    (h : r.entry? = some event) (gid : Gid) : event.finish? gid = none := by
  cases r with
  | createStorage | createForeignTable | checkOwnership | checkpoint
  | advanceCommand =>
      obtain rfl := Option.some.inj h
      rfl
  | beginRemote | setSessionOption | cleanConnections | endBarrier
  | recordBarrier =>
      obtain rfl := Option.some.inj h
      rfl
  | _ => cases h

end Request

namespace Cluster

-- ====================================================== branches

/-- Whether a branch on a node would not finish now, held or not. -/
def blocked (c : Cluster) (commit : Bool) (node : Node) : Bool :=
  (c.finishFault? node commit).isSome

/-- What is set to fail decides it. -/
theorem blocked_congr {c d : Cluster} (hf : d.faults = c.faults)
    (commit : Bool) : d.blocked commit = c.blocked commit := by
  funext node
  unfold blocked finishFault? unreachable?
  rw [hf]

/-- What is set to fail decides who prepares, too. -/
theorem prepareFault?_congr {c d : Cluster} (hf : d.faults = c.faults) :
    d.prepareFault? = c.prepareFault? := by
  funext node
  unfold prepareFault? unreachable?
  rw [hf]

/-- Branches of another transaction stay as they are. -/
theorem held_branchesWithout_of_ne (c : Cluster) {g gid : Gid} (node : Node)
    (hne : g ≠ gid) :
    ((branchesWithout c.branches g (c.held g) node).get? gid).getD ∅
      = c.held gid := by
  unfold branchesWithout
  dsimp only
  split <;> simp [held, hne]

/-- Of the transaction itself, the node that finished is taken out. -/
private theorem held_branchesWithout (c : Cluster) (gid : Gid) (node : Node) :
    ((branchesWithout c.branches gid (c.held gid) node).get? gid).getD ∅
      = (c.held gid).erase node := by
  unfold branchesWithout
  dsimp only
  split
  next hempty => simp [NodeSet.eq_empty_of_isEmpty hempty]
  next => simp

/-- A branch that is prepared is held from then on. -/
theorem holding_hold (c : Cluster) (node : Node) (gid : Gid) :
    (c.hold node gid).holding gid = (c.holding gid).hold node := by
  unfold hold
  rw [holding_record rfl]
  simp [holding, held, finishes, Holding.hold]

/-- A branch of another transaction does not count. -/
private theorem holding_hold_of_ne (c : Cluster) (node : Node) {g gid : Gid}
    (hne : g ≠ gid) : (c.hold node g).holding gid = c.holding gid := by
  unfold hold
  rw [holding_record rfl]
  simp [holding, held, finishes, hne]

/-- A branch that is finished is held no longer, and the journal says how. -/
theorem holding_release (c : Cluster) (node : Node) (gid : Gid)
    (commit : Bool) :
    (c.release node gid commit).holding gid
      = (c.holding gid).release gid commit node := by
  have hfin : (c.release node gid commit).finishes gid
      = c.finishes gid ++ [.branchFinished node gid commit] := by
    unfold release
    rw [finishes_record]
    simp [Event.finish?, finishes]
  show Holding.mk (((branchesWithout ..).get? gid).getD ∅) _ _ _ = _
  rw [hfin, held_branchesWithout]
  rfl

/-- The end of a branch of another transaction does not show. -/
private theorem holding_release_of_ne (c : Cluster) (node : Node) {g gid : Gid}
    (commit : Bool) (hne : g ≠ gid) :
    (c.release node g commit).holding gid = c.holding gid := by
  have hfin : (Event.branchFinished node g commit).finish? gid = none := by
    simp [Event.finish?, hne]
  unfold release
  rw [holding_record hfin]
  show Holding.mk (((branchesWithout ..).get? gid).getD ∅) _ _ _ = _
  rw [held_branchesWithout_of_ne c node hne]
  rfl

-- ====================================================== the registry

/-- A transaction that is registered waits to be finished. -/
theorem holding_enter (c : Cluster) (t : PreparedTransaction) :
    (c.enter t).holding t.gid = (c.holding t.gid).enter t := by
  simp [holding, held, finishes, enter, Holding.enter]

/-- The entry of another transaction does not count. -/
private theorem holding_enter_of_ne (c : Cluster) {t : PreparedTransaction}
    {gid : Gid} (hne : t.gid ≠ gid) :
    (c.enter t).holding gid = c.holding gid := by
  simp [holding, held, finishes, enter, hne]

/-- A branch that leaves the entry is struck. -/
theorem holding_dropBranch (c : Cluster) (gid : Gid) (node : Node)
    (commit : Bool) :
    (c.dropBranch gid node commit).holding gid
      = (c.holding gid).strike commit node := by
  simp [holding, held, finishes, dropBranch, Holding.strike]

private theorem holding_dropBranch_of_ne (c : Cluster) {g gid : Gid}
    (node : Node) (commit : Bool) (hne : g ≠ gid) :
    (c.dropBranch g node commit).holding gid = c.holding gid := by
  simp [holding, held, finishes, dropBranch, hne]

/-- An entry that is completed has another status. -/
theorem holding_complete (c : Cluster) (gid : Gid)
    (status : TransactionStatus) :
    (c.complete gid status).holding gid = (c.holding gid).settle status := by
  simp [holding, held, finishes, complete, Holding.settle]

private theorem holding_complete_of_ne (c : Cluster) {g gid : Gid}
    (status : TransactionStatus) (hne : g ≠ gid) :
    (c.complete g status).holding gid = c.holding gid := by
  simp [holding, held, finishes, complete, hne]

-- ==================================================== the local record

/-- A record is written where there was none. -/
theorem prepareBlock_eq_ok_true {c w : Cluster} {gid : Gid}
    (h : c.prepareBlock gid = (.ok true, w)) :
    w = c.writeRecord gid ∧ gid ∉ c.localRecords := by
  cases reacts_of_answer (r := .prepareBlock gid) h with
  | prepares hin hsound hfree => exact ⟨rfl, hfree⟩
  | looks hlooks => cases hlooks
  | notes hentry => cases hentry

/-- A record that is written is there. -/
theorem holding_writeRecord (c : Cluster) (gid : Gid) :
    (c.writeRecord gid).holding gid
      = { c.holding gid with recorded := true } := by
  unfold writeRecord
  rw [holding_record rfl]
  simp [holding, held, finishes, mapSession]

/-- A record of another transaction does not count. -/
private theorem holding_writeRecord_of_ne (c : Cluster) {g gid : Gid}
    (hne : g ≠ gid) : (c.writeRecord g).holding gid = c.holding gid := by
  unfold writeRecord
  rw [holding_record rfl]
  simp [holding, held, finishes, mapSession, hne.symm]

/-- A record that is finished is gone, and the journal says how it ended. -/
theorem holding_unrecord (c : Cluster) (gid : Gid) (commit : Bool) :
    (c.unrecord gid commit).holding gid
      = (c.holding gid).unrecord gid commit := by
  have hfin : (c.unrecord gid commit).finishes gid
      = c.finishes gid ++ [.localFinish gid commit] := by
    unfold unrecord
    rw [finishes_record]
    simp [Event.finish?, finishes, mapSession]
  show Holding.mk _ _ ((c.localRecords.filter fun g => g ≠ gid).contains gid) _
      = _
  rw [hfin]
  simp [Holding.unrecord, holding, held, unrecord, mapSession, record]

/-- The end of another record does not show. -/
private theorem holding_unrecord_of_ne (c : Cluster) {g gid : Gid}
    (commit : Bool) (hne : g ≠ gid) :
    (c.unrecord g commit).holding gid = c.holding gid := by
  have hfin : (Event.localFinish g commit).finish? gid = none := by
    simp [Event.finish?, hne]
  unfold unrecord
  rw [holding_record hfin]
  simp [holding, held, finishes, mapSession, hne.symm]

-- ====================================================== all answers

variable {c d : Cluster} {r : Request} {reply : r.Reply} {gid : Gid}

/-- Rolling back the session does not reach what was prepared. -/
theorem holding_abortTransaction (c : Cluster) (gid : Gid) :
    c.abortTransaction.holding gid = c.holding gid :=
  holding_record (c := c.mapSession _) rfl

/-- A request that does not concern a transaction leaves what is held of it
alone. -/
theorem Reacts.holding (h : c.Reacts r reply d) (hother : ¬ r.Concerns gid) :
    d.holding gid = c.holding gid := by
  cases h with
  | notes hentry _ =>
      exact holding_record (Request.finish?_of_entry hentry gid)
  | runs | defines | alters | sends => exact holding_record (c := c) rfl
  | begins | commits | saves | abortsBranches =>
      exact holding_record (c := c.mapSession _) rfl
  | endsFailed | aborts | preparesFailed =>
      exact holding_abortTransaction c gid
  | stops | writes => exact holding_record rfl
  -- the requests that may concern it
  | prepares => exact holding_writeRecord_of_ne c hother
  | finishes => exact holding_unrecord_of_ne c _ hother
  | holds => exact holding_hold_of_ne c _ hother
  | frees => exact holding_release_of_ne c _ _ hother
  | registers => exact holding_enter_of_ne c hother
  | strikes => exact holding_dropBranch_of_ne c _ _ hother
  | settles => exact holding_complete_of_ne c _ hother
  | _ => rfl

/-- So no answer changes the holding of a transaction that its request does not
concern. -/
theorem holding_answer (hother : ¬ r.Concerns gid) (c : Cluster) :
    (answer r c).2.holding gid = c.holding gid :=
  (reacts_answer r c).holding hother

theorem holding_endBlock (c : Cluster) (gid : Gid) :
    c.endBlock.2.holding gid = c.holding gid :=
  holding_answer (r := .endBlock) id c

theorem holding_abortBlock (c : Cluster) (gid : Gid) :
    c.abortBlock.holding gid = c.holding gid :=
  holding_answer (r := .abortBlock) id c

theorem holding_abortBranches (c : Cluster) (gid : Gid) :
    c.abortBranches.holding gid = c.holding gid :=
  holding_answer (r := .abortBranches) id c

/-- Where the answer is not true, no record is written. -/
theorem holding_prepareBlock {c : Cluster} {g : Gid}
    (h : (c.prepareBlock g).1 ≠ .ok true) (gid : Gid) :
    (c.prepareBlock g).2.holding gid = c.holding gid := by
  revert h
  unfold prepareBlock
  split
  · exact fun _ => rfl
  · split
    · exact fun _ => holding_abortTransaction c gid
    · split
      · exact fun _ => rfl
      · exact fun h => absurd rfl h

end Cluster

end ClusterUtility
