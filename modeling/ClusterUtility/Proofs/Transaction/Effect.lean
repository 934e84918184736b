/-
What the commands of two-phase commit make of a holding.

# Many nodes

PREPARE TRANSACTION and the finishes go through lists of nodes, and what they
do to a holding is what they do for one node, folded over the list. The view
of each fold is given once: which branches it leaves, what it adds to the
finishes, and that it touches nothing else.

# The effects

`Prepared` and `Finished` list all that a client's command can do to the
holding of the transaction that it names. They speak of holdings alone, so
whatever is claimed about the fate of a transaction is proved on them, one
case for each way that a command can end; that the programs have no other
effects is proved beside the programs.
-/
import ClusterUtility.Proofs.Cluster.Holding

namespace ClusterUtility

-- ======================================= what is left of a transaction

namespace PreparedTransaction

/-- A transaction after some of its branches were finished. -/
def without (t : PreparedTransaction) (commit : Bool) (nodes : List Node) :
    PreparedTransaction :=
  { t with
    participants := t.participants.filter fun n => n ∉ nodes
    outcome := if nodes.isEmpty then t.outcome else .ofCommit commit }

/-- Where no branch was finished, the transaction is what it was. -/
@[simp] theorem without_nil (t : PreparedTransaction) (commit : Bool) :
    t.without commit [] = t := by
  have hall : t.participants.filter (fun n => n ∉ []) = t.participants :=
    List.filter_eq_self.mpr (by simp)
  unfold without
  rw [hall]
  rfl

/-- The branches leave one after another. -/
theorem without_cons (t : PreparedTransaction) (commit : Bool) (node : Node)
    (rest : List Node) :
    t.without commit (node :: rest)
      = { t with
          participants := t.participants.filter fun n => n ≠ node
          outcome := .ofCommit commit }.without commit rest := by
  simp [without, List.filter_filter, Bool.and_comm]

/-- Branches that were finished in two turns are finished. -/
theorem without_append (t : PreparedTransaction) (commit : Bool)
    (done more : List Node) :
    (t.without commit done).without commit more
      = t.without commit (done ++ more) := by
  induction done generalizing t with
  | nil => rw [without_nil, List.nil_append]
  | cons node rest ih => rw [without_cons, ih, List.cons_append, without_cons]

/-- Of a list without repetitions, what comes after the finished branches is
left. -/
theorem participants_without {t : PreparedTransaction} {done rest : List Node}
    (hnodup : t.participants.Nodup) (hsplit : t.participants = done ++ rest)
    (commit : Bool) : (t.without commit done).participants = rest := by
  rw [hsplit] at hnodup
  have hapart : ∀ node ∈ rest, node ∉ done := fun node hrest hdone =>
    (List.nodup_append.mp hnodup).2.2 node hdone node hrest rfl
  show t.participants.filter _ = rest
  rw [hsplit, List.filter_append]
  have hdone : done.filter (fun n => n ∉ done) = [] := by simp
  have hrest : rest.filter (fun n => n ∉ done) = rest := by
    rw [List.filter_eq_self]
    intro node hmem
    exact decide_eq_true (hapart node hmem)
  rw [hdone, hrest, List.nil_append]

end PreparedTransaction

namespace Holding

variable {h : Holding} {gid : Gid} {commit : Bool} {nodes : List Node}
  {node : Node} {t : PreparedTransaction}

-- ====================================================== the entry

/-- The registry takes a new entry in: there is none, or it is over. -/
def accepts (h : Holding) : Bool :=
  match h.entry with
  | some entry => entry.status.isTerminal
  | none => true

/-- A transaction waits if its entry says that it is prepared. -/
theorem waiting_eq_some :
    h.waiting = some t ↔ h.entry = some ⟨t, .prepared⟩ := by
  unfold waiting
  cases h.entry with
  | none => simp
  | some entry =>
      obtain ⟨transaction, status⟩ := entry
      by_cases hs : status = .prepared <;> simp [hs]

/-- Two holdings with the same entry wait for the same. -/
theorem waiting_congr {h' : Holding} (heq : h'.entry = h.entry) :
    h'.waiting = h.waiting := by
  unfold waiting
  rw [heq]

/-- Whether the registry takes a new entry in hangs on the entry alone. -/
theorem accepts_congr {h' : Holding} (heq : h'.entry = h.entry) :
    h'.accepts = h.accepts := by
  unfold accepts
  rw [heq]

/-- A finished branch leaves a waiting transaction, which still waits. -/
theorem waiting_strike (hw : h.waiting = some t) (commit : Bool)
    (node : Node) :
    (h.strike commit node).waiting
      = some { t with
          participants := t.participants.filter fun n => n ≠ node
          outcome := .ofCommit commit } := by
  rw [waiting_eq_some] at hw ⊢
  show h.entry.map _ = _
  rw [hw]
  rfl

/-- A waiting transaction that is settled waits no more. -/
theorem entry_settle (hw : h.waiting = some t) (commit : Bool) :
    (h.settle (.ofCommit commit)).entry = some ⟨t, .ofCommit commit⟩ := by
  rw [waiting_eq_some] at hw
  show h.entry.map _ = _
  rw [hw]
  cases commit <;> rfl

/-- The local node wrote a record, if the transaction has one. -/
def recordIf (h : Holding) (record : Bool) : Holding :=
  if record then { h with recorded := true } else h

/-- A record does not change what the registry takes in. -/
@[simp] theorem accepts_recordIf (h : Holding) (record : Bool) :
    (h.recordIf record).accepts = h.accepts := by
  cases record <;> rfl

/-- The local node finished its record, if the transaction has one. -/
def unrecordIf (h : Holding) (record : Bool) (gid : Gid) (commit : Bool) :
    Holding :=
  if record then h.unrecord gid commit else h

-- ====================================================== many nodes

/-- Nodes prepared their branches, one after another. -/
def holdAll (h : Holding) (nodes : List Node) : Holding :=
  nodes.foldl hold h

/-- Nodes finished their branches, one after another. -/
def releaseAll (h : Holding) (gid : Gid) (commit : Bool)
    (nodes : List Node) : Holding :=
  nodes.foldl (fun h node => h.release gid commit node) h

/-- Nodes finished their branches, and each branch left the entry. -/
def finishAll (h : Holding) (gid : Gid) (commit : Bool)
    (nodes : List Node) : Holding :=
  nodes.foldl (fun h node => (h.release gid commit node).strike commit node) h

/-- After nodes prepared their branches, these are held besides the others. -/
theorem mem_holdAll :
    node ∈ (h.holdAll nodes).branches ↔ node ∈ nodes ∨ node ∈ h.branches := by
  induction nodes generalizing h with
  | nil => simp [holdAll]
  | cons n rest ih =>
      show node ∈ ((h.hold n).holdAll rest).branches ↔ _
      rw [ih]
      simp only [hold, NodeSet.mem_insert, List.mem_cons]
      grind

/-- Holding branches changes the branches alone. -/
theorem holdAll_eq (h : Holding) (nodes : List Node) :
    h.holdAll nodes = { h with branches := (h.holdAll nodes).branches } := by
  induction nodes generalizing h with
  | nil => rfl
  | cons n rest ih => exact ih (h.hold n)

/-- Branches do not change what the registry takes in. -/
@[simp] theorem accepts_holdAll (h : Holding) (nodes : List Node) :
    (h.holdAll nodes).accepts = h.accepts := by
  refine accepts_congr ?_
  rw [holdAll_eq]

/-- Branches are prepared and the record is finished in either order. -/
theorem holdAll_unrecord (h : Holding) (gid : Gid) (commit : Bool)
    (nodes : List Node) :
    (h.unrecord gid commit).holdAll nodes
      = (h.holdAll nodes).unrecord gid commit :=
  List.foldl_hom (fun h : Holding => h.unrecord gid commit) fun _ _ => rfl

/-- What finishing branches does without the entry. -/
theorem releaseAll_eq (h : Holding) (gid : Gid) (commit : Bool)
    (nodes : List Node) :
    h.releaseAll gid commit nodes
      = { h with
          branches := h.branches.eraseAll nodes
          finishes := h.finishes
            ++ nodes.map (.branchFinished · gid commit) } := by
  induction nodes generalizing h with
  | nil => simp [releaseAll, NodeSet.eraseAll]
  | cons n rest ih =>
      show (h.release gid commit n).releaseAll gid commit rest = _
      rw [ih]
      simp [release, NodeSet.eraseAll]

/-- What finishing branches does, but to the entry. -/
theorem finishAll_eq (h : Holding) (gid : Gid) (commit : Bool)
    (nodes : List Node) :
    h.finishAll gid commit nodes
      = { h.releaseAll gid commit nodes with
          entry := (h.finishAll gid commit nodes).entry } := by
  induction nodes generalizing h with
  | nil => rfl
  | cons n rest ih =>
      show ((h.release gid commit n).strike commit n).finishAll gid commit rest
        = _
      rw [ih ((h.release gid commit n).strike commit n), releaseAll_eq,
        releaseAll_eq]
      simp [release, strike, NodeSet.eraseAll, finishAll]

/-- Every branch that is finished is entered. -/
theorem finishAll_finishes (h : Holding) (gid : Gid) (commit : Bool)
    (nodes : List Node) :
    (h.finishAll gid commit nodes).finishes
      = h.finishes ++ nodes.map (.branchFinished · gid commit) := by
  rw [finishAll_eq, releaseAll_eq]

/-- A transaction keeps waiting while its branches finish. -/
theorem waiting_finishAll (hw : h.waiting = some t) (gid : Gid) (commit : Bool)
    (nodes : List Node) :
    (h.finishAll gid commit nodes).waiting
      = some (t.without commit nodes) := by
  induction nodes generalizing h t with
  | nil =>
      rw [PreparedTransaction.without_nil]
      exact hw
  | cons n rest ih =>
      rw [PreparedTransaction.without_cons]
      exact ih (waiting_strike (h := h.release gid commit n) hw commit n)

-- ======================================= what PREPARE TRANSACTION does

/-- Branches were prepared, and then undone: all are rolled back but those
that stay, and these are left to the registry, if it takes them. -/
def undo (h : Holding) (gid : Gid) (stays : Node → Bool) (down : Bool)
    (nodes : List Node) : Holding :=
  let freed := h.releaseAll gid false (nodes.filter fun n => !stays n)
  let stuck := nodes.filter stays
  if stuck.isEmpty || down || !h.accepts then freed
  else freed.enter (.rollbackOnly gid stuck)

/-- What undoing does, but to the entry. -/
theorem undo_eq (h : Holding) (gid : Gid) (stays : Node → Bool) (down : Bool)
    (nodes : List Node) :
    h.undo gid stays down nodes
      = { h.releaseAll gid false (nodes.filter fun n => !stays n) with
          entry := (h.undo gid stays down nodes).entry } := by
  unfold undo
  dsimp only
  split <;> rfl

/-- The branches that stay are left. -/
theorem mem_undo {stays : Node → Bool} {down : Bool} :
    node ∈ (h.undo gid stays down nodes).branches ↔
      node ∈ h.branches ∧ (node ∈ nodes → stays node = true) := by
  rw [undo_eq, releaseAll_eq]
  simp only [NodeSet.mem_eraseAll, List.mem_filter]
  grind

/-- Every branch that is rolled back is entered. -/
theorem undo_finishes (h : Holding) (gid : Gid) (stays : Node → Bool)
    (down : Bool) (nodes : List Node) :
    (h.undo gid stays down nodes).finishes
      = h.finishes
        ++ (nodes.filter fun n => !stays n).map
          (.branchFinished · gid false) := by
  rw [undo_eq, releaseAll_eq]

/-- Undoing what was just prepared leaves the entry alone, or the registry
takes in what stays. -/
theorem undone_cases (h : Holding) (gid : Gid) (stays : Node → Bool)
    (down : Bool) (nodes : List Node) :
    (((h.holdAll nodes).undo gid stays down nodes).entry = h.entry ∧
        (nodes.filter stays = [] ∨ down = true ∨ h.accepts = false)) ∨
      ((h.holdAll nodes).undo gid stays down nodes).waiting
        = some (.rollbackOnly gid (nodes.filter stays)) := by
  unfold undo
  dsimp only
  split
  next hleft =>
    refine .inl ⟨?_, ?_⟩
    · rw [releaseAll_eq, holdAll_eq]
    · simp only [accepts_holdAll, Bool.or_eq_true, List.isEmpty_iff,
        Bool.not_eq_true'] at hleft
      exact or_assoc.mp hleft
  next => exact .inr rfl

/-- After undoing, nothing waits but what stays. -/
theorem waiting_undone (hw : h.waiting = none) (gid : Gid)
    (stays : Node → Bool) (down : Bool) (nodes : List Node) :
    ((h.holdAll nodes).undo gid stays down nodes).waiting = none ∨
      ((h.holdAll nodes).undo gid stays down nodes).waiting
        = some (.rollbackOnly gid (nodes.filter stays)) := by
  rcases undone_cases h gid stays down nodes with ⟨hkept, _⟩ | hleft
  · left
    rw [waiting_congr hkept]
    exact hw
  · exact .inr hleft

/-- What PREPARE TRANSACTION from a client makes of a holding that waits for
nothing; `down` says whether the registry is down. -/
inductive Prepared (gid : Gid) (down : Bool) (h : Holding) : Holding → Prop
  /-- It failed before any branch was prepared. -/
  | kept : Prepared gid down h h
  /-- Some branches were prepared, and then undone. -/
  | undone (stays : Node → Bool) {nodes : List Node} (hnodup : nodes.Nodup) :
      Prepared gid down h ((h.holdAll nodes).undo gid stays down nodes)
  /-- All branches and a local record were prepared. The registry refused, so
  the record was rolled back, and then the branches were undone. -/
  | unregistered (stays : Node → Bool) {nodes : List Node}
      (hnodup : nodes.Nodup) (hfree : h.recorded = false)
      (hrefused : down = true ∨ h.accepts = false) :
      Prepared gid down h
        (((h.unrecord gid false).holdAll nodes).undo gid stays down nodes)
  /-- All branches were prepared, with a record or without one, and the
  registry took the transaction in. -/
  | registered {nodes : List Node} (hnodup : nodes.Nodup) (record : Bool)
      (hfree : record = true → h.recorded = false)
      (haccepts : h.accepts = true) :
      Prepared gid down h
        (((h.holdAll nodes).recordIf record).enter
          (.undecided gid nodes record))

-- ================================================== what a finish does

/-- All branches of a transaction were finished, then its record, if it has
one, and its entry is over. -/
def complete (h : Holding) (gid : Gid) (commit : Bool)
    (t : PreparedTransaction) : Holding :=
  ((h.finishAll gid commit t.participants).unrecordIf t.coordinatorRecord gid
    commit).settle (.ofCommit commit)

/-- All branches of a completed transaction are gone. -/
theorem complete_branches (h : Holding) (gid : Gid) (commit : Bool)
    (t : PreparedTransaction) :
    (h.complete gid commit t).branches
      = h.branches.eraseAll t.participants := by
  have hall : (h.finishAll gid commit t.participants).branches
      = h.branches.eraseAll t.participants := by
    rw [finishAll_eq, releaseAll_eq]
  unfold complete unrecordIf
  cases t.coordinatorRecord <;> exact hall

/-- Every branch and the record of a completed transaction are entered. -/
theorem complete_finishes (h : Holding) (gid : Gid) (commit : Bool)
    (t : PreparedTransaction) :
    (h.complete gid commit t).finishes
      = h.finishes
        ++ (t.participants.map (.branchFinished · gid commit)
          ++ if t.coordinatorRecord then [.localFinish gid commit]
            else []) := by
  rw [← List.append_assoc, ← finishAll_finishes]
  unfold complete unrecordIf
  cases t.coordinatorRecord with
  | true => rfl
  | false => exact (List.append_nil _).symm

/-- The entry of a completed transaction is over. -/
theorem complete_entry (hw : h.waiting = some t) (gid : Gid) (commit : Bool) :
    (h.complete gid commit t).entry
      = some ⟨t.without commit t.participants, .ofCommit commit⟩ := by
  have hleft := waiting_finishAll hw gid commit t.participants
  refine entry_settle ?_ commit
  unfold unrecordIf
  cases t.coordinatorRecord <;> exact hleft

/-- A completed transaction does not wait. -/
theorem complete_waiting (hw : h.waiting = some t) (gid : Gid)
    (commit : Bool) : (h.complete gid commit t).waiting = none := by
  unfold waiting
  rw [complete_entry hw]
  cases commit <;> rfl

/-- What COMMIT PREPARED or ROLLBACK PREPARED from a client makes of a
holding, and how it ends; `blocked` says which nodes cannot finish their
branches. -/
inductive Finished (gid : Gid) (commit : Bool) (blocked : Node → Bool)
    (h : Holding) : Except Failure Unit → Holding → Prop
  /-- Nothing waits under the identifier. -/
  | unknown (hw : h.waiting = none) :
      Finished gid commit blocked h (.error (.unknownTransaction gid)) h
  /-- The transaction is bound to the other outcome. -/
  | conflict {t : PreparedTransaction} (hw : h.waiting = some t)
      (hbound : t.outcome.allows commit = false) :
      Finished gid commit blocked h (.error (.outcomeConflict gid t.outcome)) h
  /-- A branch could not be finished, after others were. -/
  | interrupted {t : PreparedTransaction} {done rest : List Node} {node : Node}
      (failure : Failure) (hw : h.waiting = some t)
      (hallows : t.outcome.allows commit = true)
      (hsplit : t.participants = done ++ node :: rest)
      (hstopped : blocked node = true ∨
        node ∉ (h.finishAll gid commit done).branches) :
      Finished gid commit blocked h (.error failure)
        (h.finishAll gid commit done)
  /-- All branches were finished, but the local record was not there. -/
  | recordLost {t : PreparedTransaction} (failure : Failure)
      (hw : h.waiting = some t) (hallows : t.outcome.allows commit = true)
      (hrecord : t.coordinatorRecord = true)
      (hlost : h.recorded = false) :
      Finished gid commit blocked h (.error failure)
        (h.finishAll gid commit t.participants)
  /-- Everything was finished. -/
  | completed {t : PreparedTransaction} (hw : h.waiting = some t)
      (hallows : t.outcome.allows commit = true)
      (hrecord : t.coordinatorRecord = true → h.recorded = true) :
      Finished gid commit blocked h (.ok ()) (h.complete gid commit t)

/-- A finish leaves a holding alone, or comes some way through the branches of
what waits, or completes it. -/
theorem Finished.preserves {blocked : Node → Bool}
    {result : Except Failure Unit} {h' : Holding} {J : Holding → Prop}
    (heffect : Finished gid commit blocked h result h') (hj : J h)
    (hpart : ∀ {t : PreparedTransaction} {done rest : List Node},
      h.waiting = some t → t.outcome.allows commit = true →
      t.participants = done ++ rest → J (h.finishAll gid commit done))
    (hall : ∀ {t : PreparedTransaction},
      h.waiting = some t → t.outcome.allows commit = true →
      J (h.complete gid commit t)) : J h' := by
  cases heffect with
  | unknown hw => exact hj
  | conflict hw hbound => exact hj
  | interrupted failure hw hallows hsplit hstopped =>
      exact hpart hw hallows hsplit
  | recordLost failure hw hallows hrecord hlost =>
      exact hpart hw hallows (List.append_nil _).symm
  | completed hw hallows hrecord => exact hall hw hallows

/-- Where nothing waits, a finish does nothing. -/
theorem Finished.eq_of_waiting_none {blocked : Node → Bool}
    {result : Except Failure Unit} {h' : Holding} (hnone : h.waiting = none)
    (heffect : Finished gid commit blocked h result h') : h' = h := by
  have hnot {t : PreparedTransaction} : h.waiting ≠ some t := by
    rw [hnone]
    nofun
  exact heffect.preserves (J := fun d => d = h) rfl
    (fun hw _ _ => absurd hw hnot) fun hw _ => absurd hw hnot

end Holding

end ClusterUtility
