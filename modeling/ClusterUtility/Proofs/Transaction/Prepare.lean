/-
What PREPARE TRANSACTION from a client does.

# Undoing

Branches that were prepared a moment ago are held, so rolling them back frees
all but those on nodes that cannot roll back now (`perform_rollBackBranches`).
These are what `undone` leaves to the registry.

# The command

Outside of a failed block, the command comes some way and is undone from
there (`Interrupted`), or it registers the transaction. `PrepareEnds` says
what the result and the cluster are in either case, and every fact about the
command is a case analysis on it (`prepareEnds`). The nodes that the command
goes through are those of a set, so none is listed twice, and a branch that
was rolled back is not asked for again.

What it makes of the holding of the transaction, in a failed block or not, is
one of four effects (`prepared_prepareFromClient`).
-/
import ClusterUtility.Proofs.Cluster.Perform
import ClusterUtility.Proofs.Transaction.Effect
import ClusterUtility.Transaction.TwoPhase

namespace ClusterUtility.Cluster

variable {c d : Cluster} {gid : Gid} {nodes prepared : List Node}

-- ====================================================== many nodes

/-- The cluster after nodes prepared their branches. -/
def holdAll (c : Cluster) (gid : Gid) (nodes : List Node) : Cluster :=
  nodes.foldl (fun c node => c.hold node gid) c

/-- The cluster after nodes finished their branches. -/
def releaseAll (c : Cluster) (gid : Gid) (commit : Bool)
    (nodes : List Node) : Cluster :=
  nodes.foldl (fun c node => c.release node gid commit) c

/-- Preparing branches is preparing them in the view of the transaction. -/
theorem holding_holdAll (c : Cluster) (gid : Gid) (nodes : List Node) :
    (c.holdAll gid nodes).holding gid = (c.holding gid).holdAll nodes :=
  (List.foldl_hom (·.holding gid) fun c node =>
    (holding_hold c node gid).symm).symm

/-- Finishing branches is finishing them in the view of the transaction. -/
private theorem holding_releaseAll (c : Cluster) (gid : Gid) (commit : Bool)
    (nodes : List Node) :
    (c.releaseAll gid commit nodes).holding gid
      = (c.holding gid).releaseAll gid commit nodes :=
  (List.foldl_hom (·.holding gid) fun c node =>
    (holding_release c node gid commit).symm).symm

/-- What a branch that is prepared leaves alone, many of them do. -/
theorem keeps_holdAll {τ : Type} (view : Cluster → τ)
    (hhold : ∀ (c : Cluster) node, view (c.hold node gid) = view c)
    (c : Cluster) (nodes : List Node) :
    view (c.holdAll gid nodes) = view c := by
  induction nodes generalizing c with
  | nil => rfl
  | cons node rest ih => exact (ih (c.hold node gid)).trans (hhold c node)

/-- What a branch that is finished leaves alone, many of them do. -/
theorem keeps_releaseAll {τ : Type} (view : Cluster → τ) {commit : Bool}
    (hrelease : ∀ (c : Cluster) node,
      view (c.release node gid commit) = view c)
    (c : Cluster) (nodes : List Node) :
    view (c.releaseAll gid commit nodes) = view c := by
  induction nodes generalizing c with
  | nil => rfl
  | cons node rest ih =>
      exact (ih (c.release node gid commit)).trans (hrelease c node)

/-- Preparing branches leaves the faults alone. -/
@[simp] theorem faults_holdAll (c : Cluster) (gid : Gid) (nodes : List Node) :
    (c.holdAll gid nodes).faults = c.faults :=
  keeps_holdAll (·.faults) (fun _ _ => rfl) c nodes

@[simp] theorem session_holdAll (c : Cluster) (gid : Gid) (nodes : List Node) :
    (c.holdAll gid nodes).session = c.session :=
  keeps_holdAll (·.session) (fun _ _ => rfl) c nodes

/-- Every branch that is prepared is entered. -/
theorem journal_holdAll (c : Cluster) (gid : Gid) (nodes : List Node) :
    (c.holdAll gid nodes).journal
      = c.journal ++ nodes.map fun node => .branchPrepared node gid := by
  induction nodes generalizing c with
  | nil => exact (List.append_nil _).symm
  | cons node rest ih =>
      show ((c.hold node gid).holdAll gid rest).journal = _
      rw [ih]
      show (c.journal ++ [_]) ++ _ = _
      rw [List.append_assoc]
      rfl

@[simp] theorem faults_releaseAll (c : Cluster) (gid : Gid) (commit : Bool)
    (nodes : List Node) : (c.releaseAll gid commit nodes).faults = c.faults :=
  keeps_releaseAll (·.faults) (fun _ _ => rfl) c nodes

-- ====================================================== registering

/-- The registry refuses when it is down, and when what it has is not over. -/
theorem registryFault?_eq_none :
    c.registryFault? gid = none ↔
      c.faults.registryDown = false ∧ (c.holding gid).accepts = true := by
  have hheld : holdsUnfinished c.registry gid = !(c.holding gid).accepts := by
    show _ = !Holding.accepts ⟨_, c.registry.get? gid, _, _⟩
    unfold holdsUnfinished Holding.accepts
    cases c.registry.get? gid <;> simp
  unfold registryFault?
  rw [hheld]
  cases c.faults.registryDown <;> cases (c.holding gid).accepts <;> simp

/-- A registry that refuses is down, or has an entry that is not over. -/
theorem refused_of_registryFault? {failure : Failure}
    (hfault : c.registryFault? gid = some failure) :
    c.faults.registryDown = true ∨ (c.holding gid).accepts = false := by
  have hrefused : ¬ (c.faults.registryDown = false ∧
      (c.holding gid).accepts = true) := by
    intro h
    rw [registryFault?_eq_none.mpr h] at hfault
    cases hfault
  grind

/-- What registering a transaction makes of its view. -/
private theorem holding_register (c : Cluster) (t : PreparedTransaction) :
    (c.register t).2.holding t.gid
      = if c.faults.registryDown || !(c.holding t.gid).accepts then
          c.holding t.gid
        else (c.holding t.gid).enter t := by
  rw [register_eq]
  cases hfault : c.registryFault? t.gid with
  | none =>
      obtain ⟨hup, haccepts⟩ := registryFault?_eq_none.mp hfault
      simp only [hup, haccepts]
      exact holding_enter c t
  | some failure =>
      have hcond : (c.faults.registryDown || !(c.holding t.gid).accepts)
          = true := by
        rcases refused_of_registryFault? hfault with hdown | hfull
        · rw [hdown, Bool.true_or]
        · rw [hfull, Bool.not_false, Bool.or_true]
      simp only [hcond, if_true]

-- ====================================================== undoing

/-- Rolling back branches that are held frees all that can roll back, and
gives the others. -/
theorem perform_rollBackBranches (hnodup : nodes.Nodup)
    (hheld : ∀ node ∈ nodes, node ∈ c.held gid) :
    c.perform (rollBackBranches gid nodes)
      = (.ok (nodes.filter (c.blocked false)),
         c.releaseAll gid false (nodes.filter fun node =>
           !c.blocked false node)) := by
  induction nodes generalizing c with
  | nil => rfl
  | cons node rest ih =>
      obtain ⟨hfresh, hrest⟩ := List.nodup_cons.mp hnodup
      have hnode : node ∈ c.held gid := hheld node (List.mem_cons_self ..)
      rw [rollBackBranches, Program.bind_eq, perform_request_bind]
      have hanswer := finishBranch_eq c node gid false
      cases hfault : c.finishFault? node false with
      | some failure =>
          have hstays : c.blocked false node = true := by
            simp [blocked, hfault]
          rw [hfault] at hanswer
          have htail := ih hrest fun n hn =>
            hheld n (List.mem_cons_of_mem _ hn)
          simp only [answer, hanswer, List.filter_cons, hstays]
          exact perform_bind_of_ok htail _
      | none =>
          have hfree : c.blocked false node = false := by
            simp [blocked, hfault]
          have hsame : (c.release node gid false).blocked false
              = c.blocked false :=
            blocked_congr rfl false
          rw [hfault] at hanswer
          simp only [hnode, if_true] at hanswer
          -- the node is gone from the branches, and the rest does not list it
          have hleft :
              ∀ n ∈ rest, n ∈ (c.release node gid false).held gid := by
            intro n hn
            have hother : n ≠ node := by
              rintro rfl
              exact hfresh hn
            show n ∈ ((c.release node gid false).holding gid).branches
            rw [holding_release]
            exact NodeSet.mem_erase.mpr
              ⟨hheld n (List.mem_cons_of_mem _ hn), hother⟩
          have htail := ih hrest hleft
          rw [hsame] at htail
          simp only [answer, hanswer, List.filter_cons, hfree]
          exact perform_bind_of_ok htail _

/-- The cluster after a prepare was undone on the nodes that had prepared. -/
def undone (c : Cluster) (gid : Gid) (nodes : List Node) : Cluster :=
  let freed := c.releaseAll gid false
    (nodes.filter fun node => !c.blocked false node)
  let stuck := nodes.filter (c.blocked false)
  let left := if stuck.isEmpty then freed
    else (freed.register (.rollbackOnly gid stuck)).2
  left.abortBranches.abortBlock

/-- Undoing ends by aborting what is open. Before that it does what finishing
branches and registering a transaction do. -/
theorem undone_eq {τ : Type} (view : Cluster → τ)
    (hrelease : ∀ (c : Cluster) node, view (c.release node gid false) = view c)
    (hregister : ∀ (c : Cluster) t, view (c.register t).2 = view c)
    (c : Cluster) (nodes : List Node) :
    ∃ left : Cluster, view left = view c ∧
      c.undone gid nodes = left.abortBranches.abortBlock := by
  have hfreed := keeps_releaseAll view hrelease c
    (nodes.filter fun n => !c.blocked false n)
  unfold undone
  dsimp only
  split
  · exact ⟨_, hfreed, rfl⟩
  · exact ⟨_, (hregister ..).trans hfreed, rfl⟩

/-- Undoing a prepare never fails. -/
private theorem perform_undoPrepare (hnodup : nodes.Nodup)
    (hheld : ∀ node ∈ nodes, node ∈ c.held gid) :
    c.perform (undoPrepare gid nodes) = (.ok (), c.undone gid nodes) := by
  unfold undoPrepare
  rw [Program.bind_eq,
    perform_bind_of_ok (perform_rollBackBranches hnodup hheld)]
  unfold undone
  dsimp only
  cases hstuck : (nodes.filter (c.blocked false)).isEmpty with
  | true => rfl
  | false => rfl

/-- What undoing a prepare makes of the view of the transaction. -/
private theorem holding_undone (c : Cluster) (gid : Gid) (nodes : List Node) :
    (c.undone gid nodes).holding gid
      = (c.holding gid).undo gid (c.blocked false)
        c.faults.registryDown nodes := by
  have haccepts :
      ((c.holding gid).releaseAll gid false
          (nodes.filter fun node => !c.blocked false node)).accepts
        = (c.holding gid).accepts := by
    refine Holding.accepts_congr ?_
    rw [Holding.releaseAll_eq]
  have hregister := holding_register
    (c.releaseAll gid false (nodes.filter fun node => !c.blocked false node))
    (.rollbackOnly gid (nodes.filter (c.blocked false)))
  have hgid : (PreparedTransaction.rollbackOnly gid
      (nodes.filter (c.blocked false))).gid = gid := rfl
  simp only [hgid, faults_releaseAll, holding_releaseAll, haccepts]
    at hregister
  unfold undone Holding.undo
  dsimp only
  rw [holding_abortBlock, holding_abortBranches]
  cases hstuck : (nodes.filter (c.blocked false)).isEmpty with
  | true => exact holding_releaseAll ..
  | false => exact hregister

-- ====================================================== the branches

/-- Preparing branches prepares all of them, or undoes those before the first
one that fails. -/
theorem perform_prepareBranches (c : Cluster) (gid : Gid)
    (prepared nodes : List Node) (hheld : ∀ node ∈ prepared, node ∈ c.held gid)
    (hnodup : (prepared ++ nodes).Nodup) :
    (c.perform (prepareBranches gid prepared nodes)
      = (.ok (), c.holdAll gid nodes) ∧
        ∀ node ∈ nodes, c.prepareFault? node = none) ∨
      ∃ done node rest failure,
        nodes = done ++ node :: rest ∧ c.prepareFault? node ≠ none ∧
        c.perform (prepareBranches gid prepared nodes)
          = (.error failure,
            (c.holdAll gid done).undone gid (prepared ++ done)) := by
  induction nodes generalizing c prepared with
  | nil => exact .inl ⟨rfl, fun _ hmem => absurd hmem List.not_mem_nil⟩
  | cons node rest ih =>
      rw [prepareBranches, Program.bind_eq, perform_request_bind]
      have hanswer := prepareBranch_eq c node gid
      cases hfault : c.prepareFault? node with
      | some failure =>
          rw [hfault] at hanswer
          have hundo : c.perform (undoPrepare gid prepared)
              = (.ok (), c.undone gid prepared) :=
            perform_undoPrepare (List.nodup_append.mp hnodup).1 hheld
          refine .inr ⟨[], node, rest,
            .prepareFailed gid failure.node failure.message, rfl, ?_, ?_⟩
          · simp [hfault]
          · simp only [answer, hanswer, List.append_nil]
            exact perform_bind_of_ok hundo _
      | none =>
          rw [hfault] at hanswer
          have hsame : (c.hold node gid).prepareFault? = c.prepareFault? :=
            prepareFault?_congr rfl
          -- the node joins those that a later failure has to undo
          have hjoined : ∀ n ∈ prepared ++ [node],
              n ∈ (c.hold node gid).held gid := by
            intro n hn
            show n ∈ ((c.hold node gid).holding gid).branches
            rw [holding_hold]
            rcases List.mem_append.mp hn with hn | hn
            · exact NodeSet.mem_insert.mpr (.inr (hheld n hn))
            · exact NodeSet.mem_insert.mpr (.inl (List.mem_singleton.mp hn))
          rw [List.append_cons] at hnodup
          have htail :=
            ih (c.hold node gid) (prepared ++ [node]) hjoined hnodup
          simp only [answer, hanswer]
          rw [hsame] at htail
          rcases htail with
            ⟨hok, hall⟩ | ⟨done, other, left, failure, rfl, hstop, hfail⟩
          · refine .inl ⟨hok, fun n hn => ?_⟩
            rcases List.mem_cons.mp hn with rfl | hn
            · exact hfault
            · exact hall n hn
          · refine .inr ⟨node :: done, other, left, failure, rfl, hstop, ?_⟩
            rw [hfail, List.append_assoc]
            rfl

-- ====================================================== the local side

/-- The local side of a transaction ends: with a record where it changed the
catalog, else with a commit. -/
def endLocal (c : Cluster) (gid : Gid) : Except Failure Bool × Cluster :=
  if c.session.touchedCatalog then c.prepareBlock gid
  else (.ok c.endBlock.1, c.endBlock.2)

/-- What ending the local side does to a cluster. -/
private theorem perform_endLocalSide (c : Cluster) (gid : Gid) :
    c.perform (endLocalSide gid c.session.touchedCatalog)
      = (.ok (c.endLocal gid).1, (c.endLocal gid).2) := by
  unfold endLocal
  cases c.session.touchedCatalog <;> rfl

/-- Ending the local side leaves the faults alone. -/
theorem faults_endLocal (c : Cluster) (gid : Gid) :
    (c.endLocal gid).2.faults = c.faults := by
  have honward :=
    (onward_perform c (endLocalSide gid c.session.touchedCatalog)).faults
  rwa [perform_endLocalSide] at honward

/-- A local side that ends well leaves a record where the transaction has
one. -/
theorem endLocal_eq_ok_true (hend : c.endLocal gid = (.ok true, d)) :
    d.holding gid = (c.holding gid).recordIf c.session.touchedCatalog ∧
      (c.session.touchedCatalog = true →
        (c.holding gid).recorded = false ∧ d = c.writeRecord gid) := by
  unfold endLocal at hend
  cases htouched : c.session.touchedCatalog with
  | true =>
      rw [htouched, if_pos rfl] at hend
      obtain ⟨hd, hfree⟩ := prepareBlock_eq_ok_true hend
      refine ⟨?_, fun _ => ⟨?_, hd⟩⟩
      · rw [hd]
        exact holding_writeRecord c gid
      · exact Bool.eq_false_iff.mpr fun hin =>
          hfree ((holding_recorded c gid).mp hin)
  | false =>
      rw [htouched, if_neg (by simp)] at hend
      obtain ⟨-, rfl⟩ := Prod.mk.inj hend
      refine ⟨holding_endBlock c gid, fun h => ?_⟩
      cases h

/-- A local side that does not end well leaves the holding alone. -/
theorem holding_endLocal (hend : (c.endLocal gid).1 ≠ .ok true) :
    (c.endLocal gid).2.holding gid = c.holding gid := by
  unfold endLocal at hend ⊢
  cases htouched : c.session.touchedCatalog with
  | true =>
      rw [htouched, if_pos rfl] at hend
      exact holding_prepareBlock hend gid
  | false => exact holding_endBlock c gid

-- ====================================================== the command

/-- The cluster after the local node rolled back its record, if the
transaction has one. -/
def unrecordIf (c : Cluster) (gid : Gid) (record : Bool) : Cluster :=
  if record then c.unrecord gid false else c

/-- How far PREPARE TRANSACTION came before it was undone: what it reports, the
branches that it undoes, and the cluster that it undoes them on. -/
inductive Interrupted (gid : Gid) (c : Cluster) :
    Except Failure TagOverride → List Node → Cluster → Prop
  /-- A node did not prepare its branch. -/
  | refused {done rest : List Node} {node : Node} (failure : Failure)
      (hsplit : c.session.written.nodes = done ++ node :: rest)
      (hfault : c.prepareFault? node ≠ none) :
      Interrupted gid c (.error failure) done (c.holdAll gid done)
  /-- All branches were prepared, but the local side did not end well. -/
  | unended {reply : Except Failure Bool} {d : Cluster}
      (hall : ∀ node ∈ c.session.written.nodes, c.prepareFault? node = none)
      (hend : (c.holdAll gid c.session.written.nodes).endLocal gid
        = (reply, d))
      (hreply : reply ≠ .ok true) :
      Interrupted gid c (reply.map fun _ => rolledBackTag)
        c.session.written.nodes d
  /-- The local side ended, but the registry refused, and the record was rolled
  back. -/
  | unregistered {failure : Failure} {d : Cluster}
      (hall : ∀ node ∈ c.session.written.nodes, c.prepareFault? node = none)
      (hend : (c.holdAll gid c.session.written.nodes).endLocal gid
        = (.ok true, d))
      (hfault : d.registryFault? gid = some failure) :
      Interrupted gid c (.error failure) c.session.written.nodes
        (d.unrecordIf gid c.session.touchedCatalog)

/-- How PREPARE TRANSACTION from a client ends outside of a failed block, where
nothing waits under the identifier. -/
inductive PrepareEnds (gid : Gid) (c : Cluster) :
    Except Failure TagOverride → Cluster → Prop
  /-- Whatever was prepared was undone. -/
  | undone {result : Except Failure TagOverride} {nodes : List Node}
      {d : Cluster} (hstop : Interrupted gid c result nodes d) :
      PrepareEnds gid c result (d.undone gid nodes)
  /-- The registry took the transaction in. -/
  | registered {d : Cluster}
      (hend : (c.holdAll gid c.session.written.nodes).endLocal gid
        = (.ok true, d))
      (hfault : d.registryFault? gid = none) :
      PrepareEnds gid c (.ok none)
        (d.enter (.undecided gid c.session.written.nodes
          c.session.touchedCatalog))

/-- What is undone is held, and nothing else changed but the record, which may
have come and gone. -/
theorem Interrupted.holding {result : Except Failure TagOverride}
    (hstop : Interrupted gid c result nodes d) :
    nodes.Sublist c.session.written.nodes ∧ d.faults = c.faults ∧
      ∃ h, d.holding gid = h.holdAll nodes ∧
        (h = c.holding gid ∨
          h = (c.holding gid).unrecord gid false ∧
            (c.holding gid).recorded = false ∧
            (c.faults.registryDown = true ∨
              (c.holding gid).accepts = false)) := by
  cases hstop with
  | @refused done rest node failure hsplit hfault =>
      refine ⟨?_, faults_holdAll .., c.holding gid, holding_holdAll ..,
        .inl rfl⟩
      rw [hsplit]
      exact List.sublist_append_left ..
  | @unended reply d hall hend hreply =>
      have hd : ((c.holdAll gid c.session.written.nodes).endLocal gid).2
          = d := by
        rw [hend]
      have hfailed :
          ((c.holdAll gid c.session.written.nodes).endLocal gid).1
            ≠ .ok true := by
        rw [hend]
        exact hreply
      have hkept := holding_endLocal hfailed
      rw [hd] at hkept
      refine ⟨List.Sublist.refl _, ?_, c.holding gid, ?_, .inl rfl⟩
      · rw [← hd, faults_endLocal, faults_holdAll]
      · rw [hkept, holding_holdAll]
  | @unregistered failure d hall hend hfault =>
      have hd : ((c.holdAll gid c.session.written.nodes).endLocal gid).2
          = d := by
        rw [hend]
      have hfaults : d.faults = c.faults := by
        rw [← hd, faults_endLocal, faults_holdAll]
      obtain ⟨hrecord, hfree⟩ := endLocal_eq_ok_true hend
      rw [holding_holdAll, session_holdAll] at hrecord
      unfold unrecordIf
      cases htouched : c.session.touchedCatalog with
      | true =>
          rw [htouched] at hrecord
          rw [session_holdAll] at hfree
          have hnone := (hfree htouched).1
          rw [holding_holdAll, Holding.holdAll_eq] at hnone
          have hrefused := refused_of_registryFault? hfault
          rw [hfaults, hrecord, Holding.holdAll_eq] at hrefused
          refine ⟨List.Sublist.refl _, hfaults, _, ?_,
            .inr ⟨rfl, hnone, hrefused⟩⟩
          rw [if_pos rfl, holding_unrecord, hrecord, Holding.holdAll_unrecord]
          rfl
      | false =>
          refine ⟨List.Sublist.refl _, hfaults, c.holding gid, ?_, .inl rfl⟩
          rw [if_neg (by simp), hrecord, htouched]
          rfl

/-- Undoing, and then whatever is left of the command. -/
theorem Interrupted.perform_bind {result : Except Failure TagOverride}
    {β : Type} (hstop : Interrupted gid c result nodes d)
    (next : Unit → Program β) :
    d.perform (Program.bind (undoPrepare gid nodes) next)
      = (d.undone gid nodes).perform (next ()) := by
  obtain ⟨hsublist, _, h, hheld, _⟩ := hstop.holding
  refine perform_bind_of_ok (perform_undoPrepare ?_ fun node hmem => ?_) next
  · exact hsublist.nodup (NodeSet.nodes_nodup _)
  · rw [← holding_branches, hheld]
    exact Holding.mem_holdAll.mpr (.inl hmem)

/-- Once all branches are prepared and the local side ended well, the
transaction is registered or undone. -/
theorem prepareEnds_registerPrepared
    (hall : ∀ node ∈ c.session.written.nodes, c.prepareFault? node = none)
    (hend : (c.holdAll gid c.session.written.nodes).endLocal gid
      = (.ok true, d)) :
    ∃ result w,
      d.perform
          (registerPrepared gid c.session.written.nodes
            c.session.touchedCatalog)
        = (result, w) ∧ PrepareEnds gid c result w := by
  have hgid : (PreparedTransaction.undecided gid c.session.written.nodes
      c.session.touchedCatalog).gid = gid := rfl
  unfold registerPrepared
  rw [Program.bind_eq, perform_request_bind]
  cases hfault : d.registryFault? gid with
  | none =>
      have hanswer : d.register
          (.undecided gid c.session.written.nodes c.session.touchedCatalog)
          = (.ok (), d.enter (.undecided gid c.session.written.nodes
              c.session.touchedCatalog)) := by
        rw [register_eq, hgid, hfault]
      simp only [answer, hanswer]
      exact ⟨_, _, rfl, .registered hend hfault⟩
  | some failure =>
      have hanswer : d.register
          (.undecided gid c.session.written.nodes c.session.touchedCatalog)
          = (.error failure, d) := by
        rw [register_eq, hgid, hfault]
      have hstop : Interrupted gid c (.error failure) _ _ :=
        .unregistered hall hend hfault
      have hundo := hstop.perform_bind fun _ =>
        (.fail failure : Program TagOverride)
      refine ⟨_, _, ?_, .undone hstop⟩
      simp only [answer, hanswer]
      unfold unrecordIf at hundo ⊢
      cases htouched : c.session.touchedCatalog with
      | false =>
          rw [htouched] at hundo
          exact hundo
      | true =>
          rw [htouched] at hundo
          -- the record that is rolled back was written a moment ago
          have hin : gid ∈ d.localRecords := by
            have hrecords := (endLocal_eq_ok_true hend).2
            rw [session_holdAll] at hrecords
            rw [(hrecords htouched).2]
            exact List.mem_append_right _ (List.mem_singleton_self gid)
          rw [if_pos rfl, Program.bind_eq, perform_request_bind]
          simp only [answer, finishLocal_eq, hin, if_true]
          exact hundo

/-- PREPARE TRANSACTION of what waits already does nothing. -/
theorem perform_prepareFromClient_known {t : PreparedTransaction}
    (hlookup : c.lookup gid = some t) :
    c.perform (prepareFromClient gid)
      = (.error (.transactionInUse gid), c) := by
  unfold prepareFromClient
  rw [Program.bind_eq, perform_request_bind]
  simp only [answer, hlookup]
  rfl

/-- PREPARE TRANSACTION from a client, where nothing waits under the identifier
and the block is not failed. -/
theorem prepareEnds (hlookup : c.lookup gid = none)
    (hopen : (c.session.inBlock && c.session.failed) = false) :
    ∃ result w, c.perform (prepareFromClient gid) = (result, w) ∧
      PrepareEnds gid c result w := by
  unfold prepareFromClient
  rw [Program.bind_eq, perform_request_bind]
  simp only [answer, hlookup]
  rw [if_neg (by simp), Program.bind_eq, perform_request_bind]
  simp only [answer, hopen]
  rw [if_neg (by simp), Program.bind_eq, perform_request_bind]
  simp only [answer]
  have hnodup : c.session.written.nodes.Nodup := NodeSet.nodes_nodup _
  rcases perform_prepareBranches c gid [] _ (by simp) hnodup with
    ⟨hok, hall⟩ | ⟨done, node, rest, failure, hsplit, hfault, hfail⟩
  · have hend := perform_endLocalSide (c.holdAll gid c.session.written.nodes)
      gid
    rw [session_holdAll] at hend
    rw [Program.bind_eq, perform_bind_of_ok hok, Program.bind_eq,
      perform_request_bind]
    simp only [answer, session_holdAll]
    rw [Program.bind_eq, perform_bind_of_ok hend]
    cases hlocal : (c.holdAll gid c.session.written.nodes).endLocal gid with
    | mk reply d =>
        cases reply with
        | ok prepared =>
            cases prepared with
            | true => exact prepareEnds_registerPrepared hall hlocal
            | false =>
                have hstop := Interrupted.unended hall hlocal (by simp)
                exact ⟨_, _, hstop.perform_bind _, .undone hstop⟩
        | error failure =>
            have hstop := Interrupted.unended hall hlocal (by simp)
            exact ⟨_, _, hstop.perform_bind _, .undone hstop⟩
  · rw [Program.bind_eq, perform_bind_of_error hfail]
    exact ⟨_, _, rfl, .undone (.refused failure hsplit hfault)⟩

-- ====================================================== its effect

/-- In a failed block the command prepares nothing: the block is rolled back,
and the client is told so. -/
theorem perform_prepareFromClient_of_failed (hlookup : c.lookup gid = none)
    (hfailed : (c.session.inBlock && c.session.failed) = true) :
    c.perform (prepareFromClient gid)
      = (.ok rolledBackTag, c.abortBranches.abortTransaction) := by
  have hblock : c.abortBranches.prepareBlock gid
      = (.ok false, c.abortBranches.abortTransaction) := by
    obtain ⟨hin, hf⟩ := Bool.and_eq_true_iff.mp hfailed
    have hin' : c.abortBranches.session.inBlock = true := hin
    have hf' : c.abortBranches.session.failed = true := hf
    exact (Reacts.preparesFailed hin' hf').eq
  unfold prepareFromClient
  rw [Program.bind_eq, perform_request_bind]
  simp only [answer, hlookup]
  rw [if_neg (by simp), Program.bind_eq, perform_request_bind]
  simp only [answer, hfailed, if_true]
  rw [Program.bind_eq, perform_request_bind, Program.bind_eq,
    perform_request_bind]
  simp only [answer, hblock]
  rfl

/-- In a failed block the command leaves what is held alone. -/
theorem holding_prepareFromClient_of_failed (hlookup : c.lookup gid = none)
    (hfailed : (c.session.inBlock && c.session.failed) = true) :
    (c.perform (prepareFromClient gid)).2.holding gid = c.holding gid := by
  rw [perform_prepareFromClient_of_failed hlookup hfailed,
    holding_abortTransaction, holding_abortBranches]

/-- What was undone is freed, but for the nodes that could not roll back. -/
theorem Interrupted.holding_undone {result : Except Failure TagOverride}
    {h : Holding} (hstop : Interrupted gid c result nodes d)
    (hd : d.holding gid = h.holdAll nodes) :
    (d.undone gid nodes).holding gid
      = (h.holdAll nodes).undo gid (c.blocked false)
        c.faults.registryDown nodes := by
  have hfaults := hstop.holding.2.1
  rw [Cluster.holding_undone, hd, blocked_congr hfaults, hfaults]

/-- What is registered is held, with a record if the transaction changed the
catalog. -/
theorem holding_registered
    (hend : (c.holdAll gid c.session.written.nodes).endLocal gid
      = (.ok true, d)) :
    (d.enter (.undecided gid c.session.written.nodes
        c.session.touchedCatalog)).holding gid
      = (((c.holding gid).holdAll c.session.written.nodes).recordIf
          c.session.touchedCatalog).enter
        (.undecided gid c.session.written.nodes
          c.session.touchedCatalog) := by
  have hrecord := (endLocal_eq_ok_true hend).1
  rw [holding_holdAll, session_holdAll] at hrecord
  rw [← hrecord]
  exact holding_enter d _

/-- Outside of a failed block, the command has one of the effects of a
prepare. -/
theorem PrepareEnds.effect {result : Except Failure TagOverride}
    (hends : PrepareEnds gid c result d) :
    Holding.Prepared gid c.faults.registryDown (c.holding gid)
      (d.holding gid) := by
  have hnodup : c.session.written.nodes.Nodup := NodeSet.nodes_nodup _
  cases hends with
  | undone hstop =>
      obtain ⟨hsublist, _, h, hheld, hrecord⟩ := hstop.holding
      rw [hstop.holding_undone hheld]
      rcases hrecord with rfl | ⟨rfl, hfree, hrefused⟩
      · exact .undone _ (hsublist.nodup hnodup)
      · exact .unregistered _ (hsublist.nodup hnodup) hfree hrefused
  | @registered d hend hfault =>
      obtain ⟨hrecord, hfree⟩ := endLocal_eq_ok_true hend
      have haccepts := (registryFault?_eq_none.mp hfault).2
      rw [holding_registered hend]
      refine .registered hnodup _ (fun htouched => ?_) ?_
      · rw [session_holdAll] at hfree
        have hnone := (hfree htouched).1
        rwa [holding_holdAll, Holding.holdAll_eq] at hnone
      · rwa [hrecord, holding_holdAll, Holding.accepts_recordIf,
          Holding.accepts_holdAll] at haccepts

/-- PREPARE TRANSACTION from a client, where nothing waits under the
identifier. -/
theorem prepared_prepareFromClient (hlookup : c.lookup gid = none) :
    Holding.Prepared gid c.faults.registryDown (c.holding gid)
      ((c.perform (prepareFromClient gid)).2.holding gid) := by
  cases hfailed : c.session.inBlock && c.session.failed with
  | true =>
      rw [holding_prepareFromClient_of_failed hlookup hfailed]
      exact .kept
  | false =>
      obtain ⟨result, w, hperform, hends⟩ := prepareEnds hlookup hfailed
      rw [hperform]
      exact hends.effect

end ClusterUtility.Cluster
