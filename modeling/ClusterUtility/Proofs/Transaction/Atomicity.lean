/-
A transaction is finished one way only.

Nothing in a cluster decides a transaction at once: each branch is finished
by a request of its own, any of them can fail, the session that asked can be
lost, and whoever comes next may ask for the opposite. What binds them is the
outcome in the entry, and this file says how.

# The invariant

`Holding.Bound` looks back to a point from which on the finishes are counted.
Either there are none, or all are of one kind, and then the entry, if it
still waits, is bound to that kind. A client's finish must be allowed by the
outcome, so it adds finishes of the kind that is there, and binds the outcome
to it with the first one.

# The other half

A transaction that is bound stays bound while it waits (`Holding.Decided`),
and a finish of the other kind is turned away before it contacts any node.
-/
import ClusterUtility.Proofs.Transaction.Moved

namespace ClusterUtility

-- ====================================================== outcomes

/-- A bound transaction can be finished the way that it is bound to. -/
theorem Outcome.allows_ofCommit {b commit : Bool} :
    (Outcome.ofCommit b).allows commit = true ↔ b = commit := by
  cases b <;> cases commit <;> simp [Outcome.ofCommit, Outcome.allows]

/-- A transaction some branches of which are finished is bound. -/
theorem PreparedTransaction.outcome_without {t : PreparedTransaction}
    {commit : Bool} {nodes : List Node} (h : nodes ≠ []) :
    (t.without commit nodes).outcome = .ofCommit commit := by
  cases nodes with
  | nil => exact absurd rfl h
  | cons node rest => rfl

namespace Holding

variable {h h' : Holding} {gid : Gid} {commit : Bool} {t : PreparedTransaction}
  {before : List Cluster.Event}

-- ====================================================== the invariant

/-- The transaction is bound to an outcome as long as it waits. -/
def Decided (commit : Bool) (h : Holding) : Prop :=
  ∀ t, h.waiting = some t → t.outcome = .ofCommit commit

/-- The finishes since some point are of one kind, and the transaction, if it
waits, is bound to it. -/
def Bound (gid : Gid) (before : List Cluster.Event) (h : Holding) : Prop :=
  ∃ events, h.finishes = before ++ events ∧
    (events = [] ∨ ∃ commit, (∀ e ∈ events, e.finish? gid = some commit) ∧
      h.Decided commit)

/-- A finish of branches is a finish of its kind. -/
theorem finish?_branches (gid : Gid) (commit : Bool) (nodes : List Node) :
    ∀ e ∈ nodes.map (.branchFinished · gid commit),
      Cluster.Event.finish? gid e = some commit := by
  intro e hmem
  obtain ⟨node, _, rfl⟩ := List.mem_map.mp hmem
  exact if_pos rfl

-- ====================================================== decided

namespace Decided

/-- Whether a transaction is decided is a matter of its entry. -/
private theorem congr (hd : h.Decided commit) (hentry : h'.entry = h.entry) :
    h'.Decided commit := by
  intro t ht
  rw [waiting_congr hentry] at ht
  exact hd t ht

/-- Nothing is left to be decided of a transaction that does not wait. -/
private theorem of_waiting_none (hw : h.waiting = none) :
    h.Decided commit := by
  intro t ht
  rw [hw] at ht
  cases ht

/-- Where some branches are finished, the transaction is decided. -/
theorem finishAll (hw : h.waiting = some t) (gid : Gid) (commit : Bool)
    {done : List Node} (hdone : done ≠ []) :
    (h.finishAll gid commit done).Decided commit := by
  intro t' ht
  rw [waiting_finishAll hw] at ht
  obtain rfl := Option.some.inj ht
  exact PreparedTransaction.outcome_without hdone

/-- A decided transaction is finished the way that it is decided. -/
theorem eq_of_allows {b : Bool} (hd : h.Decided b) (hw : h.waiting = some t)
    (hallows : t.outcome.allows commit = true) : b = commit := by
  rw [hd t hw] at hallows
  exact Outcome.allows_ofCommit.mp hallows

/-- A finish decides nothing anew. -/
theorem finished {b : Bool} {blocked : Node → Bool}
    {result : Except Failure Unit} (hd : h.Decided b)
    (heffect : Finished gid commit blocked h result h') : h'.Decided b := by
  refine heffect.preserves hd (fun {_ done _} hw hallows _ => ?_)
    fun hw _ => .of_waiting_none (complete_waiting hw gid commit)
  obtain rfl := hd.eq_of_allows hw hallows
  by_cases hdone : done = []
  · subst hdone
    exact hd
  · exact .finishAll hw gid b hdone

/-- What is undone is decided: what stays waits for a rollback. -/
theorem undone (hw : h.waiting = none) (gid : Gid) (stays : Node → Bool)
    (down : Bool) (nodes : List Node) :
    ((h.holdAll nodes).undo gid stays down nodes).Decided false := by
  rcases waiting_undone hw gid stays down nodes with hnone | hleft
  · exact .of_waiting_none hnone
  · intro t ht
    rw [hleft] at ht
    cases ht
    rfl

end Decided

-- ====================================================== bound

namespace Bound

/-- Branches and the record do not matter. -/
theorem congr (hb : h.Bound gid before) (hentry : h'.entry = h.entry)
    (hfinishes : h'.finishes = h.finishes) : h'.Bound gid before := by
  obtain ⟨events, heq, hkind⟩ := hb
  refine ⟨events, hfinishes.trans heq, hkind.imp_right ?_⟩
  rintro ⟨commit, hall, hd⟩
  exact ⟨commit, hall, hd.congr hentry⟩

/-- What a finish that is allowed finds was of its kind, if anything. -/
theorem of_allows (hb : h.Bound gid before) (hw : h.waiting = some t)
    (hallows : t.outcome.allows commit = true) :
    ∃ events, h.finishes = before ++ events ∧
      ∀ e ∈ events, e.finish? gid = some commit := by
  obtain ⟨events, heq, hnone | ⟨b, hall, hd⟩⟩ := hb
  · refine ⟨events, heq, fun e hmem => ?_⟩
    rw [hnone] at hmem
    cases hmem
  · obtain rfl := hd.eq_of_allows hw hallows
    exact ⟨events, heq, hall⟩

/-- Of finishes of one kind, each tells the kind, and what the transaction is
bound to. -/
private theorem of_mem {events : List Cluster.Event} {e : Cluster.Event}
    (hkind : events = [] ∨ ∃ b, (∀ e ∈ events, e.finish? gid = some b) ∧
      h.Decided b)
    (hmem : e ∈ events) (hfinish : e.finish? gid = some commit) :
    (∀ e ∈ events, e.finish? gid = some commit) ∧ h.Decided commit := by
  rcases hkind with rfl | ⟨b, hall, hd⟩
  · cases hmem
  · have hb := hall e hmem
    rw [hfinish] at hb
    cases hb
    exact ⟨hall, hd⟩

/-- More finishes of the kind that is there. -/
theorem append {events more : List Cluster.Event}
    (heq : h.finishes = before ++ events)
    (hall : ∀ e ∈ events, e.finish? gid = some commit)
    (hfinishes : h'.finishes = h.finishes ++ more)
    (hmore : ∀ e ∈ more, e.finish? gid = some commit)
    (hd : h'.Decided commit) : h'.Bound gid before := by
  have heq' : h'.finishes = before ++ (events ++ more) := by
    rw [hfinishes, heq, List.append_assoc]
  refine ⟨events ++ more, heq', .inr ⟨commit, ?_, hd⟩⟩
  intro e hmem
  rcases List.mem_append.mp hmem with hmem | hmem
  · exact hall e hmem
  · exact hmore e hmem

/-- However far an allowed finish came, the finishes are of its kind. -/
theorem finishAll (hb : h.Bound gid before) (hw : h.waiting = some t)
    (hallows : t.outcome.allows commit = true) (done : List Node) :
    (h.finishAll gid commit done).Bound gid before := by
  by_cases hdone : done = []
  · subst hdone
    exact hb
  · obtain ⟨events, heq, hall⟩ := hb.of_allows hw hallows
    exact append heq hall (finishAll_finishes ..)
      (finish?_branches gid commit done) (.finishAll hw gid commit hdone)

/-- The finishes of a completed transaction are of its kind. -/
theorem completed (hb : h.Bound gid before) (hw : h.waiting = some t)
    (hallows : t.outcome.allows commit = true) :
    (h.complete gid commit t).Bound gid before := by
  obtain ⟨events, heq, hall⟩ := hb.of_allows hw hallows
  refine append heq hall (complete_finishes ..) (fun e hmem => ?_)
    (.of_waiting_none (complete_waiting hw gid commit))
  rcases List.mem_append.mp hmem with hmem | hmem
  · exact finish?_branches gid commit t.participants e hmem
  · cases hr : t.coordinatorRecord with
    | false =>
        rw [hr] at hmem
        cases hmem
    | true =>
        rw [hr] at hmem
        obtain rfl := List.mem_singleton.mp hmem
        exact if_pos rfl

/-- An allowed finish adds finishes of its own kind only. -/
private theorem finished {blocked : Node → Bool} {result : Except Failure Unit}
    (hb : h.Bound gid before)
    (heffect : Finished gid commit blocked h result h') :
    h'.Bound gid before :=
  heffect.preserves hb (fun hw hallows _ => hb.finishAll hw hallows _)
    fun hw hallows => hb.completed hw hallows

/-- A prepare finishes branches only to undo them. -/
theorem prepared {down : Bool} (hw : h.waiting = none)
    (heffect : Prepared gid down h h') : h'.Bound gid h.finishes := by
  have hsame (nodes : List Node) :
      (h.holdAll nodes).finishes = h.finishes := by
    rw [holdAll_eq]
  cases heffect with
  | kept => exact ⟨[], (List.append_nil _).symm, .inl rfl⟩
  | @undone stays nodes hnodup =>
      have hundone := undo_finishes (h.holdAll nodes) gid stays down nodes
      rw [hsame] at hundone
      refine ⟨_, hundone, .inr ⟨false, ?_, ?_⟩⟩
      · exact finish?_branches gid false _
      · exact .undone hw gid stays down nodes
  | @unregistered stays nodes hnodup hfree hrefused =>
      have hw' : (h.unrecord gid false).waiting = none := hw
      have hstart : ((h.unrecord gid false).holdAll nodes).finishes
          = h.finishes ++ [.localFinish gid false] := by
        rw [holdAll_unrecord]
        show (h.holdAll nodes).finishes ++ _ = _
        rw [hsame]
      refine append hstart (fun e hmem => ?_) (undo_finishes ..)
        (finish?_branches gid false _) (.undone hw' gid stays down nodes)
      obtain rfl := List.mem_singleton.mp hmem
      exact if_pos rfl
  | @registered nodes hnodup record hfree haccepts =>
      refine ⟨[], ?_, .inl rfl⟩
      rw [List.append_nil, ← hsame nodes]
      cases record <;> rfl

end Bound

end Holding

-- ====================================================== runs

variable {c : Cluster} {prepare : Move} {later : List Move} {gid : Gid}
  {commit : Bool}

/-- Neither a prepare from a client nor a routed finish of a transaction. -/
def Move.Spares (gid : Gid) (c : Cluster) (m : Move) : Prop :=
  ¬ m.Prepares gid c ∧ ¬ m.FinishesRouted gid c

/-- As long as it is spared, a transaction is finished one way. -/
theorem bound_after {before : List Cluster.Event}
    (hb : (c.holding gid).Bound gid before)
    (hlater : c.Always (fun d m => m.Spares gid d) later) :
    ((c.after later).holding gid).Bound gid before := by
  refine holding_after (J := Holding.Bound gid before)
    (fun hb hm hmoved => ?_) hb hlater
  cases hmoved with
  | kept => exact hb
  | prepared hprepares heffect => exact absurd hprepares hm.1
  | recorded hissues => exact hb.congr rfl rfl
  | finished hissues heffect => exact hb.finished heffect
  | unrecorded hrouted => exact absurd ⟨_, hrouted⟩ hm.2

/-- As long as it is not prepared again, a transaction stays decided. -/
theorem decided_after (hd : (c.holding gid).Decided commit)
    (hlater : c.Always (fun d m => m.Spares gid d) later) :
    ((c.after later).holding gid).Decided commit := by
  refine holding_after (J := Holding.Decided commit)
    (fun hd hm hmoved => ?_) hd hlater
  cases hmoved with
  | kept => exact hd
  | prepared hprepares heffect => exact absurd hprepares hm.1
  | recorded hissues => exact hd.congr rfl
  | finished hissues heffect => exact hd.finished heffect
  | unrecorded hrouted => exact hd.congr rfl

/-- From one prepare of a transaction to the next, and but for routed
finishes, all finishes of its branches and of its record are of one kind.
Once there is one, or when the transaction was registered to be rolled back,
it can only be finished that way as long as it waits: a finish of the other
kind fails, and leaves the cluster as it is. -/
theorem finishes_agree (hprepare : prepare.Prepares gid c)
    (hlater : (c.step prepare).Always (fun d m => m.Spares gid d) later) :
    ∃ events, (c.after (prepare :: later)).journal = c.journal ++ events ∧
      (∀ e ∈ events, ∀ e' ∈ events, ∀ b b',
        e.finish? gid = some b → e'.finish? gid = some b' → b = b') ∧
      ∀ commit,
        ((∃ e ∈ events, e.finish? gid = some commit) ∨
          commit = false ∧
            ∃ t, (c.step prepare).lookup gid = some t ∧
              t.outcome = .rollback) →
        (c.after (prepare :: later)).lookup gid ≠ none →
        ∀ m : Move, m.Issues (.finish gid !commit) true →
          m.Passes (c.after (prepare :: later)) →
          (c.after (prepare :: later)).enact m
            = (.error (.outcomeConflict gid (.ofCommit commit)),
              c.after (prepare :: later)) := by
  obtain ⟨events, hjournal⟩ := Cluster.journal_after c (prepare :: later)
  have hnone : (c.holding gid).waiting = none := hprepare.2.2
  have hstart := Holding.Bound.prepared hnone (prepared_step hprepare)
  obtain ⟨finishes, heq, hkind⟩ := bound_after hstart hlater
  have hfinishes : events.filter (fun e => (e.finish? gid).isSome)
      = finishes := by
    refine List.append_cancel_left (?_ : c.finishes gid ++ _ = _ ++ _)
    rw [← Cluster.finishes_append hjournal gid]
    exact heq
  have hmem : ∀ e ∈ events, ∀ b, e.finish? gid = some b → e ∈ finishes := by
    intro e he b hb
    have hsome : (e.finish? gid).isSome = true := by
      rw [hb]
      rfl
    rw [← hfinishes]
    exact List.mem_filter.mpr ⟨he, hsome⟩
  refine ⟨events, hjournal, ?_, ?_⟩
  · intro e he e' he' b b' hb hb'
    obtain ⟨hall, _⟩ := Holding.Bound.of_mem hkind (hmem e he b hb) hb
    have hsame := hall e' (hmem e' he' b' hb')
    rw [hb'] at hsame
    exact (Option.some.inj hsame).symm
  · intro commit hwhy hwaits m hissues hpass
    have hdecided : ((c.after (prepare :: later)).holding gid).Decided
        commit := by
      rcases hwhy with ⟨e, he, hb⟩ | ⟨rfl, t, hlookup, hrollback⟩
      · exact (Holding.Bound.of_mem hkind (hmem e he commit hb) hb).2
      · have hd : ((c.step prepare).holding gid).Decided false := by
          intro t' ht
          have ht : (c.step prepare).lookup gid = some t' := ht
          rw [hlookup] at ht
          cases ht
          exact hrollback
        exact decided_after (c := c.step prepare) hd hlater
    obtain ⟨t, hlookup⟩ := Option.ne_none_iff_exists'.mp hwaits
    have houtcome : t.outcome = .ofCommit commit := hdecided t hlookup
    have hbound : t.outcome.allows (!commit) = false := by
      rw [houtcome]
      cases commit <;> rfl
    rw [← houtcome]
    exact enact_conflict hissues hpass hlookup hbound

/-- A transaction that wrote to two nodes. -/
def twoBranches : Cluster :=
  .reached .standard "" [.client (.begin []), .touch ["dn1", "dn2"]]

/-- A commit that stops at the second node, a crash, and an end of the
fault. -/
def halfCommit : List Move :=
  [.setFaults { Faults.none with transport := (∅ : NodeSet).insert "dn2" },
   .client (.commitPrepared "g"),
   .restart,
   .setFaults .none]

/-- Finished by halves: a commit that reached the first of two nodes turns a
later rollback away, across a crash. -/
theorem finishes_agree_halfCommit :
    (Move.client (.prepare "g")).Prepares "g" twoBranches ∧
      (twoBranches.step (.client (.prepare "g"))).Always
        (fun d m => m.Spares "g" d) halfCommit ∧
      (twoBranches.after (.client (.prepare "g") :: halfCommit)).enact
          (.client (.rollbackPrepared "g"))
        = (.error (.outcomeConflict "g" .commit),
           twoBranches.after (.client (.prepare "g") :: halfCommit)) := by
  have hprepare : (Move.client (.prepare "g")).Prepares "g" twoBranches :=
    ⟨⟨rfl, rfl⟩, ⟨rfl, by decide, rfl⟩, rfl⟩
  have hlater : (twoBranches.step (.client (.prepare "g"))).Always
      (fun d m => m.Spares "g" d) halfCommit := by
    refine ⟨⟨fun h => h.1, fun ⟨_, h⟩ => h.1⟩, ⟨?_, ?_⟩,
      ⟨fun h => h.1, fun ⟨_, h⟩ => h.1⟩,
      ⟨fun h => h.1, fun ⟨_, h⟩ => h.1⟩, trivial⟩
    · intro hprepares
      cases hprepares.1.1
    · exact Move.not_finishesRouted_statement _ "g" _
  obtain ⟨events, hjournal, _, hconflict⟩ := finishes_agree hprepare hlater
  have hevents : twoBranches.journal
        ++ [.branchPrepared "dn1" "g", .branchPrepared "dn2" "g", .localCommit,
            .branchFinished "dn1" "g" true]
      = twoBranches.journal ++ events := hjournal
  have hevents := List.append_cancel_left hevents
  have hfinished : Cluster.Event.branchFinished "dn1" "g" true ∈ events := by
    rw [← hevents]
    decide
  have hwaits :
      (twoBranches.after (.client (.prepare "g") :: halfCommit)).lookup "g"
        ≠ none :=
    Option.some_ne_none _
  refine ⟨hprepare, hlater, ?_⟩
  exact hconflict true (.inl ⟨_, hfinished, rfl⟩) hwaits _ ⟨rfl, rfl⟩
    ⟨rfl, by decide, rfl⟩

end ClusterUtility
