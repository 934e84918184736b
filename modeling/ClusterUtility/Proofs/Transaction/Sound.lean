/-
What is always so of what a cluster holds of a transaction.

A holding is sound when its entry can be acted on: a waiting transaction
lists no node twice and only nodes that hold their branches, and where
nothing waits the registry takes a new entry in. Every move keeps this
(`Holding.Sound.moved`), whatever fails and whoever sends the commands, so it
is so in every state that a fresh cluster reaches.
-/
import ClusterUtility.Proofs.Transaction.Moved

namespace ClusterUtility

namespace Holding

variable {h h' : Holding} {gid : Gid} {commit : Bool} {nodes : List Node}
  {t : PreparedTransaction}

/-- The entry of a holding can be acted on. -/
structure Sound (h : Holding) : Prop where
  /-- No branch is listed twice. -/
  nodup : ∀ t, h.waiting = some t → t.participants.Nodup
  /-- Every listed branch is held. -/
  held : ∀ t, h.waiting = some t → ∀ node ∈ t.participants, node ∈ h.branches
  /-- Where nothing waits, the identifier can be used. -/
  free : h.waiting = none → h.accepts = true

namespace Sound

/-- Where nothing waits, soundness is about the entry alone. -/
theorem of_waiting_none (hw : h.waiting = none)
    (hfree : h.accepts = true) : h.Sound where
  nodup t ht := by
    rw [hw] at ht
    cases ht
  held t ht := by
    rw [hw] at ht
    cases ht
  free _ := hfree

/-- What waits alone is sound when its branches are held, and listed once. -/
theorem of_waiting (hw : h.waiting = some t) (hnodup : t.participants.Nodup)
    (hheld : ∀ node ∈ t.participants, node ∈ h.branches) : h.Sound where
  nodup t' ht := by
    obtain rfl : t = t' := Option.some.inj (hw.symm.trans ht)
    exact hnodup
  held t' ht := by
    obtain rfl : t = t' := Option.some.inj (hw.symm.trans ht)
    exact hheld
  free hnone := by
    rw [hw] at hnone
    cases hnone

/-- The record and the finishes do not matter. -/
theorem congr (hs : h.Sound) (hbranches : h'.branches = h.branches)
    (hentry : h'.entry = h.entry) : h'.Sound where
  nodup t ht := by
    rw [waiting_congr hentry] at ht
    exact hs.nodup t ht
  held t ht := by
    rw [waiting_congr hentry] at ht
    rw [hbranches]
    exact hs.held t ht
  free hw := by
    rw [waiting_congr hentry] at hw
    rw [accepts_congr hentry]
    exact hs.free hw

-- ====================================================== preparing

/-- Branches that are undone are freed or left to the registry. -/
theorem undone (hs : h.Sound) (hw : h.waiting = none) (stays : Node → Bool)
    (down : Bool) (hnodup : nodes.Nodup) :
    ((h.holdAll nodes).undo gid stays down nodes).Sound := by
  rcases undone_cases h gid stays down nodes with ⟨hkept, _⟩ | hleft
  · refine of_waiting_none ?_ ?_
    · rw [waiting_congr hkept]
      exact hw
    · rw [accepts_congr hkept]
      exact hs.free hw
  · refine of_waiting hleft (hnodup.filter _) fun node hmem => ?_
    obtain ⟨hnode, hstays⟩ := List.mem_filter.mp hmem
    exact mem_undo.mpr ⟨mem_holdAll.mpr (.inl hnode), fun _ => hstays⟩

/-- A prepare leaves a sound holding. -/
private theorem prepared {down : Bool} (hs : h.Sound) (hw : h.waiting = none)
    (heffect : Prepared gid down h h') : h'.Sound := by
  cases heffect with
  | kept => exact hs
  | undone stays hnodup => exact hs.undone hw stays down hnodup
  | unregistered stays hnodup hfree hrefused =>
      have hs' : (h.unrecord gid false).Sound := hs.congr rfl rfl
      exact hs'.undone hw stays down hnodup
  | @registered nodes hnodup record hfree haccepts =>
      refine of_waiting rfl hnodup fun node hmem => ?_
      have hnode : node ∈ (h.holdAll nodes).branches :=
        mem_holdAll.mpr (.inl hmem)
      cases record <;> exact hnode

-- ====================================================== finishing

/-- However far a finish came, what is left of the transaction is listed and
held. -/
theorem finishAll (hs : h.Sound) (hw : h.waiting = some t)
    {done rest : List Node} (hsplit : t.participants = done ++ rest) :
    (h.finishAll gid commit done).Sound := by
  have hnodup := hs.nodup t hw
  have hrest := PreparedTransaction.participants_without hnodup hsplit commit
  rw [hsplit] at hnodup
  obtain ⟨_, hrestnodup, hapart⟩ := List.nodup_append.mp hnodup
  refine of_waiting (waiting_finishAll hw gid commit done) ?_
    fun node hmem => ?_
  · rw [hrest]
    exact hrestnodup
  · rw [hrest] at hmem
    rw [finishAll_eq, releaseAll_eq]
    refine NodeSet.mem_eraseAll.mpr ⟨hs.held t hw node ?_, fun hdone => ?_⟩
    · rw [hsplit]
      exact List.mem_append.mpr (.inr hmem)
    · exact hapart node hdone node hmem rfl

/-- A finish leaves a sound holding. -/
private theorem finished {blocked : Node → Bool} {result : Except Failure Unit}
    (hs : h.Sound) (heffect : Finished gid commit blocked h result h') :
    h'.Sound := by
  refine heffect.preserves hs (fun hw _ hsplit => hs.finishAll hw hsplit)
    fun hw _ => ?_
  refine of_waiting_none (complete_waiting hw gid commit) ?_
  unfold accepts
  rw [complete_entry hw]
  cases commit <;> rfl

end Sound

end Holding

-- ====================================================== runs

variable {c : Cluster} {m : Move} {gid : Gid}

/-- Every move keeps a holding sound. -/
theorem Holding.Sound.moved (hs : (c.holding gid).Sound) {h : Holding}
    (hm : Moved gid c m h) : h.Sound := by
  cases hm with
  | kept => exact hs
  | prepared hm heffect => exact hs.prepared hm.2.2 heffect
  | recorded hm => exact hs.congr rfl rfl
  | finished hm heffect => exact hs.finished heffect
  | unrecorded hm => exact hs.congr rfl rfl

/-- A fresh cluster knows no transaction. -/
theorem entry_fresh (topology : Topology) (timestamp : String) (gid : Gid) :
    ((Cluster.fresh topology timestamp).holding gid).entry = none :=
  Directory.get?_empty gid

theorem waiting_fresh (topology : Topology) (timestamp : String) (gid : Gid) :
    ((Cluster.fresh topology timestamp).holding gid).waiting = none := by
  unfold Holding.waiting
  rw [entry_fresh]

/-- What a fresh cluster holds is sound. -/
theorem sound_fresh (topology : Topology) (timestamp : String) (gid : Gid) :
    ((Cluster.fresh topology timestamp).holding gid).Sound := by
  refine .of_waiting_none (waiting_fresh topology timestamp gid) ?_
  unfold Holding.accepts
  rw [entry_fresh]

/-- In every state that is reached, every holding is sound. -/
theorem sound_of_isReached (hc : c.IsReached) (gid : Gid) :
    (c.holding gid).Sound := by
  obtain ⟨topology, timestamp, moves, rfl⟩ := hc
  exact holding_after (P := fun _ _ => True)
    (fun hs _ hmoved => hs.moved hmoved) (sound_fresh topology timestamp gid)
    (Cluster.always_of_forall (fun _ _ _ => trivial) _)

end ClusterUtility
