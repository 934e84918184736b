/-
No transaction gets stuck.

A finish goes through what the entry lists and needs a branch behind each
node, and the record behind the flag. Soundness gives the branches. The
record is there as long as no coordinator finishes it from elsewhere
(`Holding.Backed`), for then only the finishes of this node take it away, and
they take it last. So once nothing fails any more, a finish that the outcome
allows ends well.
-/
import ClusterUtility.Proofs.Transaction.Sound

namespace ClusterUtility

namespace Holding

variable {h h' : Holding} {gid : Gid} {commit : Bool} {t : PreparedTransaction}

/-- A waiting transaction that claims a record has one. -/
def Backed (h : Holding) : Prop :=
  ∀ t, h.waiting = some t → t.coordinatorRecord = true → h.recorded = true

namespace Backed

/-- What does not wait claims no record. -/
private theorem of_waiting_none (hw : h.waiting = none) : h.Backed := by
  intro t ht
  rw [hw] at ht
  cases ht

/-- What is undone claims no record. -/
theorem undone (hw : h.waiting = none) (gid : Gid) (stays : Node → Bool)
    (down : Bool) (nodes : List Node) :
    ((h.holdAll nodes).undo gid stays down nodes).Backed := by
  rcases waiting_undone hw gid stays down nodes with hnone | hleft
  · exact of_waiting_none hnone
  · intro t ht hrecord
    obtain rfl := Option.some.inj (hleft.symm.trans ht)
    cases hrecord

/-- A prepare leaves the record that the transaction claims. -/
private theorem prepared {down : Bool} (hw : h.waiting = none)
    (heffect : Prepared gid down h h') : h'.Backed := by
  cases heffect with
  | kept => exact of_waiting_none hw
  | undone stays hnodup => exact undone hw gid stays down _
  | unregistered stays hnodup hfree hrefused =>
      have hw' : (h.unrecord gid false).waiting = none := hw
      exact undone hw' gid stays down _
  | registered hnodup record hfree haccepts =>
      intro t ht hrecord
      obtain rfl := Option.some.inj ht
      have hr : record = true := hrecord
      rw [hr]
      rfl

/-- Finishing some branches leaves the record. -/
private theorem finishAll (hb : h.Backed) (hw : h.waiting = some t) (gid : Gid)
    (commit : Bool) (done : List Node) :
    (h.finishAll gid commit done).Backed := by
  intro t' ht hrecord
  rw [waiting_finishAll hw] at ht
  obtain rfl := Option.some.inj ht
  rw [finishAll_eq, releaseAll_eq]
  exact hb t hw hrecord

/-- A finish takes the record away with the entry only. -/
private theorem finished {blocked : Node → Bool} {result : Except Failure Unit}
    (hb : h.Backed) (heffect : Finished gid commit blocked h result h') :
    h'.Backed :=
  heffect.preserves hb (fun hw _ _ => hb.finishAll hw gid commit _)
    fun hw _ => of_waiting_none (complete_waiting hw gid commit)

end Backed

/-- Where nothing is in its way, a finish that is allowed ends well. -/
theorem Finished.eq_ok {blocked : Node → Bool} {result : Except Failure Unit}
    (hs : h.Sound) (hb : h.Backed) (hw : h.waiting = some t)
    (hallows : t.outcome.allows commit = true)
    (hfree : ∀ node, blocked node = false)
    (heffect : Finished gid commit blocked h result h') : result = .ok () := by
  cases heffect with
  | unknown hnone =>
      rw [hnone] at hw
      cases hw
  | conflict hw' hbound =>
      obtain rfl := Option.some.inj (hw.symm.trans hw')
      rw [hbound] at hallows
      cases hallows
  | @interrupted t' done rest node failure hw' hallows' hsplit hstopped =>
      exfalso
      obtain rfl := Option.some.inj (hw.symm.trans hw')
      rcases hstopped with hblocked | hgone
      · rw [hfree node] at hblocked
        cases hblocked
      · have hleft := PreparedTransaction.participants_without (hs.nodup t hw)
          hsplit commit
        have hwaits := waiting_finishAll hw gid commit done
        refine hgone ((hs.finishAll hw hsplit).held _ hwaits node ?_)
        rw [hleft]
        exact List.mem_cons_self ..
  | recordLost failure hw' hallows' hrecord hlost =>
      obtain rfl := Option.some.inj (hw.symm.trans hw')
      rw [hb t hw hrecord] at hlost
      cases hlost
  | completed hw' hallows' hrecord => rfl

end Holding

-- ====================================================== runs

variable {gid : Gid} {commit : Bool} {t : PreparedTransaction}
  {topology : Topology} {timestamp : String} {moves : List Move}

/-- Where nothing is set to fail, no node is in the way of a finish. -/
theorem blocked_of_no_faults {c : Cluster} (hfaults : c.faults = .none)
    (commit : Bool) (node : Node) : c.blocked commit node = false := by
  have hout : ¬ node ∈ Faults.none.transport := NodeSet.not_mem_empty
  have hroll : ¬ node ∈ Faults.none.rollback := NodeSet.not_mem_empty
  unfold Cluster.blocked Cluster.finishFault? Cluster.unreachable?
  rw [hfaults, if_neg hout]
  simp [hroll]

/-- But for routed finishes, a waiting transaction has the record that it
claims. -/
theorem backed_reached
    (hrouted : (Cluster.fresh topology timestamp).Always
      (fun d m => ¬ m.FinishesRouted gid d) moves) :
    ((Cluster.reached topology timestamp moves).holding gid).Backed := by
  refine holding_after (J := Holding.Backed) (fun {d _ _} hb hm hmoved => ?_)
    (.of_waiting_none (waiting_fresh topology timestamp gid)) hrouted
  cases hmoved with
  | kept => exact hb
  | prepared hprepares heffect =>
      have hnone : (d.holding gid).waiting = none := hprepares.2.2
      exact .prepared hnone heffect
  | recorded hissues => exact fun _ _ _ => rfl
  | finished hissues heffect => exact hb.finished heffect
  | unrecorded hrouted => exact absurd ⟨_, hrouted⟩ hm

/-- In every state that is reached without a routed finish of a transaction,
whatever failed on the way: when nothing is set to fail and no block is open,
a client's finish of it that its outcome allows, and that recovery, depth and
interceptor let through, ends well. -/
theorem finish_succeeds
    (hrouted : (Cluster.fresh topology timestamp).Always
      (fun d m => ¬ m.FinishesRouted gid d) moves)
    (hlookup : (Cluster.reached topology timestamp moves).lookup gid = some t)
    (hallows : t.outcome.allows commit = true)
    (hfaults : (Cluster.reached topology timestamp moves).faults = .none)
    (hblock : (Cluster.reached topology timestamp moves).session.inBlock
      = false)
    {config : Configuration} {i : Interceptor} {call : Call}
    (hs : call.statement = .transaction (.finish gid commit))
    (hfacing : call.context.isClientFacing = true)
    (htop : call.context.isTopLevel = true)
    (hdepth : call.context.depth ≤ config.maxDepth)
    (hrecovery : call.context.inRecovery = false)
    (hadmits : i.admits call.statement.kind = true) :
    (Cluster.reached topology timestamp moves).outcome
      (.dispatch config i call) = .ok () := by
  have hpass := passes_finish hs hadmits hdepth htop hrecovery hblock
  have heffect := finished_step (m := .dispatch config i call)
    ⟨hs, hfacing⟩ hpass
  exact heffect.eq_ok (sound_of_isReached ⟨_, _, _, rfl⟩ gid)
    (backed_reached hrouted) hlookup hallows
    (blocked_of_no_faults hfaults commit)

/-- A prepare that the registry refuses, another one that it takes, a commit
that stops at a node, a crash, and an end of all faults. -/
def refusedOnce : List Move :=
  [.setFaults { Faults.none with registryDown := true },
   .client (.begin []),
   .statement (.createSchema "s" none []),
   .client (.prepare "g"),
   .setFaults .none,
   .client (.begin []),
   .statement (.createSchema "s" none []),
   .client (.prepare "g"),
   .setFaults { Faults.none with transport := (∅ : NodeSet).insert "dn1" },
   .client (.commitPrepared "g"),
   .restart,
   .setFaults .none]

/-- The transaction that was refused once is committed in the end. -/
theorem finish_succeeds_refusedOnce :
    (Cluster.fresh .standard "").Always
        (fun d m => ¬ m.FinishesRouted "g" d) refusedOnce ∧
      (Cluster.reached .standard "" refusedOnce).lookup "g"
        = some ⟨"g", ["dn1", "dn2"], true, .commit⟩ ∧
      (Cluster.reached .standard "" refusedOnce).outcome
          (.client (.commitPrepared "g"))
        = .ok () := by
  have hrouted : (Cluster.fresh .standard "").Always
      (fun d m => ¬ m.FinishesRouted "g" d) refusedOnce := by
    refine Cluster.always_of_forall (fun m hm d hfinishes => ?_) _
    obtain ⟨s, rfl⟩ | hquiet :
        (∃ s, m = .statement s) ∨ ∀ command b, ¬ m.Issues command b := by
      simp only [refusedOnce, List.mem_cons, List.not_mem_nil, or_false] at hm
      rcases hm with rfl | rfl | rfl | rfl | rfl | rfl | rfl | rfl | rfl | rfl
        | rfl | rfl <;> first
        | exact .inl ⟨_, rfl⟩
        | exact .inr fun _ _ h => h
    · exact Move.not_finishesRouted_statement s "g" d hfinishes
    · obtain ⟨commit, hissues, _⟩ := hfinishes
      exact hquiet _ _ hissues
  have hlookup : (Cluster.reached .standard "" refusedOnce).lookup "g"
      = some ⟨"g", ["dn1", "dn2"], true, .commit⟩ := rfl
  exact ⟨hrouted, hlookup, finish_succeeds hrouted hlookup rfl rfl rfl rfl rfl
    rfl (by decide) rfl rfl⟩

end ClusterUtility
