/-
An interrupted finish is taken up where it stopped.

A finish can stop at any branch, and at the local record. The next one begins
with what the entry still lists, so over all attempts, whoever makes them and
whatever happens in between, each branch is finished once and in its turn,
and the record last.

# The invariant

`Holding.Underway` says how far the attempts came: the branches of the
transaction are those that were finished, in order, and those that the entry
still lists. Attempts that fail move the border between the two
(`Underway.further`), and the one that ends well moves it to the end.
-/
import ClusterUtility.Proofs.Transaction.Atomicity
import ClusterUtility.Proofs.Transaction.Sound

namespace ClusterUtility

namespace Holding

variable {h h' : Holding} {gid : Gid} {b commit : Bool}
  {t : PreparedTransaction} {before : List Cluster.Event}
  {done more rest left : List Node}

-- ====================================================== the invariant

/-- Of the branches of a transaction some were finished since some point, and
the rest waits. -/
structure Underway (gid : Gid) (t : PreparedTransaction)
    (before : List Cluster.Event) (commit : Bool) (done rest : List Node)
    (h : Holding) : Prop where
  split : t.participants = done ++ rest
  waiting : h.waiting = some (t.without commit done)
  finishes : h.finishes = before ++ done.map (.branchFinished · gid commit)
  freed : ∀ node ∈ done, node ∉ h.branches

namespace Underway

/-- What waits lists the rest. -/
theorem participants_eq (hu : h.Underway gid t before commit done rest)
    (hnodup : t.participants.Nodup) :
    (t.without commit done).participants = rest :=
  PreparedTransaction.participants_without hnodup hu.split commit

/-- The record does not matter. -/
theorem congr (hu : h.Underway gid t before commit done rest)
    (hbranches : h'.branches = h.branches) (hentry : h'.entry = h.entry)
    (hfinishes : h'.finishes = h.finishes) :
    h'.Underway gid t before commit done rest where
  split := hu.split
  waiting := (waiting_congr hentry).trans hu.waiting
  finishes := hfinishes.trans hu.finishes
  freed := by
    rw [hbranches]
    exact hu.freed

/-- What is allowed is what was begun, if anything was. -/
theorem of_allows (hu : h.Underway gid t before b done rest)
    (hallows : (t.without b done).outcome.allows commit = true) :
    h.Underway gid t before commit done rest := by
  cases done with
  | nil =>
      have hwaiting := hu.waiting
      rw [PreparedTransaction.without_nil,
        ← t.without_nil commit] at hwaiting
      exact ⟨hu.split, hwaiting, hu.finishes, hu.freed⟩
  | cons node others =>
      rw [PreparedTransaction.outcome_without (List.cons_ne_nil node others)]
        at hallows
      obtain rfl := Outcome.allows_ofCommit.mp hallows
      exact hu

/-- An attempt that comes some way moves the border. -/
theorem further (hu : h.Underway gid t before commit done rest)
    (hsplit : rest = more ++ left) :
    (h.finishAll gid commit more).Underway gid t before commit
      (done ++ more) left where
  split := by rw [hu.split, hsplit, List.append_assoc]
  waiting := by
    rw [waiting_finishAll hu.waiting, PreparedTransaction.without_append]
  finishes := by
    rw [finishAll_finishes, hu.finishes, List.map_append, List.append_assoc]
  freed := by
    intro node hmem hheld
    rw [finishAll_eq, releaseAll_eq] at hheld
    obtain ⟨hbefore, hleft⟩ := NodeSet.mem_eraseAll.mp hheld
    rcases List.mem_append.mp hmem with hdone | hmore
    · exact hu.freed node hdone hbefore
    · exact hleft hmore

/-- An attempt that fails leaves the transaction underway. -/
theorem failed {blocked : Node → Bool} {result : Except Failure Unit}
    (hu : h.Underway gid t before b done rest) (hnodup : t.participants.Nodup)
    (heffect : Finished gid commit blocked h result h')
    (hfailed : result ≠ .ok ()) :
    ∃ b done rest, h'.Underway gid t before b done rest := by
  cases heffect with
  | unknown hw => exact ⟨b, done, rest, hu⟩
  | conflict hw hbound => exact ⟨b, done, rest, hu⟩
  | interrupted failure hw hallows hsplit hstopped =>
      rw [hu.waiting] at hw
      cases hw
      have hfrom := hu.of_allows hallows
      rw [hu.participants_eq hnodup] at hsplit
      exact ⟨commit, _, _, hfrom.further hsplit⟩
  | recordLost failure hw hallows hrecord hlost =>
      rw [hu.waiting] at hw
      cases hw
      have hfrom := hu.of_allows hallows
      rw [hu.participants_eq hnodup]
      exact ⟨commit, _, _, hfrom.further (List.append_nil rest).symm⟩
  | completed hw hallows hrecord => exact absurd rfl hfailed

end Underway

-- ====================================================== the end

/-- A transaction was finished: all of its branches since some point, in
order, and then the record, if it has one. -/
structure Over (gid : Gid) (t : PreparedTransaction)
    (before : List Cluster.Event) (commit : Bool) (h : Holding) : Prop where
  finishes : h.finishes
    = before ++ (t.participants.map (.branchFinished · gid commit)
      ++ if t.coordinatorRecord then [.localFinish gid commit] else [])
  status : h.entry.map (·.status) = some (.ofCommit commit)
  freed : ∀ node ∈ t.participants, node ∉ h.branches
  unrecorded : t.coordinatorRecord = true → h.recorded = false

/-- Nothing waits any more. -/
private theorem Over.waiting_none (ho : h.Over gid t before commit) :
    h.waiting = none := by
  have hstatus := ho.status
  cases hentry : h.entry with
  | none => simp [waiting, hentry]
  | some entry =>
      rw [hentry] at hstatus
      have hover : entry.status = .ofCommit commit := Option.some.inj hstatus
      unfold waiting
      rw [hentry]
      cases commit <;> simp [hover, TransactionStatus.ofCommit]

/-- The attempt that ends well finishes the rest. -/
theorem Underway.completed {blocked : Node → Bool}
    (hu : h.Underway gid t before b done rest) (hnodup : t.participants.Nodup)
    (heffect : Finished gid commit blocked h (.ok ()) h') :
    h'.Over gid t before commit := by
  cases heffect with
  | completed hw hallows hrecord =>
      rw [hu.waiting] at hw
      cases hw
      have hfrom := hu.of_allows hallows
      have hrest := hu.participants_eq hnodup
      refine ⟨?_, ?_, ?_, ?_⟩
      · rw [complete_finishes, hfrom.finishes, hrest, hu.split,
          List.map_append]
        simp only [List.append_assoc]
        rfl
      · rw [complete_entry hu.waiting]
        rfl
      · intro node hmem hheld
        rw [complete_branches, hrest] at hheld
        obtain ⟨hbefore, hleft⟩ := NodeSet.mem_eraseAll.mp hheld
        rw [hu.split] at hmem
        rcases List.mem_append.mp hmem with hdone | hmore
        · exact hu.freed node hdone hbefore
        · exact hleft hmore
      · intro hr
        have hrecord' : (t.without b done).coordinatorRecord = true := hr
        unfold complete unrecordIf
        rw [hrecord']
        rfl

end Holding

-- ====================================================== runs

variable {c : Cluster} {gid : Gid} {commit : Bool} {t : PreparedTransaction}
  {before : List Cluster.Event} {between later : List Move} {finish : Move}

/-- No finish of a transaction that ends well, whoever sent it. -/
def Move.LeavesOpen (gid : Gid) (c : Cluster) (m : Move) : Prop :=
  ∀ commit fromClient, ¬ m.Finishes gid commit fromClient c

/-- A move that fails finishes nothing. -/
theorem Move.leavesOpen_of_fails {m : Move} (h : (c.outcome m).isOk = false) :
    m.LeavesOpen gid c := by
  intro commit fromClient hfinishes
  rw [hfinishes.2] at h
  cases h

/-- Until a finish ends well, a transaction stays underway. -/
theorem underway_after (hnodup : t.participants.Nodup)
    (hu : ∃ b done rest, (c.holding gid).Underway gid t before b done rest)
    (hbetween : c.Always (fun d m => m.LeavesOpen gid d) between) :
    ∃ b done rest,
      ((c.after between).holding gid).Underway gid t before b done rest := by
  refine holding_after
    (J := fun h => ∃ b done rest, h.Underway gid t before b done rest)
    (fun {d _ _} ⟨b, done, rest, hu⟩ hm hmoved => ?_) hu hbetween
  cases hmoved with
  | kept => exact ⟨b, done, rest, hu⟩
  | prepared hprepares heffect =>
      have hnone : (d.holding gid).waiting = none := hprepares.2.2
      rw [hu.waiting] at hnone
      cases hnone
  | recorded hissues => exact ⟨b, done, rest, hu.congr rfl rfl rfl⟩
  | finished hissues heffect =>
      exact hu.failed hnodup heffect fun hok => hm _ true ⟨hissues, hok⟩
  | unrecorded hrouted => exact absurd hrouted (hm _ false)

/-- Until it is prepared again, what does not wait does not wait later. -/
theorem lookup_after_none (hlookup : c.lookup gid = none)
    (hlater : c.Always (fun d m => ¬ m.Prepares gid d) later) :
    (c.after later).lookup gid = none := by
  refine holding_after (J := fun h => h.waiting = none)
    (fun hnone hm hmoved => ?_) hlookup hlater
  cases hmoved with
  | kept => exact hnone
  | prepared hprepares heffect => exact absurd hprepares hm
  | recorded hissues => exact hnone
  | finished hissues heffect =>
      rw [heffect.eq_of_waiting_none hnone]
      exact hnone
  | unrecorded hrouted => exact hnone

/-- From a registered transaction to the first finish that ends well, however
many attempts fail in between and whatever else happens: the finishes of all
attempts together are one for each participant, in the order of the entry,
and then one for the record, if there is one, all of the kind of the finish
that ends well. After it the registry knows the outcome, no participant holds
its branch, the record is gone, and until the identifier is used again there
is nothing to finish. -/
theorem finish_resumes (hc : c.IsReached) (hlookup : c.lookup gid = some t)
    (hbetween : c.Always (fun d m => m.LeavesOpen gid d) between)
    (hfinish : finish.Finishes gid commit true (c.after between)) :
    (∃ events, (c.after (between ++ [finish])).journal = c.journal ++ events ∧
      events.filter (fun e => (e.finish? gid).isSome)
        = t.participants.map (.branchFinished · gid commit) ++
            if t.coordinatorRecord then [.localFinish gid commit] else []) ∧
    (c.after (between ++ [finish])).registryStatus gid
      = some (.ofCommit commit) ∧
    (∀ node ∈ t.participants,
      node ∉ (c.after (between ++ [finish])).branchNodes gid) ∧
    (t.coordinatorRecord = true →
      gid ∉ (c.after (between ++ [finish])).localRecords) ∧
    ∀ later,
      (c.after (between ++ [finish])).Always
        (fun d m => ¬ m.Prepares gid d) later →
      ∀ (m : Move) (b : Bool), m.Issues (.finish gid b) true →
        m.Passes (c.after (between ++ [finish] ++ later)) →
        (c.after (between ++ [finish] ++ later)).enact m
          = (.error (.unknownTransaction gid),
            c.after (between ++ [finish] ++ later)) := by
  have hnodup : t.participants.Nodup :=
    (sound_of_isReached hc gid).nodup t hlookup
  have hstart : (c.holding gid).Underway gid t (c.finishes gid) true []
      t.participants := by
    refine ⟨rfl, ?_, (List.append_nil _).symm, ?_⟩
    · rw [PreparedTransaction.without_nil]
      exact hlookup
    · intro node hmem
      cases hmem
  obtain ⟨b, done, rest, hu⟩ :=
    underway_after hnodup ⟨_, _, _, hstart⟩ hbetween
  have heffect := finished_step hfinish.1 (passes_of_ok hfinish.1 hfinish.2)
  rw [hfinish.2] at heffect
  have hover := hu.completed hnodup heffect
  have hlast : (c.after between).step finish = c.after (between ++ [finish]) :=
    (Cluster.after_append c between [finish]).symm
  rw [hlast] at hover
  obtain ⟨events, hjournal⟩ := Cluster.journal_after c (between ++ [finish])
  have hfinishes : (c.after (between ++ [finish])).finishes gid = _ :=
    hover.finishes
  rw [Cluster.finishes_append hjournal gid] at hfinishes
  have hnone : (c.after (between ++ [finish])).lookup gid = none :=
    hover.waiting_none
  refine ⟨⟨events, hjournal, ?_⟩, hover.status, fun node hmem hheld => ?_,
    fun hr hin => ?_, fun later hlater m b hissues hpass => ?_⟩
  · exact List.append_cancel_left hfinishes
  · exact hover.freed node hmem (Cluster.mem_branchNodes.mp hheld)
  · have hrecorded := hover.unrecorded hr
    rw [(Cluster.holding_recorded _ gid).mpr hin] at hrecorded
    cases hrecorded
  · rw [Cluster.after_append] at hpass ⊢
    exact enact_unknown hissues hpass (lookup_after_none hnone hlater)

/-- A transaction that changed the catalog of all nodes, and is prepared. -/
def preparedEverywhere : Cluster :=
  .reached .standard ""
    [.client (.begin []), .statement (.createSchema "s" none []),
      .client (.prepare "g")]

/-- Two commits that stop at another node each; between them a crash, and a
rollback that is turned away. -/
def twiceInterrupted : List Move :=
  [.setFaults { Faults.none with transport := (∅ : NodeSet).insert "dn1" },
   .client (.commitPrepared "g"),
   .restart,
   .client (.rollbackPrepared "g"),
   .setFaults { Faults.none with transport := (∅ : NodeSet).insert "dn2" },
   .client (.commitPrepared "g"),
   .setFaults .none]

/-- The third commit finishes what the first two left, and the record. -/
theorem finish_resumes_twiceInterrupted :
    preparedEverywhere.IsReached ∧
      preparedEverywhere.lookup "g"
        = some (.undecided "g" ["coord2", "dn1", "dn2"] true) ∧
      preparedEverywhere.Always (fun d m => m.LeavesOpen "g" d)
        twiceInterrupted ∧
      (Move.client (.commitPrepared "g")).Finishes "g" true true
        (preparedEverywhere.after twiceInterrupted) ∧
      ∃ events,
        (preparedEverywhere.after
            (twiceInterrupted ++ [.client (.commitPrepared "g")])).journal
          = preparedEverywhere.journal ++ events ∧
        events.filter (fun e => (e.finish? "g").isSome)
          = [.branchFinished "coord2" "g" true, .branchFinished "dn1" "g" true,
             .branchFinished "dn2" "g" true, .localFinish "g" true] := by
  have hreached : preparedEverywhere.IsReached := ⟨_, _, _, rfl⟩
  have hlookup : preparedEverywhere.lookup "g"
      = some (.undecided "g" ["coord2", "dn1", "dn2"] true) := rfl
  have hbetween : preparedEverywhere.Always (fun d m => m.LeavesOpen "g" d)
      twiceInterrupted :=
    ⟨fun _ _ h => h.1, Move.leavesOpen_of_fails rfl, fun _ _ h => h.1,
      Move.leavesOpen_of_fails rfl, fun _ _ h => h.1,
      Move.leavesOpen_of_fails rfl, fun _ _ h => h.1, trivial⟩
  have hfinish : (Move.client (.commitPrepared "g")).Finishes "g" true true
      (preparedEverywhere.after twiceInterrupted) := ⟨⟨rfl, rfl⟩, rfl⟩
  exact ⟨hreached, hlookup, hbetween, hfinish,
    (finish_resumes hreached hlookup hbetween hfinish).1⟩

end ClusterUtility
