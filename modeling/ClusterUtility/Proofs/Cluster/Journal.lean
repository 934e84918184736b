/-
The journal is written, and never read.

What a cluster answers, and what becomes of it, does not depend on what was
entered into its journal before: on the same cluster with another journal every
request gets the same reply, and enters the same (`exists_enters`). So two runs
that differ in their entries alone can be followed side by side.
-/
import ClusterUtility.Proofs.Cluster.Answer

namespace ClusterUtility.Cluster

variable {c d : Cluster} {r : Request} {reply : r.Reply} {added : List Event}

/-- The cluster with another journal. -/
def withJournal (c : Cluster) (journal : List Event) : Cluster :=
  { c with journal }

/-- The answer to a request is the same whatever stands in the journal, and it
enters the same there. -/
def Enters (r : Request) (c : Cluster) (added : List Event) : Prop :=
  ∀ journal, answer r (c.withJournal journal)
    = ((answer r c).1, (answer r c).2.withJournal (journal ++ added))

/-- It enters that into the journal that is there. -/
theorem Enters.journal (h : Enters r c added) :
    (answer r c).2.journal = c.journal ++ added :=
  congrArg (fun x => x.2.journal) (h c.journal)

/-- All of it is what the request may enter. -/
theorem Enters.records (h : Enters r c added) :
    ∀ event ∈ added, r.Records event := by
  intro event hmem
  rcases (answered_answer r c).journal with hj | ⟨entered, hrecords, hj⟩
  · obtain rfl : added = [] :=
      List.append_right_eq_self.mp (h.journal.symm.trans hj)
    cases hmem
  · obtain rfl : added = [entered] :=
      List.append_cancel_left (h.journal.symm.trans hj)
    obtain rfl := List.mem_singleton.mp hmem
    exact hrecords

-- ====================================================== every answer

/-- What is only looked at is the same whatever stands in the journal. -/
theorem reply_of_onlyLooks (hlooks : r.OnlyLooks) (c : Cluster)
    (journal : List Event) :
    (answer r (c.withJournal journal)).1 = (answer r c).1 := by
  cases r with
  | expand | inBlock | inFailedBlock | touchedCatalog => rfl
  | participants | lookup | relationKind | timestamp | sessionObjects => rfl
  | _ => cases hlooks

/-- What is only entered gets the same reply whatever stands in the journal. -/
private theorem reply_of_entry {event : Event} (hentry : r.entry? = some event)
    (c : Cluster) (journal : List Event) :
    (answer r (c.withJournal journal)).1 = (answer r c).1 := by
  cases r with
  | createStorage | createForeignTable | checkOwnership | checkpoint
  | advanceCommand => rfl
  | beginRemote | setSessionOption | cleanConnections | endBarrier
  | recordBarrier => rfl
  | _ => cases hentry

/-- The answer is given in the same way whatever stands in the journal, and
adds the same to it. -/
def ReactsAlike (c : Cluster) (r : Request) (reply : r.Reply) (d : Cluster)
    (added : List Event) : Prop :=
  ∀ journal, (c.withJournal journal).Reacts r reply
    (d.withJournal (journal ++ added))

/-- Nothing is added. -/
theorem reactsAlike_nil
    (h : ∀ journal, (c.withJournal journal).Reacts r reply
      (d.withJournal journal)) : ReactsAlike c r reply d [] := by
  intro journal
  rw [List.append_nil]
  exact h journal

/-- What an answer depends on is the same with another journal, so it is given
in the same way. -/
theorem Reacts.alike (h : c.Reacts r reply d) :
    ∃ added, ReactsAlike c r reply d added := by
  cases h with
  | notes hentry hreply =>
      exact ⟨[_], fun journal => .notes hentry
        ((reply_of_entry hentry c journal).trans hreply)⟩
  -- the ways that add an entry
  | runs hfault => exact ⟨[_], fun _ => .runs hfault⟩
  | defines hfree => exact ⟨[_], fun _ => .defines hfree⟩
  | alters hfault => exact ⟨[_], fun _ => .alters hfault⟩
  | begins hout => exact ⟨[_], fun _ => .begins hout⟩
  | endsFailed hin hfailed => exact ⟨[_], fun _ => .endsFailed hin hfailed⟩
  | commits hin hsound => exact ⟨[_], fun _ => .commits hin hsound⟩
  | aborts hin => exact ⟨[_], fun _ => .aborts hin⟩
  | preparesFailed hin hfailed =>
      exact ⟨[_], fun _ => .preparesFailed hin hfailed⟩
  | prepares hin hsound hfree =>
      exact ⟨[_], fun _ => .prepares hin hsound hfree⟩
  | finishes hrecorded => exact ⟨[_], fun _ => .finishes hrecorded⟩
  | saves => exact ⟨[_], fun _ => .saves⟩
  | holds hfault => exact ⟨[_], fun _ => .holds hfault⟩
  | frees hfault hheld => exact ⟨[_], fun _ => .frees hfault hheld⟩
  | abortsBranches => exact ⟨[_], fun _ => .abortsBranches⟩
  | sends hfault => exact ⟨[_], fun _ => .sends hfault⟩
  | stops hfault hheeds => exact ⟨[_], fun _ => .stops hfault hheeds⟩
  | writes hfault => exact ⟨[_], fun _ => .writes hfault⟩
  -- the ways that add none
  | looks hlooks hreply =>
      exact ⟨[], reactsAlike_nil fun journal =>
        .looks hlooks ((reply_of_onlyLooks hlooks c journal).trans hreply)⟩
  | fails hfault => exact ⟨[], reactsAlike_nil fun _ => .fails hfault⟩
  | isDefined htaken => exact ⟨[], reactsAlike_nil fun _ => .isDefined htaken⟩
  | failsToAlter hfault =>
      exact ⟨[], reactsAlike_nil fun _ => .failsToAlter hfault⟩
  | hasBegun hin => exact ⟨[], reactsAlike_nil fun _ => .hasBegun hin⟩
  | characterizes => exact ⟨[], reactsAlike_nil fun _ => .characterizes⟩
  | endsNothing hout => exact ⟨[], reactsAlike_nil fun _ => .endsNothing hout⟩
  | abortsNothing hout =>
      exact ⟨[], reactsAlike_nil fun _ => .abortsNothing hout⟩
  | preparesNothing hout =>
      exact ⟨[], reactsAlike_nil fun _ => .preparesNothing hout⟩
  | isRecorded hin hsound hused =>
      exact ⟨[], reactsAlike_nil fun _ => .isRecorded hin hsound hused⟩
  | isUnrecorded hunknown =>
      exact ⟨[], reactsAlike_nil fun _ => .isUnrecorded hunknown⟩
  | releasesNothing hmissing =>
      exact ⟨[], reactsAlike_nil fun _ => .releasesNothing hmissing⟩
  | releases hkept => exact ⟨[], reactsAlike_nil fun _ => .releases hkept⟩
  | goesNowhere hmissing =>
      exact ⟨[], reactsAlike_nil fun _ => .goesNowhere hmissing⟩
  | goesBack hkept => exact ⟨[], reactsAlike_nil fun _ => .goesBack hkept⟩
  | refusesBranch hfault =>
      exact ⟨[], reactsAlike_nil fun _ => .refusesBranch hfault⟩
  | keepsBranch hfault =>
      exact ⟨[], reactsAlike_nil fun _ => .keepsBranch hfault⟩
  | hasNoBranch hfault hmissing =>
      exact ⟨[], reactsAlike_nil fun _ => .hasNoBranch hfault hmissing⟩
  | refuses hfault => exact ⟨[], reactsAlike_nil fun _ => .refuses hfault⟩
  | registers hfault => exact ⟨[], reactsAlike_nil fun _ => .registers hfault⟩
  | strikes => exact ⟨[], reactsAlike_nil fun _ => .strikes⟩
  | settles => exact ⟨[], reactsAlike_nil fun _ => .settles⟩
  | isCutOff hfault => exact ⟨[], reactsAlike_nil fun _ => .isCutOff hfault⟩
  | doesNotHear hfault =>
      exact ⟨[], reactsAlike_nil fun _ => .doesNotHear hfault⟩
  | doesNotStop hfault hrejects =>
      exact ⟨[], reactsAlike_nil fun _ => .doesNotStop hfault hrejects⟩
  | doesNotWrite hfault =>
      exact ⟨[], reactsAlike_nil fun _ => .doesNotWrite hfault⟩

/-- No answer looks at the journal. -/
theorem exists_enters (r : Request) (c : Cluster) :
    ∃ added, Enters r c added := by
  obtain ⟨added, halike⟩ := (reacts_answer r c).alike
  exact ⟨added, fun journal => (halike journal).eq⟩

end ClusterUtility.Cluster
