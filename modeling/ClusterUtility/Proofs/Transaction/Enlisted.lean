/-
The nodes that a block wrote to.

PREPARE TRANSACTION prepares the branches of the nodes that the session counts
as written to. A node that were missing there would keep its part of the
transaction unprepared, and nobody would ever ask for it. So the session's
count has to be checked against what was done, and what was done stands in the
journal: the requests that were sent since the block began
(`Cluster.sentInBlock`), of which each that does not run outside the
transaction writes to all members of its group (`Cluster.Enlisted`).

# The invariant

`WrittenAsSent` says that the two agree while a block is open, and that no node
counts as written to while none is. The second half is kept by every answer.
The first half is kept by every answer but one: when branches are aborted,
their nodes are forgotten while the block is still there. Only a client's
PREPARE TRANSACTION asks for that, and whenever it does it ends the block, so
between dispatches both halves hold.
-/
import ClusterUtility.Proofs.Cluster.Block
import ClusterUtility.Proofs.Transaction.FailedPrepare

namespace ClusterUtility

open Cluster (Event)
open Program (Asks)

-- =============================================== since the block began

namespace Cluster

/-- The entries of a journal since a block began last. -/
def sinceBegin (journal : List Event) : List Event :=
  journal.foldl (fun since event =>
    if event = .localBegin then [] else since ++ [event]) []

/-- The requests that were sent since a block began last. -/
def sentInBlock (c : Cluster) : List RemoteRequest :=
  (sinceBegin c.journal).filterMap Event.request?

/-- The node got a request since the block began that runs in the
transaction. -/
def Enlisted (c : Cluster) (node : Node) : Prop :=
  ∃ request ∈ c.sentInBlock, request.autocommit = false ∧
    node ∈ c.topology.members request.group

/-- Without a block no node counts as written to. -/
def ClearOutside (c : Cluster) : Prop :=
  c.session.inBlock = false → c.session.written = ∅

/-- The session counts as written to the nodes that got a request in the open
block, and no node without a block. -/
structure WrittenAsSent (c : Cluster) : Prop where
  outside : c.ClearOutside
  inside : c.session.inBlock = true →
    ∀ node, node ∈ c.session.written ↔ c.Enlisted node

variable {c d : Cluster} {r : Request}

/-- A new entry is one of those since the block began, or it begins the
block. -/
private theorem sinceBegin_append (journal : List Event) (event : Event) :
    sinceBegin (journal ++ [event])
      = if event = .localBegin then [] else sinceBegin journal ++ [event] := by
  unfold sinceBegin
  rw [List.foldl_append]
  rfl

/-- An entry that neither begins a block nor is a request sends nothing. -/
theorem sentInBlock_of_other {event : Event} (hbegin : event ≠ .localBegin)
    (hrequest : event.request? = none)
    (hj : d.journal = c.journal ++ [event]) :
    d.sentInBlock = c.sentInBlock := by
  unfold sentInBlock
  rw [hj, sinceBegin_append, if_neg hbegin, List.filterMap_append]
  simp [hrequest]

/-- A request that is sent is one of those that were sent in the block. -/
private theorem sentInBlock_of_sent {request : RemoteRequest}
    (hj : d.journal = c.journal ++ [.sent request]) :
    d.sentInBlock = c.sentInBlock ++ [request] := by
  unfold sentInBlock
  rw [hj, sinceBegin_append, if_neg (by simp), List.filterMap_append]
  rfl

/-- In a block that has just begun nothing was sent. -/
private theorem sentInBlock_of_begin
    (hj : d.journal = c.journal ++ [.localBegin]) : d.sentInBlock = [] := by
  unfold sentInBlock
  rw [hj, sinceBegin_append, if_pos rfl]
  rfl

/-- Who is enlisted hangs on what was sent and on the topology. -/
private theorem enlisted_congr (htopology : d.topology = c.topology)
    (hsent : d.sentInBlock = c.sentInBlock) (node : Node) :
    d.Enlisted node ↔ c.Enlisted node := by
  unfold Enlisted
  rw [htopology, hsent]

-- ====================================================== answers

/-- Whatever is asked, without a block no node counts as written to. -/
theorem clearOutside_answer (r : Request) (h : ClearOutside c) :
    ClearOutside (answer r c).2 := by
  intro hout
  cases turns_answer r c with
  | goesOn hin hmark hwritten =>
      rw [hin] at hout
      have hempty := h hout
      by_cases hsend : ∃ request, r = .send request
      · obtain ⟨request, rfl⟩ := hsend
        show (c.send request).2.session.written = ∅
        rcases send_cases c request with ⟨failure, hsend⟩ | hsend
        · rw [hsend]
          exact hempty
        · -- outside a block, whoever gets a message is not enlisted
          rw [hsend]
          show (enlist c.session request _).written = ∅
          unfold enlist
          rw [if_neg (by simp [hout])]
          exact hempty
      · by_cases habort : r = .abortBranches
        · rw [habort]
          rfl
        · rw [hwritten (fun request hr => hsend ⟨request, hr⟩) habort]
          exact hempty
  | begins hr hout' hin hjournal hwritten =>
      rw [hout] at hin
      cases hin
  | ends hout' hwritten => exact hwritten

/-- A request that is sent in a block enlists the members of its group. -/
theorem writtenAsSent_send (h : WrittenAsSent c) (request : RemoteRequest) :
    WrittenAsSent (c.send request).2 := by
  refine ⟨clearOutside_answer (.send request) h.outside, fun hin node => ?_⟩
  rcases send_cases c request with ⟨failure, hsend⟩ | hsend
  · rw [hsend] at hin ⊢
    exact h.inside hin node
  · rw [(session_send c request).1] at hin
    have hsent : (c.send request).2.sentInBlock
        = c.sentInBlock ++ [request] := by
      rw [hsend]
      exact sentInBlock_of_sent rfl
    have htopology : (c.send request).2.topology = c.topology :=
      (answered_answer (.send request) c).topology
    have hwritten : (c.send request).2.session.written
        = (enlist c.session request
            (c.topology.members request.group)).written := by
      rw [hsend]
      rfl
    have hbefore := h.inside hin node
    unfold Enlisted at hbefore ⊢
    rw [hwritten, hsent, htopology]
    unfold enlist
    simp only [hin, Bool.true_and, List.mem_append, List.mem_singleton]
    cases hauto : request.autocommit with
    | true =>
        simp only [Bool.not_true, Bool.false_eq_true, if_false]
        grind
    | false =>
        simp only [Bool.not_false, if_true, NodeSet.mem_insertAll]
        grind

/-- A block that begins has enlisted nobody. -/
theorem writtenAsSent_beginBlock (h : WrittenAsSent c) :
    WrittenAsSent c.beginBlock := by
  unfold beginBlock
  split
  · exact h
  next hout =>
    refine ⟨fun hnone => ?_, fun _ node => ?_⟩
    · cases hnone
    · unfold Enlisted
      rw [sentInBlock_of_begin rfl]
      show node ∈ c.session.written ↔ _
      rw [h.outside (Bool.eq_false_iff.mpr hout)]
      simp

/-- What neither begins a block nor sends something enlists nobody. -/
theorem enlisted_answer (hbegin : r ≠ .beginBlock)
    (hsend : ∀ request, r ≠ .send request) (c : Cluster) (node : Node) :
    (answer r c).2.Enlisted node ↔ c.Enlisted node := by
  have hanswered := answered_answer r c
  refine enlisted_congr hanswered.topology ?_ node
  rcases hanswered.journal with hj | ⟨event, hrecords, hj⟩
  · unfold sentInBlock
    rw [hj]
  · refine sentInBlock_of_other ?_ ?_ hj
    · rintro rfl
      exact hbegin (Request.eq_beginBlock_of_records hrecords)
    · cases event with
      | sent request =>
          exact absurd (Request.eq_send_of_records hrecords) (hsend request)
      | _ => rfl

/-- Every answer keeps the count but that to a request to abort branches. -/
theorem writtenAsSent_answer (habort : r ≠ .abortBranches)
    (h : WrittenAsSent c) : WrittenAsSent (answer r c).2 := by
  by_cases hsent : ∃ request, r = .send request
  · obtain ⟨request, rfl⟩ := hsent
    exact writtenAsSent_send h request
  by_cases hbegin : r = .beginBlock
  · subst hbegin
    exact writtenAsSent_beginBlock h
  have hsend (request : RemoteRequest) (hr : r = .send request) : False :=
    hsent ⟨request, hr⟩
  refine ⟨clearOutside_answer r h.outside, fun hin node => ?_⟩
  cases turns_answer r c with
  | goesOn hin' hmark hwritten =>
      rw [hin'] at hin
      rw [hwritten hsend habort, enlisted_answer hbegin hsend]
      exact h.inside hin node
  | begins hr hout hin' hjournal hwritten => exact absurd hr hbegin
  | ends hout hwritten =>
      rw [hout] at hin
      cases hin

/-- Programs that do not abort branches keep the count. -/
private theorem writtenAsSent_perform {α : Type} {p : Program α}
    (hasks : Asks (fun r => r ≠ .abortBranches) p) (h : WrittenAsSent c) :
    WrittenAsSent (c.perform p).2 :=
  hasks.preserves (fun _ _ hr => writtenAsSent_answer hr) h

/-- Whatever runs, without a block no node counts as written to after it. -/
theorem clearOutside_perform {α : Type} (p : Program α) (h : ClearOutside c) :
    ClearOutside (c.perform p).2 :=
  (Program.asks_anything p).preserves (fun r _ _ => clearOutside_answer r) h

end Cluster

-- ====================================================== dispatches

variable {c d : Cluster} {config : Configuration} {i : Interceptor}
  {call : Call} {gid : Gid} {m : Move}

/-- Only a client's PREPARE TRANSACTION may abort branches. -/
theorem asks_dispatch_ne_abortBranches
    (hnot : ∀ gid, call.statement = .transaction (.prepare gid) →
      call.context.isClientFacing = false)
    (config : Configuration) (i : Interceptor) :
    Asks (fun r => r ≠ .abortBranches) (dispatch config i call) := by
  have hpermits : Permits (fun r => r ≠ .abortBranches) call.context := by
    refine .of_reach fun r hr => ?_
    rintro rfl
    exact hr rfl
  have hfinish (gid : Gid) :
      TreatsFinish (fun r => r ≠ .abortBranches) gid := by
    refine .of_concerned (fun r hr => ?_) hpermits.chores
    rintro rfl
    exact hr
  refine asks_dispatch hpermits config i fun command hs hsome _ => ?_
  cases command with
  | prepare gid =>
      exact asks_run_routed (hnot gid hs) (fun _ => nofun) (fun _ _ => nofun)
        hsome
  | commitPrepared gid => exact asks_run_finish (hfinish gid) true _
  | rollbackPrepared gid => exact asks_run_finish (hfinish gid) false _
  | _ => cases hsome

namespace Cluster

/-- After a block was given up, none is open. -/
private theorem inBlock_abortBlock (c : Cluster) :
    c.abortBlock.session.inBlock = false := by
  unfold abortBlock
  split
  · rfl
  next hout => exact Bool.eq_false_iff.mpr hout

/-- After a block was ended, none is open. -/
private theorem inBlock_endBlock (c : Cluster) :
    c.endBlock.2.session.inBlock = false := by
  unfold endBlock
  split
  next hout => simpa using hout
  next => split <;> rfl

/-- A local side that ends well leaves no block open. -/
theorem inBlock_endLocal (hend : c.endLocal gid = (.ok true, d)) :
    d.session.inBlock = false := by
  unfold endLocal at hend
  split at hend
  · obtain rfl := (prepareBlock_eq_ok_true hend).1
    rfl
  · obtain rfl := (Prod.mk.inj hend).2
    exact inBlock_endBlock c

/-- However a client's PREPARE TRANSACTION ends where nothing waits under the
identifier, no block is open after it. -/
theorem inBlock_prepareFromClient (hlookup : c.lookup gid = none) :
    (c.perform (prepareFromClient gid)).2.session.inBlock = false := by
  cases hfailed : c.session.inBlock && c.session.failed with
  | true =>
      rw [perform_prepareFromClient_of_failed hlookup hfailed]
      rfl
  | false =>
      obtain ⟨result, w, hperform, hends⟩ := prepareEnds hlookup hfailed
      rw [hperform]
      cases hends with
      | undone hstop => exact inBlock_abortBlock _
      | registered hend hfault =>
          have hout := inBlock_endLocal hend
          exact hout

end Cluster

/-- Every dispatch keeps the count. -/
theorem writtenAsSent_dispatch (config : Configuration) (i : Interceptor)
    (call : Call) (h : c.WrittenAsSent) :
    (c.perform (dispatch config i call)).2.WrittenAsSent := by
  by_cases hprepare : ∃ gid, call.statement = .transaction (.prepare gid) ∧
      call.context.isClientFacing = true
  · obtain ⟨gid, hs, hfacing⟩ := hprepare
    have hm : (Move.dispatch config i call).Issues (.prepare gid) true :=
      ⟨hs, hfacing⟩
    by_cases hpass : call.Passes config i c
    · have henact : (c.perform (dispatch config i call)).2
          = (c.perform (prepareFromClient gid)).2 :=
        congrArg Prod.snd (enact_prepare hm hpass)
      rw [henact]
      cases hlookup : c.lookup gid with
      | some t =>
          rw [Cluster.perform_prepareFromClient_known hlookup]
          exact h
      | none =>
          -- branches may have been aborted, but then the block is over
          have hout := Cluster.inBlock_prepareFromClient hlookup
          refine ⟨Cluster.clearOutside_perform _ h.outside, fun hin => ?_⟩
          rw [hout] at hin
          cases hin
    · obtain ⟨failure, hrefused⟩ := perform_dispatch_refused fun _ _ => hpass
      rw [hrefused]
      exact h
  · refine Cluster.writtenAsSent_perform
      (asks_dispatch_ne_abortBranches (fun gid hs => ?_) ..) h
    exact Bool.eq_false_iff.mpr fun hfacing => hprepare ⟨gid, hs, hfacing⟩

-- ====================================================== runs

/-- Every move keeps the count, but for one that declares nodes written to. -/
theorem writtenAsSent_step (htouch : ∀ nodes, m ≠ .touch nodes)
    (h : c.WrittenAsSent) : (c.step m).WrittenAsSent := by
  cases m with
  | dispatch config i call => exact writtenAsSent_dispatch config i call h
  | touch nodes => exact absurd rfl (htouch nodes)
  | restart => exact ⟨fun _ => rfl, nofun⟩
  | setFaults faults => exact ⟨h.outside, h.inside⟩
  | setRelation name kind => exact ⟨h.outside, h.inside⟩
  | setExpansion kind statements => exact ⟨h.outside, h.inside⟩
  | setRowCount kind rows => exact ⟨h.outside, h.inside⟩
  | passTime timestamp => exact ⟨h.outside, h.inside⟩

/-- In every state that is reached without a touch, the count is right. -/
theorem writtenAsSent_reached (topology : Topology) (timestamp : String)
    {moves : List Move} (htouch : ∀ m ∈ moves, ∀ nodes, m ≠ .touch nodes) :
    (Cluster.reached topology timestamp moves).WrittenAsSent := by
  refine Cluster.after_induction (P := fun _ m => ∀ nodes, m ≠ .touch nodes)
    (fun d m h hm => writtenAsSent_step hm h) ?_
    (Cluster.always_of_forall (fun m hm _ => htouch m hm) _)
  exact ⟨fun _ => rfl, nofun⟩

-- ==================================================== what is prepared

namespace Cluster

/-- The second cluster has a transaction registered whose participants are the
nodes that the first one's block enlisted, and the way there was to prepare
each of them, once, and to end the block. -/
def PreparesEnlisted (gid : Gid) (c d : Cluster) : Prop :=
  ∃ t, d.lookup gid = some t ∧ t.participants.Nodup ∧
    (∀ node, node ∈ t.participants ↔ c.Enlisted node) ∧
    d.journal = c.journal
      ++ t.participants.map (fun node => .branchPrepared node gid)
      ++ [if t.coordinatorRecord then .localPrepare gid else .localCommit]

/-- The end of an open block that goes well is entered, with a record or
without one. -/
private theorem journal_endLocal {nodes : List Node}
    (hend : (c.holdAll gid nodes).endLocal gid = (.ok true, d))
    (hin : c.session.inBlock = true) (hgood : c.session.failed = false) :
    d.journal = (c.holdAll gid nodes).journal
      ++ [if c.session.touchedCatalog then .localPrepare gid
        else .localCommit] := by
  cases localEnd_of_holdAll hin hgood hend with
  | recorded htouched =>
      rw [session_holdAll] at htouched
      rw [htouched]
      rfl
  | committed htouched =>
      rw [session_holdAll] at htouched
      rw [htouched]
      rfl

/-- What the registry takes in are the nodes that the block wrote to. -/
theorem prepares_registered
    (hend : (c.holdAll gid c.session.written.nodes).endLocal gid
      = (.ok true, d))
    (hin : c.session.inBlock = true) (hgood : c.session.failed = false)
    (h : c.WrittenAsSent) :
    PreparesEnlisted gid c
      (d.enter (.undecided gid c.session.written.nodes
        c.session.touchedCatalog)) := by
  refine ⟨.undecided gid c.session.written.nodes c.session.touchedCatalog, ?_,
    NodeSet.nodes_nodup _, h.inside hin, ?_⟩
  · rw [lookup_eq, holding_registered hend]
    rfl
  · have hj := journal_endLocal hend hin hgood
    rw [journal_holdAll] at hj
    exact hj

end Cluster

/-- A client's PREPARE TRANSACTION that ends well in an open block prepares
what the block enlisted, unless it answers with ROLLBACK. -/
theorem preparesEnlisted_step (hwritten : c.WrittenAsSent)
    (hm : m.Issues (.prepare gid) true) (hok : c.outcome m = .ok ())
    (hkept : (c.perform (prepareFromClient gid)).1 ≠ .ok rolledBackTag)
    (hin : c.session.inBlock = true) :
    Cluster.PreparesEnlisted gid c (c.step m) := by
  have henact := enact_prepare hm (passes_of_ok hm hok)
  -- a transaction that waits under the identifier refuses the command
  have hlookup : c.lookup gid = none := by
    cases hknown : c.lookup gid with
    | none => rfl
    | some t =>
        unfold Cluster.outcome at hok
        rw [henact, Cluster.perform_prepareFromClient_known hknown] at hok
        cases hok
  -- a failed block is rolled back, and the tag says so
  have hgood : c.session.failed = false := by
    cases hfailed : c.session.failed with
    | false => rfl
    | true =>
        refine absurd ?_ hkept
        have hboth := Bool.and_eq_true_iff.mpr ⟨hin, hfailed⟩
        rw [Cluster.perform_prepareFromClient_of_failed hlookup hboth]
  have hopen : (c.session.inBlock && c.session.failed) = false :=
    Bool.and_eq_false_iff.mpr (.inr hgood)
  obtain ⟨result, w, hperform, hends⟩ := Cluster.prepareEnds hlookup hopen
  unfold Cluster.outcome at hok
  unfold Cluster.step
  rw [henact, hperform] at hok ⊢
  cases hends with
  | undone hstop =>
      obtain ⟨failure, rfl⟩ := hstop.error_of_open hin hgood
      cases hok
  | registered hend hfault =>
      exact Cluster.prepares_registered hend hin hgood hwritten

/-- No participant is lost. In every run, unless nodes are declared written to
from outside, the session counts exactly the nodes that the open block sent to,
and none without a block. So a client's PREPARE TRANSACTION that ends well in
an open block prepares and registers exactly those nodes, each once, unless it
answers with ROLLBACK, as it does for a failed block. -/
theorem no_participant_lost (topology : Topology) (timestamp : String)
    {moves : List Move} (htouch : ∀ m ∈ moves, ∀ nodes, m ≠ .touch nodes) :
    (Cluster.reached topology timestamp moves).WrittenAsSent ∧
      ∀ gid m, m.Issues (.prepare gid) true →
        (Cluster.reached topology timestamp moves).outcome m = .ok () →
        ((Cluster.reached topology timestamp moves).perform
            (prepareFromClient gid)).1
          ≠ .ok rolledBackTag →
        (Cluster.reached topology timestamp moves).session.inBlock = true →
          Cluster.PreparesEnlisted gid (.reached topology timestamp moves)
            ((Cluster.reached topology timestamp moves).step m) := by
  have hwritten := writtenAsSent_reached topology timestamp htouch
  exact ⟨hwritten, fun gid m hm hok hkept hin =>
    preparesEnlisted_step hwritten hm hok hkept hin⟩

/-- In one block, a view is made on the coordinators and a library is loaded on
the datanodes. -/
def viewAndLibrary : List Move :=
  [.client (.begin []), .statement (.createView ⟨none, "v"⟩ false),
    .statement (.load "lib")]

/-- The nodes of both messages become participants. -/
theorem no_participant_lost_viewAndLibrary :
    (Cluster.reached .standard "" viewAndLibrary).WrittenAsSent ∧
      Cluster.PreparesEnlisted "g" (.reached .standard "" viewAndLibrary)
        ((Cluster.reached .standard "" viewAndLibrary).step
          (.client (.prepare "g"))) ∧
      ((Cluster.reached .standard "" viewAndLibrary).step
          (.client (.prepare "g"))).lookup "g"
        = some (.undecided "g" ["coord2", "dn1", "dn2"] true) := by
  have htouch : ∀ m ∈ viewAndLibrary, ∀ nodes, m ≠ .touch nodes := by
    intro m hm nodes
    simp only [viewAndLibrary, List.mem_cons, List.not_mem_nil, or_false] at hm
    rcases hm with rfl | rfl | rfl <;> nofun
  obtain ⟨hwritten, hprepares⟩ := no_participant_lost .standard "" htouch
  have hkept : ((Cluster.reached .standard "" viewAndLibrary).perform
      (prepareFromClient "g")).1 ≠ .ok rolledBackTag := by
    intro h
    have hnone : ((Cluster.reached .standard "" viewAndLibrary).perform
        (prepareFromClient "g")).1 = .ok none := rfl
    rw [hnone] at h
    cases h
  exact ⟨hwritten,
    hprepares "g" (.client (.prepare "g")) ⟨rfl, rfl⟩ rfl hkept rfl, rfl⟩

end ClusterUtility
