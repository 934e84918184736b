/-
What the answer to a request can do to a cluster.

An answer adds one entry to the journal or none, and the request says which
entries those can be (`Request.Records`). It changes neither the layout of the
cluster nor what is set to fail, and it reaches the registry and the branches
on other nodes only if the request is about them. `Cluster.Answered` says all
of this at once, and it is so of every way of answering (`Reacts.answered`);
whatever is so of journals is drawn from there.

# What a program adds

What a program adds to the journal is added by the answers to its requests. So
a bound on what it may ask is a bound on what it adds (`adds_perform`).
-/
import ClusterUtility.Proofs.Cluster.Holding
import ClusterUtility.Proofs.Program.Within

namespace ClusterUtility

open Cluster (Event)

-- ==================================================== what is recorded

/-- The answer to a request may enter this into the journal. -/
def Request.Records : Request → Event → Prop
  | .execute s _, e => e = .handler s.kind
  | .defineRelation create kind, e =>
      e = .relationDefined create.relation.text kind
  | .createStorage _ create, e => e = .storageCreated create.relation.text
  | .createForeignTable _ create, e =>
      e = .foreignTableCreated create.table.relation.text
  | .alterTable alter, e => e = .tableAltered alter.relation.text
  | .checkOwnership name, e => e = .ownershipChecked name.text
  | .checkpoint restartPoint, e => e = .checkpoint restartPoint
  | .beginBlock, e => e = .localBegin
  | .endBlock, e => e = .localCommit ∨ e = .localAbort
  | .abortBlock, e => e = .localAbort
  | .prepareBlock gid, e => e = .localPrepare gid ∨ e = .localAbort
  | .finishLocal gid commit, e => e = .localFinish gid commit
  | .defineSavepoint name, e => e = .savepoint name
  | .advanceCommand, e => e = .commandAdvanced
  | .beginRemote query, e => e = .remoteBegin query
  | .prepareBranch node gid, e => e = .branchPrepared node gid
  | .finishBranch node gid commit, e => e = .branchFinished node gid commit
  | .abortBranches, e => e = .branchesAborted
  | .send request, e => e = .sent request
  | .setSessionOption isLocal text, e => e = .sessionOptionSet isLocal text
  | .cleanConnections clean, e => e = .connectionsCleaned clean.database
  | .prepareBarrier node id, e => e = .barrierPrepared node id
  | .executeBarrier node id, e => e = .barrierExecuted node id
  | .endBarrier node id, e => e = .barrierEnded node id
  | .recordBarrier id, e => e = .barrierRecorded id
  | _, _ => False

/-- The request is about the registry, or about a branch on another node. -/
def Request.IsAboutBranches : Request → Prop
  | .prepareBranch .. => True
  | .finishBranch .. => True
  | .register _ => True
  | .dropBranch .. => True
  | .complete .. => True
  | _ => False

/-- What is all that an answer does is what the request may enter. -/
theorem Request.records_of_entry {r : Request} {event : Event}
    (h : r.entry? = some event) : r.Records event := by
  cases r with
  | createStorage | createForeignTable | checkOwnership | checkpoint
  | advanceCommand =>
      exact (Option.some.inj h).symm
  | beginRemote | setSessionOption | cleanConnections | endBarrier
  | recordBarrier =>
      exact (Option.some.inj h).symm
  | _ => cases h

/-- Only by sending a request is it entered that the request was sent. -/
theorem Request.eq_send_of_records {r : Request} {request : RemoteRequest}
    (h : r.Records (.sent request)) : r = .send request := by
  cases r with
  | send other => exact congrArg Request.send (Event.sent.inj h).symm
  | endBlock => rcases h with h | h <;> cases h
  | prepareBlock gid => rcases h with h | h <;> cases h
  | _ => cases h

/-- Only by opening a block is it entered that one began. -/
theorem Request.eq_beginBlock_of_records {r : Request}
    (h : r.Records .localBegin) : r = .beginBlock := by
  cases r with
  | beginBlock => rfl
  | endBlock => rcases h with h | h <;> cases h
  | prepareBlock gid => rcases h with h | h <;> cases h
  | _ => cases h

namespace Cluster

variable {c d e : Cluster} {r : Request} {reply : r.Reply}

-- ====================================================== answers

/-- The layout, the faults, the registry and the branches on other nodes are as
they were. -/
structure SameBeyond (c d : Cluster) : Prop where
  topology : d.topology = c.topology
  faults : d.faults = c.faults
  registry : d.registry = c.registry
  branches : d.branches = c.branches

/-- The second cluster is what the answer to a request can make of the first
one. -/
structure Answered (r : Request) (c d : Cluster) : Prop where
  topology : d.topology = c.topology
  faults : d.faults = c.faults
  journal : d.journal = c.journal ∨ ∃ event, r.Records event ∧
    d.journal = c.journal ++ [event]
  held : ¬ r.IsAboutBranches → d.registry = c.registry ∧
    d.branches = c.branches

namespace Answered

private theorem refl (r : Request) (c : Cluster) : Answered r c c :=
  ⟨rfl, rfl, .inl rfl, fun _ => ⟨rfl, rfl⟩⟩

/-- Nothing is entered into the journal. -/
theorem silent (h : SameBeyond c d) (hj : d.journal = c.journal) :
    Answered r c d :=
  ⟨h.topology, h.faults, .inl hj, fun _ => ⟨h.registry, h.branches⟩⟩

/-- One entry, and nothing else beyond the local node. -/
theorem recorded {event : Event} (h : SameBeyond c d)
    (hrecords : r.Records event) (hj : d.journal = c.journal ++ [event]) :
    Answered r c d :=
  ⟨h.topology, h.faults, .inr ⟨event, hrecords, hj⟩,
    fun _ => ⟨h.registry, h.branches⟩⟩

end Answered

/-- A request is sent to all of its nodes or to none. -/
theorem send_cases (c : Cluster) (request : RemoteRequest) :
    (∃ failure, c.send request = (.error failure, c)) ∨
      c.send request = (.ok (), (c.record (.sent request)).mapSession fun s =>
        enlist s request (c.topology.members request.group)) := by
  unfold send
  dsimp only
  split
  next failure _ => exact .inl ⟨failure, rfl⟩
  next => exact .inr rfl

/-- In whatever way a request is answered, the answer does what the request
lets it do. -/
theorem Reacts.answered (h : c.Reacts r reply d) : Answered r c d := by
  cases h with
  | notes hentry _ =>
      exact .recorded ⟨rfl, rfl, rfl, rfl⟩
        (Request.records_of_entry hentry) rfl
  | fails | failsToAlter | characterizes | releases | goesBack =>
      exact .silent ⟨rfl, rfl, rfl, rfl⟩ rfl
  | runs | defines | alters | begins | aborts | finishes | saves
  | abortsBranches =>
      exact .recorded ⟨rfl, rfl, rfl, rfl⟩ rfl rfl
  | sends | stops | writes => exact .recorded ⟨rfl, rfl, rfl, rfl⟩ rfl rfl
  | commits | prepares => exact .recorded ⟨rfl, rfl, rfl, rfl⟩ (.inl rfl) rfl
  | endsFailed | preparesFailed =>
      exact .recorded ⟨rfl, rfl, rfl, rfl⟩ (.inr rfl) rfl
  -- the requests about the registry and the branches on other nodes
  | holds | frees =>
      exact ⟨rfl, rfl, .inr ⟨_, rfl, rfl⟩, fun h => absurd trivial h⟩
  | registers | strikes | settles =>
      exact ⟨rfl, rfl, .inl rfl, fun h => absurd trivial h⟩
  | _ => exact .refl _ c

/-- Every answer does what its request lets it do. -/
theorem answered_answer (r : Request) (c : Cluster) :
    Answered r c (answer r c).2 :=
  (reacts_answer r c).answered

-- ====================================================== what is added

/-- The journal grew, and only by entries of a kind. -/
def Adds (P : Event → Prop) (c d : Cluster) : Prop :=
  ∃ events, d.journal = c.journal ++ events ∧ ∀ event ∈ events, P event

namespace Adds

variable {P Q : Event → Prop}

/-- Nothing was added to a journal that is as it was. -/
theorem refl (P : Event → Prop) (c : Cluster) : Adds P c c :=
  ⟨[], (List.append_nil _).symm, List.forall_mem_nil P⟩

/-- What was added in two steps was added. -/
theorem trans (h : Adds P c d) (h' : Adds P d e) : Adds P c e := by
  obtain ⟨events, hj, hP⟩ := h
  obtain ⟨more, hj', hP'⟩ := h'
  refine ⟨events ++ more, by rw [hj', hj, List.append_assoc],
    fun event hmem => ?_⟩
  exact (List.mem_append.mp hmem).elim (hP event) (hP' event)

/-- Of a narrower kind is also of a wider one. -/
theorem imp (h : Adds P c d) (himp : ∀ event, P event → Q event) :
    Adds Q c d := by
  obtain ⟨events, hj, hP⟩ := h
  exact ⟨events, hj, fun event hmem => himp event (hP event hmem)⟩

/-- What was added, by whatever name, is of the kind. -/
theorem of_append (h : Adds P c d) {events : List Event}
    (hj : d.journal = c.journal ++ events) : ∀ event ∈ events, P event := by
  obtain ⟨more, hmore, hP⟩ := h
  obtain rfl : events = more := List.append_cancel_left (hj.symm.trans hmore)
  exact hP

/-- What an answer adds is of a kind if all is that its request may enter. -/
theorem of_answered {P : Event → Prop} (h : Answered r c d)
    (hrecords : ∀ event, r.Records event → P event) : Adds P c d := by
  rcases h.journal with hj | ⟨event, hevent, hj⟩
  · refine ⟨[], ?_, List.forall_mem_nil P⟩
    rw [hj, List.append_nil]
  · refine ⟨[event], hj, fun other hmem => ?_⟩
    obtain rfl := List.mem_singleton.mp hmem
    exact hrecords other hevent

end Adds

end Cluster

end ClusterUtility
