/-
Which transaction a command concerns.

The commands of two-phase commit ask this node, give up branches that are not
prepared, and otherwise ask about the transaction that they name. So what is
held of any other transaction is the same after them, and after every
statement that does not name it (`holding_dispatch_of_ne`): an expansion
cannot name one at all.
-/
import ClusterUtility.Proofs.Cluster.Perform
import ClusterUtility.Proofs.Dispatch.Reach

namespace ClusterUtility

open Program (Asks request)

-- ========================================== what two-phase commit asks

/-- Of two-phase commit, only the finishes ask the registry for this. -/
def Request.IsOfFinish : Request → Prop
  | .dropBranch .. => True
  | .complete .. => True
  | _ => False

/-- What two-phase commit on a transaction may ask. -/
structure Treats (asks : Request → Prop) (gid : Gid) : Prop where
  home : ∀ r : Request, r.reach = .home → asks r
  concerned : ∀ r : Request, r.Concerns gid → asks r
  abort : asks .abortBranches

/-- What a prepare of a transaction may ask. -/
structure TreatsPrepare (asks : Request → Prop) (gid : Gid) : Prop where
  home : ∀ r : Request, r.reach = .home → asks r
  concerned : ∀ r : Request, r.Concerns gid → ¬ r.IsOfFinish → asks r
  abort : asks .abortBranches

private theorem Treats.prepare {asks : Request → Prop} {gid : Gid}
    (h : Treats asks gid) : TreatsPrepare asks gid :=
  ⟨h.home, fun r hr _ => h.concerned r hr, h.abort⟩

/-- What a finish of a transaction may ask. -/
structure TreatsFinish (asks : Request → Prop) (gid : Gid) : Prop where
  lookup : asks (.lookup gid)
  finishBranch : ∀ node commit, asks (.finishBranch node gid commit)
  dropBranch : ∀ node commit, asks (.dropBranch gid node commit)
  finishLocal : ∀ commit, asks (.finishLocal gid commit)
  complete : ∀ status, asks (.complete gid status)

/-- To permit what concerns the transaction is enough. -/
theorem TreatsFinish.of_concerned {asks : Request → Prop} {gid : Gid}
    (hconcerned : ∀ r : Request, r.Concerns gid → asks r)
    (hhome : ∀ r : Request, r.reach = .home → asks r) :
    TreatsFinish asks gid where
  lookup := hhome _ rfl
  finishBranch := fun node commit =>
    hconcerned (.finishBranch node gid commit) rfl
  dropBranch := fun node commit => hconcerned (.dropBranch gid node commit) rfl
  finishLocal := fun commit => hconcerned (.finishLocal gid commit) rfl
  complete := fun status => hconcerned (.complete gid status) rfl

section finishes

variable {asks : Request → Prop} {gid : Gid} (h : TreatsFinish asks gid)
include h

/-- Finishing a registered transaction asks its branches, this node and the
registry. -/
private theorem asks_finishRegistered (t : PreparedTransaction)
    (commit : Bool) : Asks asks (finishRegistered t gid commit) := by
  have hcomplete : Asks asks (request (.complete gid (.ofCommit commit))) :=
    Asks.request (h.complete _)
  refine Asks.bind (Asks.forEach (fun node => ?_) t.participants) fun _ => ?_
  · refine Asks.request_bind (h.finishBranch node commit) fun reply => ?_
    cases reply with
    | ok _ => exact Asks.request (h.dropBranch node commit)
    | error failure => trivial
  · dsimp only
    split
    · refine Asks.request_bind (h.finishLocal commit) fun reply => ?_
      exact Asks.bind (Asks.ofReply reply) fun _ => hcomplete
    · exact hcomplete

/-- So does a finish, wherever the command comes from. -/
private theorem asks_finishPrepared (commit : Bool) (c : Context) :
    Asks asks (finishPrepared gid commit c) := by
  unfold finishPrepared
  split
  · refine Asks.request_bind h.lookup fun known => ?_
    cases known with
    | none => trivial
    | some t =>
        dsimp only
        split
        · exact asks_finishRegistered h t commit
        · trivial
  · refine Asks.request_bind (h.finishLocal commit) fun reply => ?_
    exact Asks.ofReply reply

/-- What COMMIT PREPARED and ROLLBACK PREPARED ask. -/
theorem asks_run_finish (commit : Bool) (c : Context) :
    Asks asks (TransactionCommand.run c (.finish gid commit)) := by
  cases commit with
  | true => exact Asks.bind (asks_finishPrepared h true c) fun _ => trivial
  | false => exact Asks.bind (asks_finishPrepared h false c) fun _ => trivial

end finishes

section prepares

variable {asks : Request → Prop} {gid : Gid} (h : TreatsPrepare asks gid)
include h

/-- Rolling branches back asks these branches. -/
private theorem asks_rollBackBranches (nodes : List Node) :
    Asks asks (rollBackBranches gid nodes) := by
  induction nodes with
  | nil => trivial
  | cons node rest ih =>
      refine Asks.request_bind
        (h.concerned (.finishBranch node gid false) rfl id) fun reply => ?_
      refine Asks.bind ih fun inDoubt => ?_
      cases reply <;> trivial

/-- Undoing a prepare asks the branches, and the registry for those that are in
doubt. -/
private theorem asks_undoPrepare (nodes : List Node) :
    Asks asks (undoPrepare gid nodes) := by
  have habort : Asks asks (do
      let _ ← request .abortBranches
      let _ ← request .abortBlock
      return ()) :=
    Asks.request_bind h.abort fun _ =>
      Asks.request_bind (h.home _ rfl) fun _ => trivial
  refine Asks.bind (asks_rollBackBranches h nodes) fun inDoubt => ?_
  dsimp only
  split
  · exact Asks.request_bind
      (h.concerned (.register (.rollbackOnly gid inDoubt)) rfl id)
      fun _ => habort
  · exact habort

/-- Preparing branches asks them, and undoes the prepare where one fails. -/
private theorem asks_prepareBranches (prepared nodes : List Node) :
    Asks asks (prepareBranches gid prepared nodes) := by
  induction nodes generalizing prepared with
  | nil => trivial
  | cons node rest ih =>
      refine Asks.request_bind (h.concerned (.prepareBranch node gid) rfl id)
        fun reply => ?_
      cases reply with
      | ok _ => exact ih (prepared ++ [node])
      | error failure =>
          exact Asks.bind (asks_undoPrepare h prepared) fun _ => trivial

/-- Ending the local side asks this node. -/
private theorem asks_endLocalSide (hasRecord : Bool) :
    Asks asks (endLocalSide gid hasRecord) := by
  unfold endLocalSide
  split
  · exact Asks.request (h.concerned (.prepareBlock gid) rfl id)
  · exact Asks.request (h.home .endBlock rfl)

/-- Registering asks the registry, and undoes the prepare where it refuses. -/
private theorem asks_registerPrepared (branches : List Node)
    (hasRecord : Bool) :
    Asks asks (registerPrepared gid branches hasRecord) := by
  refine Asks.request_bind
    (h.concerned (.register (.undecided gid branches hasRecord)) rfl id)
    fun reply => ?_
  cases reply with
  | ok _ => trivial
  | error failure =>
      have hundo : Asks asks (do
          undoPrepare gid branches
          .fail failure : Program TagOverride) :=
        Asks.bind (asks_undoPrepare h branches) fun _ => trivial
      dsimp only
      split
      · exact Asks.request_bind (h.concerned (.finishLocal gid false) rfl id)
          fun _ => hundo
      · exact hundo

/-- What PREPARE TRANSACTION from a client asks. -/
private theorem asks_prepareFromClient :
    Asks asks (prepareFromClient gid) := by
  refine Asks.request_bind (h.home (.lookup gid) rfl) fun known => ?_
  split
  · trivial
  · refine Asks.request_bind (h.home .inFailedBlock rfl) fun failed => ?_
    split
    · refine Asks.request_bind h.abort fun _ => ?_
      refine Asks.request_bind (h.concerned (.prepareBlock gid) rfl id)
        fun reply => ?_
      exact Asks.bind (Asks.ofReply reply) fun _ => trivial
    · refine Asks.request_bind (h.home .participants rfl) fun branches => ?_
      refine Asks.bind (asks_prepareBranches h [] branches) fun _ => ?_
      refine Asks.request_bind (h.home .touchedCatalog rfl) fun hasRecord => ?_
      refine Asks.bind (asks_endLocalSide h hasRecord) fun reply => ?_
      match reply with
      | .ok true => exact asks_registerPrepared h branches hasRecord
      | .ok false =>
          exact Asks.bind (asks_undoPrepare h branches) fun _ => trivial
      | .error failure =>
          exact Asks.bind (asks_undoPrepare h branches) fun _ => trivial

/-- What PREPARE TRANSACTION asks, wherever it comes from. -/
theorem asks_prepareTransaction (c : Context) :
    Asks asks (prepareTransaction gid c) := by
  unfold prepareTransaction
  split
  · exact asks_prepareFromClient h
  · refine Asks.request_bind (h.concerned (.prepareBlock gid) rfl id)
      fun reply => ?_
    refine Asks.bind (Asks.ofReply reply) fun prepared => ?_
    cases prepared <;> trivial

end prepares

/-- What a command that names a transaction asks. -/
theorem asks_run_of_gid? {asks : Request → Prop} {gid : Gid}
    (h : Treats asks gid) {command : TransactionCommand}
    (hgid : command.gid? = some gid) (c : Context) :
    Asks asks (command.run c) := by
  cases command with
  | prepare g =>
      obtain rfl : g = gid := Option.some.inj hgid
      exact asks_prepareTransaction h.prepare c
  | commitPrepared g =>
      obtain rfl : g = gid := Option.some.inj hgid
      exact asks_run_finish (.of_concerned h.concerned h.home) true c
  | rollbackPrepared g =>
      obtain rfl : g = gid := Option.some.inj hgid
      exact asks_run_finish (.of_concerned h.concerned h.home) false c
  | _ => cases hgid

/-- On a node that has the command from a coordinator, it asks about the branch
of that node alone. -/
theorem asks_run_routed {asks : Request → Prop} {c : Context}
    (hc : c.isClientFacing = false)
    (hprepare : ∀ gid, asks (.prepareBlock gid))
    (hfinish : ∀ gid commit, asks (.finishLocal gid commit))
    {command : TransactionCommand} (hsome : command.gid?.isSome = true) :
    Asks asks (command.run c) := by
  have hnot : ¬ c.isClientFacing = true := by simp [hc]
  have hfinishes (gid : Gid) (commit : Bool) :
      Asks asks (finishPrepared gid commit c) := by
    unfold finishPrepared
    rw [if_neg hnot]
    exact Asks.request_bind (hfinish gid commit) fun reply =>
      Asks.ofReply reply
  cases command with
  | prepare gid =>
      show Asks asks (prepareTransaction gid c)
      unfold prepareTransaction
      rw [if_neg hnot]
      refine Asks.request_bind (hprepare gid) fun reply => ?_
      refine Asks.bind (Asks.ofReply reply) fun prepared => ?_
      cases prepared <;> trivial
  | commitPrepared gid => exact Asks.bind (hfinishes gid true) fun _ => trivial
  | rollbackPrepared gid =>
      exact Asks.bind (hfinishes gid false) fun _ => trivial
  | _ => cases hsome

-- ====================================================== the others

/-- Requests of the dispatcher at large concern no transaction. -/
theorem permits_not_concerns (gid : Gid) (c : Context) :
    Permits (fun r => ¬ r.Concerns gid) c := by
  refine .of_reach fun r hr => ?_
  cases r <;> first | exact fun h => h | exact absurd rfl hr

/-- Requests about one transaction do not concern another. -/
theorem treats_not_concerns {g gid : Gid} (hne : g ≠ gid) :
    Treats (fun r => ¬ r.Concerns gid) g where
  home := (permits_not_concerns gid default).chores
  concerned := by
    intro r hr hconcerns
    cases r <;> first
      | exact absurd hr id
      | exact hne (hr.symm.trans hconcerns)
  abort := fun h => h

/-- A dispatch leaves alone what is held of a transaction that its statement
does not name. -/
theorem holding_dispatch_of_ne {call : Call} {gid : Gid}
    (hne : ∀ command, call.statement = .transaction command →
      command.gid? ≠ some gid)
    (config : Configuration) (i : Interceptor) (c : Cluster) :
    (c.perform (dispatch config i call)).2.holding gid = c.holding gid := by
  refine Cluster.holding_perform ?_ c
  refine asks_dispatch (permits_not_concerns gid _) config i
    fun command hs hsome _ => ?_
  obtain ⟨g, hg⟩ := Option.isSome_iff_exists.mp hsome
  have hother : g ≠ gid := by
    rintro rfl
    exact hne command hs hg
  exact asks_run_of_gid? (treats_not_concerns hother) hg call.context

end ClusterUtility
