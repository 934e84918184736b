/-
The life of an entry in the registry of global transactions.

A transaction enters the registry prepared, loses its branches one by one,
and is committed or aborted when none is left; only then may another one take
its identifier. `Proceeds` lists these steps, and `entries_live` follows an
entry through every cluster that a run goes through, answer by answer.

# What the registry does not check

To strike a branch and to end an entry, the registry takes on trust: it looks
neither at the outcome that the transaction is bound to nor at the branches
that are left. So the steps hold only where the request comes at the right
time (`Request.Suits`, `Reacts.proceeds`), and that it does is owed to the
commands alone. A finish strikes branches only under an entry whose outcome
allows it, and it ends an entry after the last branch (`suits_finish`);
nothing else asks for either.

# What follows from the steps

Two facts about a whole life come from its steps. Every entry is consistent,
since each step leaves it so. And as long as a transaction waits, it wanes:
across any stretch of the run, however it goes on, branches only leave, and
the outcome is bound at most once.
-/
import ClusterUtility.Proofs.Transaction.Atomicity

namespace ClusterUtility

open Cluster (answer)
open Program (Meets request)

-- ====================================================== the steps

/-- From one moment to the next, an entry of the registry goes on by one step
at most. -/
inductive Proceeds (gid : Gid) :
    Option RegistryEntry → Option RegistryEntry → Prop
  | kept (entry : Option RegistryEntry) : Proceeds gid entry entry
  /-- A prepared transaction is entered, where there was none or one that is
  over. -/
  | entered {old : Option RegistryEntry} {t : PreparedTransaction}
      (hgid : t.gid = gid)
      (hover : ∀ entry, old = some entry → entry.status.isTerminal = true) :
      Proceeds gid old (some ⟨t, .prepared⟩)
  /-- A branch leaves, and binds an outcome that was still allowed. -/
  | struck {t : PreparedTransaction} {commit : Bool} (node : Node)
      (hallows : t.outcome.allows commit = true) :
      Proceeds gid (some ⟨t, .prepared⟩)
        (some (RegistryEntry.withoutBranch ⟨t, .prepared⟩ node commit))
  /-- The transaction is over once no branch is left, as its outcome allows. -/
  | settled {t : PreparedTransaction} {commit : Bool}
      (hallows : t.outcome.allows commit = true)
      (hnone : t.participants = []) :
      Proceeds gid (some ⟨t, .prepared⟩) (some ⟨t, .ofCommit commit⟩)

/-- What an entry says of its transaction agrees with its status. -/
structure RegistryEntry.Consistent (gid : Gid) (e : RegistryEntry) : Prop where
  gid : e.transaction.gid = gid
  status : e.status = .prepared ∨ e.status.isTerminal = true
  committed : e.status = .committed → e.transaction.outcome ≠ .rollback
  aborted : e.status = .aborted → e.transaction.outcome ≠ .commit
  /-- A transaction that is over has no branch left. -/
  ended : e.status.isTerminal = true → e.transaction.participants = []

/-- The second transaction is what may be left of the first one later: it has
fewer branches, and its outcome is the same or was bound. -/
structure PreparedTransaction.Wanes (t u : PreparedTransaction) : Prop where
  gid : u.gid = t.gid
  record : u.coordinatorRecord = t.coordinatorRecord
  participants : u.participants.Sublist t.participants
  outcome : u.outcome = t.outcome ∨ t.outcome = .undecided

/-- What is told of an identifier by the entries that the registry has under
it, from moment to moment. -/
structure LifeCycle (gid : Gid) (entries : List (Option RegistryEntry)) :
    Prop where
  proceeds : entries.IsChain (Proceeds gid)
  consistent : ∀ entry, some entry ∈ entries → entry.Consistent gid
  /-- Transactions that wait one right after another are one transaction that
  wanes. -/
  wanes : ∀ waiting : List PreparedTransaction,
    waiting.map (fun t => some ⟨t, .prepared⟩) <:+: entries →
      waiting.Pairwise PreparedTransaction.Wanes

-- ========================================= what follows from the steps

variable {gid : Gid} {commit : Bool} {t u v : PreparedTransaction}

/-- Nothing more than its name is asked of a transaction that waits. -/
theorem consistent_prepared (hgid : t.gid = gid) :
    RegistryEntry.Consistent gid ⟨t, .prepared⟩ where
  gid := hgid
  status := .inl rfl
  committed := nofun
  aborted := nofun
  ended := nofun

/-- A step leaves an entry consistent. -/
theorem consistent_of_proceeds {old new : Option RegistryEntry}
    (h : Proceeds gid old new)
    (hold : ∀ entry, old = some entry → entry.Consistent gid) :
    ∀ entry, new = some entry → entry.Consistent gid := by
  intro entry hentry
  cases h with
  | kept _ => exact hold entry hentry
  | entered hgid _ =>
      obtain rfl := Option.some.inj hentry
      exact consistent_prepared hgid
  | struck node _ =>
      obtain rfl := Option.some.inj hentry
      exact consistent_prepared (hold _ rfl).gid
  | @settled t commit hallows hnone =>
      obtain rfl := Option.some.inj hentry
      refine ⟨(hold _ rfl).gid, .inr ?_, fun hstatus hbound => ?_,
        fun hstatus hbound => ?_, fun _ => hnone⟩
      · cases commit <;> rfl
      · -- a commit is not what a rollback allows
        rw [hbound] at hallows
        cases commit with
        | true => cases hallows
        | false => cases hstatus
      · rw [hbound] at hallows
        cases commit with
        | true => cases hstatus
        | false => cases hallows

namespace PreparedTransaction

private theorem Wanes.refl (t : PreparedTransaction) : t.Wanes t :=
  ⟨rfl, rfl, List.Sublist.refl _, .inl rfl⟩

/-- What is left of what is left of a transaction is left of it. -/
private theorem Wanes.trans (h : t.Wanes u) (h' : u.Wanes v) : t.Wanes v where
  gid := h'.gid.trans h.gid
  record := h'.record.trans h.record
  participants := h'.participants.trans h.participants
  outcome := by
    rcases h.outcome with heq | hfree
    · rw [← heq]
      exact h'.outcome
    · exact .inr hfree

instance : IsTrans PreparedTransaction PreparedTransaction.Wanes :=
  ⟨fun _ _ _ => Wanes.trans⟩

end PreparedTransaction

/-- An outcome that allows what it is bound to next is that, or was free. -/
theorem Outcome.eq_ofCommit_of_allows {o : Outcome}
    (h : o.allows commit = true) : .ofCommit commit = o ∨ o = .undecided := by
  cases o with
  | undecided => exact .inr rfl
  | commit =>
      obtain rfl : commit = true := h
      exact .inl rfl
  | rollback =>
      obtain rfl : commit = false := by simpa [Outcome.allows] using h
      exact .inl rfl

/-- Between two moments at which a transaction waits, it wanes. -/
theorem wanes_of_proceeds
    (h : Proceeds gid (some ⟨t, .prepared⟩) (some ⟨u, .prepared⟩)) :
    t.Wanes u := by
  generalize hold : some (RegistryEntry.mk t .prepared) = old at h
  generalize hnew : some (RegistryEntry.mk u .prepared) = new at h
  cases h with
  | kept _ =>
      obtain ⟨rfl, _⟩ :=
        RegistryEntry.mk.inj (Option.some.inj (hnew.trans hold.symm))
      exact .refl _
  | entered hgid hover =>
      -- a transaction that waits is not over, so no other one takes its place
      cases hover _ hold.symm
  | struck node hallows =>
      obtain ⟨rfl, _⟩ := RegistryEntry.mk.inj (Option.some.inj hold)
      obtain ⟨rfl, _⟩ := RegistryEntry.mk.inj (Option.some.inj hnew)
      exact ⟨rfl, rfl, List.filter_sublist,
        Outcome.eq_ofCommit_of_allows hallows⟩
  | @settled _ commit hallows hnone =>
      have hstatus := (RegistryEntry.mk.inj (Option.some.inj hnew)).2
      cases commit <;> cases hstatus

/-- A chain of steps that begins without an entry is a life. -/
theorem lifeCycle_of_chain {entries : List (Option RegistryEntry)}
    (h : (none :: entries).IsChain (Proceeds gid)) :
    LifeCycle gid (none :: entries) where
  proceeds := h
  consistent := by
    have hall := h.induction
      (fun e => ∀ entry, e = some entry → entry.Consistent gid) _
      (fun _ _ hstep hold => consistent_of_proceeds hstep hold)
      (fun _ _ => nofun)
    exact fun entry hmem => hall _ hmem entry rfl
  wanes := by
    intro waiting hstretch
    have hwithin := List.IsChain.infix h hstretch
    have hchain := (List.isChain_map _).mp hwithin
    exact List.isChain_iff_pairwise.mp
      (hchain.imp fun _ _ => wanes_of_proceeds)

-- ========================================== requests at the right time

/-- A request to strike a branch or to end an entry comes at the right
time. -/
def Request.Suits (c : Cluster) : Request → Prop
  | .dropBranch gid _ commit =>
      ∃ t, c.lookup gid = some t ∧ t.outcome.allows commit = true
  | .complete gid status =>
      ∃ t commit, c.lookup gid = some t ∧ t.outcome.allows commit = true ∧
        t.participants = [] ∧ status = .ofCommit commit
  | _ => True

/-- Other requests suit every cluster. -/
theorem Request.suits_of_not_isOfFinish {r : Request} (h : ¬ r.IsOfFinish)
    (c : Cluster) : r.Suits c := by
  cases r with
  | dropBranch gid node commit => exact absurd trivial h
  | complete gid status => exact absurd trivial h
  | _ => trivial

/-- Only requests about a prepared transaction are those of a finish. -/
private theorem not_isOfFinish_of_reach {r : Request}
    (h : r.reach ≠ .prepared) : ¬ r.IsOfFinish := by
  cases r with
  | dropBranch gid node commit => exact absurd rfl h
  | complete gid status => exact absurd rfl h
  | _ => exact id

/-- Under an identifier for which something waits there is its prepared
entry. -/
theorem Cluster.registry_of_lookup {c : Cluster} (h : c.lookup gid = some t) :
    c.registry.get? gid = some ⟨t, .prepared⟩ := by
  rw [Cluster.lookup_eq] at h
  exact Holding.waiting_eq_some.mp h

/-- What a node does with its branch is nothing to the registry. -/
theorem Cluster.registry_finishBranch (c : Cluster) (node : Node) (gid : Gid)
    (commit : Bool) :
    (c.finishBranch node gid commit).2.registry = c.registry := by
  rw [finishBranch_eq]
  split
  · rfl
  · split <;> rfl

variable {c d : Cluster} {r : Request} {reply : r.Reply}

/-- A transaction may be entered where none is unfinished. -/
theorem proceeds_enter (hfault : c.registryFault? t.gid = none) (gid : Gid) :
    Proceeds gid (c.registry.get? gid) ((c.enter t).registry.get? gid) := by
  show Proceeds gid _ ((c.registry.insert t.gid ⟨t, .prepared⟩).get? gid)
  rw [Directory.get?_insert]
  by_cases hgid : t.gid = gid
  · rw [if_pos hgid]
    refine .entered hgid fun entry hentry => ?_
    have haccepts := (Cluster.registryFault?_eq_none.mp hfault).2
    have hheld : (c.holding t.gid).entry = some entry := by
      rw [← hentry, ← hgid]
      rfl
    rw [Holding.accepts, hheld] at haccepts
    exact haccepts
  · rw [if_neg hgid]
    exact .kept _

/-- A branch is struck from an entry whose outcome allows it. -/
theorem proceeds_dropBranch {g : Gid} {node : Node} {commit : Bool}
    (hlookup : c.lookup g = some t)
    (hallows : t.outcome.allows commit = true) (gid : Gid) :
    Proceeds gid (c.registry.get? gid)
      ((c.dropBranch g node commit).registry.get? gid) := by
  show Proceeds gid _ ((c.registry.modify g _).get? gid)
  rw [Directory.get?_modify]
  by_cases hg : g = gid
  · rw [hg] at hlookup
    rw [if_pos hg, Cluster.registry_of_lookup hlookup]
    exact .struck node hallows
  · rw [if_neg hg]
    exact .kept _

/-- An entry is settled by the outcome that it allows, after its last
branch. -/
theorem proceeds_complete {g : Gid} {commit : Bool}
    (hlookup : c.lookup g = some t) (hallows : t.outcome.allows commit = true)
    (hnone : t.participants = []) (gid : Gid) :
    Proceeds gid (c.registry.get? gid)
      ((c.complete g (.ofCommit commit)).registry.get? gid) := by
  show Proceeds gid _ ((c.registry.modify g _).get? gid)
  rw [Directory.get?_modify]
  by_cases hg : g = gid
  · rw [hg] at hlookup
    have hover : RegistryEntry.withStatus ⟨t, .prepared⟩ (.ofCommit commit)
        = ⟨t, .ofCommit commit⟩ := by
      cases commit <;> rfl
    rw [if_pos hg, Cluster.registry_of_lookup hlookup, Option.map_some, hover]
    exact .settled hallows hnone
  · rw [if_neg hg]
    exact .kept _

/-- What is asked at the right time takes an entry on by one step, in whatever
way it is answered. -/
theorem Cluster.Reacts.proceeds (hreacts : c.Reacts r reply d)
    (h : r.Suits c) (gid : Gid) :
    Proceeds gid (c.registry.get? gid) (d.registry.get? gid) := by
  cases hreacts with
  | registers hfault => exact proceeds_enter hfault gid
  | strikes =>
      obtain ⟨t, hlookup, hallows⟩ := h
      exact proceeds_dropBranch hlookup hallows gid
  | settles =>
      obtain ⟨t, commit, hlookup, hallows, hnone, rfl⟩ := h
      exact proceeds_complete hlookup hallows hnone gid
  | _ => exact .kept _

/-- Every answer at the right time takes an entry on by one step. -/
private theorem proceeds_answer (r : Request) (c : Cluster)
    (h : r.Suits c) (gid : Gid) :
    Proceeds gid (c.registry.get? gid) ((answer r c).2.registry.get? gid) :=
  (Cluster.reacts_answer r c).proceeds h gid

-- =============================================== what the commands ask

/-- All that a program asks of a cluster, it asks at the right time. -/
def Program.Suits {α : Type} (p : Program α) (c : Cluster) : Prop :=
  Meets answer (fun r d => r.Suits d) (fun _ _ => True) p c

section finishes

variable {c : Cluster}

/-- The finish goes on to allow what it binds. -/
theorem PreparedTransaction.allows_without
    (hallows : t.outcome.allows commit = true) (nodes : List Node) :
    (t.without commit nodes).outcome.allows commit = true := by
  unfold without
  dsimp only
  split
  · exact hallows
  · exact Outcome.allows_ofCommit.mpr rfl

/-- Without all of its participants, a transaction has none. -/
theorem PreparedTransaction.participants_without_all (t : PreparedTransaction)
    (commit : Bool) : (t.without commit t.participants).participants = [] := by
  simp [without]

/-- A struck branch leaves a waiting transaction, which still waits. -/
theorem lookup_dropBranch (hlookup : c.lookup gid = some t) (commit : Bool)
    (node : Node) :
    (c.dropBranch gid node commit).lookup gid
      = some (t.without commit [node]) := by
  rw [Cluster.lookup_eq] at hlookup ⊢
  rw [Cluster.holding_dropBranch, PreparedTransaction.without_cons,
    PreparedTransaction.without_nil]
  exact Holding.waiting_strike hlookup commit node

/-- Branches are struck while their transaction waits with an outcome that
allows it, and it still waits after the last one. -/
theorem suits_finishBranches (hlookup : c.lookup gid = some t)
    (hallows : t.outcome.allows commit = true) (nodes : List Node) :
    Meets answer (fun r d => r.Suits d)
      (fun _ d => d.lookup gid = some (t.without commit nodes))
      (Program.forEach (finishBranch gid commit) nodes) c := by
  have hstart : c.lookup gid = some (t.without commit []) := by
    rw [PreparedTransaction.without_nil, hlookup]
  refine Meets.forEach
    (fun done (d : Cluster) => d.lookup gid = some (t.without commit done))
    (fun done node d hd => ?_) [] nodes hstart
  refine Meets.request_bind trivial ?_
  have hwaits : (answer (.finishBranch node gid commit) d).2.lookup gid
      = some (t.without commit done) := by
    rw [← hd]
    exact Cluster.lookup_congr
      (Cluster.registry_finishBranch d node gid commit) gid
  cases hreply : (answer (.finishBranch node gid commit) d).1 with
  | error failure => trivial
  | ok _ =>
      refine ⟨⟨_, hwaits, PreparedTransaction.allows_without hallows done⟩, ?_⟩
      have hstruck := lookup_dropBranch hwaits commit node
      rw [PreparedTransaction.without_append] at hstruck
      exact hstruck

/-- An entry is ended after its last branch, as its outcome allows. -/
theorem suits_finishRegistered (hlookup : c.lookup gid = some t)
    (hallows : t.outcome.allows commit = true) :
    (finishRegistered t gid commit).Suits c := by
  refine (suits_finishBranches hlookup hallows t.participants).bind
    fun _ d hd => ?_
  have hcomplete (e : Cluster)
      (he : e.lookup gid = some (t.without commit t.participants)) :
      (request (.complete gid (.ofCommit commit))).Suits e :=
    ⟨⟨_, commit, he, PreparedTransaction.allows_without hallows _,
      t.participants_without_all commit, rfl⟩, trivial⟩
  dsimp only
  split
  · refine Meets.request_bind trivial ?_
    have hsame : (answer (.finishLocal gid commit) d).2.registry
        = d.registry :=
      ((Cluster.answered_answer _ d).held id).1
    have hwaits : (answer (.finishLocal gid commit) d).2.lookup gid
        = some (t.without commit t.participants) := by
      rw [Cluster.lookup_congr hsame]
      exact hd
    cases hreply : (answer (.finishLocal gid commit) d).1 with
    | error failure => trivial
    | ok _ => exact hcomplete _ hwaits
  · exact hcomplete d hd

/-- A finish keeps to the right time, whatever is registered. -/
theorem suits_finish (gid : Gid) (commit : Bool) (ctx : Context)
    (c : Cluster) : (finishPrepared gid commit ctx).Suits c := by
  unfold finishPrepared
  split
  · refine Meets.request_bind trivial ?_
    simp only [answer]
    cases hlookup : c.lookup gid with
    | none => trivial
    | some t =>
        dsimp only
        split
        next hallows => exact suits_finishRegistered hlookup hallows
        next => trivial
  · refine Meets.request_bind trivial ?_
    cases (answer (.finishLocal gid commit) c).1 <;> trivial

end finishes

-- =========================================== every moment of every run

/-- The commands about a transaction ask the registry at the right time. -/
theorem suits_run {command : TransactionCommand}
    (hgid : command.gid? = some gid) (ctx : Context) (c : Cluster) :
    (command.run ctx).Suits c := by
  cases command with
  | prepare g =>
      have htreats : TreatsPrepare (fun r => ¬ r.IsOfFinish) g :=
        ⟨fun r hr => not_isOfFinish_of_reach (by simp [hr]),
          fun _ _ h => h, id⟩
      have hasks : Program.Asks (fun r => ¬ r.IsOfFinish)
          (prepareTransaction g ctx) :=
        asks_prepareTransaction htreats ctx
      exact Program.meets_of_within hasks
        (fun r d hr => r.suits_of_not_isOfFinish hr d) c
  | commitPrepared g =>
      exact (suits_finish g true ctx c).bind fun _ _ _ => trivial
  | rollbackPrepared g =>
      exact (suits_finish g false ctx c).bind fun _ _ _ => trivial
  | _ => cases hgid

/-- Whatever is dispatched asks the registry at the right time, and so does all
that it expands to. -/
theorem suits_dispatch (config : Configuration) (i : Interceptor) (call : Call)
    (c : Cluster) : (dispatch config i call).Suits c := by
  induction call using dispatch_induction config generalizing c with
  | h call ih =>
      have hpermits : Permits (fun r => ¬ r.IsOfFinish) call.context :=
        .of_reach fun r hr => not_isOfFinish_of_reach hr
      refine sequential_dispatch
        (Program.sequential_meets fun r d hr => r.suits_of_not_isOfFinish hr d)
        config (hpermits.serves _) (fun hp _ _ => hpermits.message hp _ rfl) ?_
        i ih c
      intro command hs hsome htop next hnext d
      obtain ⟨gid, hgid⟩ := Option.isSome_iff_exists.mp hsome
      exact (suits_run hgid call.context d).bind fun tag e _ => hnext tag e

/-- In every move, an entry goes on from cluster to cluster by one step at
most. -/
theorem proceeds_move (gid : Gid) (c : Cluster) (m : Move) :
    (c.met m ++ [c.step m]).IsChain fun d e =>
      Proceeds gid (d.registry.get? gid) (e.registry.get? gid) := by
  cases m with
  | dispatch config i call =>
      exact (suits_dispatch config i call c).chain fun r d hr =>
        proceeds_answer r d hr gid
  | _ => exact List.isChain_pair.mpr (.kept _)

/-- Whatever happens to a cluster, and whatever fails, each identifier in the
registry has a life of this kind, from one answer to the next. -/
theorem entries_live (topology : Topology) (timestamp : String)
    (moves : List Move) (gid : Gid) :
    LifeCycle gid
      (((Cluster.fresh topology timestamp).history moves).map fun c =>
        c.registry.get? gid) := by
  have hchain := Cluster.history_chain (proceeds_move gid)
    (.fresh topology timestamp) moves
  obtain ⟨rest, hbegins⟩ :=
    Cluster.history_begins (.fresh topology timestamp) moves
  rw [hbegins] at hchain ⊢
  exact lifeCycle_of_chain ((List.isChain_map _).mpr hchain)

end ClusterUtility
