/-
Why a dispatch fails, and in which cluster.

A program that fails does so where it stands, so the cluster that a failed
dispatch leaves is the one in which something was refused. `Cause` lists what
that can be:

- the gate, or an interceptor, refused a statement that the dispatch had come
  to;
- a request was refused, and an open block was left as it was;
- a request was refused, and an open block is failed;
- this layer failed for a reason of its own.

# From part to part

The first three tell of a moment of the run, and a moment of a part is a
moment of the whole, so a cause is handed on from the part that fails to the
program that it is a part of (`Cause.bind`, `Cause.of_leads`). A program has
its failures explained (`Explained`) if its parts have.
-/
import ClusterUtility.Proofs.Barrier.Course
import ClusterUtility.Proofs.Cluster.Block
import ClusterUtility.Proofs.Dispatch.Refusal
import ClusterUtility.Proofs.Program.Exchange
import ClusterUtility.Proofs.Transaction.Course

namespace ClusterUtility

open Cluster (answer)
open Program (Leads leads_of_ok request note ofReply)

-- ====================================================== causes

/-- The failure that a reply tells of, for the requests that leave an open
block as it was when they are refused. -/
def Request.spared? : (r : Request) → r.Reply → Option Failure
  | .send _, .error cause => some (.propagation cause)
  | .defineRelation .., .error failure => some failure
  | .releaseSavepoint _, .error failure => some failure
  | .rollbackToSavepoint _, .error failure => some failure
  | _, _ => none

/-- Why the run of a program fails, and in which cluster it stops; with the
statements that it may dispatch on its way. -/
inductive Cause {α : Type} (config : Configuration) (i : Interceptor)
    (inner : Call → Prop) (p : Program α) (c : Cluster) (f : Failure)
    (d : Cluster) : Prop
  /-- The gate refused a statement of an expansion. -/
  | gate {other : Call} {next : Unit → Program α} (hinner : inner other)
      (hleads : Leads answer p c
        (Program.bind (dispatch config i other) next) d)
      (hrefused : (d.perform (passGate config other)).1 = .error f)
  /-- An interceptor refused a statement of an expansion. -/
  | intercepted {other : Call} {next : Unit → Program α} (hinner : inner other)
      (hleads : Leads answer p c
        (Program.bind (dispatch config i other) next) d)
      (hkind : i.admits other.statement.kind = false)
      (hfailure : f = Interceptor.refusal other.statement.kind)
  /-- A request was refused, and nothing came of it. -/
  | spared {r : Request} {next : r.Reply → Program α}
      (hleads : Leads answer p c (.ask r next) d)
      (hreply : r.spared? (answer r d).1 = some f)
      (hkept : (answer r d).2 = d) (hrefusal : f.isRefusal = false)
  /-- If a block is open, it is failed. -/
  | marked (hfailed : d.session.inBlock = true → d.session.failed = true)
      (hrefusal : f.isRefusal = false)
  | own (hown : f.isOwn = true)

/-- Whenever the run of a program from a cluster fails, there is a cause. -/
def Explained {α : Type} (config : Configuration) (i : Interceptor)
    (inner : Call → Prop) (p : Program α) (c : Cluster) : Prop :=
  ∀ f d, c.perform p = (.error f, d) → Cause config i inner p c f d

variable {α β : Type} {config : Configuration} {i : Interceptor}
  {inner : Call → Prop} {c d e : Cluster} {f : Failure}

/-- A cause in what a run comes to is one of the run. -/
theorem Cause.of_leads {p q : Program α} (h : Cause config i inner q e f d)
    (hleads : Leads answer p c q e) : Cause config i inner p c f d := by
  cases h with
  | gate hinner hmoment hrefused =>
      exact .gate hinner (hleads.trans hmoment) hrefused
  | intercepted hinner hmoment hkind hfailure =>
      exact .intercepted hinner (hleads.trans hmoment) hkind hfailure
  | spared hmoment hreply hkept hrefusal =>
      exact .spared (hleads.trans hmoment) hreply hkept hrefusal
  | marked hfailed hrefusal => exact .marked hfailed hrefusal
  | own hown => exact .own hown

/-- What may be dispatched may be said more loosely. -/
theorem Cause.imp {other : Call → Prop} {p : Program α}
    (h : Cause config i inner p c f d)
    (himp : ∀ call, inner call → other call) :
    Cause config i other p c f d := by
  cases h with
  | gate hinner hmoment hrefused =>
      exact .gate (himp _ hinner) hmoment hrefused
  | intercepted hinner hmoment hkind hfailure =>
      exact .intercepted (himp _ hinner) hmoment hkind hfailure
  | spared hmoment hreply hkept hrefusal =>
      exact .spared hmoment hreply hkept hrefusal
  | marked hfailed hrefusal => exact .marked hfailed hrefusal
  | own hown => exact .own hown

/-- A cause in the first part of a program is one of the program. -/
theorem Cause.bind {p : Program α} (h : Cause config i inner p c f d)
    (next : α → Program β) :
    Cause config i inner (Program.bind p next) c f d := by
  have hdispatch {other : Call} {rest : Unit → Program α}
      (hmoment : Leads answer p c
        (Program.bind (dispatch config i other) rest) d) :
      Leads answer (Program.bind p next) c
        (Program.bind (dispatch config i other) fun u =>
          Program.bind (rest u) next) d := by
    rw [← Program.bind_assoc]
    exact hmoment.bind next
  cases h with
  | gate hinner hmoment hrefused =>
      exact .gate hinner (hdispatch hmoment) hrefused
  | intercepted hinner hmoment hkind hfailure =>
      exact .intercepted hinner (hdispatch hmoment) hkind hfailure
  | spared hmoment hreply hkept hrefusal =>
      exact .spared (hmoment.bind next) hreply hkept hrefusal
  | marked hfailed hrefusal => exact .marked hfailed hrefusal
  | own hown => exact .own hown

namespace Explained

/-- What does not fail needs no explanation. -/
theorem of_ok {p : Program α} {value : α} (h : c.perform p = (.ok value, d)) :
    Explained config i inner p c := by
  intro f e hfail
  rw [h] at hfail
  cases hfail

/-- A program that is done has no failure to explain. -/
theorem done (value : α) (c : Cluster) :
    Explained config i inner (.done value) c :=
  of_ok rfl

/-- A failure of this layer explains itself. -/
theorem fail (hown : f.isOwn = true) (c : Cluster) :
    Explained config i inner (.fail f : Program α) c := by
  intro g e hfail
  obtain rfl : f = g := Except.error.inj (Prod.mk.inj hfail).1
  exact .own hown

/-- A program whose first part is explained, and what follows it wherever it
may lead, is explained. -/
theorem bind {p : Program α} {next : α → Program β}
    (hp : Explained config i inner p c)
    (hnext : ∀ value d, c.perform p = (.ok value, d) →
      Explained config i inner (next value) d) :
    Explained config i inner (Program.bind p next) c := by
  intro f e hfail
  cases hperform : c.perform p with
  | mk result d =>
      cases result with
      | error g =>
          rw [Cluster.perform_bind_of_error hperform] at hfail
          obtain ⟨hg, rfl⟩ := Prod.mk.inj hfail
          obtain rfl := Except.error.inj hg
          exact (hp g d hperform).bind next
      | ok value =>
          rw [Cluster.perform_bind_of_ok hperform] at hfail
          obtain ⟨hresult, rfl⟩ := Prod.mk.inj hperform
          exact (hnext value _ hperform f e hfail).of_leads
            ((leads_of_ok hresult).bind next)

/-- A request and what follows its reply. -/
theorem request_bind {r : Request} {next : r.Reply → Program β}
    (h : Explained config i inner (next (answer r c).1) (answer r c).2) :
    Explained config i inner (Program.bind (request r) next) c :=
  bind (of_ok rfl) fun reply d hperform => by
    obtain ⟨hreply, rfl⟩ := Prod.mk.inj hperform
    obtain rfl := Except.ok.inj hreply
    exact h

/-- A request is refused and an open block left as it was. -/
theorem spared {r : Request} {next : r.Reply → Program β}
    (hreply : r.spared? (answer r c).1 = some f) (hkept : (answer r c).2 = c)
    (hrefusal : f.isRefusal = false) (hnext : next (answer r c).1 = .fail f) :
    Explained config i inner (Program.bind (request r) next) c := by
  intro g d hfail
  rw [Cluster.perform_request_bind, hnext, hkept] at hfail
  obtain ⟨hg, rfl⟩ := Prod.mk.inj hfail
  obtain rfl := Except.error.inj hg
  exact .spared .here hreply hkept hrefusal

/-- A reply that tells of a failure, after the request that it answers. -/
theorem ofReply {reply : Except Failure α}
    (h : ∀ f, reply = .error f →
      Cause config i inner (Program.ofReply reply) c f c) :
    Explained config i inner (Program.ofReply reply) c := by
  cases reply with
  | ok value => exact done value c
  | error g =>
      intro f d hfail
      obtain ⟨hg, rfl⟩ := Prod.mk.inj hfail
      obtain rfl := Except.error.inj hg
      exact h g rfl

/-- A reply that tells only of failures of this layer is explained. -/
theorem ofReply_own {reply : Except Failure α}
    (h : ∀ f, reply = .error f → f.isOwn = true) :
    Explained config i inner (Program.ofReply reply) c :=
  ofReply fun f hf => .own (h f hf)

/-- A request whose refusals leave everything as it was, and what follows it
when it is not refused. -/
theorem ofReply_spared {τ : Type} (r : Request)
    (toReply : r.Reply → Except Failure τ)
    (htells : ∀ reply f, toReply reply = .error f → r.spared? reply = some f)
    (herror : ∀ f, toReply (answer r c).1 = .error f →
      f.isRefusal = false ∧ (answer r c).2 = c)
    {next : τ → Program β}
    (hnext : ∀ value d, Explained config i inner (next value) d) :
    Explained config i inner
      (Program.bind (request r) fun reply =>
        Program.bind (Program.ofReply (toReply reply)) next)
      c := by
  cases hreply : toReply (answer r c).1 with
  | ok value =>
      refine request_bind ?_
      rw [hreply]
      exact hnext value _
  | error f =>
      obtain ⟨hrefusal, hkept⟩ := herror f hreply
      have hfails :
          Program.bind (Program.ofReply (toReply (answer r c).1)) next
            = .fail f := by
        rw [hreply]
        rfl
      exact spared (htells _ f hreply) hkept hrefusal hfails

/-- A loop is explained if every step of it is. -/
theorem forEach {act : α → Program Unit}
    (hact : ∀ item c, Explained config i inner (act item) c)
    (items : List α) (c : Cluster) :
    Explained config i inner (Program.forEach act items) c := by
  induction items generalizing c with
  | nil => exact done () c
  | cons item rest ih => exact (hact item c).bind fun _ d _ => ih d

end Explained

end ClusterUtility
