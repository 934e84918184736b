/-
Performing a program on a cluster: how it ends, and the cluster after it.

What a program tells the client is of no concern to the cluster, so it is
left out here. What is left is sequential: a request is answered and the rest
is performed after the answer, and a part that fails ends the whole where it
stands.
-/
import ClusterUtility.Proofs.Cluster.History

namespace ClusterUtility.Cluster

open Program (request)

variable {α β : Type} {c d : Cluster}

/-- How a program ends on a cluster, and the cluster after it. -/
def perform (c : Cluster) (p : Program α) : Except Failure α × Cluster :=
  ((Program.run answer p c).result, (Program.run answer p c).world)

-- ====================================================== step by step

/-- A request by itself ends with the reply to it. -/
theorem perform_request (c : Cluster) (r : Request) :
    c.perform (request r) = (.ok (answer r c).1, (answer r c).2) := rfl

/-- What follows a request goes on from the answer. -/
theorem perform_request_bind (c : Cluster) (r : Request)
    (next : r.Reply → Program β) :
    c.perform (Program.bind (request r) next)
      = (answer r c).2.perform (next (answer r c).1) := rfl

-- =================================================== one after another

/-- What follows a program that ends with a value goes on with it. -/
theorem perform_bind_of_ok {p : Program α} {value : α}
    (h : c.perform p = (.ok value, d)) (next : α → Program β) :
    c.perform (Program.bind p next) = d.perform (next value) := by
  obtain ⟨hresult, hworld⟩ := Prod.mk.inj h
  unfold perform
  rw [Program.run_bind, hresult]
  simp only [hworld]

/-- Nothing follows a program that fails. -/
theorem perform_bind_of_error {p : Program α} {failure : Failure}
    (h : c.perform p = (.error failure, d)) (next : α → Program β) :
    c.perform (Program.bind p next) = (.error failure, d) := by
  obtain ⟨hresult, hworld⟩ := Prod.mk.inj h
  unfold perform
  rw [Program.run_bind, hresult]
  simp only [hworld]

/-- Where nothing is done with the value, the result is the same but for
it. -/
theorem perform_bind_silent {p : Program α} {next : α → Program Unit}
    (hnext : ∀ value (d : Cluster), d.perform (next value) = (.ok (), d)) :
    c.perform (Program.bind p next)
      = ((c.perform p).1.map fun _ => (), (c.perform p).2) := by
  cases h : c.perform p with
  | mk result d =>
      cases result with
      | ok value =>
          rw [perform_bind_of_ok h, hnext]
          rfl
      | error failure =>
          rw [perform_bind_of_error h]
          rfl

-- ====================================================== what it keeps

/-- A program that does not concern a transaction leaves what is held of it
alone. -/
theorem holding_perform {p : Program α} {gid : Gid}
    (h : p.Asks fun r => ¬ r.Concerns gid) (c : Cluster) :
    (c.perform p).2.holding gid = c.holding gid :=
  Program.Within.keeps (fun d => d.holding gid)
    (fun _ d hr => holding_answer hr d) h c

/-- A program adds to the journal what its requests may enter. -/
theorem adds_perform {asks : Request → Prop} {P : Event → Prop} {p : Program α}
    (h : p.Asks asks) (hrecords : ∀ r, asks r → ∀ event, r.Records event →
      P event) (c : Cluster) : Adds P c (c.perform p).2 :=
  Program.Within.related (Adds.refl P) Adds.trans
    (fun r w hr => .of_answered (answered_answer r w) (hrecords r hr)) h c

/-- What two programs in a row add, each of them adds. -/
theorem adds_perform_bind {P : Event → Prop} {p : Program α}
    {next : α → Program β} (hp : Adds P c (c.perform p).2)
    (hnext : ∀ value d, c.perform p = (.ok value, d) →
      Adds P d (d.perform (next value)).2) :
    Adds P c (c.perform (Program.bind p next)).2 := by
  cases hperform : c.perform p with
  | mk result d =>
      rw [hperform] at hp
      cases result with
      | error failure =>
          rw [perform_bind_of_error hperform]
          exact hp
      | ok value =>
          rw [perform_bind_of_ok hperform]
          exact hp.trans (hnext value d hperform)

theorem onward_perform (c : Cluster) (p : Program α) :
    Onward c (c.perform p).2 :=
  Program.Within.related Onward.refl Onward.trans
    (fun r w _ => onward_answer r w) (Program.asks_anything p) c

end ClusterUtility.Cluster
