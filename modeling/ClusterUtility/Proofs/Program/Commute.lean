/-
Programs that can be run in either order.

Two programs commute if it does not matter which of them runs first: each ends
the same way and tells the client the same as when it runs alone, and the two
orders leave related worlds (`Program.Commutes`). The worlds need not be equal,
since a world may keep the order of what happened in it.

Whether programs commute is decided by their requests. A program that commutes
with each request of another one commutes with the whole of it
(`Commutes.of_requests`): it can be moved past the requests one at a time, as
long as related worlds cannot be told apart. A request is a program too, so the
same step leads from requests that commute with one another to programs that
do (`commutes_of_asks`).
-/
import ClusterUtility.Proofs.Program.Alike

namespace ClusterUtility.Program

variable {α β σ : Type} {answer : Answers σ} {E : σ → σ → Prop}
  {asks asks' : Request → Prop} {p : Program α} {q : Program β} {u v w : σ}

/-- The program ends the same way in two worlds, and tells the client the
same. -/
abbrev EndsAlike (answer : Answers σ) (p : Program α) (w v : σ) : Prop :=
  Alike answer (fun _ _ => True) p p w v

private theorem EndsAlike.refl (p : Program α) (w : σ) :
    EndsAlike answer p w w := ⟨rfl, rfl, trivial⟩

private theorem EndsAlike.trans (h : EndsAlike answer p u v)
    (h' : EndsAlike answer p v w) : EndsAlike answer p u w :=
  ⟨h'.result.trans h.result, h'.told.trans h.told, trivial⟩

/-- In whichever order two programs run, each ends as it does alone, and the
worlds after both are related. -/
structure Commutes (answer : Answers σ) (E : σ → σ → Prop) (p : Program α)
    (q : Program β) (w : σ) : Prop where
  first : EndsAlike answer p w (run answer q w).world
  second : EndsAlike answer q w (run answer p w).world
  worlds : E (run answer q (run answer p w).world).world
    (run answer p (run answer q w).world).world

private theorem Commutes.symm (hE : Equivalence E)
    (h : Commutes answer E p q w) : Commutes answer E q p w :=
  ⟨h.second, h.first, hE.symm h.worlds⟩

/-- Every request gets the same reply in related worlds, and leaves related
worlds. -/
def Respects (answer : Answers σ) (E : σ → σ → Prop)
    (asks : Request → Prop) : Prop :=
  ∀ r w v, asks r → E w v → (answer r v).1 = (answer r w).1 ∧
    E (answer r w).2 (answer r v).2

/-- A program that commutes with every request of another one commutes with all
of it. -/
theorem Commutes.of_requests (hE : Equivalence E)
    (hrespects : Respects answer E asks)
    (hrequest : ∀ r w, asks r → Commutes answer E (request r) q w)
    (h : p.Asks asks) (w : σ) : Commutes answer E p q w := by
  induction p generalizing w with
  | done value => exact ⟨⟨rfl, rfl, trivial⟩, .refl q w, hE.refl _⟩
  | fail failure => exact ⟨⟨rfl, rfl, trivial⟩, .refl q w, hE.refl _⟩
  | ask r next ih =>
      have hr := hrequest r w h.1
      have hreply : (answer r (run answer q w).world).1 = (answer r w).1 :=
        Except.ok.inj hr.first.result
      have hnext := ih (answer r w).1 (h.2 _) (answer r w).2
      -- the rest runs after both, and the two orders of what came before are
      -- related
      have hrest : Alike answer E (next (answer r w).1) (next (answer r w).1)
          (run answer q (answer r w).2).world
          (answer r (run answer q w).world).2 :=
        alike_of_asks hrespects (h.2 _) hr.worlds
      refine ⟨?_, hr.second.trans hnext.second, ?_⟩
      · show Run.Alike _ _
            (run answer (next (answer r (run answer q w).world).1) _)
        rw [hreply]
        exact ⟨hrest.result.trans hnext.first.result,
          hrest.told.trans hnext.first.told, trivial⟩
      · show E _ (run answer (next (answer r (run answer q w).world).1)
            _).world
        rw [hreply]
        exact hE.trans hnext.worlds hrest.worlds
  | tell n next ih =>
      have hnext := ih h w
      exact ⟨hnext.first.tell n, hnext.second, hnext.worlds⟩

/-- Programs whose requests commute with one another commute. -/
theorem commutes_of_asks (hE : Equivalence E)
    (hrespects : Respects answer E asks) (hrespects' : Respects answer E asks')
    (hrequests : ∀ r s w, asks r → asks' s →
      Commutes answer E (request r) (request s) w)
    (hp : p.Asks asks) (hq : q.Asks asks') (w : σ) :
    Commutes answer E p q w := by
  refine Commutes.of_requests hE hrespects (fun r w hr => ?_) hp w
  have hmoved : Commutes answer E q (request r) w :=
    Commutes.of_requests hE hrespects'
      (fun s v hs => (hrequests r s v hr hs).symm hE) hq w
  exact hmoved.symm hE

end ClusterUtility.Program
