/-
Two runs that cannot be told apart.

A program run in one world and a program run in another are alike, if both
end the same way and tell the client the same, and the worlds that they leave
are related again (`Program.Alike`). What an interceptor notes is not told to
the client, so it does not count.

Runs are compared part by part (`Alike.bind`). Where one program runs in both
worlds, it is enough to look at its requests: if each gets the same reply in
related worlds and leaves related worlds, the runs are alike
(`alike_of_asks`).
-/
import ClusterUtility.Proofs.Program.Within

namespace ClusterUtility

/-- What an interceptor noted. -/
def Note.isSighting : Note → Bool
  | .sighted _ => true
  | _ => false

namespace Program

variable {α β σ : Type} {answer : Answers σ} {R : σ → σ → Prop}

/-- All that a run told the client, in order. -/
def Run.told (r : Run σ α) : List Note := r.notes.filter fun n => !n.isSighting

/-- Two runs end the same way and tell the client the same, and they leave
related worlds. -/
structure Run.Alike (R : σ → σ → Prop) (r r' : Run σ α) : Prop where
  result : r'.result = r.result
  told : r'.told = r.told
  worlds : R r.world r'.world

/-- Two programs have alike runs, each in its world. -/
def Alike (answer : Answers σ) (R : σ → σ → Prop) (p q : Program α)
    (w v : σ) : Prop :=
  Run.Alike R (run answer p w) (run answer q v)

variable {p q : Program α} {w v : σ}

-- ====================================================== part by part

/-- What follows alike runs is compared at each value, in related worlds. -/
theorem Alike.bind {next next' : α → Program β} (h : Alike answer R p q w v)
    (hnext : ∀ value w' v', R w' v' →
      Alike answer R (next value) (next' value) w' v') :
    Alike answer R (Program.bind p next) (Program.bind q next') w v := by
  have hresult := h.result
  have htold := h.told
  unfold Alike
  rw [run_bind, run_bind, hresult]
  cases (run answer p w).result with
  | error failure => exact ⟨rfl, htold, h.worlds⟩
  | ok value =>
      have hrest := hnext value _ _ h.worlds
      have htold' := hrest.told
      refine ⟨hrest.result, ?_, hrest.worlds⟩
      unfold Run.told at htold htold' ⊢
      rw [List.filter_append, List.filter_append, htold, htold']

/-- Both tell the same first. -/
theorem Alike.tell (n : Note) (h : Alike answer R p q w v) :
    Alike answer R (.tell n p) (.tell n q) w v where
  result := h.result
  told := by
    have htold := h.told
    unfold Run.told at htold ⊢
    simp only [run, List.filter_cons, htold]
  worlds := h.worlds

theorem told_sighted (s : Sighting) (p : Program α) (w : σ) :
    (run answer (.tell (.sighted s) p) w).told = (run answer p w).told :=
  List.filter_cons_of_neg (by simp [Note.isSighting])

/-- A note of the first run alone makes no difference. -/
theorem Alike.sighted_left (h : Alike answer R p q w v) (s : Sighting) :
    Alike answer R (.tell (.sighted s) p) q w v :=
  ⟨h.result, h.told.trans (told_sighted s p w).symm, h.worlds⟩

theorem Alike.sighted_right (h : Alike answer R p q w v) (s : Sighting) :
    Alike answer R p (.tell (.sighted s) q) w v :=
  ⟨h.result, (told_sighted s q v).trans h.told, h.worlds⟩

-- ====================================================== one program

/-- A program whose requests get the same reply in related worlds, and leave
related worlds, has alike runs. -/
theorem alike_of_asks {asks : Request → Prop}
    (hanswer : ∀ r w v, asks r → R w v →
      (answer r v).1 = (answer r w).1 ∧ R (answer r w).2 (answer r v).2)
    (h : p.Asks asks) {w v : σ} (hR : R w v) : Alike answer R p p w v := by
  induction p generalizing w v with
  | done value => exact ⟨rfl, rfl, hR⟩
  | fail failure => exact ⟨rfl, rfl, hR⟩
  | ask r next ih =>
      obtain ⟨hreply, hworlds⟩ := hanswer r w v h.1 hR
      have hrest := ih (answer r w).1 (h.2 _) hworlds
      show Run.Alike R _ (run answer (next (answer r v).1) (answer r v).2)
      rw [hreply]
      exact hrest
  | tell n next ih => exact (ih h hR).tell n

end Program

end ClusterUtility
