/-
What is so of the worlds that a run goes through.

`Program.met` lists the worlds that the requests of a run meet, one for each
request, so a run can be followed answer by answer and not only from its
start to its end.

# In the world that it meets

Some answers do what they should only where the world is ready for the
request. `Program.Meets` says of a run that every request finds its world
ready, and that the value, if there is one, comes in a world that is fit for
it. A part that asks only what every world is ready for needs no more than a
bound on its requests (`meets_of_within`); elsewhere the parts are followed
from world to world (`Meets.bind`), and a loop by an invariant
(`Meets.forEach`).

What every answer does in a world that is ready, each step of the run does
(`Meets.chain`).
-/
import ClusterUtility.Proofs.Program.Exchange
import Mathlib.Data.List.Chain

namespace ClusterUtility.Program

variable {α β σ : Type} {answer : Answers σ} {asked : Request → σ → Prop}
  {given : α → σ → Prop} {p : Program α} {w : σ}

-- ================================================= the worlds of a run

/-- The worlds that the requests of a run meet, in order. -/
def met (answer : Answers σ) : Program α → σ → List σ
  | .done _, _ => []
  | .fail _, _ => []
  | .ask r next, w => w :: met answer (next (answer r w).1) (answer r w).2
  | .tell _ next, w => met answer next w

/-- A run begins in the world that it is given. -/
theorem met_begins (answer : Answers σ) (p : Program α) (w : σ) :
    ∃ rest, met answer p w ++ [(run answer p w).world] = w :: rest := by
  induction p with
  | done value => exact ⟨[], rfl⟩
  | fail failure => exact ⟨[], rfl⟩
  | ask r next ih => exact ⟨_, rfl⟩
  | tell n next ih => exact ih

-- ====================================================== ready worlds

/-- Every request of the run finds its world ready, and so does the value. -/
def Meets (answer : Answers σ) (asked : Request → σ → Prop)
    (given : α → σ → Prop) :
    Program α → σ → Prop
  | .done value, w => given value w
  | .fail _, _ => True
  | .ask r next, w =>
      asked r w ∧ Meets answer asked given (next (answer r w).1) (answer r w).2
  | .tell _ next, w => Meets answer asked given next w

/-- What follows a program meets the worlds that the program gives its values
in. -/
theorem Meets.bind {next : α → Program β} {after : β → σ → Prop}
    (h : Meets answer asked given p w)
    (hnext : ∀ value v, given value v →
      Meets answer asked after (next value) v) :
    Meets answer asked after (Program.bind p next) w := by
  induction p generalizing w with
  | done value => exact hnext value w h
  | fail failure => trivial
  | ask r rest ih => exact ⟨h.1, ih _ h.2⟩
  | tell n rest ih => exact ih h

/-- A request is met by the world at hand, and what follows by the world after
the answer. -/
theorem Meets.request_bind {r : Request} {next : r.Reply → Program α}
    (hr : asked r w) (hnext : Meets answer asked given (next (answer r w).1)
      (answer r w).2) :
    Meets answer asked given (Program.bind (request r) next) w :=
  ⟨hr, hnext⟩

/-- A loop is followed by what holds after the items that are done. -/
theorem Meets.forEach {act : α → Program Unit} (invariant : List α → σ → Prop)
    (hact : ∀ done item v, invariant done v →
      Meets answer asked (fun _ => invariant (done ++ [item])) (act item) v)
    (done items : List α) {w : σ} (hw : invariant done w) :
    Meets answer asked (fun _ => invariant (done ++ items))
      (forEach act items) w := by
  induction items generalizing done w with
  | nil =>
      rw [List.append_nil]
      exact hw
  | cons item rest ih =>
      refine (hact done item w hw).bind fun _ v hv => ?_
      rw [List.append_cons]
      exact ih (done ++ [item]) hv

-- ============================================= from bounds on requests

/-- A program that asks only what every world is ready for. -/
theorem meets_of_within {asks : Request → Prop} {gives : α → Prop}
    (h : Within asks gives p) (hasks : ∀ r v, asks r → asked r v) (w : σ) :
    Meets answer asked (fun value _ => gives value) p w := by
  induction p generalizing w with
  | done value => exact h
  | fail failure => trivial
  | ask r next ih => exact ⟨hasks r w h.1, ih _ (h.2 _) _⟩
  | tell n next ih => exact ih h w

/-- To find all worlds ready, from whichever the run begins in, is a property
that stays where one program follows another. -/
theorem sequential_meets {asks : Request → Prop}
    (hasks : ∀ r v, asks r → asked r v) :
    Sequential asks fun p => ∀ w,
    Meets answer asked (fun _ _ => True) p w where
  ofAsks := fun h w => meets_of_within h hasks w
  bind := fun h hnext w => (h w).bind fun u v _ => hnext u v
  after := fun h hnext w => (meets_of_within h hasks w).bind fun value v hv =>
    hnext value hv v

-- ====================================================== step by step

/-- What every answer does in a world that is ready for its request, every step
of the run does. -/
theorem Meets.chain {R : σ → σ → Prop}
    (hanswer : ∀ r w, asked r w → R w (answer r w).2)
    (h : Meets answer asked given p w) :
    (met answer p w ++ [(run answer p w).world]).IsChain R := by
  induction p generalizing w with
  | done value => exact List.isChain_singleton w
  | fail failure => exact List.isChain_singleton w
  | ask r next ih =>
      have hrest := ih _ h.2
      obtain ⟨rest, hbegins⟩ :=
        met_begins answer (next (answer r w).1) (answer r w).2
      show (w :: (met answer (next (answer r w).1) (answer r w).2
          ++ _)).IsChain R
      rw [hbegins] at hrest
      rw [show (run answer (.ask r next) w).world
        = (run answer (next (answer r w).1) (answer r w).2).world
          from rfl, hbegins]
      exact List.isChain_cons_cons.mpr ⟨hanswer r w h.1, hrest⟩
  | tell n next ih => exact ih h

end ClusterUtility.Program
