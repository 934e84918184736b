/-
Programs with an interceptor around the calls that they make.

An interceptor decides about each call on the spot: it notes the call or does
not, and then it lets it pass or refuses it. It gets no other say. So a
dispatch with an interceptor around every call is the dispatch with a recorder
that refuses nothing, in which each note of a sighting is replaced by what the
interceptor makes of it (`Program.under`, `under_dispatch`). What the parts of
a dispatch do by themselves has no such notes in it, and stays the same.

# Runs

`Program.sightings` lists what is noted in a run, each sighting with the world
that it is made in. An interceptor that lets all of them pass changes nothing
but what is noted (`run_under_of_admitted`). If it refuses one, the run ends
with the first that it refuses, in the world of that moment, and it is the same
run until then (`run_under_of_refused`).
-/
import ClusterUtility.Proofs.Dispatch.Recursion
import ClusterUtility.Proofs.Dispatch.Tells
import ClusterUtility.Proofs.Program.Alike

namespace ClusterUtility

open Interceptor (sighting refusal)
open Program (Answers Run Silent Tells run)

variable {α β γ σ : Type} {i : Interceptor} {answer : Answers σ}

-- ============================================ what an interceptor does

/-- What is noted of a dispatch. -/
def Note.sighting? : Note → Option Sighting
  | .sighted s => some s
  | _ => none

namespace Interceptor

/-- What the interceptor does about a call, before what is to be done for
it. -/
def meets (i : Interceptor) (s : Sighting) (rest : Program α) : Program α :=
  match i with
  | .none => rest
  | .standard => rest
  | .recorder refused =>
      .tell (.sighted s)
        (if s.kind ∈ refused then .fail (refusal s.kind) else rest)

/-- Of the calls that an interceptor stands around, those that it notes. -/
def notes (i : Interceptor) (calls : List Sighting) : List Sighting :=
  match i with
  | .none => []
  | .standard => []
  | .recorder _ => calls

/-- What an interceptor makes of a call is what it makes of its sighting. -/
theorem around_eq (i : Interceptor) (inner : Call → Program Unit)
    (call : Call) :
    i.around inner call = i.meets (sighting call) (inner call) := by
  cases i <;> rfl

/-- What follows a call comes after what the interceptor does. -/
private theorem meets_bind (i : Interceptor) (s : Sighting) (p : Program α)
    (next : α → Program β) :
    Program.bind (i.meets s p) next = i.meets s (Program.bind p next) := by
  cases i with
  | none => rfl
  | standard => rfl
  | recorder refused =>
      unfold meets
      dsimp only [Program.tell_bind]
      split <;> rfl

end Interceptor

-- ======================================= programs under an interceptor

namespace Program

/-- The program with an interceptor around the calls that it notes. -/
def under (i : Interceptor) : Program α → Program α
  | .done value => .done value
  | .fail failure => .fail failure
  | .ask r next => .ask r fun reply => under i (next reply)
  | .tell n next =>
      match n with
      | .sighted s => i.meets s (under i next)
      | n => .tell n (under i next)

/-- Two programs in a row each have the interceptor around their calls. -/
theorem under_bind (i : Interceptor) (p : Program α) (next : α → Program β) :
    (Program.bind p next).under i
      = Program.bind (p.under i) fun value => (next value).under i := by
  induction p with
  | done value => rfl
  | fail failure => rfl
  | ask r rest ih => exact congrArg (Program.ask r) (funext ih)
  | tell n rest ih =>
      cases n with
      | sighted s =>
          show i.meets s ((Program.bind rest next).under i) = _
          rw [ih, ← i.meets_bind]
          rfl
      | _ => exact congrArg (Program.tell _) ih

/-- A program that notes no call is the same under every interceptor. -/
theorem under_of_unsighted {p : Program α}
    (h : p.Tells fun n => n.isSighting = false) (i : Interceptor) :
    p.under i = p := by
  induction p with
  | done value => rfl
  | fail failure => rfl
  | ask r next ih =>
      exact congrArg (Program.ask r) (funext fun reply => ih reply (h reply))
  | tell n next ih =>
      obtain ⟨hn, hnext⟩ := h
      cases n with
      | sighted s => cases hn
      | _ => exact congrArg (Program.tell _) (ih hnext)

/-- So is a program that tells nothing. -/
theorem Silent.under {p : Program α} (h : p.Silent) (i : Interceptor) :
    p.under i = p :=
  under_of_unsighted h.tells i

/-- A program that notes no call, and then another one. -/
theorem under_bind_of_unsighted {p : Program α}
    (h : p.Tells fun n => n.isSighting = false) (i : Interceptor)
    (next : α → Program β) :
    (Program.bind p next).under i
      = Program.bind p fun value => (next value).under i := by
  rw [under_bind, under_of_unsighted h]

-- ================================================== sightings of a run

/-- The calls that a run notes, each with the world at that moment. -/
def sightings (answer : Answers σ) : Program α → σ → List (Sighting × σ)
  | .done _, _ => []
  | .fail _, _ => []
  | .ask r next, w => sightings answer (next (answer r w).1) (answer r w).2
  | .tell n next, w =>
      match n with
      | .sighted s => (s, w) :: sightings answer next w
      | _ => sightings answer next w

/-- A list that depends on what a run gives and leaves; nothing if it fails. -/
def Run.andThen (r : Run σ α) (f : α → σ → List γ) : List γ :=
  match r.result with
  | .ok value => f value r.world
  | .error _ => []

theorem Run.andThen_of_ok {r : Run σ α} {value : α} (h : r.result = .ok value)
    (f : α → σ → List γ) : r.andThen f = f value r.world := by
  unfold Run.andThen
  rw [h]

/-- The list of a run that fails. -/
theorem Run.andThen_of_error {r : Run σ α} {failure : Failure}
    (h : r.result = .error failure) (f : α → σ → List γ) :
    r.andThen f = [] := by
  unfold Run.andThen
  rw [h]

/-- A list that is empty anyway. -/
theorem Run.andThen_nil (r : Run σ α) :
    (r.andThen fun _ _ => ([] : List γ)) = [] := by
  cases h : r.result with
  | ok value => exact andThen_of_ok h _
  | error failure => exact andThen_of_error h _

/-- What the list is for other values does not matter. -/
theorem Run.andThen_congr {r : Run σ α} {f g : α → σ → List γ}
    (h : ∀ value, r.result = .ok value → f value r.world = g value r.world) :
    r.andThen f = r.andThen g := by
  cases hr : r.result with
  | ok value => rw [andThen_of_ok hr, andThen_of_ok hr, h value hr]
  | error failure => rw [andThen_of_error hr, andThen_of_error hr]

/-- Runs that come to the same have the same list. -/
theorem Run.andThen_alike {r r' : Run σ α} (h : Run.Alike Eq r r')
    (f : α → σ → List γ) : r'.andThen f = r.andThen f := by
  unfold Run.andThen
  rw [h.result, h.worlds]

/-- A function of the members can be taken before or after. -/
theorem Run.map_andThen {δ : Type} (r : Run σ α)
    (f : α → σ → List γ) (g : γ → δ) :
    (r.andThen f).map g = r.andThen fun value w => (f value w).map g := by
  cases h : r.result with
  | ok value => rw [andThen_of_ok h, andThen_of_ok h]
  | error failure => rw [andThen_of_error h, andThen_of_error h, List.map_nil]

/-- What two programs in a row give is what the second one gives after the
first one. -/
theorem run_bind_andThen (p : Program α) (next : α → Program β) (w : σ)
    (f : β → σ → List γ) :
    (run answer (Program.bind p next) w).andThen f
      = (run answer p w).andThen fun value v =>
        (run answer (next value) v).andThen f := by
  rw [run_bind]
  cases h : (run answer p w).result with
  | ok value =>
      rw [Run.andThen_of_ok h]
      rfl
  | error failure =>
      rw [Run.andThen_of_error h]
      rfl

/-- Two programs in a row note the calls of the first one, and those of the
second one after it if it gives a value. -/
theorem sightings_bind (p : Program α) (next : α → Program β) (w : σ) :
    (Program.bind p next).sightings answer w
      = p.sightings answer w
        ++ (run answer p w).andThen fun value v =>
          (next value).sightings answer v := by
  induction p generalizing w with
  | done value => rfl
  | fail failure => rfl
  | ask r rest ih => exact ih _ _
  | tell n rest ih =>
      cases n with
      | sighted s => exact congrArg (_ :: ·) (ih w)
      | _ => exact ih w

/-- A program that notes no call has none. -/
theorem sightings_of_unsighted {p : Program α}
    (h : p.Tells fun n => n.isSighting = false) (w : σ) :
    p.sightings answer w = [] := by
  induction p generalizing w with
  | done value => rfl
  | fail failure => rfl
  | ask r next ih => exact ih _ (h _) _
  | tell n next ih =>
      obtain ⟨hn, hnext⟩ := h
      cases n with
      | sighted s => cases hn
      | _ => exact ih hnext w

/-- After such a program, only the calls of the second one are noted. -/
theorem sightings_bind_of_unsighted {p : Program α}
    (h : p.Tells fun n => n.isSighting = false)
    (next : α → Program β) (w : σ) :
    (Program.bind p next).sightings answer w
      = (run answer p w).andThen fun value v =>
        (next value).sightings answer v := by
  rw [sightings_bind, sightings_of_unsighted h, List.nil_append]

/-- Sightings are made one after the other: what every answer keeps holds from
the world of one to the world of the next. -/
theorem pairwise_sightings {R : σ → σ → Prop} (hrefl : ∀ w, R w w)
    (htrans : ∀ {u v w}, R u v → R v w → R u w)
    (hanswer : ∀ r w, R w (answer r w).2)
    (p : Program α) (w : σ) :
    (∀ x ∈ p.sightings answer w, R w x.2) ∧
      (p.sightings answer w).Pairwise fun x y => R x.2 y.2 := by
  induction p generalizing w with
  | done value => exact ⟨List.forall_mem_nil _, .nil⟩
  | fail failure => exact ⟨List.forall_mem_nil _, .nil⟩
  | ask r next ih =>
      obtain ⟨hfirst, hrest⟩ := ih (answer r w).1 (answer r w).2
      exact ⟨fun x hx => htrans (hanswer r w) (hfirst x hx), hrest⟩
  | tell n next ih =>
      obtain ⟨hfirst, hrest⟩ := ih w
      cases n with
      | sighted s =>
          refine ⟨List.forall_mem_cons.mpr ⟨hrefl w, hfirst⟩, ?_⟩
          exact .cons hfirst hrest
      | clearTag | setTag | rows | logged => exact ⟨hfirst, hrest⟩

-- =========================================== runs under an interceptor

/-- What was noted in a run. -/
def Run.seen (r : Run σ α) : List Sighting := r.notes.filterMap Note.sighting?

/-- The run with a call noted before it. -/
def Run.sighted (s : Sighting) (r : Run σ α) : Run σ α :=
  { r with notes := .sighted s :: r.notes }

/-- A call that is noted is not told. -/
@[simp] theorem Run.told_sighted (s : Sighting) (r : Run σ α) :
    (r.sighted s).told = r.told :=
  List.filter_cons_of_neg (by simp [Note.isSighting])

/-- Only an interceptor that notes what it sees refuses anything. -/
theorem meets_of_refused {s : Sighting} (h : i.admits s.kind = false)
    (p : Program α) :
    i.meets s p = .tell (.sighted s) (.fail (refusal s.kind)) := by
  cases i with
  | none => cases h
  | standard => cases h
  | recorder refused =>
      have hrefused : s.kind ∈ refused := not_not.mp (of_decide_eq_false h)
      exact congrArg (Program.tell _) (if_pos hrefused)

/-- A recorder notes a call that it lets pass, and no more. -/
private theorem meets_of_admitted {refused : List Kind} {s : Sighting}
    (h : (Interceptor.recorder refused).admits s.kind = true) (p : Program α) :
    (Interceptor.recorder refused).meets s p = .tell (.sighted s) p :=
  congrArg (Program.tell _) (if_neg (of_decide_eq_true h))

/-- A run comes to the same as another one, and some calls are noted in it. -/
structure Run.Watched (i : Interceptor) (calls : List Sighting)
    (r r' : Run σ α) : Prop where
  alike : Run.Alike Eq r r'
  seen : r'.seen = i.notes calls

/-- An interceptor that lets everything pass that a run notes changes nothing
else. -/
theorem run_under_of_admitted {p : Program α} {w : σ}
    (h : ∀ x ∈ p.sightings answer w, i.admits x.1.kind = true) :
    Run.Watched i ((p.sightings answer w).map Prod.fst) (run answer p w)
      (run answer (p.under i) w) := by
  have hnone : i.notes [] = [] := by cases i <;> rfl
  induction p generalizing w with
  | done value => exact ⟨⟨rfl, rfl, rfl⟩, hnone.symm⟩
  | fail failure => exact ⟨⟨rfl, rfl, rfl⟩, hnone.symm⟩
  | ask r next ih => exact ih _ h
  | tell n next ih =>
      cases n with
      | sighted s =>
          obtain ⟨hs, hrest⟩ := List.forall_mem_cons.mp h
          obtain ⟨⟨hresult, htold, hworlds⟩, hseen⟩ := ih hrest
          have htold' : (run answer (next.under i) w).told
              = ((run answer next w).sighted s).told := by
            rw [htold, Run.told_sighted]
          show Run.Watched i (s :: _) ((run answer next w).sighted s)
            (run answer (i.meets s (next.under i)) w)
          cases i with
          | none => exact ⟨⟨hresult, htold', hworlds⟩, hseen⟩
          | standard => exact ⟨⟨hresult, htold', hworlds⟩, hseen⟩
          | recorder refused =>
              rw [meets_of_admitted hs]
              refine ⟨⟨hresult, ?_, hworlds⟩, congrArg (s :: ·) hseen⟩
              exact (Run.told_sighted s _).trans htold'
      | clearTag | setTag | rows | logged =>
          obtain ⟨⟨hresult, htold, hworlds⟩, hseen⟩ := ih h
          exact ⟨⟨hresult, congrArg (_ :: ·) htold, hworlds⟩, hseen⟩

/-- A run ends where a call is refused: until then it came to the same as
another one, and nothing happens after it. -/
structure Run.Refused (calls : List Sighting) (s : Sighting) (v : σ)
    (r r' : Run σ α) : Prop where
  result : r'.result = .error (refusal s.kind)
  world : r'.world = v
  told : r'.told <+: r.told
  seen : r'.seen = calls ++ [s]

/-- An interceptor that refuses something that a run notes ends the run
there. -/
theorem run_under_of_refused {p : Program α} {w v : σ}
    {before after : List (Sighting × σ)} {s : Sighting}
    (hsplit : p.sightings answer w = before ++ (s, v) :: after)
    (hbefore : ∀ x ∈ before, i.admits x.1.kind = true)
    (hs : i.admits s.kind = false) :
    Run.Refused (before.map Prod.fst) s v (run answer p w)
      (run answer (p.under i) w) := by
  induction p generalizing w before with
  | done value => simp [sightings] at hsplit
  | fail failure => simp [sightings] at hsplit
  | ask r next ih => exact ih _ hsplit hbefore
  | tell n next ih =>
      cases n with
      | sighted t =>
          show Run.Refused _ s v ((run answer next w).sighted t)
            (run answer (i.meets t (next.under i)) w)
          cases before with
          | nil =>
              obtain ⟨hhead, -⟩ := List.cons.inj hsplit
              obtain ⟨rfl, rfl⟩ := Prod.mk.inj hhead
              rw [meets_of_refused hs]
              exact ⟨rfl, rfl, List.nil_prefix, rfl⟩
          | cons x before =>
              obtain ⟨rfl, hrest⟩ := List.cons.inj hsplit
              obtain ⟨ht, hbefore⟩ := List.forall_mem_cons.mp hbefore
              obtain ⟨hresult, hworld, htold, hseen⟩ := ih hrest hbefore
              have htold' : ((run answer (next.under i) w).sighted t).told
                  <+: ((run answer next w).sighted t).told := by
                rwa [Run.told_sighted, Run.told_sighted]
              cases i with
              | none => cases hs
              | standard => cases hs
              | recorder refused =>
                  rw [meets_of_admitted ht]
                  exact ⟨hresult, hworld, htold', congrArg (t :: ·) hseen⟩
      | clearTag | setTag | rows | logged =>
          obtain ⟨hresult, hworld, htold, hseen⟩ := ih hsplit hbefore
          refine ⟨hresult, hworld, ?_, hseen⟩
          exact List.cons_prefix_cons.mpr ⟨rfl, htold⟩

end Program

end ClusterUtility
