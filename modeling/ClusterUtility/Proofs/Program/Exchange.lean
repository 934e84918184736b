/-
What a program and the world say to one another.

An exchange is a request with the reply that it got, and the exchanges of a
run are all that can be seen of it from the world (`Program.exchanges`).

# However the world answers

A reply can be anything of its type, so what a program says in all worlds can
be read off its tree: `Program.Ensures` takes every reply at every request.
`Ensures.bind` follows the program from part to part, and `Ensures.run` says
the same of the run in any world.

# Moments of a run

`Program.Leads` says that a run comes to a moment at which some program is
left to be run in some world. Every exchange is made at such a moment
(`leads_of_mem_exchanges`), and what is so across every answer is so from the
start to the moment and from there to the end.
-/
import ClusterUtility.Proofs.Program.Within

namespace ClusterUtility

/-- A request and the reply to it. -/
structure Exchange where
  request : Request
  reply : request.Reply

namespace Program

variable {α β σ : Type} {answer : Answers σ}

/-- The exchanges of a run, in order. -/
def exchanges (answer : Answers σ) : Program α → σ → List Exchange
  | .done _, _ => []
  | .fail _, _ => []
  | .ask r next, w =>
      ⟨r, (answer r w).1⟩ :: exchanges answer (next (answer r w).1)
        (answer r w).2
  | .tell _ next, w => exchanges answer next w

-- =========================================== however the world answers

/-- Whatever is replied, the exchanges and the result are of a kind. -/
def Ensures : Program α → (List Exchange → Except Failure α → Prop) → Prop
  | .done value, Q => Q [] (.ok value)
  | .fail failure, Q => Q [] (.error failure)
  | .ask r next, Q =>
      ∀ reply, Ensures (next reply) fun log result =>
        Q (⟨r, reply⟩ :: log) result
  | .tell _ next, Q => Ensures next Q

namespace Ensures

variable {P : List Exchange → Except Failure α → Prop}
  {Q : List Exchange → Except Failure β → Prop}

/-- What a program ensures holds of its run in any world. -/
theorem run {p : Program α} (h : p.Ensures P) (answer : Answers σ) (w : σ) :
    P (exchanges answer p w) (Program.run answer p w).result := by
  induction p generalizing P w with
  | done value => exact h
  | fail failure => exact h
  | ask r next ih => exact ih _ (h _) _
  | tell n next ih => exact ih h w

/-- What is ensured may be said less exactly. -/
theorem imp {p : Program α} {P' : List Exchange → Except Failure α → Prop}
    (h : p.Ensures P) (himp : ∀ log result, P log result → P' log result) :
    p.Ensures P' := by
  induction p generalizing P P' with
  | done value => exact himp _ _ h
  | fail failure => exact himp _ _ h
  | ask r next ih =>
      exact fun reply => ih reply (h reply) fun _ _ hp => himp _ _ hp
  | tell n next ih => exact ih h himp

/-- Where a part ends with a value, the rest takes up its exchanges; where it
fails, the whole has failed. -/
theorem bind {p : Program α} {next : α → Program β} (h : p.Ensures P)
    (hok : ∀ log value, P log (.ok value) →
      (next value).Ensures fun more result => Q (log ++ more) result)
    (hfail : ∀ log failure, P log (.error failure) → Q log (.error failure)) :
    (Program.bind p next).Ensures Q := by
  induction p generalizing P Q with
  | done value => exact hok [] value h
  | fail failure => exact hfail [] failure h
  | ask r rest ih =>
      intro reply
      exact ih reply (h reply) (fun log value hp => hok _ value hp)
        fun log failure hp => hfail _ failure hp
  | tell n rest ih => exact ih h hok hfail

/-- A request is followed at each reply to it, with the exchange in front. -/
theorem request_bind {r : Request} {next : r.Reply → Program β}
    (h : ∀ reply, (next reply).Ensures fun log result =>
      Q (⟨r, reply⟩ :: log) result) :
    (Program.bind (request r) next).Ensures Q := h

/-- What is so of all exchanges and results, every program ensures. -/
private theorem of_forall (h : ∀ log result, P log result) (p : Program α) :
    p.Ensures P := by
  induction p generalizing P with
  | done value => exact h _ _
  | fail failure => exact h _ _
  | ask r next ih =>
      exact fun reply => ih reply fun log result =>
        h (⟨r, reply⟩ :: log) result
  | tell n next ih => exact ih h

/-- What a program may ask bounds the exchanges of its runs, and what it gives
their values. -/
theorem of_within {asks : Request → Prop} {gives : α → Prop} {p : Program α}
    (h : Within asks gives p) :
    p.Ensures fun log result =>
      (∀ x ∈ log, asks x.request) ∧ ∀ value, result = .ok value →
        gives value := by
  induction p with
  | done value =>
      refine ⟨List.forall_mem_nil _, fun given hgiven => ?_⟩
      obtain rfl : value = given := Except.ok.inj hgiven
      exact h
  | fail failure => exact ⟨List.forall_mem_nil _, nofun⟩
  | ask r next ih =>
      refine fun reply => (ih reply (h.2 reply)).imp
        fun log result ⟨hlog, hresult⟩ => ?_
      exact ⟨List.forall_mem_cons.mpr ⟨h.1, hlog⟩, hresult⟩
  | tell n next ih => exact ih h

end Ensures

-- ========================================== requests that must be made

/-- Whatever is replied, the program does not end with a value unless it has
made a request of some kind. -/
def MustAsk (asked : Request → Prop) (p : Program α) : Prop :=
  p.Ensures fun log result => ∀ value, result = .ok value →
    ∃ x ∈ log, asked x.request

namespace MustAsk

variable {asked : Request → Prop} {p : Program α} {next : α → Program β}

theorem fail (failure : Failure) :
    (Program.fail failure : Program α).MustAsk asked := nofun

/-- What is asked first is asked, whatever comes after it. -/
theorem request_bind {r : Request} (hr : asked r)
    (next : r.Reply → Program β) :
    (Program.bind (request r) next).MustAsk asked :=
  Ensures.request_bind fun _ =>
    .of_forall (fun _ _ _ _ => ⟨_, List.mem_cons_self, hr⟩) _

/-- What the first of two programs must ask, both must. -/
theorem bind_left (h : p.MustAsk asked) :
    (Program.bind p next).MustAsk asked := by
  refine Ensures.bind h (fun log value hasked => ?_) fun log failure _ => nofun
  obtain ⟨x, hx, hrequest⟩ := hasked value rfl
  exact .of_forall (fun more _ _ _ =>
    ⟨x, List.mem_append_left more hx, hrequest⟩) _

/-- What must be asked after every value of a program, both must ask. -/
theorem bind_right (h : ∀ value, (next value).MustAsk asked) :
    (Program.bind p next).MustAsk asked := by
  refine Ensures.bind (.of_forall (fun _ _ => trivial) p)
    (fun log value _ => ?_) fun _ _ _ => nofun
  refine (h value).imp fun more result hasked last hlast => ?_
  obtain ⟨x, hx, hrequest⟩ := hasked last hlast
  exact ⟨x, List.mem_append_right log hx, hrequest⟩

/-- So such a request is made in every run that ends with a value. -/
theorem exists_mem (h : p.MustAsk asked) {w : σ} {value : α}
    (hvalue : (Program.run answer p w).result = .ok value) :
    ∃ x ∈ exchanges answer p w, asked x.request :=
  h.run answer w value hvalue

end MustAsk

-- ====================================================== moments

/-- A run comes to a moment at which a program is left, in a world. -/
inductive Leads (answer : Answers σ) : Program α → σ → Program α → σ → Prop
  | here {p : Program α} {w : σ} : Leads answer p w p w
  | ask {r : Request} {next : r.Reply → Program α} {q : Program α} {w v : σ}
      (h : Leads answer (next (answer r w).1) (answer r w).2 q v) :
      Leads answer (.ask r next) w q v
  | tell {n : Note} {next q : Program α} {w v : σ}
      (h : Leads answer next w q v) :
      Leads answer (.tell n next) w q v

variable {p q : Program α} {w v : σ}

/-- A moment of what is left at a moment is one of the whole run. -/
theorem Leads.trans {s : Program α} {u : σ} (h : Leads answer p w q v)
    (h' : Leads answer q v s u) : Leads answer p w s u := by
  induction h with
  | here => exact h'
  | ask h ih => exact .ask (ih h')
  | tell h ih => exact .tell (ih h')

/-- What follows a program follows what is left of it. -/
theorem Leads.bind (h : Leads answer p w q v) (next : α → Program β) :
    Leads answer (Program.bind p next) w (Program.bind q next) v := by
  induction h with
  | here => exact .here
  | ask h ih => exact .ask ih
  | tell h ih => exact .tell ih

/-- What a program may ask bounds what is left of it. -/
theorem Within.leads {asks : Request → Prop} {gives : α → Prop}
    (h : Within asks gives p) (hleads : Leads answer p w q v) :
    Within asks gives q := by
  induction hleads with
  | here => exact h
  | ask _ ih => exact ih (h.2 _)
  | tell _ ih => exact ih h

/-- A request of two programs in a row is one of the first, or one of the
second after the first has ended with a value. -/
theorem Leads.of_bind {next : α → Program β} {r : Request}
    {rest : r.Reply → Program β}
    (h : Leads answer (Program.bind p next) w (.ask r rest) v) :
    (∃ left, Leads answer p w (.ask r left) v) ∨
      ∃ value u, Leads answer p w (.done value) u ∧
        Leads answer (next value) u (.ask r rest) v := by
  induction p generalizing w with
  | done value => exact .inr ⟨value, w, .here, h⟩
  | fail failure => cases h
  | ask s following ih =>
      cases h with
      | here => exact .inl ⟨following, .here⟩
      | ask h =>
          rcases ih _ h with ⟨left, hleft⟩ | ⟨value, u, hdone, hrest⟩
          · exact .inl ⟨left, .ask hleft⟩
          · exact .inr ⟨value, u, .ask hdone, hrest⟩
  | tell n following ih =>
      cases h with
      | tell h =>
          rcases ih h with ⟨left, hleft⟩ | ⟨value, u, hdone, hrest⟩
          · exact .inl ⟨left, .tell hleft⟩
          · exact .inr ⟨value, u, .tell hdone, hrest⟩

/-- A run that ends with a value comes to the moment at which nothing is left
but the value. -/
theorem leads_of_ok {value : α}
    (h : (Program.run answer p w).result = .ok value) :
    Leads answer p w (.done value) (Program.run answer p w).world := by
  induction p generalizing w with
  | done given =>
      obtain rfl : given = value := Except.ok.inj h
      exact .here
  | fail failure => cases h
  | ask r next ih => exact .ask (ih _ h)
  | tell n next ih => exact .tell (ih h)

/-- A relation that every answer keeps holds from the start to the moment. -/
theorem Leads.related {R : σ → σ → Prop} (hrefl : ∀ w, R w w)
    (htrans : ∀ {u v w}, R u v → R v w → R u w)
    (hanswer : ∀ r w, R w (answer r w).2)
    (h : Leads answer p w q v) : R w v := by
  induction h with
  | here => exact hrefl _
  | ask h ih => exact htrans (hanswer _ _) ih
  | tell h ih => exact ih

/-- What every answer preserves still holds at the moment. -/
theorem Leads.preserves {I : σ → Prop}
    (hanswer : ∀ r w, I w → I (answer r w).2) (h : Leads answer p w q v)
    (hw : I w) : I v :=
  h.related (R := fun u v => I u → I v) (fun _ => id)
    (fun huv hvw => hvw ∘ huv) hanswer hw

/-- From the moment on, the run is that of what is left. -/
theorem Leads.world (h : Leads answer p w q v) :
    (Program.run answer p w).world = (Program.run answer q v).world := by
  induction h with
  | here => rfl
  | ask h ih => exact ih
  | tell h ih => exact ih

/-- The run ends as the rest of it does. -/
theorem Leads.result (h : Leads answer p w q v) :
    (Program.run answer p w).result = (Program.run answer q v).result := by
  induction h with
  | here => rfl
  | ask h ih => exact ih
  | tell h ih => exact ih

/-- A relation that every answer keeps holds from an answer on to the end. -/
theorem Leads.related_after {R : σ → σ → Prop} (hrefl : ∀ w, R w w)
    (htrans : ∀ {u v w}, R u v → R v w → R u w)
    (hanswer : ∀ r w, R w (answer r w).2)
    {r : Request} {next : r.Reply → Program α}
    (h : Leads answer p w (.ask r next) v) :
    R (answer r v).2 (Program.run answer p w).world := by
  rw [h.world]
  exact Within.related hrefl htrans (fun r w _ => hanswer r w)
    (asks_anything _) _

/-- What a run changes of a view, one of its answers changes. -/
theorem exists_leads_of_ne {τ : Type} (view : σ → τ)
    (h : view (Program.run answer p w).world ≠ view w) :
    ∃ r next v, Leads answer p w (.ask r next) v ∧
      view (answer r v).2 ≠ view v := by
  induction p generalizing w with
  | done value => exact absurd rfl h
  | fail failure => exact absurd rfl h
  | ask r next ih =>
      by_cases hfirst : view (answer r w).2 = view w
      · obtain ⟨s, rest, v, hleads, hchange⟩ := ih _ (hfirst ▸ h)
        exact ⟨s, rest, v, .ask hleads, hchange⟩
      · exact ⟨r, next, w, .here, hfirst⟩
  | tell n next ih =>
      obtain ⟨s, rest, v, hleads, hchange⟩ := ih h
      exact ⟨s, rest, v, .tell hleads, hchange⟩

/-- Every exchange of a run is made at some moment of it. -/
theorem leads_of_mem_exchanges {e : Exchange} (h : e ∈ exchanges answer p w) :
    ∃ next v, Leads answer p w (.ask e.request next) v ∧
      e.reply = (answer e.request v).1 := by
  induction p generalizing w with
  | done value => cases h
  | fail failure => cases h
  | ask r rest ih =>
      rcases List.mem_cons.mp h with rfl | hrest
      · exact ⟨rest, w, .here, rfl⟩
      · obtain ⟨next, v, hleads, hreply⟩ := ih _ hrest
        exact ⟨next, v, .ask hleads, hreply⟩
  | tell n rest ih =>
      obtain ⟨next, v, hleads, hreply⟩ := ih h
      exact ⟨next, v, .tell hleads, hreply⟩

/-- A relation that an answer keeps wherever its exchange is of some kind holds
across a run that has exchanges of this kind alone. -/
theorem related_of_exchanges {R : σ → σ → Prop} (hrefl : ∀ w, R w w)
    (htrans : ∀ {u v w}, R u v → R v w → R u w) {P : Exchange → Prop}
    (hanswer : ∀ r w, P ⟨r, (answer r w).1⟩ → R w (answer r w).2)
    (h : ∀ x ∈ exchanges answer p w, P x) :
    R w (Program.run answer p w).world := by
  induction p generalizing w with
  | done value => exact hrefl w
  | fail failure => exact hrefl w
  | ask r next ih =>
      obtain ⟨hfirst, hrest⟩ := List.forall_mem_cons.mp h
      exact htrans (hanswer r w hfirst) (ih _ hrest)
  | tell n next ih => exact ih h

end Program

end ClusterUtility
