/-
What a program may ask for, whatever it is told.

A program is a tree of requests, and everything that it could ever do stands
in it. So what it asks can be bounded without running it: `Within asks gives`
says that on every path, whatever the replies, only requests that `asks`
allows are made, and that a path that ends with a value ends with one that
`gives` allows. A path that ends with a failure is bounded by its requests
alone.

Other properties of programs are built up in the same way, part by part.
`Sequential` names those that hold wherever only allowed requests are made and
that stay where one program follows another; the bound itself is one.

# From requests to runs

`Within.related` turns such a bound into a fact about runs: a relation that
every allowed answer keeps holds between the world before the run and the world
after it. Invariants are of this form (`Within.preserves`), and so are frame
facts, with equality of a view for the relation (`Within.keeps`).
-/
import ClusterUtility.Program.Basic

namespace ClusterUtility.Program

variable {α β : Type} {asks : Request → Prop} {gives : α → Prop}

-- ====================================================== the bound

/-- On every path only allowed requests are made, and only an allowed value is
given. -/
def Within (asks : Request → Prop) (gives : α → Prop) : Program α → Prop
  | .done value => gives value
  | .fail _ => True
  | .ask r next => asks r ∧ ∀ reply, Within asks gives (next reply)
  | .tell _ next => Within asks gives next

/-- On every path only allowed requests are made. -/
abbrev Asks (asks : Request → Prop) (p : Program α) : Prop :=
  Within asks (fun _ => True) p

-- ===================================================== building bounds

/-- What follows a program is bounded at the values that the program gives. -/
theorem Within.bind {p : Program α} {next : α → Program β} {after : β → Prop}
    (h : Within asks gives p)
    (hnext : ∀ value, gives value → Within asks after (next value)) :
    Within asks after (Program.bind p next) := by
  induction p with
  | done value => exact hnext value h
  | fail _ => trivial
  | ask r rest ih => exact ⟨h.1, fun reply => ih reply (h.2 reply)⟩
  | tell n rest ih => exact ih h

/-- What is given may be known less exactly. -/
theorem Within.imp {p : Program α} {gives' : α → Prop}
    (h : Within asks gives p) (himp : ∀ value, gives value → gives' value) :
    Within asks gives' p := by
  induction p with
  | done value => exact himp value h
  | fail _ => trivial
  | ask r next ih => exact ⟨h.1, fun reply => ih reply (h.2 reply)⟩
  | tell n next ih => exact ih h

/-- Whoever may ask for more may ask for the same. -/
theorem Within.mono {p : Program α} {asks' : Request → Prop}
    (h : Within asks gives p) (hmono : ∀ r, asks r → asks' r) :
    Within asks' gives p := by
  induction p with
  | done value => exact h
  | fail _ => trivial
  | ask r next ih => exact ⟨hmono r h.1, fun reply => ih reply (h.2 reply)⟩
  | tell n next ih => exact ih h

/-- Where the values do not matter, each part is bounded by itself. -/
theorem Asks.bind {p : Program α} {next : α → Program β} {after : β → Prop}
    (h : Asks asks p) (hnext : ∀ value, Within asks after (next value)) :
    Within asks after (Program.bind p next) :=
  Within.bind h fun value _ => hnext value

/-- A request and what follows each reply to it. -/
theorem Asks.request_bind {r : Request} {next : r.Reply → Program β}
    {after : β → Prop} (hr : asks r)
    (hnext : ∀ reply, Within asks after (next reply)) :
    Within asks after (Program.bind (request r) next) :=
  ⟨hr, hnext⟩

theorem Asks.request {r : Request} (hr : asks r) :
    Asks asks (Program.request r) :=
  ⟨hr, fun _ => trivial⟩

theorem Asks.ofReply (reply : Except Failure α) :
    Asks asks (ofReply reply) := by
  cases reply <;> trivial

theorem Asks.ofRemoteReply (reply : Except TransportFailure α) :
    Asks asks (ofRemoteReply reply) := by
  cases reply <;> trivial

/-- Doing something for each item of a list asks what doing it once may
ask. -/
theorem Asks.forEach {act : α → Program Unit}
    (hact : ∀ item, Asks asks (act item)) (items : List α) :
    Asks asks (forEach act items) := by
  induction items with
  | nil => trivial
  | cons item rest ih => exact Asks.bind (hact item) fun _ => ih

-- ====================================================== parts in a row

/-- A property of programs that all have which ask only what is allowed, and
that stays where one program follows another. -/
structure Sequential (asks : Request → Prop)
    (P : Program Unit → Prop) : Prop where
  ofAsks : ∀ {p : Program Unit}, Asks asks p → P p
  bind : ∀ {p : Program Unit} {next : Unit → Program Unit}, P p →
    (∀ u, P (next u)) →
    P (Program.bind p next)
  after : ∀ {α : Type} {gives : α → Prop} {p : Program α}
    {next : α → Program Unit}, Within asks gives p →
    (∀ value, gives value → P (next value)) → P (Program.bind p next)

/-- To ask only what is allowed is such a property. -/
theorem sequential_asks (asks : Request → Prop) :
    Sequential asks (Asks asks) :=
  ⟨id, Asks.bind, Within.bind⟩

namespace Sequential

variable {P : Program Unit → Prop} (hP : Sequential asks P)
include hP

/-- An allowed request, and what has the property after each reply to it. -/
theorem request_bind {r : Request} {next : r.Reply → Program Unit}
    (hr : asks r) (hnext : ∀ reply, P (next reply)) :
    P (Program.bind (request r) next) :=
  hP.after (Asks.request hr) fun reply _ => hnext reply

theorem note_bind {n : Note} {next : Unit → Program Unit}
    (hnext : P (next ())) : P (Program.bind (note n) next) := by
  have hnote : Asks asks (note n) := trivial
  exact hP.after hnote fun _ _ => hnext

/-- A reply that is a failure ends the program, and ends it as allowed. -/
theorem ofReply_bind {reply : Except Failure α} {next : α → Program Unit}
    (hnext : ∀ value, P (next value)) :
    P (Program.bind (ofReply reply) next) :=
  hP.after (Asks.ofReply reply) fun value _ => hnext value

/-- A loop has the property if what it does for each item has it. -/
theorem forEach {act : α → Program Unit} (hact : ∀ item, P (act item))
    (items : List α) : P (forEach act items) := by
  induction items with
  | nil => exact hP.ofAsks trivial
  | cons item rest ih => exact hP.bind (hact item) fun _ => ih

end Sequential

-- =============================================== from requests to runs

variable {σ : Type} {answer : Answers σ}

/-- A relation that every allowed answer keeps holds across the run. -/
theorem Within.related {R : σ → σ → Prop} (hrefl : ∀ w, R w w)
    (htrans : ∀ {u v w}, R u v → R v w → R u w)
    (hanswer : ∀ r w, asks r → R w (answer r w).2) {p : Program α}
    (h : Within asks gives p) (w : σ) : R w (run answer p w).world := by
  induction p generalizing w with
  | done _ => exact hrefl w
  | fail _ => exact hrefl w
  | ask r next ih => exact htrans (hanswer r w h.1) (ih _ (h.2 _) _)
  | tell n next ih => exact ih h w

/-- What every allowed answer preserves still holds after the run. -/
theorem Within.preserves {I : σ → Prop}
    (hanswer : ∀ r w, asks r → I w → I (answer r w).2) {p : Program α}
    (h : Within asks gives p) {w : σ} (hw : I w) : I (run answer p w).world :=
  Within.related (R := fun u v => I u → I v) (fun _ => id)
    (fun huv hvw => hvw ∘ huv) hanswer h w hw

/-- A view that every allowed answer keeps is the same after the run. -/
theorem Within.keeps {τ : Type} (view : σ → τ)
    (hanswer : ∀ r w, asks r → view (answer r w).2 = view w) {p : Program α}
    (h : Within asks gives p) (w : σ) : view (run answer p w).world = view w :=
  Within.related (R := fun u v => view v = view u) (fun _ => rfl)
    (fun huv hvw => hvw.trans huv) hanswer h w

/-- A run that ends with a value ends with an allowed one. -/
theorem Within.result {p : Program α} (h : Within asks gives p) {w : σ}
    {value : α} (hvalue : (run answer p w).result = .ok value) :
    gives value := by
  induction p generalizing w with
  | done given =>
      obtain rfl : given = value := Except.ok.inj hvalue
      exact h
  | fail _ => cases hvalue
  | ask r next ih => exact ih _ (h.2 _) hvalue
  | tell n next ih => exact ih h hvalue

/-- Nothing bounds a program that may ask for everything. -/
theorem asks_anything (p : Program α) : Asks (fun _ => True) p := by
  induction p with
  | done _ => trivial
  | fail _ => trivial
  | ask r next ih => exact ⟨trivial, ih⟩
  | tell n next ih => exact ih

end ClusterUtility.Program
