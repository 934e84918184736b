/-
Programs: dispatch as a value.

A program ends with a value or a failure. On its way it makes requests to the
world, each of which is answered before the next one is made, and it tells
the client things that need no answer. What a program asks may depend on the
answers, so a program is a tree, and everything it could ever do stands in
it.

# Running

`Program.run` runs a program in a world: a type of states, with a function
that answers a request and says what it does to the state. Nothing is undone
when a program fails; whatever it did to the world before remains.
-/
import ClusterUtility.Context
import ClusterUtility.Program.Request
import ClusterUtility.Statement.Kind

namespace ClusterUtility

-- ====================================================== programs

/-- What an interceptor notes of a dispatch that it sees. -/
structure Sighting where
  kind : Kind
  depth : Nat
  isTopLevel : Bool
  /-- The dispatch has a completion tag to write. -/
  hasTag : Bool
  text : String
deriving DecidableEq, Repr

/-- What a program tells without waiting for an answer. -/
inductive Note where
  /-- The completion tag is cleared. -/
  | clearTag
  /-- The completion tag is written. -/
  | setTag (text : String)
  /-- Rows for the client. -/
  | rows (rows : List (List Json))
  /-- A line for the statement log. -/
  | logged (text : String)
  /-- An interceptor saw a dispatch. -/
  | sighted (sighting : Sighting)

/-- A program that gives a value of a type, or fails. -/
inductive Program (α : Type) where
  | done (value : α)
  | fail (failure : Failure)
  | ask (request : Request) (next : request.Reply → Program α)
  | tell (note : Note) (next : Program α)

namespace Program

variable {α β : Type}

/-- One program after another. -/
def bind : Program α → (α → Program β) → Program β
  | .done value, next => next value
  | .fail failure, _ => .fail failure
  | .ask request rest, next => .ask request fun reply => bind (rest reply) next
  | .tell note rest, next => .tell note (bind rest next)

instance : Monad Program where
  pure := .done
  bind := bind

/-- A request, for the whole of its reply. -/
def request (r : Request) : Program r.Reply := .ask r .done

/-- A note. -/
def note (n : Note) : Program Unit := .tell n (.done ())

/-- The value of a reply; a reply that tells of a failure fails the
program. -/
def ofReply : Except Failure α → Program α
  | .ok value => .done value
  | .error failure => .fail failure

/-- The value of a reply of another node; its failure fails the program as
one of propagation. -/
def ofRemoteReply : Except TransportFailure α → Program α
  | .ok value => .done value
  | .error failure => .fail (.propagation failure)

/-- Does something for each item of a list, in order, until something
fails. -/
def forEach (act : α → Program Unit) : List α → Program Unit
  | [] => .done ()
  | item :: rest => bind (act item) fun _ => forEach act rest

-- ====================================================== running

/-- How a world answers: the reply to a request, and the state after it. -/
abbrev Answers (σ : Type) := (r : Request) → σ → r.Reply × σ

/-- What became of a run: how it ended, the state of the world, and all that
was told, in order. -/
structure Run (σ α : Type) where
  result : Except Failure α
  world : σ
  notes : List Note

/-- Runs a program in a world. -/
def run {σ : Type} (answer : Answers σ) : Program α → σ → Run σ α
  | .done value, world => ⟨.ok value, world, []⟩
  | .fail failure, world => ⟨.error failure, world, []⟩
  | .ask request next, world =>
      let (reply, world') := answer request world
      run answer (next reply) world'
  | .tell note next, world =>
      let r := run answer next world
      { r with notes := note :: r.notes }

-- ====================================================== laws

@[simp] theorem pure_eq (value : α) :
    (pure value : Program α) = .done value := rfl

@[simp] theorem bind_eq (p : Program α) (next : α → Program β) :
    (p >>= next) = bind p next := rfl

@[simp] theorem done_bind (value : α) (next : α → Program β) :
    bind (.done value) next = next value := rfl

@[simp] theorem fail_bind (failure : Failure) (next : α → Program β) :
    bind (.fail failure) next = .fail failure := rfl

@[simp] theorem ask_bind (r : Request) (rest : r.Reply → Program α)
    (next : α → Program β) :
    bind (.ask r rest) next = .ask r fun reply => bind (rest reply) next := rfl

@[simp] theorem tell_bind (n : Note) (rest : Program α)
    (next : α → Program β) :
    bind (.tell n rest) next = .tell n (bind rest next) := rfl

/-- Ending with the value changes nothing. -/
theorem bind_done (p : Program α) : bind p .done = p := by
  induction p with
  | done _ => rfl
  | fail _ => rfl
  | ask r rest ih => simp [ih]
  | tell n rest ih => simp [ih]

/-- It does not matter how programs in a row are grouped. -/
theorem bind_assoc {γ : Type} (p : Program α) (f : α → Program β)
    (g : β → Program γ) :
    bind (bind p f) g = bind p fun a => bind (f a) g := by
  induction p with
  | done _ => rfl
  | fail _ => rfl
  | ask r rest ih => simp [ih]
  | tell n rest ih => simp [ih]

instance : LawfulMonad Program :=
  LawfulMonad.mk' Program bind_done (fun _ _ => rfl) bind_assoc

/-- A program after another runs in the world that the first one leaves, and
only if that one ended with a value. -/
theorem run_bind {σ : Type} (answer : Answers σ) (p : Program α)
    (next : α → Program β) (world : σ) :
    run answer (bind p next) world
      = match (run answer p world).result with
        | .ok value =>
            let r := run answer (next value) (run answer p world).world
            { r with notes := (run answer p world).notes ++ r.notes }
        | .error failure =>
            ⟨.error failure, (run answer p world).world,
              (run answer p world).notes⟩ := by
  induction p generalizing world with
  | done value => simp [run]
  | fail failure => simp [run]
  | ask r rest ih => simp [run, ih]
  | tell n rest ih =>
      simp only [tell_bind, run, ih]
      split <;> simp_all

end Program

end ClusterUtility
