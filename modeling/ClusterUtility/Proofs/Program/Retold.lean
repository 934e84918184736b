/-
Two programs that differ in a text.

A dispatch carries the text of its statement along: it hands it to the handlers
of this node, has other nodes run it, and has the pool keep it.
`Program.Retold` relates a dispatch to what it would have been with another
text. Both make the same requests, but where the one gives its text, the other
one gives its own; and both tell the same, but for the lines of the statement
log.

The relation follows the shape of programs, so it goes through one program
after another (`Retold.bind`), and a program that carries no text is related to
itself (`Retold.refl`).

# Where a text may go

Not everything that is sent is the text of the statement. `own` says to which
groups of nodes the text itself goes, and `besides` which other requests may be
sent; the latter have to be the same on both sides.
-/
import ClusterUtility.Proofs.Program.Within

namespace ClusterUtility

/-- The request makes no use of the text of the statement, as far as other
nodes and the pool are concerned: of all requests, only some are sent, and
nothing is recorded with the pool. -/
def Request.TextFree (besides : RemoteRequest → Prop) : Request → Prop
  | .send request => besides request
  | .setSessionOption .. => False
  | _ => True

/-- The note is a line of the statement log. -/
def Note.isLogged : Note → Bool
  | .logged _ => true
  | _ => false

namespace Program

variable {α β : Type}

/-- The second program is what the first one is with another text: it gives its
own text wherever the first one gives its text. What either of them logs is
left out of account. -/
inductive Retold (own : NodeGroup → Bool → Prop)
    (besides : RemoteRequest → Prop) (text other : String) :
    Program α → Program α → Prop
  | done (value : α) : Retold own besides text other
      (.done value) (.done value)
  | fail (failure : Failure) : Retold own besides text other (.fail failure)
      (.fail failure)
  /-- A request that makes no use of the text. -/
  | ask {r : Request} {next next' : r.Reply → Program α}
      (hr : r.TextFree besides) (h : ∀ reply,
        Retold own besides text other (next reply) (next' reply)) :
      Retold own besides text other (.ask r next) (.ask r next')
  /-- A handler of this node is given the text. -/
  | execute (s : Statement) {next next' : Except Failure Handled → Program α}
      (h : ∀ reply, Retold own besides text other (next reply) (next' reply)) :
      Retold own besides text other (.ask (.execute s text) next)
        (.ask (.execute s other) next')
  | expand (s : Statement)
      {next next' : Except Failure (List Statement) → Program α}
        (h : ∀ reply, Retold own besides text other (next reply)
          (next' reply)) :
      Retold own besides text other (.ask (.expand s text) next)
        (.ask (.expand s other) next')
  /-- The text is sent to other nodes. -/
  | send {group : NodeGroup} {autocommit : Bool}
      {next next' : Except TransportFailure Unit → Program α}
        (hown : own group autocommit)
      (h : ∀ reply, Retold own besides text other (next reply) (next' reply)) :
      Retold own besides text other
        (.ask (.send (.send text group autocommit)) next)
          (.ask (.send (.send other group autocommit)) next')
  /-- The pool keeps the text. -/
  | setOption (isLocal : Bool) {next next' : Int → Program α}
      (h : ∀ reply, Retold own besides text other (next reply) (next' reply)) :
      Retold own besides text other
        (.ask (.setSessionOption isLocal text) next)
          (.ask (.setSessionOption isLocal other) next')
  | tell (n : Note) {p q : Program α} (h : Retold own besides text other p q) :
      Retold own besides text other (.tell n p) (.tell n q)
  /-- One of the two logs a line. -/
  | logged (line : String) {p q : Program α}
      (h : Retold own besides text other p q) :
      Retold own besides text other (.tell (.logged line) p) q
  | logged_other (line : String) {p q : Program α}
      (h : Retold own besides text other p q) :
      Retold own besides text other p (.tell (.logged line) q)

namespace Retold

variable {own own' : NodeGroup → Bool → Prop}
  {besides besides' : RemoteRequest → Prop} {text other : String}
  {p q : Program α}

/-- What is related stays so if more may be sent. -/
theorem mono (h : Retold own besides text other p q)
    (hown : ∀ group autocommit, own group autocommit → own' group autocommit)
    (hbesides : ∀ r : Request, r.TextFree besides → r.TextFree besides') :
    Retold own' besides' text other p q := by
  induction h with
  | done value => exact .done value
  | fail failure => exact .fail failure
  | ask hr h ih => exact .ask (hbesides _ hr) ih
  | execute s h ih => exact .execute s ih
  | expand s h ih => exact .expand s ih
  | send hsent h ih => exact .send (hown _ _ hsent) ih
  | setOption isLocal h ih => exact .setOption isLocal ih
  | tell n h ih => exact .tell n ih
  | logged line h ih => exact .logged line ih
  | logged_other line h ih => exact .logged_other line ih

/-- A program that makes no use of the text is the same with another one. -/
theorem refl (h : p.Asks fun r => r.TextFree besides) :
    Retold own besides text other p p := by
  induction p with
  | done value => exact .done value
  | fail failure => exact .fail failure
  | ask r next ih => exact .ask h.1 fun reply => ih reply (h.2 reply)
  | tell n next ih => exact .tell n (ih h)

/-- What follows related programs is related at each value. -/
theorem bind {next next' : α → Program β}
    (h : Retold own besides text other p q)
    (hnext : ∀ value, Retold own besides text other (next value)
      (next' value)) :
    Retold own besides text other (Program.bind p next)
      (Program.bind q next') := by
  induction h with
  | done value => exact hnext value
  | fail failure => exact .fail failure
  | ask hr h ih => exact .ask hr ih
  | execute s h ih => exact .execute s ih
  | expand s h ih => exact .expand s ih
  | send hown h ih => exact .send hown ih
  | setOption isLocal h ih => exact .setOption isLocal ih
  | tell n h ih => exact .tell n ih
  | logged line h ih => exact .logged line ih
  | logged_other line h ih => exact .logged_other line ih

/-- A request that makes no use of the text, and what follows each reply to
it. -/
theorem request_bind {r : Request} {next next' : r.Reply → Program β}
    (hr : r.TextFree besides)
    (hnext : ∀ reply, Retold own besides text other (next reply)
      (next' reply)) :
    Retold own besides text other (Program.bind (request r) next)
      (Program.bind (request r) next') :=
  .ask hr hnext

/-- After a program that makes no use of the text, only the values count that
it gives. -/
theorem after {gives : α → Prop} {next next' : α → Program β}
    (h : Within (fun r => r.TextFree besides) gives p)
    (hnext : ∀ value, gives value →
      Retold own besides text other (next value) (next' value)) :
    Retold own besides text other (Program.bind p next)
      (Program.bind p next') := by
  induction p with
  | done value => exact hnext value h
  | fail failure => exact .fail failure
  | ask r rest ih => exact .ask h.1 fun reply => ih reply (h.2 reply)
  | tell n rest ih => exact .tell n (ih h)

/-- A loop is related to one that does related things for each item. -/
theorem forEach {act act' : β → Program Unit}
    (hact : ∀ item, Retold own besides text other (act item) (act' item))
    (items : List β) :
    Retold own besides text other (Program.forEach act items)
      (Program.forEach act' items) := by
  induction items with
  | nil => exact .done ()
  | cons item rest ih => exact (hact item).bind fun _ => ih

end Retold

end Program

end ClusterUtility
