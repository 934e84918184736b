/-
The completion tag that a client is left with.

The tag says what a statement came to where that is not what its name says. It
is cleared when the dispatch begins and written once at most, by the last step
of the local run, so that a statement which fails leaves it empty and whatever
stood in it before is gone. `Call.completion?` says what is written.

# How it is read off

What a client hears is gathered on its desk. Of the parts of a dispatch, most
say nothing about the tag (`Program.TagFree`), so the tag is that of the few
that do (`Cluster.tagTold`). These stand alone: the statements that write the
tag have no route, so nothing is sent after them that could still fail.

# PREPARE TRANSACTION

Whether it became a rollback is told by what it leaves: on the coordinator of
the client no transaction waits that could be committed, and on a node that has
the command from a coordinator no record was written (`Cluster.rolledBack`).
-/
import ClusterUtility.Proofs.Dispatch.TagFree
import ClusterUtility.Proofs.Transaction.Prepare
import Mathlib.Data.Nat.Digits.Defs

namespace ClusterUtility

open Cluster (answer)
open Program (Asks TagFree Within asks_anything)

variable {config : Configuration} {i : Interceptor} {call : Call}
  {c d : Cluster} {gid : Gid} {tag : TagOverride} {context : Context}

-- ===================================================== what is written

namespace CompletionTag

/-- The tag that a text was written into, if there is one, once it was
cleared. -/
def saying : Option String → CompletionTag
  | some text => ⟨Text.cut room text, true⟩
  | none => ∅

end CompletionTag

/-- A PREPARE TRANSACTION that ended well became a rollback. -/
def Cluster.rolledBack (fromClient : Bool) (gid : Gid)
    (c d : Cluster) : Bool :=
  if fromClient then (d.lookup gid).all fun t => !t.outcome.allows true
  else decide (d.localRecords = c.localRecords)

/-- What a command that ended well says instead of its own tag, by the clusters
before and after it. -/
def TransactionCommand.override? (context : Context) (c d : Cluster) :
    TransactionCommand → TagOverride
  | .commit =>
      if c.session.inBlock && c.session.failed then rolledBackTag else none
  | .prepare gid =>
      if Cluster.rolledBack context.isClientFacing gid c d then rolledBackTag
      else none
  | _ => none

/-- The number of rows that the handler of a statement counts. -/
def Cluster.handlerCount (c : Cluster) (s : Statement) : Option Nat :=
  match (c.execute s).1 with
  | .ok handled => handled.count
  | .error _ => none

/-- What is written into the tag for a call that ended well, by the clusters
before and after it. -/
def Call.completion? (call : Call) (topology : Topology) (c d : Cluster) :
    Option String :=
  match call.statement with
  | .transaction command => command.override? call.context c d
  | .fetch f =>
      (c.handlerCount call.statement).map
        (CompletionTag.counted (if f.isMove then "MOVE" else "FETCH"))
  | .copy _ =>
      (c.handlerCount call.statement).map (CompletionTag.counted "COPY")
  | .barrier id =>
      some ("BARRIER " ++ id.getD
        (Barrier.standardId topology.localNode c.timestamp))
  | _ => none

-- ====================================================== commands

/-- A block is rolled back by its end if it is failed. -/
theorem Cluster.endBlock_fst (c : Cluster) :
    c.endBlock.1 = !(c.session.inBlock && c.session.failed) := by
  unfold endBlock
  cases c.session.inBlock with
  | false => rfl
  | true => cases c.session.failed <;> rfl

/-- An interrupted prepare that ends well says that it became a rollback. -/
theorem eq_rolledBackTag_of_interrupted {nodes : List Node}
    (hstop : Cluster.Interrupted gid c (.ok tag) nodes d) :
    tag = rolledBackTag := by
  generalize hresult : (.ok tag : Except Failure TagOverride) = result at hstop
  cases hstop with
  | refused failure hsplit hfault => cases hresult
  | unregistered hall hend hfault => cases hresult
  | @unended reply d hall hend hreply =>
      cases reply with
      | error failure => cases hresult
      | ok prepared => exact Except.ok.inj hresult

/-- What is undone is not there to be committed. -/
theorem rolledBack_undone {result : Except Failure TagOverride}
    {nodes : List Node} (hstop : Cluster.Interrupted gid c result nodes d)
    (hlookup : c.lookup gid = none) :
    Cluster.rolledBack true gid c (d.undone gid nodes) = true := by
  obtain ⟨-, -, h, hheld, hkept⟩ := hstop.holding
  have hwaiting : h.waiting = none := by
    rcases hkept with rfl | ⟨rfl, -⟩ <;> exact hlookup
  show ((d.undone gid nodes).lookup gid).all _ = true
  rw [Cluster.lookup_eq, hstop.holding_undone hheld]
  rcases Holding.waiting_undone hwaiting gid (c.blocked false)
      c.faults.registryDown nodes with hnone | hleft
  · rw [hnone]
    rfl
  · rw [hleft]
    rfl

/-- A client's PREPARE TRANSACTION that ends well registers the transaction, or
says that it became a rollback. -/
theorem override_prepareFromClient
    (h : c.perform (prepareFromClient gid) = (.ok tag, d)) :
    tag = if Cluster.rolledBack true gid c d then rolledBackTag else none := by
  cases hlookup : c.lookup gid with
  | some t =>
      rw [Cluster.perform_prepareFromClient_known hlookup] at h
      cases (Prod.mk.inj h).1
  | none =>
      cases hfailed : c.session.inBlock && c.session.failed with
      | true =>
          rw [Cluster.perform_prepareFromClient_of_failed hlookup hfailed] at h
          obtain ⟨hresult, rfl⟩ := Prod.mk.inj h
          have hnone : c.abortBranches.abortTransaction.lookup gid = none :=
            hlookup
          obtain rfl := Except.ok.inj hresult
          simp [Cluster.rolledBack, hnone]
      | false =>
          obtain ⟨result, w, hperform, hends⟩ :=
            Cluster.prepareEnds hlookup hfailed
          rw [hperform] at h
          obtain ⟨rfl, rfl⟩ := Prod.mk.inj h
          generalize hresult : (.ok tag : Except Failure TagOverride)
            = result at hends
          cases hends with
          | @registered w hend hfault =>
              obtain rfl := Except.ok.inj hresult
              have hregistered : Cluster.rolledBack true gid c
                  (w.enter (.undecided gid c.session.written.nodes
                    c.session.touchedCatalog)) = false := by
                show ((w.enter _).lookup gid).all _ = false
                rw [Cluster.lookup_eq, Cluster.holding_registered hend]
                rfl
              rw [hregistered]
              rfl
          | undone hstop =>
              rw [rolledBack_undone hstop hlookup, if_pos rfl]
              subst hresult
              exact eq_rolledBackTag_of_interrupted hstop

/-- Preparing the block fails, or finds nothing to prepare, or writes a
record. -/
theorem Cluster.prepareBlock_cases (c : Cluster) (gid : Gid) :
    (∃ failure, c.prepareBlock gid = (.error failure, c)) ∨
      (∃ d, c.prepareBlock gid = (.ok false, d) ∧
        d.localRecords = c.localRecords) ∨
      ∃ d, c.prepareBlock gid = (.ok true, d) ∧
        d.localRecords = c.localRecords ++ [gid] := by
  unfold prepareBlock
  split
  · exact .inr (.inl ⟨_, rfl, rfl⟩)
  · split
    · exact .inr (.inl ⟨_, rfl, rfl⟩)
    · split
      · exact .inl ⟨_, rfl⟩
      · exact .inr (.inr ⟨_, rfl, rfl⟩)

/-- A node that prepares its block for a coordinator writes a record, or says
that it rolled back. -/
theorem override_prepareFromCoordinator
    (h : c.perform (prepareFromCoordinator gid) = (.ok tag, d)) :
    tag
      = if Cluster.rolledBack false gid c d then rolledBackTag else none := by
  unfold prepareFromCoordinator at h
  rw [Program.bind_eq, Cluster.perform_request_bind] at h
  simp only [answer] at h
  rcases c.prepareBlock_cases gid with
    ⟨failure, hblock⟩ | ⟨w, hblock, hrecords⟩ | ⟨w, hblock, hrecords⟩
  · rw [hblock] at h
    cases (Prod.mk.inj h).1
  · rw [hblock] at h
    have hend : w.perform (.done rolledBackTag) = (.ok tag, d) := h
    obtain ⟨hresult, hworld⟩ := Prod.mk.inj hend
    obtain rfl : w = d := hworld
    obtain rfl := Except.ok.inj hresult
    simp [Cluster.rolledBack, hrecords]
  · rw [hblock] at h
    have hend : w.perform (.done (none : TagOverride)) = (.ok tag, d) := h
    obtain ⟨hresult, hworld⟩ := Prod.mk.inj hend
    obtain rfl : w = d := hworld
    obtain rfl := Except.ok.inj hresult
    simp [Cluster.rolledBack, hrecords]

/-- A command other than COMMIT and PREPARE TRANSACTION says nothing instead of
its tag. -/
theorem within_run {command : TransactionCommand} (hcommit : command ≠ .commit)
    (hprepare : ∀ gid, command ≠ .prepare gid) (context : Context) :
    Within (fun _ => True) (fun tag => tag = none) (command.run context) := by
  have hquiet (p : Program Unit) :
      Within (fun _ => True) (fun tag : TagOverride => tag = none)
        (Program.bind p fun _ => .done none) :=
    Asks.bind (asks_anything p) fun _ => rfl
  cases command with
  | commit => exact absurd rfl hcommit
  | prepare gid => exact absurd rfl (hprepare gid)
  | begin | start | commitPrepared | rollbackPrepared => exact hquiet _
  | rollback | savepoint | release | rollbackTo =>
      exact Asks.request_bind trivial fun reply =>
        hquiet (Program.ofReply reply)

/-- What a command that ends well says instead of its own tag. -/
theorem override_run {command : TransactionCommand}
    (h : c.perform (command.run context) = (.ok tag, d)) :
    tag = command.override? context c d := by
  have hother (hcommit : command ≠ .commit)
      (hprepare : ∀ gid, command ≠ .prepare gid) : tag = none :=
    (within_run hcommit hprepare context).result (congrArg Prod.fst h)
  cases command with
  | commit =>
      have hcommit : c.endBlock.2.perform (if c.endBlock.1 = true then
          (return none : Program TagOverride) else return rolledBackTag)
            = (.ok tag, d) := h
      rw [c.endBlock_fst] at hcommit
      show tag = if (c.session.inBlock && c.session.failed)
          = true then _ else _
      cases hfailed : c.session.inBlock && c.session.failed with
      | true =>
          rw [hfailed] at hcommit
          exact (Except.ok.inj (Prod.mk.inj hcommit).1).symm
      | false =>
          rw [hfailed] at hcommit
          exact (Except.ok.inj (Prod.mk.inj hcommit).1).symm
  | prepare gid =>
      show tag = if Cluster.rolledBack context.isClientFacing gid c d
          = true then _ else _
      have hprepare : c.perform (if context.isClientFacing
          = true then prepareFromClient gid else prepareFromCoordinator gid)
            = (.ok tag, d) := h
      cases hclient : context.isClientFacing with
      | true =>
          rw [hclient] at hprepare
          exact override_prepareFromClient hprepare
      | false =>
          rw [hclient] at hprepare
          exact override_prepareFromCoordinator hprepare
  | _ => exact hother nofun nofun

-- =============================================== what the client hears

/-- The tag of a client who hears what a program tells, and found none. -/
def Cluster.tagTold {α : Type} (c : Cluster) (p : Program α) : CompletionTag :=
  ((Desk.ofTag ∅).hearAll (Program.run answer p c).notes).tag

section told

variable {α β : Type} {p : Program α}

/-- A client who hears nothing about the tag is left with an empty one. -/
private theorem tagTold_of_tagFree (h : p.TagFree) (c : Cluster) :
    c.tagTold p = ∅ :=
  tag_hearAll_of_isOfTag (h.notes answer c) _

/-- After a part that says nothing about the tag, the rest decides it. -/
theorem tagTold_bind_of_ok {value : α} (h : p.TagFree)
    (hp : c.perform p = (.ok value, d)) (next : α → Program β) :
    c.tagTold (Program.bind p next) = d.tagTold (next value) := by
  unfold Cluster.tagTold
  rw [notes_bind_of_ok hp, Desk.hearAll, List.foldl_append]
  exact tag_hearAll_congr (tag_hearAll_of_isOfTag (h.notes answer c) _) _

/-- After a part that fails without a word about the tag, it is empty. -/
private theorem tagTold_bind_of_error {failure : Failure} (h : p.TagFree)
    (hp : c.perform p = (.error failure, d)) (next : α → Program β) :
    c.tagTold (Program.bind p next) = ∅ := by
  unfold Cluster.tagTold
  rw [notes_bind_of_error hp]
  exact tagTold_of_tagFree h c

end told

-- ================================================= what is carried out

/-- A program leaves the tag of a call as it should: empty if it fails, and
with what the call says if it ends well. -/
structure Call.LeavesTag (call : Call) (topology : Topology) (c : Cluster)
    (p : Program Unit) : Prop where
  failed : ∀ failure d, c.perform p = (.error failure, d) → c.tagTold p = ∅
  ended : ∀ d, c.perform p = (.ok (), d) →
    c.tagTold p = .saying (call.completion? topology c d)

/-- What says nothing about the tag leaves that of a statement which writes
none as it should. -/
theorem leavesTag_of_tagFree {p : Program Unit} (h : p.TagFree)
    (hs : call.statement.writesTag = false) (topology : Topology)
    (c : Cluster) : call.LeavesTag topology c p where
  failed := fun _ _ _ => tagTold_of_tagFree h c
  ended := by
    intro d _
    have hnone : call.completion? topology c d = none := by
      unfold Call.completion?
      cases hstatement : call.statement with
      | transaction | fetch | copy | barrier =>
          rw [hstatement] at hs
          cases hs
      | _ => rfl
    rw [hnone]
    exact tagTold_of_tagFree h c

/-- A text is told, if there is one. -/
def Call.say (call : Call) : Option String → Program Unit
  | some text => call.tellTag text
  | none => .done ()

/-- A text that is told last, after a part that says nothing about the tag, is
left if the part ends well, and nothing is left if it fails. -/
theorem leavesTag_say {α : Type} {p : Program α} {next : α → Program Unit}
    {topology : Topology} (htag : call.hasTag = true) (hfree : p.TagFree)
    (words : α → Option String)
    (hnext : ∀ value, next value = call.say (words value))
    (hwords : ∀ value d, c.perform p = (.ok value, d) →
      words value = call.completion? topology c d) :
    call.LeavesTag topology c (Program.bind p next) := by
  cases hp : c.perform p with
  | mk result w =>
      cases result with
      | error failure =>
          refine ⟨fun _ _ _ => tagTold_bind_of_error hfree hp _,
            fun d hok => ?_⟩
          rw [Cluster.perform_bind_of_error hp] at hok
          cases (Prod.mk.inj hok).1
      | ok value =>
          have hsaid : w.perform (call.say (words value)) = (.ok (), w) := by
            cases words value with
            | none => rfl
            | some text => exact perform_tellTag call text w
          have htold : w.tagTold (call.say (words value))
              = .saying (words value) := by
            cases words value with
            | none => rfl
            | some text =>
                unfold Call.say Call.tellTag
                simp only [htag, if_true]
                rfl
          refine ⟨fun failure d hfail => ?_, fun d hok => ?_⟩
          · rw [Cluster.perform_bind_of_ok hp, hnext, hsaid] at hfail
            cases (Prod.mk.inj hfail).1
          · rw [Cluster.perform_bind_of_ok hp, hnext, hsaid] at hok
            obtain ⟨-, rfl⟩ := Prod.mk.inj hok
            rw [tagTold_bind_of_ok hfree hp, hnext, htold, hwords value w hp]

/-- A command tells what it says instead of its own tag. -/
theorem leavesTag_command {command : TransactionCommand}
    (hs : call.statement = .transaction command) (htag : call.hasTag = true)
    (topology : Topology) (nested : Statement → Program Unit) (c : Cluster) :
    call.LeavesTag topology c (runLocally topology nested call) := by
  rw [runLocally_command hs]
  refine leavesTag_say htag (silent_run call.context command).tagFree id
    (fun tag => ?_) fun tag d hrun => ?_
  · cases tag <;> rfl
  · unfold Call.completion?
    rw [hs]
    exact override_run hrun

/-- The handler of a statement is run, and gives the rows that it counted. -/
theorem perform_runHandler (call : Call) (c : Cluster) :
    c.perform call.runHandler
      = ((c.execute call.statement).1.map Handled.count,
        (c.execute call.statement).2) := by
  unfold Call.runHandler
  rw [Program.bind_eq, Cluster.perform_request_bind]
  simp only [answer]
  cases (c.execute call.statement).1 with
  | error failure => rfl
  | ok handled =>
      show (Cluster.perform _ (if call.takesRows = true then _ else _)) = _
      split <;> rfl

/-- FETCH, MOVE and COPY tell what their handler counted. -/
theorem leavesTag_counted (htag : call.hasTag = true) {topology : Topology}
    {command : String}
    (hcompletion : ∀ d, call.completion? topology c d
      = (c.handlerCount call.statement).map (CompletionTag.counted command)) :
    call.LeavesTag topology c (call.handleCounted command) := by
  refine leavesTag_say htag (tagFree_runHandler call)
    (fun count => count.map (CompletionTag.counted command)) (fun count => ?_)
    fun count d hrun => ?_
  · cases count <;> rfl
  · rw [perform_runHandler] at hrun
    obtain ⟨hresult, -⟩ := Prod.mk.inj hrun
    rw [hcompletion d]
    unfold Cluster.handlerCount
    cases hexecute : (c.execute call.statement).1 with
    | error failure =>
        rw [hexecute] at hresult
        cases hresult
    | ok handled =>
        rw [hexecute] at hresult
        rw [← Except.ok.inj hresult]

/-- A barrier that succeeds gives the identifier it was asked for, or one made
of the local node and the present moment. -/
theorem eq_of_barrierStart {topology : Topology} {id : Option String}
    {given : String}
    (h : c.perform (Barrier.start topology id context) = (.ok given, d)) :
    given = id.getD (Barrier.standardId topology.localNode c.timestamp) := by
  unfold Barrier.start at h
  split at h
  case isFalse => cases (Prod.mk.inj h).1
  have hidentify : c.perform (Barrier.identify topology id)
      = (.ok (id.getD (Barrier.standardId topology.localNode c.timestamp)),
        c) := by
    cases id <;> rfl
  rw [Program.bind_eq, Cluster.perform_bind_of_ok hidentify,
    Program.bind_eq] at h
  cases hrun : c.perform (Barrier.run topology
      (id.getD (Barrier.standardId topology.localNode c.timestamp))) with
  | mk result w =>
      cases result with
      | error failure =>
          rw [Cluster.perform_bind_of_error hrun] at h
          cases (Prod.mk.inj h).1
      | ok _ =>
          rw [Cluster.perform_bind_of_ok hrun] at h
          exact (Except.ok.inj (Prod.mk.inj h).1).symm

/-- BARRIER tells the identifier of the barrier. -/
theorem leavesTag_barrier {id : Option String}
    (hs : call.statement = .barrier id) (htag : call.hasTag = true)
    (topology : Topology) (c : Cluster) :
    call.LeavesTag topology c
      (Program.bind (Barrier.start topology id call.context) fun id =>
        call.tellTag ("BARRIER " ++ id)) := by
  refine leavesTag_say htag
    (silent_barrierStart topology id call.context).tagFree
    (fun id => some ("BARRIER " ++ id)) (fun _ => rfl)
    fun given d hstart => ?_
  unfold Call.completion?
  rw [hs, eq_of_barrierStart hstart]

/-- A call that is let through leaves its tag as it should. -/
theorem leavesTag_carriedOut (htag : call.hasTag = true)
    (config : Configuration) (i : Interceptor) (c : Cluster) :
    call.LeavesTag config.topology c (call.carriedOut config i) := by
  have hnested (s : Statement) : (dispatch config i (call.sub s)).TagFree :=
    tagFree_dispatch config i rfl
  cases hwrites : call.statement.writesTag with
  | false =>
      refine leavesTag_of_tagFree ?_ hwrites config.topology c
      refine tagFree_carrying hnested (fun h => ?_) config.topology
      rw [hwrites] at h
      cases h
  | true =>
      have hroute : call.statement.route? = none := by
        cases hs : call.statement with
        | transaction | fetch | copy | barrier => rfl
        | _ =>
            rw [hs] at hwrites
            cases hwrites
      rw [carriedOut_of_unrouted hroute]
      cases hs : call.statement with
      | transaction command =>
          exact leavesTag_command hs htag config.topology _ c
      | fetch f =>
          have hlocal : runLocally config.topology
              (fun s => dispatch config i (call.sub s)) call
              = call.handleCounted (if f.isMove then "MOVE" else "FETCH") := by
            unfold runLocally
            rw [hs]
          rw [hlocal]
          exact leavesTag_counted htag fun d => by
            unfold Call.completion?; rw [hs]
      | copy copy =>
          have hlocal : runLocally config.topology
              (fun s => dispatch config i (call.sub s)) call
              = call.handleCounted "COPY" := by
            unfold runLocally
            rw [hs]
          rw [hlocal]
          exact leavesTag_counted htag fun d => by
            unfold Call.completion?; rw [hs]
      | barrier id =>
          have hlocal : runLocally config.topology
              (fun s => dispatch config i (call.sub s)) call
              = Program.bind (Barrier.start config.topology id call.context)
                fun id => call.tellTag ("BARRIER " ++ id) := by
            unfold runLocally
            rw [hs]
            rfl
          rw [hlocal]
          exact leavesTag_barrier hs htag config.topology c
      | _ =>
          rw [hs] at hwrites
          cases hwrites

-- ================================================ how much a tag holds

/-- Characters for which there is room are not cut. -/
private theorem cutChars_of_fits {chars : List Char} {room : Nat}
    (h : (chars.map Char.utf8Size).sum ≤ room) :
    Text.cutChars room chars = chars := by
  induction chars generalizing room with
  | nil => rfl
  | cons c rest ih =>
      rw [List.map_cons, List.sum_cons] at h
      rw [Text.cutChars, if_pos (by omega), ih (by omega)]

/-- ASCII characters have one byte each. -/
theorem sum_utf8Size_of_ascii {chars : List Char}
    (hascii : ∀ c ∈ chars, c.val ≤ 127) :
    (chars.map Char.utf8Size).sum = chars.length := by
  induction chars with
  | nil => rfl
  | cons c rest ih =>
      obtain ⟨hc, hrest⟩ := List.forall_mem_cons.mp hascii
      rw [List.map_cons, List.sum_cons, ih hrest,
        Char.utf8Size_eq_one_iff.mpr hc, List.length_cons, Nat.add_comm]

/-- An ASCII text with no more characters than there is room is not cut. -/
private theorem cut_of_ascii {text : String} {room : Nat}
    (hascii : ∀ c ∈ text.toList, c.val ≤ 127)
    (hlength : text.toList.length ≤ room) : Text.cut room text = text := by
  unfold Text.cut
  rw [cutChars_of_fits ((sum_utf8Size_of_ascii hascii).trans_le hlength)]
  exact String.ofList_toList

/-- The digits of a number are ASCII characters. -/
theorem ascii_of_isDigit {c : Char} (h : c.isDigit = true) : c.val ≤ 127 := by
  have hrange : 48 ≤ c.val ∧ c.val ≤ 57 := by simpa [Char.isDigit] using h
  exact UInt32.le_trans hrange.2 (by decide)

/-- A count of rows fits into a tag with the command before it. -/
theorem saying_counted {command : String}
    (hcommand : command ∈ ["FETCH", "MOVE", "COPY"]) {rows : Nat}
    (hrows : rows < 2 ^ 64) :
    CompletionTag.saying (some (CompletionTag.counted command rows))
      = ⟨CompletionTag.counted command rows, true⟩ := by
  obtain ⟨hlength, hname⟩ : command.toList.length ≤ 5 ∧
      ∀ c ∈ command.toList, c.val ≤ 127 := by
    simp only [List.mem_cons, List.not_mem_nil, or_false] at hcommand
    rcases hcommand with rfl | rfl | rfl <;> simp
  have hlist : (CompletionTag.counted command rows).toList
      = command.toList ++ ' ' :: Nat.toDigits 10 rows := by
    simp [CompletionTag.counted]
  have hdigits : (Nat.toDigits 10 rows).length ≤ 20 :=
    Nat.toDigits_length 10 rows 20 (by decide) (by omega)
  have hcut : Text.cut CompletionTag.room (CompletionTag.counted command rows)
      = CompletionTag.counted command rows := by
    refine cut_of_ascii (fun c hc => ?_) ?_
    · rw [hlist] at hc
      rcases List.mem_append.mp hc with hc | hrest
      · exact hname c hc
      · rcases List.mem_cons.mp hrest with rfl | hdigit
        · decide
        · exact ascii_of_isDigit
            (Nat.isDigit_of_mem_toDigits (by decide) (by decide) hdigit)
    · rw [hlist, List.length_append, List.length_cons, CompletionTag.room]
      omega
  exact congrArg (CompletionTag.mk · true) hcut

-- ====================================================== the law

/-- A call that is let through leaves the tag that its carrying out tells. -/
theorem tagAfter_of_passes {level : LogClass} (hpass : call.Passes config i c)
    (hlevel : (c.perform (classify call.statement)).1 = .ok level)
    (htag : call.hasTag = true) (tag : CompletionTag) :
    call.tagAfter config i tag c = c.tagTold (call.carriedOut config i) := by
  obtain ⟨sighted, logged, hnotes, hlogged⟩ := notes_dispatch hpass hlevel htag
  unfold Call.tagAfter
  rw [hnotes]
  exact tag_hearAll_cleared _ hlogged

/-- A call that is refused leaves an empty tag. -/
theorem tagAfter_of_refused (hadmits : i.admits call.statement.kind = true)
    (htag : call.hasTag = true)
    (hrefused : ∀ level, (c.perform (classify call.statement)).1 = .ok level →
      ¬ call.Passes config i c) (tag : CompletionTag) :
    call.tagAfter config i tag c = ∅ := by
  obtain ⟨sighted, logged, hnotes, hlogged⟩ :=
    notes_dispatch_refused hadmits htag hrefused
  unfold Call.tagAfter
  rw [hnotes, ← List.append_nil logged]
  exact tag_hearAll_cleared _ hlogged

/-- A dispatch that no interceptor refuses does nothing and empties the tag, or
it does what its carrying out does, also to the tag. -/
theorem tagAfter_dispatch (config : Configuration)
    (hadmits : i.admits call.statement.kind = true) (htag : call.hasTag = true)
    (tag : CompletionTag) (c : Cluster) :
    (∃ failure, c.perform (dispatch config i call) = (.error failure, c) ∧
        call.tagAfter config i tag c = ∅) ∨
      (c.perform (dispatch config i call)
        = c.perform (call.carriedOut config i) ∧
        call.tagAfter config i tag c
          = c.tagTold (call.carriedOut config i)) := by
  cases begins_dispatch config i call c with
  | intercepted hkind =>
      rw [hadmits] at hkind
      cases hkind
  | tooDeep hperform hdeep =>
      refine .inl ⟨_, hperform,
        tagAfter_of_refused hadmits htag (fun _ _ hpass => ?_) tag⟩
      exact Nat.not_lt.mpr hpass.depth hdeep
  | unclassified hlevel hperform =>
      refine .inl ⟨_, hperform,
        tagAfter_of_refused hadmits htag (fun _ hclass => ?_) tag⟩
      rw [hlevel] at hclass
      cases hclass
  | refused hgate hperform =>
      refine .inl ⟨_, hperform,
        tagAfter_of_refused hadmits htag (fun _ _ hpass => ?_) tag⟩
      have hgate' := hpass.gate
      rw [hgate] at hgate'
      cases hgate'
  | passed hlevel hpass =>
      exact .inr ⟨perform_dispatch_of_passes hpass hlevel,
        tagAfter_of_passes hpass hlevel htag tag⟩

/-- Whatever is in the tag of a client before a dispatch that no interceptor
refuses, it is empty if the dispatch fails, and if it ends well it holds what
the call says, if anything, and else it is empty. What is counted is never cut
short, nor is ROLLBACK, and the statements of an expansion have no part in the
tag. -/
theorem completion_tag_law (config : Configuration) (i : Interceptor)
    (call : Call) (tag : CompletionTag) (c : Cluster)
    (hadmits : i.admits call.statement.kind = true)
    (htag : call.hasTag = true) :
    (∀ failure d, c.perform (dispatch config i call) = (.error failure, d) →
        call.tagAfter config i tag c = ∅) ∧
      (∀ d, c.perform (dispatch config i call) = (.ok (), d) →
        call.tagAfter config i tag c
          = .saying (call.completion? config.topology c d)) ∧
      (∀ command ∈ ["FETCH", "MOVE", "COPY"], ∀ rows < 2 ^ 64,
        CompletionTag.saying (some (CompletionTag.counted command rows))
          = ⟨CompletionTag.counted command rows, true⟩) ∧
      CompletionTag.saying rolledBackTag = ⟨"ROLLBACK", true⟩ ∧
      ∀ s, (dispatch config i (call.sub s)).TagFree := by
  have hleaves := leavesTag_carriedOut htag config i c
  refine ⟨fun failure d hfail => ?_, fun d hok => ?_,
    fun command hcommand rows hrows => saying_counted hcommand hrows,
    by decide, fun s => tagFree_dispatch config i rfl⟩
  · rcases tagAfter_dispatch config hadmits htag tag c with
      ⟨_, -, hempty⟩ | ⟨hsame, htold⟩
    · exact hempty
    · rw [hsame] at hfail
      rw [htold]
      exact hleaves.failed failure d hfail
  · rcases tagAfter_dispatch config hadmits htag tag c with
      ⟨_, hrefused, -⟩ | ⟨hsame, htold⟩
    · rw [hrefused] at hok
      cases (Prod.mk.inj hok).1
    · rw [hsame] at hok
      rw [htold]
      exact hleaves.ended d hok

/-- BARRIER under a name of its own, from a client. -/
def namedBarrier : Call :=
  ⟨.barrier (some "nightly"), "BARRIER 'nightly'",
    .topLevel .coordinator, true, false⟩

/-- The tag of an earlier FETCH gives way to the name of the barrier. -/
theorem completion_tag_law_barrier :
    namedBarrier.tagAfter .standard .standard ⟨"FETCH 3", true⟩
        (.fresh .standard "")
      = ⟨"BARRIER nightly", true⟩ := by
  obtain ⟨-, hended, -⟩ := completion_tag_law .standard .standard namedBarrier
    ⟨"FETCH 3", true⟩ (.fresh .standard "") rfl rfl
  exact hended ((Cluster.fresh .standard "").perform
    (dispatch .standard .standard namedBarrier)).2 (Prod.ext rfl rfl)

end ClusterUtility
