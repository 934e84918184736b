/-
Dispatches within a dispatch, and what they send.

A statement that another one expands to is dispatched in turn, so a dispatch
may contain others, at any depth. `Call.Dispatches` says that a dispatch comes
to the moment of another.

# What a nested statement sends

Most of what can go out has a guard that asks for the top level, or stands
behind the gate's refusal to let a statement run inside an expansion. Barriers
have neither: whether one may be asked for is decided by the role of the node
and by who sent the statement, and both are passed on to an expansion
unchanged. So a BARRIER among the statements of an expansion reaches all other
nodes.

It is also the only one. Below the top level, everything that goes out is a
message of a barrier, and it goes out while some BARRIER is dispatched on a
client-facing coordinator (`nested_sends_only_barriers`). Every entry is
traced to the dispatch that entered it, part by part: a program has its
outgoing entries accounted for if the programs that it is made of do.
-/
import ClusterUtility.Proofs.Dispatch.Outgoing
import ClusterUtility.Proofs.Program.Exchange

namespace ClusterUtility

open Cluster (Adds Event)
open Program (Leads Sequential)

-- ======================================== dispatches within dispatches

/-- In the run of a call there is a moment, in some cluster, at which another
call is dispatched; or it is that call itself. -/
def Call.Dispatches (config : Configuration) (i : Interceptor) (call : Call)
    (c : Cluster) (other : Call) (d : Cluster) : Prop :=
  ∃ next, Program.Leads Cluster.answer (dispatch config i call) c
    (Program.bind (dispatch config i other) next) d

/-- The dispatch of a call enters something into the journal. -/
def Call.Enters (config : Configuration) (i : Interceptor) (call : Call)
    (c : Cluster) (event : Event) : Prop :=
  ∃ events, (c.perform (dispatch config i call)).2.journal
    = c.journal ++ events ∧ event ∈ events

/-- The call is for a barrier, on a coordinator that has the command from a
client. -/
def Call.AsksForBarrier (call : Call) : Prop :=
  (∃ id, call.statement = .barrier id) ∧ call.context.isClientFacing = true

/-- The entry tells of a message of a barrier. -/
def Cluster.Event.isBarrierMessage : Event → Bool
  | .barrierPrepared .. => true
  | .barrierExecuted .. => true
  | .barrierEnded .. => true
  | _ => false

variable {α β : Type} {config : Configuration} {i : Interceptor}
  {call other : Call} {c d v : Cluster}

namespace Program

/-- In the run of a program there is a moment, in some cluster, at which a call
is dispatched. -/
def Dispatches (config : Configuration) (i : Interceptor) (p : Program α)
    (c : Cluster) (other : Call) (d : Cluster) : Prop :=
  ∃ next, Leads Cluster.answer p c
    (Program.bind (dispatch config i other) next) d

/-- What a program comes to, it comes to whatever follows it. -/
theorem Dispatches.bind {p : Program α} (h : p.Dispatches config i c other d)
    (next : α → Program β) :
    (Program.bind p next).Dispatches config i c other d := by
  obtain ⟨rest, hleads⟩ := h
  refine ⟨fun u => Program.bind (rest u) next, ?_⟩
  rw [← Program.bind_assoc]
  exact hleads.bind next

/-- What a program comes to, it comes to after another one that gives a
value. -/
theorem Dispatches.after {p : Program α} {next : α → Program β} {value : α}
    (hp : Leads Cluster.answer p c (.done value) v)
    (h : (next value).Dispatches config i v other d) :
    (Program.bind p next).Dispatches config i c other d := by
  obtain ⟨rest, hleads⟩ := h
  exact ⟨rest, (hp.bind next).trans hleads⟩

end Program

/-- A call is dispatched at the start of its own dispatch. -/
theorem Call.dispatches_self (config : Configuration) (i : Interceptor)
    (call : Call) (c : Cluster) : call.Dispatches config i c call c := by
  refine ⟨.done, ?_⟩
  rw [Program.bind_done]
  exact .here

-- ====================================================== accounts

/-- In the run of a program, some barrier is dispatched that enters something
into the journal. -/
def Traced (config : Configuration) (i : Interceptor) (p : Program α)
    (c : Cluster) (event : Event) : Prop :=
  ∃ other d, other.AsksForBarrier ∧ other.Enters config i d event ∧
    ∃ next, Leads Cluster.answer p c
      (Program.bind (dispatch config i other) next) d

/-- All that goes out in the run of a program is traced to barriers that it
dispatches. -/
def Accounted (config : Configuration) (i : Interceptor) (p : Program α)
    (c : Cluster) : Prop :=
  Adds (fun event => event.isOutgoing = true → Traced config i p c event) c
    (c.perform p).2

/-- What is traced stays so whatever follows. -/
private theorem Traced.bind {p : Program α} {event : Event}
    (h : Traced config i p c event) (next : α → Program β) :
    Traced config i (Program.bind p next) c event := by
  obtain ⟨other, d, hbarrier, henters, hmoment⟩ := h
  exact ⟨other, d, hbarrier, henters, Program.Dispatches.bind hmoment next⟩

/-- What is traced stays so after a program that gives a value. -/
private theorem Traced.after {p : Program α} {next : α → Program β} {value : α}
    {event : Event} (hp : c.perform p = (.ok value, d))
    (h : Traced config i (next value) d event) :
    Traced config i (Program.bind p next) c event := by
  obtain ⟨other, v, hbarrier, henters, hmoment⟩ := h
  obtain ⟨hresult, rfl⟩ := Prod.mk.inj hp
  have hdone := Program.leads_of_ok hresult
  exact ⟨other, v, hbarrier, henters, Program.Dispatches.after hdone hmoment⟩

/-- A program in two parts is accounted for when both are. -/
theorem Accounted.bind {p : Program α} {next : α → Program β}
    (hp : Accounted config i p c)
    (hnext : ∀ value d, c.perform p = (.ok value, d) →
      Accounted config i (next value) d) :
    Accounted config i (Program.bind p next) c := by
  refine Cluster.adds_perform_bind ?_ fun value d hperform => ?_
  · exact hp.imp fun _ htraced hout => (htraced hout).bind next
  · exact (hnext value d hperform).imp fun _ htraced hout =>
      (htraced hout).after hperform

/-- Where nothing goes out, there is nothing to account for. -/
theorem accounted_of_within {gives : α → Prop} {p : Program α}
    (h : p.Within (fun r => r.staysHome = true) gives) (c : Cluster) :
    Accounted config i p c := by
  have hasks : p.Asks fun r => r.staysHome = true := h.imp fun _ _ => trivial
  have hadds := Cluster.adds_perform hasks
    (fun r hr _ => r.isOutgoing_of_records hr) c
  refine hadds.imp fun event hhome hout => ?_
  rw [hhome] at hout
  cases hout

/-- To be accounted for goes from part to part. -/
private theorem sequential_accounted (config : Configuration)
    (i : Interceptor) :
    Sequential (fun r => r.staysHome = true)
      fun p => ∀ c, Accounted config i p c where
  ofAsks := accounted_of_within
  bind := fun hp hnext c => (hp c).bind fun _ d _ => hnext () d
  after := by
    intro _ _ _ _ hp hnext c
    refine (accounted_of_within hp c).bind fun value d hperform => ?_
    have hgives := hp.result (congrArg Prod.fst hperform)
    exact hnext value hgives d

/-- A call for a barrier accounts for itself. -/
private theorem Call.AsksForBarrier.accounted (h : call.AsksForBarrier)
    (config : Configuration) (i : Interceptor) (c : Cluster) :
    Accounted config i (dispatch config i call) c := by
  obtain ⟨events, hjournal⟩ :=
    (Cluster.onward_perform c (dispatch config i call)).journal
  refine ⟨events, hjournal.symm, fun event hmem _ => ?_⟩
  exact ⟨call, c, h, ⟨events, hjournal.symm, hmem⟩,
    call.dispatches_self config i c⟩

-- =================================================== nested statements

/-- Below the top level, a call that is not for a barrier asks by itself for
nothing that goes out. -/
theorem serves_nested (hnested : call.context.isTopLevel = false)
    (hbarrier : ¬ call.AsksForBarrier) (topology : Topology) :
    Serves (fun r => r.staysHome = true) topology call := by
  have hlocal := Context.not_propagates_of_nested hnested
  refine ⟨?home, ?work, fun hp => absurd hp hlocal,
    fun hp => absurd hp hlocal, fun hp => absurd hp hlocal, ?barrier⟩
  case home =>
    intro r hr
    refine Request.staysHome_of_home ?_
    rw [hr]
    rfl
  case work =>
    intro r hr
    refine Request.staysHome_of_home ?_
    rw [hr.reach]
    rfl
  case barrier =>
    intro hfacing id hs
    exact absurd ⟨⟨id, hs⟩, hfacing⟩ hbarrier

/-- Below the top level, all that goes out is traced to barriers. -/
theorem accounted_dispatch (config : Configuration) (i : Interceptor)
    (hnested : call.context.isTopLevel = false) (c : Cluster) :
    Accounted config i (dispatch config i call) c := by
  induction call using dispatch_induction config generalizing c with
  | h call ih =>
      by_cases hbarrier : call.AsksForBarrier
      · exact hbarrier.accounted config i c
      · have hserves := serves_nested hnested hbarrier config.topology
        have hlocal := Context.not_propagates_of_nested hnested
        refine sequential_dispatch (sequential_accounted config i) config
          hserves (fun hp => absurd hp hlocal) ?_ i
          (fun hdepth s => ih hdepth s rfl) c
        -- commands that name a prepared transaction are for the top level
        intro command hs hgid htop
        rw [hnested] at htop
        cases htop

/-- What is asked of the nodes of a barrier makes entries of its messages. -/
private theorem isBarrierMessage_of_records {r : Request}
    (h : r.reach = .barrier) {event : Event} (hrecords : r.Records event) :
    event.isBarrierMessage = true := by
  cases r with
  | prepareBarrier node id => exact congrArg Event.isBarrierMessage hrecords
  | executeBarrier node id => exact congrArg Event.isBarrierMessage hrecords
  | endBarrier node id => exact congrArg Event.isBarrierMessage hrecords
  | _ => cases h

/-- Below the top level, only messages of barriers go out. -/
theorem barrierMessages_dispatch (config : Configuration) (i : Interceptor)
    (hnested : call.context.isTopLevel = false) (c : Cluster) :
    Adds (fun event => event.isOutgoing = true → event.isBarrierMessage = true)
      c (c.perform (dispatch config i call)).2 := by
  have hasks : Program.Asks (fun r => r.staysHome = true ∨ r.reach = .barrier)
      (dispatch config i call) :=
    asks_dispatch_nested hnested
      (fun _ hr => .inl (Request.staysHome_of_home hr)) (fun _ => .inr)
      config i
  refine Cluster.adds_perform hasks ?_ c
  rintro r (hhome | hbarrier) event hrecords hout
  · rw [r.isOutgoing_of_records hhome hrecords] at hout
    cases hout
  · exact isBarrierMessage_of_records hbarrier hrecords

/-- Below the top level, nothing is sent but by barriers: every message is one
of a barrier that is dispatched within, on a coordinator that faces the
client. -/
theorem nested_sends_only_barriers (config : Configuration) (i : Interceptor)
    (call : Call) (hnested : call.context.isTopLevel = false) (c : Cluster) :
    ∃ events, (c.perform (dispatch config i call)).2.journal
      = c.journal ++ events ∧
      ∀ event ∈ events, event.isOutgoing = true →
        event.isBarrierMessage = true ∧
          ∃ other d, call.Dispatches config i c other d ∧
            other.AsksForBarrier ∧ other.Enters config i d event := by
  obtain ⟨events, hjournal, htraced⟩ := accounted_dispatch config i hnested c
  refine ⟨events, hjournal, fun event hmem hout => ?_⟩
  obtain ⟨other, d, hbarrier, henters, next, hleads⟩ := htraced event hmem hout
  have hmessage := (barrierMessages_dispatch config i hnested c).of_append
    hjournal event hmem hout
  exact ⟨hmessage, other, d, ⟨next, hleads⟩, hbarrier, henters⟩

/-- A schema among the statements of an expansion, with a barrier among its
elements. -/
def nestedSchema : Call :=
  ⟨.createSchema "s" none [.barrier (some "b")], "CREATE SCHEMA s",
    (Context.topLevel .coordinator).forSubstatement, false, false⟩

/-- The barrier among the elements stops the other coordinator. -/
theorem nested_sends_only_barriers_nestedSchema :
    ∃ events, ((Cluster.fresh .standard "").perform
        (dispatch .standard .none nestedSchema)).2.journal = events ∧
      .barrierPrepared "coord2" "b" ∈ events ∧
      ∀ event ∈ events, event.isOutgoing = true →
        event.isBarrierMessage = true ∧
          ∃ other d, nestedSchema.Dispatches .standard .none
            (.fresh .standard "") other d ∧
            other.AsksForBarrier ∧ other.Enters .standard .none d event := by
  obtain ⟨events, hjournal, htraced⟩ :=
    nested_sends_only_barriers .standard .none nestedSchema rfl
      (.fresh .standard "")
  refine ⟨events, hjournal, ?_, htraced⟩
  have hevents : events =
      [.handler .createSchema, .commandAdvanced, .barrierPrepared "coord2" "b",
        .barrierExecuted "coord2" "b", .barrierExecuted "dn1" "b",
        .barrierExecuted "dn2" "b", .barrierRecorded "b",
        .barrierEnded "coord2" "b"] := hjournal.symm
  rw [hevents]
  decide

end ClusterUtility
