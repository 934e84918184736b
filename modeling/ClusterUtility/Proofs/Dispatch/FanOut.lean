/-
What a dispatch sends to other nodes.

A plan is made before the statement runs, and it decides what is sent: the
text of the statement, to the group of the plan, once. Most statements go out
after the local run, so they go out if nothing failed before; a few go out
first. A group without remote members is sent nothing.

Nothing else is sent. The statements of an expansion have no plan of their
own, since they do not come from a client, and of all local runs only that of
DROP DATABASE sends something: other coordinators are told to drop their
pooled connections before the database goes.

# How it is read off

A call that is let through passes three stages: what goes out before the local
run, the local run, what goes out after it. Each stage is left at once when it
fails (`Carried`). `FansOut` says what that comes to for the entries of the
whole dispatch.
-/
import ClusterUtility.Proofs.Dispatch.Command
import ClusterUtility.Proofs.Transaction.Concern

namespace ClusterUtility

open Cluster (Adds Event)
open Program (Asks sequential_asks)

-- ========================================== requests and their entries

/-- The request by which a plan has a text run on other nodes. -/
def Plan.request (plan : Plan) (text : String) : RemoteRequest :=
  .send text plan.group plan.autocommit

/-- What is entered for a request that is sent: nothing, if its group has no
remote members. -/
def RemoteRequest.entries (topology : Topology)
    (request : RemoteRequest) : List Event :=
  if (topology.members request.group).isEmpty then [] else [.sent request]

/-- What is entered at a time for a text that is sent by a plan. -/
def Plan.entriesAt (topology : Topology) (text : String) (timing : Timing) :
    Option Plan → List Event
  | some plan =>
      if plan.timing = timing then (plan.request text).entries topology else []
  | none => []

/-- What is entered by the local run of DROP DATABASE. -/
def dropDatabaseEntries (topology : Topology) (name : String) : List Event :=
  .connectionsCleaned (some name) ::
    ((cleanDatabaseRequest name).entries topology ++ [.handler .dropDatabase])

variable {config : Configuration} {i : Interceptor} {call : Call}
  {c d : Cluster} {topology : Topology} {request : RemoteRequest}
  {name : String}

-- ====================================================== sending

/-- Sending by a group and a text fails and does nothing, or enters the
request. -/
theorem perform_propagate (topology : Topology) (text : String)
    (group : NodeGroup) (autocommit : Bool) (c : Cluster) :
    (∃ failure, c.perform (propagate topology text group autocommit)
      = (.error failure, c)) ∨
      ∃ d, c.perform (propagate topology text group autocommit) = (.ok (), d) ∧
        d.journal = c.journal
          ++ (RemoteRequest.send text group autocommit).entries topology := by
  unfold propagate
  by_cases hsilent : (topology.members group).isEmpty = true
  · have hentries : (RemoteRequest.send text group autocommit).entries
        topology = [] :=
      if_pos hsilent
    rw [if_pos (by rw [hsilent, Bool.or_true]), hentries, List.append_nil]
    exact .inr ⟨c, rfl, rfl⟩
  · have hgroup : group ≠ .none := by
      rintro rfl
      exact hsilent rfl
    have hentries : (RemoteRequest.send text group autocommit).entries topology
        = [.sent (.send text group autocommit)] := if_neg hsilent
    rw [if_neg (by simp [hgroup, hsilent]), hentries, Program.bind_eq,
      Cluster.perform_request_bind]
    simp only [Cluster.answer]
    rcases c.send_cases (.send text group autocommit) with
      ⟨failure, hsend⟩ | hsend
    · rw [hsend]
      exact .inl ⟨_, rfl⟩
    · rw [hsend]
      exact .inr ⟨_, rfl, rfl⟩

/-- So it is with a plan: at its time the request is entered, and at the other
time nothing is. -/
theorem perform_propagateAt (topology : Topology) (text : String)
    (plan : Option Plan) (timing : Timing) (c : Cluster) :
    (∃ failure, c.perform (propagateAt topology text plan timing)
      = (.error failure, c)) ∨
      ∃ d, c.perform (propagateAt topology text plan timing) = (.ok (), d) ∧
        d.journal = c.journal ++ Plan.entriesAt topology text timing plan := by
  cases plan with
  | none => exact .inr ⟨c, rfl, (List.append_nil _).symm⟩
  | some plan =>
      unfold propagateAt Plan.entriesAt
      dsimp only
      by_cases htiming : plan.timing = timing
      · rw [if_pos htiming, if_pos htiming]
        exact perform_propagate ..
      · rw [if_neg htiming, if_neg htiming]
        exact .inr ⟨c, rfl, (List.append_nil _).symm⟩

/-- Making a plan only looks. -/
theorem perform_makePlan (s : Statement) (c : Cluster) :
    (c.perform (Plan.make s)).2 = c := by
  have hasks : Asks (fun r => ∃ name, r = .relationKind name) (Plan.make s) :=
    asks_makePlan (fun name => ⟨name, rfl⟩) s
  refine hasks.related (R := fun c d => d = c) (fun _ => rfl)
    (fun h h' => h'.trans h) ?_ c
  rintro _ w ⟨name, rfl⟩
  rfl

-- ====================================================== the local run

/-- The request is the one by which DROP DATABASE has pooled connections
dropped on other coordinators. -/
def IsCleaning (topology : Topology) (call : Call)
    (request : RemoteRequest) : Prop :=
  ∃ name missingOk, call.statement = .dropDatabase name missingOk ∧
    (topology.members .coordinators).isEmpty = false ∧
    request = cleanDatabaseRequest name

/-- The request sends nothing to other nodes, or what DROP DATABASE sends. -/
def Request.OnlyCleans (topology : Topology) (call : Call)
    (r : Request) : Prop :=
  ∀ request, r = .send request → IsCleaning topology call request

/-- What is no message sends nothing. -/
private theorem onlyCleans_of_reach {r : Request} (hr : r.reach ≠ .message) :
    r.OnlyCleans topology call := by
  rintro request rfl
  exact absurd rfl hr

/-- The requests of a local run send nothing, but for those of DROP
DATABASE. -/
theorem serves_onlyCleans (topology : Topology) (call : Call) :
    Serves (fun r => r.OnlyCleans topology call) topology call where
  home := fun _ hr => onlyCleans_of_reach (by simp [hr])
  work := fun _ hr => onlyCleans_of_reach (by simp [hr.reach])
  beginRemote := by
    intro _ _ _ h
    cases h
  setOption := by
    intro _ _ _ _ h
    cases h
  clean := fun _ hmembers name missingOk hs _ h =>
    ⟨name, missingOk, hs, hmembers, (Request.send.inj h).symm⟩
  barrier := fun _ _ _ _ hr => onlyCleans_of_reach (by simp [hr.reach])

/-- Transaction commands send no text. -/
theorem run_onlyCleans (topology : Topology) (call : Call)
    (command : TransactionCommand) :
    Asks (fun r => r.OnlyCleans topology call) (command.run call.context) := by
  have hserves := serves_onlyCleans topology call
  cases hgid : command.gid? with
  | none => exact asks_run hserves.home hserves.beginRemote hgid
  | some gid =>
      refine asks_run_of_gid? ⟨hserves.home, ?prepared, ?barrier⟩ hgid _
      case prepared =>
        rintro r hr request rfl
        exact False.elim hr
      case barrier =>
        intro request h
        cases h

/-- The statements of an expansion send nothing, since they do not come from a
client. -/
theorem nested_onlyCleans (config : Configuration) (i : Interceptor)
    (call : Call) (s : Statement) :
    Asks (fun r => r.OnlyCleans topology call)
      (dispatch config i (call.sub s)) := by
  refine asks_dispatch_nested rfl (fun r hr => onlyCleans_of_reach ?_)
    (fun _ hr => onlyCleans_of_reach (by simp [hr])) config i
  intro hmessage
  rw [hmessage] at hr
  cases hr

/-- Whatever runs, and whatever it expands to, only DROP DATABASE sends
something by itself. -/
theorem sent_runLocally (config : Configuration) (i : Interceptor)
    (call : Call) (c : Cluster) :
    Adds (fun event => ∀ request, event = .sent request →
        IsCleaning config.topology call request)
      c (c.perform (runLocally config.topology
        (fun s => dispatch config i (call.sub s)) call)).2 := by
  have hserves := serves_onlyCleans config.topology call
  have hasks : Asks (fun r => r.OnlyCleans config.topology call)
      (runLocally config.topology
        (fun s => dispatch config i (call.sub s)) call) := by
    refine sequential_runLocally hserves (sequential_asks _)
      (nested_onlyCleans config i call) fun command _ next hnext => ?_
    exact Asks.bind (run_onlyCleans config.topology call command) hnext
  refine Cluster.adds_perform hasks ?_ c
  rintro r hr _ hrecords request rfl
  exact hr request (Request.eq_send_of_records hrecords)

-- ====================================================== DROP DATABASE

/-- A handler fails and enters nothing, or enters that it ran. -/
theorem journal_execute (c : Cluster) (s : Statement) :
    (∃ failure, (c.execute s).1 = .error failure ∧
      (c.execute s).2.journal = c.journal) ∨
      ∃ handled, (c.execute s).1 = .ok handled ∧
        (c.execute s).2.journal = c.journal ++ [.handler s.kind] := by
  unfold Cluster.execute
  split
  next failure _ => exact .inl ⟨failure, rfl, rfl⟩
  next =>
    refine .inr ⟨_, rfl, ?_⟩
    dsimp only
    split <;> rfl

/-- Running the handler does to the cluster what the handler does. -/
theorem perform_handle (call : Call) (c : Cluster) :
    c.perform call.handle
      = ((c.execute call.statement).1.map fun _ => (),
        (c.execute call.statement).2) := by
  unfold Call.handle Call.runHandler
  simp only [Program.bind_eq, Program.bind_assoc]
  rw [Cluster.perform_request_bind]
  simp only [Cluster.answer]
  cases (c.execute call.statement).1 with
  | error failure => rfl
  | ok handled =>
      simp only [Program.ofReply, Program.done_bind]
      split <;> rfl

/-- What a local run enters, with how it ends. -/
structure RunsAlone (topology : Topology) (call : Call)
    (result : Except Failure Unit) (events : List Event) : Prop where
  sent : ∀ request, .sent request ∈ events → IsCleaning topology call request
  cleaning : ∀ name missingOk, call.statement = .dropDatabase name missingOk →
    events <+: dropDatabaseEntries topology name
  complete : result = .ok () → ∀ name missingOk,
    call.statement = .dropDatabase name missingOk →
    events = dropDatabaseEntries topology name

/-- How a call is carried out whose plan is known: what it enters, with how it
ends. -/
inductive Carried (topology : Topology) (call : Call) (plan : Option Plan) :
    Except Failure Unit → List Event → Prop
  /-- It could not be sent before the local run. -/
  | unsent (failure : Failure) : Carried topology call plan (.error failure) []
  /-- The local run failed, or it could not be sent after it. -/
  | stopped {result : Except Failure Unit} {events : List Event}
      (failure : Failure) (hran : RunsAlone topology call result events) :
      Carried topology call plan (.error failure)
        (Plan.entriesAt topology call.text .beforeLocal plan ++ events)
  | done {events : List Event}
      (hran : RunsAlone topology call (.ok ()) events) :
      Carried topology call plan (.ok ())
        (Plan.entriesAt topology call.text .beforeLocal plan ++ events ++
          Plan.entriesAt topology call.text .afterLocal plan)

/-- What a dispatch enters, with how it ends, is as its plan says. -/
structure FansOut (topology : Topology) (call : Call)
    (planned : Except Failure (Option Plan)) (result : Except Failure Unit)
    (events : List Event) : Prop where
  /-- What goes out after the local run goes out exactly if nothing failed,
  once, and as the last thing. -/
  afterLocal : ∀ plan, planned = .ok (some plan) → plan.timing = .afterLocal →
    (topology.members plan.group).isEmpty = false →
      (.sent (plan.request call.text) ∈ events ↔ result = .ok ()) ∧
      (result = .ok () → ∃ before,
        events = before ++ [.sent (plan.request call.text)] ∧
        .sent (plan.request call.text) ∉ before)
  /-- What goes out before the local run is the first thing that is done, and
  is not done again. -/
  beforeLocal : ∀ plan, planned = .ok (some plan) →
    plan.timing = .beforeLocal →
    (topology.members plan.group).isEmpty = false → events ≠ [] →
      ∃ rest, events = .sent (plan.request call.text) :: rest ∧
        .sent (plan.request call.text) ∉ rest
  /-- No other request is sent, but for that of DROP DATABASE. -/
  only : ∀ request, .sent request ∈ events →
    (∃ plan, planned = .ok (some plan) ∧ request = plan.request call.text ∧
      (topology.members plan.group).isEmpty = false) ∨
        IsCleaning topology call request
  /-- DROP DATABASE has connections dropped before its handler runs. -/
  cleaning : ∀ name missingOk, call.statement = .dropDatabase name missingOk →
    events <+: dropDatabaseEntries topology name ++
      (RemoteRequest.send call.text .all true).entries topology
  /-- Without a plan, or with nobody to send to, nothing is sent. -/
  silent : (∀ plan, planned = .ok (some plan) →
    (topology.members plan.group).isEmpty = true) →
    ∀ request, .sent request ∉ events

private theorem failed_ne_ok (failure : Failure) :
    (.error failure : Except Failure Unit) ≠ .ok () := by
  simp

/-- Where nothing is entered, nothing went out. -/
private theorem FansOut.nothing (topology : Topology) (call : Call)
    (planned : Except Failure (Option Plan)) (failure : Failure) :
    FansOut topology call planned (.error failure) [] where
  afterLocal := by
    intro _ _ _ _
    have hfailed := failed_ne_ok failure
    exact ⟨iff_of_false List.not_mem_nil hfailed, fun h => absurd h hfailed⟩
  beforeLocal := fun _ _ _ _ h => absurd rfl h
  only := fun _ h => absurd h List.not_mem_nil
  cleaning := fun _ _ _ => List.nil_prefix
  silent := fun _ _ => List.not_mem_nil

/-- What is sent by a plan is the request of the plan. -/
private theorem mem_entriesAt {text : String} {timing : Timing}
    {plan : Option Plan}
    (h : Event.sent request ∈ Plan.entriesAt topology text timing plan) :
    ∃ p, plan = some p ∧ request = p.request text ∧
      (topology.members p.group).isEmpty = false := by
  cases plan with
  | none => cases h
  | some p =>
      unfold Plan.entriesAt RemoteRequest.entries at h
      dsimp only at h
      split at h
      · split at h
        · cases h
        next hmembers =>
          have heq := Event.sent.inj (List.mem_singleton.mp h)
          exact ⟨p, rfl, heq, Bool.eq_false_iff.mpr hmembers⟩
      · cases h

/-- At its time, a plan sends its request. -/
private theorem entriesAt_of_timing {text : String} {plan : Plan}
    (hmembers : (topology.members plan.group).isEmpty = false) :
    Plan.entriesAt topology text plan.timing (some plan)
      = [.sent (plan.request text)] := by
  unfold Plan.entriesAt RemoteRequest.entries Plan.request RemoteRequest.send
  simp [hmembers]

private theorem entriesAt_of_ne {text : String} {timing : Timing} {plan : Plan}
    (h : plan.timing ≠ timing) :
    Plan.entriesAt topology text timing (some plan) = [] :=
  if_neg h

/-- What is sent when a call is carried out is sent by its plan, or by DROP
DATABASE. -/
private theorem Carried.sent {plan : Option Plan}
    {result : Except Failure Unit} {events : List Event}
    (h : Carried topology call plan result events)
    (hmem : .sent request ∈ events) :
    (∃ p, plan = some p ∧ request = p.request call.text ∧
      (topology.members p.group).isEmpty = false) ∨
        IsCleaning topology call request := by
  cases h with
  | unsent failure => cases hmem
  | stopped failure hran =>
      rcases List.mem_append.mp hmem with hbefore | hmem
      · exact .inl (mem_entriesAt hbefore)
      · exact .inr (hran.sent _ hmem)
  | done hran =>
      rcases List.mem_append.mp hmem with hmem | hafter
      · rcases List.mem_append.mp hmem with hbefore | hmem
        · exact .inl (mem_entriesAt hbefore)
        · exact .inr (hran.sent _ hmem)
      · exact .inl (mem_entriesAt hafter)

section plans

variable {plan : Option Plan} {p : Plan} {result : Except Failure Unit}
  {events : List Event}
  (hplan : (c.perform (Plan.make call.statement)).1 = .ok plan)
include hplan

/-- DROP DATABASE is planned to go to all nodes, after the local run. -/
private theorem plan_of_dropDatabase {missingOk : Bool}
    (hs : call.statement = .dropDatabase name missingOk) :
    plan = some ⟨.all, true, .afterLocal⟩ := by
  rw [hs] at hplan
  exact (Except.ok.inj hplan).symm

/-- A local run does not send what the plan sends. -/
theorem RunsAlone.not_mem_of_plan
    (hran : RunsAlone topology call result events) (hp : plan = some p)
    (text : String) : .sent (p.request text) ∉ events := by
  intro hmem
  obtain ⟨name, missingOk, hs, _, heq⟩ := hran.sent _ hmem
  rw [plan_of_dropDatabase hplan hs] at hp
  obtain rfl := Option.some.inj hp
  have hgroup := congrArg RemoteRequest.group heq
  cases hgroup

/-- What goes out after the local run does so exactly if nothing failed. -/
private theorem Carried.afterLocal
    (h : Carried topology call plan result events) (hp : plan = some p)
    (htiming : p.timing = .afterLocal)
    (hmembers : (topology.members p.group).isEmpty = false) :
    (.sent (p.request call.text) ∈ events ↔ result = .ok ()) ∧
      (result = .ok () → ∃ before,
        events = before ++ [.sent (p.request call.text)] ∧
        .sent (p.request call.text) ∉ before) := by
  have hbefore : Plan.entriesAt topology call.text .beforeLocal plan = [] := by
    rw [hp]
    exact entriesAt_of_ne (by simp [htiming])
  cases h with
  | unsent failure =>
      have hfailed := failed_ne_ok failure
      exact ⟨iff_of_false List.not_mem_nil hfailed, fun h => absurd h hfailed⟩
  | stopped failure hran =>
      rw [hbefore, List.nil_append]
      have hnot := hran.not_mem_of_plan hplan hp call.text
      have hfailed := failed_ne_ok failure
      exact ⟨iff_of_false hnot hfailed, fun h => absurd h hfailed⟩
  | @done ran hran =>
      have hafter : Plan.entriesAt topology call.text .afterLocal plan
          = [.sent (p.request call.text)] := by
        rw [hp, ← htiming]
        exact entriesAt_of_timing hmembers
      rw [hbefore, List.nil_append, hafter]
      refine ⟨⟨fun _ => rfl, fun _ => ?_⟩, fun _ => ⟨ran, rfl, ?_⟩⟩
      · exact List.mem_append_right _ (List.mem_singleton.mpr rfl)
      · exact hran.not_mem_of_plan hplan hp call.text

/-- What goes out before the local run is the first thing that is entered. -/
private theorem Carried.beforeLocal
    (h : Carried topology call plan result events) (hp : plan = some p)
    (htiming : p.timing = .beforeLocal)
    (hmembers : (topology.members p.group).isEmpty = false)
    (hany : events ≠ []) :
    ∃ rest, events = .sent (p.request call.text) :: rest ∧
      .sent (p.request call.text) ∉ rest := by
  have hbefore : Plan.entriesAt topology call.text .beforeLocal plan
      = [.sent (p.request call.text)] := by
    rw [hp, ← htiming]
    exact entriesAt_of_timing hmembers
  have hafter : Plan.entriesAt topology call.text .afterLocal plan = [] := by
    rw [hp]
    exact entriesAt_of_ne (by simp [htiming])
  cases h with
  | unsent failure => exact absurd rfl hany
  | @stopped _ ran failure hran =>
      refine ⟨ran, ?_, hran.not_mem_of_plan hplan hp call.text⟩
      rw [hbefore]
      rfl
  | @done ran hran =>
      refine ⟨ran, ?_, hran.not_mem_of_plan hplan hp call.text⟩
      rw [hbefore, hafter, List.append_nil]
      rfl

/-- DROP DATABASE enters its requests in their order. -/
private theorem Carried.cleaning (h : Carried topology call plan result events)
    {missingOk : Bool} (hs : call.statement = .dropDatabase name missingOk) :
    events <+: dropDatabaseEntries topology name ++
      (RemoteRequest.send call.text .all true).entries topology := by
  obtain rfl := plan_of_dropDatabase hplan hs
  cases h with
  | unsent failure => exact List.nil_prefix
  | stopped failure hran =>
      exact (hran.cleaning _ _ hs).trans (List.prefix_append _ _)
  | done hran =>
      rw [hran.complete rfl _ _ hs]
      exact List.prefix_refl _

end plans

/-- A client drops a database. -/
def clientDropDatabase : Call :=
  ⟨.dropDatabase "db" false, "DROP DATABASE db",
    .topLevel .coordinator, true, false⟩

end ClusterUtility
