/-
Whether a statement is forwarded to run inside a transaction.

The gate keeps some statements out of transaction blocks. A request to other
nodes says whether its text runs inside the transaction of the caller there,
so a statement that is kept out of blocks here ought to be forwarded to run
outside of any. The rule for blocks stands in the gate and the mode of
forwarding in the route, two tables over all statements.

# Where the tables agree

They agree on all statements that are kept out of blocks and forwarded, but
for three: the tablespace commands and ALTER TYPE with a new value are kept
out of blocks, and forwarded to run inside one (`Statement.joinsCaller`).

# What is sent

A dispatch sends what its plan sends, and DROP DATABASE has connections
dropped besides (`sent_dispatch`). So the two tables decide about everything
that goes out for such a statement (`forwarded_outside_blocks`).
-/
import ClusterUtility.Proofs.Dispatch.Expansion

namespace ClusterUtility

open Cluster (Adds Event)
open Program (Asks sequential_asks)

variable {config : Configuration} {i : Interceptor} {call : Call} {c : Cluster}
  {s : Statement} {command : String}

-- ====================================================== the two tables

/-- The statements that must not run inside a block and are forwarded to run
inside the transaction of the caller. -/
def Statement.joinsCaller : Statement → Bool
  | .createTablespace .. => true
  | .dropTablespace .. => true
  | .alterEnum .. => true
  | _ => false

/-- The two tables, side by side. -/
theorem autocommit_route (hblock : s.gate.block = .forbidden command)
    {route : Route} (hroute : s.route? = some route) :
    route.autocommit = true ↔ s.joinsCaller = false := by
  cases s with
  | createTablespace | dropTablespace | alterEnum =>
      obtain rfl := Option.some.inj hroute
      exact ⟨nofun, nofun⟩
  | createDatabase | dropDatabase =>
      obtain rfl := Option.some.inj hroute
      exact ⟨fun _ => rfl, fun _ => rfl⟩
  | createIndex i =>
      -- the rule is for concurrent builds, and these are forwarded so
      have hconcurrent : i.concurrent = true := by
        by_cases h : i.concurrent = true
        · exact h
        · simp [Statement.gate, h, GateProfile.mutating,
            GateProfile.unrestricted] at hblock
      cases hconstraint : i.isConstraint with
      | true => simp [Statement.route?, hconstraint] at hroute
      | false =>
          simp only [Statement.route?, hconstraint, Bool.false_eq_true,
            if_false, Option.some.injEq] at hroute
          subst hroute
          exact ⟨fun _ => rfl, fun _ => hconcurrent⟩
  | reindex r =>
      have hdatabase : r.objectType = .database := by
        by_cases h : r.objectType = .database
        · exact h
        · simp [Statement.gate, h, GateProfile.recovery,
            GateProfile.unrestricted] at hblock
      obtain rfl := Option.some.inj hroute
      exact ⟨fun _ => rfl, fun _ => decide_eq_true hdatabase⟩
  | transaction t => cases hroute
  | _ => cases hblock

/-- So the plans agree with the gate as the routes do. -/
theorem autocommit_plan (hblock : s.gate.block = .forbidden command)
    {plan : Plan} (hplan : (c.perform (Plan.make s)).1 = .ok (some plan)) :
    plan.autocommit = true ↔ s.joinsCaller = false := by
  obtain ⟨route, hroute, hautocommit, -⟩ :=
    (within_makePlan_route s).result hplan plan rfl
  rw [hautocommit]
  exact autocommit_route hblock hroute

-- ====================================================== what is sent

/-- A request that a call sends: that of its plan, or that of DROP DATABASE. -/
def Call.Sends (call : Call) (topology : Topology)
    (planned : Except Failure (Option Plan))
    (request : RemoteRequest) : Prop :=
  (∃ plan, planned = .ok (some plan) ∧ request = plan.request call.text) ∨
    IsCleaning topology call request

/-- What a dispatch sends is what the plan of its statement sends, or what DROP
DATABASE sends besides. -/
theorem sent_dispatch (config : Configuration) (i : Interceptor) (call : Call)
    (c : Cluster) :
    Adds (fun event => ∀ request, event = .sent request →
        call.Sends config.topology (c.perform (planCall call)).1 request)
      c (c.perform (dispatch config i call)).2 := by
  by_cases hstarts : ∃ plan, call.Starts config i c plan
  case neg =>
    obtain ⟨failure, hperform⟩ := perform_dispatch_of_not_starts fun plan h =>
      hstarts ⟨plan, h⟩
    rw [hperform]
    exact .refl _ c
  obtain ⟨plan, hstarts⟩ := hstarts
  obtain ⟨level, hlevel⟩ := hstarts.classified
  have hplan : c.perform (planCall call) = (.ok plan, c) :=
    Prod.ext hstarts.planned (perform_planCall call c)
  rw [perform_dispatch_of_passes hstarts.passes hlevel, hplan]
  unfold Call.carriedOut
  simp only [Program.bind_eq]
  rw [Cluster.perform_bind_of_ok hplan]
  have hplanned (timing : Timing) (d : Cluster) :
      Adds (fun event => ∀ request, event = .sent request →
          call.Sends config.topology (.ok plan) request)
        d
        (d.perform (propagateAt config.topology call.text plan timing)).2 := by
    have hasks : Program.Asks
        (fun r => ∃ p, plan = some p ∧ r = .send (p.request call.text))
        (propagateAt config.topology call.text plan timing) :=
      asks_propagateAt (fun p hp => ⟨p, hp, rfl⟩) timing
    refine Cluster.adds_perform hasks ?_ d
    rintro _ ⟨p, rfl, rfl⟩ event hrecords request rfl
    exact .inl ⟨p, rfl, Event.sent.inj hrecords⟩
  refine Cluster.adds_perform_bind (hplanned .beforeLocal c) fun _ d _ => ?_
  refine Cluster.adds_perform_bind ?_ fun _ e _ => hplanned .afterLocal e
  exact (sent_runLocally config i call d).imp fun _ h request hrequest =>
    .inr (h request hrequest)

/-- A statement that must not run inside a block is planned, and forwarded, to
run outside of the transaction of the caller, but for the three statements that
join it. -/
theorem forwarded_outside_blocks (config : Configuration) (i : Interceptor)
    (call : Call) (c : Cluster)
    (hblock : call.statement.gate.block = .forbidden command) :
    (∀ plan, (c.perform (Plan.make call.statement)).1 = .ok (some plan) →
      (plan.autocommit = true ↔ call.statement.joinsCaller = false)) ∧
    ∃ events, (c.perform (dispatch config i call)).2.journal
      = c.journal ++ events ∧
      ∀ request, .sent request ∈ events →
        (request.autocommit = true ↔ call.statement.joinsCaller = false) := by
  refine ⟨fun plan => autocommit_plan hblock, ?_⟩
  obtain ⟨events, hjournal, hsent⟩ := sent_dispatch config i call c
  refine ⟨events, hjournal, fun request hmem => ?_⟩
  rcases hsent _ hmem request rfl with
    ⟨plan, hplan, rfl⟩ | ⟨name, missingOk, hs, _, rfl⟩
  · have hmake : (c.perform (Plan.make call.statement)).1
        = .ok (some plan) := by
      unfold planCall at hplan
      split at hplan
      · exact hplan
      · cases hplan
    exact autocommit_plan hblock hmake
  · rw [hs]
    exact ⟨fun _ => rfl, fun _ => rfl⟩

/-- A client adds a value to an enumeration. -/
def newValue : Call :=
  ⟨.alterEnum ⟨none, "mood"⟩ "calm", "ALTER TYPE mood ADD VALUE 'calm'",
    .topLevel .coordinator, true, false⟩

/-- ALTER TYPE with a new value is kept out of blocks, and sent to run inside
one. -/
theorem forwarded_outside_blocks_newValue :
    newValue.statement.gate.block = .forbidden "ALTER TYPE ... ADD" ∧
      ∃ events, ((Cluster.fresh .standard "").perform
          (dispatch .standard .none newValue)).2.journal = events ∧
        .sent (.send newValue.text .all false) ∈ events ∧
        ∀ request, .sent request ∈ events →
          (request.autocommit = true
            ↔ newValue.statement.joinsCaller = false) := by
  have hblock : newValue.statement.gate.block
      = .forbidden "ALTER TYPE ... ADD" := rfl
  obtain ⟨-, events, hjournal, hsent⟩ :=
    forwarded_outside_blocks .standard .none newValue
      (.fresh .standard "") hblock
  refine ⟨hblock, events, hjournal, ?_, hsent⟩
  have hevents : events
      = [.handler .alterEnum, .sent (.send newValue.text .all false)] :=
    hjournal.symm
  rw [hevents]
  decide

end ClusterUtility
