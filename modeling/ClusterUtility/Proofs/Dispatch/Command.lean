/-
What the dispatch of a call does to a cluster.

A call is let through or it is not (`Call.Begins`). If it is not, its dispatch
fails and does nothing (`perform_dispatch_refused`); if it is, all that its
dispatch does is to carry it out: to make the plan, and to run the statement
here and on the nodes of the plan (`perform_dispatch_of_passes`).
`Call.Passes` says what letting through takes: an interceptor that does not
refuse the statement, a depth within the limit, and the gate.

A transaction command has no plan, so once it is let through, its dispatch
does to the cluster what the command does and nothing else
(`perform_dispatch_command`).
-/
import ClusterUtility.Dispatch
import ClusterUtility.Proofs.Cluster.Perform
import ClusterUtility.Proofs.Dispatch.Reach
import ClusterUtility.Proofs.Program.Exchange

namespace ClusterUtility

open Program (MustAsk ofReply)

variable {config : Configuration} {i : Interceptor} {call : Call}
  {command : TransactionCommand} {c : Cluster}

-- ===================================================== letting through

/-- Whether an interceptor lets statements of a kind through. -/
def Interceptor.admits (i : Interceptor) (kind : Kind) : Bool :=
  match i with
  | .none => true
  | .standard => true
  | .recorder refused => decide (kind ∉ refused)

/-- The interceptor, the limit of depth and the gate let a call through. -/
structure Call.Passes (call : Call) (config : Configuration) (i : Interceptor)
    (c : Cluster) : Prop where
  admitted : i.admits call.statement.kind = true
  depth : call.context.depth ≤ config.maxDepth
  gate : (c.perform (passGate config call)).1 = .ok ()

/-- The gate only looks. -/
theorem perform_passGate (config : Configuration) (call : Call) (c : Cluster) :
    (c.perform (passGate config call)).2 = c := by
  unfold passGate
  cases checkReadOnly call.statement call.statement.tag call.context with
  | error failure => rfl
  | ok _ =>
      cases config.checkSupported call.statement with
      | error failure => rfl
      | ok _ =>
          show (c.perform (Program.bind
              (ofReply (checkContext _ _ c.session.inBlock)) _)).2 = c
          cases checkContext call.statement call.context c.session.inBlock with
          | error failure => rfl
          | ok _ =>
              show (c.perform (if call.statement.tag = unknownTag then _
                  else _)).2 = c
              split <;> rfl

/-- The gate opens for a statement that all checks let through and that has a
tag. -/
theorem perform_passGate_ok
    (hreadOnly : checkReadOnly call.statement call.statement.tag
      call.context = .ok ())
    (hsupported : config.checkSupported call.statement = .ok ())
    (hcontext : checkContext call.statement call.context
      c.session.inBlock = .ok ())
    (htag : call.statement.tag ≠ unknownTag) :
    (c.perform (passGate config call)).1 = .ok () := by
  unfold passGate
  rw [hreadOnly, hsupported]
  show (c.perform (Program.bind
      (ofReply (checkContext _ _ c.session.inBlock)) _)).1 = _
  rw [hcontext]
  show (c.perform (if call.statement.tag = unknownTag then _ else _)).1 = _
  rw [if_neg htag]
  rfl

/-- A finish at the top level is let through outside of a block, but for
recovery, the limit of depth and an interceptor that refuses it. -/
theorem passes_finish {gid : Gid} {commit : Bool}
    (hs : call.statement = .transaction (.finish gid commit))
    (hadmits : i.admits call.statement.kind = true)
    (hdepth : call.context.depth ≤ config.maxDepth)
    (htop : call.context.isTopLevel = true)
    (hrecovery : call.context.inRecovery = false)
    (hblock : c.session.inBlock = false) : call.Passes config i c := by
  refine ⟨hadmits, hdepth, perform_passGate_ok ?_ ?_ ?_ ?_⟩
  · -- the gate does not count it as a change
    have hmutates : (Statement.transaction (.finish gid commit)).gate.mutates
        = false := by
      cases commit <;> rfl
    rw [hs]
    unfold checkReadOnly
    rw [hmutates, Bool.and_false]
    rfl
  · rw [hs]
    cases commit <;> rfl
  · rw [hs, hblock]
    exact checkContext_finish htop hrecovery gid commit
  · rw [hs]
    cases commit with
    | true => exact (by decide : "COMMIT PREPARED" ≠ unknownTag)
    | false => exact (by decide : "ROLLBACK PREPARED" ≠ unknownTag)

/-- Outside of an interceptor that refuses it, a call is dispatched as without
one. -/
theorem perform_around (hi : i.admits call.statement.kind = true)
    (inner : Call → Program Unit) (c : Cluster) :
    c.perform (i.around inner call) = c.perform (inner call) := by
  cases i with
  | none => rfl
  | standard => rfl
  | recorder refused =>
      have hfree : call.statement.kind ∉ refused := of_decide_eq_true hi
      show c.perform (if call.statement.kind ∈ refused then _ else _) = _
      rw [if_neg hfree]

/-- A call that the interceptor refuses does nothing. -/
theorem perform_around_refused (hi : i.admits call.statement.kind = false)
    (inner : Call → Program Unit) (c : Cluster) :
    c.perform (i.around inner call)
      = (.error (Interceptor.refusal call.statement.kind), c) := by
  cases i with
  | none => cases hi
  | standard => cases hi
  | recorder refused =>
      have hin : call.statement.kind ∈ refused := by
        simpa [Interceptor.admits] using hi
      show c.perform (if call.statement.kind ∈ refused then _ else _) = _
      rw [if_pos hin]
      rfl

-- ====================================================== carrying out

/-- What is left of a call that is let through: its plan is made, and the
statement runs here and on the nodes of the plan. -/
def Call.carriedOut (config : Configuration) (i : Interceptor) (call : Call) :
    Program Unit := do
  let plan ← planCall call
  propagateAt config.topology call.text plan .beforeLocal
  runLocally config.topology (fun s => dispatch config i (call.sub s)) call
  propagateAt config.topology call.text plan .afterLocal

/-- What the local run of a call must ask before it ends well, so must the
whole dispatch. -/
theorem mustAsk_dispatch {asked : Request → Prop}
    (hlocal : ∀ nested, (runLocally config.topology nested call).MustAsk asked)
    (i : Interceptor) : (dispatch config i call).MustAsk asked := by
  refine dispatch_of_process MustAsk.fail (fun _ _ h => h)
    (fun _ h => h) fun _ => ?_
  refine MustAsk.bind_right fun level => ?_
  have hrest : (Program.bind (passGate config call) fun _ =>
      call.carriedOut config i).MustAsk asked := by
    refine MustAsk.bind_right fun _ => MustAsk.bind_right fun plan => ?_
    exact MustAsk.bind_right fun _ => MustAsk.bind_left (hlocal _)
  dsimp only
  split <;> exact hrest

/-- Classifying only looks. -/
theorem perform_classify (s : Statement) (c : Cluster) :
    (c.perform (classify s)).2 = c := by
  unfold classify
  rw [Program.bind_eq, Cluster.perform_request_bind]
  split <;> rfl

/-- Within the limit of depth, a dispatch without an interceptor classifies the
statement, passes the gate, and carries the call out. -/
theorem perform_standardDispatch
    (hdepth : call.context.depth ≤ config.maxDepth) (c : Cluster) :
    c.perform (standardDispatch config (dispatch config i) call)
      = c.perform (Program.bind (classify call.statement) fun _ =>
          Program.bind (passGate config call) fun _ =>
            call.carriedOut config i) := by
  have hprocess : c.perform (standardDispatch config (dispatch config i) call)
      = c.perform (process config
        (fun s => dispatch config i (call.sub s)) call) := by
    unfold standardDispatch
    simp only [Nat.not_lt.mpr hdepth, if_false, Program.bind_eq]
    split <;> rfl
  rw [hprocess]
  unfold process
  rw [Program.bind_eq]
  cases hclass : c.perform (classify call.statement) with
  | mk result d =>
      cases result with
      | error failure =>
          rw [Cluster.perform_bind_of_error hclass,
            Cluster.perform_bind_of_error hclass]
      | ok level =>
          -- what is logged is no concern of the cluster
          rw [Cluster.perform_bind_of_ok hclass,
            Cluster.perform_bind_of_ok hclass]
          split <;> rfl

/-- A call that is let through, and whose statement has a class, is carried
out. -/
theorem perform_dispatch_of_passes {level : LogClass}
    (hpass : call.Passes config i c)
    (hlevel : (c.perform (classify call.statement)).1 = .ok level) :
    c.perform (dispatch config i call)
      = c.perform (call.carriedOut config i) := by
  have hclass : c.perform (classify call.statement) = (.ok level, c) :=
    Prod.ext hlevel (perform_classify ..)
  have hgate : c.perform (passGate config call) = (.ok (), c) :=
    Prod.ext hpass.gate (perform_passGate ..)
  rw [dispatch_eq, perform_around hpass.admitted,
    perform_standardDispatch hpass.depth, Cluster.perform_bind_of_ok hclass,
    Cluster.perform_bind_of_ok hgate]

/-- How the dispatch of a call begins: something refuses the call, and nothing
is done, or the call is let through. -/
inductive Call.Begins (config : Configuration) (i : Interceptor) (call : Call)
    (c : Cluster) : Prop
  | intercepted (hkind : i.admits call.statement.kind = false)
      (hperform : c.perform (dispatch config i call)
        = (.error (Interceptor.refusal call.statement.kind), c))
  | tooDeep (hperform : c.perform (dispatch config i call)
        = (.error (.recursionLimit config.maxDepth), c))
      (hdeep : config.maxDepth < call.context.depth)
  | unclassified {failure : Failure}
      (hlevel : (c.perform (classify call.statement)).1 = .error failure)
      (hperform : c.perform (dispatch config i call) = (.error failure, c))
  | refused {failure : Failure}
      (hgate : (c.perform (passGate config call)).1 = .error failure)
      (hperform : c.perform (dispatch config i call) = (.error failure, c))
  | passed {level : LogClass}
      (hlevel : (c.perform (classify call.statement)).1 = .ok level)
      (hpass : call.Passes config i c)

/-- Every dispatch begins in one of these ways. -/
theorem begins_dispatch (config : Configuration) (i : Interceptor)
    (call : Call) (c : Cluster) : call.Begins config i c := by
  by_cases hi : i.admits call.statement.kind = true
  case neg =>
    have hkind := Bool.eq_false_iff.mpr hi
    refine .intercepted hkind ?_
    rw [dispatch_eq, perform_around_refused hkind]
  by_cases hdepth : config.maxDepth < call.context.depth
  · refine .tooDeep ?_ hdepth
    rw [dispatch_eq, perform_around hi]
    unfold standardDispatch
    simp only [hdepth, if_true, Program.bind_eq]
    split <;> rfl
  have hperform := perform_standardDispatch (i := i) (Nat.not_lt.mp hdepth) c
  rw [← perform_around hi, ← dispatch_eq] at hperform
  cases hlevel : (c.perform (classify call.statement)).1 with
  | error failure =>
      have hclass : c.perform (classify call.statement)
          = (.error failure, c) :=
        Prod.ext hlevel (perform_classify ..)
      rw [Cluster.perform_bind_of_error hclass] at hperform
      exact .unclassified hlevel hperform
  | ok level =>
      have hclass : c.perform (classify call.statement) = (.ok level, c) :=
        Prod.ext hlevel (perform_classify ..)
      rw [Cluster.perform_bind_of_ok hclass] at hperform
      cases hgate : (c.perform (passGate config call)).1 with
      | ok _ => exact .passed hlevel ⟨hi, Nat.not_lt.mp hdepth, hgate⟩
      | error failure =>
          have hfail : c.perform (passGate config call)
              = (.error failure, c) :=
            Prod.ext hgate (perform_passGate ..)
          rw [Cluster.perform_bind_of_error hfail] at hperform
          exact .refused hgate hperform

/-- A call that is not let through, or whose statement has no class, fails and
does nothing. -/
theorem perform_dispatch_refused
    (hrefused : ∀ level, (c.perform (classify call.statement)).1 = .ok level →
      ¬ call.Passes config i c) :
    ∃ failure, c.perform (dispatch config i call) = (.error failure, c) := by
  cases begins_dispatch config i call c with
  | intercepted hkind hperform => exact ⟨_, hperform⟩
  | tooDeep hperform => exact ⟨_, hperform⟩
  | unclassified hlevel hperform => exact ⟨_, hperform⟩
  | refused hgate hperform => exact ⟨_, hperform⟩
  | passed hlevel hpass => exact absurd hpass (hrefused _ hlevel)

-- ================================== what a command's dispatch comes to

/-- Telling a tag does nothing to the cluster. -/
theorem perform_tellTag (call : Call) (text : String) (c : Cluster) :
    c.perform (call.tellTag text) = (.ok (), c) := by
  unfold Call.tellTag
  split <;> rfl

/-- Running a command on this node makes no use of the dispatch of other
statements. -/
theorem runLocally_command (hs : call.statement = .transaction command)
    (topology : Topology) (nested : Statement → Program Unit) :
    runLocally topology nested call
      = Program.bind (command.run call.context) fun tag =>
          match tag with
          | some text => call.tellTag text
          | none => .done () := by
  unfold runLocally
  rw [hs]
  rfl

/-- Running a command on this node does to the cluster what the command
does. -/
theorem perform_runLocally_command (hs : call.statement = .transaction command)
    (topology : Topology) (nested : Statement → Program Unit) (c : Cluster) :
    c.perform (runLocally topology nested call)
      = ((c.perform (command.run call.context)).1.map fun _ => (),
         (c.perform (command.run call.context)).2) := by
  rw [runLocally_command hs]
  refine Cluster.perform_bind_silent fun tag d => ?_
  cases tag with
  | none => rfl
  | some text => exact perform_tellTag call text d

/-- A statement without a route is carried out here alone. -/
theorem carriedOut_of_unrouted (hroute : call.statement.route? = none)
    (config : Configuration) (i : Interceptor) :
    call.carriedOut config i
      = runLocally config.topology
        (fun s => dispatch config i (call.sub s)) call := by
  have hplan : planCall call = .done none := by
    unfold planCall Plan.make
    rw [hroute]
    split <;> rfl
  have hsilent : (Program.bind
        (runLocally config.topology
          (fun s => dispatch config i (call.sub s)) call)
        fun _ => .done ())
      = runLocally config.topology
        (fun s => dispatch config i (call.sub s)) call :=
    Program.bind_done _
  unfold Call.carriedOut
  simp only [Program.bind_eq, hplan, Program.done_bind, propagateAt,
    Program.pure_eq, hsilent]

/-- A command has no route, so it is carried out here alone. -/
theorem carriedOut_command (hs : call.statement = .transaction command)
    (config : Configuration) (i : Interceptor) :
    call.carriedOut config i
      = runLocally config.topology
        (fun s => dispatch config i (call.sub s)) call :=
  carriedOut_of_unrouted (by rw [hs]; rfl) config i

/-- A command that is let through does to the cluster what it does by
itself. -/
theorem perform_dispatch_command (hs : call.statement = .transaction command)
    (hpass : call.Passes config i c) :
    c.perform (dispatch config i call)
      = ((c.perform (command.run call.context)).1.map fun _ => (),
         (c.perform (command.run call.context)).2) := by
  have hlevel : (c.perform (classify call.statement)).1 = .ok .all := by
    rw [hs]
    rfl
  rw [perform_dispatch_of_passes hpass hlevel, carriedOut_command hs]
  exact perform_runLocally_command hs ..

end ClusterUtility
