/-
What an interceptor sees of a dispatch, and what it can do to it.

An interceptor stands around every dispatch, those of expansions included. That
it changes nothing by standing there is not obvious: it wraps a recursion that
goes as deep as the configuration allows, over whatever a cluster expands
statements to. Part by part, though, it is: an interceptor around the calls of
a part is that part with the interceptor around its calls (`under_runLocally`),
so by induction along the recursion every dispatch is the one under a recorder
that refuses nothing, with the interceptor put in its place (`under_dispatch`).

# The calls of a dispatch

`Call.visits` lists the calls of a dispatch in the order that they are made in:
the call itself, and then, for each statement that it runs through, up to the
first that fails, the calls of that one's dispatch. What is handled directly is
run like the others and adds no call. No interceptor takes part in this list;
the worlds in it are those of dispatches with nothing around them.

A recorder notes exactly this list (`sightings_dispatch`), and on a cluster its
members are the calls that the dispatch reaches (`mem_visits`).
-/
import ClusterUtility.Proofs.Dispatch.Sighted

namespace ClusterUtility

open Cluster (Event)
open Interceptor (sighting refusal)
open Program (Answers Leads Run Silent Tells request ofReply run
  tells_ofReply)

variable {σ : Type} {answer : Answers σ} {config : Configuration}
  {i : Interceptor} {call other : Call} {c d e : Cluster}

-- ========================================== the local run in two parts

/-- What a call does before the first of the statements that it runs through,
and these statements; most calls run through none. -/
def Call.opening (call : Call) : Program (List Statement) :=
  match call.statement with
  | .createSchema _ _ elements => do
      call.withoutRows.handle
      if elements = [] then return []
      request .advanceCommand
      return elements
  | s => do
      if s.isExpanded then ofReply (← request (.expand s call.text))
      else return []

/-- The statements that a call runs through, once it has passed all checks. -/
def Call.unroll (config : Configuration) (call : Call) :
    Program (List Statement) := do
  let _ ← classify call.statement
  passGate config call
  let _ ← planCall call
  call.opening

/-- A statement that is not compound dispatches no other. -/
theorem runLocally_of_simple (h : call.statement.isCompound = false)
    (topology : Topology) (nested nested' : Statement → Program Unit) :
    runLocally topology nested call = runLocally topology nested' call := by
  unfold runLocally
  cases hs : call.statement with
  | createSchema | createTable | createForeignTable | alterTable =>
      rw [hs] at h; cases h
  | _ => rfl

/-- A call of another statement runs through none. -/
private theorem opening_of_simple (h : call.statement.isCompound = false) :
    call.opening = .done [] := by
  unfold Call.opening
  cases hs : call.statement with
  | createSchema | createTable | createForeignTable | alterTable =>
      rw [hs] at h; cases h
  | _ => rfl

/-- A compound statement is run by running the statements that it runs
through. -/
theorem runLocally_of_isCompound (h : call.statement.isCompound = true)
    (topology : Topology) (nested : Statement → Program Unit) :
    runLocally topology nested call
      = Program.bind call.opening
        (inSequence (runExpanded nested call.statement)) := by
  unfold runLocally Call.opening
  cases hs : call.statement with
  | createTable | createForeignTable | alterTable =>
      unfold runExpansion
      rw [hs]
      rfl
  | createSchema name owner elements =>
      have hact : runExpanded nested (.createSchema name owner elements)
          = nested := by
        funext s
        rw [runExpanded_eq, Statement.handles_createSchema]
        rfl
      dsimp only [Program.bind_eq]
      rw [hact, createSchema_eq, Program.bind_assoc]
      refine congrArg (Program.bind call.withoutRows.handle)
        (funext fun _ => ?_)
      by_cases hne : elements = []
      · subst hne
        rfl
      · rw [if_neg hne, if_neg hne]
        rfl
  | _ => rw [hs] at h; cases h

/-- What a call does before the statements notes no call. -/
private theorem unsighted_opening (call : Call) :
    call.opening.Tells fun n => n.isSighting = false := by
  unfold Call.opening
  split
  · refine (tells_handle (fun _ => rfl) call.withoutRows).bind fun _ => ?_
    split
    · trivial
    · exact Tells.request_bind fun _ => trivial
  · split
    · exact Tells.request_bind fun reply => tells_ofReply reply
    · trivial

-- ====================================================== part by part

/-- What is handled directly tells nothing. -/
private theorem silent_handled (s : Statement) : s.handled.Silent := by
  cases s with
  | createTable create =>
      refine Tells.request_bind fun reply =>
        Tells.ofReply_bind fun _ => ?_
      exact Tells.request_bind fun _ => Tells.request_bind fun reply =>
        tells_ofReply reply
  | createForeignTable create =>
      refine Tells.request_bind fun reply =>
        Tells.ofReply_bind fun _ => ?_
      exact Tells.request_bind fun reply => tells_ofReply reply
  | alterTable alter =>
      exact Tells.request_bind fun reply => tells_ofReply reply
  | _ => trivial

/-- An interceptor around the dispatch of one of the statements is all that it
can be around. -/
private theorem under_runExpanded (i : Interceptor)
    (nested : Statement → Program Unit) (parent s : Statement) :
    (runExpanded nested parent s).under i
      = runExpanded (fun s => (nested s).under i) parent s := by
  rw [runExpanded_eq, runExpanded_eq]
  split
  · exact (silent_handled s).under i
  · rfl

/-- An interceptor around statements in sequence is around each of them. -/
private theorem under_inSequence (i : Interceptor)
    (act : Statement → Program Unit) (statements : List Statement) :
    (inSequence act statements).under i
      = inSequence (fun s => (act s).under i) statements := by
  fun_induction inSequence act statements with
  | case1 => rfl
  | case2 s => rfl
  | case3 s rest hne ih =>
      simp only [Program.bind_eq]
      rw [Program.under_bind, inSequence_next _ _ hne, ← ih]
      rfl

/-- The local run of a statement that is not compound notes no call. -/
theorem unsighted_runLocally (h : call.statement.isCompound = false)
    (topology : Topology) (nested : Statement → Program Unit) :
    (runLocally topology nested call).Tells fun n => n.isSighting = false := by
  have hdone (s : Statement) :
      ((fun _ => .done () : Statement → Program Unit) s).Tells fun n =>
        n.isSighting = false := trivial
  rw [runLocally_of_simple h topology nested]
  exact tells_runLocally (fun _ => rfl) hdone (fun _ _ _ => rfl) topology

/-- An interceptor around a local run is around the dispatches that it
makes. -/
private theorem under_runLocally (i : Interceptor) (topology : Topology)
    (nested : Statement → Program Unit) (call : Call) :
    (runLocally topology nested call).under i
      = runLocally topology (fun s => (nested s).under i) call := by
  cases hcompound : call.statement.isCompound with
  | false =>
      rw [Program.under_of_unsighted
        (unsighted_runLocally hcompound topology nested)]
      exact runLocally_of_simple hcompound ..
  | true =>
      rw [runLocally_of_isCompound hcompound,
        runLocally_of_isCompound hcompound,
        Program.under_bind_of_unsighted (unsighted_opening call)]
      refine congrArg (Program.bind call.opening) (funext fun statements => ?_)
      rw [under_inSequence]
      exact congrArg (inSequence · statements)
        (funext (under_runExpanded i nested call.statement))

/-- So it is with what comes before the local run and after it, for that makes
no dispatch. -/
private theorem under_process (i : Interceptor) (config : Configuration)
    (nested : Statement → Program Unit) (call : Call) :
    (process config nested call).under i
      = process config (fun s => (nested s).under i) call := by
  have hcarrying : (do
      passGate config call
      let plan ← planCall call
      propagateAt config.topology call.text plan .beforeLocal
      runLocally config.topology nested call
      propagateAt config.topology call.text plan .afterLocal :
        Program Unit).under i = (do
      passGate config call
      let plan ← planCall call
      propagateAt config.topology call.text plan .beforeLocal
      runLocally config.topology (fun s => (nested s).under i) call
      propagateAt config.topology call.text plan .afterLocal) := by
    simp only [Program.bind_eq, Program.under_bind,
      (silent_passGate config call).under, (silent_planCall call).under,
      (silent_propagateAt ..).under, under_runLocally]
  unfold process
  simp only [Program.bind_eq] at hcarrying ⊢
  rw [Program.under_bind, (silent_classify call.statement).under]
  refine congrArg (Program.bind (classify call.statement))
    (funext fun level => ?_)
  split
  · exact congrArg (Program.tell _) hcarrying
  · exact hcarrying

/-- So it is with the clearing of the tag and the limit of the depth. -/
private theorem under_standardDispatch (i : Interceptor)
    (config : Configuration) (nested : Call → Program Unit) (call : Call) :
    (standardDispatch config nested call).under i
      = standardDispatch config (fun other => (nested other).under i)
          call := by
  have hlimited : (if config.maxDepth < call.context.depth then
        .fail (.recursionLimit config.maxDepth)
      else process config (fun s => nested (call.sub s)) call :
        Program Unit).under i
        = if config.maxDepth < call.context.depth then
            .fail (.recursionLimit config.maxDepth)
          else process config
            (fun s => (nested (call.sub s)).under i) call := by
    split
    · rfl
    · exact under_process ..
  unfold standardDispatch
  dsimp only
  split
  · exact congrArg (Program.tell _) hlimited
  · exact hlimited

/-- A dispatch is the one under a recorder that refuses nothing, with another
interceptor in the place of that recorder. -/
theorem under_dispatch (config : Configuration) (i : Interceptor)
    (call : Call) :
    (dispatch config (.recorder []) call).under i
      = dispatch config i call := by
  induction call using dispatch_induction config with
  | h call ih =>
      rw [dispatch_eq config (.recorder []), dispatch_eq config i,
        Interceptor.around_eq, Interceptor.around_eq]
      refine congrArg (i.meets (sighting call)) ?_
      rw [if_neg List.not_mem_nil, under_standardDispatch]
      exact standardDispatch_congr ih

-- ============================================= the calls of a dispatch

/-- The calls that are made while statements are run in turn, up to the first
that fails: for a statement that is handled directly none, and otherwise those
of its dispatch. -/
def Call.visitsInTurn (answer : Answers σ) (config : Configuration)
    (call : Call) (visits : Statement → σ → List (Call × σ)) :
    List Statement → σ → List (Call × σ)
  | [], _ => []
  | s :: rest, w =>
      (if call.statement.handles s then [] else visits s w) ++
        (run answer (runExpanded (fun s => dispatch config .none (call.sub s))
          call.statement s) w).andThen fun _ v =>
            call.visitsInTurn answer config visits rest
              (answer .advanceCommand v).2

/-- The calls of a dispatch in the order that they are made in, each with the
world that it is made in. -/
def Call.visits (answer : Answers σ) (config : Configuration)
    (call : Call) (w : σ) : List (Call × σ) :=
  (call, w) ::
    if call.context.depth ≤ config.maxDepth then
      (run answer (call.unroll config) w).andThen
        (call.visitsInTurn answer config fun s v =>
          (call.sub s).visits answer config v)
    else []
termination_by config.maxDepth + 1 - call.context.depth
decreasing_by
  show config.maxDepth + 1 - (call.context.depth + 1) < _
  omega

/-- The call itself comes first. -/
theorem Call.visits_eq_cons (answer : Answers σ) (config : Configuration)
    (call : Call) (w : σ) :
    call.visits answer config w
      = (call, w) :: (call.visits answer config w).tail := by
  rw [Call.visits, List.tail_cons]

/-- What is handled directly notes no call. -/
theorem sightings_runExpanded (nested : Statement → Program Unit)
    (parent s : Statement) (w : σ) :
    (runExpanded nested parent s).sightings answer w
      = if parent.handles s then [] else (nested s).sightings answer w := by
  rw [runExpanded_eq]
  split
  · exact Program.sightings_of_unsighted (silent_handled s).tells w
  · rfl

/-- Statements in sequence note what the first one notes, and what the others
note in the world that it leaves. -/
theorem sightings_inSequence (act : Statement → Program Unit) (s : Statement)
    (rest : List Statement) (w : σ) :
    (inSequence act (s :: rest)).sightings answer w
      = (act s).sightings answer w
        ++ (run answer (act s) w).andThen fun _ v =>
            (inSequence act rest).sightings answer
              (answer .advanceCommand v).2 := by
  by_cases hne : rest = []
  · subst hne
    have hlast : (run answer (act s) w).andThen (fun _ v =>
        (inSequence act []).sightings answer (answer .advanceCommand v).2)
        = [] :=
      Run.andThen_nil _
    rw [hlast, List.append_nil]
    rfl
  · rw [inSequence_next _ _ hne, Program.sightings_bind]
    rfl

/-- What a process notes is what the statements note that it runs through. -/
theorem sightings_process (config : Configuration)
    (nested : Statement → Program Unit) (call : Call) (w : σ) :
    (process config nested call).sightings answer w
      = (run answer (call.unroll config) w).andThen fun statements v =>
          (inSequence (runExpanded nested call.statement) statements).sightings
            answer v := by
  unfold process Call.unroll
  simp only [Program.bind_eq]
  rw [Program.sightings_bind_of_unsighted (silent_classify _).tells,
    Program.run_bind_andThen]
  refine Run.andThen_congr fun level _ => ?_
  have hlogged (p : Program Unit) (v : σ) :
      (if (call.context.isTopLevel && level.isLoggedUnder config.logStatement)
        = true then
          Program.bind (Program.note (.logged call.text)) fun _ => p
        else p).sightings answer v = p.sightings answer v := by
    split <;> rfl
  rw [hlogged, Program.sightings_bind_of_unsighted
    (silent_passGate config call).tells, Program.run_bind_andThen]
  refine Run.andThen_congr fun _ _ => ?_
  rw [Program.sightings_bind_of_unsighted (silent_planCall call).tells,
    Program.run_bind_andThen]
  refine Run.andThen_congr fun plan hplan => ?_
  cases hcompound : call.statement.isCompound with
  | false =>
      rw [opening_of_simple hcompound]
      refine Program.sightings_of_unsighted ?_ _
      refine (silent_propagateAt ..).tells.bind fun _ => ?_
      refine (unsighted_runLocally hcompound ..).bind fun _ =>
        (silent_propagateAt ..).tells
  | true =>
      -- behind the local run there is only the message
      have hafter (p : Program Unit) (timing : Timing) (v : σ) :
          (Program.bind p fun _ => propagateAt config.topology call.text plan
            timing).sightings answer v = p.sightings answer v := by
        rw [Program.sightings_bind]
        simp only [Program.sightings_of_unsighted
          (silent_propagateAt ..).tells, Run.andThen_nil, List.append_nil]
      rw [propagateAt_beforeLocal hcompound hplan, Program.done_bind, hafter,
        runLocally_of_isCompound hcompound,
        Program.sightings_bind_of_unsighted (unsighted_opening call)]

/-- A recorder that refuses nothing stands in no one's way. -/
theorem alike_runExpanded (config : Configuration) (call : Call)
    (s : Statement) (w : σ) :
    Run.Alike Eq
      (run answer (runExpanded
        (fun s => dispatch config (.recorder []) (call.sub s))
          call.statement s) w)
      (run answer (runExpanded (fun s => dispatch config .none (call.sub s))
        call.statement s) w) := by
  have hunder := under_runExpanded .none
    (fun s => dispatch config (.recorder []) (call.sub s)) call.statement s
  simp only [under_dispatch] at hunder
  rw [← hunder]
  exact (Program.run_under_of_admitted fun _ _ => rfl).alike

/-- Of statements in turn, a recorder that refuses nothing notes the calls that
they make. -/
theorem sightings_inTurn {visits : Statement → σ → List (Call × σ)}
    (h : ∀ s w,
      (dispatch config (.recorder []) (call.sub s)).sightings answer w
        = (visits s w).map fun x => (sighting x.1, x.2))
    (statements : List Statement) (w : σ) :
    (inSequence (runExpanded
      (fun s => dispatch config (.recorder []) (call.sub s))
        call.statement) statements).sightings answer w
      = (call.visitsInTurn answer config visits statements w).map fun x =>
          (sighting x.1, x.2) := by
  induction statements generalizing w with
  | nil => rfl
  | cons s rest ih =>
      have hfirst :
          (runExpanded (fun s => dispatch config (.recorder []) (call.sub s))
            call.statement s).sightings answer w
            = (if call.statement.handles s then [] else visits s w).map
              fun x => (sighting x.1, x.2) := by
        rw [sightings_runExpanded, h]
        split <;> rfl
      rw [sightings_inSequence, hfirst, Call.visitsInTurn, List.map_append,
        Run.map_andThen, Run.andThen_alike (alike_runExpanded config call s w)]
      exact congrArg _ (Run.andThen_congr fun _ _ => ih _)

/-- A recorder that refuses nothing notes the calls of the dispatch. -/
theorem sightings_dispatch (config : Configuration) (call : Call) (w : σ) :
    (dispatch config (.recorder []) call).sightings answer w
      = (call.visits answer config w).map fun x => (sighting x.1, x.2) := by
  induction call using dispatch_induction config generalizing w with
  | h call ih =>
      have hcleared (p : Program Unit) :
          (if call.hasTag = true then Program.bind (Program.note .clearTag)
            fun _ => p else p).sightings answer w = p.sightings answer w := by
        split <;> rfl
      rw [dispatch_eq, Interceptor.around_eq, Call.visits, List.map_cons]
      refine congrArg ((sighting call, w) :: ·) ?_
      rw [if_neg List.not_mem_nil]
      unfold standardDispatch
      simp only [Program.bind_eq]
      rw [hcleared]
      by_cases hdepth : call.context.depth ≤ config.maxDepth
      · rw [if_neg (Nat.not_lt.mpr hdepth), if_pos hdepth, sightings_process,
          Run.map_andThen]
        exact Run.andThen_congr fun statements _ =>
          sightings_inTurn (fun s v => ih hdepth s v) statements _
      · rw [if_pos (Nat.not_le.mp hdepth), if_neg hdepth]
        rfl

-- ========================================== the calls that are reached

/-- Where a call passes all checks, they leave the cluster as it is. -/
private theorem perform_unroll {plan : Option Plan}
    (h : call.Starts config .none c plan) :
    c.perform (call.unroll config) = c.perform call.opening := by
  obtain ⟨level, hlevel⟩ := h.classified
  have hclass : c.perform (classify call.statement) = (.ok level, c) :=
    Prod.ext hlevel (perform_classify ..)
  have hgate : c.perform (passGate config call) = (.ok (), c) :=
    Prod.ext h.passes.gate (perform_passGate ..)
  have hplan : c.perform (planCall call) = (.ok plan, c) :=
    Prod.ext h.planned (perform_planCall call c)
  unfold Call.unroll
  simp only [Program.bind_eq]
  rw [Cluster.perform_bind_of_ok hclass, Cluster.perform_bind_of_ok hgate,
    Cluster.perform_bind_of_ok hplan]

/-- A call that comes to the statements that it runs through has passed all
checks. -/
theorem starts_of_unroll {statements : List Statement}
    (hdepth : call.context.depth ≤ config.maxDepth)
    (h : c.perform (call.unroll config) = (.ok statements, d)) :
    ∃ plan, call.Starts config .none c plan := by
  unfold Call.unroll at h
  simp only [Program.bind_eq] at h
  cases hlevel : (c.perform (classify call.statement)).1 with
  | error f =>
      rw [Cluster.perform_bind_of_error
        (Prod.ext hlevel (perform_classify ..))] at h
      cases h
  | ok level =>
      have hclass : c.perform (classify call.statement) = (.ok level, c) :=
        Prod.ext hlevel (perform_classify ..)
      rw [Cluster.perform_bind_of_ok hclass] at h
      cases hgate : (c.perform (passGate config call)).1 with
      | error f =>
          rw [Cluster.perform_bind_of_error
            (Prod.ext hgate (perform_passGate ..))] at h
          cases h
      | ok _ =>
          have hpassed : c.perform (passGate config call) = (.ok (), c) :=
            Prod.ext hgate (perform_passGate ..)
          rw [Cluster.perform_bind_of_ok hpassed] at h
          cases hplan : (c.perform (planCall call)).1 with
          | error f =>
              rw [Cluster.perform_bind_of_error
                (Prod.ext hplan (perform_planCall ..))] at h
              cases h
          | ok plan =>
              exact ⟨plan, ⟨level, hlevel⟩, ⟨rfl, hdepth, hgate⟩, hplan⟩

/-- A statement that is expanded runs through what the cluster expands it
to. -/
private theorem opening_of_isExpanded (h : call.statement.isExpanded = true) :
    call.opening
      = Program.bind (request (.expand call.statement call.text)) ofReply := by
  unfold Call.opening
  cases hs : call.statement with
  | createTable | createForeignTable | alterTable => rfl
  | _ => rw [hs] at h; cases h

/-- A schema runs through its elements, after its handler. -/
private theorem opening_of_schema {name : String} {owner : Option String}
    {elements : List Statement}
    (h : call.statement = .createSchema name owner elements) :
    call.opening = Program.bind call.withoutRows.handle fun _ =>
      if elements = [] then .done []
      else Program.bind (request .advanceCommand) fun _ => .done elements := by
  unfold Call.opening
  rw [h]
  rfl

/-- What a call runs through is what its opening gives. -/
private theorem Call.Unrolls.perform_opening {statements : List Statement}
    {events : List Event} (h : call.Unrolls c statements d events) :
    c.perform call.opening = (.ok statements, d) := by
  cases h with
  | expanded hs =>
      rw [opening_of_isExpanded hs]
      rfl
  | emptySchema hs hhandled =>
      rw [opening_of_schema hs, Cluster.perform_bind_of_ok hhandled.ends]
      rfl
  | schema hs hne hhandled =>
      rw [opening_of_schema hs,
        Cluster.perform_bind_of_ok hhandled.ends, if_neg hne]
      rfl

/-- What the opening gives, the call runs through. -/
private theorem unrolls_of_opening {statements : List Statement}
    (hcompound : call.statement.isCompound = true)
    (h : c.perform call.opening = (.ok statements, d)) :
    ∃ events, call.Unrolls c statements d events := by
  cases hexpanded : call.statement.isExpanded with
  | true =>
      rw [opening_of_isExpanded hexpanded] at h
      obtain ⟨hstatements, rfl⟩ := Prod.mk.inj h
      obtain rfl := Except.ok.inj hstatements
      exact ⟨[], .expanded hexpanded⟩
  | false =>
      obtain ⟨name, owner, elements, hs⟩ : ∃ name owner elements,
          call.statement = .createSchema name owner elements := by
        cases hs : call.statement with
        | createSchema name owner elements =>
            exact ⟨name, owner, elements, rfl⟩
        | createTable | createForeignTable | alterTable =>
            rw [hs] at hexpanded; cases hexpanded
        | _ => rw [hs] at hcompound; cases hcompound
      have hkind : call.withoutRows.statement.kind = .createSchema := by
        show call.statement.kind = _
        rw [hs]
        rfl
      rw [opening_of_schema hs] at h
      rcases performs_handle call.withoutRows c with
        ⟨f, v, hhandler⟩ | ⟨v, hhandler⟩
      · rw [Cluster.perform_bind_of_error hhandler.ends] at h
        cases h
      rw [hkind] at hhandler
      rw [Cluster.perform_bind_of_ok hhandler.ends] at h
      by_cases hne : elements = []
      · subst hne
        obtain ⟨hstatements, rfl⟩ := Prod.mk.inj h
        obtain rfl := Except.ok.inj hstatements
        exact ⟨_, .emptySchema hs hhandler⟩
      · rw [if_neg hne] at h
        obtain ⟨hstatements, rfl⟩ := Prod.mk.inj h
        obtain rfl := Except.ok.inj hstatements
        exact ⟨_, .schema hs hne hhandler⟩

/-- The calls that statements make in turn are those of the statements that are
come to and are not handled directly. -/
theorem mem_visitsInTurn {visits : Statement → Cluster → List (Call × Cluster)}
    {statements : List Statement} {x : Call × Cluster} :
    x ∈ call.visitsInTurn Cluster.answer config visits statements c ↔
      ∃ before s after parts d, statements = before ++ s :: after ∧
        Passed (call.Contributes config .none) c before parts d ∧
        call.statement.handles s = false ∧ x ∈ visits s d := by
  induction statements generalizing c with
  | nil => simp [Call.visitsInTurn]
  | cons s rest ih =>
      obtain ⟨result, part, d, hperforms, hcontributes⟩ :=
        contributes_runExpanded config .none call s c
      obtain ⟨hresult, hworld⟩ := Prod.mk.inj hperforms.ends
      rw [Call.visitsInTurn, List.mem_append]
      constructor
      · rintro (hfirst | hlater)
        · cases hhandles : call.statement.handles s with
          | true => simp [hhandles] at hfirst
          | false =>
              rw [hhandles] at hfirst
              exact ⟨[], s, rest, [], c, rfl, .none, hhandles, hfirst⟩
        · cases result with
          | error f =>
              rw [Run.andThen_of_error hresult] at hlater
              cases hlater
          | ok _ =>
              rw [Run.andThen_of_ok hresult, hworld] at hlater
              obtain ⟨before, t, after, parts, e, rfl, hpassed, hhandles,
                  hmem⟩ := ih.mp hlater
              exact ⟨s :: before, t, after, part :: parts, e, rfl,
                .next hcontributes hpassed, hhandles, hmem⟩
      · rintro ⟨before, t, after, parts, e, hsplit, hpassed, hhandles, hmem⟩
        cases hpassed with
        | none =>
            obtain ⟨rfl, rfl⟩ := List.cons.inj hsplit
            refine .inl ?_
            rw [hhandles]
            exact hmem
        | next hone hrest =>
            obtain ⟨rfl, rfl⟩ := List.cons.inj hsplit
            obtain ⟨hok, hv⟩ := Prod.mk.inj hone.performs.ends
            refine .inr ?_
            rw [Run.andThen_of_ok hok, hv]
            exact ih.mpr ⟨_, t, after, _, e, rfl, hrest, hhandles, hmem⟩

/-- The calls of a dispatch are the call itself and those of the dispatches
that it makes. -/
theorem mem_tail_visits {x : Call × Cluster} :
    x ∈ (call.visits Cluster.answer config c).tail ↔
      ∃ s d, call.Makes config .none c s d ∧
        x ∈ (call.sub s).visits Cluster.answer config d := by
  rw [Call.visits, List.tail_cons]
  constructor
  · intro hmem
    by_cases hdepth : call.context.depth ≤ config.maxDepth
    case neg =>
      rw [if_neg hdepth] at hmem
      cases hmem
    rw [if_pos hdepth] at hmem
    cases hunroll : c.perform (call.unroll config) with
    | mk result start =>
        obtain ⟨hresult, hstart⟩ := Prod.mk.inj hunroll
        cases result with
        | error f =>
            rw [Run.andThen_of_error hresult] at hmem
            cases hmem
        | ok statements =>
            rw [Run.andThen_of_ok hresult, hstart] at hmem
            obtain ⟨plan, hstarts⟩ := starts_of_unroll hdepth hunroll
            rw [perform_unroll hstarts] at hunroll
            obtain ⟨before, s, after, parts, d, hsplit, hpassed, hhandles,
                hmem⟩ := mem_visitsInTurn.mp hmem
            cases hcompound : call.statement.isCompound with
            | false =>
                rw [opening_of_simple hcompound] at hunroll
                obtain rfl := Except.ok.inj (Prod.mk.inj hunroll).1
                simp at hsplit
            | true =>
                obtain ⟨events, hunrolls⟩ :=
                  unrolls_of_opening hcompound hunroll
                have hmakes : call.Makes config .none c s d :=
                  ⟨⟨plan, hstarts⟩, hhandles, statements, start, events,
                    before, after, parts, hunrolls, hsplit, hpassed⟩
                exact ⟨s, d, hmakes, hmem⟩
  · rintro ⟨s, d, hmakes, hmem⟩
    obtain ⟨plan, hstarts⟩ := hmakes.starts
    obtain ⟨statements, start, events, before, after, parts, hunrolls,
        hsplit, hpassed⟩ := hmakes.turn
    have hunroll := perform_unroll hstarts
    rw [hunrolls.perform_opening] at hunroll
    obtain ⟨hresult, hstart⟩ := Prod.mk.inj hunroll
    rw [if_pos hstarts.passes.depth, Run.andThen_of_ok hresult, hstart]
    exact mem_visitsInTurn.mpr ⟨before, s, after, parts, d, hsplit, hpassed,
      hmakes.nested, hmem⟩

/-- The calls of a dispatch are those that it reaches, each in the cluster that
it is reached in. -/
theorem mem_visits :
    (other, d) ∈ call.visits Cluster.answer config c ↔
      call.Reaches config .none c other d := by
  constructor
  · intro hmem
    induction call using dispatch_induction config generalizing c with
    | h call ih =>
        rw [Call.visits_eq_cons, List.mem_cons] at hmem
        rcases hmem with hself | htail
        · obtain ⟨rfl, rfl⟩ := Prod.mk.inj hself
          exact .self
        · obtain ⟨s, e, hmakes, hmem⟩ := mem_tail_visits.mp htail
          obtain ⟨plan, hstarts⟩ := hmakes.starts
          exact .nested hmakes (ih hstarts.passes.depth s hmem)
  · intro hreaches
    induction hreaches with
    | self =>
        rw [Call.visits_eq_cons]
        exact List.mem_cons_self
    | nested hmakes _ ih =>
        exact List.mem_of_mem_tail (mem_tail_visits.mpr ⟨_, _, hmakes, ih⟩)

-- =============================================== what the client hears

/-- The desk with other sightings on it. -/
def Desk.withSightings (desk : Desk) (seen : List Sighting) : Desk :=
  { desk with sightings := seen }

/-- What is noted is kept apart from what is told. -/
theorem hearAll_withSightings (notes : List Note) (desk : Desk)
    (seen : List Sighting) :
    (desk.withSightings seen).hearAll notes
      = (desk.hearAll (notes.filter fun n => !n.isSighting)).withSightings
          (seen ++ notes.filterMap Note.sighting?) := by
  induction notes generalizing desk seen with
  | nil => exact congrArg desk.withSightings (List.append_nil seen).symm
  | cons n rest ih =>
      cases n with
      | sighted s =>
          refine (ih desk (seen ++ [s])).trans ?_
          rw [List.append_assoc]
          rfl
      | clearTag => exact ih (desk.hear .clearTag) seen
      | setTag text => exact ih (desk.hear (.setTag text)) seen
      | rows rows => exact ih (desk.hear (.rows rows)) seen
      | logged line => exact ih (desk.hear (.logged line)) seen

/-- What a client hears of a run is what is told, and the sightings are what is
noted. -/
private theorem hearAll_run (r : Run σ Unit) (desk : Desk) :
    desk.hearAll r.notes
      = (desk.hearAll r.told).withSightings (desk.sightings ++ r.seen) :=
  hearAll_withSightings r.notes desk desk.sightings

/-- Where no call is noted, everything is told. -/
private theorem told_of_unseen {r : Run σ Unit} (h : r.seen = []) :
    r.told = r.notes := by
  refine List.filter_eq_self.mpr fun n hn => ?_
  have hunnoted := List.filterMap_eq_nil_iff.mp h n hn
  cases n with
  | sighted s => cases hunnoted
  | clearTag | setTag | rows | logged => rfl

-- ============================================ transparent and complete

/-- The calls of a dispatch in a row, as they are made: the call itself comes
first; each of the others is made by one of them, for a statement that is not
handled directly, one level deeper and with nobody waiting for its tag. -/
structure Call.InOrder (config : Configuration) (call : Call) (c : Cluster)
    (calls : List (Call × Cluster)) : Prop where
  first : calls.head? = some (call, c)
  inTime : calls.Pairwise fun x y => x.2.journal <+: y.2.journal
  reached : ∀ other d, (other, d) ∈ calls ↔ call.Reaches config .none c other d
  nested : ∀ other d, (other, d) ∈ calls.tail → other.hasTag = false ∧
    ∃ parent v s, (parent, v) ∈ calls ∧ parent.Makes config .none v s d ∧
      parent.statement.handles s = false ∧ other = parent.sub s ∧
      other.context.depth = parent.context.depth + 1

/-- A run comes to the same as one without an interceptor, and all calls are
noted if the interceptor notes anything. -/
structure Interceptor.IsTransparent (i : Interceptor)
    (calls : List (Call × Cluster))
    (plain seen : Run Cluster Unit) : Prop where
  result : seen.result = plain.result
  world : seen.world = plain.world
  heard : ∀ desk : Desk, desk.hearAll seen.notes
    = (desk.hearAll plain.notes).withSightings
        (desk.sightings ++ i.notes (calls.map fun x => sighting x.1))

/-- A run is refused at a call: it is one without an interceptor up to the
moment at which the call is made, and nothing happens after it. -/
structure Call.IsRefusedAfter (other : Call) (before : List (Call × Cluster))
    (d : Cluster) (plain seen : Run Cluster Unit) : Prop where
  result : seen.result = .error (refusal other.statement.kind)
  world : seen.world = d
  entered : d.journal <+: plain.world.journal
  heard : ∃ heard, heard <+: plain.notes ∧ ∀ desk : Desk,
    desk.hearAll seen.notes
      = (desk.hearAll heard).withSightings
        (desk.sightings ++ ((before.map fun x => sighting x.1)
          ++ [sighting other]))

/-- A call that is reached is the first one, or was made by one that is
reached. -/
private theorem Call.Reaches.maker (h : call.Reaches config i c other d) :
    (other = call ∧ d = c) ∨
      ∃ parent v s, call.Reaches config i c parent v ∧
        parent.Makes config i v s d ∧ other = parent.sub s := by
  induction h with
  | self => exact .inl ⟨rfl, rfl⟩
  | nested hmakes hrest ih =>
      rcases ih with ⟨rfl, rfl⟩ | ⟨parent, v, s, hreaches, hparent, rfl⟩
      · exact .inr ⟨_, _, _, .self, hmakes, rfl⟩
      · exact .inr ⟨parent, v, s, .nested hmakes hreaches, hparent, rfl⟩

/-- The calls of a dispatch are in order. -/
private theorem inOrder_visits (config : Configuration) (call : Call)
    (c : Cluster) :
    call.InOrder config c (call.visits Cluster.answer config c) where
  first := by rw [Call.visits_eq_cons, List.head?_cons]
  inTime := by
    obtain ⟨-, hpairwise⟩ := Program.pairwise_sightings Cluster.Onward.refl
      Cluster.Onward.trans Cluster.onward_answer
      (dispatch config (.recorder []) call) c
    rw [sightings_dispatch, List.pairwise_map] at hpairwise
    exact hpairwise.imp fun h => h.journal
  reached := fun _ _ => mem_visits
  nested := by
    intro other d hmem
    obtain ⟨s, e, hmakes, hmem⟩ := mem_tail_visits.mp hmem
    rcases (mem_visits.mp hmem).maker with
      ⟨rfl, rfl⟩ | ⟨parent, v, t, hreaches, hparent, rfl⟩
    · exact ⟨rfl, call, c, s, mem_visits.mpr .self, hmakes,
        hmakes.nested, rfl, rfl⟩
    · exact ⟨rfl, parent, v, t, mem_visits.mpr (.nested hmakes hreaches),
        hparent, hparent.nested, rfl, rfl⟩

/-- An interceptor that refuses none of the calls of a dispatch notes them all,
and the dispatch comes to the same. -/
private theorem watched_dispatch {w : σ}
    (hadmits : ∀ x ∈ call.visits answer config w,
      i.admits x.1.statement.kind = true) :
    Run.Watched i ((call.visits answer config w).map fun x => sighting x.1)
      (run answer (dispatch config (.recorder []) call) w)
      (run answer (dispatch config i call) w) := by
  have hpasses :
      ∀ x ∈ (dispatch config (.recorder []) call).sightings answer w,
        i.admits x.1.kind = true := by
    rw [sightings_dispatch]
    exact List.forall_mem_map.mpr hadmits
  have hwatched := Program.run_under_of_admitted hpasses
  rw [under_dispatch, sightings_dispatch, List.map_map] at hwatched
  exact hwatched

/-- An interceptor that refuses one of the calls of a dispatch ends it
there. -/
private theorem refused_dispatch {w v : σ} {before after : List (Call × σ)}
    (hsplit : call.visits answer config w = before ++ (other, v) :: after)
    (hbefore : ∀ x ∈ before, i.admits x.1.statement.kind = true)
    (hrefused : i.admits other.statement.kind = false) :
    Run.Refused (before.map fun x => sighting x.1) (sighting other) v
      (run answer (dispatch config (.recorder []) call) w)
      (run answer (dispatch config i call) w) := by
  have hcalls : (dispatch config (.recorder []) call).sightings answer w
      = (before.map fun x => (sighting x.1, x.2))
        ++ (sighting other, v) :: after.map fun x => (sighting x.1, x.2) := by
    rw [sightings_dispatch, hsplit, List.map_append, List.map_cons]
  have hpasses : ∀ x ∈ before.map fun x => (sighting x.1, x.2),
      i.admits x.1.kind = true :=
    List.forall_mem_map.mpr hbefore
  have hstops := Program.run_under_of_refused hcalls hpasses hrefused
  rw [under_dispatch, List.map_map] at hstops
  exact hstops

section compared

variable {bare plain seen : Run Cluster Unit} {calls : List (Call × Cluster)}
  (hplain : Run.Watched .none (calls.map fun x => sighting x.1) bare plain)
include hplain

/-- Two runs that come to the same as a third one come to the same, but for
what is noted. -/
private theorem isTransparent_of_watched
    (hseen : Run.Watched i (calls.map fun x => sighting x.1) bare seen) :
    i.IsTransparent calls plain seen := by
  obtain ⟨⟨hresult, htold, hworlds⟩, hunseen⟩ := hplain
  obtain ⟨⟨hresult', htold', hworlds'⟩, hnoted⟩ := hseen
  have hnotes : plain.told = plain.notes := told_of_unseen hunseen
  refine ⟨?result, ?world, ?heard⟩
  case result => rw [hresult', hresult]
  case world => rw [← hworlds', hworlds]
  case heard =>
    intro desk
    rw [hearAll_run, htold', ← htold, hnotes, hnoted]

/-- A run that is refused at a call is one without an interceptor until then,
and what it told was told there too. -/
private theorem isRefusedAfter_of_refused {before : List (Call × Cluster)}
    (hstops : Run.Refused (before.map fun x => sighting x.1) (sighting other) d
      bare seen)
    (hentered : d.journal <+: plain.world.journal) :
    other.IsRefusedAfter before d plain seen := by
  obtain ⟨⟨-, htold, -⟩, hunseen⟩ := hplain
  have hnotes : plain.told = plain.notes := told_of_unseen hunseen
  refine ⟨hstops.result, hstops.world, hentered, seen.told, ?_, ?_⟩
  · rw [← hnotes, htold]
    exact hstops.told
  · intro desk
    rw [hearAll_run, hstops.seen]

end compared

/-- Interception is transparent and complete: an interceptor that refuses none
of the calls of a dispatch changes nothing but what is noted, and a recorder
notes all of the calls in order. One that refuses a call ends the dispatch at
the first that it refuses, and until then nothing is changed either. -/
theorem interception_is_transparent (config : Configuration) (call : Call)
    (c : Cluster) :
    let plain := run Cluster.answer (dispatch config .none call) c
    let calls := call.visits Cluster.answer config c
    call.InOrder config c calls ∧
    (∀ i : Interceptor, (∀ x ∈ calls, i.admits x.1.statement.kind = true) →
      i.IsTransparent calls plain
        (run Cluster.answer (dispatch config i call) c)) ∧
    ∀ (i : Interceptor) before other d after,
      calls = before ++ (other, d) :: after →
      (∀ x ∈ before, i.admits x.1.statement.kind = true) →
      i.admits other.statement.kind = false →
      call.Dispatches config .none c other d ∧
        other.IsRefusedAfter before d plain
          (run Cluster.answer (dispatch config i call) c) := by
  intro plain calls
  have hplain : Run.Watched .none (calls.map fun x => sighting x.1)
      (run Cluster.answer (dispatch config (.recorder []) call) c) plain :=
    watched_dispatch fun _ _ => rfl
  refine ⟨inOrder_visits config call c, ?transparent, ?refused⟩
  case transparent =>
    intro i hadmits
    have hseen := watched_dispatch hadmits
    exact isTransparent_of_watched hplain hseen
  case refused =>
    intro i before other d after hsplit hbefore hrefused
    have hstops := refused_dispatch hsplit hbefore hrefused
    have hmem : (other, d) ∈ calls := by
      rw [hsplit]
      exact List.mem_append_right before List.mem_cons_self
    have hmoment := (mem_visits.mp hmem).dispatches
    have hentered : d.journal <+: plain.world.journal := by
      obtain ⟨next, hleads⟩ := hmoment
      rw [hleads.world]
      exact (Cluster.onward_perform d _).journal
    exact ⟨hmoment, isRefusedAfter_of_refused hplain hstops hentered⟩

/-- The sequence that comes with a table of a client. -/
def sequenceOfTable : Call := clientTable.sub (.createSequence ⟨some "s", "q"⟩)

/-- Around a table that comes with a sequence: a recorder that refuses nothing,
and one that refuses the sequence once the table is there. -/
theorem interception_is_transparent_clientTable :
    Interceptor.IsTransparent (.recorder [])
        (clientTable.visits Cluster.answer .standard withSequences)
        (run Cluster.answer (dispatch .standard .none clientTable)
          withSequences)
        (run Cluster.answer (dispatch .standard (.recorder []) clientTable)
          withSequences) ∧
    ∃ d, d.journal = [.relationDefined "s.t" .table, .commandAdvanced,
        .storageCreated "s.t", .commandAdvanced] ∧
      clientTable.Dispatches .standard .none withSequences sequenceOfTable d ∧
      sequenceOfTable.IsRefusedAfter [(clientTable, withSequences)] d
        (run Cluster.answer (dispatch .standard .none clientTable)
          withSequences)
        (run Cluster.answer
          (dispatch .standard (.recorder [.createSequence]) clientTable)
            withSequences) := by
  obtain ⟨-, htransparent, hrefused⟩ :=
    interception_is_transparent .standard clientTable withSequences
  refine ⟨htransparent (.recorder []) fun _ _ => rfl, ?_⟩
  -- the table itself is handled directly and is not in the list
  obtain ⟨d, after, hjournal, hcalls⟩ : ∃ d after,
      d.journal = [.relationDefined "s.t" .table, .commandAdvanced,
        .storageCreated "s.t", .commandAdvanced] ∧
      clientTable.visits Cluster.answer .standard withSequences
        = (clientTable, withSequences) ::
            (sequenceOfTable.visits Cluster.answer .standard d ++ after) := by
    refine ⟨(withSequences.perform
      (createTable ⟨⟨some "s", "t"⟩, [], [], false⟩)).2.record
        .commandAdvanced, [], rfl, ?_⟩
    rw [Call.visits]
    rfl
  rw [sequenceOfTable.visits_eq_cons] at hcalls
  refine ⟨d, hjournal,
    hrefused (.recorder [.createSequence]) [_] _ d _ hcalls ?_ rfl⟩
  intro x hx
  obtain rfl := List.mem_singleton.mp hx
  rfl

end ClusterUtility
