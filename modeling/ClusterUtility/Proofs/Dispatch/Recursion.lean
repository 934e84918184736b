/-
How deep a dispatch goes, and what happens at the limit.

A cluster may expand a statement to anything, so nothing about statements
bounds the recursion. The depth does: each call is one level deeper than the
one that makes it, and a call below the limit is refused before anything is
done for it.

# The recursion ends

A dispatch is one level of it, with the calls that this level makes
dispatched in turn. Taken one level at a time (`levels`), it never comes to
what stands at the bottom: as many levels as are left above the limit, and
one more for the refusal, make up the whole dispatch
(`levels_eq_dispatch`).

# Calls that are made

`Call.Makes` says which calls a call makes, and in which cluster each of them
is made: the statements that it runs through, up to the first that fails, but
for those that it handles directly. `Call.Reaches` follows the calls down. A
call that is made is a moment of the run of the call that makes it
(`Call.Makes.dispatches`), so what is left to be done at that moment is its
dispatch and then something; and if its dispatch fails at once, that
something is not done.

# At the limit

A call that is too deep asks for nothing, whatever the world
(`ensures_tooDeep`). So the whole dispatch ends with its failure and in the
cluster that it was made in, and the message of the statement at the top is
not sent (`Call.StopsAt`). The other way round, a dispatch fails at the limit
only if it came to such a call (`reaches_of_unending`).
-/
import ClusterUtility.Proofs.Dispatch.Expansion
import ClusterUtility.Proofs.Dispatch.Nested
import ClusterUtility.Proofs.Dispatch.Unending

namespace ClusterUtility

open Cluster (Event answer)
open Program (Leads leads_of_ok request)

variable {α β : Type} {config : Configuration} {i : Interceptor}
  {call other : Call} {c d e : Cluster} {f : Failure}

-- ================================================== the recursion ends

/-- Some levels of a dispatch, with something else below them. -/
def levels (config : Configuration) (i : Interceptor)
    (bottom : Call → Program Unit) : Nat → Call → Program Unit
  | 0 => bottom
  | n + 1 => i.around (standardDispatch config (levels config i bottom n))

/-- The calls that are made do not matter but for the statements that a call
whose depth is allowed may expand to. -/
theorem standardDispatch_congr {nested nested' : Call → Program Unit}
    (h : call.context.depth ≤ config.maxDepth →
      ∀ s, nested (call.sub s) = nested' (call.sub s)) :
    standardDispatch config nested call
      = standardDispatch config nested' call := by
  unfold standardDispatch
  by_cases hdeep : config.maxDepth < call.context.depth
  · simp only [hdeep, if_true]
  · simp only [hdeep, if_false, h (Nat.not_lt.mp hdeep)]

/-- An interceptor does not look at what it stands around. -/
private theorem around_congr {inner inner' : Call → Program Unit}
    (h : inner call = inner' call) (i : Interceptor) :
    i.around inner call = i.around inner' call := by
  cases i with
  | none => exact h
  | standard => exact h
  | recorder refused =>
      unfold Interceptor.around
      rw [h]

/-- With enough levels, what stands below them is never come to. -/
theorem levels_eq_dispatch (config : Configuration) (i : Interceptor)
    (bottom : Call → Program Unit) {n : Nat}
    (h : config.maxDepth + 1 - call.context.depth < n) :
    levels config i bottom n call = dispatch config i call := by
  induction n generalizing call with
  | zero => exact absurd h (Nat.not_lt_zero _)
  | succ n ih =>
      rw [dispatch_eq]
      refine around_congr (standardDispatch_congr fun hdepth s => ih ?_) i
      show config.maxDepth + 1 - (call.context.depth + 1) < n
      omega

-- ================================================= calls that are made

/-- In some cluster, the dispatch of a call makes the call for a statement that
it expands to: the statements before it have passed. -/
structure Call.Makes (config : Configuration) (i : Interceptor) (call : Call)
    (c : Cluster) (s : Statement) (d : Cluster) : Prop where
  starts : ∃ plan, call.Starts config i c plan
  nested : call.statement.handles s = false
  turn : ∃ statements start opening before after parts,
    call.Unrolls c statements start opening ∧
      statements = before ++ s :: after ∧
      Passed (call.Contributes config i) start before parts d

/-- The dispatch of a call comes to another call, or it is that call itself. -/
inductive Call.Reaches (config : Configuration) (i : Interceptor) :
    Call → Cluster → Call → Cluster → Prop
  | self {call : Call} {c : Cluster} : call.Reaches config i c call c
  | nested {call other : Call} {c d e : Cluster} {s : Statement}
      (hmakes : call.Makes config i c s d)
      (hrest : (call.sub s).Reaches config i d other e) :
      call.Reaches config i c other e

/-- Only a compound statement runs through others. -/
private theorem Call.Unrolls.isCompound {statements : List Statement}
    {opening : List Event} (h : call.Unrolls c statements d opening) :
    call.statement.isCompound = true := by
  cases h with
  | expanded hs =>
      cases hstatement : call.statement with
      | createTable | createForeignTable | alterTable => rfl
      | _ =>
          rw [hstatement] at hs
          cases hs
  | emptySchema hs _ =>
      rw [hs]
      rfl
  | schema hs _ _ =>
      rw [hs]
      rfl

-- ====================================================== moments

/-- From a moment on, a program does what is left. -/
theorem perform_of_leads {p q : Program α} (h : Leads answer p c q d) :
    c.perform p = d.perform q :=
  Prod.ext h.result h.world

private theorem leads_of_perform {p : Program α} {value : α}
    (h : c.perform p = (.ok value, d)) : Leads answer p c (.done value) d := by
  obtain ⟨hresult, rfl⟩ := Prod.mk.inj h
  exact leads_of_ok hresult

/-- What a program does first, and what it comes to then. -/
theorem leads_bind_of_perform {p : Program α} {next : α → Program β}
    {value : α} {q : Program β} (hp : c.perform p = (.ok value, d))
    (hnext : Leads answer (next value) d q e) :
    Leads answer (Program.bind p next) c q e :=
  ((leads_of_perform hp).bind next).trans hnext

/-- A contribution is made by running the statement. -/
theorem Call.Contributes.performs {s : Statement}
    {result : Except Failure Unit} {events : List Event}
    (h : call.Contributes config i s c result events d) :
    c.Performs (runExpanded (fun s => dispatch config i (call.sub s))
      call.statement s) result events d := by
  rw [runExpanded_eq]
  cases h with
  | handled hdirect hperforms => rwa [if_pos hdirect]
  | failed hdirect hperforms => rwa [if_pos hdirect]
  | dispatched hnested hperforms => rwa [hnested]

/-- After statements that have passed, it is the turn of the next one. -/
theorem leads_inSequence {before : List Statement} {parts : List (List Event)}
    (h : Passed (call.Contributes config i) c before parts d) (s : Statement)
    (after : List Statement) :
    ∃ rest, Leads answer
      (inSequence (runExpanded (fun s => dispatch config i (call.sub s))
        call.statement) (before ++ s :: after)) c
      (Program.bind (runExpanded (fun s => dispatch config i (call.sub s))
        call.statement s) rest) d := by
  induction h with
  | none =>
      cases after with
      | nil =>
          refine ⟨.done, ?_⟩
          rw [Program.bind_done]
          exact .here
      | cons t after => exact ⟨_, .here⟩
  | next h hrest ih =>
      obtain ⟨rest, hleads⟩ := ih
      refine ⟨rest, ?_⟩
      rw [List.cons_append, inSequence_next _ _ (by simp)]
      exact leads_bind_of_perform h.performs.ends (.ask hleads)

/-- The local run of a compound statement comes to the statements that it runs
through. -/
theorem leads_runLocally {s : Statement} {before after : List Statement}
    {opening : List Event} (topology : Topology)
    (nested : Statement → Program Unit)
    (h : call.Unrolls c (before ++ s :: after) d opening) :
    Leads answer (runLocally topology nested call) c
      (inSequence (runExpanded nested call.statement) (before ++ s :: after))
      d := by
  generalize hstatements : before ++ s :: after = statements at h
  cases h with
  | expanded hs =>
      have hrun : runLocally topology nested call
          = runExpansion nested call := by
        unfold runLocally
        cases hstatement : call.statement with
        | createTable | createForeignTable | alterTable => rfl
        | _ =>
            rw [hstatement] at hs
            cases hs
      rw [hrun]
      exact .ask .here
  | emptySchema hs hhandled => simp at hstatements
  | schema hs hne hhandled =>
      have hrun : runLocally topology nested call
          = createSchema nested call statements := by
        unfold runLocally
        rw [hs]
      have hact : runExpanded nested call.statement = nested := by
        funext s
        rw [runExpanded_eq, hs, Statement.handles_createSchema]
        rfl
      rw [hrun, createSchema_eq, hact]
      refine leads_bind_of_perform hhandled.ends ?_
      rw [if_neg hne]
      exact .ask .here

/-- A call that is made is a moment of the run. -/
theorem Call.Makes.dispatches {s : Statement} (h : call.Makes config i c s d) :
    call.Dispatches config i c (call.sub s) d := by
  obtain ⟨plan, hstarts⟩ := h.starts
  obtain ⟨statements, start, opening, before, after, parts, hunrolls, rfl,
      hpassed⟩ := h.turn
  obtain ⟨level, hlevel⟩ := hstarts.classified
  obtain ⟨rest, hsequence⟩ := leads_inSequence hpassed s after
  have hunrolled := leads_runLocally config.topology
    (fun s => dispatch config i (call.sub s)) hunrolls
  have hlocal := hunrolled.trans hsequence
  rw [runExpanded_eq, h.nested] at hlocal
  have hplan : c.perform (planCall call) = (.ok plan, c) :=
    Prod.ext hstarts.planned (perform_planCall call c)
  have hcarried : Leads answer (call.carriedOut config i) c
      (Program.bind (runLocally config.topology
        (fun s => dispatch config i (call.sub s)) call) fun _ =>
          propagateAt config.topology call.text plan .afterLocal) c := by
    refine leads_bind_of_perform hplan ?_
    rw [propagateAt_beforeLocal hunrolls.isCompound hstarts.planned]
    exact .here
  refine ⟨fun u => Program.bind (rest u) fun _ =>
    propagateAt config.topology call.text plan .afterLocal, ?_⟩
  have hpassage := (leads_carriedOut hstarts.passes hlevel).trans hcarried
  have hwhole := hpassage.trans (hlocal.bind fun _ =>
    propagateAt config.topology call.text plan .afterLocal)
  rwa [Program.bind_assoc] at hwhole

/-- What is come to from a call that is come to, is come to. -/
private theorem Call.Reaches.trans {mid : Call}
    (h : call.Reaches config i c mid d) (h' : mid.Reaches config i d other e) :
    call.Reaches config i c other e := by
  induction h with
  | self => exact h'
  | nested hmakes _ ih => exact .nested hmakes (ih h')

/-- A call that is come to is a moment of the run. -/
theorem Call.Reaches.dispatches (h : call.Reaches config i c other e) :
    call.Dispatches config i c other e := by
  induction h with
  | self => exact Call.dispatches_self ..
  | nested hmakes _ ih =>
      obtain ⟨outer, houter⟩ := hmakes.dispatches
      obtain ⟨inner, hinner⟩ := ih
      refine ⟨fun u => Program.bind (inner u) outer, ?_⟩
      rw [← Program.bind_assoc]
      exact houter.trans (hinner.bind outer)

-- ====================================================== at the limit

/-- The failure of a call that is too deep; an interceptor may refuse the call
before its depth is looked at. -/
def Call.excess (config : Configuration) (i : Interceptor)
    (call : Call) : Failure :=
  if i.admits call.statement.kind then .recursionLimit config.maxDepth
  else Interceptor.refusal call.statement.kind

/-- Whatever the world, a call that is too deep asks for nothing and fails. -/
theorem ensures_tooDeep (hdeep : config.maxDepth < call.context.depth)
    (i : Interceptor) :
    (dispatch config i call).Ensures fun log result =>
      log = [] ∧ result = .error (call.excess config i) := by
  have hstandard (Q : List Exchange → Except Failure Unit → Prop)
      (hQ : Q [] (.error (.recursionLimit config.maxDepth))) :
      (standardDispatch config (dispatch config i) call).Ensures Q := by
    unfold standardDispatch
    simp only [hdeep, if_true, Program.bind_eq]
    split <;> exact hQ
  rw [dispatch_eq]
  cases i with
  | none => exact hstandard _ ⟨rfl, rfl⟩
  | standard => exact hstandard _ ⟨rfl, rfl⟩
  | recorder refused =>
      show (if call.statement.kind ∈ refused
        then _ else _ : Program Unit).Ensures _
      by_cases hrefused : call.statement.kind ∈ refused
      · rw [if_pos hrefused]
        refine ⟨rfl, ?_⟩
        simp [Call.excess, Interceptor.admits, hrefused]
      · rw [if_neg hrefused]
        refine hstandard _ ⟨rfl, ?_⟩
        simp [Call.excess, Interceptor.admits, hrefused]

/-- So its dispatch fails, and the cluster stays as it is. -/
private theorem perform_tooDeep (hdeep : config.maxDepth < call.context.depth)
    (i : Interceptor) (c : Cluster) :
    c.perform (dispatch config i call)
      = (.error (call.excess config i), c) := by
  obtain ⟨hlog, hresult⟩ := (ensures_tooDeep hdeep i).run answer c
  have hnothing : ∀ x ∈ Program.exchanges answer (dispatch config i call) c,
      False := by
    intro x hx
    rw [hlog] at hx
    cases hx
  refine Prod.ext hresult ?_
  exact (Program.related_of_exchanges (R := Eq) (P := fun _ => False)
    (fun _ => rfl) (fun h h' => h.trans h') (fun _ _ h => h.elim)
    hnothing).symm

/-- A compound statement that fails sends no message. -/
theorem unsent_of_error (hcompound : call.statement.isCompound = true)
    (hfail : c.perform (dispatch config i call) = (.error f, d)) :
    ∃ events, d.journal = c.journal ++ events ∧
      ∀ request, .sent request ∉ events := by
  by_cases hstarts : ∃ plan, call.Starts config i c plan
  case neg =>
    obtain ⟨g, hperform⟩ := perform_dispatch_of_not_starts fun plan h =>
      hstarts ⟨plan, h⟩
    rw [hfail] at hperform
    obtain ⟨-, rfl⟩ := Prod.mk.inj hperform
    exact ⟨[], (List.append_nil _).symm, fun _ => List.not_mem_nil⟩
  obtain ⟨plan, hstarts⟩ := hstarts
  rw [perform_dispatch_of_starts hcompound hstarts] at hfail
  obtain ⟨events, hjournal, hsent⟩ := sent_runLocally config i call c
  have hunsent (request : RemoteRequest) : .sent request ∉ events := by
    intro hmem
    obtain ⟨name, missingOk, hs, _⟩ := hsent _ hmem request rfl
    rw [hs] at hcompound
    cases hcompound
  cases hlocal : c.perform (runLocally config.topology
      (fun s => dispatch config i (call.sub s)) call) with
  | mk result w =>
      rw [hlocal] at hjournal
      cases result with
      | error g =>
          rw [Cluster.perform_bind_of_error hlocal] at hfail
          obtain ⟨-, rfl⟩ := Prod.mk.inj hfail
          exact ⟨events, hjournal, hunsent⟩
      | ok _ =>
          rw [Cluster.perform_bind_of_ok hlocal] at hfail
          rcases perform_propagateAt config.topology call.text plan
            .afterLocal w with ⟨g, hsend⟩ | ⟨v, hsend, _⟩
          · rw [hfail] at hsend
            obtain ⟨-, rfl⟩ := Prod.mk.inj hsend
            exact ⟨events, hjournal, hunsent⟩
          · rw [hfail] at hsend
            cases hsend

/-- A dispatch ends where it made a call that is too deep: nothing was done for
that call, nothing is done after it, and no message is sent. -/
structure Call.StopsAt (config : Configuration) (i : Interceptor) (call : Call)
    (c : Cluster) (other : Call) (d : Cluster) : Prop where
  silent : (dispatch config i other).Ensures fun log _ => log = []
  ends : c.perform (dispatch config i call)
    = (.error (other.excess config i), d)
  unsent : ∃ events, d.journal = c.journal ++ events ∧
    ∀ request, .sent request ∉ events

/-- A dispatch that comes to a call that is too deep stops there. -/
private theorem Call.Reaches.stopsAt (h : call.Reaches config i c other e)
    (hdeep : config.maxDepth < other.context.depth) :
    call.StopsAt config i c other e := by
  obtain ⟨rest, hleads⟩ := h.dispatches
  have hends : c.perform (dispatch config i call)
      = (.error (other.excess config i), e) := by
    rw [perform_of_leads hleads]
    exact Cluster.perform_bind_of_error (perform_tooDeep hdeep i e) rest
  refine ⟨(ensures_tooDeep hdeep i).imp fun _ _ h => h.1, hends, ?_⟩
  cases h with
  | self => exact ⟨[], (List.append_nil _).symm, fun _ => List.not_mem_nil⟩
  | nested hmakes _ =>
      obtain ⟨_, _, _, _, _, _, hunrolls, _⟩ := hmakes.turn
      exact unsent_of_error hunrolls.isCompound hends

-- =========================================== no other way to the limit

/-- What is handled directly makes no call. -/
private theorem tame_handled (s : Statement) : s.handled.Tame := by
  cases s with
  | createTable create => exact tame_createTable create
  | createForeignTable create => exact tame_createForeignTable create
  | alterTable alter =>
      exact Program.Tame.request_ofReply (.alterTable alter) id fun _ => rfl
  | _ => trivial

/-- A local run that fails for a recursion without end made a call that
does. -/
theorem makes_of_unfolds {plan : Option Plan} {events : List Event}
    (hstarts : call.Starts config i c plan) (hunending : f.isUnending = true)
    (h : call.Unfolds config i c (.error f) events d) :
    ∃ s e, call.Makes config i c s e ∧
      e.perform (dispatch config i (call.sub s)) = (.error f, d) := by
  generalize hresult : (.error f : Except Failure Unit) = result at h
  cases h with
  | unhandled hhandler =>
      obtain rfl := Except.error.inj hresult
      rw [isUnending_of_tame (tame_handle _) hhandler.ends] at hunending
      cases hunending
  | unrolled hunrolls hturn =>
      cases hturn with
      | nothing hnone => cases hresult
      | all hall hpassed hlast => cases hresult
      | stopped hsplit hpassed hfailed =>
          obtain rfl := Except.error.inj hresult
          generalize hresult : (.error f : Except Failure Unit)
            = result at hfailed
          cases hfailed with
          | handled hdirect hperforms => cases hresult
          | failed hdirect hperforms =>
              obtain rfl := Except.error.inj hresult
              rw [isUnending_of_tame (tame_handled _) hperforms.ends]
                at hunending
              cases hunending
          | dispatched hnested hperforms =>
              subst hresult
              refine ⟨_, _, ⟨⟨plan, hstarts⟩, hnested, ?_⟩, hperforms.ends⟩
              exact ⟨_, _, _, _, _, _, hunrolls, hsplit, hpassed⟩

/-- A call fails at once for a recursion that does not end: it is too deep, or
its statement has no class. -/
inductive Call.FailsUnending (config : Configuration) (call : Call)
    (c : Cluster) : Failure → Prop
  | tooDeep (hdeep : config.maxDepth < call.context.depth) :
      call.FailsUnending config c (.recursionLimit config.maxDepth)
  | unclassified {f : Failure}
      (hlevel : (c.perform (classify call.statement)).1 = .error f) :
      call.FailsUnending config c f

/-- Classifying fails where prepared statements execute one another without
end, and only there. -/
theorem endless_of_classify {s : Statement}
    (h : (c.perform (classify s)).1 = .error f) :
    f = .endlessExecution s.tag ∧ s.level? c.session.objects = none := by
  unfold classify at h
  rw [Program.bind_eq, Cluster.perform_request_bind] at h
  simp only [answer] at h
  cases hlevel : s.level? c.session.objects with
  | some level =>
      rw [hlevel] at h
      cases h
  | none =>
      rw [hlevel] at h
      exact ⟨(Except.error.inj h).symm, rfl⟩

/-- A plan that cannot be made fails for no such reason. -/
theorem exists_starts {level : LogClass} (hpass : call.Passes config i c)
    (hlevel : (c.perform (classify call.statement)).1 = .ok level)
    (hfail : c.perform (dispatch config i call) = (.error f, d))
    (hunending : f.isUnending = true) :
    ∃ plan, call.Starts config i c plan := by
  cases hplanned : (c.perform (planCall call)).1 with
  | ok plan => exact ⟨plan, ⟨level, hlevel⟩, hpass, hplanned⟩
  | error g =>
      rw [perform_dispatch_of_passes hpass hlevel,
        perform_carriedOut_unplanned hplanned] at hfail
      obtain rfl := Except.error.inj (Prod.mk.inj hfail).1
      have hfails : c.perform (planCall call) = (.error g, c) :=
        Prod.ext hplanned (perform_planCall call c)
      rw [isUnending_of_tame (tame_planCall call) hfails] at hunending
      cases hunending

/-- What is carried out alone fails for no recursion. -/
theorem tame_carriedOut (hsimple : call.statement.isCompound = false)
    (config : Configuration) (i : Interceptor) :
    (call.carriedOut config i).Tame := by
  refine (tame_planCall call).bind fun plan => ?_
  refine (tame_propagateAt ..).bind fun _ => ?_
  exact (tame_runLocally hsimple ..).bind fun _ => tame_propagateAt ..

private theorem Failure.isUnending_of_isRefusal (h : f.isRefusal = true) :
    f.isUnending = false := by
  cases f <;> first | rfl | cases h

/-- A dispatch that fails for a recursion without end came to a call that fails
so at once, in the cluster that is left. -/
theorem reaches_of_unending
    (hfail : c.perform (dispatch config i call) = (.error f, d))
    (hunending : f.isUnending = true) :
    ∃ other, call.Reaches config i c other d ∧
      other.FailsUnending config d f := by
  induction call using dispatch_induction config generalizing c with
  | h call ih =>
      have hcame {g : Failure}
          (h : c.perform (dispatch config i call) = (.error g, c)) :
          f = g ∧ d = c := by
        rw [hfail] at h
        obtain ⟨hg, hd⟩ := Prod.mk.inj h
        exact ⟨Except.error.inj hg, hd⟩
      cases begins_dispatch config i call c with
      | intercepted hkind hperform =>
          obtain ⟨rfl, -⟩ := hcame hperform
          cases hunending
      | tooDeep hperform hdeep =>
          obtain ⟨rfl, rfl⟩ := hcame hperform
          exact ⟨call, .self, .tooDeep hdeep⟩
      | unclassified hlevel hperform =>
          obtain ⟨rfl, rfl⟩ := hcame hperform
          exact ⟨call, .self, .unclassified hlevel⟩
      | refused hgate hperform =>
          obtain ⟨rfl, -⟩ := hcame hperform
          rcases (refusable_passGate hgate).kind with hrefusal | ⟨name, rfl⟩
          · rw [Failure.isUnending_of_isRefusal hrefusal] at hunending
            cases hunending
          · cases hunending
      | passed hlevel hpass =>
          cases hcompound : call.statement.isCompound with
          | false =>
              rw [perform_dispatch_of_passes hpass hlevel] at hfail
              have htame := tame_carriedOut hcompound config i
              rw [isUnending_of_tame htame hfail] at hunending
              cases hunending
          | true =>
              obtain ⟨plan, hstarts⟩ :=
                exists_starts hpass hlevel hfail hunending
              rw [perform_dispatch_of_starts hcompound hstarts] at hfail
              obtain ⟨result, events, w, hlocal, hunfolds⟩ :=
                unfolds_runLocally config i hcompound c
              cases result with
              | ok _ =>
                  -- the message after the local run is all that is left
                  rw [Cluster.perform_bind_of_ok hlocal.ends] at hfail
                  rw [isUnending_of_tame (tame_propagateAt ..) hfail]
                    at hunending
                  cases hunending
              | error g =>
                  rw [Cluster.perform_bind_of_error hlocal.ends] at hfail
                  obtain ⟨hg, rfl⟩ := Prod.mk.inj hfail
                  obtain rfl := Except.error.inj hg
                  obtain ⟨s, e, hmakes, hnested⟩ :=
                    makes_of_unfolds hstarts hunending hunfolds
                  obtain ⟨other, hreaches, hother⟩ := ih hpass.depth s hnested
                  exact ⟨other, .nested hmakes hreaches, hother⟩

-- ====================================================== the bound

/-- A dispatch is as many levels as are allowed, and each call that is made in
it is one level deeper than the one that makes it. It stops at a call that is
too deep, and only there does it fail at the limit. -/
theorem recursion_stops_at_limit (config : Configuration) (i : Interceptor)
    (call : Call) (c : Cluster) :
    (∀ bottom n, config.maxDepth + 1 - call.context.depth < n →
      levels config i bottom n call = dispatch config i call) ∧
    (∀ parent d s e, call.Reaches config i c parent d →
      parent.Makes config i d s e →
      parent.context.depth ≤ config.maxDepth ∧
        (parent.sub s).context.depth = parent.context.depth + 1 ∧
        call.Dispatches config i c (parent.sub s) e) ∧
    (∀ other d, call.Reaches config i c other d →
      config.maxDepth < other.context.depth →
      call.StopsAt config i c other d) ∧
    ∀ limit d, c.perform (dispatch config i call)
      = (.error (.recursionLimit limit), d) →
      limit = config.maxDepth ∧
        ∃ other, call.Reaches config i c other d ∧
          config.maxDepth < other.context.depth := by
  refine ⟨fun bottom n hn => levels_eq_dispatch config i bottom hn, ?made,
    ?stops, ?limit⟩
  case made =>
    intro parent d s e hreaches hmakes
    obtain ⟨plan, hstarts⟩ := hmakes.starts
    exact ⟨hstarts.passes.depth, rfl,
      (hreaches.trans (.nested hmakes .self)).dispatches⟩
  case stops => exact fun other d hreaches hdeep => hreaches.stopsAt hdeep
  case limit =>
    intro limit d hfail
    obtain ⟨other, hreaches, hother⟩ := reaches_of_unending hfail rfl
    cases hother with
    | tooDeep hdeep => exact ⟨rfl, other, hreaches, hdeep⟩
    | unclassified hlevel =>
        obtain ⟨hendless, -⟩ := endless_of_classify hlevel
        cases hendless

/-- A table that a client creates. -/
def clientTable : Call :=
  ⟨.createTable ⟨⟨none, "t"⟩, [], [], false⟩, "CREATE TABLE t",
    .topLevel .coordinator, true, false⟩

/-- A cluster in which creating a table means to alter one, and altering a
table means to create one. -/
def cyclic : Cluster :=
  ((Cluster.fresh .standard "").setExpansion .createTable
    [.alterTable ⟨⟨none, "t"⟩, .table, []⟩]) |>.setExpansion .alterTable
      [clientTable.statement]

/-- Creating the table goes round until it is 33 levels deep. -/
theorem recursion_stops_at_limit_cyclic :
    ∃ other d, clientTable.Reaches .standard .none cyclic other d ∧
      32 < other.context.depth ∧
      clientTable.StopsAt .standard .none cyclic other d := by
  obtain ⟨-, -, hstops, hlimit⟩ :=
    recursion_stops_at_limit .standard .none clientTable cyclic
  obtain ⟨d, hfail⟩ : ∃ d,
      cyclic.perform (dispatch .standard .none clientTable)
        = (.error (.recursionLimit 32), d) := ⟨_, rfl⟩
  obtain ⟨-, other, hreaches, hdeep⟩ := hlimit 32 d hfail
  exact ⟨other, d, hreaches, hdeep, hstops other d hreaches hdeep⟩

end ClusterUtility
