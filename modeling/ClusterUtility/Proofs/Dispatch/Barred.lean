/-
Calls that the gate refuses in every world.

Most checks of the gate look at nothing but the statement, its circumstances
and the configuration; only the rule for blocks asks the session. So there are
calls for which no world matters (`Call.Barred`). Their dispatch asks for the
objects of the session, which the statement is classified by, and fails; no
cluster is changed by it.

A handler is asked to run a statement in the dispatch of that statement alone.
So a statement whose calls are all barred is run in no dispatch at all, that of
whichever statement it may be part of (`not_leads_execute_of_barred`).
-/
import ClusterUtility.Proofs.Dispatch.Work

namespace ClusterUtility

open Cluster (answer)
open Program (Asks Leads)

variable {config : Configuration} {i : Interceptor} {call : Call}
  {c d : Cluster} {f : Failure} {s : Statement}

/-- The gate refuses a call with a failure, and asks nothing before. -/
def Call.Barred (call : Call) (config : Configuration) (f : Failure) : Prop :=
  passGate config call = .fail f

-- ==================================================== what bars a call

/-- In a read-only transaction, a statement that changes something is
barred. -/
theorem barred_of_readOnly (hreadOnly : call.context.readOnly = true)
    (hmutates : call.statement.gate.mutates = true) (config : Configuration) :
    call.Barred config (.readOnly call.statement.tag) := by
  have hboth : (call.context.readOnly && call.statement.gate.mutates)
      = true := by
    rw [hreadOnly, hmutates]
    rfl
  have hcheck : checkReadOnly call.statement call.statement.tag call.context
      = .error (.readOnly call.statement.tag) :=
    if_pos hboth
  unfold Call.Barred passGate
  rw [hcheck]
  rfl

/-- Where the transaction may write, no statement is refused for it. -/
theorem checkReadOnly_of_writable {context : Context} {tag : String}
    (hwritable : context.readOnly = false) :
    checkReadOnly s tag context = .ok () := by
  unfold checkReadOnly
  rw [hwritable]
  rfl

/-- A statement that a read-only transaction does not refuse is barred if it is
not supported. -/
theorem barred_of_unsupported
    (hreadOnly : checkReadOnly call.statement call.statement.tag
      call.context = .ok ())
    (hsupported : config.checkSupported call.statement = .error f) :
    call.Barred config f := by
  unfold Call.Barred passGate
  rw [hreadOnly, hsupported]
  rfl

/-- What is not supported is barred, be it for that or for the transaction. -/
theorem exists_barred_of_unsupported
    (hsupported : config.checkSupported call.statement = .error f) :
    ∃ g, call.Barred config g := by
  cases hreadOnly : checkReadOnly call.statement call.statement.tag
      call.context with
  | ok _ => exact ⟨f, barred_of_unsupported hreadOnly hsupported⟩
  | error g =>
      refine ⟨g, ?_⟩
      unfold Call.Barred passGate
      rw [hreadOnly]
      rfl

-- ================================================ what barred calls do

namespace Call.Barred

variable (h : call.Barred config f)
include h

/-- A barred call asks for the objects of the session alone. -/
theorem asks {allowed : Request → Prop} (hobjects : allowed .sessionObjects)
    (i : Interceptor) : Asks allowed (dispatch config i call) := by
  have hprocess (nested : Statement → Program Unit) :
      Asks allowed (process config nested call) := by
    unfold process
    rw [h]
    refine Asks.bind (Asks.request_bind hobjects fun objects => ?_)
      fun level => ?_
    · split <;> trivial
    · split <;> trivial
  exact dispatch_of_process (fun _ => trivial) (fun _ _ hp => hp)
    (fun _ hp => hp) fun _ => hprocess _

/-- The gate does not let a barred call through. -/
theorem not_passes : ¬ call.Passes config i c := by
  intro hpass
  have hgate := hpass.gate
  rw [h] at hgate
  cases hgate

/-- A barred call fails and does nothing. -/
theorem perform (i : Interceptor) (c : Cluster) :
    ∃ g, c.perform (dispatch config i call) = (.error g, c) :=
  perform_dispatch_refused fun _ _ => h.not_passes

/-- It fails as the gate does, unless something else refuses it before. -/
theorem perform_eq {level : LogClass}
    (hadmits : i.admits call.statement.kind = true)
    (hdepth : call.context.depth ≤ config.maxDepth)
    (hlevel : (c.perform (classify call.statement)).1 = .ok level) :
    c.perform (dispatch config i call) = (.error f, c) := by
  cases begins_dispatch config i call c with
  | intercepted hkind hperform =>
      rw [hadmits] at hkind
      cases hkind
  | tooDeep hperform hdeep => exact absurd hdepth (Nat.not_le.mpr hdeep)
  | unclassified hunclassified hperform =>
      rw [hlevel] at hunclassified
      cases hunclassified
  | refused hgate hperform =>
      rw [h] at hgate
      rwa [← Except.error.inj hgate] at hperform
  | passed hclass hpass => exact absurd hpass h.not_passes

end Call.Barred

-- =========================================== statements that never run

/-- No handler is asked, in any dispatch, to run a statement of which every
call is barred. -/
theorem not_leads_execute_of_barred
    (hbarred : ∀ other : Call, other.statement = s →
      ∃ g, other.Barred config g)
    (i : Interceptor) (call : Call) (text : String)
    (next : (Request.execute s text).Reply → Program Unit) :
    ¬ Leads answer (dispatch config i call) c
      (.ask (.execute s text) next) d := by
  intro hleads
  obtain ⟨other, e, rest, -, ⟨hs, -⟩, hasked⟩ :=
    commissions_dispatch config i call hleads rfl
  obtain ⟨g, hother⟩ := hbarred other hs.symm
  have hasks : Asks (.sessionObjects = ·) (dispatch config i other) :=
    hother.asks rfl i
  have hobjects : Request.sessionObjects = .execute s text :=
    (hasks.leads hasked).1
  cases hobjects

end ClusterUtility
