/-
What a refusal of the gate leaves behind.

A statement that the gate refuses does nothing. But the gate stands before
each statement of an expansion anew, and by the time such a statement comes to
it, its parent has run its handler, and so have the statements before it. A
refusal there ends the dispatch where it stands, and all of this remains. So a
dispatch that ends with a refusal has done nothing only if it was refused
itself (`refusal_keeps_what_came_before`).

Two of the refusals are never late. A compound statement changes something
itself, so a read-only transaction refuses it at once; and no statement of an
expansion is refused for want of a block.
-/
import ClusterUtility.Proofs.Dispatch.Explained
import ClusterUtility.Proofs.Dispatch.Nested

namespace ClusterUtility

variable {config : Configuration} {i : Interceptor} {call other : Call}
  {c d : Cluster} {f : Failure}

/-- A compound statement changes something. -/
private theorem Statement.mutates_of_isCompound {s : Statement}
    (h : s.isCompound = true) : s.gate.mutates = true := by
  cases s <;> first | rfl | cases h

/-- What the gate lets through does not change anything in a read-only
transaction. -/
theorem Call.Passes.readOnly (h : call.Passes config i c)
    (hmutates : call.statement.gate.mutates = true) :
    call.context.readOnly = false := by
  cases hreadOnly : call.context.readOnly with
  | false => rfl
  | true =>
      have hboth : (call.context.readOnly && call.statement.gate.mutates)
          = true := by
        rw [hreadOnly, hmutates]
        rfl
      have hrefused : checkReadOnly call.statement call.statement.tag
          call.context = .error (.readOnly call.statement.tag) :=
        if_pos hboth
      have hgate := h.gate
      unfold passGate at hgate
      rw [hrefused] at hgate
      cases hgate

/-- A statement of an expansion is not refused for a read-only transaction,
since its parent was let through, and not for want of a block. -/
theorem Call.Contains.not_readOnly (h : call.Contains other)
    (hpass : call.Passes config i c)
    (hrefused : (d.perform (passGate config other)).1 = .error f) :
    (∀ command, f ≠ .readOnly command) ∧
      ∀ command, f ≠ .blockRequired command := by
  obtain ⟨hcompound, levels, hcontext⟩ := h
  have hrefusable := refusable_passGate hrefused
  have hwritable : call.context.readOnly = false :=
    hpass.readOnly (Statement.mutates_of_isCompound hcompound)
  refine ⟨fun command hf => ?_, fun command hf => ?_⟩
  · have hreadOnly := hrefusable.readOnly command hf
    rw [hcontext] at hreadOnly
    have hcontra : call.context.readOnly = true := hreadOnly
    rw [hwritable] at hcontra
    cases hcontra
  · have htop := hrefusable.required command hf
    rw [hcontext] at htop
    cases htop

/-- A dispatch that ends with a refusal of the gate was refused itself, and
then nothing was done; or it was let through, and a statement that it expands
to was refused, and then all that was done until that moment remains. -/
theorem refusal_keeps_what_came_before (config : Configuration)
    (i : Interceptor) (call : Call)
    (hfail : c.perform (dispatch config i call) = (.error f, d))
    (hrefusal : f.isRefusal = true) :
    (d = c ∧ (c.perform (passGate config call)).1 = .error f) ∨
      (call.Passes config i c ∧ call.statement.isCompound = true ∧
        (∀ command, f ≠ .readOnly command) ∧
        (∀ command, f ≠ .blockRequired command) ∧
        ∃ other, other.context.IsWithin call.context ∧
          call.Dispatches config i c other d ∧
          (d.perform (passGate config other)).1 = .error f) := by
  have hnot {g : Failure} (hg : g.isRefusal = false) (heq : f = g) :
      False := by
    rw [← heq, hrefusal] at hg
    cases hg
  cases fails_dispatch config i hfail with
  | intercepted hkind hfailure hkept => exact (hnot rfl hfailure).elim
  | refused hgate hkept => exact .inl ⟨hkept, hgate⟩
  | own hown => exact (hnot (Failure.isRefusal_of_isOwn hown) rfl).elim
  | within hpass hcause =>
      cases hcause with
      | @gate other next hinner hmoment hrefused =>
          obtain ⟨hreadOnly, hrequired⟩ := hinner.not_readOnly hpass hrefused
          exact .inr ⟨hpass, hinner.1, hreadOnly, hrequired, other, hinner.2,
            ⟨next, hmoment⟩, hrefused⟩
      | intercepted hinner hmoment hkind hfailure =>
          exact (hnot rfl hfailure).elim
      | spared hmoment hreply hkept hspared => exact (hnot hspared rfl).elim
      | marked hfailed hmarked => exact (hnot hmarked rfl).elim
      | own hown => exact (hnot (Failure.isRefusal_of_isOwn hown) rfl).elim

/-- A schema with a database among its elements. -/
def schemaWithDatabase : Call :=
  ⟨.createSchema "s" none [.createDatabase "db"], "CREATE SCHEMA s",
    .topLevel .coordinator, true, false⟩

/-- CREATE DATABASE is refused after the handler of CREATE SCHEMA ran. -/
theorem refusal_keeps_what_came_before_schemaWithDatabase :
    ∃ d, (Cluster.fresh .standard "").perform
          (dispatch .standard .none schemaWithDatabase)
        = (.error (.blockForbidden "CREATE DATABASE"), d) ∧
      d.journal = [.handler .createSchema, .commandAdvanced] ∧
      ∃ other, schemaWithDatabase.Dispatches .standard .none
        (.fresh .standard "") other d ∧
        (d.perform (passGate .standard other)).1
          = .error (.blockForbidden "CREATE DATABASE") := by
  have hrefusal : (Failure.blockForbidden "CREATE DATABASE").isRefusal
      = true := rfl
  obtain ⟨d, hfail, hjournal⟩ :
      ∃ d, (Cluster.fresh .standard "").perform
            (dispatch .standard .none schemaWithDatabase)
          = (.error (.blockForbidden "CREATE DATABASE"), d) ∧
        d.journal = [.handler .createSchema, .commandAdvanced] := ⟨_, rfl, rfl⟩
  refine ⟨d, hfail, hjournal, ?_⟩
  rcases refusal_keeps_what_came_before .standard .none schemaWithDatabase
      hfail hrefusal with
    ⟨hkept, _⟩ | ⟨_, _, _, _, other, _, hdispatches, hrefused⟩
  · rw [hkept] at hjournal
    cases hjournal
  · exact ⟨other, hdispatches, hrefused⟩

end ClusterUtility
