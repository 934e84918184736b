/-
With what the gate refuses a statement.

Seven failures are the gate's own (`Failure.isRefusal`). Two of them say
something about who asked: a read-only transaction refuses in every statement
of an expansion, since the circumstances are handed down; and only a statement
at the top level is refused for want of a block (`Call.Refusable`).
-/
import ClusterUtility.Proofs.Dispatch.Command

namespace ClusterUtility

open Program (ofReply)

-- =================================================== kinds of failures

namespace Failure

/-- The failures by which the gate refuses a statement. -/
def isRefusal : Failure → Bool
  | .readOnly _ => true
  | .recovery _ => true
  | .restricted _ => true
  | .blockRequired _ => true
  | .blockForbidden _ => true
  | .unsupported _ => true
  | .insufficientPrivilege _ => true
  | _ => false

/-- The failures of a statement that could not be carried out, here or on
another node. -/
def isFault : Failure → Bool
  | .handler _ => true
  | .propagation _ => true
  | _ => false

/-- The other failures: those of this layer itself. -/
def isOwn (f : Failure) : Bool := !f.isRefusal && !f.isFault

variable {f : Failure}

/-- What is of this layer itself is no refusal. -/
theorem isRefusal_of_isOwn (h : f.isOwn = true) : f.isRefusal = false := by
  cases f <;> first | rfl | cases h

theorem isFault_of_isOwn (h : f.isOwn = true) : f.isFault = false := by
  cases f <;> first | rfl | cases h

/-- No refusal is a fault. -/
theorem isFault_of_isRefusal (h : f.isRefusal = true) : f.isFault = false := by
  cases f <;> first | rfl | cases h

end Failure

-- =================================== the circumstances of an expansion

/-- The circumstances of a statement in an expansion, at any depth. -/
def Context.IsWithin (inner outer : Context) : Prop :=
  ∃ levels, inner = { outer with
      isTopLevel := false, depth := outer.depth + levels + 1 }

/-- The statements of an expansion are one level deeper. -/
theorem Context.isWithin_forSubstatement (c : Context) :
    c.forSubstatement.IsWithin c :=
  ⟨0, rfl⟩

/-- What is inside an expansion is inside what the expansion is inside of. -/
theorem Context.IsWithin.deeper {inner outer : Context}
    (h : inner.IsWithin outer.forSubstatement) : inner.IsWithin outer := by
  obtain ⟨levels, rfl⟩ := h
  refine ⟨levels + 1, ?_⟩
  simp only [forSubstatement, Nat.add_assoc, Nat.add_comm 1]

-- ====================================================== the checks

/-- A guard refuses with its own failure, where its condition holds. -/
theorem eq_of_guard {p : Prop} [Decidable p] {f g : Failure}
    (h : (if p then .error g else .ok () : Except Failure Unit) = .error f) :
    p ∧ f = g := by
  split at h
  next hp => exact ⟨hp, (Except.error.inj h).symm⟩
  next => cases h

namespace GateProfile

variable {p : GateProfile} {context : Context} {inBlock : Bool} {f : Failure}

/-- During recovery, a command is refused by its name. -/
private theorem checkRecovery_eq_error
    (h : p.checkRecovery context = .error f) :
    ∃ command, f = .recovery command := by
  unfold checkRecovery at h
  split at h
  next command _ => exact ⟨command, (eq_of_guard h).2⟩
  next => cases h

/-- So it is in a restricted operation. -/
private theorem checkRestricted_eq_error
    (h : p.checkRestricted context = .error f) :
    ∃ command, f = .restricted command := by
  unfold checkRestricted at h
  split at h
  next command _ => exact ⟨command, (eq_of_guard h).2⟩
  next => cases h

/-- Only at the top level is a statement refused for want of a block. -/
theorem checkBlock_eq_error (h : p.checkBlock context inBlock = .error f) :
    (∃ command, f = .blockRequired command ∧ context.isTopLevel = true) ∨
      ∃ command, f = .blockForbidden command := by
  unfold checkBlock at h
  split at h
  next => cases h
  next command _ =>
    obtain ⟨hout, rfl⟩ := eq_of_guard h
    exact .inl ⟨command, rfl, (Bool.and_eq_true_iff.mp hout).2⟩
  next command _ => exact .inr ⟨command, (eq_of_guard h).2⟩
  next command _ => exact .inr ⟨command, (eq_of_guard h).2⟩

/-- So it is for a user who may not. -/
private theorem checkSuperuser_eq_error
    (h : p.checkSuperuser context = .error f) :
    ∃ command, f = .insufficientPrivilege command := by
  unfold checkSuperuser at h
  split at h
  next command _ => exact ⟨command, (eq_of_guard h).2⟩
  next => cases h

end GateProfile

/-- The gate may fail so for a call. -/
structure Call.Refusable (call : Call) (f : Failure) : Prop where
  kind : f.isRefusal = true ∨ ∃ name, f = .unknownStatement name
  readOnly : ∀ command, f = .readOnly command → call.context.readOnly = true
  required : ∀ command, f = .blockRequired command →
    call.context.isTopLevel = true

variable {config : Configuration} {call : Call} {c d : Cluster} {f : Failure}

/-- A read-only transaction refuses where the context says so. -/
private theorem refusable_checkReadOnly {tag : String}
    (h : checkReadOnly call.statement tag call.context = .error f) :
    call.Refusable f := by
  obtain ⟨hboth, rfl⟩ := eq_of_guard h
  exact ⟨.inl rfl, fun _ _ => (Bool.and_eq_true_iff.mp hboth).1, nofun⟩

/-- What is not supported is refused in every context. -/
private theorem refusable_checkSupported
    (h : config.checkSupported call.statement = .error f) :
    call.Refusable f := by
  obtain ⟨feature, rfl⟩ : ∃ feature, f = .unsupported feature := by
    unfold Configuration.checkSupported at h
    split at h
    · exact ⟨_, (Except.error.inj h).symm⟩
    · split at h
      · cases h
      · exact ⟨_, (eq_of_guard h).2⟩
  exact ⟨.inl rfl, nofun, nofun⟩

/-- A context does not suit a statement since some check finds so. -/
theorem checkContext_eq_error {s : Statement} {context : Context}
    {inBlock : Bool} (h : checkContext s context inBlock = .error f) :
    s.gate.checkRecovery context = .error f ∨
      s.gate.checkRestricted context = .error f ∨
      s.gate.checkBlock context inBlock = .error f ∨
      s.gate.checkSuperuser context = .error f := by
  have hchain : (do
      s.gate.checkRecovery context
      s.gate.checkRestricted context
      s.gate.checkBlock context inBlock
      s.gate.checkSuperuser context : Except Failure Unit) = .error f := h
  cases hrecovery : s.gate.checkRecovery context with
  | error g =>
      rw [hrecovery] at hchain
      exact .inl hchain
  | ok _ =>
      cases hrestricted : s.gate.checkRestricted context with
      | error g =>
          rw [hrecovery, hrestricted] at hchain
          exact .inr (.inl hchain)
      | ok _ =>
          cases hblock : s.gate.checkBlock context inBlock with
          | error g =>
              rw [hrecovery, hrestricted, hblock] at hchain
              exact .inr (.inr (.inl hchain))
          | ok _ =>
              rw [hrecovery, hrestricted, hblock] at hchain
              exact .inr (.inr (.inr hchain))

/-- A context that does not suit refuses by one of its checks. -/
private theorem refusable_checkContext {inBlock : Bool}
    (h : checkContext call.statement call.context inBlock = .error f) :
    call.Refusable f := by
  rcases checkContext_eq_error h with
    hrecovery | hrestricted | hblock | hsuperuser
  · obtain ⟨command, rfl⟩ := GateProfile.checkRecovery_eq_error hrecovery
    exact ⟨.inl rfl, nofun, nofun⟩
  · obtain ⟨command, rfl⟩ := GateProfile.checkRestricted_eq_error hrestricted
    exact ⟨.inl rfl, nofun, nofun⟩
  · rcases GateProfile.checkBlock_eq_error hblock with
      ⟨command, rfl, htop⟩ | ⟨command, rfl⟩
    · exact ⟨.inl rfl, nofun, fun _ _ => htop⟩
    · exact ⟨.inl rfl, nofun, nofun⟩
  · obtain ⟨command, rfl⟩ := GateProfile.checkSuperuser_eq_error hsuperuser
    exact ⟨.inl rfl, nofun, nofun⟩

/-- What the gate may fail with. -/
theorem refusable_passGate
    (hgate : (c.perform (passGate config call)).1 = .error f) :
    call.Refusable f := by
  unfold passGate at hgate
  cases hreadOnly : checkReadOnly call.statement call.statement.tag
    call.context with
  | error g =>
      rw [hreadOnly] at hgate
      obtain rfl := Except.error.inj hgate
      exact refusable_checkReadOnly hreadOnly
  | ok _ =>
      cases hsupported : config.checkSupported call.statement with
      | error g =>
          rw [hreadOnly, hsupported] at hgate
          obtain rfl := Except.error.inj hgate
          exact refusable_checkSupported hsupported
      | ok _ =>
          rw [hreadOnly, hsupported] at hgate
          change
            (c.perform (Program.bind
              (ofReply (checkContext _ _ c.session.inBlock)) _)).1 = _ at hgate
          cases hcontext : checkContext call.statement call.context
            c.session.inBlock with
          | error g =>
              rw [hcontext] at hgate
              obtain rfl := Except.error.inj hgate
              exact refusable_checkContext hcontext
          | ok _ =>
              rw [hcontext] at hgate
              change (c.perform
                (if call.statement.tag = unknownTag then _ else _)).1 = _
                at hgate
              split at hgate
              · obtain rfl := Except.error.inj hgate
                exact ⟨.inr ⟨_, rfl⟩, nofun, nofun⟩
              · cases hgate

/-- The gate does not fail for a fault. -/
theorem Call.Refusable.isFault (h : call.Refusable f) : f.isFault = false := by
  rcases h.kind with hrefusal | ⟨name, rfl⟩
  · exact Failure.isFault_of_isRefusal hrefusal
  · rfl

end ClusterUtility
