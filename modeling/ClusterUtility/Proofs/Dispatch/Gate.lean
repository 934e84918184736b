/-
What the gate asks of the commands about prepared transactions.

A check of the context is four checks, and it passes when all four do
(`checkContext_eq_ok`). The commands that name a prepared transaction are let
through at the top level only, so no expansion can issue one; and a client
that has no block open and is not in recovery is always let through.
-/
import ClusterUtility.Configuration
import ClusterUtility.Gate

namespace ClusterUtility

/-- The global transaction that a command names. -/
def TransactionCommand.gid? : TransactionCommand → Option Gid
  | .prepare gid => some gid
  | .commitPrepared gid => some gid
  | .rollbackPrepared gid => some gid
  | _ => none

/-- COMMIT PREPARED or ROLLBACK PREPARED. -/
def TransactionCommand.finish (gid : Gid) (commit : Bool) :
    TransactionCommand :=
  if commit then .commitPrepared gid else .rollbackPrepared gid

/-- A context suits a statement when each check finds so. -/
theorem checkContext_eq_ok {s : Statement} {c : Context} {inBlock : Bool} :
    checkContext s c inBlock = .ok () ↔
      s.gate.checkRecovery c = .ok () ∧ s.gate.checkRestricted c = .ok () ∧
        s.gate.checkBlock c inBlock = .ok () ∧
        s.gate.checkSuperuser c = .ok () := by
  show (do
    s.gate.checkRecovery c
    s.gate.checkRestricted c
    s.gate.checkBlock c inBlock
    s.gate.checkSuperuser c : Except Failure Unit) = _ ↔ _
  cases s.gate.checkRecovery c with
  | error failure => simp [bind, Except.bind]
  | ok _ =>
      cases s.gate.checkRestricted c with
      | error failure => simp [bind, Except.bind]
      | ok _ =>
          cases s.gate.checkBlock c inBlock with
          | error failure => simp [bind, Except.bind]
          | ok _ => simp [bind, Except.bind]

/-- A command that names a prepared transaction is let through at the top
level only. -/
theorem isTopLevel_of_checkContext {command : TransactionCommand} {c : Context}
    {inBlock : Bool} (hgid : command.gid?.isSome = true)
    (hcheck : checkContext (.transaction command) c inBlock = .ok ()) :
    c.isTopLevel = true := by
  have hblock := (checkContext_eq_ok.mp hcheck).2.2.1
  by_cases htop : c.isTopLevel = true
  · exact htop
  · exfalso
    cases command with
    | prepare gid =>
        have hrefused : (Statement.transaction (.prepare gid)).gate.checkBlock
            c inBlock = .error (.blockForbidden "PREPARE TRANSACTION") :=
          if_pos (by simp [htop])
        rw [hrefused] at hblock
        cases hblock
    | commitPrepared gid =>
        have hrefused :
            (Statement.transaction (.commitPrepared gid)).gate.checkBlock
              c inBlock = .error (.blockForbidden "COMMIT PREPARED") :=
          if_pos (by simp [htop])
        rw [hrefused] at hblock
        cases hblock
    | rollbackPrepared gid =>
        have hrefused :
            (Statement.transaction (.rollbackPrepared gid)).gate.checkBlock
              c inBlock = .error (.blockForbidden "ROLLBACK PREPARED") :=
          if_pos (by simp [htop])
        rw [hrefused] at hblock
        cases hblock
    | _ => cases hgid

/-- Outside of a block, and but for recovery, a finish from the top level is
let through. -/
theorem checkContext_finish {c : Context} (htop : c.isTopLevel = true)
    (hrecovery : c.inRecovery = false) (gid : Gid) (commit : Bool) :
    checkContext (.transaction (.finish gid commit)) c false = .ok () := by
  refine checkContext_eq_ok.mpr ⟨?_, ?_, ?_, ?_⟩
  · cases commit <;> exact if_neg (by simp [hrecovery])
  · cases commit <;> rfl
  · cases commit <;> exact if_neg (by simp [htop])
  · cases commit <;> rfl

end ClusterUtility
