/-
The gate: what has to hold before a statement runs.

Each statement has a profile, and the profile decides every check. The checks
come before anything else happens, so a statement that the gate refuses
leaves no trace.
-/
import ClusterUtility.Context
import ClusterUtility.Failure
import ClusterUtility.Statement.Tag

namespace ClusterUtility

-- ====================================================== profiles

/-- How a statement stands to transaction blocks. Each rule carries the
command that a refusal names. -/
inductive BlockRule where
  | unrestricted
  /-- Only inside a block; an expansion runs inside its caller's. -/
  | required (command : String)
  /-- Neither inside a block nor in an expansion. -/
  | forbidden (command : String)
  /-- Not in an expansion. -/
  | topLevelOnly (command : String)
deriving DecidableEq, Repr

/-- What the gate asks of a statement. -/
structure GateProfile where
  /-- Refused in a read-only transaction. -/
  mutates : Bool
  /-- The command that is refused during recovery. -/
  inRecovery : Option String
  /-- The command that is refused in a security-restricted operation. -/
  whenRestricted : Option String
  block : BlockRule
  /-- The command that only a superuser may run. -/
  superuser : Option String
deriving DecidableEq, Repr

namespace GateProfile

/-- Nothing is asked. -/
def unrestricted : GateProfile := ⟨false, none, none, .unrestricted, none⟩

/-- The statement changes something and needs a transaction that may write. -/
def mutating : GateProfile := { unrestricted with mutates := true }

/-- The statement is refused during recovery. -/
def recovery (command : String) : GateProfile :=
  { unrestricted with inRecovery := some command }

/-- The statement is refused in a security-restricted operation. -/
def restricted (command : String) : GateProfile :=
  { unrestricted with whenRestricted := some command }

/-- The profile with another rule for blocks. -/
def withBlock (p : GateProfile) (rule : BlockRule) : GateProfile :=
  { p with block := rule }

end GateProfile

/-- The profile of transaction control. -/
def TransactionCommand.gate : TransactionCommand → GateProfile
  | .begin _ => .unrestricted
  | .start _ => .unrestricted
  | .commit => .unrestricted
  | .rollback => .unrestricted
  | .savepoint _ => GateProfile.unrestricted.withBlock (.required "SAVEPOINT")
  | .release _ =>
      GateProfile.unrestricted.withBlock (.required "RELEASE SAVEPOINT")
  | .rollbackTo _ =>
      GateProfile.unrestricted.withBlock (.required "ROLLBACK TO SAVEPOINT")
  | .prepare _ =>
      (GateProfile.recovery "PREPARE TRANSACTION").withBlock
        (.topLevelOnly "PREPARE TRANSACTION")
  | .commitPrepared _ =>
      (GateProfile.recovery "COMMIT PREPARED").withBlock
        (.forbidden "COMMIT PREPARED")
  | .rollbackPrepared _ =>
      (GateProfile.recovery "ROLLBACK PREPARED").withBlock
        (.forbidden "ROLLBACK PREPARED")

/-- The profile of a statement. CLUSTER, VACUUM and REINDEX may run in a
read-only transaction, since they change no content; a checkpoint may even be
asked for during recovery. -/
def Statement.gate : Statement → GateProfile
  | .transaction command => command.gate
  | .query _ => .unrestricted
  | .closePortal _ => .restricted "CLOSE"
  | .fetch _ => .unrestricted
  | .createSchema .. => .mutating
  | .createTable _ => .mutating
  | .createForeignTable _ => .mutating
  | .alterTable _ => .mutating
  | .drop _ => .mutating
  | .truncate _ => .mutating
  | .comment _ => .mutating
  | .copy _ => .unrestricted
  | .rename _ => .mutating
  | .setSchema _ => .mutating
  | .setOwner _ => .mutating
  | .createTablespace .. =>
      GateProfile.mutating.withBlock (.forbidden "CREATE TABLESPACE")
  | .dropTablespace .. =>
      GateProfile.mutating.withBlock (.forbidden "DROP TABLESPACE")
  | .alterTablespaceOptions _ => .mutating
  | .prepare .. => .restricted "PREPARE"
  | .execute .. => .unrestricted
  | .deallocate _ => .restricted "DEALLOCATE"
  | .alterEnum .. =>
      GateProfile.mutating.withBlock (.forbidden "ALTER TYPE ... ADD")
  | .createView .. => .mutating
  | .createIndex i =>
      if i.concurrent then
        GateProfile.mutating.withBlock (.forbidden "CREATE INDEX CONCURRENTLY")
      else .mutating
  | .createRule _ => .mutating
  | .createSequence _ => .mutating
  | .alterSequence _ => .mutating
  | .doBlock .. => .unrestricted
  | .grant _ => .mutating
  | .createDatabase _ =>
      GateProfile.mutating.withBlock (.forbidden "CREATE DATABASE")
  | .dropDatabase .. =>
      GateProfile.mutating.withBlock (.forbidden "DROP DATABASE")
  | .notify .. => .recovery "NOTIFY"
  | .listen _ =>
      { GateProfile.recovery "LISTEN" with whenRestricted := some "LISTEN" }
  | .unlisten _ =>
      { GateProfile.recovery "UNLISTEN" with
          whenRestricted := some "UNLISTEN" }
  | .load _ => .unrestricted
  | .cluster .. => .recovery "CLUSTER"
  | .vacuum _ => .recovery "VACUUM"
  | .explain .. => .unrestricted
  | .checkpoint =>
      { GateProfile.unrestricted with superuser := some "CHECKPOINT" }
  | .reindex r =>
      if r.objectType = .database then
        (GateProfile.recovery "REINDEX").withBlock
          (.forbidden "REINDEX DATABASE")
      else .recovery "REINDEX"
  | .variableSet _ => .unrestricted
  | .variableShow _ => .unrestricted
  | .discard _ => .restricted "DISCARD"
  | .constraintsSet .. => .unrestricted
  | .createTrigger .. => .mutating
  | .dropProperty _ => .mutating
  | .lock _ => GateProfile.unrestricted.withBlock (.required "LOCK TABLE")
  | .barrier _ => .unrestricted
  | .cleanConnection _ => .unrestricted
  | .definition _ => .mutating

-- ====================================================== checks

/-- Refuses a statement that changes something in a read-only transaction;
the refusal names the given tag. -/
def checkReadOnly (s : Statement) (tag : String) (c : Context) :
    Except Failure Unit :=
  if c.readOnly && s.gate.mutates then .error (.readOnly tag) else .ok ()

namespace GateProfile

/-- Refuses what must not run during recovery. -/
def checkRecovery (p : GateProfile) (c : Context) : Except Failure Unit :=
  match p.inRecovery with
  | some command => if c.inRecovery then .error (.recovery command) else .ok ()
  | none => .ok ()

/-- Refuses what must not run in a security-restricted operation. -/
def checkRestricted (p : GateProfile) (c : Context) : Except Failure Unit :=
  match p.whenRestricted with
  | some command =>
      if c.isRestricted then .error (.restricted command) else .ok ()
  | none => .ok ()

/-- Refuses what does not go with the transaction block, or with the lack of
one. -/
def checkBlock (p : GateProfile) (c : Context) (inBlock : Bool) :
    Except Failure Unit :=
  match p.block with
  | .unrestricted => .ok ()
  | .required command =>
      if !inBlock && c.isTopLevel then .error (.blockRequired command)
      else .ok ()
  | .forbidden command =>
      if inBlock || !c.isTopLevel then .error (.blockForbidden command)
      else .ok ()
  | .topLevelOnly command =>
      if !c.isTopLevel then .error (.blockForbidden command) else .ok ()

/-- Refuses what only a superuser may run. -/
def checkSuperuser (p : GateProfile) (c : Context) : Except Failure Unit :=
  match p.superuser with
  | some command =>
      if !c.superuser then .error (.insufficientPrivilege command) else .ok ()
  | none => .ok ()

end GateProfile

/-- Checks a statement against its circumstances: recovery, restriction,
transaction block and privilege, in this order. -/
def checkContext (s : Statement) (c : Context) (inBlock : Bool) :
    Except Failure Unit := do
  s.gate.checkRecovery c
  s.gate.checkRestricted c
  s.gate.checkBlock c inBlock
  s.gate.checkSuperuser c

end ClusterUtility
