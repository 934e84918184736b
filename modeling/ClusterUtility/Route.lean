/-
Routes: where else a statement has to run, and which statements the cluster
refuses to run at all.

Definitions are kept on every node, so they go everywhere. Views and
sequences live on coordinators only, and maintenance of stored rows makes
sense on datanodes only. Transaction control, session state and planned
queries have ways of their own and stay local.

# Destinations

A statement that names a table may in truth name a view or a sequence. So a
route does not always say a group of nodes; it may say of which relations the
catalog has to be asked first. `Route.lean` decides what is asked, without a
catalog; `Plan.lean` asks.
-/
import ClusterUtility.Configuration
import ClusterUtility.RelationKind
import ClusterUtility.Statement.Tag

namespace ClusterUtility

-- ====================================================== routes

/-- When a statement goes out, compared with its local run. -/
inductive Timing where
  | beforeLocal
  | afterLocal
deriving DecidableEq, Repr

namespace Timing

/-- The name of the timing. -/
def name : Timing → String
  | .beforeLocal => "BeforeLocal"
  | .afterLocal => "AfterLocal"

end Timing

/-- The nodes that a statement is for. -/
inductive Destination where
  /-- A group that the statement alone decides. -/
  | group (g : NodeGroup)
  /-- The group of a relation. -/
  | ofRelation (name : QualifiedName)
  /-- The one group of all named relations; the command is named where they
  have no group in common. -/
  | ofRelations (command : String) (names : List QualifiedName)
deriving DecidableEq, Repr

/-- Where a statement goes, and how. -/
structure Route where
  destination : Destination
  /-- The statement runs outside the transaction on the other nodes. -/
  autocommit : Bool
  timing : Timing
deriving DecidableEq, Repr

/-- After the local run, in the transaction. -/
def Destination.after (d : Destination) : Route := ⟨d, false, .afterLocal⟩

/-- To a group after the local run, in the transaction. -/
def Route.to (g : NodeGroup) : Route := (Destination.group g).after

/-- The group of an object of a type that the statement alone decides. -/
def ObjectType.group : ObjectType → NodeGroup
  | .sequence => .coordinators
  | .view => .coordinators
  | _ => .all

/-- The group of a relation of a kind. -/
def RelationKind.group (k : RelationKind) : NodeGroup :=
  if k.isOnCoordinatorsOnly then .coordinators else .all

/-- Where a statement about one named object goes: what is called a table is
looked up. -/
def Destination.ofObject (objectType : ObjectType) (name : QualifiedName) :
    Destination :=
  match objectType with
  | .table => .ofRelation name
  | other => .group other.group

/-- Where a GRANT or REVOKE goes. -/
def Grant.destination (g : Grant) : Destination :=
  match g.objectType, g.target with
  | .sequence, _ => .group .coordinators
  | .relation, .object => .ofRelations g.tag g.objects
  | _, _ => .group .all

/-- The route of a statement; none where it stays local. -/
def Statement.route? : Statement → Option Route
  | .transaction _ => none
  | .query _ => none
  | .closePortal _ => none
  | .fetch _ => none
  | .copy _ => none
  | .prepare .. => none
  | .execute .. => none
  | .deallocate _ => none
  | .doBlock .. => none
  | .notify .. => none
  | .listen _ => none
  | .unlisten _ => none
  | .explain .. => none
  | .variableSet _ => none
  | .variableShow _ => none
  | .discard _ => none
  | .constraintsSet .. => none
  | .barrier _ => none
  | .createSchema .. => some (.to .all)
  | .createTable _ => some (.to .all)
  | .createForeignTable _ => some (.to .all)
  | .alterTable a =>
      some (Destination.ofObject a.relationType a.relation).after
  | .drop d => some (.to d.objectType.group)
  | .truncate t => some (Destination.ofRelations "TRUNCATE" t.relations).after
  | .comment c => some (Destination.ofObject c.objectType c.object).after
  | .rename r => some (Destination.ofObject r.objectType r.object).after
  | .setSchema s => some (Destination.ofObject s.objectType s.object).after
  | .setOwner s => some (Destination.ofObject s.objectType s.object).after
  | .createTablespace .. => some (.to .all)
  | .dropTablespace .. => some (.to .all)
  | .alterTablespaceOptions _ => some (.to .all)
  | .alterEnum .. => some (.to .all)
  | .createView .. => some (.to .coordinators)
  | .createIndex i =>
      -- the index of a constraint is built along with its table elsewhere, too
      if i.isConstraint then none
      else some { Route.to .all with autocommit := i.concurrent }
  | .createRule r => some (Destination.ofRelation r.relation).after
  | .createSequence _ => some (.to .coordinators)
  | .alterSequence _ => some (.to .coordinators)
  | .grant g => some g.destination.after
  | .createDatabase _ => some { Route.to .all with autocommit := true }
  | .dropDatabase .. => some { Route.to .all with autocommit := true }
  | .load _ => some (.to .datanodes)
  | .cluster .. => some { Route.to .datanodes with autocommit := true }
  | .vacuum _ => some ⟨.group .datanodes, true, .beforeLocal⟩
  | .checkpoint => some { Route.to .datanodes with autocommit := true }
  | .reindex r =>
      some { Route.to .all with
          autocommit := decide (r.objectType = .database) }
  | .createTrigger .. => some (.to .all)
  | .dropProperty d =>
      match d.objectType with
      | .rule => some (Destination.ofRelation d.relation).after
      | _ => some (.to .all)
  | .lock _ => some (.to .all)
  | .cleanConnection _ =>
      some { Route.to .coordinators with autocommit := true }
  | .definition _ => some (.to .all)

-- ==================================================== refused features

/-- The feature that a statement is part of, with the name that a refusal
gives it. -/
def Statement.feature? : Statement → Option (Feature × String)
  | .transaction (.savepoint _) => some (.savepoints, "SAVEPOINT")
  | .prepare .. => some (.preparedStatements, "PREPARE")
  | .execute .. => some (.preparedStatements, "EXECUTE")
  | .createIndex i =>
      if i.concurrent then some (.concurrentIndex, "CREATE INDEX CONCURRENTLY")
      else none
  | .createTrigger .. => some (.triggers, "TRIGGER")
  | .dropProperty d =>
      if d.objectType = .trigger then some (.triggers, "TRIGGER") else none
  | .createTablespace .. => some (.tablespaces, "TABLESPACE")
  | .dropTablespace .. => some (.tablespaces, "TABLESPACE")
  | .alterTablespaceOptions _ => some (.tablespaces, "TABLESPACE")
  | _ => none

/-- Whether no configuration lets a statement run: rules cannot be commented
on alike on every node. -/
def Statement.isNeverSupported : Statement → Bool
  | .comment c => decide (c.objectType = .rule)
  | _ => false

/-- Refuses a statement that the cluster would not run alike on every node. -/
def Configuration.checkSupported (c : Configuration) (s : Statement) :
    Except Failure Unit :=
  if s.isNeverSupported then .error (.unsupported "COMMENT on RULE")
  else
    match s.feature? with
    | none => .ok ()
    | some (feature, name) =>
        if c.unsupported feature then .error (.unsupported name) else .ok ()

end ClusterUtility
