/-
The command handlers of a cluster in memory.

A handler does nothing but note that it ran, and keep the catalog and the
session objects as the statement leaves them.
-/
import ClusterUtility.Cluster.Basic

namespace ClusterUtility

-- ===================================================== session objects

namespace SessionObjects

/-- Whether a statement returns rows when it is executed under the name that
it is prepared as. -/
def selects : Statement → Bool
  | .query q => decide (q.command = .select)
  | _ => false

/-- The session objects after a statement ran. -/
def after (o : SessionObjects) : Statement → SessionObjects
  | .prepare name query =>
      { o with prepared := o.prepared.insert name ⟨query, selects query⟩ }
  | .deallocate (some name) => { o with prepared := o.prepared.erase name }
  | .deallocate none => { o with prepared := ∅ }
  | .query q =>
      match q.cursor with
      | some cursor => { o with portals := o.portals.insert cursor.name true }
      | none => o
  | .closePortal (some portal) => { o with portals := o.portals.erase portal }
  | .closePortal none => { o with portals := ∅ }
  | _ => o

end SessionObjects

namespace Cluster

-- ====================================================== the catalog

/-- The catalog after a statement ran. An index is entered by its bare name;
objects are dropped whatever their kind is. -/
def relationsAfter (relations : Directory String RelationKind) :
    Statement → Directory String RelationKind
  | .createView name _ => relations.insert name.text .view
  | .createSequence name => relations.insert name.text .sequence
  | .createIndex i =>
      match i.name with
      | some name => relations.insert name .index
      | none => relations
  | .drop d => d.objects.foldl (fun r object => r.erase object.text) relations
  | .rename r =>
      match relations.get? r.object.text with
      | some kind =>
          (relations.erase r.object.text).insert
            (QualifiedName.mk r.object.schema r.newName).text kind
      | none => relations
  | _ => relations

-- ====================================================== handlers

/-- The failure that is set for the handler of a kind. It leaves an open
block failed. -/
def handlerFault? (c : Cluster) (kind : Kind) : Option Failure :=
  (c.faults.handlers.get? kind).map .handler

/-- The rows that a statement shows. -/
def shownRows : Statement → List (List Json)
  | .variableShow name => [[.str ("<" ++ name ++ ">")]]
  | .explain _ _ query => [[.str ("Utility plan for " ++ query.kind.name)]]
  | _ => []

/-- The number of rows that a statement counts: what is set for its kind, else
what FETCH asks for, and none for COPY. -/
def countedRows (c : Cluster) (s : Statement) : Option Nat :=
  match s, c.rowCounts.get? s.kind with
  | _, some rows => some rows
  | .fetch f, none => some ((f.count.map Int64.toInt).getD 0).toNat
  | .copy _, none => some 0
  | _, none => none

/-- The catalog was changed. -/
def markCatalog (c : Cluster) : Cluster :=
  c.mapSession LocalSession.afterCatalogChange

/-- Runs the handler of a statement. -/
def execute (c : Cluster) (s : Statement) : Except Failure Handled × Cluster :=
  match c.handlerFault? s.kind with
  | some failure => (.error failure, c.mapSession LocalSession.afterError)
  | none =>
      let noted := c.record (.handler s.kind)
      let marked := if s.levelAlone = .ddl then noted.markCatalog else noted
      let kept := marked.mapSession fun session =>
        { session with objects := session.objects.after s }
      (.ok ⟨shownRows s, c.countedRows s⟩,
       { kept with relations := relationsAfter c.relations s })

/-- The statements that implement a statement. -/
def expand (c : Cluster) (s : Statement) : List Statement :=
  (c.expansions.get? s.kind).getD [s]

/-- The failure of creating a relation whose name is taken. -/
def nameTaken (name : String) : Failure :=
  .handler ("relation " ++ Failure.quoted name ++ " already exists")

/-- Enters a new relation into the catalog. -/
def defineRelation (c : Cluster) (create : CreateTable) (kind : RelationKind) :
    Except Failure RelationNumber × Cluster :=
  let name := create.relation.text
  if c.relations.contains name && !create.ifNotExists then
    (.error (nameTaken name), c)
  else
    let noted := c.record (.relationDefined name kind)
    let entered := { noted with relations := noted.relations.insert name kind }
    (.ok ⟨c.nextRelation⟩, { entered.markCatalog with
        nextRelation := c.nextRelation + 1 })

/-- Applies the catalog changes of ALTER TABLE. -/
def alterTable (c : Cluster) (alter : AlterTable) :
    Except Failure Unit × Cluster :=
  match c.handlerFault? .alterTable with
  | some failure => (.error failure, c.mapSession LocalSession.afterError)
  | none =>
      (.ok (), (c.record (.tableAltered alter.relation.text)).markCatalog)

end Cluster

end ClusterUtility
