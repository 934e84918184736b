/-
Utility statements: everything that a session can ask for except running a
planned query.

A statement arrives parsed. Two of its forms hold other statements: PREPARE
and EXPLAIN hold the statement they are about, CREATE SCHEMA holds the
elements that are created with the schema.

# Definitions

Many commands only record, change or remove an entry of a catalog. Every
rule of the library treats those alike, their command tag apart, so they
form a type of their own, `Definition`, which is one form of `Statement`.
A definition with a rule of its own, such as CREATE VIEW, whose object lives
on coordinators only, is a form of `Statement` instead.
-/
import ClusterUtility.Statement.Name
import ClusterUtility.Statement.Vocabulary

namespace ClusterUtility

/-- The identifier of a global transaction. -/
abbrev Gid := String

-- ================================================= transaction control

/-- A characteristic given when a transaction begins. -/
inductive TransactionOption where
  | isolation (level : IsolationLevel)
  | readOnly (on : Bool)
  | deferrable (on : Bool)
deriving DecidableEq, Repr

/-- Transaction control. -/
inductive TransactionCommand where
  | begin (options : List TransactionOption)
  | start (options : List TransactionOption)
  | commit
  | rollback
  | savepoint (name : String)
  | release (name : String)
  | rollbackTo (name : String)
  | prepare (gid : Gid)
  | commitPrepared (gid : Gid)
  | rollbackPrepared (gid : Gid)
deriving DecidableEq, Repr

-- ================================================= queries and cursors

/-- The cursor that a query is declared for. -/
structure Cursor where
  name : String
  hold : Bool
deriving DecidableEq, Repr

/-- A planned query; only the declaration of a cursor is a utility
statement. -/
structure Query where
  command : QueryCommand
  into : Option QualifiedName
  /-- The row marks in plan order: the first one gives the command its tag. -/
  rowMarks : List RowMark
  hasModifyingCte : Bool
  cursor : Option Cursor
deriving DecidableEq, Repr

/-- FETCH from a cursor, or MOVE in it. -/
structure Fetch where
  portal : String
  isMove : Bool
  count : Option Int64
deriving DecidableEq

-- ====================================================== relations

/-- A column of a table. -/
structure Column where
  name : String
  typeName : String
deriving DecidableEq, Repr

/-- CREATE TABLE. -/
structure CreateTable where
  relation : QualifiedName
  columns : List Column
  options : List String
  ifNotExists : Bool
deriving DecidableEq, Repr

/-- CREATE FOREIGN TABLE. -/
structure CreateForeignTable where
  table : CreateTable
  server : String
deriving DecidableEq, Repr

/-- ALTER TABLE, with the kind of relation as it was written. -/
structure AlterTable where
  relation : QualifiedName
  relationType : ObjectType
  commands : List String
deriving DecidableEq, Repr

/-- DROP of objects of one type. -/
structure Drop where
  objectType : ObjectType
  objects : List QualifiedName
  missingOk : Bool
  cascade : Bool
deriving DecidableEq, Repr

/-- TRUNCATE. -/
structure Truncate where
  relations : List QualifiedName
  restartIdentity : Bool
  cascade : Bool
deriving DecidableEq, Repr

/-- COMMENT ON an object; no text removes the comment. -/
structure Comment where
  objectType : ObjectType
  object : QualifiedName
  text : Option String
deriving DecidableEq, Repr

/-- COPY to or from a relation. -/
structure Copy where
  relation : Option QualifiedName
  isFrom : Bool
  filename : Option String
deriving DecidableEq, Repr

/-- ALTER … RENAME TO. -/
structure Rename where
  objectType : ObjectType
  object : QualifiedName
  newName : String
deriving DecidableEq, Repr

/-- ALTER … SET SCHEMA. -/
structure SetSchema where
  objectType : ObjectType
  object : QualifiedName
  newSchema : String
deriving DecidableEq, Repr

/-- ALTER … OWNER TO. -/
structure SetOwner where
  objectType : ObjectType
  object : QualifiedName
  newOwner : String
deriving DecidableEq, Repr

/-- CREATE INDEX. -/
structure CreateIndex where
  name : Option String
  relation : QualifiedName
  columns : List String
  unique : Bool
  primary : Bool
  /-- The index is built for a constraint of its table. -/
  isConstraint : Bool
  concurrent : Bool
deriving DecidableEq, Repr

/-- CREATE RULE. -/
structure CreateRule where
  name : String
  relation : QualifiedName
  replace : Bool
deriving DecidableEq, Repr

/-- DROP RULE and DROP TRIGGER, which name the relation they belong to. -/
structure DropProperty where
  objectType : ObjectType
  property : String
  relation : QualifiedName
  missingOk : Bool
deriving DecidableEq, Repr

/-- LOCK TABLE. -/
structure Lock where
  relations : List QualifiedName
  mode : String
  nowait : Bool
deriving DecidableEq, Repr

/-- VACUUM, or ANALYZE alone. -/
structure Vacuum where
  vacuum : Bool
  analyze : Bool
  full : Bool
  freeze : Bool
  relation : Option QualifiedName
deriving DecidableEq, Repr

/-- REINDEX of an index, a table or a database. -/
structure Reindex where
  objectType : ObjectType
  name : QualifiedName
deriving DecidableEq, Repr

-- ========================================== privileges, settings, pool

/-- GRANT and REVOKE of privileges. -/
structure Grant where
  isGrant : Bool
  objectType : GrantObject
  target : GrantTarget
  objects : List QualifiedName
  privileges : List String
  grantees : List String
deriving DecidableEq, Repr

/-- SET and RESET. -/
structure VariableSet where
  form : SettingForm
  name : Option String
  value : Option String
  /-- The setting ends with the transaction. -/
  isLocal : Bool
deriving DecidableEq, Repr

/-- CLEAN CONNECTION: drops pooled connections. No nodes means every node. -/
structure CleanConnection where
  nodes : List String
  database : Option String
  user : Option String
  force : Bool
deriving DecidableEq, Repr

/-- Drops the pooled connections to one database, on every node. -/
def CleanConnection.forDatabase (database : String) : CleanConnection :=
  ⟨[], some database, none, false⟩

-- ====================================================== definitions

/-- A command that only records, changes or removes an entry of a catalog. -/
inductive Definition where
  | securityLabel (objectType : ObjectType) (object : QualifiedName)
      (provider label : Option String)
  | createExtension (name : String)
  | alterExtension (name : String)
  | alterExtensionContents (name : String) (add : Bool)
      (objectType : ObjectType) (object : QualifiedName)
  | createForeignDataWrapper (name : String)
  | alterForeignDataWrapper (name : String)
  | dropForeignDataWrapper (name : String) (missingOk : Bool)
  | createForeignServer (name wrapper : String)
  | alterForeignServer (name : String)
  | dropForeignServer (name : String) (missingOk : Bool)
  | createUserMapping (user server : String)
  | alterUserMapping (user server : String)
  | dropUserMapping (user server : String) (missingOk : Bool)
  | alterDomain (name : QualifiedName)
  | createDomain (name : QualifiedName) (baseType : String)
  | alterFunction (name : QualifiedName)
  | define (objectType : ObjectType) (name : QualifiedName)
  | compositeType (name : QualifiedName)
  | createEnum (name : QualifiedName) (labels : List String)
  | createFunction (name : QualifiedName) (replace : Bool)
  | removeFunction (objectType : ObjectType) (name : QualifiedName)
      (missingOk : Bool)
  | grantRole (isGrant : Bool) (roles grantees : List String)
  | alterDefaultPrivileges (roles : List String) (grant : Grant)
  | alterDatabase (name : String)
  | alterDatabaseSet (name setting : String)
  | createLanguage (name : String)
  | dropLanguage (name : String) (missingOk : Bool)
  | createRole (name : String) (form : RoleForm)
  | alterRole (name : String)
  | alterRoleSet (name setting : String)
  | dropRole (names : List String) (missingOk : Bool)
  | dropOwned (roles : List String)
  | reassignOwned (roles : List String) (newRole : String)
  | createConversion (name : QualifiedName)
  | createCast (sourceType targetType : String)
  | dropCast (sourceType targetType : String) (missingOk : Bool)
  | createOperatorClass (name : QualifiedName)
  | createOperatorFamily (name : QualifiedName)
  | alterOperatorFamily (name : QualifiedName)
  | dropOperatorClass (name : QualifiedName) (missingOk : Bool)
  | dropOperatorFamily (name : QualifiedName) (missingOk : Bool)
  | alterTsDictionary (name : QualifiedName)
  | alterTsConfiguration (name : QualifiedName)
deriving DecidableEq, Repr

-- ====================================================== statements

/-- A utility statement. -/
inductive Statement where
  | transaction (command : TransactionCommand)
  | query (query : Query)
  | closePortal (portal : Option String)
  | fetch (fetch : Fetch)
  | createSchema (name : String) (authorization : Option String)
      (elements : List Statement)
  | createTable (create : CreateTable)
  | createForeignTable (create : CreateForeignTable)
  | alterTable (alter : AlterTable)
  | drop (drop : Drop)
  | truncate (truncate : Truncate)
  | comment (comment : Comment)
  | copy (copy : Copy)
  | rename (rename : Rename)
  | setSchema (change : SetSchema)
  | setOwner (change : SetOwner)
  | createTablespace (name location : String)
  | dropTablespace (name : String) (missingOk : Bool)
  | alterTablespaceOptions (name : String)
  | prepare (name : String) (query : Statement)
  | execute (name : String) (into : Option QualifiedName)
      (params : List Json.Whole)
  | deallocate (name : Option String)
  | alterEnum (name : QualifiedName) (newValue : String)
  | createView (name : QualifiedName) (replace : Bool)
  | createIndex (create : CreateIndex)
  | createRule (create : CreateRule)
  | createSequence (name : QualifiedName)
  | alterSequence (name : QualifiedName)
  | doBlock (code : String) (language : Option String)
  | grant (grant : Grant)
  | createDatabase (name : String)
  | dropDatabase (name : String) (missingOk : Bool)
  | notify (channel : String) (payload : Option String)
  | listen (channel : String)
  | unlisten (channel : Option String)
  | load (filename : String)
  | cluster (relation : Option QualifiedName) (index : Option String)
  | vacuum (vacuum : Vacuum)
  | explain (analyze verbose : Bool) (query : Statement)
  | checkpoint
  | reindex (reindex : Reindex)
  | variableSet (set : VariableSet)
  | variableShow (name : String)
  | discard (target : DiscardTarget)
  | constraintsSet (constraints : List QualifiedName) (deferred : Bool)
  | createTrigger (name : String) (relation : QualifiedName)
  | dropProperty (drop : DropProperty)
  | lock (lock : Lock)
  | barrier (id : Option String)
  | cleanConnection (clean : CleanConnection)
  | definition (definition : Definition)
deriving Inhabited

end ClusterUtility
