/-
Command tags: what a statement is called in messages and to clients.

Some combinations of a generic command and an object type have no command of
their own. They carry `unknownTag`, and dispatch refuses them.
-/
import ClusterUtility.Statement.Basic

namespace ClusterUtility

/-- The tag of a combination that is no command. -/
def unknownTag : String := "???"

namespace ObjectType

/-- The tag of ALTER, RENAME, SET SCHEMA and OWNER TO on an object type. -/
def alterTag : ObjectType → String
  | .aggregate => "ALTER AGGREGATE"
  | .attribute => "ALTER TYPE"
  | .cast => "ALTER CAST"
  | .collation => "ALTER COLLATION"
  | .column => "ALTER TABLE"
  | .constraint => "ALTER TABLE"
  | .table => "ALTER TABLE"
  | .conversion => "ALTER CONVERSION"
  | .database => "ALTER DATABASE"
  | .domain => "ALTER DOMAIN"
  | .extension => "ALTER EXTENSION"
  | .foreignDataWrapper => "ALTER FOREIGN DATA WRAPPER"
  | .foreignServer => "ALTER SERVER"
  | .foreignTable => "ALTER FOREIGN TABLE"
  | .function => "ALTER FUNCTION"
  | .index => "ALTER INDEX"
  | .language => "ALTER LANGUAGE"
  | .largeObject => "ALTER LARGE OBJECT"
  | .operatorClass => "ALTER OPERATOR CLASS"
  | .operator => "ALTER OPERATOR"
  | .operatorFamily => "ALTER OPERATOR FAMILY"
  | .role => "ALTER ROLE"
  | .rule => "ALTER RULE"
  | .schema => "ALTER SCHEMA"
  | .sequence => "ALTER SEQUENCE"
  | .tablespace => "ALTER TABLESPACE"
  | .trigger => "ALTER TRIGGER"
  | .tsConfiguration => "ALTER TEXT SEARCH CONFIGURATION"
  | .tsDictionary => "ALTER TEXT SEARCH DICTIONARY"
  | .tsParser => "ALTER TEXT SEARCH PARSER"
  | .tsTemplate => "ALTER TEXT SEARCH TEMPLATE"
  | .type => "ALTER TYPE"
  | .view => "ALTER VIEW"

/-- The tag of a generic DROP; rules, triggers and functions are dropped by
commands of their own. -/
def dropTag : ObjectType → String
  | .table => "DROP TABLE"
  | .sequence => "DROP SEQUENCE"
  | .view => "DROP VIEW"
  | .index => "DROP INDEX"
  | .foreignTable => "DROP FOREIGN TABLE"
  | .type => "DROP TYPE"
  | .domain => "DROP DOMAIN"
  | .collation => "DROP COLLATION"
  | .conversion => "DROP CONVERSION"
  | .schema => "DROP SCHEMA"
  | .tsParser => "DROP TEXT SEARCH PARSER"
  | .tsDictionary => "DROP TEXT SEARCH DICTIONARY"
  | .tsTemplate => "DROP TEXT SEARCH TEMPLATE"
  | .tsConfiguration => "DROP TEXT SEARCH CONFIGURATION"
  | .extension => "DROP EXTENSION"
  | _ => unknownTag

/-- The tag of a generic definition, CREATE with a list of properties. -/
def defineTag : ObjectType → String
  | .aggregate => "CREATE AGGREGATE"
  | .operator => "CREATE OPERATOR"
  | .type => "CREATE TYPE"
  | .tsParser => "CREATE TEXT SEARCH PARSER"
  | .tsDictionary => "CREATE TEXT SEARCH DICTIONARY"
  | .tsTemplate => "CREATE TEXT SEARCH TEMPLATE"
  | .tsConfiguration => "CREATE TEXT SEARCH CONFIGURATION"
  | .collation => "CREATE COLLATION"
  | _ => unknownTag

/-- The tag of dropping what is called with arguments. -/
def removeFunctionTag : ObjectType → String
  | .function => "DROP FUNCTION"
  | .aggregate => "DROP AGGREGATE"
  | .operator => "DROP OPERATOR"
  | _ => unknownTag

/-- The tag of dropping what belongs to a relation. -/
def dropPropertyTag : ObjectType → String
  | .trigger => "DROP TRIGGER"
  | .rule => "DROP RULE"
  | _ => unknownTag

end ObjectType

/-- The tag of transaction control. -/
def TransactionCommand.tag : TransactionCommand → String
  | .begin _ => "BEGIN"
  | .start _ => "START TRANSACTION"
  | .commit => "COMMIT"
  | .rollback => "ROLLBACK"
  | .rollbackTo _ => "ROLLBACK"
  | .savepoint _ => "SAVEPOINT"
  | .release _ => "RELEASE"
  | .prepare _ => "PREPARE TRANSACTION"
  | .commitPrepared _ => "COMMIT PREPARED"
  | .rollbackPrepared _ => "ROLLBACK PREPARED"

/-- The tag of a query: a cursor counts before a target table, and that before
the first row mark. -/
def Query.tag (q : Query) : String :=
  match q.command with
  | .insert => "INSERT"
  | .update => "UPDATE"
  | .delete => "DELETE"
  | .select =>
      if q.cursor.isSome then "DECLARE CURSOR"
      else if q.into.isSome then "SELECT INTO"
      else
        match q.rowMarks with
        | .exclusive :: _ => "SELECT FOR UPDATE"
        | .share :: _ => "SELECT FOR SHARE"
        | [] => "SELECT"

/-- The tag of a definition. -/
def Definition.tag : Definition → String
  | .securityLabel .. => "SECURITY LABEL"
  | .createExtension _ => "CREATE EXTENSION"
  | .alterExtension _ => "ALTER EXTENSION"
  | .alterExtensionContents .. => "ALTER EXTENSION"
  | .createForeignDataWrapper _ => "CREATE FOREIGN DATA WRAPPER"
  | .alterForeignDataWrapper _ => "ALTER FOREIGN DATA WRAPPER"
  | .dropForeignDataWrapper .. => "DROP FOREIGN DATA WRAPPER"
  | .createForeignServer .. => "CREATE SERVER"
  | .alterForeignServer _ => "ALTER SERVER"
  | .dropForeignServer .. => "DROP SERVER"
  | .createUserMapping .. => "CREATE USER MAPPING"
  | .alterUserMapping .. => "ALTER USER MAPPING"
  | .dropUserMapping .. => "DROP USER MAPPING"
  | .alterDomain _ => "ALTER DOMAIN"
  | .createDomain .. => "CREATE DOMAIN"
  | .alterFunction _ => "ALTER FUNCTION"
  | .define objectType _ => objectType.defineTag
  | .compositeType _ => "CREATE TYPE"
  | .createEnum .. => "CREATE TYPE"
  | .createFunction .. => "CREATE FUNCTION"
  | .removeFunction objectType .. => objectType.removeFunctionTag
  | .grantRole isGrant .. => if isGrant then "GRANT ROLE" else "REVOKE ROLE"
  | .alterDefaultPrivileges .. => "ALTER DEFAULT PRIVILEGES"
  | .alterDatabase _ => "ALTER DATABASE"
  | .alterDatabaseSet .. => "ALTER DATABASE"
  | .createLanguage _ => "CREATE LANGUAGE"
  | .dropLanguage .. => "DROP LANGUAGE"
  | .createRole .. => "CREATE ROLE"
  | .alterRole _ => "ALTER ROLE"
  | .alterRoleSet .. => "ALTER ROLE"
  | .dropRole .. => "DROP ROLE"
  | .dropOwned _ => "DROP OWNED"
  | .reassignOwned .. => "REASSIGN OWNED"
  | .createConversion _ => "CREATE CONVERSION"
  | .createCast .. => "CREATE CAST"
  | .dropCast .. => "DROP CAST"
  | .createOperatorClass _ => "CREATE OPERATOR CLASS"
  | .createOperatorFamily _ => "CREATE OPERATOR FAMILY"
  | .alterOperatorFamily _ => "ALTER OPERATOR FAMILY"
  | .dropOperatorClass .. => "DROP OPERATOR CLASS"
  | .dropOperatorFamily .. => "DROP OPERATOR FAMILY"
  | .alterTsDictionary _ => "ALTER TEXT SEARCH DICTIONARY"
  | .alterTsConfiguration _ => "ALTER TEXT SEARCH CONFIGURATION"

/-- The tag of a GRANT or REVOKE, which also names the command in messages. -/
def Grant.tag (g : Grant) : String :=
  if g.isGrant then "GRANT" else "REVOKE"

/-- The tag of a statement. -/
def Statement.tag : Statement → String
  | .transaction command => command.tag
  | .query q => q.tag
  | .closePortal (some _) => "CLOSE CURSOR"
  | .closePortal none => "CLOSE CURSOR ALL"
  | .fetch f => if f.isMove then "MOVE" else "FETCH"
  | .createSchema .. => "CREATE SCHEMA"
  | .createTable _ => "CREATE TABLE"
  | .createForeignTable _ => "CREATE FOREIGN TABLE"
  | .alterTable a => a.relationType.alterTag
  | .drop d => d.objectType.dropTag
  | .truncate _ => "TRUNCATE TABLE"
  | .comment _ => "COMMENT"
  | .copy _ => "COPY"
  | .rename r => r.objectType.alterTag
  | .setSchema s => s.objectType.alterTag
  | .setOwner s => s.objectType.alterTag
  | .createTablespace .. => "CREATE TABLESPACE"
  | .dropTablespace .. => "DROP TABLESPACE"
  | .alterTablespaceOptions _ => "ALTER TABLESPACE"
  | .prepare .. => "PREPARE"
  | .execute .. => "EXECUTE"
  | .deallocate (some _) => "DEALLOCATE"
  | .deallocate none => "DEALLOCATE ALL"
  | .alterEnum .. => "ALTER TYPE"
  | .createView .. => "CREATE VIEW"
  | .createIndex _ => "CREATE INDEX"
  | .createRule _ => "CREATE RULE"
  | .createSequence _ => "CREATE SEQUENCE"
  | .alterSequence _ => "ALTER SEQUENCE"
  | .doBlock .. => "DO"
  | .grant g => g.tag
  | .createDatabase _ => "CREATE DATABASE"
  | .dropDatabase .. => "DROP DATABASE"
  | .notify .. => "NOTIFY"
  | .listen _ => "LISTEN"
  | .unlisten _ => "UNLISTEN"
  | .load _ => "LOAD"
  | .cluster .. => "CLUSTER"
  | .vacuum v => if v.vacuum then "VACUUM" else "ANALYZE"
  | .explain .. => "EXPLAIN"
  | .checkpoint => "CHECKPOINT"
  | .reindex _ => "REINDEX"
  | .variableSet v =>
      match v.form with
      | .value | .default | .current | .multi => "SET"
      | .reset | .resetAll => "RESET"
  | .variableShow _ => "SHOW"
  | .discard .all => "DISCARD ALL"
  | .discard .plans => "DISCARD PLANS"
  | .discard .temp => "DISCARD TEMP"
  | .constraintsSet .. => "SET CONSTRAINTS"
  | .createTrigger .. => "CREATE TRIGGER"
  | .dropProperty d => d.objectType.dropPropertyTag
  | .lock _ => "LOCK TABLE"
  | .barrier _ => "BARRIER"
  | .cleanConnection _ => "CLEAN CONNECTION"
  | .definition d => d.tag

end ClusterUtility
