/-
The JSON form of statements.

A statement is its kind as a name with its content under it; only CHECKPOINT
has no content. `encode` writes every field, also those that hold their
default; `decode` takes the default where a field is missing and refuses
what does not have the shape.

Statements stand inside statements, so reading descends with a bound, the
depth of the value that is read: no statement is deeper than its value.
-/
import ClusterUtility.Statement.Kind

namespace ClusterUtility

open Json (Positions FieldReader)

-- ====================================================== fields

/-- A required text. -/
def Json.textField (name : String) : FieldReader String :=
  Json.required name Json.string?

/-- A required truth value. -/
def Json.boolField (name : String) : FieldReader Bool :=
  Json.required name Json.bool?

/-- A text that may be absent. -/
def Json.optionalText (name : String) : FieldReader (Option String) :=
  Json.optional name Json.string?

/-- A required list of texts. -/
def Json.textsField (name : String) : FieldReader (List String) :=
  Json.required name (Json.list? Json.string?)

/-- A required name of an object. -/
def QualifiedName.field (name : String) : FieldReader QualifiedName :=
  Json.required name QualifiedName.decode

/-- A required list of names of objects. -/
def QualifiedName.listField (name : String) :
    FieldReader (List QualifiedName) :=
  Json.required name (Json.list? QualifiedName.decode)

/-- A required object type. -/
def ObjectType.field (name : String) : FieldReader ObjectType :=
  Json.required name ObjectType.decode

-- ================================================= transaction control

/-- The JSON form of a transaction characteristic. -/
def TransactionOption.encode : TransactionOption → Json
  | .isolation level => Json.tagWith "IsolationLevel" level.encode
  | .readOnly on => Json.tagWith "ReadOnly" (.bool on)
  | .deferrable on => Json.tagWith "Deferrable" (.bool on)

/-- Reads a transaction characteristic. -/
def TransactionOption.decode (j : Json) : Option TransactionOption :=
  match j.tagged? with
  | some ("IsolationLevel", some content) =>
      .isolation <$> IsolationLevel.decode content
  | some ("ReadOnly", some content) => .readOnly <$> content.bool?
  | some ("Deferrable", some content) => .deferrable <$> content.bool?
  | _ => none

/-- The record of the characteristics that a transaction begins with. -/
def TransactionOption.encodeAll (options : List TransactionOption) : Json :=
  .obj [("options", Json.ofList encode options)]

/-- The JSON form of a transaction command. -/
def TransactionCommand.encode : TransactionCommand → Json
  | .begin options =>
      Json.tagWith "Begin" (TransactionOption.encodeAll options)
  | .start options =>
      Json.tagWith "Start" (TransactionOption.encodeAll options)
  | .commit => .str "Commit"
  | .rollback => .str "Rollback"
  | .savepoint name => Json.tagWith "Savepoint" (.obj [("name", .str name)])
  | .release name => Json.tagWith "Release" (.obj [("name", .str name)])
  | .rollbackTo name => Json.tagWith "RollbackTo" (.obj [("name", .str name)])
  | .prepare gid => Json.tagWith "Prepare" (.obj [("gid", .str gid)])
  | .commitPrepared gid =>
      Json.tagWith "CommitPrepared" (.obj [("gid", .str gid)])
  | .rollbackPrepared gid =>
      Json.tagWith "RollbackPrepared" (.obj [("gid", .str gid)])

/-- Reads a transaction command. -/
def TransactionCommand.decode (positions : Positions) (j : Json) :
    Option TransactionCommand :=
  let options := Json.listField "options" TransactionOption.decode
  match j.tagged? with
  | some ("Begin", some content) =>
      content.variant? positions (.begin <$> options)
  | some ("Start", some content) =>
      content.variant? positions (.start <$> options)
  | some ("Savepoint", some content) =>
      content.variant? positions (.savepoint <$> Json.textField "name")
  | some ("Release", some content) =>
      content.variant? positions (.release <$> Json.textField "name")
  | some ("RollbackTo", some content) =>
      content.variant? positions (.rollbackTo <$> Json.textField "name")
  | some ("Prepare", some content) =>
      content.variant? positions (.prepare <$> Json.textField "gid")
  | some ("CommitPrepared", some content) =>
      content.variant? positions (.commitPrepared <$> Json.textField "gid")
  | some ("RollbackPrepared", some content) =>
      content.variant? positions (.rollbackPrepared <$> Json.textField "gid")
  | _ =>
      match j.bareName? with
      | some "Commit" => some .commit
      | some "Rollback" => some .rollback
      | _ => none

-- ================================================= queries and cursors

/-- The record of a cursor. -/
def Cursor.encode (c : Cursor) : Json :=
  .obj [("name", .str c.name), ("hold", .bool c.hold)]

/-- Reads a cursor. -/
def Cursor.decode : Json → Option Cursor :=
  Json.record? (Cursor.mk <$> Json.textField "name" <*> Json.flag "hold")

/-- The record of a query. -/
def Query.encode (q : Query) : Json :=
  .obj
    [("command", q.command.encode),
     ("into", Json.ofOption QualifiedName.encode q.into),
     ("row_marks", Json.ofList RowMark.encode q.rowMarks),
     ("has_modifying_cte", .bool q.hasModifyingCte),
     ("cursor", Json.ofOption Cursor.encode q.cursor)]

/-- Reads a query. -/
def Query.decode : Json → Option Query :=
  Json.record?
    (Query.mk
      <$> Json.required "command" QueryCommand.decode
      <*> Json.optional "into" QualifiedName.decode
      <*> Json.listField "row_marks" RowMark.decode
      <*> Json.flag "has_modifying_cte"
      <*> Json.optional "cursor" Cursor.decode)

/-- The record of a FETCH. -/
def Fetch.encode (f : Fetch) : Json :=
  .obj
    [("portal", .str f.portal),
     ("is_move", .bool f.isMove),
     ("count", Json.ofOption (fun n => .int n.toInt) f.count)]

/-- Reads a FETCH. -/
def Fetch.decode : Json → Option Fetch :=
  Json.record?
    (Fetch.mk
      <$> Json.textField "portal"
      <*> Json.flag "is_move"
      <*> Json.optional "count" Json.int64?)

-- ====================================================== relations

/-- The record of a column. -/
def Column.encode (c : Column) : Json :=
  .obj [("name", .str c.name), ("type_name", .str c.typeName)]

/-- Reads a column. -/
def Column.decode : Json → Option Column :=
  Json.record? (Column.mk <$> Json.textField "name" <*>
    Json.textField "type_name")

/-- The record of a CREATE TABLE. -/
def CreateTable.encode (c : CreateTable) : Json :=
  .obj
    [("relation", c.relation.encode),
     ("columns", Json.ofList Column.encode c.columns),
     ("options", Json.ofTexts c.options),
     ("if_not_exists", .bool c.ifNotExists)]

/-- Reads a CREATE TABLE. -/
def CreateTable.decode : Json → Option CreateTable :=
  Json.record?
    (CreateTable.mk
      <$> QualifiedName.field "relation"
      <*> Json.listField "columns" Column.decode
      <*> Json.listField "options" Json.string?
      <*> Json.flag "if_not_exists")

/-- The record of a CREATE FOREIGN TABLE. -/
def CreateForeignTable.encode (c : CreateForeignTable) : Json :=
  .obj [("table", c.table.encode), ("server", .str c.server)]

/-- Reads a CREATE FOREIGN TABLE. -/
def CreateForeignTable.decode : Json → Option CreateForeignTable :=
  Json.record?
    (CreateForeignTable.mk
      <$> Json.required "table" CreateTable.decode
      <*> Json.textField "server")

/-- The record of an ALTER TABLE. -/
def AlterTable.encode (a : AlterTable) : Json :=
  .obj
    [("relation", a.relation.encode),
     ("relkind", a.relationType.encode),
     ("commands", Json.ofTexts a.commands)]

/-- Reads an ALTER TABLE. -/
def AlterTable.decode : Json → Option AlterTable :=
  Json.record?
    (AlterTable.mk
      <$> QualifiedName.field "relation"
      <*> ObjectType.field "relkind"
      <*> Json.listField "commands" Json.string?)

/-- The record of a DROP. -/
def Drop.encode (d : Drop) : Json :=
  .obj
    [("object_type", d.objectType.encode),
     ("objects", Json.ofList QualifiedName.encode d.objects),
     ("missing_ok", .bool d.missingOk),
     ("cascade", .bool d.cascade)]

/-- Reads a DROP. -/
def Drop.decode : Json → Option Drop :=
  Json.record?
    (Drop.mk
      <$> ObjectType.field "object_type"
      <*> QualifiedName.listField "objects"
      <*> Json.flag "missing_ok"
      <*> Json.flag "cascade")

/-- The record of a TRUNCATE. -/
def Truncate.encode (t : Truncate) : Json :=
  .obj
    [("relations", Json.ofList QualifiedName.encode t.relations),
     ("restart_identity", .bool t.restartIdentity),
     ("cascade", .bool t.cascade)]

/-- Reads a TRUNCATE. -/
def Truncate.decode : Json → Option Truncate :=
  Json.record?
    (Truncate.mk
      <$> QualifiedName.listField "relations"
      <*> Json.flag "restart_identity"
      <*> Json.flag "cascade")

/-- The record of a COMMENT. -/
def Comment.encode (c : Comment) : Json :=
  .obj
    [("object_type", c.objectType.encode),
     ("object", c.object.encode),
     ("comment", Json.ofOption .str c.text)]

/-- Reads a COMMENT. -/
def Comment.decode : Json → Option Comment :=
  Json.record?
    (Comment.mk
      <$> ObjectType.field "object_type"
      <*> QualifiedName.field "object"
      <*> Json.optionalText "comment")

/-- The record of a COPY. -/
def Copy.encode (c : Copy) : Json :=
  .obj
    [("relation", Json.ofOption QualifiedName.encode c.relation),
     ("is_from", .bool c.isFrom),
     ("filename", Json.ofOption .str c.filename)]

/-- Reads a COPY. -/
def Copy.decode : Json → Option Copy :=
  Json.record?
    (Copy.mk
      <$> Json.optional "relation" QualifiedName.decode
      <*> Json.boolField "is_from"
      <*> Json.optionalText "filename")

/-- The record of a RENAME. -/
def Rename.encode (r : Rename) : Json :=
  .obj
    [("object_type", r.objectType.encode),
     ("object", r.object.encode),
     ("new_name", .str r.newName)]

/-- Reads a RENAME. -/
def Rename.decode : Json → Option Rename :=
  Json.record?
    (Rename.mk
      <$> ObjectType.field "object_type"
      <*> QualifiedName.field "object"
      <*> Json.textField "new_name")

/-- The record of a SET SCHEMA. -/
def SetSchema.encode (s : SetSchema) : Json :=
  .obj
    [("object_type", s.objectType.encode),
     ("object", s.object.encode),
     ("new_schema", .str s.newSchema)]

/-- Reads a SET SCHEMA. -/
def SetSchema.decode : Json → Option SetSchema :=
  Json.record?
    (SetSchema.mk
      <$> ObjectType.field "object_type"
      <*> QualifiedName.field "object"
      <*> Json.textField "new_schema")

/-- The record of an OWNER TO. -/
def SetOwner.encode (s : SetOwner) : Json :=
  .obj
    [("object_type", s.objectType.encode),
     ("object", s.object.encode),
     ("new_owner", .str s.newOwner)]

/-- Reads an OWNER TO. -/
def SetOwner.decode : Json → Option SetOwner :=
  Json.record?
    (SetOwner.mk
      <$> ObjectType.field "object_type"
      <*> QualifiedName.field "object"
      <*> Json.textField "new_owner")

/-- The record of a CREATE INDEX. -/
def CreateIndex.encode (c : CreateIndex) : Json :=
  .obj
    [("name", Json.ofOption .str c.name),
     ("relation", c.relation.encode),
     ("columns", Json.ofTexts c.columns),
     ("unique", .bool c.unique),
     ("primary", .bool c.primary),
     ("is_constraint", .bool c.isConstraint),
     ("concurrent", .bool c.concurrent)]

/-- Reads a CREATE INDEX. -/
def CreateIndex.decode : Json → Option CreateIndex :=
  Json.record?
    (CreateIndex.mk
      <$> Json.optionalText "name"
      <*> QualifiedName.field "relation"
      <*> Json.listField "columns" Json.string?
      <*> Json.flag "unique"
      <*> Json.flag "primary"
      <*> Json.flag "is_constraint"
      <*> Json.flag "concurrent")

/-- The record of a CREATE RULE. -/
def CreateRule.encode (c : CreateRule) : Json :=
  .obj
    [("name", .str c.name),
     ("relation", c.relation.encode),
     ("replace", .bool c.replace)]

/-- Reads a CREATE RULE. -/
def CreateRule.decode : Json → Option CreateRule :=
  Json.record?
    (CreateRule.mk
      <$> Json.textField "name"
      <*> QualifiedName.field "relation"
      <*> Json.flag "replace")

/-- The record of a DROP RULE or DROP TRIGGER. -/
def DropProperty.encode (d : DropProperty) : Json :=
  .obj
    [("kind", d.objectType.encode),
     ("property", .str d.property),
     ("relation", d.relation.encode),
     ("missing_ok", .bool d.missingOk)]

/-- Reads a DROP RULE or DROP TRIGGER. -/
def DropProperty.decode : Json → Option DropProperty :=
  Json.record?
    (DropProperty.mk
      <$> ObjectType.field "kind"
      <*> Json.textField "property"
      <*> QualifiedName.field "relation"
      <*> Json.flag "missing_ok")

/-- The record of a LOCK. -/
def Lock.encode (l : Lock) : Json :=
  .obj
    [("relations", Json.ofList QualifiedName.encode l.relations),
     ("mode", .str l.mode),
     ("nowait", .bool l.nowait)]

/-- Reads a LOCK. -/
def Lock.decode : Json → Option Lock :=
  Json.record?
    (Lock.mk
      <$> QualifiedName.listField "relations"
      <*> Json.textField "mode"
      <*> Json.flag "nowait")

/-- The record of a VACUUM. -/
def Vacuum.encode (v : Vacuum) : Json :=
  .obj
    [("vacuum", .bool v.vacuum),
     ("analyze", .bool v.analyze),
     ("full", .bool v.full),
     ("freeze", .bool v.freeze),
     ("relation", Json.ofOption QualifiedName.encode v.relation)]

/-- Reads a VACUUM. -/
def Vacuum.decode : Json → Option Vacuum :=
  Json.record?
    (Vacuum.mk
      <$> Json.boolField "vacuum"
      <*> Json.flag "analyze"
      <*> Json.flag "full"
      <*> Json.flag "freeze"
      <*> Json.optional "relation" QualifiedName.decode)

/-- The record of a REINDEX. -/
def Reindex.encode (r : Reindex) : Json :=
  .obj [("kind", r.objectType.encode), ("name", r.name.encode)]

/-- Reads a REINDEX. -/
def Reindex.decode : Json → Option Reindex :=
  Json.record? (Reindex.mk <$> ObjectType.field "kind" <*>
    QualifiedName.field "name")

-- ========================================== privileges, settings, pool

/-- The record of a GRANT or REVOKE. -/
def Grant.encode (g : Grant) : Json :=
  .obj
    [("is_grant", .bool g.isGrant),
     ("object_type", g.objectType.encode),
     ("target", g.target.encode),
     ("objects", Json.ofList QualifiedName.encode g.objects),
     ("privileges", Json.ofTexts g.privileges),
     ("grantees", Json.ofTexts g.grantees)]

/-- Reads a GRANT or REVOKE. -/
def Grant.decode : Json → Option Grant :=
  Json.record?
    (Grant.mk
      <$> Json.boolField "is_grant"
      <*> Json.required "object_type" GrantObject.decode
      <*> Json.required "target" GrantTarget.decode
      <*> QualifiedName.listField "objects"
      <*> Json.listField "privileges" Json.string?
      <*> Json.listField "grantees" Json.string?)

/-- The record of a SET or RESET. -/
def VariableSet.encode (v : VariableSet) : Json :=
  .obj
    [("kind", v.form.encode),
     ("name", Json.ofOption .str v.name),
     ("value", Json.ofOption .str v.value),
     ("is_local", .bool v.isLocal)]

/-- Reads a SET or RESET. -/
def VariableSet.decode : Json → Option VariableSet :=
  Json.record?
    (VariableSet.mk
      <$> Json.required "kind" SettingForm.decode
      <*> Json.optionalText "name"
      <*> Json.optionalText "value"
      <*> Json.flag "is_local")

/-- The record of a CLEAN CONNECTION. -/
def CleanConnection.encode (c : CleanConnection) : Json :=
  .obj
    [("nodes", Json.ofTexts c.nodes),
     ("database", Json.ofOption .str c.database),
     ("user", Json.ofOption .str c.user),
     ("force", .bool c.force)]

/-- Reads a CLEAN CONNECTION. -/
def CleanConnection.decode : Json → Option CleanConnection :=
  Json.record?
    (CleanConnection.mk
      <$> Json.listField "nodes" Json.string?
      <*> Json.optionalText "database"
      <*> Json.optionalText "user"
      <*> Json.flag "force")

-- ====================================================== definitions

namespace Definition

/-- The fields of a definition, under the kind it is named by. -/
def content : Definition → Json
  | .securityLabel objectType object provider label =>
      .obj
        [("object_type", objectType.encode),
         ("object", object.encode),
         ("provider", Json.ofOption .str provider),
         ("label", Json.ofOption .str label)]
  | .createExtension name => .obj [("name", .str name)]
  | .alterExtension name => .obj [("name", .str name)]
  | .alterExtensionContents name add objectType object =>
      .obj
        [("name", .str name),
         ("add", .bool add),
         ("object_type", objectType.encode),
         ("object", object.encode)]
  | .createForeignDataWrapper name => .obj [("name", .str name)]
  | .alterForeignDataWrapper name => .obj [("name", .str name)]
  | .dropForeignDataWrapper name missingOk =>
      .obj [("name", .str name), ("missing_ok", .bool missingOk)]
  | .createForeignServer name wrapper =>
      .obj [("name", .str name), ("wrapper", .str wrapper)]
  | .alterForeignServer name => .obj [("name", .str name)]
  | .dropForeignServer name missingOk =>
      .obj [("name", .str name), ("missing_ok", .bool missingOk)]
  | .createUserMapping user server =>
      .obj [("user", .str user), ("server", .str server)]
  | .alterUserMapping user server =>
      .obj [("user", .str user), ("server", .str server)]
  | .dropUserMapping user server missingOk =>
      .obj [("user", .str user), ("server", .str server),
        ("missing_ok", .bool missingOk)]
  | .alterDomain name => .obj [("name", name.encode)]
  | .createDomain name baseType =>
      .obj [("name", name.encode), ("base_type", .str baseType)]
  | .alterFunction name => .obj [("name", name.encode)]
  | .define objectType name =>
      .obj [("kind", objectType.encode), ("name", name.encode)]
  | .compositeType name => .obj [("name", name.encode)]
  | .createEnum name labels =>
      .obj [("name", name.encode), ("labels", Json.ofTexts labels)]
  | .createFunction name replace =>
      .obj [("name", name.encode), ("replace", .bool replace)]
  | .removeFunction objectType name missingOk =>
      .obj
        [("kind", objectType.encode),
         ("name", name.encode),
         ("missing_ok", .bool missingOk)]
  | .grantRole isGrant roles grantees =>
      .obj
        [("is_grant", .bool isGrant),
         ("roles", Json.ofTexts roles),
         ("grantees", Json.ofTexts grantees)]
  | .alterDefaultPrivileges roles grant =>
      .obj [("roles", Json.ofTexts roles), ("grant", grant.encode)]
  | .alterDatabase name => .obj [("name", .str name)]
  | .alterDatabaseSet name setting =>
      .obj [("name", .str name), ("setting", .str setting)]
  | .createLanguage name => .obj [("name", .str name)]
  | .dropLanguage name missingOk =>
      .obj [("name", .str name), ("missing_ok", .bool missingOk)]
  | .createRole name form => .obj [("name", .str name), ("kind", form.encode)]
  | .alterRole name => .obj [("name", .str name)]
  | .alterRoleSet name setting =>
      .obj [("name", .str name), ("setting", .str setting)]
  | .dropRole names missingOk =>
      .obj [("names", Json.ofTexts names), ("missing_ok", .bool missingOk)]
  | .dropOwned roles => .obj [("roles", Json.ofTexts roles)]
  | .reassignOwned roles newRole =>
      .obj [("roles", Json.ofTexts roles), ("new_role", .str newRole)]
  | .createConversion name => .obj [("name", name.encode)]
  | .createCast sourceType targetType =>
      .obj [("source_type", .str sourceType), ("target_type", .str targetType)]
  | .dropCast sourceType targetType missingOk =>
      .obj
        [("source_type", .str sourceType),
         ("target_type", .str targetType),
         ("missing_ok", .bool missingOk)]
  | .createOperatorClass name => .obj [("name", name.encode)]
  | .createOperatorFamily name => .obj [("name", name.encode)]
  | .alterOperatorFamily name => .obj [("name", name.encode)]
  | .dropOperatorClass name missingOk =>
      .obj [("name", name.encode), ("missing_ok", .bool missingOk)]
  | .dropOperatorFamily name missingOk =>
      .obj [("name", name.encode), ("missing_ok", .bool missingOk)]
  | .alterTsDictionary name => .obj [("name", name.encode)]
  | .alterTsConfiguration name => .obj [("name", name.encode)]

/-- Reads the fields of a definition of the given kind. -/
def decodeContent (positions : Positions) (kind : Kind) (content : Json) :
    Option Definition :=
  let fields (read : FieldReader Definition) := content.variant? positions read
  let name := Json.textField "name"
  let object := QualifiedName.field "name"
  let missingOk := Json.flag "missing_ok"
  match kind with
  | .securityLabel =>
      fields (.securityLabel
        <$> ObjectType.field "object_type"
        <*> QualifiedName.field "object"
        <*> Json.optionalText "provider"
        <*> Json.optionalText "label")
  | .createExtension => fields (.createExtension <$> name)
  | .alterExtension => fields (.alterExtension <$> name)
  | .alterExtensionContents =>
      fields (.alterExtensionContents
        <$> name
        <*> Json.boolField "add"
        <*> ObjectType.field "object_type"
        <*> QualifiedName.field "object")
  | .createForeignDataWrapper => fields (.createForeignDataWrapper <$> name)
  | .alterForeignDataWrapper => fields (.alterForeignDataWrapper <$> name)
  | .dropForeignDataWrapper =>
      fields (.dropForeignDataWrapper <$> name <*> missingOk)
  | .createForeignServer =>
      fields (.createForeignServer <$> name <*> Json.textField "wrapper")
  | .alterForeignServer => fields (.alterForeignServer <$> name)
  | .dropForeignServer => fields (.dropForeignServer <$> name <*> missingOk)
  | .createUserMapping =>
      fields (.createUserMapping <$> Json.textField "user" <*>
        Json.textField "server")
  | .alterUserMapping =>
      fields (.alterUserMapping <$> Json.textField "user" <*>
        Json.textField "server")
  | .dropUserMapping =>
      fields (.dropUserMapping
        <$> Json.textField "user" <*> Json.textField "server" <*> missingOk)
  | .alterDomain => fields (.alterDomain <$> object)
  | .createDomain =>
      fields (.createDomain <$> object <*> Json.textField "base_type")
  | .alterFunction => fields (.alterFunction <$> object)
  | .define => content.record? (.define <$> ObjectType.field "kind" <*> object)
  | .compositeType => fields (.compositeType <$> object)
  | .createEnum => fields (.createEnum <$> object <*> Json.textsField "labels")
  | .createFunction =>
      fields (.createFunction <$> object <*> Json.flag "replace")
  | .removeFunction =>
      content.record? (.removeFunction <$> ObjectType.field "kind" <*> object
        <*> missingOk)
  | .grantRole =>
      content.record?
        (.grantRole
          <$> Json.boolField "is_grant"
          <*> Json.textsField "roles"
          <*> Json.textsField "grantees")
  | .alterDefaultPrivileges =>
      fields (.alterDefaultPrivileges
        <$> Json.listField "roles" Json.string?
        <*> Json.required "grant" Grant.decode)
  | .alterDatabase => fields (.alterDatabase <$> name)
  | .alterDatabaseSet =>
      fields (.alterDatabaseSet <$> name <*> Json.textField "setting")
  | .createLanguage => fields (.createLanguage <$> name)
  | .dropLanguage => fields (.dropLanguage <$> name <*> missingOk)
  | .createRole =>
      fields (.createRole <$> name <*> Json.withDefault "kind" .role
        RoleForm.decode)
  | .alterRole => fields (.alterRole <$> name)
  | .alterRoleSet =>
      fields (.alterRoleSet <$> name <*> Json.textField "setting")
  | .dropRole => fields (.dropRole <$> Json.textsField "names" <*> missingOk)
  | .dropOwned => fields (.dropOwned <$> Json.textsField "roles")
  | .reassignOwned =>
      fields (.reassignOwned <$> Json.textsField "roles" <*>
        Json.textField "new_role")
  | .createConversion => fields (.createConversion <$> object)
  | .createCast =>
      fields (.createCast <$> Json.textField "source_type" <*> Json.textField
        "target_type")
  | .dropCast =>
      fields (.dropCast
        <$> Json.textField "source_type" <*> Json.textField "target_type"
          <*> missingOk)
  | .createOperatorClass => fields (.createOperatorClass <$> object)
  | .createOperatorFamily => fields (.createOperatorFamily <$> object)
  | .alterOperatorFamily => fields (.alterOperatorFamily <$> object)
  | .dropOperatorClass => fields (.dropOperatorClass <$> object <*> missingOk)
  | .dropOperatorFamily =>
      fields (.dropOperatorFamily <$> object <*> missingOk)
  | .alterTsDictionary => fields (.alterTsDictionary <$> object)
  | .alterTsConfiguration => fields (.alterTsConfiguration <$> object)
  | _ => none

end Definition

-- ====================================================== statements

namespace Statement

mutual

/-- The JSON form of a statement: its kind as a name with its fields under
it. -/
def encode : Statement → Json
  | .transaction command => Json.tagWith "Transaction" command.encode
  | .query q => Json.tagWith "Query" q.encode
  | .closePortal portal =>
      Json.tagWith "ClosePortal" (.obj [("portal", Json.ofOption .str portal)])
  | .fetch f => Json.tagWith "Fetch" f.encode
  | .createSchema name authorization elements =>
      Json.tagWith "CreateSchema"
        (.obj
          [("name", .str name),
           ("authorization", Json.ofOption .str authorization),
           ("elements", .arr (encodeAll elements))])
  | .createTable c => Json.tagWith "CreateTable" c.encode
  | .createForeignTable c => Json.tagWith "CreateForeignTable" c.encode
  | .alterTable a => Json.tagWith "AlterTable" a.encode
  | .drop d => Json.tagWith "Drop" d.encode
  | .truncate t => Json.tagWith "Truncate" t.encode
  | .comment c => Json.tagWith "Comment" c.encode
  | .copy c => Json.tagWith "Copy" c.encode
  | .rename r => Json.tagWith "Rename" r.encode
  | .setSchema s => Json.tagWith "AlterObjectSchema" s.encode
  | .setOwner s => Json.tagWith "AlterOwner" s.encode
  | .createTablespace name location =>
      Json.tagWith "CreateTablespace"
        (.obj [("name", .str name), ("location", .str location)])
  | .dropTablespace name missingOk =>
      Json.tagWith "DropTablespace"
        (.obj [("name", .str name), ("missing_ok", .bool missingOk)])
  | .alterTablespaceOptions name =>
      Json.tagWith "AlterTablespaceOptions" (.obj [("name", .str name)])
  | .prepare name q =>
      Json.tagWith "Prepare" (.obj [("name", .str name), ("query", q.encode)])
  | .execute name into params =>
      Json.tagWith "Execute"
        (.obj
          [("name", .str name),
           ("into", Json.ofOption QualifiedName.encode into),
           ("params", Json.ofList (fun param => param.val) params)])
  | .deallocate name =>
      Json.tagWith "Deallocate" (.obj [("name", Json.ofOption .str name)])
  | .alterEnum name newValue =>
      Json.tagWith "AlterEnum"
        (.obj [("name", name.encode), ("new_value", .str newValue)])
  | .createView name replace =>
      Json.tagWith "CreateView"
        (.obj [("name", name.encode), ("replace", .bool replace)])
  | .createIndex c => Json.tagWith "CreateIndex" c.encode
  | .createRule c => Json.tagWith "CreateRule" c.encode
  | .createSequence name =>
      Json.tagWith "CreateSequence" (.obj [("name", name.encode)])
  | .alterSequence name =>
      Json.tagWith "AlterSequence" (.obj [("name", name.encode)])
  | .doBlock code language =>
      Json.tagWith "Do"
        (.obj [("code", .str code), ("language", Json.ofOption .str language)])
  | .grant g => Json.tagWith "Grant" g.encode
  | .createDatabase name =>
      Json.tagWith "CreateDatabase" (.obj [("name", .str name)])
  | .dropDatabase name missingOk =>
      Json.tagWith "DropDatabase"
        (.obj [("name", .str name), ("missing_ok", .bool missingOk)])
  | .notify channel payload =>
      Json.tagWith "Notify"
        (.obj [("channel", .str channel),
          ("payload", Json.ofOption .str payload)])
  | .listen channel => Json.tagWith "Listen" (.obj [("channel", .str channel)])
  | .unlisten channel =>
      Json.tagWith "Unlisten" (.obj [("channel", Json.ofOption .str channel)])
  | .load filename => Json.tagWith "Load" (.obj [("filename", .str filename)])
  | .cluster relation index =>
      Json.tagWith "Cluster"
        (.obj
          [("relation", Json.ofOption QualifiedName.encode relation),
           ("index", Json.ofOption .str index)])
  | .vacuum v => Json.tagWith "Vacuum" v.encode
  | .explain analyze verbose q =>
      Json.tagWith "Explain"
        (.obj
          [("analyze", .bool analyze), ("verbose", .bool verbose),
            ("query", q.encode)])
  | .checkpoint => .str "Checkpoint"
  | .reindex r => Json.tagWith "Reindex" r.encode
  | .variableSet v => Json.tagWith "VariableSet" v.encode
  | .variableShow name =>
      Json.tagWith "VariableShow" (.obj [("name", .str name)])
  | .discard target =>
      Json.tagWith "Discard" (.obj [("target", target.encode)])
  | .constraintsSet constraints deferred =>
      Json.tagWith "ConstraintsSet"
        (.obj
          [("constraints", Json.ofList QualifiedName.encode constraints),
           ("deferred", .bool deferred)])
  | .createTrigger name relation =>
      Json.tagWith "CreateTrigger"
        (.obj [("name", .str name), ("relation", relation.encode)])
  | .dropProperty d => Json.tagWith "DropProperty" d.encode
  | .lock l => Json.tagWith "Lock" l.encode
  | .barrier id =>
      Json.tagWith "Barrier" (.obj [("id", Json.ofOption .str id)])
  | .cleanConnection c => Json.tagWith "CleanConnection" c.encode
  | .definition d => Json.tagWith d.kind.name d.content

/-- The JSON forms of statements in a row. -/
def encodeAll : List Statement → List Json
  | [] => []
  | s :: rest => s.encode :: encodeAll rest

end

/-- Reads the content of a statement of the given kind; `inner` reads a
statement that stands inside it. -/
def decodeContent (positions : Positions) (inner : Json → Option Statement)
    (kind : Kind) (content : Json) : Option Statement :=
  let fields (read : FieldReader Statement) := content.variant? positions read
  let name := Json.textField "name"
  let object := QualifiedName.field "name"
  match kind with
  | .transaction =>
      .transaction <$> TransactionCommand.decode positions content
  | .query => .query <$> Query.decode content
  | .closePortal => fields (.closePortal <$> Json.optionalText "portal")
  | .fetch => .fetch <$> Fetch.decode content
  | .createSchema =>
      content.record?
        (.createSchema
          <$> name
          <*> Json.optionalText "authorization"
          <*> Json.listField "elements" inner)
  | .createTable => .createTable <$> CreateTable.decode content
  | .createForeignTable =>
      .createForeignTable <$> CreateForeignTable.decode content
  | .alterTable => .alterTable <$> AlterTable.decode content
  | .drop => .drop <$> Drop.decode content
  | .truncate => .truncate <$> Truncate.decode content
  | .comment => .comment <$> Comment.decode content
  | .copy => .copy <$> Copy.decode content
  | .rename => .rename <$> Rename.decode content
  | .setSchema => .setSchema <$> SetSchema.decode content
  | .setOwner => .setOwner <$> SetOwner.decode content
  | .createTablespace =>
      fields (.createTablespace <$> name <*> Json.textField "location")
  | .dropTablespace =>
      fields (.dropTablespace <$> name <*> Json.flag "missing_ok")
  | .alterTablespaceOptions => fields (.alterTablespaceOptions <$> name)
  | .prepare =>
      content.record? (.prepare <$> name <*> Json.required "query" inner)
  | .execute =>
      content.record?
        (.execute
          <$> name
          <*> Json.optional "into" QualifiedName.decode
          <*> Json.listField "params" Json.whole?)
  | .deallocate => fields (.deallocate <$> Json.optionalText "name")
  | .alterEnum => fields (.alterEnum <$> object <*> Json.textField "new_value")
  | .createView =>
      content.record? (.createView <$> object <*> Json.flag "replace")
  | .createIndex => .createIndex <$> CreateIndex.decode content
  | .createRule => .createRule <$> CreateRule.decode content
  | .createSequence => fields (.createSequence <$> object)
  | .alterSequence => fields (.alterSequence <$> object)
  | .doBlock =>
      fields (.doBlock <$> Json.textField "code" <*>
        Json.optionalText "language")
  | .grant => .grant <$> Grant.decode content
  | .createDatabase => fields (.createDatabase <$> name)
  | .dropDatabase => fields (.dropDatabase <$> name <*> Json.flag "missing_ok")
  | .notify =>
      fields (.notify <$> Json.textField "channel" <*>
        Json.optionalText "payload")
  | .listen => fields (.listen <$> Json.textField "channel")
  | .unlisten => fields (.unlisten <$> Json.optionalText "channel")
  | .load => fields (.load <$> Json.textField "filename")
  | .cluster =>
      fields (.cluster
        <$> Json.optional "relation" QualifiedName.decode
        <*> Json.optionalText "index")
  | .vacuum => .vacuum <$> Vacuum.decode content
  | .explain =>
      content.record?
        (.explain
          <$> Json.flag "analyze"
          <*> Json.flag "verbose"
          <*> Json.required "query" inner)
  | .reindex => .reindex <$> Reindex.decode content
  | .variableSet => .variableSet <$> VariableSet.decode content
  | .variableShow => fields (.variableShow <$> name)
  | .discard =>
      fields (.discard <$> Json.required "target" DiscardTarget.decode)
  | .constraintsSet =>
      fields (.constraintsSet
        <$> Json.listField "constraints" QualifiedName.decode
        <*> Json.boolField "deferred")
  | .createTrigger =>
      fields (.createTrigger <$> name <*> QualifiedName.field "relation")
  | .dropProperty => .dropProperty <$> DropProperty.decode content
  | .lock => .lock <$> Lock.decode content
  | .barrier => fields (.barrier <$> Json.optionalText "id")
  | .cleanConnection => .cleanConnection <$> CleanConnection.decode content
  | kind => .definition <$> Definition.decodeContent positions kind content

/-- Reads a statement inside which others stand at most a given number deep. -/
def decodeWithin (positions : Positions) : Nat → Json → Option Statement
  | 0, j => if j.bareName? = some "Checkpoint" then some .checkpoint else none
  | depth + 1, j =>
      if j.bareName? = some "Checkpoint" then some .checkpoint
      else
        match j.tagged? with
        | some (name, some content) => do
            let kind ← Kind.ofName? name
            decodeContent positions (decodeWithin positions depth) kind content
        | _ => none

/-- Reads a statement. -/
def decode (positions : Positions) (j : Json) : Option Statement :=
  decodeWithin positions j.depth j

end Statement

end ClusterUtility
