/-
The parts of statements are read back as they were written: the words of the
vocabularies, the records that a statement is made of, transaction commands,
and definitions.

A record is read back field by field, in the order in which its reader takes
the fields. For each field there is the member that gives it, and the fact
that what is written there is read back.
-/
import ClusterUtility.Proofs.Json.Fields
import ClusterUtility.Statement.Encoding

namespace ClusterUtility

open Json

-- ====================================================== vocabularies

/-- The word for a type of object is read back, as are those of the
vocabularies below. -/
private theorem ObjectType.decode_encode (v : ObjectType) :
    decode v.encode = some v := by
  cases v <;> decide

private theorem QueryCommand.decode_encode (v : QueryCommand) :
    decode v.encode = some v := by
  cases v <;> decide

private theorem RowMark.decode_encode (v : RowMark) :
    decode v.encode = some v := by
  cases v <;> decide

private theorem GrantObject.decode_encode (v : GrantObject) :
    decode v.encode = some v := by
  cases v <;> decide

private theorem GrantTarget.decode_encode (v : GrantTarget) :
    decode v.encode = some v := by
  cases v <;> decide

private theorem SettingForm.decode_encode (v : SettingForm) :
    decode v.encode = some v := by
  cases v <;> decide

theorem DiscardTarget.decode_encode (v : DiscardTarget) :
    decode v.encode = some v := by
  cases v <;> decide

private theorem RoleForm.decode_encode (v : RoleForm) :
    decode v.encode = some v := by
  cases v <;> decide

private theorem IsolationLevel.decode_encode (v : IsolationLevel) :
    decode v.encode = some v := by
  cases v <;> decide

-- ====================================================== names

/-- A name is read back. Its schema may be missing, and is null then. -/
private theorem QualifiedName.decode_encode (q : QualifiedName) :
    decode q.encode = some q := by
  obtain ⟨schema, name⟩ := q
  have hschema : Takes (optional "schema" string?)
      [("schema", ofOption .str schema), ("name", .str name)] schema :=
    takes_optional rfl (fun _ => rfl) nofun
  have hname : Takes (required "name" string?)
      [("schema", ofOption .str schema), ("name", .str name)] name :=
    takes_required rfl rfl
  exact record?_obj (hschema.bind (hname.bind (.pure _ _)))

/-- A list of names is read back in its order. -/
theorem QualifiedName.decode_encodeAll (names : List QualifiedName) :
    list? decode (ofList encode names) = some names :=
  list?_ofList fun q _ => q.decode_encode

section Fields

variable {members : List (String × Json)} {name : String}

/-- A text that must be there is taken as it was written. -/
theorem takes_text {text : String} (h : Gives members name (.str text)) :
    Takes (textField name) members text :=
  takes_required h rfl

theorem takes_bool {b : Bool} (h : Gives members name (.bool b)) :
    Takes (boolField name) members b :=
  takes_required h rfl

/-- A truth value that may be left out is taken as it was written, for it is
always written. -/
theorem takes_flag {b : Bool} (h : Gives members name (.bool b)) :
    Takes (flag name) members b :=
  takes_withDefault h rfl

/-- A text that may be missing is taken as it was written, null for none. -/
theorem takes_optionalText {text : Option String}
    (h : Gives members name (ofOption .str text)) :
    Takes (optionalText name) members text :=
  takes_optional h (fun _ => rfl) nofun

/-- A list of texts that must be there is taken as it was written. -/
theorem takes_texts {texts : List String}
    (h : Gives members name (ofTexts texts)) :
    Takes (textsField name) members texts :=
  takes_required h (list?_ofTexts texts)

/-- A list of texts that may be left out is taken as it was written, also where
it is empty. -/
private theorem takes_listOfTexts {texts : List String}
    (h : Gives members name (ofTexts texts)) :
    Takes (listField name string?) members texts :=
  takes_withDefault h (list?_ofTexts texts)

theorem takes_name {q : QualifiedName} (h : Gives members name q.encode) :
    Takes (QualifiedName.field name) members q :=
  takes_required h q.decode_encode

private theorem takes_names {names : List QualifiedName}
    (h : Gives members name (ofList QualifiedName.encode names)) :
    Takes (QualifiedName.listField name) members names :=
  takes_required h (QualifiedName.decode_encodeAll names)

theorem takes_optionalName {q : Option QualifiedName}
    (h : Gives members name (ofOption QualifiedName.encode q)) :
    Takes (optional name QualifiedName.decode) members q :=
  takes_optional h QualifiedName.decode_encode nofun

private theorem takes_objectType {v : ObjectType}
    (h : Gives members name v.encode) :
    Takes (ObjectType.field name) members v :=
  takes_required h v.decode_encode

end Fields

-- ================================================= transaction control

/-- An option of a transaction is read back under its name. -/
private theorem TransactionOption.decode_encode (o : TransactionOption) :
    decode o.encode = some o := by
  cases o with
  | isolation level =>
      show isolation <$> IsolationLevel.decode level.encode = _
      rw [level.decode_encode]
      rfl
  | readOnly on => rfl
  | deferrable on => rfl

/-- A transaction command is read back under its name, alone or with its one
field. -/
theorem TransactionCommand.decode_encode (positions : Positions)
    (c : TransactionCommand) : decode positions c.encode = some c := by
  have hoptions (options : List TransactionOption) :
      list? TransactionOption.decode (ofList TransactionOption.encode options)
        = some options :=
    list?_ofList fun o _ => o.decode_encode
  cases c with
  | begin options =>
      exact variant?_obj positions
        (.map begin (takes_withDefault rfl (hoptions options)))
  | start options =>
      exact variant?_obj positions
        (.map start (takes_withDefault rfl (hoptions options)))
  | commit => rfl
  | rollback => rfl
  | savepoint name =>
      exact variant?_obj positions (.map savepoint (takes_text rfl))
  | release name =>
      exact variant?_obj positions (.map release (takes_text rfl))
  | rollbackTo name =>
      exact variant?_obj positions (.map rollbackTo (takes_text rfl))
  | prepare gid => exact variant?_obj positions (.map prepare (takes_text rfl))
  | commitPrepared gid =>
      exact variant?_obj positions (.map commitPrepared (takes_text rfl))
  | rollbackPrepared gid =>
      exact variant?_obj positions (.map rollbackPrepared (takes_text rfl))

-- ================================================= queries and cursors

/-- The cursor that a query declares is read back. -/
private theorem Cursor.decode_encode (c : Cursor) :
    decode c.encode = some c := by
  obtain ⟨name, hold⟩ := c
  exact record?_obj (.seq (.map Cursor.mk (takes_text rfl)) (takes_flag rfl))

/-- A query is read back with its target, its locks and its cursor. -/
theorem Query.decode_encode (q : Query) : decode q.encode = some q := by
  obtain ⟨command, into, rowMarks, hasModifyingCte, cursor⟩ := q
  refine record?_obj (.seq (.seq (.seq (.seq (.map Query.mk ?_) ?_) ?_) ?_) ?_)
  · exact takes_required rfl command.decode_encode
  · exact takes_optionalName rfl
  · exact takes_withDefault rfl (list?_ofList fun mark _ => mark.decode_encode)
  · exact takes_flag rfl
  · exact takes_optional rfl Cursor.decode_encode nofun

/-- A FETCH is read back. Its count may be any whole number of 64 bits. -/
theorem Fetch.decode_encode (f : Fetch) : decode f.encode = some f := by
  obtain ⟨portal, isMove, count⟩ := f
  refine record?_obj (.seq (.seq (.map Fetch.mk ?_) ?_) ?_)
  · exact takes_text rfl
  · exact takes_flag rfl
  · exact takes_optional rfl int64?_toInt nofun

-- ====================================================== relations

private theorem Column.decode_encode (c : Column) :
    decode c.encode = some c := by
  obtain ⟨name, typeName⟩ := c
  exact record?_obj (.seq (.map Column.mk (takes_text rfl)) (takes_text rfl))

/-- A CREATE TABLE is read back with its columns. -/
theorem CreateTable.decode_encode (c : CreateTable) :
    decode c.encode = some c := by
  obtain ⟨relation, columns, options, ifNotExists⟩ := c
  refine record?_obj (.seq (.seq (.seq (.map CreateTable.mk ?_) ?_) ?_) ?_)
  · exact takes_name rfl
  · exact takes_withDefault rfl (list?_ofList fun column _ =>
      column.decode_encode)
  · exact takes_listOfTexts rfl
  · exact takes_flag rfl

/-- A CREATE FOREIGN TABLE is read back. It holds a whole CREATE TABLE. -/
theorem CreateForeignTable.decode_encode (c : CreateForeignTable) :
    decode c.encode = some c := by
  obtain ⟨table, server⟩ := c
  exact record?_obj
    (.seq (.map CreateForeignTable.mk (takes_required rfl table.decode_encode))
      (takes_text rfl))

/-- An ALTER TABLE is read back with the texts of its commands. -/
theorem AlterTable.decode_encode (a : AlterTable) :
    decode a.encode = some a := by
  obtain ⟨relation, relationType, commands⟩ := a
  refine record?_obj (.seq (.seq (.map AlterTable.mk ?_) ?_) ?_)
  · exact takes_name rfl
  · exact takes_objectType rfl
  · exact takes_listOfTexts rfl

/-- A DROP is read back with the names it drops. -/
theorem Drop.decode_encode (d : Drop) : decode d.encode = some d := by
  obtain ⟨objectType, objects, missingOk, cascade⟩ := d
  refine record?_obj (.seq (.seq (.seq (.map Drop.mk ?_) ?_) ?_) ?_)
  · exact takes_objectType rfl
  · exact takes_names rfl
  · exact takes_flag rfl
  · exact takes_flag rfl

/-- A TRUNCATE is read back with the relations it empties. -/
theorem Truncate.decode_encode (t : Truncate) : decode t.encode = some t := by
  obtain ⟨relations, restartIdentity, cascade⟩ := t
  refine record?_obj (.seq (.seq (.map Truncate.mk ?_) ?_) ?_)
  · exact takes_names rfl
  · exact takes_flag rfl
  · exact takes_flag rfl

/-- A COMMENT is read back. It has no text where it takes one away. -/
theorem Comment.decode_encode (c : Comment) : decode c.encode = some c := by
  obtain ⟨objectType, object, text⟩ := c
  refine record?_obj (.seq (.seq (.map Comment.mk ?_) ?_) ?_)
  · exact takes_objectType rfl
  · exact takes_name rfl
  · exact takes_optionalText rfl

/-- A COPY is read back. Its relation and its file may be missing. -/
theorem Copy.decode_encode (c : Copy) : decode c.encode = some c := by
  obtain ⟨relation, isFrom, filename⟩ := c
  refine record?_obj (.seq (.seq (.map Copy.mk ?_) ?_) ?_)
  · exact takes_optionalName rfl
  · exact takes_bool rfl
  · exact takes_optionalText rfl

/-- An ALTER ... RENAME is read back. -/
theorem Rename.decode_encode (r : Rename) : decode r.encode = some r := by
  obtain ⟨objectType, object, newName⟩ := r
  refine record?_obj (.seq (.seq (.map Rename.mk ?_) ?_) ?_)
  · exact takes_objectType rfl
  · exact takes_name rfl
  · exact takes_text rfl

/-- An ALTER ... SET SCHEMA is read back. -/
theorem SetSchema.decode_encode (s : SetSchema) :
    decode s.encode = some s := by
  obtain ⟨objectType, object, newSchema⟩ := s
  refine record?_obj (.seq (.seq (.map SetSchema.mk ?_) ?_) ?_)
  · exact takes_objectType rfl
  · exact takes_name rfl
  · exact takes_text rfl

/-- An ALTER ... OWNER is read back. -/
theorem SetOwner.decode_encode (s : SetOwner) : decode s.encode = some s := by
  obtain ⟨objectType, object, newOwner⟩ := s
  refine record?_obj (.seq (.seq (.map SetOwner.mk ?_) ?_) ?_)
  · exact takes_objectType rfl
  · exact takes_name rfl
  · exact takes_text rfl

/-- A CREATE INDEX is read back with its four flags. -/
theorem CreateIndex.decode_encode (c : CreateIndex) :
    decode c.encode = some c := by
  obtain ⟨name, relation, columns, unique, primary, isConstraint,
      concurrent⟩ := c
  refine record?_obj
    (.seq
      (.seq (.seq (.seq (.seq (.seq (.map CreateIndex.mk ?_) ?_) ?_) ?_) ?_)
        ?_) ?_)
  · exact takes_optionalText rfl
  · exact takes_name rfl
  · exact takes_listOfTexts rfl
  · exact takes_flag rfl
  · exact takes_flag rfl
  · exact takes_flag rfl
  · exact takes_flag rfl

/-- A CREATE RULE is read back. -/
theorem CreateRule.decode_encode (c : CreateRule) :
    decode c.encode = some c := by
  obtain ⟨name, relation, replace⟩ := c
  refine record?_obj (.seq (.seq (.map CreateRule.mk ?_) ?_) ?_)
  · exact takes_text rfl
  · exact takes_name rfl
  · exact takes_flag rfl

/-- A DROP of what hangs on a relation, a rule or a trigger, is read back. -/
theorem DropProperty.decode_encode (d : DropProperty) :
    decode d.encode = some d := by
  obtain ⟨objectType, property, relation, missingOk⟩ := d
  refine record?_obj (.seq (.seq (.seq (.map DropProperty.mk ?_) ?_) ?_) ?_)
  · exact takes_objectType rfl
  · exact takes_text rfl
  · exact takes_name rfl
  · exact takes_flag rfl

/-- A LOCK is read back with the relations it locks. -/
theorem Lock.decode_encode (l : Lock) : decode l.encode = some l := by
  obtain ⟨relations, mode, nowait⟩ := l
  refine record?_obj (.seq (.seq (.map Lock.mk ?_) ?_) ?_)
  · exact takes_names rfl
  · exact takes_text rfl
  · exact takes_flag rfl

/-- A VACUUM or an ANALYZE is read back. It has no relation where it is for
all. -/
theorem Vacuum.decode_encode (v : Vacuum) : decode v.encode = some v := by
  obtain ⟨vacuum, analyze, full, freeze, relation⟩ := v
  refine record?_obj
    (.seq (.seq (.seq (.seq (.map Vacuum.mk ?_) ?_) ?_) ?_) ?_)
  · exact takes_bool rfl
  · exact takes_flag rfl
  · exact takes_flag rfl
  · exact takes_flag rfl
  · exact takes_optionalName rfl

theorem Reindex.decode_encode (r : Reindex) : decode r.encode = some r := by
  obtain ⟨objectType, name⟩ := r
  exact record?_obj (.seq (.map Reindex.mk (takes_objectType rfl))
    (takes_name rfl))

-- ========================================== privileges, settings, pool

/-- A GRANT or a REVOKE is read back. -/
theorem Grant.decode_encode (g : Grant) : decode g.encode = some g := by
  obtain ⟨isGrant, objectType, target, objects, privileges, grantees⟩ := g
  refine record?_obj
    (.seq (.seq (.seq (.seq (.seq (.map Grant.mk ?_) ?_) ?_) ?_) ?_) ?_)
  · exact takes_bool rfl
  · exact takes_required rfl objectType.decode_encode
  · exact takes_required rfl target.decode_encode
  · exact takes_names rfl
  · exact takes_listOfTexts rfl
  · exact takes_listOfTexts rfl

/-- A SET or a RESET is read back. -/
theorem VariableSet.decode_encode (v : VariableSet) :
    decode v.encode = some v := by
  obtain ⟨form, name, value, isLocal⟩ := v
  refine record?_obj (.seq (.seq (.seq (.map VariableSet.mk ?_) ?_) ?_) ?_)
  · exact takes_required rfl form.decode_encode
  · exact takes_optionalText rfl
  · exact takes_optionalText rfl
  · exact takes_flag rfl

/-- A CLEAN CONNECTION is read back. It names no node where it is for all. -/
theorem CleanConnection.decode_encode (c : CleanConnection) :
    decode c.encode = some c := by
  obtain ⟨nodes, database, user, force⟩ := c
  refine record?_obj (.seq (.seq (.seq (.map CleanConnection.mk ?_) ?_) ?_) ?_)
  · exact takes_listOfTexts rfl
  · exact takes_optionalText rfl
  · exact takes_optionalText rfl
  · exact takes_flag rfl

-- ====================================================== definitions

namespace Definition

/-- The fields of a definition are read back under its kind. Those of a
definition with a record of its own may be given by position anywhere, the
others may not, and both are written by name. -/
theorem decodeContent_content (positions : Positions) (d : Definition) :
    decodeContent positions d.kind d.content = some d := by
  cases d with
  | securityLabel objectType object provider label =>
      refine variant?_obj positions
        (.seq (.seq (.seq (.map securityLabel ?_) ?_) ?_) ?_)
      · exact takes_objectType rfl
      · exact takes_name rfl
      · exact takes_optionalText rfl
      · exact takes_optionalText rfl
  | alterExtensionContents name add objectType object =>
      refine variant?_obj positions
        (.seq (.seq (.seq (.map alterExtensionContents ?_) ?_) ?_) ?_)
      · exact takes_text rfl
      · exact takes_bool rfl
      · exact takes_objectType rfl
      · exact takes_name rfl
  -- a text for a name
  | createExtension name =>
      exact variant?_obj positions (.map _ (takes_text rfl))
  | alterExtension name =>
      exact variant?_obj positions (.map _ (takes_text rfl))
  | createForeignDataWrapper name =>
      exact variant?_obj positions (.map _ (takes_text rfl))
  | alterForeignDataWrapper name =>
      exact variant?_obj positions (.map _ (takes_text rfl))
  | alterForeignServer name =>
      exact variant?_obj positions (.map _ (takes_text rfl))
  | alterDatabase name =>
      exact variant?_obj positions (.map _ (takes_text rfl))
  | createLanguage name =>
      exact variant?_obj positions (.map _ (takes_text rfl))
  | alterRole name => exact variant?_obj positions (.map _ (takes_text rfl))
  -- a name that may have a schema
  | alterDomain name => exact variant?_obj positions (.map _ (takes_name rfl))
  | alterFunction name =>
      exact variant?_obj positions (.map _ (takes_name rfl))
  | compositeType name =>
      exact variant?_obj positions (.map _ (takes_name rfl))
  | createConversion name =>
      exact variant?_obj positions (.map _ (takes_name rfl))
  | createOperatorClass name =>
      exact variant?_obj positions (.map _ (takes_name rfl))
  | createOperatorFamily name =>
      exact variant?_obj positions (.map _ (takes_name rfl))
  | alterOperatorFamily name =>
      exact variant?_obj positions (.map _ (takes_name rfl))
  | alterTsDictionary name =>
      exact variant?_obj positions (.map _ (takes_name rfl))
  | alterTsConfiguration name =>
      exact variant?_obj positions (.map _ (takes_name rfl))
  -- two texts
  | createForeignServer name wrapper =>
      exact variant?_obj positions
        (.seq (.map _ (takes_text rfl)) (takes_text rfl))
  | createUserMapping user server =>
      exact variant?_obj positions
        (.seq (.map _ (takes_text rfl)) (takes_text rfl))
  | alterUserMapping user server =>
      exact variant?_obj positions
        (.seq (.map _ (takes_text rfl)) (takes_text rfl))
  | alterDatabaseSet name setting =>
      exact variant?_obj positions
        (.seq (.map _ (takes_text rfl)) (takes_text rfl))
  | alterRoleSet name setting =>
      exact variant?_obj positions
        (.seq (.map _ (takes_text rfl)) (takes_text rfl))
  | createCast sourceType targetType =>
      exact variant?_obj positions
        (.seq (.map _ (takes_text rfl)) (takes_text rfl))
  -- what is dropped, and whether it may be missing
  | dropForeignDataWrapper name missingOk =>
      exact variant?_obj positions
        (.seq (.map _ (takes_text rfl)) (takes_flag rfl))
  | dropForeignServer name missingOk =>
      exact variant?_obj positions
        (.seq (.map _ (takes_text rfl)) (takes_flag rfl))
  | dropLanguage name missingOk =>
      exact variant?_obj positions
        (.seq (.map _ (takes_text rfl)) (takes_flag rfl))
  | dropOperatorClass name missingOk =>
      exact variant?_obj positions
        (.seq (.map _ (takes_name rfl)) (takes_flag rfl))
  | dropOperatorFamily name missingOk =>
      exact variant?_obj positions
        (.seq (.map _ (takes_name rfl)) (takes_flag rfl))
  | dropRole names missingOk =>
      exact variant?_obj positions
        (.seq (.map _ (takes_texts rfl)) (takes_flag rfl))
  | dropUserMapping user server missingOk =>
      exact variant?_obj positions
        (.seq (.seq (.map _ (takes_text rfl)) (takes_text rfl))
          (takes_flag rfl))
  | dropCast sourceType targetType missingOk =>
      exact variant?_obj positions
        (.seq (.seq (.map _ (takes_text rfl)) (takes_text rfl))
          (takes_flag rfl))
  -- the rest
  | createDomain name baseType =>
      exact variant?_obj positions
        (.seq (.map _ (takes_name rfl)) (takes_text rfl))
  | createEnum name labels =>
      exact variant?_obj positions
        (.seq (.map _ (takes_name rfl)) (takes_texts rfl))
  | createFunction name replace =>
      exact variant?_obj positions
        (.seq (.map _ (takes_name rfl)) (takes_flag rfl))
  | createRole name form =>
      exact variant?_obj positions
        (.seq (.map _ (takes_text rfl))
          (takes_withDefault rfl form.decode_encode))
  | alterDefaultPrivileges roles grant =>
      exact variant?_obj positions
        (.seq (.map _ (takes_listOfTexts rfl))
          (takes_required rfl grant.decode_encode))
  | dropOwned roles => exact variant?_obj positions (.map _ (takes_texts rfl))
  | reassignOwned roles newRole =>
      exact variant?_obj positions
        (.seq (.map _ (takes_texts rfl)) (takes_text rfl))
  -- records of their own
  | define objectType name =>
      exact record?_obj (.seq (.map _ (takes_objectType rfl)) (takes_name rfl))
  | removeFunction objectType name missingOk =>
      exact record?_obj
        (.seq (.seq (.map _ (takes_objectType rfl)) (takes_name rfl))
          (takes_flag rfl))
  | grantRole isGrant roles grantees =>
      exact record?_obj
        (.seq (.seq (.map _ (takes_bool rfl)) (takes_texts rfl))
          (takes_texts rfl))

end Definition

end ClusterUtility
