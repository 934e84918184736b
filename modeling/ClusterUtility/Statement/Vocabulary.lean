/-
The closed vocabularies of statements: object types, commands, targets.

Each is an enumeration with a name for each value, a list of all values, and
its JSON form, which is the name alone.
-/
import ClusterUtility.Json.Record

namespace ClusterUtility

/-- The kind of object that a generic command such as DROP or COMMENT names. -/
inductive ObjectType where
  | aggregate
  | attribute
  | cast
  | column
  | constraint
  | collation
  | conversion
  | database
  | domain
  | extension
  | foreignDataWrapper
  | foreignServer
  | foreignTable
  | function
  | index
  | language
  | largeObject
  | operatorClass
  | operator
  | operatorFamily
  | role
  | rule
  | schema
  | sequence
  | table
  | tablespace
  | trigger
  | tsConfiguration
  | tsDictionary
  | tsParser
  | tsTemplate
  | type
  | view
deriving DecidableEq, Repr

namespace ObjectType

/-- The name of the object type. -/
def name : ObjectType → String
  | .aggregate => "Aggregate"
  | .attribute => "Attribute"
  | .cast => "Cast"
  | .column => "Column"
  | .constraint => "Constraint"
  | .collation => "Collation"
  | .conversion => "Conversion"
  | .database => "Database"
  | .domain => "Domain"
  | .extension => "Extension"
  | .foreignDataWrapper => "ForeignDataWrapper"
  | .foreignServer => "ForeignServer"
  | .foreignTable => "ForeignTable"
  | .function => "Function"
  | .index => "Index"
  | .language => "Language"
  | .largeObject => "LargeObject"
  | .operatorClass => "OperatorClass"
  | .operator => "Operator"
  | .operatorFamily => "OperatorFamily"
  | .role => "Role"
  | .rule => "Rule"
  | .schema => "Schema"
  | .sequence => "Sequence"
  | .table => "Table"
  | .tablespace => "Tablespace"
  | .trigger => "Trigger"
  | .tsConfiguration => "TsConfiguration"
  | .tsDictionary => "TsDictionary"
  | .tsParser => "TsParser"
  | .tsTemplate => "TsTemplate"
  | .type => "Type"
  | .view => "View"

/-- Every object type, in the order of declaration. -/
def values : List ObjectType :=
  [.aggregate, .attribute, .cast, .column, .constraint, .collation,
   .conversion, .database, .domain, .extension, .foreignDataWrapper,
   .foreignServer, .foreignTable, .function, .index, .language, .largeObject,
   .operatorClass, .operator, .operatorFamily, .role, .rule, .schema,
   .sequence, .table, .tablespace, .trigger, .tsConfiguration, .tsDictionary,
   .tsParser, .tsTemplate, .type, .view]

/-- The object type as its name. -/
def encode (v : ObjectType) : Json := .str v.name

/-- The object type of a name. -/
def decode (j : Json) : Option ObjectType := j.oneOf? values name

end ObjectType

/-- The command of a planned query. -/
inductive QueryCommand where
  | select
  | insert
  | update
  | delete
deriving DecidableEq, Repr

namespace QueryCommand

/-- The name of the command. -/
def name : QueryCommand → String
  | .select => "Select"
  | .insert => "Insert"
  | .update => "Update"
  | .delete => "Delete"

/-- Every command, in the order of declaration. -/
def values : List QueryCommand :=
  [.select, .insert, .update, .delete]

/-- The command as its name. -/
def encode (v : QueryCommand) : Json := .str v.name

/-- The command of a name. -/
def decode (j : Json) : Option QueryCommand := j.oneOf? values name

end QueryCommand

/-- How strongly a query locks the rows it reads. -/
inductive RowMark where
  | exclusive
  | share
deriving DecidableEq, Repr

namespace RowMark

/-- The name of the row mark. -/
def name : RowMark → String
  | .exclusive => "Exclusive"
  | .share => "Share"

/-- Every row mark, in the order of declaration. -/
def values : List RowMark :=
  [.exclusive, .share]

/-- The row mark as its name. -/
def encode (v : RowMark) : Json := .str v.name

/-- The row mark of a name. -/
def decode (j : Json) : Option RowMark := j.oneOf? values name

end RowMark

/-- The kind of object that privileges are granted on. -/
inductive GrantObject where
  | relation
  | sequence
  | database
  | foreignDataWrapper
  | foreignServer
  | function
  | language
  | largeObject
  | namespace
  | tablespace
deriving DecidableEq, Repr

namespace GrantObject

/-- The name of the kind of object. -/
def name : GrantObject → String
  | .relation => "Relation"
  | .sequence => "Sequence"
  | .database => "Database"
  | .foreignDataWrapper => "ForeignDataWrapper"
  | .foreignServer => "ForeignServer"
  | .function => "Function"
  | .language => "Language"
  | .largeObject => "LargeObject"
  | .namespace => "Namespace"
  | .tablespace => "Tablespace"

/-- Every kind of object, in the order of declaration. -/
def values : List GrantObject :=
  [.relation, .sequence, .database, .foreignDataWrapper, .foreignServer,
   .function, .language, .largeObject, .namespace, .tablespace]

/-- The kind of object as its name. -/
def encode (v : GrantObject) : Json := .str v.name

/-- The kind of object of a name. -/
def decode (j : Json) : Option GrantObject := j.oneOf? values name

end GrantObject

/-- What a grant covers: listed objects, all in a schema, or defaults. -/
inductive GrantTarget where
  | object
  | allInSchema
  | defaults
deriving DecidableEq, Repr

namespace GrantTarget

/-- The name of the target. -/
def name : GrantTarget → String
  | .object => "Object"
  | .allInSchema => "AllInSchema"
  | .defaults => "Defaults"

/-- Every target, in the order of declaration. -/
def values : List GrantTarget :=
  [.object, .allInSchema, .defaults]

/-- The target as its name. -/
def encode (v : GrantTarget) : Json := .str v.name

/-- The target of a name. -/
def decode (j : Json) : Option GrantTarget := j.oneOf? values name

end GrantTarget

/-- The form of a SET or RESET command. -/
inductive SettingForm where
  | value
  | default
  | current
  | multi
  | reset
  | resetAll
deriving DecidableEq, Repr

namespace SettingForm

/-- The name of the form. -/
def name : SettingForm → String
  | .value => "Value"
  | .default => "Default"
  | .current => "Current"
  | .multi => "Multi"
  | .reset => "Reset"
  | .resetAll => "ResetAll"

/-- Every form, in the order of declaration. -/
def values : List SettingForm :=
  [.value, .default, .current, .multi, .reset, .resetAll]

/-- The form as its name. -/
def encode (v : SettingForm) : Json := .str v.name

/-- The form of a name. -/
def decode (j : Json) : Option SettingForm := j.oneOf? values name

end SettingForm

/-- What a DISCARD command throws away. -/
inductive DiscardTarget where
  | all
  | plans
  | temp
deriving DecidableEq, Repr

namespace DiscardTarget

/-- The name of the target. -/
def name : DiscardTarget → String
  | .all => "All"
  | .plans => "Plans"
  | .temp => "Temp"

/-- Every target, in the order of declaration. -/
def values : List DiscardTarget :=
  [.all, .plans, .temp]

/-- The target as its name. -/
def encode (v : DiscardTarget) : Json := .str v.name

/-- The target of a name. -/
def decode (j : Json) : Option DiscardTarget := j.oneOf? values name

end DiscardTarget

/-- The word that a role is created under. -/
inductive RoleForm where
  | role
  | user
  | group
deriving DecidableEq, Repr

namespace RoleForm

/-- The name of the word. -/
def name : RoleForm → String
  | .role => "Role"
  | .user => "User"
  | .group => "Group"

/-- Every word, in the order of declaration. -/
def values : List RoleForm :=
  [.role, .user, .group]

/-- The word as its name. -/
def encode (v : RoleForm) : Json := .str v.name

/-- The word of a name. -/
def decode (j : Json) : Option RoleForm := j.oneOf? values name

end RoleForm

/-- The isolation levels of the SQL standard. -/
inductive IsolationLevel where
  | readUncommitted
  | readCommitted
  | repeatableRead
  | serializable
deriving DecidableEq, Repr

namespace IsolationLevel

/-- The name of the isolation level. -/
def name : IsolationLevel → String
  | .readUncommitted => "ReadUncommitted"
  | .readCommitted => "ReadCommitted"
  | .repeatableRead => "RepeatableRead"
  | .serializable => "Serializable"

/-- Every isolation level, in the order of declaration. -/
def values : List IsolationLevel :=
  [.readUncommitted, .readCommitted, .repeatableRead, .serializable]

/-- The isolation level as its name. -/
def encode (v : IsolationLevel) : Json := .str v.name

/-- The isolation level of a name. -/
def decode (j : Json) : Option IsolationLevel := j.oneOf? values name

end IsolationLevel

end ClusterUtility
