/-
The kinds of statements.

A kind is the form of a statement without its content. It is what handlers
are configured by, what the journal records and what a statement is called
in its JSON form.
-/
import ClusterUtility.Statement.Basic

namespace ClusterUtility

/-- The form of a statement. -/
inductive Kind where
  | transaction
  | query
  | closePortal
  | fetch
  | createSchema
  | createTable
  | createForeignTable
  | alterTable
  | drop
  | truncate
  | comment
  | securityLabel
  | copy
  | rename
  | setSchema
  | setOwner
  | createTablespace
  | dropTablespace
  | alterTablespaceOptions
  | createExtension
  | alterExtension
  | alterExtensionContents
  | createForeignDataWrapper
  | alterForeignDataWrapper
  | dropForeignDataWrapper
  | createForeignServer
  | alterForeignServer
  | dropForeignServer
  | createUserMapping
  | alterUserMapping
  | dropUserMapping
  | prepare
  | execute
  | deallocate
  | alterDomain
  | createDomain
  | alterFunction
  | define
  | compositeType
  | createEnum
  | alterEnum
  | createView
  | createFunction
  | removeFunction
  | createIndex
  | createRule
  | createSequence
  | alterSequence
  | doBlock
  | grant
  | grantRole
  | alterDefaultPrivileges
  | createDatabase
  | alterDatabase
  | alterDatabaseSet
  | dropDatabase
  | notify
  | listen
  | unlisten
  | load
  | cluster
  | vacuum
  | explain
  | checkpoint
  | reindex
  | variableSet
  | variableShow
  | discard
  | constraintsSet
  | createTrigger
  | dropProperty
  | createLanguage
  | dropLanguage
  | createRole
  | alterRole
  | alterRoleSet
  | dropRole
  | dropOwned
  | reassignOwned
  | lock
  | createConversion
  | createCast
  | dropCast
  | createOperatorClass
  | createOperatorFamily
  | alterOperatorFamily
  | dropOperatorClass
  | dropOperatorFamily
  | alterTsDictionary
  | alterTsConfiguration
  | barrier
  | cleanConnection
deriving DecidableEq, Repr

namespace Kind

/-- The name of the kind. -/
def name : Kind → String
  | .transaction => "Transaction"
  | .query => "Query"
  | .closePortal => "ClosePortal"
  | .fetch => "Fetch"
  | .createSchema => "CreateSchema"
  | .createTable => "CreateTable"
  | .createForeignTable => "CreateForeignTable"
  | .alterTable => "AlterTable"
  | .drop => "Drop"
  | .truncate => "Truncate"
  | .comment => "Comment"
  | .securityLabel => "SecurityLabel"
  | .copy => "Copy"
  | .rename => "Rename"
  | .setSchema => "AlterObjectSchema"
  | .setOwner => "AlterOwner"
  | .createTablespace => "CreateTablespace"
  | .dropTablespace => "DropTablespace"
  | .alterTablespaceOptions => "AlterTablespaceOptions"
  | .createExtension => "CreateExtension"
  | .alterExtension => "AlterExtension"
  | .alterExtensionContents => "AlterExtensionContents"
  | .createForeignDataWrapper => "CreateForeignDataWrapper"
  | .alterForeignDataWrapper => "AlterForeignDataWrapper"
  | .dropForeignDataWrapper => "DropForeignDataWrapper"
  | .createForeignServer => "CreateForeignServer"
  | .alterForeignServer => "AlterForeignServer"
  | .dropForeignServer => "DropForeignServer"
  | .createUserMapping => "CreateUserMapping"
  | .alterUserMapping => "AlterUserMapping"
  | .dropUserMapping => "DropUserMapping"
  | .prepare => "Prepare"
  | .execute => "Execute"
  | .deallocate => "Deallocate"
  | .alterDomain => "AlterDomain"
  | .createDomain => "CreateDomain"
  | .alterFunction => "AlterFunction"
  | .define => "Define"
  | .compositeType => "CompositeType"
  | .createEnum => "CreateEnum"
  | .alterEnum => "AlterEnum"
  | .createView => "CreateView"
  | .createFunction => "CreateFunction"
  | .removeFunction => "RemoveFunction"
  | .createIndex => "CreateIndex"
  | .createRule => "CreateRule"
  | .createSequence => "CreateSequence"
  | .alterSequence => "AlterSequence"
  | .doBlock => "Do"
  | .grant => "Grant"
  | .grantRole => "GrantRole"
  | .alterDefaultPrivileges => "AlterDefaultPrivileges"
  | .createDatabase => "CreateDatabase"
  | .alterDatabase => "AlterDatabase"
  | .alterDatabaseSet => "AlterDatabaseSet"
  | .dropDatabase => "DropDatabase"
  | .notify => "Notify"
  | .listen => "Listen"
  | .unlisten => "Unlisten"
  | .load => "Load"
  | .cluster => "Cluster"
  | .vacuum => "Vacuum"
  | .explain => "Explain"
  | .checkpoint => "Checkpoint"
  | .reindex => "Reindex"
  | .variableSet => "VariableSet"
  | .variableShow => "VariableShow"
  | .discard => "Discard"
  | .constraintsSet => "ConstraintsSet"
  | .createTrigger => "CreateTrigger"
  | .dropProperty => "DropProperty"
  | .createLanguage => "CreateLanguage"
  | .dropLanguage => "DropLanguage"
  | .createRole => "CreateRole"
  | .alterRole => "AlterRole"
  | .alterRoleSet => "AlterRoleSet"
  | .dropRole => "DropRole"
  | .dropOwned => "DropOwned"
  | .reassignOwned => "ReassignOwned"
  | .lock => "Lock"
  | .createConversion => "CreateConversion"
  | .createCast => "CreateCast"
  | .dropCast => "DropCast"
  | .createOperatorClass => "CreateOperatorClass"
  | .createOperatorFamily => "CreateOperatorFamily"
  | .alterOperatorFamily => "AlterOperatorFamily"
  | .dropOperatorClass => "DropOperatorClass"
  | .dropOperatorFamily => "DropOperatorFamily"
  | .alterTsDictionary => "AlterTsDictionary"
  | .alterTsConfiguration => "AlterTsConfiguration"
  | .barrier => "Barrier"
  | .cleanConnection => "CleanConnection"

/-- Every kind, in the order of declaration. -/
def values : List Kind :=
  [.transaction, .query, .closePortal, .fetch, .createSchema, .createTable,
   .createForeignTable, .alterTable, .drop, .truncate, .comment,
   .securityLabel, .copy, .rename, .setSchema, .setOwner, .createTablespace,
   .dropTablespace, .alterTablespaceOptions, .createExtension, .alterExtension,
   .alterExtensionContents, .createForeignDataWrapper,
   .alterForeignDataWrapper, .dropForeignDataWrapper, .createForeignServer,
   .alterForeignServer, .dropForeignServer, .createUserMapping,
   .alterUserMapping, .dropUserMapping, .prepare, .execute, .deallocate,
   .alterDomain, .createDomain, .alterFunction, .define, .compositeType,
   .createEnum, .alterEnum, .createView, .createFunction, .removeFunction,
   .createIndex, .createRule, .createSequence, .alterSequence, .doBlock,
   .grant, .grantRole, .alterDefaultPrivileges, .createDatabase,
   .alterDatabase, .alterDatabaseSet, .dropDatabase, .notify, .listen,
   .unlisten, .load, .cluster, .vacuum, .explain, .checkpoint, .reindex,
   .variableSet, .variableShow, .discard, .constraintsSet, .createTrigger,
   .dropProperty, .createLanguage, .dropLanguage, .createRole, .alterRole,
   .alterRoleSet, .dropRole, .dropOwned, .reassignOwned, .lock,
   .createConversion, .createCast, .dropCast, .createOperatorClass,
   .createOperatorFamily, .alterOperatorFamily, .dropOperatorClass,
   .dropOperatorFamily, .alterTsDictionary, .alterTsConfiguration, .barrier,
   .cleanConnection]

/-- The kind of a name. -/
def ofName? (name : String) : Option Kind :=
  values.find? fun kind => kind.name == name

/-- The kind of a name in JSON. -/
def decode (j : Json) : Option Kind := do
  ofName? (← j.string?)

end Kind

/-- The form of a definition. -/
def Definition.kind : Definition → Kind
  | .securityLabel .. => .securityLabel
  | .createExtension .. => .createExtension
  | .alterExtension .. => .alterExtension
  | .alterExtensionContents .. => .alterExtensionContents
  | .createForeignDataWrapper .. => .createForeignDataWrapper
  | .alterForeignDataWrapper .. => .alterForeignDataWrapper
  | .dropForeignDataWrapper .. => .dropForeignDataWrapper
  | .createForeignServer .. => .createForeignServer
  | .alterForeignServer .. => .alterForeignServer
  | .dropForeignServer .. => .dropForeignServer
  | .createUserMapping .. => .createUserMapping
  | .alterUserMapping .. => .alterUserMapping
  | .dropUserMapping .. => .dropUserMapping
  | .alterDomain .. => .alterDomain
  | .createDomain .. => .createDomain
  | .alterFunction .. => .alterFunction
  | .define .. => .define
  | .compositeType .. => .compositeType
  | .createEnum .. => .createEnum
  | .createFunction .. => .createFunction
  | .removeFunction .. => .removeFunction
  | .grantRole .. => .grantRole
  | .alterDefaultPrivileges .. => .alterDefaultPrivileges
  | .alterDatabase .. => .alterDatabase
  | .alterDatabaseSet .. => .alterDatabaseSet
  | .createLanguage .. => .createLanguage
  | .dropLanguage .. => .dropLanguage
  | .createRole .. => .createRole
  | .alterRole .. => .alterRole
  | .alterRoleSet .. => .alterRoleSet
  | .dropRole .. => .dropRole
  | .dropOwned .. => .dropOwned
  | .reassignOwned .. => .reassignOwned
  | .createConversion .. => .createConversion
  | .createCast .. => .createCast
  | .dropCast .. => .dropCast
  | .createOperatorClass .. => .createOperatorClass
  | .createOperatorFamily .. => .createOperatorFamily
  | .alterOperatorFamily .. => .alterOperatorFamily
  | .dropOperatorClass .. => .dropOperatorClass
  | .dropOperatorFamily .. => .dropOperatorFamily
  | .alterTsDictionary .. => .alterTsDictionary
  | .alterTsConfiguration .. => .alterTsConfiguration

/-- The form of a statement. -/
def Statement.kind : Statement → Kind
  | .transaction .. => .transaction
  | .query .. => .query
  | .closePortal .. => .closePortal
  | .fetch .. => .fetch
  | .createSchema .. => .createSchema
  | .createTable .. => .createTable
  | .createForeignTable .. => .createForeignTable
  | .alterTable .. => .alterTable
  | .drop .. => .drop
  | .truncate .. => .truncate
  | .comment .. => .comment
  | .copy .. => .copy
  | .rename .. => .rename
  | .setSchema .. => .setSchema
  | .setOwner .. => .setOwner
  | .createTablespace .. => .createTablespace
  | .dropTablespace .. => .dropTablespace
  | .alterTablespaceOptions .. => .alterTablespaceOptions
  | .prepare .. => .prepare
  | .execute .. => .execute
  | .deallocate .. => .deallocate
  | .alterEnum .. => .alterEnum
  | .createView .. => .createView
  | .createIndex .. => .createIndex
  | .createRule .. => .createRule
  | .createSequence .. => .createSequence
  | .alterSequence .. => .alterSequence
  | .doBlock .. => .doBlock
  | .grant .. => .grant
  | .createDatabase .. => .createDatabase
  | .dropDatabase .. => .dropDatabase
  | .notify .. => .notify
  | .listen .. => .listen
  | .unlisten .. => .unlisten
  | .load .. => .load
  | .cluster .. => .cluster
  | .vacuum .. => .vacuum
  | .explain .. => .explain
  | .checkpoint => .checkpoint
  | .reindex .. => .reindex
  | .variableSet .. => .variableSet
  | .variableShow .. => .variableShow
  | .discard .. => .discard
  | .constraintsSet .. => .constraintsSet
  | .createTrigger .. => .createTrigger
  | .dropProperty .. => .dropProperty
  | .lock .. => .lock
  | .barrier .. => .barrier
  | .cleanConnection .. => .cleanConnection
  | .definition d => d.kind

end ClusterUtility
