/-
Whether a refused feature is refused in all of its statements.

A feature is refused by the form of a statement (`Statement.feature?`), and the
command that a user gives has a tag. Several forms may have one tag: an object
of any type is renamed, moved to a schema or given to another owner by the same
three forms, and the tag follows the type. So whether a feature is closed under
its tags is a question about two tables.

# Where the tables agree

They agree for four of the five features. ALTER TABLESPACE comes in five forms,
and only the one that sets options is refused with the feature; the four forms
for objects of any type (`Statement.altersTablespaceAsObject`) are let through.

# What a refusal keeps away

A statement that is not supported is barred (`exists_barred_of_unsupported`),
so its dispatch fails and does nothing, here or elsewhere, and no dispatch has
a handler run it.
-/
import ClusterUtility.Proofs.Dispatch.Barred

namespace ClusterUtility

open Cluster (answer)
open Program (Leads)

variable {config : Configuration} {feature : Feature} {s : Statement}

-- =============================================== what a feature covers

/-- The tags of the commands that belong to a feature. -/
def Feature.tags : Feature → List String
  | .savepoints => ["SAVEPOINT"]
  | .preparedStatements => ["PREPARE", "EXECUTE"]
  | .concurrentIndex => []
  | .triggers => ["CREATE TRIGGER", "DROP TRIGGER"]
  | .tablespaces =>
      ["CREATE TABLESPACE", "DROP TABLESPACE", "ALTER TABLESPACE"]

/-- CREATE INDEX CONCURRENTLY; its tag is that of any CREATE INDEX. -/
def Statement.buildsConcurrently : Statement → Bool
  | .createIndex i => i.concurrent
  | _ => false

/-- A statement belongs to a feature, by its tag or as a concurrent build of an
index. -/
def Feature.Covers (feature : Feature) (s : Statement) : Prop :=
  s.tag ∈ feature.tags
    ∨ feature = .concurrentIndex ∧ s.buildsConcurrently = true

/-- The statements that alter a tablespace as they would an object of another
type. -/
def Statement.altersTablespaceAsObject : Statement → Bool
  | .alterTable a => decide (a.relationType = .tablespace)
  | .rename r => decide (r.objectType = .tablespace)
  | .setSchema s => decide (s.objectType = .tablespace)
  | .setOwner s => decide (s.objectType = .tablespace)
  | _ => false

-- ================================================ the tags of one form

/-- No feature has the tag. -/
def Feature.Spares (tag : String) : Prop :=
  ∀ feature : Feature, tag ∉ feature.tags

/-- The list of the features misses none. -/
private theorem Feature.mem_values (feature : Feature) : feature ∈ values := by
  cases feature <;> decide

instance (tag : String) : Decidable (Feature.Spares tag) :=
  decidable_of_iff (∀ feature ∈ Feature.values, tag ∉ feature.tags)
    ⟨fun h feature => h feature feature.mem_values,
      fun h feature _ => h feature⟩

/-- A tag belongs to one feature at most. -/
theorem Feature.eq_of_mem_tags {other : Feature} {tag : String}
    (h : tag ∈ feature.tags) (hother : tag ∈ other.tags) :
    feature = other := by
  revert tag
  cases feature <;> cases other <;> decide

/-- A tag that is one of two is spared if both are. -/
private theorem Feature.Spares.ite {p : Prop} [Decidable p]
    {tag other : String} (h : Spares tag) (hother : Spares other) :
    Spares (if p then tag else other) := by
  split
  · exact h
  · exact hother

/-- No feature has a tag of DROP. -/
private theorem spares_dropTag (o : ObjectType) :
    Feature.Spares o.dropTag := by
  cases o <;> decide

/-- None has a tag of CREATE for the types of objects that are defined in one
form. -/
private theorem spares_defineTag (o : ObjectType) :
    Feature.Spares o.defineTag := by
  cases o <;> decide

private theorem spares_removeFunctionTag (o : ObjectType) :
    Feature.Spares o.removeFunctionTag := by
  cases o <;> decide

/-- None has the tag of a definition. -/
private theorem spares_definitionTag (d : Definition) :
    Feature.Spares d.tag := by
  cases d with
  | define objectType => exact spares_defineTag objectType
  | removeFunction objectType => exact spares_removeFunctionTag objectType
  | grantRole => exact .ite (by decide) (by decide)
  | _ =>
      simp only [Definition.tag]
      decide

/-- None has the tag of a query. -/
private theorem spares_queryTag (q : Query) : Feature.Spares q.tag := by
  unfold Query.tag
  cases q.command with
  | select =>
      refine .ite (by decide) (.ite (by decide) ?_)
      split <;> decide
  | _ =>
      dsimp only
      decide

/-- Of the transaction commands, SAVEPOINT belongs to a feature. -/
private theorem commandTag_mem_tags {command : TransactionCommand}
    (h : command.tag ∈ feature.tags) :
    feature = .savepoints ∧ ∃ name, command = .savepoint name := by
  cases command with
  | savepoint name =>
      have hmem : "SAVEPOINT" ∈ Feature.savepoints.tags := by decide
      exact ⟨Feature.eq_of_mem_tags h hmem, name, rfl⟩
  | _ =>
      refine absurd h ((?_ : Feature.Spares _) feature)
      simp only [TransactionCommand.tag]
      decide

/-- Of the tags of ALTER, that of tablespaces belongs to one. -/
private theorem alterTag_mem_tags {o : ObjectType}
    (h : o.alterTag ∈ feature.tags) :
    feature = .tablespaces ∧ o = .tablespace := by
  cases o with
  | tablespace =>
      have hmem : "ALTER TABLESPACE" ∈ Feature.tablespaces.tags := by decide
      exact ⟨Feature.eq_of_mem_tags h hmem, rfl⟩
  | _ => exact absurd h ((by decide : Feature.Spares _) feature)

/-- DROP TRIGGER belongs to a feature, and DROP RULE does not. -/
private theorem dropPropertyTag_mem_tags {o : ObjectType}
    (h : o.dropPropertyTag ∈ feature.tags) :
    feature = .triggers ∧ o = .trigger := by
  cases o with
  | trigger =>
      have hmem : "DROP TRIGGER" ∈ Feature.triggers.tags := by decide
      exact ⟨Feature.eq_of_mem_tags h hmem, rfl⟩
  | _ => exact absurd h ((by decide : Feature.Spares _) feature)

-- ====================================================== the two tables

/-- What a feature covers is a form that is refused with the feature, but for a
tablespace that is altered like an object of another type. -/
theorem feature?_of_covers (h : feature.Covers s)
    (hform : s.altersTablespaceAsObject = false) :
    ∃ name, s.feature? = some (feature, name) := by
  rcases h with htag | ⟨rfl, hbuild⟩
  case inr =>
    cases s with
    | createIndex i => exact ⟨_, if_pos hbuild⟩
    | _ => cases hbuild
  have hspared (htag' : Feature.Spares s.tag) :
      ∃ name, s.feature? = some (feature, name) :=
    absurd htag (htag' feature)
  cases s with
  -- the forms of a feature
  | transaction command =>
      obtain ⟨rfl, name, rfl⟩ := commandTag_mem_tags htag
      exact ⟨_, rfl⟩
  | dropProperty d =>
      obtain ⟨rfl, htype⟩ := dropPropertyTag_mem_tags htag
      exact ⟨_, if_pos htype⟩
  | prepare | execute =>
      obtain rfl : feature = .preparedStatements :=
        Feature.eq_of_mem_tags htag (by simp [Statement.tag, Feature.tags])
      exact ⟨_, rfl⟩
  | createTrigger =>
      obtain rfl : feature = .triggers :=
        Feature.eq_of_mem_tags htag (by simp [Statement.tag, Feature.tags])
      exact ⟨_, rfl⟩
  | createTablespace | dropTablespace | alterTablespaceOptions =>
      obtain rfl : feature = .tablespaces :=
        Feature.eq_of_mem_tags htag (by simp [Statement.tag, Feature.tags])
      exact ⟨_, rfl⟩
  -- the forms that the hypothesis leaves out
  | alterTable | rename | setSchema | setOwner =>
      exact absurd (alterTag_mem_tags htag).2 (of_decide_eq_false hform)
  -- forms with more than one tag
  | query q => exact hspared (spares_queryTag q)
  | definition d => exact hspared (spares_definitionTag d)
  | drop d => exact hspared (spares_dropTag d.objectType)
  | fetch | grant | vacuum => exact hspared (.ite (by decide) (by decide))
  | closePortal name | deallocate name =>
      refine hspared ?_
      cases name with
      | none =>
          simp only [Statement.tag]
          decide
      | some name =>
          simp only [Statement.tag]
          decide
  | discard target => cases target <;> exact hspared (by decide)
  | variableSet v =>
      refine hspared ?_
      simp only [Statement.tag]
      split <;> decide
  | _ =>
      refine hspared ?_
      simp only [Statement.tag]
      decide

/-- No form of those is refused with a feature. -/
theorem feature?_of_altersTablespaceAsObject
    (h : s.altersTablespaceAsObject = true) :
    s.feature? = none ∧ s.isNeverSupported = false := by
  cases s with
  | alterTable | rename | setSchema | setOwner => exact ⟨rfl, rfl⟩
  | _ => cases h

-- ============================================= what a refusal comes to

/-- A statement is refused for a feature. -/
structure Statement.IsRefused (s : Statement) (config : Configuration)
    (name : String) : Prop where
  check : config.checkSupported s = .error (.unsupported name)
  /-- Every dispatch of the statement fails and does nothing, here or
  elsewhere. -/
  fails : ∀ (i : Interceptor) (call : Call) (c : Cluster), call.statement = s →
    ∃ failure, c.perform (dispatch config i call) = (.error failure, c)
  /-- It fails so, unless something else refuses the statement before. -/
  failure : ∀ (i : Interceptor) (call : Call) (c : Cluster) (level : LogClass),
    call.statement = s → i.admits s.kind = true →
    call.context.depth ≤ config.maxDepth →
    (c.perform (classify s)).1 = .ok level → call.context.readOnly = false →
    c.perform (dispatch config i call) = (.error (.unsupported name), c)
  /-- No dispatch has a handler run the statement. -/
  neverRun : ∀ (i : Interceptor) (call : Call) (c d : Cluster) (text : String)
    (next : (Request.execute s text).Reply → Program Unit),
    ¬ Leads answer (dispatch config i call) c (.ask (.execute s text) next) d

/-- What the check refuses is barred, and so is refused for good. -/
private theorem isRefused_of_checkSupported {name : String}
    (hcheck : config.checkSupported s = .error (.unsupported name)) :
    s.IsRefused config name := by
  have hbarred (call : Call) (hs : call.statement = s) :
      ∃ g, call.Barred config g := by
    rw [← hs] at hcheck
    exact exists_barred_of_unsupported hcheck
  refine ⟨hcheck, fun i call c hs => ?_, ?_, fun i call c d text next => ?_⟩
  · obtain ⟨g, hcall⟩ := hbarred call hs
    exact hcall.perform i c
  · rintro i call c level rfl hadmits hdepth hlevel hwritable
    have hcall := barred_of_unsupported
      (checkReadOnly_of_writable hwritable) hcheck
    exact hcall.perform_eq hadmits hdepth hlevel
  · exact not_leads_execute_of_barred hbarred i call text next

/-- The check refuses the forms of a feature that is not supported. -/
private theorem checkSupported_of_feature? {name : String}
    (hrefuses : config.unsupported feature = true)
    (hfeature : s.feature? = some (feature, name)) :
    config.checkSupported s = .error (.unsupported name) := by
  have hform : s.isNeverSupported = false := by
    cases s with
    | comment => cases hfeature
    | _ => rfl
  unfold Configuration.checkSupported
  rw [hform, hfeature]
  exact if_pos hrefuses

/-- Where a feature is refused, every statement that belongs to it is refused,
but for a tablespace that is altered like an object of another type: such a
statement is supported in every configuration. -/
theorem refused_feature_closed (hrefuses : config.unsupported feature = true)
    (hcovers : feature.Covers s) :
    (s.altersTablespaceAsObject = false → ∃ name, s.IsRefused config name) ∧
      (s.altersTablespaceAsObject = true →
        config.checkSupported s = .ok ()) := by
  constructor
  · intro hform
    obtain ⟨name, hfeature⟩ := feature?_of_covers hcovers hform
    have hcheck := checkSupported_of_feature? hrefuses hfeature
    exact ⟨name, isRefused_of_checkSupported hcheck⟩
  · intro hform
    obtain ⟨hfeature, hsupported⟩ := feature?_of_altersTablespaceAsObject hform
    unfold Configuration.checkSupported
    rw [hsupported, hfeature]
    rfl

/-- ALTER TABLESPACE ts RENAME TO ts2. -/
def renamedTablespace : Statement := .rename ⟨.tablespace, .bare "ts", "ts2"⟩

/-- ALTER TABLESPACE ts SET (...). -/
def tablespaceOptions : Statement := .alterTablespaceOptions "ts"

/-- Two commands with one tag, of which the first one is let through where the
second one is refused. -/
theorem refused_feature_closed_tablespace :
    renamedTablespace.tag = tablespaceOptions.tag ∧
      Configuration.standard.checkSupported renamedTablespace = .ok () ∧
      ∃ name, tablespaceOptions.IsRefused .standard name := by
  have hrefuses : Configuration.standard.unsupported .tablespaces = true := rfl
  have hrenamed : Feature.tablespaces.Covers renamedTablespace :=
    .inl (by decide)
  have hoptions : Feature.tablespaces.Covers tablespaceOptions :=
    .inl (by decide)
  exact ⟨rfl, (refused_feature_closed hrefuses hrenamed).2 rfl,
    (refused_feature_closed hrefuses hoptions).1 rfl⟩

end ClusterUtility
