/-
Logging classes, and the session objects that a class may depend on.

The class of PREPARE and EXPLAIN ANALYZE is that of the statement inside.
The class of EXECUTE is that of the prepared statement it names, which may
itself execute another one. Names can lead back to themselves, since a name
may be prepared as its own execution; then no class exists, and `level?`
says so. A chain of names that is longer than the number of prepared
statements has passed a name twice, so it is enough to follow that many.
-/
import ClusterUtility.Directory
import ClusterUtility.Statement.Basic

namespace ClusterUtility

-- ====================================================== classes

/-- A logging class, from the least to the most verbose. `none` is a setting
only: no statement has it. -/
inductive LogClass where
  | none
  | ddl
  | mod
  | all
deriving DecidableEq, Repr

namespace LogClass

/-- The name of the class. -/
def name : LogClass → String
  | .none => "None"
  | .ddl => "Ddl"
  | .mod => "Mod"
  | .all => "All"

/-- The class as reports show it. -/
def text : LogClass → String
  | .none => "none"
  | .ddl => "ddl"
  | .mod => "mod"
  | .all => "all"

/-- The place of the class in the order of verbosity. -/
def rank : LogClass → Nat
  | .none => 0
  | .ddl => 1
  | .mod => 2
  | .all => 3

/-- Every class. -/
def values : List LogClass := [.none, .ddl, .mod, .all]

/-- The class as its name. -/
def encode (c : LogClass) : Json := .str c.name

/-- The class of a name. -/
def decode (j : Json) : Option LogClass := j.oneOf? values name

/-- Whether a statement of this class is logged under a setting. -/
def isLoggedUnder (c setting : LogClass) : Bool :=
  decide (c ≠ .none ∧ c.rank ≤ setting.rank)

end LogClass

-- ===================================================== session objects

/-- A statement that PREPARE gave a name. -/
structure PreparedStatement where
  statement : Statement
  returnsTuples : Bool

/-- The objects of a session that classification looks at: prepared
statements, and for each open portal whether it returns rows. -/
structure SessionObjects where
  prepared : Directory String PreparedStatement
  portals : Directory String Bool

namespace SessionObjects

/-- No session objects. -/
def empty : SessionObjects := ⟨∅, ∅⟩

instance : EmptyCollection SessionObjects := ⟨empty⟩

end SessionObjects

-- ============================================ the class of a statement

/-- The class of a query: one that makes a table counts as DDL. -/
def Query.level (q : Query) : LogClass :=
  match q.command with
  | .select => if q.into.isSome then .ddl else .all
  | .insert | .update | .delete => .mod

/-- What the class of a statement hangs on: a class, or a prepared
statement. -/
inductive LogTarget where
  | level (c : LogClass)
  | prepared (name : String)
deriving DecidableEq, Repr

/-- What the class of a statement hangs on, after looking into PREPARE and
EXPLAIN ANALYZE. -/
def Statement.logTarget : Statement → LogTarget
  | .query q => .level q.level
  | .prepare _ inner => inner.logTarget
  | .execute name _ _ => .prepared name
  | .explain analyze _ inner =>
      if analyze then inner.logTarget else .level .all
  | .copy c => if c.isFrom then .level .mod else .level .all
  | .truncate _ => .level .mod
  | .transaction _ => .level .all
  | .closePortal _ => .level .all
  | .fetch _ => .level .all
  | .deallocate _ => .level .all
  | .doBlock .. => .level .all
  | .notify .. => .level .all
  | .listen _ => .level .all
  | .unlisten _ => .level .all
  | .load _ => .level .all
  | .vacuum _ => .level .all
  | .variableSet _ => .level .all
  | .variableShow _ => .level .all
  | .discard _ => .level .all
  | .lock _ => .level .all
  | .constraintsSet .. => .level .all
  | .checkpoint => .level .all
  | .reindex _ => .level .all
  | .barrier _ => .level .all
  | .createSchema .. => .level .ddl
  | .createTable _ => .level .ddl
  | .createForeignTable _ => .level .ddl
  | .alterTable _ => .level .ddl
  | .drop _ => .level .ddl
  | .comment _ => .level .ddl
  | .rename _ => .level .ddl
  | .setSchema _ => .level .ddl
  | .setOwner _ => .level .ddl
  | .createTablespace .. => .level .ddl
  | .dropTablespace .. => .level .ddl
  | .alterTablespaceOptions _ => .level .ddl
  | .alterEnum .. => .level .ddl
  | .createView .. => .level .ddl
  | .createIndex _ => .level .ddl
  | .createRule _ => .level .ddl
  | .createSequence _ => .level .ddl
  | .alterSequence _ => .level .ddl
  | .grant _ => .level .ddl
  | .createDatabase _ => .level .ddl
  | .dropDatabase .. => .level .ddl
  | .cluster .. => .level .ddl
  | .createTrigger .. => .level .ddl
  | .dropProperty _ => .level .ddl
  | .cleanConnection _ => .level .ddl
  | .definition _ => .level .ddl

/-- The class that a target comes down to when at most `fuel` prepared
statements are looked up. A name that is not prepared counts as any other
command. -/
def LogTarget.follow (prepared : Directory String PreparedStatement) :
    Nat → LogTarget → Option LogClass
  | _, .level c => some c
  | 0, .prepared _ => none
  | fuel + 1, .prepared name =>
      match prepared.get? name with
      | none => some .all
      | some p => follow prepared fuel p.statement.logTarget

/-- The class of a statement; none where prepared statements execute one
another without end. -/
def Statement.level? (objects : SessionObjects) (s : Statement) :
    Option LogClass :=
  s.logTarget.follow objects.prepared (objects.prepared.size + 1)

/-- The class of a statement that stands alone, with no session objects. -/
def Statement.levelAlone (s : Statement) : LogClass :=
  match s.logTarget with
  | .level c => c
  | .prepared _ => .all

end ClusterUtility
