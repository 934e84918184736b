/-
What a statement gives back and whether it changes anything.
-/
import ClusterUtility.Statement.LogClass

namespace ClusterUtility

namespace Statement

/-- Whether running a statement sends rows to the client. A portal or a
prepared statement that is not there sends none. -/
def returnsTuples (objects : SessionObjects) : Statement → Bool
  | .fetch f => !f.isMove && (objects.portals.get? f.portal).getD false
  | .execute name into _ =>
      into.isNone && ((objects.prepared.get? name).map (·.returnsTuples)).getD
        false
  | .explain .. => true
  | .variableShow _ => true
  | _ => false

/-- Whether a statement changes nothing at all: a plain SELECT without a
target table, row marks or a part that writes. -/
def isReadOnly : Statement → Bool
  | .query q =>
      decide (q.command = .select) && q.into.isNone && q.rowMarks.isEmpty
        && !q.hasModifyingCte
  | _ => false

/-- Whether a statement is one of the two forms that an expansion hands back
as the object to be created. -/
def isPrimalCreate : Statement → Bool
  | .createTable _ => true
  | .createForeignTable _ => true
  | _ => false

end Statement

end ClusterUtility
