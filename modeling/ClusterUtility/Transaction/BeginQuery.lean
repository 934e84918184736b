/-
Isolation levels as text, and the query that a transaction begins with on
the other nodes.

The characteristics of BEGIN all apply to the local transaction. Only the
isolation level and the access mode change what another node does, so only
those are put into the query that participants receive.
-/
import ClusterUtility.Statement.Basic
import ClusterUtility.Text.Capital

namespace ClusterUtility

namespace IsolationLevel

/-- The level in SQL. -/
def text : IsolationLevel → String
  | .readUncommitted => "READ UNCOMMITTED"
  | .readCommitted => "READ COMMITTED"
  | .repeatableRead => "REPEATABLE READ"
  | .serializable => "SERIALIZABLE"

/-- The level that a text names, in capitals or not, with a blank or an
underscore between its words. -/
def ofText? (text : String) : Option IsolationLevel :=
  match Text.capitals text with
  | "READ UNCOMMITTED" => some .readUncommitted
  | "READ_UNCOMMITTED" => some .readUncommitted
  | "READ COMMITTED" => some .readCommitted
  | "READ_COMMITTED" => some .readCommitted
  | "REPEATABLE READ" => some .repeatableRead
  | "REPEATABLE_READ" => some .repeatableRead
  | "SERIALIZABLE" => some .serializable
  | _ => none

end IsolationLevel

/-- What is said of a text that names no isolation level. -/
def unknownIsolationLevel (text : String) : String :=
  "Unknown isolation level: " ++ text

/-- The clause that passes a characteristic on; a deferrable transaction
stays a local matter. -/
def TransactionOption.clause? : TransactionOption → Option String
  | .isolation level => some ("ISOLATION LEVEL " ++ level.text)
  | .readOnly true => some "READ ONLY"
  | .readOnly false => some "READ WRITE"
  | .deferrable _ => none

/-- The query that begins a transaction with these characteristics on another
node; none where a plain BEGIN does. -/
def beginQuery? (options : List TransactionOption) : Option String :=
  match options.filterMap TransactionOption.clause? with
  | [] => none
  | clauses => some ("START TRANSACTION " ++ String.intercalate ", " clauses)

end ClusterUtility
