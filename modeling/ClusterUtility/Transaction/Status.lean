/-
The life of a transaction, and the outcome that a prepared one is bound to.
-/
import ClusterUtility.Statement.Basic
import ClusterUtility.Topology

namespace ClusterUtility

-- ====================================================== status

/-- Where a transaction stands. -/
inductive TransactionStatus where
  | idle
  | inProgress
  | prepared
  | committed
  | aborted
deriving DecidableEq, Repr, Inhabited

namespace TransactionStatus

/-- The name of the status. -/
def name : TransactionStatus → String
  | .idle => "Idle"
  | .inProgress => "InProgress"
  | .prepared => "Prepared"
  | .committed => "Committed"
  | .aborted => "Aborted"

/-- The status as messages show it. -/
def text : TransactionStatus → String
  | .idle => "idle"
  | .inProgress => "in progress"
  | .prepared => "prepared"
  | .committed => "committed"
  | .aborted => "aborted"

/-- Every status. -/
def values : List TransactionStatus :=
  [.idle, .inProgress, .prepared, .committed, .aborted]

/-- The status as its name. -/
def encode (s : TransactionStatus) : Json := .str s.name

/-- The status of a name. -/
def decode (j : Json) : Option TransactionStatus := j.oneOf? values name

/-- Whether a transaction may go from one status to the other. -/
def canBecome : TransactionStatus → TransactionStatus → Bool
  | .idle, .inProgress => true
  | .inProgress, .committed => true
  | .inProgress, .aborted => true
  | .inProgress, .prepared => true
  | .prepared, .committed => true
  | .prepared, .aborted => true
  | .committed, .idle => true
  | .aborted, .idle => true
  | _, _ => false

/-- Whether a transaction is over. -/
def isTerminal : TransactionStatus → Bool
  | .committed => true
  | .aborted => true
  | _ => false

/-- The status that a finish leads to. -/
def ofCommit (commit : Bool) : TransactionStatus :=
  if commit then .committed else .aborted

end TransactionStatus

-- ====================================================== outcome

/-- The outcome that a prepared transaction is bound to. -/
inductive Outcome where
  | undecided
  | commit
  | rollback
deriving DecidableEq, Repr

namespace Outcome

/-- The name of the outcome. -/
def name : Outcome → String
  | .undecided => "Undecided"
  | .commit => "Commit"
  | .rollback => "Rollback"

/-- The outcome as messages show it. -/
def text : Outcome → String
  | .undecided => "undecided"
  | .commit => "commit"
  | .rollback => "rollback"

/-- Every outcome. -/
def values : List Outcome := [.undecided, .commit, .rollback]

/-- The outcome as its name. -/
def encode (o : Outcome) : Json := .str o.name

/-- The outcome of a name. -/
def decode (j : Json) : Option Outcome := j.oneOf? values name

/-- The outcome that a finished branch binds its transaction to. -/
def ofCommit (commit : Bool) : Outcome :=
  if commit then .commit else .rollback

/-- Whether a transaction with this outcome may still be committed, or rolled
back. -/
def allows (o : Outcome) (commit : Bool) : Bool :=
  match o with
  | .undecided => true
  | .commit => commit
  | .rollback => !commit

end Outcome

-- ====================================================== records

/-- A prepared transaction as the global registry knows it. -/
structure PreparedTransaction where
  gid : Gid
  /-- The remote nodes that still hold a prepared branch. -/
  participants : List Node
  /-- The coordinator wrote a two-phase record of its own. -/
  coordinatorRecord : Bool
  outcome : Outcome
deriving DecidableEq, Repr

namespace PreparedTransaction

/-- A transaction that was prepared on all of its participants. -/
def undecided (gid : Gid) (participants : List Node)
    (coordinatorRecord : Bool) :
    PreparedTransaction :=
  ⟨gid, participants, coordinatorRecord, .undecided⟩

/-- Branches that a failed PREPARE left behind: they can only be rolled
back. -/
def rollbackOnly (gid : Gid) (participants : List Node) :
    PreparedTransaction :=
  ⟨gid, participants, false, .rollback⟩

/-- The record of a prepared transaction. -/
def encode (t : PreparedTransaction) : Json :=
  .obj
    [("gid", .str t.gid),
     ("participants", Json.ofTexts t.participants),
     ("coordinator_record", .bool t.coordinatorRecord),
     ("outcome", t.outcome.encode)]

/-- Reads a prepared transaction; without an outcome it is undecided. -/
def decode : Json → Option PreparedTransaction :=
  Json.record?
    (PreparedTransaction.mk
      <$> Json.required "gid" Json.string?
      <*> Json.required "participants" (Json.list? Json.string?)
      <*> Json.required "coordinator_record" Json.bool?
      <*> Json.withDefault "outcome" .undecided Outcome.decode)

end PreparedTransaction

/-- The state of the local transaction, as a snapshot. -/
structure TransactionState where
  status : TransactionStatus
  /-- The global identifier, once the transaction is prepared. -/
  globalId : Option Gid
deriving DecidableEq, Repr

namespace TransactionState

/-- The record of a state. -/
def encode (s : TransactionState) : Json :=
  .obj
    [("status", s.status.encode), ("global_id", Json.ofOption .str s.globalId)]

/-- Reads a state; by position, both fields are needed. -/
def decode : Json → Option TransactionState :=
  Json.record?
    (TransactionState.mk
      <$> Json.required "status" TransactionStatus.decode
      <*> Json.nullable "global_id" Json.string?)

end TransactionState

end ClusterUtility
