/-
The circumstances that a statement is dispatched in.

They travel with the statement, so a statement that an expansion produced
sees what the statement it comes from saw, one level deeper.
-/
import ClusterUtility.Topology

namespace ClusterUtility

/-- The circumstances of one dispatch. -/
structure Context where
  /-- A client issued the statement; no expansion produced it. -/
  isTopLevel : Bool
  readOnly : Bool
  /-- The node is replaying its log. -/
  inRecovery : Bool
  /-- The operation is security-restricted. -/
  isRestricted : Bool
  /-- Another coordinator routed the statement here. -/
  fromCoordinator : Bool
  role : NodeRole
  superuser : Bool
  /-- The number of expansions that the statement stands inside. -/
  depth : Nat
deriving DecidableEq, Repr

namespace Context

/-- A client's statement on a node of the given role. -/
def topLevel (role : NodeRole) : Context :=
  ⟨true, false, false, false, false, role, false, 0⟩

instance : Inhabited Context := ⟨topLevel .coordinator⟩

/-- A statement that a coordinator routed to this node. -/
def routed (role : NodeRole) : Context :=
  { topLevel role with fromCoordinator := true }

/-- The circumstances of a statement that the expansion of another produced. -/
def forSubstatement (c : Context) : Context :=
  { c with isTopLevel := false, depth := c.depth + 1 }

/-- A coordinator that has the statement from a client. -/
def isClientFacing (c : Context) : Bool :=
  decide (c.role = .coordinator) && !c.fromCoordinator

/-- Whether this dispatch may pass the statement on to other nodes. -/
def propagates (c : Context) : Bool :=
  c.isClientFacing && c.isTopLevel

/-- The record of the circumstances. -/
def encode (c : Context) : Json :=
  .obj
    [("is_top_level", .bool c.isTopLevel),
     ("transaction_read_only", .bool c.readOnly),
     ("in_recovery", .bool c.inRecovery),
     ("in_security_restricted_operation", .bool c.isRestricted),
     ("received_from_coordinator", .bool c.fromCoordinator),
     ("role", c.role.encode),
     ("superuser", .bool c.superuser),
     ("depth", Json.ofNat c.depth)]

/-- Reads the circumstances; all fields are needed. -/
def decode : Json → Option Context :=
  Json.record?
    (Context.mk
      <$> Json.required "is_top_level" Json.bool?
      <*> Json.required "transaction_read_only" Json.bool?
      <*> Json.required "in_recovery" Json.bool?
      <*> Json.required "in_security_restricted_operation" Json.bool?
      <*> Json.required "received_from_coordinator" Json.bool?
      <*> Json.required "role" NodeRole.decode
      <*> Json.required "superuser" Json.bool?
      <*> Json.required "depth" Json.nat64?)

end Context

end ClusterUtility
