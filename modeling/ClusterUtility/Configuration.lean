/-
The configuration of statement dispatch, and the file it is read from.

Every field of the file may be missing; the standard configuration, which
refuses all features that do not yet run alike on every node, stands in for
what is not there.
-/
import ClusterUtility.Failure
import ClusterUtility.Json.Reader
import ClusterUtility.Statement.LogClass

namespace ClusterUtility

-- ====================================================== features

/-- A feature that a cluster may be configured to refuse. -/
inductive Feature where
  | savepoints
  | preparedStatements
  | concurrentIndex
  | triggers
  | tablespaces
deriving DecidableEq, Repr

namespace Feature

/-- The name of the feature. -/
def name : Feature → String
  | .savepoints => "Savepoints"
  | .preparedStatements => "PreparedStatements"
  | .concurrentIndex => "ConcurrentIndex"
  | .triggers => "Triggers"
  | .tablespaces => "Tablespaces"

/-- Every feature, in the order of declaration. -/
def values : List Feature :=
  [.savepoints, .preparedStatements, .concurrentIndex, .triggers, .tablespaces]

/-- The feature as its name. -/
def encode (f : Feature) : Json := .str f.name

/-- The feature of a name. -/
def decode (j : Json) : Option Feature := j.oneOf? values name

/-- A set of features as the list of its members in order of declaration. -/
def encodeSet (s : Feature → Bool) : Json :=
  Json.ofList encode (values.filter s)

/-- The set of the features in a list; order and repetition do not matter. -/
def decodeSet (j : Json) : Option (Feature → Bool) :=
  (j.list? decode).map fun given feature => decide (feature ∈ given)

end Feature

-- ====================================================== configuration

/-- How statements are dispatched on a node. -/
structure Configuration where
  topology : Topology
  /-- The features that are refused. -/
  unsupported : Feature → Bool
  /-- How deep expansions may stand inside one another. -/
  maxDepth : Nat
  /-- Which statements are logged. -/
  logStatement : LogClass

namespace Configuration

/-- The standard configuration: every optional feature is refused. -/
def standard : Configuration :=
  ⟨.standard, fun _ => true, 32, .none⟩

/-- The standard configuration with every feature allowed. -/
def permissive : Configuration :=
  { standard with unsupported := fun _ => false }

instance : Inhabited Configuration := ⟨standard⟩

/-- The configuration with another layout of the cluster. -/
def withTopology (c : Configuration) (topology : Topology) : Configuration :=
  { c with topology }

/-- The record of a configuration. -/
def encode (c : Configuration) : Json :=
  .obj
    [("topology", c.topology.encode),
     ("unsupported_features", Feature.encodeSet c.unsupported),
     ("max_recursion_depth", Json.ofNat c.maxDepth),
     ("log_statement", c.logStatement.encode)]

/-- Reads a configuration; what is missing is standard. -/
def decode : Json → Option Configuration :=
  Json.record?
    (Configuration.mk
      <$> Json.withDefault "topology" standard.topology Topology.decode
      <*> Json.withDefault "unsupported_features" standard.unsupported
        Feature.decodeSet
      <*> Json.withDefault "max_recursion_depth" standard.maxDepth Json.nat64?
      <*> Json.withDefault "log_statement" standard.logStatement
        LogClass.decode)

/-- Refuses a configuration that no statement could be dispatched under: one
without depth, or with a local node that is not part of the cluster. -/
def validate (c : Configuration) : Except Failure Unit :=
  if c.maxDepth = 0 then
    .error (.configuration "max_recursion_depth must be at least 1")
  else if c.topology.isMember then .ok ()
  else
    .error (.configuration
      ("local node " ++ c.topology.localNode
        ++ " is not part of the topology"))

-- ====================================================== files

/-- What reading a file gave: its bytes, or the reason why there are none. -/
abbrev FileContent := Except String ByteArray

/-- The reason given for a file that is not there. -/
def fileMissing : String := "No such file or directory (os error 2)"

/-- The reason given for bytes that are no text. -/
def notText : String := "stream did not contain valid UTF-8"

/-- The text of a file, or why it has none. -/
def fileText (content : FileContent) : Except String String :=
  match content with
  | .error reason => .error reason
  | .ok bytes =>
      match String.fromUTF8? bytes with
      | some text => .ok text
      | none => .error notText

/-- The valid configuration that a file holds. -/
def load (file : String) (content : FileContent) :
    Except Failure Configuration :=
  match fileText content with
  | .error reason =>
      .error (.configuration ("failed to read " ++ file ++ ": " ++ reason))
  | .ok text =>
      match (Json.parse? text).bind decode with
      | none => .error (.configuration ("failed to parse " ++ file))
      | some c =>
          match c.validate with
          | .error failure => .error failure
          | .ok () => .ok c

end Configuration

end ClusterUtility
