/-
Reports on scripts: what each statement is, and what became of it.

Both reports are written as a table for people or as JSON for programs.
-/
import ClusterUtility.Json.Printer
import ClusterUtility.Report.Table
import ClusterUtility.Script
import ClusterUtility.Session

namespace ClusterUtility

/-- How a report is written. -/
inductive ReportFormat where
  | table
  | json
deriving DecidableEq, Repr

namespace ReportFormat

/-- The name of the format. -/
def name : ReportFormat → String
  | .table => "table"
  | .json => "json"

/-- Every format. -/
def values : List ReportFormat := [.table, .json]

end ReportFormat

/-- A session whose catalog holds the relations of a script. -/
def Script.session (script : Script) (config : Configuration)
    (timestamp : String) : Session :=
  .start config timestamp script.relations

/-- A report on an empty script. -/
def emptyReport : String := "No statements found\n"

/-- The first lines of a table report. -/
def reportHead (title : String) (count : Nat) : String :=
  title ++ "\nStatements: " ++ toString count ++ "\n\n"

/-- A JSON value as a report. -/
def jsonReport (j : Json) : String := j.pretty ++ "\n"

-- ====================================================== classification

/-- What a statement of a script is. -/
structure Classified where
  /-- The place in the script, from one on. -/
  index : Nat
  text : String
  kind : Kind
  tag : String
  level : LogClass
  targets : Except Failure NodeGroup

namespace Classified

/-- Where the statement goes, or why that is not known. -/
def targetsText (c : Classified) : String :=
  match c.targets with
  | .ok group => group.text
  | .error failure => "error: " ++ failure.message

/-- The record of a classified statement. -/
def encode (c : Classified) : Json :=
  .obj
    [("index", Json.ofNat c.index),
     ("text", .str c.text),
     ("kind", .str c.kind.name),
     ("tag", .str c.tag),
     ("log_level", .str c.level.text),
     ("targets", .str c.targetsText)]

/-- The cells of a classified statement. -/
def cells (c : Classified) : List String :=
  [toString c.index, c.text, c.kind.name, c.tag, c.level.text, c.targetsText]

/-- The statements as a table. -/
def table (rows : List Classified) : Table :=
  ⟨["#", "Statement", "Kind", "Tag", "Log level", "Targets"], rows.map cells⟩

/-- The report on classified statements. -/
def report (format : ReportFormat) (rows : List Classified) : String :=
  match format, rows with
  | .json, _ => jsonReport (Json.ofList encode rows)
  | .table, [] => emptyReport
  | .table, _ =>
      reportHead "Classification" rows.length ++ (table rows).draw ++ "\n"

end Classified

/-- Classifies one statement in a session. -/
def Session.classifyEntry (s : Session) (index : Nat)
    (entry : ScriptEntry) : Classified :=
  { index
    text := entry.text
    kind := entry.statement.kind
    tag := entry.statement.tag
    level := entry.statement.levelAlone
    targets := (s.run ∅ (Plan.targets entry.statement)).1 }

/-- Classifies the statements of a script, none of which runs. -/
def Script.classify (script : Script) (config : Configuration)
    (timestamp : String) :
    List Classified :=
  let s := script.session config timestamp
  script.entries.mapIdx fun i entry => s.classifyEntry (i + 1) entry

-- ====================================================== simulation

/-- What became of a statement of a script. -/
structure Simulated where
  /-- The place in the script, from one on. -/
  index : Nat
  text : String
  /-- The completion tag, or why the statement failed. -/
  outcome : Except Failure String
  rows : List (List Json)
  /-- What the cluster did, in order. -/
  events : List String
  /-- What was written into the statement log. -/
  logged : List String

namespace Simulated

/-- The completion tag of a statement that succeeded. -/
def tag? (s : Simulated) : Option String :=
  s.outcome.toOption

/-- Why the statement failed, if it did. -/
def failure? (s : Simulated) : Option Failure :=
  match s.outcome with
  | .ok _ => none
  | .error failure => some failure

/-- The failure as the pair of its SQLSTATE and its message. -/
def encodeFailure (f : Failure) : Json := Json.ofTexts [f.sqlstate, f.message]

/-- The record of a simulated statement. -/
def encode (s : Simulated) : Json :=
  .obj
    [("index", Json.ofNat s.index),
     ("text", .str s.text),
     ("tag", Json.ofOption .str s.tag?),
     ("error", Json.ofOption encodeFailure s.failure?),
     ("rows", Json.ofList .arr s.rows),
     ("events", Json.ofTexts s.events)]

/-- The outcome in a few words. -/
def outcomeText (s : Simulated) : String :=
  match s.outcome with
  | .error failure => "ERROR " ++ failure.sqlstate ++ ": " ++ failure.message
  | .ok tag => if tag.isEmpty then "OK" else tag

/-- What the cluster did, and how many rows came back. -/
def callsText (s : Simulated) : String :=
  let rows :=
    if s.rows.isEmpty then []
    else [toString s.rows.length ++ " row(s) returned"]
  String.intercalate "\n" (s.events ++ rows)

/-- The cells of a simulated statement. -/
def cells (s : Simulated) : List String :=
  [toString s.index, s.text, s.outcomeText, s.callsText]

/-- The statements as a table. -/
def table (rows : List Simulated) : Table :=
  ⟨["#", "Statement", "Result", "Cluster calls"], rows.map cells⟩

/-- The last line of a table report, if any statement failed. -/
def failedLine (rows : List Simulated) : String :=
  let failed := rows.countP fun s => s.failure?.isSome
  if failed = 0 then ""
  else "\n" ++ toString failed ++ " statement(s) failed\n"

/-- The report on simulated statements. -/
def report (format : ReportFormat) (rows : List Simulated) : String :=
  match format, rows with
  | .json, _ => jsonReport (Json.ofList encode rows)
  | .table, [] => emptyReport
  | .table, _ =>
      reportHead "Simulation" rows.length ++ (table rows).draw ++ "\n"
        ++ failedLine rows

end Simulated

/-- Dispatches one statement in a session. -/
def Session.simulateEntry (s : Session) (c : Context) (index : Nat)
    (entry : ScriptEntry) :
    Simulated × Session :=
  let (result, desk, after) :=
    s.dispatch ∅ ⟨entry.statement, entry.text, c, true, true⟩
  ({ index
     text := entry.text
     outcome := result.map fun _ => desk.tag.text
     rows := desk.rows
     events := (after.cluster.journal.drop s.cluster.journal.length).map
       Cluster.Event.text
     logged := desk.logged },
   after)

/-- Dispatches statements in a session, one after another. A statement that
fails does not stop the ones after it. -/
def Session.simulateFrom (c : Context) (index : Nat) (s : Session) :
    List ScriptEntry → List Simulated
  | [] => []
  | entry :: rest =>
      let (row, after) := s.simulateEntry c index entry
      row :: simulateFrom c (index + 1) after rest

/-- Dispatches the statements of a script on a fresh cluster. -/
def Script.simulate (script : Script) (config : Configuration)
    (timestamp : String) (c : Context) : List Simulated :=
  (script.session config timestamp).simulateFrom c 1 script.entries

end ClusterUtility
