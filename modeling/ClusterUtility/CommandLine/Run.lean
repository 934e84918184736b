/-
Running a command on files.

The configuration is read before the script, and neither is touched before
the arguments are in order.
-/
import ClusterUtility.CommandLine.Arguments
import ClusterUtility.Text.Quoted

namespace ClusterUtility.CommandLine

/-- What the files hold, by their names. -/
abbrev Files := String → Configuration.FileContent

/-- What a command prints, and what goes into the statement log. -/
structure Output where
  text : String
  log : List String

-- ====================================================== reading files

/-- The configuration to work under: standard where no file is named. -/
def loadConfiguration (files : Files) :
    Option String → Except String Configuration
  | none => .ok .standard
  | some name =>
      (Configuration.load name (files name)).mapError Failure.message

/-- The script of a file. -/
def loadScript (files : Files) (name : String) : Except String Script :=
  match Configuration.fileText (files name) with
  | .error reason =>
      .error ("Failed to read script " ++ Text.Quoted.encode name
        ++ ": " ++ reason)
  | .ok text =>
      match Script.parse? text with
      | some script => .ok script
      | none => .error ("Failed to parse script " ++ Text.Quoted.encode name)

-- ====================================================== commands

/-- What the program is called and what it is for. -/
def versionText : String :=
  "cluster-utility 0.1.0\nUtility statement dispatch for "
    ++ "coordinator/datanode clusters\n"

/-- Runs a command; a failure is told in a text. -/
def Command.run (files : Files) (timestamp : String) :
    Command → Except String Output
  | .version => .ok ⟨versionText, []⟩
  | .classify script config format => do
      let config ← loadConfiguration files config
      let script ← loadScript files script
      return ⟨Classified.report format (script.classify config timestamp), []⟩
  | .simulate script config format context => do
      let config ← loadConfiguration files config
      let script ← loadScript files script
      let rows := script.simulate config timestamp context
      return ⟨Simulated.report format rows, rows.flatMap Simulated.logged⟩

end ClusterUtility.CommandLine
