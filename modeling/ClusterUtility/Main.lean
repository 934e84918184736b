/-
The command line program: it reads the files that are named, prints what the
command gives, and shows the statement log where it is asked to.
-/
import ClusterUtility.CommandLine.Run
import Std.Time.DateTime.Timestamp

namespace ClusterUtility.CommandLine

/-- How the program is used. -/
def usage : String :=
  "Usage: cluster-utility [-v|--verbose] [--log-level LEVEL] COMMAND\n\n"
    ++ "Commands:\n"
    ++ "  version                   Show version information\n"
    ++ "  classify SCRIPT [-c|--config FILE] [-f|--format table|json]\n"
    ++ "  simulate SCRIPT [-c|--config FILE] [-f|--format table|json]\n"
    ++ "           [--role coordinator|datanode] [--from-coordinator]"
    ++ " [--read-only]\n"
    ++ "           [--recovery] [--security-restricted] [--no-superuser]\n"
    ++ "  help                      Show this text\n"

/-- What is said of arguments that make no command. -/
def UsageProblem.message : UsageProblem → String
  | .invalidSubcommand => "unrecognized subcommand"
  | .missingSubcommand => "a subcommand is required"
  | .missingArgument => "a script is required"
  | .invalidValue => "invalid value for an option"
  | .unreadableValue => "invalid log level"
  | .needlessValue => "a flag takes no value"
  | .repeatedOption => "an option cannot be used twice"
  | .unknownArgument => "unexpected argument"
  | .helpWanted => ""
  | .versionWanted => ""
  | .nothingGiven => ""

/-- What a file holds. -/
def readFile (name : String) : IO Configuration.FileContent := do
  try
    return .ok (← IO.FS.readBinFile name)
  catch e =>
    match e with
    | .noFileOrDirectory .. => return .error Configuration.fileMissing
    | other => return .error (toString other)

/-- The files that a command names. -/
def Command.fileNames : Command → List String
  | .version => []
  | .classify script config _ => script :: config.toList
  | .simulate script config _ _ => script :: config.toList

/-- Reads the files that a command names. -/
def readFiles (command : Command) : IO Files := do
  let mut found : List (String × Configuration.FileContent) := []
  for name in command.fileNames do
    found := (name, ← readFile name) :: found
  let files := found
  return fun name => (Directory.find name files).getD
    (.error Configuration.fileMissing)

/-- The present moment in microseconds. -/
def timestampNow : IO String := do
  let now ← Std.Time.Timestamp.now
  return toString (now.toNanosecondsSinceUnixEpoch.val / 1000)

/-- Runs a command and prints what it gives. -/
def perform (i : Invocation) : IO UInt32 := do
  let files ← readFiles i.command
  match i.command.run files (← timestampNow) with
  | .ok output => do
      if i.verbosity.showsStatements then
        for line in output.log do
          IO.eprintln ("statement: " ++ line)
      IO.print output.text
      return 0
  | .error text => do
      IO.eprintln ("Error: " ++ text)
      return 1

/-- Tells what is wrong with the arguments, or what they ask for. -/
def explain (problem : UsageProblem) : IO UInt32 := do
  match problem with
  | .helpWanted => IO.print usage; return 0
  | .versionWanted => IO.print versionText; return 0
  | .nothingGiven => IO.eprint usage; return 2
  | other =>
      IO.eprintln ("error: " ++ other.message ++ "\n\n" ++ usage); return 2

end ClusterUtility.CommandLine

open ClusterUtility.CommandLine in
/-- Runs the program on its arguments. -/
def main (args : List String) : IO UInt32 := do
  match parse args with
  | .ok invocation => perform invocation
  | .error problem => explain problem
