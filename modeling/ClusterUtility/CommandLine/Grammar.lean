/-
The words of the command line: subcommands, options and their values.
-/
import ClusterUtility.Report.Basic

namespace ClusterUtility.CommandLine

-- ====================================================== problems

/-- Why arguments do not make a command, or what they ask for instead. -/
inductive UsageProblem where
  /-- A word stands where a subcommand should. -/
  | invalidSubcommand
  /-- There are arguments, but no subcommand. -/
  | missingSubcommand
  /-- The script is not named. -/
  | missingArgument
  /-- An option lacks its value, or the value is none of the possible ones. -/
  | invalidValue
  /-- The text of a value cannot be read. -/
  | unreadableValue
  /-- A flag is given a value. -/
  | needlessValue
  /-- An option is given twice. -/
  | repeatedOption
  /-- An argument that is not known. -/
  | unknownArgument
  /-- Help is asked for. -/
  | helpWanted
  /-- The version is asked for. -/
  | versionWanted
  /-- There are no arguments at all. -/
  | nothingGiven
deriving DecidableEq, Repr

-- ====================================================== options

/-- How much is logged. -/
inductive Verbosity where
  | error
  | warn
  | info
  | debug
  | trace
deriving DecidableEq, Repr

namespace Verbosity

/-- The name of the verbosity. -/
def name : Verbosity → String
  | .error => "error"
  | .warn => "warn"
  | .info => "info"
  | .debug => "debug"
  | .trace => "trace"

/-- Every verbosity, the least first. -/
def values : List Verbosity := [.error, .warn, .info, .debug, .trace]

/-- The place in the order. -/
def rank : Verbosity → Nat
  | .error => 0
  | .warn => 1
  | .info => 2
  | .debug => 3
  | .trace => 4

/-- The verbosity of a name, in capitals or not. -/
def ofName? (text : String) : Option Verbosity :=
  values.find? fun v => v.name = String.ofList (text.toList.map Char.toLower)

/-- Whether the statement log is shown. -/
def showsStatements (v : Verbosity) : Bool := decide (2 ≤ v.rank)

end Verbosity

/-- The role of a node as an argument. -/
def roleName : NodeRole → String
  | .coordinator => "coordinator"
  | .datanode => "datanode"

/-- The role that an argument names. -/
def roleOfName? (text : String) : Option NodeRole :=
  NodeRole.values.find? fun r => roleName r = text

/-- The report format that an argument names. -/
def formatOfName? (text : String) : Option ReportFormat :=
  ReportFormat.values.find? fun f => f.name = text

/-- Where a value may be put: an option, or the script. -/
inductive Slot where
  | verbose
  | logLevel
  | config
  | format
  | role
  | fromCoordinator
  | readOnly
  | recovery
  | restricted
  | ordinaryUser
  | help
  | version
  | script
deriving DecidableEq, Repr

namespace Slot

/-- The long name of an option. -/
def long? : Slot → Option String
  | .verbose => some "verbose"
  | .logLevel => some "log-level"
  | .config => some "config"
  | .format => some "format"
  | .role => some "role"
  | .fromCoordinator => some "from-coordinator"
  | .readOnly => some "read-only"
  | .recovery => some "recovery"
  | .restricted => some "security-restricted"
  | .ordinaryUser => some "no-superuser"
  | .help => some "help"
  | .version => some "version"
  | .script => none

/-- The letter of an option, if it has one. -/
def short? : Slot → Option Char
  | .verbose => some 'v'
  | .config => some 'c'
  | .format => some 'f'
  | .help => some 'h'
  | .version => some 'V'
  | _ => none

/-- Whether a value goes with the option. -/
def takesValue : Slot → Bool
  | .logLevel => true
  | .config => true
  | .format => true
  | .role => true
  | .script => true
  | _ => false

/-- What is wrong with a value, if anything. -/
def problem? (slot : Slot) (value : String) : Option UsageProblem :=
  match slot with
  | .logLevel =>
      if (Verbosity.ofName? value).isNone then some .unreadableValue else none
  | .config => if value.isEmpty then some .invalidValue else none
  | .script => if value.isEmpty then some .invalidValue else none
  | .format =>
      if (formatOfName? value).isNone then some .invalidValue else none
  | .role => if (roleOfName? value).isNone then some .invalidValue else none
  | _ => none

end Slot

-- ====================================================== subcommands

/-- What the program does. -/
inductive Subcommand where
  | version
  | classify
  | simulate
deriving DecidableEq, Repr

namespace Subcommand

/-- The name of a subcommand. -/
def name : Subcommand → String
  | .version => "version"
  | .classify => "classify"
  | .simulate => "simulate"

/-- Every subcommand. -/
def values : List Subcommand := [.version, .classify, .simulate]

/-- The subcommand of a name. -/
def ofName? (text : String) : Option Subcommand :=
  values.find? fun s => s.name = text

/-- Whether the subcommand works on a script. -/
def takesScript : Subcommand → Bool
  | .version => false
  | .classify => true
  | .simulate => true

/-- The options of a subcommand. -/
def options : Subcommand → List Slot
  | .version => [.verbose, .logLevel, .help]
  | .classify => [.config, .format, .verbose, .logLevel, .help]
  | .simulate =>
      [.config, .role, .fromCoordinator, .readOnly, .recovery, .restricted,
        .ordinaryUser,
       .format, .verbose, .logLevel, .help]

end Subcommand

/-- The name of the subcommand that explains the others. -/
def helpName : String := "help"

/-- The options before a subcommand. -/
def rootOptions : List Slot := [.verbose, .logLevel, .help, .version]

end ClusterUtility.CommandLine
