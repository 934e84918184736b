/-
Reading arguments.

The arguments before a subcommand and those after it are read alike, each by
the options that are known there. An option that needs a value takes the next
argument unless that one looks like an option; its value is checked when the
argument after it is read, or at the end, and the first problem found counts.
-/
import ClusterUtility.CommandLine.Grammar

namespace ClusterUtility.CommandLine

-- ====================================================== values so far

/-- What was read so far. -/
structure Reading where
  /-- The values that were accepted; a flag has an empty one. -/
  values : Directory Slot String
  /-- An option that waits for its value, or a value that is not accepted
  yet. -/
  pending : Option (Slot × Option String)

namespace Reading

/-- Nothing was read. -/
def start : Reading := ⟨∅, none⟩

/-- Whether an option waits for its value. -/
def awaitsValue (r : Reading) : Bool :=
  match r.pending with
  | some (_, none) => true
  | _ => false

/-- Accepts a value for a slot. -/
def store (r : Reading) (slot : Slot) (value : Option String) :
    Except UsageProblem Reading :=
  if slot.takesValue && value.isNone then .error .invalidValue
  else if slot = .help then .error .helpWanted
  else if slot = .version then .error .versionWanted
  else if r.values.contains slot then .error .repeatedOption
  else
    let text := value.getD ""
    match slot.problem? text with
    | some problem => .error problem
    | none => .ok { r with values := r.values.insert slot text }

/-- Accepts what is pending. -/
def settle (r : Reading) : Except UsageProblem Reading :=
  match r.pending with
  | none => .ok r
  | some (slot, value) => { r with pending := none }.store slot value

/-- Accepts what is pending and then a value for a slot. -/
def accept (r : Reading) (slot : Slot) (value : Option String) :
    Except UsageProblem Reading := do
  (← r.settle).store slot value

/-- Lets a slot wait, with a value or for one. -/
def wait (r : Reading) (slot : Slot) (value : Option String) :
    Except UsageProblem Reading := do
  return { ← r.settle with pending := some (slot, value) }

/-- Takes the value that an option waits for. -/
def fill (r : Reading) (value : String) : Reading :=
  match r.pending with
  | some (slot, none) => { r with pending := some (slot, some value) }
  | _ => r

/-- Whether the script was named. -/
def namesScript (r : Reading) : Bool :=
  r.values.contains .script || decide (r.pending.map Prod.fst = some .script)

end Reading

-- ====================================================== options

/-- What an argument looks like. -/
inductive Shape where
  /-- Two hyphens: what follows is no option. -/
  | escape
  /-- A long option, perhaps with a value after an equals sign. -/
  | long (name : String) (value : Option String)
  /-- Letters after a hyphen. -/
  | short (letters : List Char)
  | plain
deriving DecidableEq, Repr

/-- The parts of a text before and after its first equals sign, if it has
one. -/
def splitAtEquals : List Char → List Char × Option (List Char)
  | [] => ([], none)
  | c :: rest =>
      if c = '=' then ([], some rest)
      else
        let (before, after) := splitAtEquals rest
        (c :: before, after)

/-- What an argument looks like. A single hyphen is no option. -/
def shapeOf (arg : String) : Shape :=
  match arg.toList with
  | ['-', '-'] => .escape
  | '-' :: '-' :: rest =>
      let (name, value) := splitAtEquals rest
      .long (String.ofList name) (value.map String.ofList)
  | '-' :: c :: rest => .short (c :: rest)
  | _ => .plain

/-- Reads a long option. -/
def readLong (options : List Slot) (name : String) (value : Option String)
    (r : Reading) :
    Except UsageProblem Reading :=
  match options.find? fun slot => slot.long? = some name with
  | none => .error .unknownArgument
  | some slot =>
      match slot.takesValue, value with
      | true, some value => r.accept slot (some value)
      | true, none => r.wait slot none
      | false, some _ => .error .needlessValue
      | false, none => r.accept slot none

/-- The value that stands right behind the letter of an option. -/
def attached : List Char → String
  | '=' :: rest => String.ofList rest
  | rest => String.ofList rest

/-- Reads letters after a hyphen: flags, up to an option whose value is the
rest. -/
def readShort (options : List Slot) :
    List Char → Reading → Except UsageProblem Reading
  | [], r => .ok r
  | c :: rest, r =>
      match options.find? fun slot => slot.short? = some c with
      | none => .error .unknownArgument
      | some slot =>
          if slot.takesValue then
            if rest.isEmpty then r.wait slot none
            else r.accept slot (some (attached rest))
          else do
            let r ← r.accept slot none
            readShort options rest r

-- ============================================== one level of arguments

/-- What stands on a level besides options: a subcommand, a script, or
nothing. -/
inductive Level where
  | root
  | sub (s : Subcommand)

namespace Level

/-- The options of a level. -/
def options : Level → List Slot
  | .root => rootOptions
  | .sub s => s.options

/-- Whether a word names a subcommand here. -/
def isSubcommand (level : Level) (word : String) : Bool :=
  match level with
  | .root => word = helpName || (Subcommand.ofName? word).isSome
  | .sub _ => false

/-- Whether a script may be named here. -/
def takesScript : Level → Bool
  | .root => false
  | .sub s => s.takesScript

/-- What is wrong with a word that has no place here. -/
def misplaced (level : Level) (word : String) (escaped : Bool) :
    UsageProblem :=
  match level with
  | .root =>
      if escaped && level.isSubcommand word then .unknownArgument
      else .invalidSubcommand
  | .sub _ => .unknownArgument

end Level

/-- Reads a word that is no option: the script, if it was not named yet. -/
def readWord (level : Level) (word : String) (escaped : Bool) (r : Reading) :
    Except UsageProblem Reading :=
  if level.takesScript && !r.namesScript then r.wait .script (some word)
  else .error (level.misplaced word escaped)

/-- Reads an argument that is not escaped and names no subcommand. -/
def readArgument (level : Level) (arg : String) (r : Reading) :
    Except UsageProblem Reading :=
  match shapeOf arg with
  | .escape => .ok r
  | .long name value => readLong level.options name value r
  | .short letters => readShort level.options letters r
  | .plain =>
      if r.awaitsValue then .ok (r.fill arg) else readWord level arg false r

/-- Reads arguments up to a subcommand; gives what was read, and the
subcommand with the arguments after it. -/
def readLevel (level : Level) :
    List String → Bool → Reading →
    Except UsageProblem (Reading × Option (String × List String))
  | [], _, r => .ok (r, none)
  | arg :: rest, true, r => do
      let r ← readWord level arg true r
      readLevel level rest true r
  | arg :: rest, false, r =>
      if !r.awaitsValue && level.isSubcommand arg then
        .ok (r, some (arg, rest))
      else do
        let r ← readArgument level arg r
        readLevel level rest (decide (shapeOf arg = .escape)) r

/-- Whether help can be given on what is named after the help subcommand. -/
def helpOn : List String → UsageProblem
  | [] => .helpWanted
  | word :: rest =>
      if Level.root.isSubcommand word && rest.isEmpty then .helpWanted
      else .invalidSubcommand

-- ====================================================== commands

/-- A command with everything it needs. -/
inductive Command where
  | version
  | classify (script : String) (config : Option String) (format : ReportFormat)
  | simulate (script : String) (config : Option String) (format : ReportFormat)
      (context : Context)
deriving Repr

/-- The circumstances that the options of a simulation describe. -/
def contextOf (r : Reading) : Context :=
  let role := ((r.values.get? .role).bind roleOfName?).getD .coordinator
  let base := if r.values.contains .fromCoordinator then Context.routed role
    else .topLevel role
  { base with
    readOnly := r.values.contains .readOnly
    inRecovery := r.values.contains .recovery
    isRestricted := r.values.contains .restricted
    superuser := !r.values.contains .ordinaryUser }

/-- The format that the options ask for. -/
def formatOf (r : Reading) : ReportFormat :=
  ((r.values.get? .format).bind formatOfName?).getD .table

/-- The command of a subcommand's values. -/
def commandOf (s : Subcommand) (r : Reading) : Except UsageProblem Command :=
  match s, r.values.get? .script with
  | .version, _ => .ok .version
  | _, none => .error .missingArgument
  | .classify, some script =>
      .ok (.classify script (r.values.get? .config) (formatOf r))
  | .simulate, some script =>
      .ok (.simulate script (r.values.get? .config) (formatOf r) (contextOf r))

/-- How much is logged by the options of a level, if they say so. -/
def verbosityOf (r : Reading) : Option Verbosity :=
  if r.values.contains .verbose then some .debug
  else (r.values.get? .logLevel).bind Verbosity.ofName?

/-- A command, and how much is logged. -/
structure Invocation where
  command : Command
  verbosity : Verbosity
deriving Repr

/-- Reads the arguments of a subcommand. -/
def readSubcommand (s : Subcommand) (args : List String) :
    Except UsageProblem (Command × Option Verbosity) := do
  let (r, _) ← readLevel (.sub s) args false .start
  let r ← r.settle
  return (← commandOf s r, verbosityOf r)

/-- What is wrong where no subcommand was named. -/
def withoutSubcommand (r : Reading) : UsageProblem :=
  if r.values.size = 0 then .nothingGiven else .missingSubcommand

/-- Reads all arguments. -/
def parse (args : List String) : Except UsageProblem Invocation := do
  match ← readLevel .root args false .start with
  | (r, none) => .error (withoutSubcommand (← r.settle))
  | (r, some (word, rest)) =>
      match Subcommand.ofName? word with
      | none => .error (helpOn rest)
      | some s => do
          let (command, verbosity) ← readSubcommand s rest
          let r ← r.settle
          return ⟨command, (verbosity.or (verbosityOf r)).getD .warn⟩

end ClusterUtility.CommandLine
