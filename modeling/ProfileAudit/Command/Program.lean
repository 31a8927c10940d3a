import ProfileAudit.Command.Check

/-!
The program: its commands, and how its end is told.
-/

namespace ProfileAudit

/-- The commands. -/
inductive Command where
  | check (args : CheckArgs)
  /-- Writes a configuration file. -/
  | init (path : Option String)
  deriving DecidableEq, Inhabited

/-! ## Reading the command line -/

/-- Reads the words after `init`: at most one path. -/
def readInit (path : Option String) : List String → Except UsageError (Option String)
  | [] => .ok path
  | word :: words =>
    match Word.ofText word, path with
    | .escape, none =>
      match words with
      | [] => .ok none
      | [p] => .ok (some p)
      | _ => .error .unknownArgument
    | .escape, some p => if words.isEmpty then .ok (some p) else .error .unknownArgument
    | .long "help" none, _ => .error .displayHelp
    | .long "help" (some _), _ => .error .tooManyValues
    | .short 'h' _, _ => .error .displayHelp
    | .plain p, none => readInit (some p) words
    | _, _ => .error .unknownArgument

/-- Reads the words after `help`: the name of a command, if any. -/
def readHelp : List String → UsageError
  | [] => .displayHelp
  | [name] => if ["check", "init", "help"].contains name then .displayHelp else .invalidSubcommand
  | _ => .invalidSubcommand

/-- Reads the words of a command line. -/
def Command.ofWords (env : Environment) : List String → Except UsageError Command
  | [] => .error .missingSubcommand
  | "check" :: words => (CheckArgs.ofWords env words).map check
  | "init" :: words => (readInit none words).map init
  | "help" :: words => .error (readHelp words)
  | word :: _ =>
    match Word.ofText word with
    | .long "help" none | .short 'h' _ => .error .displayHelp
    | .long "version" none | .short 'V' _ => .error .displayVersion
    | .long "help" (some _) | .long "version" (some _) => .error .tooManyValues
    | .plain _ => .error .invalidSubcommand
    | _ => .error .unknownArgument

/-! ## Running -/

/-- Writes a configuration file with the default values. -/
def initConfig (path : Option String) (j : Journal) : Except Failure Unit × Journal :=
  let path := path.getD Config.fileName
  match Config.saveDefault j.files path with
  | (files, .error f) => (.error f, { j with files })
  | (files, .ok ()) =>
    let line := s!"Generated default configuration file: {path}"
    (.ok (), { j with files, output := j.output ++ line ++ "\n" })

/-- Runs a command. -/
def Command.run (w : Setting) : Command → Journal → Except Failure Unit × Journal
  | check args, j => checkProfiles w args j
  | init path, j => initConfig path j

/-- The files that a command reads, and those or the directories that it writes. -/
def Command.paths (w : Setting) (files : FileTree) : Command → List String
  | init path => [path.getD Config.fileName]
  | check a =>
    let config := (Config.load files "." a.config).toOption
    [a.config.getD Config.fileName] ++ a.kubeconfig.toList ++ a.sources.allowListFile.toList ++
      a.sources.ruleFile.toList ++ (config.map fun c => (a.settings w c).reportDir).toList

/-! ## The end -/

def version : String := "cpv 0.1.0\n"

def help : String :=
"Validate Prometheus metric-collection profiles

Usage: cpv <COMMAND>

Commands:
  check  Validate, extract, or report the implementation status of collection profiles
  init   Generate a default configuration file
  help   Print this message or the help of the given subcommand(s)

Options:
  -h, --help     Print help
  -V, --version  Print version
"

namespace UsageError

/-- What is wrong with a command line. -/
def message : UsageError → String
  | displayHelp | missingSubcommand => help
  | displayVersion => version
  | invalidSubcommand => "error: unrecognized subcommand\n"
  | missingRequiredArgument => "error: --profile <NAME> is required\n"
  | invalidValue => "error: invalid or missing value of an option\n"
  | unknownArgument => "error: unexpected argument\n"
  | argumentConflict => "error: an argument cannot be used multiple times\n"
  | tooManyValues => "error: unexpected value of a flag\n"

/-- The words ask for nothing but a text. -/
def isRequest : UsageError → Bool
  | displayHelp | displayVersion => true
  | _ => false

end UsageError

/-- The end of a process: what it printed, its code, and the files that it left. -/
structure Ending where
  output : String := ""
  errors : String := ""
  code : Nat := 0
  files : FileTree

/-- The end of a process whose command line is not carried out. -/
def Ending.ofUsage (e : UsageError) (files : FileTree) : Ending :=
  if e.isRequest then { output := e.message, files }
  else { errors := e.message, code := 2, files }

/-- The end of a process after a run. A failure is printed unless the run ended the process
itself; a panic has a code of its own. -/
def Ending.ofRun (result : Except Failure Unit) (j : Journal) : Ending :=
  let ending : Ending := { output := j.output, errors := j.errors, files := j.files }
  match j.exit, result with
  | some code, _ => { ending with code }
  | none, .ok () => ending
  | none, .error f =>
    if f.isPanic then { ending with errors := j.errors ++ f.render ++ "\n", code := 101 }
    else { ending with errors := j.errors ++ "Error: " ++ f.render ++ "\n", code := 1 }

/-- Runs the program on the words of a command line. -/
def runProgram (w : Setting) (env : Environment) (words : List String) (files : FileTree) :
    Ending :=
  match Command.ofWords env words with
  | .error e => .ofUsage e files
  | .ok command =>
    let (result, j) := command.run w { files }
    .ofRun result j

end ProfileAudit
