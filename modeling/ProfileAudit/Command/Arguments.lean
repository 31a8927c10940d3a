import ProfileAudit.Profile.Extract

/-!
The words after `check`. An option's value is only looked at when the next option, flag
or the end of the words settles it; a word that nothing knows is refused at once.
-/

namespace ProfileAudit

/-- Why words on the command line are not carried out. The first two are no faults. -/
inductive UsageError where
  | displayHelp
  | displayVersion
  | missingSubcommand
  | invalidSubcommand
  /-- An option or an operation that needs a profile has none. -/
  | missingRequiredArgument
  /-- An option lacks its value, or has one that it does not know. -/
  | invalidValue
  | unknownArgument
  /-- An option or a flag that was given before. -/
  | argumentConflict
  /-- A value given to a flag. -/
  | tooManyValues
  deriving DecidableEq, Inhabited

/-- How much is told about a run. -/
inductive LogLevel where
  | silent | error | warn | info | debug | trace
  deriving DecidableEq, Inhabited

namespace LogLevel

def all : List LogLevel := [silent, error, warn, info, debug, trace]

def name : LogLevel → String
  | silent => "none"
  | error => "error"
  | warn => "warn"
  | info => "info"
  | debug => "debug"
  | trace => "trace"

def ofName? (name : String) : Option LogLevel := all.find? (·.name == name)

end LogLevel

/-! ## The options of `check` -/

/-- Options that take a value. -/
inductive CheckOption where
  | address | bearerToken | kubeconfig | profile | allowListFile | ruleFile | targetSelectors
  | config | reportDir | logLevel
  deriving DecidableEq, Inhabited

namespace CheckOption

def all : List CheckOption := [address, bearerToken, kubeconfig, profile, allowListFile, ruleFile,
  targetSelectors, config, reportDir, logLevel]

def name : CheckOption → String
  | address => "address"
  | bearerToken => "bearer-token"
  | kubeconfig => "kubeconfig"
  | profile => "profile"
  | allowListFile => "allow-list-file"
  | ruleFile => "rule-file"
  | targetSelectors => "target-selectors"
  | config => "config"
  | reportDir => "report-dir"
  | logLevel => "log-level"

/-- The letter that stands for an option. -/
def letter? : CheckOption → Option Char
  | config => some 'c'
  | _ => none

/-- The variable of the environment that an option falls back to. -/
def fallback? : CheckOption → Option String
  | address => some "PROMETHEUS_ADDRESS"
  | bearerToken => some "PROMETHEUS_BEARER_TOKEN"
  | _ => none

/-- The option takes this value. -/
def admits : CheckOption → String → Bool
  | profile, value => (CollectionProfile.ofName? value false).isSome
  | logLevel, value => (LogLevel.ofName? value).isSome
  | _, _ => true

/-- The option says what is done with a profile, which therefore has to be named. -/
def needsProfile : CheckOption → Bool
  | allowListFile | ruleFile | targetSelectors => true
  | _ => false

end CheckOption

/-- Options that take no value. -/
inductive CheckFlag where
  | validate | status | outputCardinality | noisy
  deriving DecidableEq, Inhabited

namespace CheckFlag

def all : List CheckFlag := [validate, status, outputCardinality, noisy]

def name : CheckFlag → String
  | validate => "validate"
  | status => "status"
  | outputCardinality => "output-cardinality"
  | noisy => "noisy"

end CheckFlag

/-- What a name on the command line stands for. -/
inductive Switch where
  | help
  | flag (f : CheckFlag)
  | option (o : CheckOption)
  deriving DecidableEq

namespace Switch

/-- The switch of a name after two dashes. -/
def ofName? (name : String) : Option Switch :=
  if name = "help" then some help
  else
    ((CheckFlag.all.find? (·.name == name)).map flag).or
      ((CheckOption.all.find? (·.name == name)).map option)

/-- The switch of a letter after one dash. -/
def ofLetter? (letter : Char) : Option Switch :=
  if letter = 'h' then some help
  else (CheckOption.all.find? (·.letter? == some letter)).map option

end Switch

/-! ## Reading words -/

/-- A word on the command line by its form. -/
inductive Word where
  /-- Two dashes: all that follows is plain. -/
  | escape
  | long (name : String) (value : Option String)
  /-- A letter after one dash, and what follows it. -/
  | short (letter : Char) (rest : List Char)
  | plain (s : String)

def Word.ofText (s : String) : Word :=
  match s.toList with
  | ['-', '-'] => escape
  | '-' :: '-' :: cs =>
    match cs.dropWhile (· != '=') with
    | _ :: value => long (String.ofList (cs.takeWhile (· != '='))) (some (String.ofList value))
    | [] => long (String.ofList cs) none
  | '-' :: c :: cs => short c cs
  | _ => plain s

/-- The value that follows a letter, with or without an equals sign. -/
def attached? : List Char → Option String
  | [] => none
  | '=' :: cs => some (String.ofList cs)
  | cs => some (String.ofList cs)

/-- What was read so far. -/
structure Selection where
  values : List (CheckOption × String) := []
  flags : List CheckFlag := []
  /-- The option that was read last, and its value once that is there. -/
  pending : Option (CheckOption × Option String) := none

namespace Selection

/-- Gives a value to an option. -/
def assign (s : Selection) (o : CheckOption) (value : String) : Except UsageError Selection :=
  if (s.values.lookup o).isSome then .error .argumentConflict
  else if o.admits value then .ok { s with values := s.values ++ [(o, value)] }
  else .error .invalidValue

/-- Gives the option that was read last its value. -/
def settle (s : Selection) : Except UsageError Selection :=
  match s.pending with
  | none => .ok s
  | some (_, none) => .error .invalidValue
  | some (o, some value) => { s with pending := none }.assign o value

def raise (s : Selection) (f : CheckFlag) : Except UsageError Selection :=
  if s.flags.contains f then .error .argumentConflict else .ok { s with flags := s.flags ++ [f] }

/-- Reads a switch with the value that is attached to it. -/
def switch (s : Selection) (value : Option String) : Switch → Except UsageError Selection
  | .help => do
    discard s.settle
    .error .displayHelp
  | .flag f => do (← s.settle).raise f
  | .option o => do
    let s ← s.settle
    match value with
    | some value => s.assign o value
    | none => .ok { s with pending := some (o, none) }

/-- Reads a plain word, which has to be the value that an option waits for. -/
def plain (s : Selection) (word : String) : Except UsageError Selection :=
  match s.pending with
  | some (o, none) => .ok { s with pending := some (o, some word) }
  | _ => .error .unknownArgument

def readLong (s : Selection) (name : String) (value : Option String) :
    Except UsageError Selection :=
  match Switch.ofName? name with
  | none => .error .unknownArgument
  | some (.option o) => s.switch value (.option o)
  | some other => if value.isSome then .error .tooManyValues else s.switch none other

def readShort (s : Selection) (letter : Char) (rest : List Char) : Except UsageError Selection :=
  match Switch.ofLetter? letter with
  | none => .error .unknownArgument
  | some found => s.switch (attached? rest) found

/-- Reads all words. -/
def read (s : Selection) : List String → Except UsageError Selection
  | [] => s.settle
  | word :: words =>
    match Word.ofText word with
    | .escape => if words.isEmpty then s.settle else .error .unknownArgument
    | .long name value => do (← s.readLong name value).read words
    | .short letter rest => do (← s.readShort letter rest).read words
    | .plain word => do (← s.plain word).read words

/-- The selection asks for something that needs a profile. -/
def needsProfile (s : Selection) : Bool :=
  s.flags.contains .validate || s.values.any (·.1.needsProfile)

end Selection

/-! ## Arguments -/

/-- What `check` is asked to do. -/
structure CheckArgs where
  address : String := "http://localhost:9090"
  bearerToken : Option String := none
  kubeconfig : Option String := none
  profile : Option CollectionProfile := none
  validate : Bool := false
  status : Bool := false
  sources : ExtractSources := {}
  outputCardinality : Bool := false
  noisy : Bool := false
  config : Option String := none
  reportDir : Option String := none
  logLevel : LogLevel := .info
  deriving DecidableEq, Inhabited

/-- The variables that a program is started with. -/
abbrev Environment := List (String × String)

/-- The value of an option: the one that was given, or that of the option's variable. -/
def Selection.value? (s : Selection) (env : Environment) (o : CheckOption) : Option String :=
  (s.values.lookup o).or (o.fallback? >>= (List.lookup · env))

namespace CheckArgs

def ofSelection (s : Selection) (env : Environment) : CheckArgs where
  address := (s.value? env .address).getD "http://localhost:9090"
  bearerToken := s.value? env .bearerToken
  kubeconfig := s.value? env .kubeconfig
  profile := s.value? env .profile >>= (CollectionProfile.ofName? · false)
  validate := s.flags.contains .validate
  status := s.flags.contains .status
  sources := ⟨s.value? env .allowListFile, s.value? env .ruleFile, s.value? env .targetSelectors⟩
  outputCardinality := s.flags.contains .outputCardinality
  noisy := s.flags.contains .noisy
  config := s.value? env .config
  reportDir := s.value? env .reportDir
  logLevel := (s.value? env .logLevel >>= LogLevel.ofName?).getD .info

/-- What the words after `check` ask for. -/
def ofWords (env : Environment) (words : List String) : Except UsageError CheckArgs := do
  let s ← Selection.read {} words
  if s.needsProfile && (s.values.lookup .profile).isNone then .error .missingRequiredArgument
  return .ofSelection s env

/-- The monitors of the cluster are looked at. -/
def needsCluster (a : CheckArgs) : Bool := a.validate || a.status

/-- Something is to be done at all. -/
def anyOperation (a : CheckArgs) : Bool := a.needsCluster || !a.sources.isEmpty

end CheckArgs

end ProfileAudit
