import Upkeep.CommandLine.Grammar
import Upkeep.Job.Settings
import Upkeep.Plugin.Catalog

/-!
# The command line — listing plugins, running jobs, checking job files

`CommandLine.read` makes a request of the words of a command line. The arguments of a run are laid
over the settings of its job file by `RunArguments.over`: what is given wins, what is not given
stays.
-/

namespace Upkeep

/-- The arguments of a listing. -/
structure ListArguments where
  platform : Option String := none
  phase : Option String := none
  os : Option String := none
  brief : Bool := false
  detail : Bool := false
  deriving DecidableEq, Repr

/-- The arguments of a run. -/
structure RunArguments where
  /-- The urls on the way to the device, its own last. -/
  urls : List String := []
  hostname : Option String := none
  phase : Option String := none
  platform : Option String := none
  os : Option String := none
  logDir : Option String := none
  commands : List String := []
  packages : List String := []
  repositoryUrl : Option String := none
  /-- The job file. -/
  job : Option String := none
  /-- Whether the plugins are run in the order in which they are given, and no others. -/
  ordered : Bool := false
  plugins : List String := []
  deriving DecidableEq, Repr

/-- What a command line asks for. -/
inductive Request where
  | list (arguments : ListArguments)
  | run (arguments : RunArguments)
  | validate (path : String)
  deriving DecidableEq, Repr

/-- A command line. -/
structure CommandLine where
  /-- The file that declares script plugins. -/
  scripts : Option String := none
  request : Request
  deriving DecidableEq, Repr

/-- How much a listing tells; brief wins over detail. -/
def ListArguments.style (arguments : ListArguments) : ListStyle :=
  if arguments.brief then .brief else if arguments.detail then .detail else .normal

/-- The criteria of a listing. -/
def ListArguments.criteria (arguments : ListArguments) : Criteria :=
  let criteria : Criteria := { platform := arguments.platform, os := arguments.os }
  arguments.phase.elim criteria criteria.forPhase

/-- Lays the arguments over settings. An ordered run replaces the steps by its plugins, without
data; any other one replaces the names to which the job is restricted. -/
def RunArguments.over (arguments : RunArguments) (settings : JobSettings) : JobSettings :=
  let many (given old : List String) : List String := if given.isEmpty then old else given
  { settings with
    urls := many arguments.urls settings.urls
    hostname := arguments.hostname <|> settings.hostname
    phase := arguments.phase <|> settings.phase
    platform := arguments.platform <|> settings.platform
    os := arguments.os <|> settings.os
    logDir := arguments.logDir <|> settings.logDir
    commands := many arguments.commands settings.commands
    packages := many arguments.packages settings.packages
    repositoryUrl := arguments.repositoryUrl <|> settings.repositoryUrl
    steps :=
      if arguments.ordered then some (arguments.plugins.map fun plugin => { plugin })
      else settings.steps
    plugins :=
      if arguments.ordered then settings.plugins else many arguments.plugins settings.plugins }

namespace CommandLine

/-- An option whose value is a path, which may not be empty. -/
def path (name : String) : Parameter where
  name := name
  fault? value := if value.isEmpty then some .missingValue else none

/-- An option whose value is a phase. -/
def phase : Parameter where
  name := "phase"
  fault? value := if isKnownPhase value then none else some .badValue

/-- The option that every command takes. -/
def scriptsOption : Parameter := path "scripts"

/-- The grammar in front of a command. -/
def grammar : Grammar where
  options := [scriptsOption]
  subcommands := ["list", "run", "validate", "help"]

/-- The grammar of a listing. -/
def listGrammar : Grammar where
  options := [scriptsOption, { name := "platform" }, phase, { name := "os" },
    { name := "brief", arity := .switch }, { name := "detail", arity := .switch }]

/-- The grammar of a run. -/
def runGrammar : Grammar where
  options := [scriptsOption, { name := "url", arity := .many }, { name := "hostname" }, phase,
    { name := "platform" }, { name := "os" }, path "log-dir", { name := "cmd", arity := .many },
    { name := "package", arity := .many }, { name := "repository-url" }, path "job",
    { name := "mop", arity := .switch }]
  plain := some { name := "plugins", arity := .many }

/-- The grammar of a check. -/
def validateGrammar : Grammar where
  options := [scriptsOption]
  plain := some (path "path")

/-- How a command line is written. -/
def usage : String :=
  "Usage: upkeep [--scripts FILE] COMMAND\n\n" ++
    "  list [--platform NAME] [--phase PHASE] [--os NAME] [--brief | --detail]\n" ++
    "  run [--url URL]... [--hostname NAME] [--phase PHASE] [--platform NAME] [--os NAME]\n" ++
    "      [--log-dir DIR] [--cmd COMMAND]... [--package NAME]... [--repository-url URL]\n" ++
    "      [--job FILE] [--mop] [PLUGIN]...\n" ++
    "  validate FILE\n"

/-- Reads all the words of a command. -/
def readAll (grammar : Grammar) (words : List String) : Except UsageError Reading := do
  (← grammar.read false {} words).1.close

/-- Reads a listing. -/
def readList (reading : Reading) : Except UsageError Request := do
  if reading.has "brief" && reading.has "detail" then throw .conflict
  return .list
    { platform := reading.value? "platform"
      phase := reading.value? "phase"
      os := reading.value? "os"
      brief := reading.has "brief"
      detail := reading.has "detail" }

/-- Reads a run. -/
def readRun (reading : Reading) : Except UsageError Request := do
  if reading.has "mop" && !reading.has "plugins" then throw .missingArgument
  return .run
    { urls := reading.values "url"
      hostname := reading.value? "hostname"
      phase := reading.value? "phase"
      platform := reading.value? "platform"
      os := reading.value? "os"
      logDir := reading.value? "log-dir"
      commands := reading.values "cmd"
      packages := reading.values "package"
      repositoryUrl := reading.value? "repository-url"
      job := reading.value? "job"
      ordered := reading.has "mop"
      plugins := reading.values "plugins" }

/-- Reads a check. -/
def readValidate (reading : Reading) : Except UsageError Request :=
  match reading.value? "path" with
  | some path => .ok (.validate path)
  | none => .error .missingArgument

/-- The help on a command, which has to be there; commands have no subcommands. -/
def helpOn : List String → UsageError
  | [] => .help
  | [command] => if grammar.subcommands.contains command then .help else .unknownCommand
  | _ => .unknownCommand

/-- Reads a command line. The scripts named behind the command win over those before it. -/
def read (words : List String) : Except UsageError CommandLine := do
  let (outer, command) ← grammar.read false {} words
  let finish (grammar : Grammar) (request : Reading → Except UsageError Request)
      (rest : List String) : Except UsageError CommandLine := do
    let inner ← readAll grammar rest
    let request ← request inner
    let outer ← outer.close
    return { scripts := inner.value? "scripts" <|> outer.value? "scripts", request }
  match command with
  | none =>
    let outer ← outer.close
    throw (if outer.given.isEmpty then .nothing else .missingCommand)
  | some ("list", rest) => finish listGrammar readList rest
  | some ("run", rest) => finish runGrammar readRun rest
  | some ("validate", rest) => finish validateGrammar readValidate rest
  | some (_, rest) => throw (helpOn rest)

end CommandLine

end Upkeep
