import BenchCharts.CommandLine.Reader
import BenchCharts.Config.Reader
import BenchCharts.Text.Plain

/-!
A run of the program: from its arguments, its environment and the files to its exit status, what it
prints and the files that it leaves.
-/

namespace BenchCharts

structure Environment where
  home : Option Path
  /-- The file of the configuration, unless the arguments name one. -/
  configPath : Option String := none
  /-- The folder of all configurations. -/
  configHome : Option String := none
  /-- What gets into the log, whatever the arguments say. -/
  log : Option String := none
  /-- If not empty, messages have no style. -/
  noColor : Option String := none
  /-- If there and not `0`, messages have their style without a terminal, too. -/
  forceColor : Option String := none

namespace Environment

/-- Whether messages keep their style. Without a terminal they do only if that is forced. -/
def isStyled (environment : Environment) : Bool :=
  environment.noColor.all (· == "") && environment.forceColor.any (· != "0")

/-- Where the configuration lies, and whether the user asked for just that file. -/
def configPlace? (environment : Environment) (asked : Option Path) : Option (Path × Bool) :=
  match asked, environment.configPath.filter (· != "") with
  | some path, _ => some (path, true)
  | none, some path => some (.ofString path, false)
  | none, none =>
    let folder := match (environment.configHome.map Path.ofString).filter Path.isAbsolute with
      | some folder => some folder
      | none => environment.home.map (· / Path.ofString ".config")
    folder.map fun folder => (folder / Path.ofString "benchplot/config.toml", false)

end Environment

namespace Config

/-- Finds and reads the configuration. Only a file that was asked for has to be there. -/
def load (environment : Environment) (tree : FileTree) (asked : Option Path) :
    List Remark × Except Failure Config :=
  match environment.configPlace? asked with
  | none => ([.debug "No config directory available; using defaults"], .ok standard)
  | some (path, explicit) =>
    if tree.contains path then
      match tree.readText path with
      | .error e => ([], .error (.unreadableConfig path e))
      | .ok text =>
        match ofText text.toList with
        | .error flaw => ([], .error (.malformedConfig path flaw))
        | .ok config => ([.debug s!"Loaded config from {path.text}"], .ok config)
    else if explicit then ([], .error (.noConfig path))
    else ([.debug s!"No config at {path.text}; using defaults"], .ok standard)

end Config

namespace Command

/-- The files that a command may read before it writes anything. -/
def files (config : Config) (command : Command) : List Path :=
  let results := fun (request : ReportRequest) (kind : String) =>
    request.input :: config.sources.flatMap fun source =>
      source.candidates request.input (source.fileName kind)
  match command with
  | .ipc request _ => results request "ipc"
  | .overlay kind request => results request kind.kind
  | .types request => results request "types"
  | .load request => results request "withload"
  | .montage _ _ => []

end Command

/-- Carries out a command with its configuration. -/
def Invocation.run (invocation : Invocation) (environment : Environment) (tree : FileTree) :
    Outcome :=
  match Config.load environment tree invocation.config with
  | (said, .error failure) => ⟨said, tree, some failure⟩
  | (said, .ok config) =>
    let setting : Setting := ⟨config, environment.home⟩
    (setting.perform tree (invocation.command.plan setting tree)).after said

namespace Detail

def name : Detail → String
  | info => "INFO "
  | debug => "DEBUG"

def colorCode : Detail → Nat
  | info => 32
  | debug => 34

end Detail

inductive LogLevel where
  | nothing
  | info
  | all
  deriving DecidableEq, Repr

namespace LogLevel

def admits : LogLevel → Detail → Bool
  | nothing, _ => false
  | info, detail => detail == .info
  | all, _ => true

/-- The level of a word in any ASCII letter case. -/
def ofWord? (word : List Char) : Option LogLevel :=
  match String.ofList (word.map Char.toLower) with
  | "off" => some nothing
  | "error" => some nothing
  | "warn" => some nothing
  | "info" => some info
  | "debug" => some all
  | "trace" => some all
  | _ => none

/-- The level of a list of words with commas between them; the last level counts. -/
def ofText (s : List Char) : LogLevel :=
  let words := (s.splitOn ',').map Text.trim
  ((words.filterMap ofWord?).getLast?).getD nothing

def ofVerbosity : Nat → LogLevel
  | 0 => nothing
  | 1 => info
  | _ => all

end LogLevel

structure Voice where
  level : LogLevel
  styled : Bool

namespace Voice

def of (environment : Environment) (verbosity : Nat) : Voice where
  level := match environment.log with
    | some text => .ofText text.toList
    | none => .ofVerbosity verbosity
  styled := environment.isStyled

def logHead (detail : Detail) : String :=
  let gray := Notice.styleCode 90
  let plain := Notice.styleCode 0
  s!"{gray}[{plain}{Notice.styleCode detail.colorCode}{detail.name}{plain}{gray}]{plain} "

/-- The line of a remark, if it is printed at all. -/
def line? (voice : Voice) (remark : Remark) : Option String :=
  let text? := match remark with
    | .log detail text =>
      if voice.level.admits detail then some s!"{logHead detail}{text}" else none
    | .notice notice => some notice.styled
    | .table text => some text
  text?.map fun text =>
    if voice.styled then s!"{text}\n" else String.ofList (Text.plain (text.toList ++ ['\n']))

end Voice

structure Transcript where
  exit : Nat
  stdout : String
  stderr : String
  tree : FileTree

namespace Transcript

def versionText : String := "benchplot 0.3.0\n"

def usageText : String :=
  let commands := Verb.all.map fun verb => s!"  {verb.name}: {verb.purpose}\n"
  "Usage: benchplot [--config PATH] [-v] COMMAND [OPTIONS]\n\nCommands:\n" ++
    String.join commands ++
    "\nOptions:\n  -i, --input PATH\n  -o, --out PATH\n  --table\n  --montage\n" ++
    "  --config PATH\n  -v, --verbose\n  -h, --help\n  -V, --version\n"

/-- The transcript of a command with some outcome. -/
def ofOutcome (voice : Voice) (outcome : Outcome) : Transcript :=
  let failure := (outcome.failure.map fun f => Remark.notice ⟨.error, f.message⟩).toList
  { exit := if outcome.failure.isSome then 1 else 0
    stdout := ""
    stderr := String.join ((outcome.remarks ++ failure).filterMap voice.line?)
    tree := outcome.tree }

def ofRun (environment : Environment) (tree : FileTree) (arguments : List String) : Transcript :=
  match CommandLine.read arguments with
  | .error .help => ⟨0, usageText, "", tree⟩
  | .error .version => ⟨0, versionText, "", tree⟩
  | .error .misuse => ⟨2, "", usageText, tree⟩
  | .ok invocation =>
    ofOutcome (.of environment invocation.verbosity) (invocation.run environment tree)

end Transcript

end BenchCharts
