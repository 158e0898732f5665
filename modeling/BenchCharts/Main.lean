import BenchCharts.Png
import BenchCharts.Session

/-!
The program on the files of the system. Every file that a command may read is taken into a tree, the
command makes its plan from the tree, and the plan is carried out step by step.

Folders are known by the files found in them, so the report on payload types looks for the files
of the configured sources.
-/

namespace BenchCharts.Main

def fileError : IO.Error → FileError
  | .alreadyExists .. => .taken
  | .noFileOrDirectory .. => .notFound
  | .permissionDenied .. => .denied
  | .inappropriateType _ code _ => if code = 21 then .isFolder else .notFolder
  | e => .other (toString e)

def attempt (action : IO α) : IO (Except FileError α) :=
  tryCatch (do return .ok (← action)) fun e => pure (.error (fileError e))

/-- Takes one file or folder into a tree, if it is there. -/
def take (tree : FileTree) (path : Path) : IO FileTree := do
  let made := fun (folder : Path) => (tree.makeFolders folder).toOption.getD tree
  match ← attempt (IO.FS.readBinFile path.text) with
  | .ok data =>
    let tree := (path.parent?.map made).getD tree
    return ((tree.write path (.ofBytes data)).toOption).getD tree
  | .error .isFolder => return made path
  | .error _ => return tree

/-- Relative paths start from a folder with a name of its own. -/
def emptyTree : FileTree := .empty ["."]

def environment : IO Environment := do
  return {
    home := (← IO.getEnv "HOME").map Path.ofString
    configPath := ← IO.getEnv "BENCHPLOT_CONFIG_PATH"
    configHome := ← IO.getEnv "XDG_CONFIG_HOME"
    log := ← IO.getEnv "RUST_LOG"
    noColor := ← IO.getEnv "NO_COLOR"
    forceColor := ← IO.getEnv "CLICOLOR_FORCE" }

def say (voice : Voice) (remarks : List Remark) : IO Unit :=
  remarks.forM fun remark => (voice.line? remark).forM IO.eprint

def deliver (path : Path) (picture : Raster) (flaw? : Option PictureFlaw)
    (asFlaw : FileError → PictureFlaw) : IO (Option Failure) := do
  if let some parent := path.parent? then
    if parent.chars ≠ [] then
      if let .error e ← attempt (IO.FS.createDirAll parent.text) then
        return some (.noFolder parent e)
  let write := fun (data : ByteArray) (flaw? : Option PictureFlaw) => do
    match ← attempt (IO.FS.writeBinFile path.text data) with
    | .ok () => return flaw?.map (Failure.unwritable path ·)
    | .error e => return some (.unwritable path (asFlaw e))
  match flaw? with
  | none => write (Png.encode picture) none
  | some flaw =>
    if flaw.leavesFile then write .empty flaw else return some (.unwritable path flaw)

def stitch (setting : Setting) (voice : Voice) (inputs : List Path) (out : Path) :
    IO (Option Failure) := do
  let tree ← inputs.foldlM take emptyTree
  match setting.collect tree inputs with
  | (said, .error failure) =>
    say voice said
    return some failure
  | (said, .ok []) =>
    say voice (said ++ [Setting.nothingStitched])
    return none
  | (said, .ok rasters) =>
    say voice said
    let canvas := setting.canvas rasters
    match ← deliver out canvas (Raster.formatFlaw? out) .file with
    | some failure => return some failure
    | none =>
      say voice (setting.stitchedRemarks rasters.length canvas out)
      return none

def performStep (setting : Setting) (voice : Voice) : Step → IO (Option Failure)
  | .say remark => do
    say voice [remark]
    return none
  | .draw chart path => do
    match ← deliver path (setting.picture chart) (Chart.formatFlaw? path) .undelivered with
    | some failure => return some failure
    | none =>
      say voice (setting.drawnRemarks path)
      return none
  | .stitch inputs out => stitch setting voice inputs out

/-- Carries out a plan up to the first failure. -/
def perform (setting : Setting) (voice : Voice) : Plan → IO (Option Failure)
  | [] => return none
  | step :: steps => do
    match ← performStep setting voice step with
    | some failure => return some failure
    | none => perform setting voice steps

def invoke (invocation : Invocation) (environment : Environment) (voice : Voice) :
    IO (Option Failure) := do
  let place := (environment.configPlace? invocation.config).map (·.1)
  let tree ← place.toList.foldlM take emptyTree
  match Config.load environment tree invocation.config with
  | (said, .error failure) =>
    say voice said
    return some failure
  | (said, .ok config) =>
    say voice said
    let setting : Setting := ⟨config, environment.home⟩
    let tree ← (invocation.command.files config).foldlM take emptyTree
    perform setting voice (invocation.command.plan setting tree)

def run (arguments : List String) : IO UInt32 := do
  match CommandLine.read arguments with
  | .error .help =>
    IO.print Transcript.usageText
    return 0
  | .error .version =>
    IO.print Transcript.versionText
    return 0
  | .error .misuse =>
    IO.eprint Transcript.usageText
    return 2
  | .ok invocation =>
    let environment ← environment
    let voice := Voice.of environment invocation.verbosity
    match ← invoke invocation environment voice with
    | none => return 0
    | some failure =>
      say voice [.notice ⟨.error, failure.message⟩]
      return 1

end BenchCharts.Main

def main (arguments : List String) : IO UInt32 :=
  BenchCharts.Main.run arguments
