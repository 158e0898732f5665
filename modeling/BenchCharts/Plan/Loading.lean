import BenchCharts.Plan
import BenchCharts.Report.Results
import BenchCharts.Table

/-!
How reports come by their input. A source whose file is missing, malformed or empty is warned
about and left out.
-/

namespace BenchCharts

structure ReportRequest where
  input : Path
  out : Option Path
  /-- Whether to print what is drawn as tables, too. -/
  table : Bool

namespace FileTree

def document (tree : FileTree) (path : Path) : List Remark × Except Issue Document :=
  match tree.readText path with
  | .error e =>
    ([.debug s!"Failed to read {path.text}: {e.message}"],
      .error (.missing (String.ofList (path.fileName?.getD [])) (path.parent?.getD ⟨[]⟩)))
  | .ok s =>
    ((Document.notes s.toList).map .debug,
      match Document.ofText s.toList with
      | .ok document => .ok document
      | .error flaw => .error ((Issue.malformed none flaw.message).locate path))

def search (tree : FileTree) (input : Path) (source : Source) (file : String) :
    Except Issue Path :=
  match (source.candidates input file).find? tree.isFile with
  | some path => .ok path
  | none => .error (.missing file input)

/-- The files in a folder whose names end in a suffix, in ascending order. -/
def filesWithSuffix (tree : FileTree) (folder : Path) (suffix : String) :
    Except FileError (List Path) := do
  let names ← tree.list folder
  return ((names.filter fun name => suffix.toList.isSuffixOf name.toList).map
    (folder / .ofString ·)).filter tree.isFile

end FileTree

namespace Results

def ofFile (tree : FileTree) (set : GroupSet) (source : String) (index : Nat) (path : Path) :
    List Remark × Except Issue Results :=
  match tree.document path with
  | (said, .error issue) => (said, .error issue)
  | (said, .ok document) =>
    (said ++ (Dataset.notes document set).map .debug,
      .ok ⟨source, index, path, Dataset.extract document set⟩)

/-- Finds and reads the result file of a source, which has to hold something. -/
def load (tree : FileTree) (input : Path) (kind : String) (set : GroupSet) (source : Source)
    (index : Nat) : List Remark × Except Issue Results :=
  let file := source.fileName kind
  match tree.search input source file with
  | .error issue => ([], .error issue)
  | .ok path =>
    let (said, results) := ofFile tree set source.name index path
    (.debug s!"{source.name}: using {path.text}" :: said,
      match results with
      | .ok results => if results.dataset.isEmpty then .error (.empty file) else .ok results
      | .error issue => .error issue)

end Results

namespace Setting

def loadingRemarks (setting : Setting) (source : Source)
    (loading : List Remark × Except Issue Results) : List Remark :=
  match loading with
  | (said, .ok _) => said
  | (said, .error issue) => said ++ [.warning (issue.skipWarning setting.home source.name)]

/-- Loads the result files of a kind of all sources. -/
def loadSources (setting : Setting) (tree : FileTree) (input : Path) (kind : String)
    (set : GroupSet) : List Remark × List Results :=
  let loadings := setting.config.sources.zipIdx.map fun (source, index) =>
    (source, Results.load tree input kind set source index)
  (loadings.flatMap fun (source, loading) => setting.loadingRemarks source loading,
    loadings.filterMap fun (_, loading) => loading.2.toOption)

end Setting

def inputHint : Remark :=
  .hint "Pass the results directory with --input"

def Chart.table (chart : Chart) (xHeader : String) : String :=
  let title := if chart.yLabel = "" then chart.title else s!"{chart.title} [{chart.yLabel}]"
  Table.render title xHeader chart.ticks (chart.lines.map fun line => ⟨line.label, line.values⟩)

/-- Draws a chart, unless there is nothing to draw. -/
def Setting.drawSteps (setting : Setting) (chart : Chart) (path : Path) : Plan :=
  if chart.isBlank then
    [.say (.warning ((Issue.empty chart.title).skipWarning setting.home (path.shown setting.home)))]
  else [.draw chart path]

/-- Prints a chart as a table if asked to, and draws it. -/
def Setting.chartSteps (setting : Setting) (request : ReportRequest) (xHeader : String)
    (chart : Chart) (path : Path) : Plan :=
  (if request.table then [.say (.table (chart.table xHeader))] else []) ++
    setting.drawSteps chart path

end BenchCharts
