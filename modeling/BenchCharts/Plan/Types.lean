import BenchCharts.Plan.Loading
import BenchCharts.Report.Types

/-!
The plan of the report on types of payload.
-/

namespace BenchCharts.Types

def suffix : String := "_types.json"

def standardOut : Path := .ofString "./charts"

/-- Where the chart of a result file at a count goes. -/
def chartPath (out path : Path) (count : Nat) : Path :=
  out / ⟨path.stem ++ (s!"_count{count}.png").toList⟩

/-- The charts of a result file, each with its place. -/
def charts (setting : Setting) (out : Path) (title : String) (results : Results) :
    List (Chart × Path) :=
  results.dataset.allCounts.filterMap fun count =>
    (chart? title count results.dataset setting.config).map fun chart =>
      (chart, chartPath out results.path count)

def filePlan (setting : Setting) (tree : FileTree) (request : ReportRequest) (out path : Path) :
    Plan :=
  let title := Source.stemTitle path.stem
  let (said, results) := Results.ofFile tree groupSet title 0 path
  said.map .say ++ match results with
    | .error issue => [.say (.warning (issue.skipWarning setting.home title))]
    | .ok results =>
      let charts := charts setting out title results
      charts.flatMap (fun (chart, path) => setting.chartSteps request xLabel chart path) ++
        if charts.all fun (chart, _) => chart.isBlank then
          [.say (.warning s!"{path.shown setting.home}: nothing plotted (no counts found)")]
        else []

def plan (setting : Setting) (tree : FileTree) (request : ReportRequest) : Plan :=
  let out := request.out.getD standardOut
  let (said, paths) : List Remark × List Path :=
    match tree.filesWithSuffix request.input suffix with
    | .ok paths => ([], paths)
    | .error e => ([.debug s!"Failed to list {request.input.text}: {e.message}"], [])
  said.map .say ++
    if paths.isEmpty then
      [.say (.warning s!"No *{suffix} found in {request.input.shown setting.home}"),
        .say inputHint]
    else paths.flatMap (filePlan setting tree request out)

end BenchCharts.Types
