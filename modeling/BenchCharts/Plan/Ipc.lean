import BenchCharts.Plan.Loading
import BenchCharts.Report.Ipc

/-!
The plan of the report on messages between processes.
-/

namespace BenchCharts.Ipc

def standardOut : Path := .ofString "./charts"

def isDrawn (chart : Chart) : Bool :=
  !chart.ticks.isEmpty && !chart.isBlank

def sourcePlan (setting : Setting) (request : ReportRequest) (title : String) (dataset : Dataset)
    (path : Path) : Plan :=
  let chart := sourceChart title dataset setting.config
  if chart.ticks.isEmpty then [.say (.warning s!"{title}: no counts found")]
  else setting.chartSteps request xLabel chart path

def combinedPlan (setting : Setting) (request : ReportRequest) (results : List Results)
    (path : Path) : Plan :=
  let chart := combinedChart results setting.config
  if chart.ticks.isEmpty then [.say (.warning "Combined chart has no data")]
  else setting.chartSteps request xLabel chart path

def filePlan (setting : Setting) (tree : FileTree) (request : ReportRequest) (out : Path) : Plan :=
  let title := Source.titleOf setting.config.sources request.input
  let (said, results) := Results.ofFile tree groupSet title 0 request.input
  said.map .say ++ match results with
    | .error issue => [.say (.warning (issue.skipWarning setting.home title))]
    | .ok results =>
      sourcePlan setting request title results.dataset (request.input.chartPath out)

def sourcePath (out : Path) (results : Results) : Path :=
  out / ⟨results.path.stem ++ ".png".toList⟩

def combinedPath (out : Path) : Path :=
  out / .ofString "ipc_combined.png"

def montagePath (out : Path) : Path :=
  out / .ofString "ipc_montage.png"

/-- The charts of single sources that get drawn. -/
def drawnPaths (setting : Setting) (results : List Results) (out : Path) : List Path :=
  (results.filter fun r => isDrawn (sourceChart r.source r.dataset setting.config)).map
    (sourcePath out)

def folderPlan (setting : Setting) (tree : FileTree) (request : ReportRequest) (montage : Bool)
    (out : Path) : Plan :=
  let (said, results) := setting.loadSources tree request.input "ipc" groupSet
  said.map .say ++
    if results.isEmpty then
      [.say (.warning s!"No IPC results found under {request.input.shown setting.home}"),
        .say inputHint]
    else
      let drawn := drawnPaths setting results out
      results.flatMap (fun r =>
          sourcePlan setting request r.source r.dataset (sourcePath out r)) ++
        (if 1 < results.length then combinedPlan setting request results (combinedPath out)
          else []) ++
        (if montage ∧ !drawn.isEmpty then [.stitch drawn (montagePath out)] else [])

def plan (setting : Setting) (tree : FileTree) (request : ReportRequest) (montage : Bool) : Plan :=
  let out := request.out.getD standardOut
  if tree.isFile request.input then filePlan setting tree request out
  else folderPlan setting tree request montage out

end BenchCharts.Ipc
