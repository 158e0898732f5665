import BenchCharts.Plan.Loading
import BenchCharts.Report.Load

/-!
The plan of the report on work under load.
-/

namespace BenchCharts.Load

def standardOut : Path := .ofString "./charts"

/-- Warns of a source that has times but none of one thread. -/
def scalingRemarks (results : Results) : List Remark :=
  match times? results with
  | some times =>
    if (speedup? times).isNone then
      [.warning s!"{results.source}: no 'main' baseline found (threads=1); skipping"]
    else []
  | none => []

def plan (setting : Setting) (tree : FileTree) (request : ReportRequest) : Plan :=
  let out := request.out.getD standardOut
  let (said, results) := setting.loadSources tree request.input "withload" groupSet
  let scalings := results.filterMap scaling?
  (said ++ results.flatMap scalingRemarks).map .say ++
    if scalings.isEmpty then
      .say (.warning "No speedup data to plot") ::
        if results.isEmpty then [.say inputHint] else []
    else
      setting.chartSteps request xLabel (speedupChart scalings setting.config)
          (out / .ofString "withload_speedup.png") ++
        setting.chartSteps request xLabel (efficiencyChart scalings setting.config)
          (out / .ofString "withload_efficiency.png")

end BenchCharts.Load
