import BenchCharts.Plan.Loading
import BenchCharts.Report.Overlay

/-!
The plan of the reports that compare worker and knitting.
-/

namespace BenchCharts.Overlay

def standardOut : Overlay → Path
  | latency => .ofString "./charts/latency_line.png"
  | multi => .ofString "./charts/multi_line.png"

def pairRemarks (home : Option Path) (results : Results) : List Remark :=
  let notes := match results.dataset.perSize? "worker", results.dataset.perSize? "knitting" with
    | some worker, some knitting => (Alignment.notes [worker, knitting]).map Remark.debug
    | _, _ => []
  notes ++ match Pair.ofResults results with
    | .ok pair =>
      [.debug (s!"{results.source}: {pair.own.length} aligned points " ++
        s!"({pair.own.kind.name})")]
    | .error .oneSided =>
      [.warning s!"{results.source}: needs both worker and knitting results; skipping"]
    | .error .noPoints =>
      [.warning s!"{results.source}: no aligned points in {results.path.shown home}"]

def plan (overlay : Overlay) (setting : Setting) (tree : FileTree) (request : ReportRequest) :
    Plan :=
  let (said, results) := setting.loadSources tree request.input overlay.kind groupSet
  let pairs := pairs results
  (said ++ results.flatMap (pairRemarks setting.home)).map .say ++
    if pairs.isEmpty then
      .say (.warning s!"No {overlay.kind} results to plot") ::
        if results.isEmpty then [.say inputHint] else []
    else
      let a := alignment pairs
      let notes := (Alignment.notes ((keyedSeries pairs).map (·.2))).map Remark.debug
      let degraded : List Remark :=
        if a.isDegraded then
          [.warning "No message count is shared by every series; points are paired by position"]
        else []
      let tables : List Remark :=
        if request.table then
          pairs.map fun pair => .table (pair.table (overlay.unit setting.config))
        else []
      (notes ++ degraded ++ tables).map .say ++
        setting.chartSteps request xLabel (overlay.chart pairs setting.config)
          (request.out.getD overlay.standardOut)

end BenchCharts.Overlay
