import BenchCharts.Report.Results

/-!
The report on messages between processes: a chart for each source, with a line for each way to send
messages, and one chart of them all.
-/

namespace BenchCharts.Ipc

def groups : List String := ["knitting", "worker", "websocket", "http"]

def groupSet : GroupSet := .exact .count groups

def xLabel : String := "Message count"

/-- The groups that a dataset has, with their places in the report. -/
def presentGroups (dataset : Dataset) : List (Nat × String × CountSeries) :=
  groups.zipIdx.filterMap fun (group, index) =>
    (dataset.perSize? group).map fun series => (index, group, series)

/-- A chart over the union of the counts. -/
def chartOf (title : String) (a : Alignment) (unit : TimeUnit) (lines : List Line) : Chart :=
  ((Chart.ofLatencies title xLabel (a.ticks "") .log unit).addLines lines).addGuide a unit

def sourceChart (title : String) (dataset : Dataset) (config : Config) : Chart :=
  let unit := config.unitOr .ns
  let present := presentGroups dataset
  let a := Alignment.union (present.map (·.2.2))
  chartOf s!"IPC Benchmark: {title}" a unit
    (groupLines a (present.map (·.2.1)) unit config.theme)

/-- The series of all sources, each with its key. -/
def keyedSeries (results : List Results) : List (SeriesKey × CountSeries) :=
  results.flatMap fun r => (presentGroups r.dataset).map fun (groupIndex, group, series) =>
    (⟨r.source, r.index, group, groupIndex⟩, series)

def combinedChart (results : List Results) (config : Config) : Chart :=
  let unit := config.unitOr .ns
  let keyed := keyedSeries results
  let a := Alignment.union (keyed.map (·.2))
  chartOf "IPC Benchmark: Combined" a unit
    (overlayLines a (keyed.map (·.1)) unit config.theme .group)

end BenchCharts.Ipc
