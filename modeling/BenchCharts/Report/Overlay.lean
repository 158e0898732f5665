import BenchCharts.Report.Results
import BenchCharts.Table

/-!
The reports that compare worker and knitting, with all sources on one chart.
-/

namespace BenchCharts

inductive Overlay where
  | latency
  /-- Messages over four threads. -/
  | multi
  deriving DecidableEq, Repr

namespace Overlay

def groupSet : GroupSet :=
  (GroupSet.exact .count ["worker", "knitting"]).pool "entries"

/-- What the result files are named for. -/
def kind : Overlay → String
  | latency => "latency"
  | multi => "multi"

def title : Overlay → String
  | latency => "Latency Benchmark: Worker vs Knitting"
  | multi => "Multi Benchmark (4 threads): Worker vs Knitting"

def scale (config : Config) : Overlay → Scale
  | latency => .symlog config.symlogThreshold
  | multi => .log

def unit (config : Config) : Overlay → TimeUnit
  | latency => config.unitOr .ns
  | multi => config.unitOr .us

def xLabel : String := "Messages"

structure Pair where
  source : String
  index : Nat
  worker : CountSeries
  knitting : CountSeries

/-- Why a source has no pair. -/
inductive Gap where
  /-- One of the groups is missing. -/
  | oneSided
  /-- No points of the two can be paired. -/
  | noPoints
  deriving DecidableEq, Repr

namespace Pair

def series (pair : Pair) : List CountSeries :=
  [pair.worker, pair.knitting]

/-- The two series aligned with each other alone. -/
def own (pair : Pair) : Alignment :=
  .shared pair.series

def ofResults (results : Results) : Except Gap Pair :=
  match results.dataset.perSize? "worker", results.dataset.perSize? "knitting" with
  | some worker, some knitting =>
    let pair := ⟨results.source, results.index, worker, knitting⟩
    if pair.own.isEmpty then .error .noPoints else .ok pair
  | _, _ => .error .oneSided

/-- The two series, each with its key. -/
def keyedSeries (pair : Pair) : List (SeriesKey × CountSeries) :=
  [(⟨pair.source, pair.index, "Worker", 0⟩, pair.worker),
    (⟨pair.source, pair.index, "Knitting", 1⟩, pair.knitting)]

/-- The two series as a table of their own. -/
def table (pair : Pair) (unit : TimeUnit) : String :=
  let columns := (["Worker", "Knitting"].zip pair.own.values).map fun (header, values) =>
    ⟨header, values.map unit.ofNanos⟩
  Table.render s!"{pair.source} [{unit.symbol}]" xLabel (pair.own.ticks "") columns

end Pair

/-- The pairs of all sources that have one. -/
def pairs (results : List Results) : List Pair :=
  results.filterMap fun r => (Pair.ofResults r).toOption

def keyedSeries (pairs : List Pair) : List (SeriesKey × CountSeries) :=
  pairs.flatMap (·.keyedSeries)

/-- All series aligned with each other. -/
def alignment (pairs : List Pair) : Alignment :=
  .shared ((keyedSeries pairs).map (·.2))

def chart (overlay : Overlay) (pairs : List Pair) (config : Config) : Chart :=
  let unit := overlay.unit config
  let a := alignment pairs
  let keys := (keyedSeries pairs).map (·.1)
  let chart :=
    (Chart.ofLatencies overlay.title xLabel (a.ticks " msgs") (overlay.scale config) unit).addLines
      (overlayLines a keys unit config.theme .source)
  match overlay with
  | latency => chart.addGuide a unit
  | multi => chart

end Overlay

end BenchCharts
