import BenchCharts.Chart.Lines
import BenchCharts.Config

/-!
The results that reports draw, and what their charts have in common.
-/

namespace BenchCharts

structure Results where
  source : String
  /-- The place of the source in the configuration; it decides markers and colors. -/
  index : Nat
  path : Path
  dataset : Dataset

def Scale.latencyAxis (scale : Scale) (unit : TimeUnit) : String :=
  s!"Average latency ({unit.symbol}{scale.describe})"

namespace Chart

def ofLatencies (title xLabel : String) (ticks : List String) (scale : Scale) (unit : TimeUnit) :
    Chart :=
  { title, xLabel, yLabel := scale.latencyAxis unit, ticks, scale }

/-- Adds the guide at 100 µs if the axis has the count 100. -/
def addGuide (chart : Chart) (a : Alignment) (unit : TimeUnit) : Chart :=
  if a.hasCount 100 then chart.addReference (.hundredMicros unit) else chart

end Chart

end BenchCharts
