import BenchCharts.Report.Results

/-!
The report on types of payload: for each message count a chart with the types along its axis.
-/

namespace BenchCharts.Types

def groupSet : GroupSet :=
  ⟨.typed, [.leading "knitting fast", .leading "knitting", .leading "worker"], []⟩

/-- The groups in the order of their lines. -/
def groups : List String := ["worker", "knitting", "knitting fast"]

/-- The types that come first on the axis. -/
def preferredTypes : List String :=
  ["string", "large string", "number", "min bigint", "max bigint", "boolean true",
    "boolean false", "void", "small array", "big Array", "object", "big object"]

def xLabel : String := "Payload type"

/-- The groups that have points at a count, with their places in the report. -/
def presentGroups (dataset : Dataset) (count : Nat) : List (Nat × String × CategoryMap) :=
  groups.zipIdx.filterMap fun (group, index) =>
    let points := ((dataset.get? group).map (·.atCount count)).getD ∅
    if points.isEmpty then none else some (index, group, points)

def axis (present : List (Nat × String × CategoryMap)) : List String :=
  categoryAxis preferredTypes (present.map (·.2.2))

def line (types : List String) (unit : TimeUnit) (theme : Theme) (index : Nat) (group : String)
    (points : CategoryMap) : Line where
  label := String.ofList (Text.titleCase group.toList)
  values := types.map fun type => ((points.get? type).map unit.ofNanos).getD Decimal.nan
  color := theme.groupColor group index
  marker := .circle
  dash := .solid

/-- The chart of one count, if there are points at it. -/
def chart? (title : String) (count : Nat) (dataset : Dataset) (config : Config) : Option Chart :=
  let unit := config.unitOr .us
  let present := presentGroups dataset count
  let types := axis present
  let chart := Chart.ofLatencies s!"{title}: Types Benchmark (count={count})" xLabel types .log unit
  if present.isEmpty then none
  else some (chart.addLines
    (present.map fun (index, group, points) => line types unit config.theme index group points))

end BenchCharts.Types
