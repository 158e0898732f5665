import BenchCharts.Alignment
import BenchCharts.Chart

/-!
The lines of a chart from aligned series. Markers tell sources apart, dashes groups.
-/

namespace BenchCharts

/-- The lines of one source, one for each group, in the colors of the groups. -/
def groupLines (a : Alignment) (groups : List String) (unit : TimeUnit) (theme : Theme) :
    List Line :=
  (a.values.zip groups).zipIdx.map fun ((values, group), index) =>
    { label := group
      values := values.map unit.ofNanos
      color := theme.groupColor group index
      marker := .circle
      dash := .solid }

/-- The source and the group of a series, with their places in the configuration and the report. -/
structure SeriesKey where
  source : String
  sourceIndex : Nat
  group : String
  groupIndex : Nat

inductive ColorBy where
  | group
  /-- The source; all but its first group take its accent. -/
  | source

def ColorBy.color (choice : ColorBy) (theme : Theme) (key : SeriesKey) : Color :=
  match choice with
  | group => theme.groupColor key.group key.groupIndex
  | source =>
    if key.groupIndex = 0 then theme.sourceColor key.source key.sourceIndex
    else theme.sourceAccent key.source key.sourceIndex

/-- The lines of several sources, one for each key. -/
def overlayLines (a : Alignment) (keys : List SeriesKey) (unit : TimeUnit) (theme : Theme)
    (colorBy : ColorBy) : List Line :=
  (a.values.zip keys).map fun (values, key) =>
    { label := s!"{key.source} {key.group}"
      values := values.map unit.ofNanos
      color := colorBy.color theme key
      marker := .ofIndex key.sourceIndex
      dash := .ofIndex key.groupIndex }

end BenchCharts
