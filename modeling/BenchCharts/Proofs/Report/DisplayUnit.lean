import BenchCharts.Proofs.Alignment.Shared
import BenchCharts.Proofs.Chart.Readings
import BenchCharts.Report.Ipc
import BenchCharts.Report.Load
import BenchCharts.Report.Overlay
import BenchCharts.Report.Types

/-!
The unit shown decides nothing but the unit. The chart of a latency report is one chart of
nanoseconds, each of them taken to the unit once; which lines it has does not depend on the unit.
-/

namespace BenchCharts

def Line.shownIn (line : Line) (unit : TimeUnit) : Line :=
  { line with values := line.values.map unit.ofNanos }

def Reference.shownIn (reference : Reference) (unit : TimeUnit) : Reference :=
  { reference with value := unit.ofNanos reference.value }

def Chart.shownIn (chart : Chart) (unit : TimeUnit) : Chart :=
  { chart with
    yLabel := chart.scale.latencyAxis unit
    lines := chart.lines.map (·.shownIn unit)
    references := chart.references.map (·.shownIn unit) }

theorem TimeUnit.ofNanos_nan (unit : TimeUnit) : unit.ofNanos Decimal.nan = Decimal.nan := by
  cases unit <;> rfl

theorem Line.hasValue_shownIn (line : Line) (unit : TimeUnit) :
    (line.shownIn unit).hasValue = line.hasValue := by
  rw [hasValue, shownIn, List.any_map]
  refine List.any_congr rfl fun x => ?_
  rw [Function.comp_apply, unit.isNaN_ofNanos]

def hasNumber (row : List Float) : Bool :=
  row.any (!·.isNaN)

def Alignment.guides (a : Alignment) : List Float :=
  if a.hasCount 100 then [100000.0] else []

namespace Chart

/-- A chart of latencies before a unit is chosen. -/
def ofNanos (title xLabel : String) (ticks : List String) (scale : Scale) (lines : List Line)
    (guides : List Float) : Chart where
  title
  xLabel
  ticks
  scale
  lines := lines.filter Line.hasValue
  references := guides.map fun nanos => ⟨nanos, some "100 µs"⟩

section

variable (title xLabel : String) (ticks : List String) (scale : Scale) (lines : List Line)

theorem addLines_ofLatencies (unit : TimeUnit) :
    (ofLatencies title xLabel ticks scale unit).addLines (lines.map (·.shownIn unit)) =
      (ofNanos title xLabel ticks scale lines []).shownIn unit := by
  have hkeep : (lines.map (·.shownIn unit)).filter Line.hasValue =
      (lines.filter Line.hasValue).map (·.shownIn unit) := by
    rw [List.filter_map]
    congr 1
    exact List.filter_congr fun line _ => line.hasValue_shownIn unit
  rw [addLines_eq, hkeep]
  rfl

theorem addGuide_ofNanos (a : Alignment) (unit : TimeUnit) :
    ((ofNanos title xLabel ticks scale lines []).shownIn unit).addGuide a unit =
      (ofNanos title xLabel ticks scale lines a.guides).shownIn unit := by
  unfold addGuide Alignment.guides
  split <;> rfl

end

end Chart

theorem exists_groupLines {a : Alignment} {groups : List String}
    (h : a.values.length = groups.length) (theme : Theme) :
    ∃ lines : List Line, lines.map (·.values) = a.values ∧
      ∀ unit, groupLines a groups unit theme = lines.map (·.shownIn unit) := by
  refine ⟨(a.values.zip groups).zipIdx.map fun row =>
    ⟨row.1.2, row.1.1, theme.groupColor row.1.2 row.2, .circle, .solid⟩, ?_, fun unit => ?_⟩
  · have hrows : (a.values.zip groups).map (·.1) = a.values := List.map_fst_zip (Nat.le_of_eq h)
    have hplaces : (a.values.zip groups).zipIdx.map (·.1) = a.values.zip groups :=
      List.zipIdx_map_fst ..
    rw [List.map_map]
    conv_rhs => rw [← hrows, ← hplaces, List.map_map]
    rfl
  · rw [List.map_map]
    rfl

theorem exists_overlayLines {a : Alignment} {keys : List SeriesKey}
    (h : a.values.length = keys.length) (theme : Theme) (colorBy : ColorBy) :
    ∃ lines : List Line, lines.map (·.values) = a.values ∧
      ∀ unit, overlayLines a keys unit theme colorBy = lines.map (·.shownIn unit) := by
  refine ⟨(a.values.zip keys).map fun row =>
    ⟨s!"{row.2.source} {row.2.group}", row.1, colorBy.color theme row.2,
      .ofIndex row.2.sourceIndex, .ofIndex row.2.groupIndex⟩, ?_, fun unit => ?_⟩
  · rw [List.map_map]
    exact List.map_fst_zip (Nat.le_of_eq h)
  · rw [overlayLines, List.map_map]
    rfl

namespace Types

def rows (dataset : Dataset) (count : Nat) : List (List Float) :=
  let present := presentGroups dataset count
  present.map fun (_, _, points) =>
    (axis present).map fun type => (points.get? type).getD Decimal.nan

theorem exists_lines (dataset : Dataset) (count : Nat) (theme : Theme) :
    let present := presentGroups dataset count
    ∃ lines : List Line, lines.map (·.values) = rows dataset count ∧
      ∀ unit, (present.map fun (index, group, points) =>
        line (axis present) unit theme index group points) = lines.map (·.shownIn unit) := by
  intro present
  refine ⟨present.map fun (index, group, points) =>
    { line (axis present) .ns theme index group points with
      values := (axis present).map fun type => (points.get? type).getD Decimal.nan },
    ?_, fun unit => ?_⟩
  · rw [List.map_map]
    rfl
  · -- a gap is left as it is, which is what the unit would make of it
    have hgap (nanos? : Option Float) :
        (nanos?.map unit.ofNanos).getD Decimal.nan = unit.ofNanos (nanos?.getD Decimal.nan) := by
      cases nanos? with
      | none => exact unit.ofNanos_nan.symm
      | some nanos => rfl
    simp only [line, hgap, Line.shownIn, List.map_map, Function.comp_def]

end Types

/-- Two charts of the same rows and guides in nanoseconds, each in its own unit. -/
structure Chart.SameButUnit (rows : List (List Float)) (guides : List Float)
    (unit unit' : TimeUnit) (chart chart' : Chart) : Prop where
  title : chart'.title = chart.title
  xLabel : chart'.xLabel = chart.xLabel
  scale : chart'.scale = chart.scale
  yLabels : chart.yLabel = chart.scale.latencyAxis unit ∧
    chart'.yLabel = chart'.scale.latencyAxis unit'
  ticks : chart'.ticks = chart.ticks
  looks : chart'.lines.map Line.look = chart.lines.map Line.look
  gaps : chart'.lines.map (·.values.map Float.isNaN) = chart.lines.map (·.values.map Float.isNaN)
  values : chart.lines.map (·.values) = rows.map (·.map unit.ofNanos) ∧
    chart'.lines.map (·.values) = rows.map (·.map unit'.ofNanos)
  guideLabels : chart'.references.map (·.label) = chart.references.map (·.label)
  guides : chart.references.map (·.value) = guides.map unit.ofNanos ∧
    chart'.references.map (·.value) = guides.map unit'.ofNanos

namespace Chart

section

variable (nanos : Chart) (unit unit' : TimeUnit)

theorem looks_shownIn :
    (nanos.shownIn unit).lines.map Line.look = nanos.lines.map Line.look :=
  List.map_map ..

theorem gaps_shownIn :
    (nanos.shownIn unit).lines.map (·.values.map Float.isNaN) =
      nanos.lines.map (·.values.map Float.isNaN) := by
  rw [shownIn, List.map_map]
  refine List.map_congr_left fun line _ => ?_
  rw [Function.comp_apply, Line.shownIn, List.map_map]
  exact List.map_congr_left fun x _ => unit.isNaN_ofNanos x

theorem values_shownIn :
    (nanos.shownIn unit).lines.map (·.values) =
      (nanos.lines.map (·.values)).map (·.map unit.ofNanos) := by
  rw [shownIn, List.map_map, List.map_map]
  rfl

theorem guideLabels_shownIn :
    (nanos.shownIn unit).references.map (·.label) = nanos.references.map (·.label) :=
  List.map_map ..

theorem guides_shownIn :
    (nanos.shownIn unit).references.map (·.value) =
      (nanos.references.map (·.value)).map unit.ofNanos := by
  rw [shownIn, List.map_map, List.map_map]
  rfl

theorem sameButUnit_shownIn :
    SameButUnit (nanos.lines.map (·.values)) (nanos.references.map (·.value)) unit unit'
      (nanos.shownIn unit) (nanos.shownIn unit') where
  title := rfl
  xLabel := rfl
  scale := rfl
  yLabels := ⟨rfl, rfl⟩
  ticks := rfl
  looks := (looks_shownIn nanos unit').trans (looks_shownIn nanos unit).symm
  gaps := (gaps_shownIn nanos unit').trans (gaps_shownIn nanos unit).symm
  values := ⟨values_shownIn nanos unit, values_shownIn nanos unit'⟩
  guideLabels := (guideLabels_shownIn nanos unit').trans (guideLabels_shownIn nanos unit).symm
  guides := ⟨guides_shownIn nanos unit, guides_shownIn nanos unit'⟩

end

theorem sameButUnit_ofNanos {lines : List Line} {rows : List (List Float)}
    (hrows : lines.map (·.values) = rows) (title xLabel : String) (ticks : List String)
    (scale : Scale) (guides : List Float) (unit unit' : TimeUnit) :
    SameButUnit (rows.filter hasNumber) guides unit unit'
      ((ofNanos title xLabel ticks scale lines guides).shownIn unit)
      ((ofNanos title xLabel ticks scale lines guides).shownIn unit') := by
  have hsame := sameButUnit_shownIn (ofNanos title xLabel ticks scale lines guides) unit unit'
  have hkept : (ofNanos title xLabel ticks scale lines guides).lines.map (·.values) =
      rows.filter hasNumber := by
    rw [← hrows, List.filter_map]
    rfl
  have hguides : (ofNanos title xLabel ticks scale lines guides).references.map (·.value) =
      guides := by
    rw [ofNanos, List.map_map]
    exact List.map_id guides
  rwa [hkept, hguides] at hsame

end Chart

section

variable (config : Config) (choice choice' : Option TimeUnit)

namespace Ipc

theorem chartOf_shownIn (title : String) (a : Alignment) (unit : TimeUnit) (lines : List Line) :
    chartOf title a unit (lines.map (·.shownIn unit)) =
      (Chart.ofNanos title xLabel (a.ticks "") .log lines a.guides).shownIn unit := by
  rw [chartOf, Chart.addLines_ofLatencies, Chart.addGuide_ofNanos]

theorem sourceChart_sameButUnit (title : String) (dataset : Dataset) :
    let first := { config with displayUnit := choice }
    let second := { config with displayUnit := choice' }
    let a := Alignment.union ((presentGroups dataset).map (·.2.2))
    Chart.SameButUnit (a.values.filter hasNumber) a.guides (first.unitOr .ns) (second.unitOr .ns)
      (sourceChart title dataset first) (sourceChart title dataset second) := by
  intro first second a
  have hlength : a.values.length = ((presentGroups dataset).map (·.2.1)).length := by
    rw [Alignment.length_values_union, List.length_map, List.length_map]
  obtain ⟨lines, hrows, hlines⟩ := exists_groupLines hlength config.theme
  have hchart (choice : Option TimeUnit) :
      sourceChart title dataset { config with displayUnit := choice } =
        (Chart.ofNanos s!"IPC Benchmark: {title}" xLabel (a.ticks "") .log lines a.guides).shownIn
          (choice.getD .ns) := by
    unfold sourceChart
    dsimp only
    rw [hlines]
    exact chartOf_shownIn ..
  rw [hchart, hchart]
  exact Chart.sameButUnit_ofNanos hrows ..

theorem combinedChart_sameButUnit (results : List Results) :
    let first := { config with displayUnit := choice }
    let second := { config with displayUnit := choice' }
    let a := Alignment.union ((keyedSeries results).map (·.2))
    Chart.SameButUnit (a.values.filter hasNumber) a.guides (first.unitOr .ns) (second.unitOr .ns)
      (combinedChart results first) (combinedChart results second) := by
  intro first second a
  have hlength : a.values.length = ((keyedSeries results).map (·.1)).length := by
    rw [Alignment.length_values_union, List.length_map, List.length_map]
  obtain ⟨lines, hrows, hlines⟩ := exists_overlayLines hlength config.theme .group
  have hchart (choice : Option TimeUnit) :
      combinedChart results { config with displayUnit := choice } =
        (Chart.ofNanos "IPC Benchmark: Combined" xLabel (a.ticks "") .log lines a.guides).shownIn
          (choice.getD .ns) := by
    unfold combinedChart
    dsimp only
    rw [hlines]
    exact chartOf_shownIn ..
  rw [hchart, hchart]
  exact Chart.sameButUnit_ofNanos hrows ..

end Ipc

namespace Overlay

def guides (overlay : Overlay) (a : Alignment) : List Float :=
  match overlay with
  | latency => a.guides
  | multi => []

theorem chart_sameButUnit (overlay : Overlay) (pairs : List Pair) :
    let first := { config with displayUnit := choice }
    let second := { config with displayUnit := choice' }
    Chart.SameButUnit ((alignment pairs).values.filter hasNumber)
      (overlay.guides (alignment pairs)) (overlay.unit first) (overlay.unit second)
      (overlay.chart pairs first) (overlay.chart pairs second) := by
  intro first second
  have hlength : (alignment pairs).values.length = ((keyedSeries pairs).map (·.1)).length := by
    rw [alignment, (Alignment.shared_rows _).1, List.length_map, List.length_map]
  obtain ⟨lines, hrows, hlines⟩ := exists_overlayLines hlength config.theme .source
  have hchart (choice : Option TimeUnit) :
      overlay.chart pairs { config with displayUnit := choice } =
        (Chart.ofNanos overlay.title xLabel ((alignment pairs).ticks " msgs")
          (overlay.scale config) lines (overlay.guides (alignment pairs))).shownIn
            (overlay.unit { config with displayUnit := choice }) := by
    unfold chart
    dsimp only
    rw [hlines, Chart.addLines_ofLatencies]
    cases overlay with
    | latency => exact Chart.addGuide_ofNanos ..
    | multi => rfl
  rw [hchart, hchart]
  exact Chart.sameButUnit_ofNanos hrows ..

end Overlay

namespace Types

theorem chart?_sameButUnit (title : String) (count : Nat) (dataset : Dataset) :
    let first := { config with displayUnit := choice }
    let second := { config with displayUnit := choice' }
    Option.Rel
      (Chart.SameButUnit ((rows dataset count).filter hasNumber) [] (first.unitOr .us)
        (second.unitOr .us))
      (chart? title count dataset first) (chart? title count dataset second) := by
  intro first second
  obtain ⟨lines, hrows, hlines⟩ := exists_lines dataset count config.theme
  unfold chart?
  dsimp only
  split
  · exact .none
  · rw [hlines, hlines, Chart.addLines_ofLatencies, Chart.addLines_ofLatencies]
    exact .some (Chart.sameButUnit_ofNanos hrows ..)

end Types

end

/-- Two configurations that differ in the unit shown give charts of the same nanoseconds. The
report on load, which shows no latencies, does not see the difference. -/
theorem charts_sameButUnit (config : Config) (choice choice' : Option TimeUnit) :
    let first := { config with displayUnit := choice }
    let second := { config with displayUnit := choice' }
    (∀ title dataset,
      let a := Alignment.union ((Ipc.presentGroups dataset).map (·.2.2))
      Chart.SameButUnit (a.values.filter hasNumber) a.guides (first.unitOr .ns) (second.unitOr .ns)
        (Ipc.sourceChart title dataset first) (Ipc.sourceChart title dataset second)) ∧
      (∀ results,
        let a := Alignment.union ((Ipc.keyedSeries results).map (·.2))
        Chart.SameButUnit (a.values.filter hasNumber) a.guides (first.unitOr .ns)
          (second.unitOr .ns) (Ipc.combinedChart results first)
          (Ipc.combinedChart results second)) ∧
      (∀ overlay : Overlay, ∀ pairs,
        Chart.SameButUnit ((Overlay.alignment pairs).values.filter hasNumber)
          (overlay.guides (Overlay.alignment pairs)) (overlay.unit first) (overlay.unit second)
          (overlay.chart pairs first) (overlay.chart pairs second)) ∧
      (∀ title count dataset,
        Option.Rel (Chart.SameButUnit ((Types.rows dataset count).filter hasNumber) []
          (first.unitOr .us) (second.unitOr .us))
          (Types.chart? title count dataset first) (Types.chart? title count dataset second)) ∧
      ∀ scalings, Load.speedupChart scalings second = Load.speedupChart scalings first ∧
        Load.efficiencyChart scalings second = Load.efficiencyChart scalings first :=
  ⟨Ipc.sourceChart_sameButUnit config choice choice',
    Ipc.combinedChart_sameButUnit config choice choice',
    Overlay.chart_sameButUnit config choice choice',
    Types.chart?_sameButUnit config choice choice', fun _ => ⟨rfl, rfl⟩⟩

end BenchCharts
