import BenchCharts.Proofs.Alignment.Regular
import BenchCharts.Proofs.Chart.WellFormed
import BenchCharts.Report.Ipc
import BenchCharts.Report.Load
import BenchCharts.Report.Overlay
import BenchCharts.Report.Types

/-!
Every chart that a report composes is well formed, whichever way its axis comes about.
-/

namespace BenchCharts

section

variable {a : Alignment} (h : a.Regular)

include h

theorem Alignment.Regular.groupLines_length (groups : List String) (unit : TimeUnit)
    (theme : Theme) :
    ∀ line ∈ groupLines a groups unit theme, line.values.length = a.counts.length := by
  intro line hm
  obtain ⟨⟨⟨values, group⟩, index⟩, hz, rfl⟩ := List.mem_map.mp hm
  have hv := (List.of_mem_zip (List.fst_mem_of_mem_zipIdx hz)).1
  exact (List.length_map _).trans (h.rows values hv)

theorem Alignment.Regular.overlayLines_length (keys : List SeriesKey) (unit : TimeUnit)
    (theme : Theme) (colorBy : ColorBy) :
    ∀ line ∈ overlayLines a keys unit theme colorBy, line.values.length = a.counts.length := by
  intro line hm
  obtain ⟨⟨values, key⟩, hz, rfl⟩ := List.mem_map.mp hm
  exact (List.length_map _).trans (h.rows values (List.of_mem_zip hz).1)

theorem Alignment.Regular.loadLines_length (scalings : List Load.Scaling) (theme : Theme) :
    ∀ line ∈ Load.lines a scalings theme, line.values.length = a.counts.length := by
  intro line hm
  obtain ⟨⟨s, values⟩, hz, rfl⟩ := List.mem_map.mp hm
  exact h.rows values (List.of_mem_zip hz).2

theorem Alignment.Regular.chart_wellFormed {chart : Chart} {suffix : String} {lines : List Line}
    (ht : chart.ticks = a.ticks suffix) (hn : chart.lines = [])
    (hl : ∀ line ∈ lines, line.values.length = a.counts.length) :
    (chart.addLines lines).WellFormed := by
  have hticks : chart.ticks.Nodup := ht ▸ h.ticks_nodup suffix
  apply (Chart.WellFormed.of_no_lines hticks hn).addLines
  rw [ht, Alignment.length_ticks]
  exact hl

end

theorem Chart.WellFormed.addGuide {chart : Chart} (h : chart.WellFormed) (a : Alignment)
    (unit : TimeUnit) : (chart.addGuide a unit).WellFormed := by
  unfold Chart.addGuide
  split
  · exact h.addReference _
  · exact h

namespace Ipc

theorem chartOf_wellFormed (title : String) {a : Alignment} (h : a.Regular) (unit : TimeUnit)
    {lines : List Line} (hl : ∀ line ∈ lines, line.values.length = a.counts.length) :
    (chartOf title a unit lines).WellFormed :=
  (h.chart_wellFormed rfl rfl hl).addGuide a unit

theorem sourceChart_wellFormed (title : String) (dataset : Dataset) (config : Config) :
    (sourceChart title dataset config).WellFormed := by
  have h := Alignment.union_regular ((presentGroups dataset).map (·.2.2))
  exact chartOf_wellFormed _ h _ (h.groupLines_length _ _ _)

theorem combinedChart_wellFormed (results : List Results) (config : Config) :
    (combinedChart results config).WellFormed := by
  have h := Alignment.union_regular ((keyedSeries results).map (·.2))
  exact chartOf_wellFormed _ h _ (h.overlayLines_length _ _ _ _)

end Ipc

theorem Overlay.chart_wellFormed (overlay : Overlay) (pairs : List Pair) (config : Config) :
    (overlay.chart pairs config).WellFormed := by
  have h : (alignment pairs).Regular := Alignment.shared_regular _
  have hchart : ((Chart.ofLatencies overlay.title xLabel ((alignment pairs).ticks " msgs")
      (overlay.scale config) (overlay.unit config)).addLines (overlayLines (alignment pairs)
        ((keyedSeries pairs).map (·.1)) (overlay.unit config) config.theme .source)).WellFormed :=
    h.chart_wellFormed rfl rfl (h.overlayLines_length _ _ _ _)
  cases overlay with
  | latency => exact hchart.addGuide _ _
  | multi => exact hchart

namespace Types

theorem preferredTypes_nodup : preferredTypes.Nodup := by
  decide

theorem chart?_wellFormed (title : String) (count : Nat) (dataset : Dataset) (config : Config) :
    ∀ chart ∈ chart? title count dataset config, chart.WellFormed := by
  intro chart hm
  unfold chart? at hm
  dsimp only at hm
  split at hm
  · cases hm
  · cases hm
    refine (Chart.WellFormed.of_no_lines ?_ rfl).addLines ?_
    · exact categoryAxis_nodup preferredTypes_nodup _
    · intro line hl
      obtain ⟨⟨index, group, points⟩, _, rfl⟩ := List.mem_map.mp hl
      exact List.length_map ..

end Types

namespace Load

theorem speedupChart_wellFormed (scalings : List Scaling) (config : Config) :
    (speedupChart scalings config).WellFormed := by
  have h := Alignment.union_regular (scalings.map (·.speedup))
  refine (h.chart_wellFormed rfl rfl (h.loadLines_length scalings config.theme)).addLine ?_
  rw [Chart.ticks_addLines, Alignment.length_ticks]
  exact List.length_map ..

theorem efficiencyChart_wellFormed (scalings : List Scaling) (config : Config) :
    (efficiencyChart scalings config).WellFormed := by
  have h := Alignment.union_regular (scalings.map (·.efficiency))
  exact (h.chart_wellFormed rfl rfl (h.loadLines_length scalings config.theme)).addReference _

end Load

/-- Every chart of every report is well formed. -/
theorem charts_wellFormed (config : Config) :
    (∀ title dataset, (Ipc.sourceChart title dataset config).WellFormed) ∧
      (∀ results, (Ipc.combinedChart results config).WellFormed) ∧
      (∀ overlay : Overlay, ∀ pairs, (overlay.chart pairs config).WellFormed) ∧
      (∀ title count dataset, ∀ chart ∈ Types.chart? title count dataset config,
        chart.WellFormed) ∧
      ∀ scalings, (Load.speedupChart scalings config).WellFormed ∧
        (Load.efficiencyChart scalings config).WellFormed :=
  ⟨fun title dataset => Ipc.sourceChart_wellFormed title dataset config,
    fun results => Ipc.combinedChart_wellFormed results config,
    fun overlay pairs => overlay.chart_wellFormed pairs config,
    fun title count dataset => Types.chart?_wellFormed title count dataset config,
    fun scalings => ⟨Load.speedupChart_wellFormed scalings config,
      Load.efficiencyChart_wellFormed scalings config⟩⟩

/-- The chart of a count at which one group has two types. -/
theorem charts_wellFormed_types :
    let dataset : Dataset :=
      ⟨[("worker", .perType (.ofList [(10, .ofList [("void", 1.0), ("array", 2.0)])]))], ⟨0, 0, 0⟩⟩
    ∃ chart ∈ Types.chart? "Deno" 10 dataset .standard, chart.WellFormed := by
  intro dataset
  exact ⟨_, rfl, (charts_wellFormed .standard).2.2.2.1 "Deno" 10 dataset _ rfl⟩

end BenchCharts
