import BenchCharts.Proofs.Plan.Loading
import BenchCharts.Proofs.Plan.Overlay
import BenchCharts.Proofs.Report.Charts
import BenchCharts.Proofs.Report.Load

/-!
The lines of a source in a chart of several sources. How they look, and on an axis of all counts
what can be read along them, is decided by the source and its place in the configuration. Other
sources come before or behind them and change nothing.
-/

namespace BenchCharts

namespace Overlay

def looks (theme : Theme) (r : Results) : List Look :=
  (keyedSeries (pairs [r])).map fun keyed => keyed.1.look theme .source

theorem keyedSeries_pairs (results : List Results) :
    keyedSeries (pairs results) = results.flatMap fun r => keyedSeries (pairs [r]) := by
  rw [keyedSeries, pairs, List.filterMap_eq_flatMap_toList, List.flatMap_assoc]
  apply List.flatMap_congr
  intro r _
  rw [keyedSeries, pairs, List.filterMap_eq_flatMap_toList, List.flatMap_singleton]

theorem looks_chart (overlay : Overlay) (results : List Results) (config : Config) :
    (overlay.chart (pairs results) config).lines.map Line.look =
      results.flatMap (looks config.theme) := by
  have hown : results.flatMap (looks config.theme) =
      (keyedSeries (pairs results)).map fun keyed => keyed.1.look config.theme .source := by
    rw [keyedSeries_pairs, List.map_flatMap]
    rfl
  by_cases hp : pairs results = []
  · rw [hown, lines_chart, hp]
    rfl
  · have hlength : (alignment (pairs results)).values.length =
        ((keyedSeries (pairs results)).map (·.1)).length := by
      rw [alignment, (Alignment.shared_rows _).1, List.length_map, List.length_map]
    rw [hown, lines_chart_of_nonempty overlay config (isEmpty_alignment_pairs hp),
      looks_overlayLines hlength, List.map_map]
    rfl

end Overlay

namespace Ipc

/-- The lines of a source: of each group that has a number, its look and its points. -/
def views (config : Config) (r : Results) : List (Look × List (String × Float)) :=
  ((keyedSeries [r]).map fun (key, s) =>
    (key.look config.theme .group, s.usable.map (config.unitOr .ns).reading)).filter (!·.2.isEmpty)

theorem keyedSeries_eq_flatMap (results : List Results) :
    keyedSeries results = results.flatMap fun r => keyedSeries [r] := by
  apply List.flatMap_congr
  intro r _
  rw [keyedSeries, List.flatMap_singleton]

theorem views_combinedChart (results : List Results) (config : Config) :
    (combinedChart results config).views = results.flatMap (views config) := by
  have hregular := Alignment.union_regular ((keyedSeries results).map (·.2))
  rw [combinedChart, chartOf, Chart.views_addGuide, Chart.views_addLines rfl]
  · exact (congrArg (List.filter _) (views_overlayLines (keyedSeries results) _ _ _)).trans (by
      rw [keyedSeries_eq_flatMap, List.map_flatMap, List.filter_flatMap]
      rfl)
  · intro line hl
    rw [Chart.ofLatencies, Alignment.length_ticks]
    exact hregular.overlayLines_length _ _ _ _ line hl

end Ipc

namespace Load

def Scaling.look (s : Scaling) (theme : Theme) : Look :=
  ⟨s.source, theme.sourceColor s.source s.index, .ofIndex s.index, .solid⟩

/-- What `pick` takes from the scaling of a source, if that has a number: its look and its
points. -/
def views (theme : Theme) (pick : Scaling → CountSeries) (r : Results) :
    List (Look × List (String × Float)) :=
  ((scaling? r).toList.map fun s =>
    (s.look theme, (pick s).usable.map fun point => (toString point.1, point.2))).filter
      (!·.2.isEmpty)

theorem views_lines (pick : Scaling → CountSeries) (scalings : List Scaling) (theme : Theme) :
    let a := Alignment.union (scalings.map pick)
    (lines a scalings theme).map (·.view (a.ticks "")) = scalings.map fun s =>
      (s.look theme, (pick s).usable.map fun point => (toString point.1, point.2)) := by
  intro a
  have hlines : lines a scalings theme =
      scalings.map fun s => s.line theme (a.counts.map (pick s).valueAt) :=
    lines_union pick scalings theme
  rw [hlines, List.map_map]
  apply List.map_congr_left
  intro s hs
  have hm : pick s ∈ scalings.map pick := List.mem_map_of_mem hs
  exact Prod.ext rfl (Line.readings_union_map (f := id) (fun _ => rfl) hm (List.map_id _).symm)

theorem views_addLines_lines (pick : Scaling → CountSeries) (results : List Results)
    (theme : Theme) {chart : Chart} (hc : chart.lines = [])
    (ht : chart.ticks = (Alignment.union ((results.filterMap scaling?).map pick)).ticks "") :
    (chart.addLines (lines (.union ((results.filterMap scaling?).map pick))
      (results.filterMap scaling?) theme)).views = results.flatMap (views theme pick) := by
  have hregular := Alignment.union_regular ((results.filterMap scaling?).map pick)
  rw [Chart.views_addLines hc, ht, views_lines, List.filterMap_eq_flatMap_toList,
    List.map_flatMap, List.filter_flatMap]
  · rfl
  · intro line hl
    rw [ht, Alignment.length_ticks]
    exact hregular.loadLines_length _ _ line hl

theorem views_speedupChart (results : List Results) (config : Config) :
    ∃ ideal, (speedupChart (results.filterMap scaling?) config).views =
        results.flatMap (views config.theme (·.speedup)) ++ ideal ∧
      ∀ view ∈ ideal, view.1 = (idealLine [] config.theme).look := by
  rw [speedupChart, Chart.views_addLine, views_addLines_lines _ results config.theme rfl rfl]
  refine ⟨_, rfl, fun view hv => ?_⟩
  obtain ⟨line, hl, rfl⟩ := List.mem_map.mp hv
  have hline := List.mem_singleton.mp (List.mem_filter.mp hl).1
  rw [hline]
  rfl

theorem views_efficiencyChart (results : List Results) (config : Config) :
    (efficiencyChart (results.filterMap scaling?) config).views =
      results.flatMap (views config.theme (·.efficiency)) :=
  views_addLines_lines _ results config.theme rfl rfl

end Load

/-- A chart of several sources is made of the lines of each source, one source behind the other. The
lines of a source depend on its name, its place and its data, and its place is the configured
one. -/
theorem appearance_independent_of_others (config : Config) :
    (∀ (overlay : Overlay) (results : List Results),
      (overlay.chart (Overlay.pairs results) config).lines.map Line.look =
        results.flatMap (Overlay.looks config.theme)) ∧
    (∀ results : List Results,
      (Ipc.combinedChart results config).views = results.flatMap (Ipc.views config)) ∧
    (∀ results : List Results, let scalings := results.filterMap Load.scaling?
      (∃ ideal, (Load.speedupChart scalings config).views =
          results.flatMap (Load.views config.theme (·.speedup)) ++ ideal ∧
        ∀ view ∈ ideal, view.1 = (Load.idealLine [] config.theme).look) ∧
      (Load.efficiencyChart scalings config).views =
        results.flatMap (Load.views config.theme (·.efficiency))) ∧
    (∀ source index dataset path path',
      let r : Results := ⟨source, index, path, dataset⟩
      let r' : Results := ⟨source, index, path', dataset⟩
      Overlay.looks config.theme r = Overlay.looks config.theme r' ∧
        Ipc.views config r = Ipc.views config r' ∧
        ∀ pick, Load.views config.theme pick r = Load.views config.theme pick r') ∧
    ∀ home tree input kind set,
      ∀ r ∈ (Setting.loadSources ⟨config, home⟩ tree input kind set).2, ∃ source,
        config.sources[r.index]? = some source ∧ r.source = source.name := by
  refine ⟨fun overlay results => overlay.looks_chart results config,
    fun results => Ipc.views_combinedChart results config,
    fun results => ⟨Load.views_speedupChart results config,
      Load.views_efficiencyChart results config⟩,
    fun source index dataset path path' => ⟨rfl, rfl, fun pick => rfl⟩,
    fun home tree input kind set r hr => ?_⟩
  obtain ⟨source, _, hs, hn, _⟩ := Setting.source_of_mem_loadSources hr
  exact ⟨source, hs, hn⟩

/-- The third source, without the other two and next to the first. -/
theorem appearance_independent_of_others_alone :
    let row : Json := .object [("name", .string "w (1)"), ("avg", .int 5)]
    let file : Json := .object [("worker", .array [row])]
    let load (tree : FileTree) : List Results :=
      (Setting.loadSources ⟨.standard, none⟩ tree (.ofString ".") "ipc" Ipc.groupSet).2
    let alone := load (.ofResults [("bun_ipc.json", file)])
    let joined := load (.ofResults [("node_ipc.json", file), ("bun_ipc.json", file)])
    let node : Look := ⟨"Node.js worker", .ofHex 0xff7f0e, .circle, .dashed⟩
    let bun : Look := ⟨"Bun worker", .ofHex 0xff7f0e, .triangle, .dashed⟩
    (Ipc.combinedChart alone .standard).views = [(bun, [("1", 5.0)])] ∧
      (Ipc.combinedChart joined .standard).views = [(node, [("1", 5.0)]), (bun, [("1", 5.0)])] ∧
      ∃ r ∈ alone, r.index = 2 ∧ ∃ source,
        Config.standard.sources[r.index]? = some source ∧ r.source = source.name := by
  intro row file load alone joined node bun
  obtain ⟨-, hviews, -, -, hplace⟩ := appearance_independent_of_others .standard
  have hindex : alone.map (·.index) = [2] := by decide +kernel
  obtain ⟨r, hr, hi⟩ := List.mem_map.mp (hindex ▸ List.mem_singleton_self 2)
  exact ⟨(hviews alone).trans (by decide +kernel), (hviews joined).trans (by decide +kernel), r, hr,
    hi, hplace none _ _ _ _ r hr⟩

end BenchCharts
