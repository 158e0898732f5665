import BenchCharts.Proofs.Chart.Readings
import BenchCharts.Proofs.Dataset.Stored
import BenchCharts.Report.Ipc

/-!
The report on messages between processes shows every point of its sources and nothing else: in the
chart of a source and in the chart of them all each group has one line, with its points at their
counts.
-/

namespace BenchCharts

theorem CountSeries.Measured.usable_eq {s : CountSeries} (h : s.Measured) :
    s.usable = s.entries :=
  List.filter_eq_self.mpr fun point hp => by rw [h.isNaN_eq_false point hp]; rfl

namespace Ipc

/-- What a dataset has to show: its groups, each with all its points. -/
def readings (unit : TimeUnit) (dataset : Dataset) : List (String × List (String × Float)) :=
  groups.filterMap fun group => (dataset.get? group).map fun series =>
    (group, series.points.map unit.reading)

theorem map_presentGroups (dataset : Dataset) (f : String × CountSeries → α) :
    (presentGroups dataset).map (f ·.2) =
      groups.filterMap fun group => (dataset.perSize? group).map fun s => f (group, s) := by
  have hplaces : groups.zipIdx.map (·.1) = groups := List.zipIdx_map_fst ..
  rw [presentGroups, List.map_filterMap]
  conv_rhs => rw [← hplaces, List.filterMap_map]
  apply List.filterMap_congr
  intro e _
  rw [Option.map_map]
  rfl

section

variable {dataset : Dataset} (h : ∃ document, dataset = .extract document groupSet)

include h

theorem measured_of_get? {group : String} {series : GroupSeries}
    (hg : dataset.get? group = some series) :
    ∃ points : CountSeries, series = .perSize points ∧ points.Measured := by
  obtain ⟨document, rfl⟩ := h
  exact Dataset.measured_of_get?_extract (by decide) hg

theorem measured_of_mem_presentGroups :
    ∀ present ∈ presentGroups dataset, present.2.2.Measured := by
  intro present hp
  obtain ⟨⟨group, index⟩, _, he⟩ := List.mem_filterMap.mp hp
  obtain ⟨points, hs, rfl⟩ := Option.map_eq_some_iff.mp he
  obtain ⟨series, hg, hpoints⟩ := Option.bind_eq_some_iff.mp hs
  obtain ⟨points', rfl, hm⟩ := measured_of_get? h hg
  cases hpoints
  exact hm

theorem presentGroups_readings (unit : TimeUnit) :
    (presentGroups dataset).map (fun (_, group, s) => (group, s.usable.map unit.reading)) =
      readings unit dataset := by
  rw [map_presentGroups dataset fun e => (e.1, e.2.usable.map unit.reading)]
  apply List.filterMap_congr
  intro group _
  unfold Dataset.perSize?
  cases hg : dataset.get? group with
  | none => rfl
  | some series =>
    obtain ⟨points, rfl, hm⟩ := measured_of_get? h hg
    rw [Option.bind_some, Option.map_some, GroupSeries.points, ← hm.usable_eq]
    rfl

end

section

variable {a : Alignment} {unit : TimeUnit} {lines : List Line}
  {labelled : List (String × CountSeries)}
  (hl : lines.map (fun line => (line.label, line.readings (a.ticks ""))) =
    labelled.map fun (label, s) => (label, s.usable.map unit.reading))
  (hm : ∀ e ∈ labelled, e.2.Measured)

include hl hm

theorem readings_ne_nil : ∀ line ∈ lines, line.readings (a.ticks "") ≠ [] := by
  intro line hline
  have hmem := List.mem_map_of_mem (f := fun line : Line =>
    (line.label, line.readings (a.ticks ""))) hline
  rw [hl] at hmem
  obtain ⟨e, he, heq⟩ := List.mem_map.mp hmem
  rw [← (Prod.mk.inj heq).2, (hm e he).usable_eq]
  exact List.map_eq_nil_iff.not.mpr (hm e he).nonempty

theorem lines_chartOf (title : String) : (chartOf title a unit lines).lines = lines := by
  have hkeep : lines.filter Line.hasValue = lines :=
    List.filter_eq_self.mpr fun line hline =>
      Chart.hasValue_of_readings (readings_ne_nil hl hm line hline)
  rw [chartOf, Chart.lines_addGuide, Chart.lines_addLines, hkeep]
  exact List.nil_append lines

theorem readings_chartOf (title : String) :
    (chartOf title a unit lines).readings =
      labelled.map fun (label, s) => (label, s.usable.map unit.reading) := by
  rw [chartOf, Chart.readings_addGuide, ← hl]
  exact Chart.readings_addLines rfl (readings_ne_nil hl hm)

end

section

variable {dataset : Dataset} (h : ∃ document, dataset = .extract document groupSet)
  (title : String) (config : Config)

include h

theorem measured_of_mem_map_presentGroups :
    ∀ e ∈ (presentGroups dataset).map (·.2), e.2.Measured := by
  intro e he
  obtain ⟨present, hp, rfl⟩ := List.mem_map.mp he
  exact measured_of_mem_presentGroups h present hp

theorem lines_sourceChart :
    (sourceChart title dataset config).lines =
      groupLines (.union ((presentGroups dataset).map (·.2.2)))
        ((presentGroups dataset).map (·.2.1)) (config.unitOr .ns) config.theme := by
  have hlines := readings_groupLines ((presentGroups dataset).map (·.2)) (config.unitOr .ns)
    config.theme
  have hchart := lines_chartOf hlines (measured_of_mem_map_presentGroups h)
    s!"IPC Benchmark: {title}"
  rw [List.map_map, List.map_map] at hchart
  exact hchart

theorem readings_sourceChart :
    (sourceChart title dataset config).readings = readings (config.unitOr .ns) dataset := by
  have hlines := readings_groupLines ((presentGroups dataset).map (·.2)) (config.unitOr .ns)
    config.theme
  have hchart := readings_chartOf hlines (measured_of_mem_map_presentGroups h)
    s!"IPC Benchmark: {title}"
  rw [List.map_map, List.map_map, List.map_map] at hchart
  exact hchart.trans (presentGroups_readings h _)

end

section

variable {results : List Results}
  (h : ∀ r ∈ results, ∃ document, r.dataset = .extract document groupSet) (config : Config)

include h

theorem measured_of_mem_keyedSeries : ∀ keyed ∈ keyedSeries results, keyed.2.Measured := by
  intro keyed hk
  obtain ⟨r, hr, hk⟩ := List.mem_flatMap.mp hk
  obtain ⟨present, hp, rfl⟩ := List.mem_map.mp hk
  exact measured_of_mem_presentGroups (h r hr) present hp

theorem labelled_keyedSeries :
    let labelled := (keyedSeries results).map fun keyed =>
      (s!"{keyed.1.source} {keyed.1.group}", keyed.2)
    let a := Alignment.union ((keyedSeries results).map (·.2))
    (overlayLines a ((keyedSeries results).map (·.1)) (config.unitOr .ns) config.theme .group).map
        (fun line => (line.label, line.readings (a.ticks ""))) =
      labelled.map (fun (label, s) => (label, s.usable.map (config.unitOr .ns).reading)) ∧
    ∀ e ∈ labelled, e.2.Measured := by
  intro labelled a
  constructor
  · rw [readings_overlayLines (keyedSeries results), List.map_map]
    rfl
  · intro e he
    obtain ⟨keyed, hk, rfl⟩ := List.mem_map.mp he
    exact measured_of_mem_keyedSeries h keyed hk

theorem lines_combinedChart :
    (combinedChart results config).lines =
      overlayLines (.union ((keyedSeries results).map (·.2))) ((keyedSeries results).map (·.1))
        (config.unitOr .ns) config.theme .group := by
  obtain ⟨hlines, hm⟩ := labelled_keyedSeries h config
  exact lines_chartOf hlines hm "IPC Benchmark: Combined"

theorem readings_combinedChart :
    (combinedChart results config).readings = results.flatMap fun r =>
      (readings (config.unitOr .ns) r.dataset).map fun (group, points) =>
        (s!"{r.source} {group}", points) := by
  obtain ⟨hlines, hm⟩ := labelled_keyedSeries h config
  refine (readings_chartOf hlines hm "IPC Benchmark: Combined").trans ?_
  rw [List.map_map, keyedSeries, List.map_flatMap]
  apply List.flatMap_congr
  intro r hr
  rw [← presentGroups_readings (h r hr), List.map_map, List.map_map]
  rfl

end

/-- The chart of a source and its part of the chart of all sources have a line for each group that
its dataset has, with all points of the group at their counts, in the unit shown, and nothing
else. -/
theorem readings_source_and_combined (results : List Results)
    (h : ∀ r ∈ results, ∃ document, r.dataset = .extract document groupSet) (config : Config) :
    (∀ r ∈ results, ∀ title,
      (sourceChart title r.dataset config).readings = readings (config.unitOr .ns) r.dataset) ∧
      (combinedChart results config).readings = results.flatMap fun r =>
        (readings (config.unitOr .ns) r.dataset).map fun (group, points) =>
          (s!"{r.source} {group}", points) :=
  ⟨fun r hr title => readings_sourceChart (h r hr) title config, readings_combinedChart h config⟩

/-- Each source has a count that the other one lacks. -/
theorem readings_source_and_combined_gaps :
    let first : Document := .mapping
      [("http", .array [.object [("name", .string "h (10)"), ("avg", .int 2000)]]),
        ("knitting", .array [.object [("name", .string "k (1)"), ("avg", .int 500)],
          .object [("name", .string "k (100)"), ("avg", .string "90 us")]])]
    let second : Document := .mapping
      [("knitting", .array [.object [("name", .string "k (10)"), ("avg", .int 3)]])]
    let results : List Results :=
      [⟨"Node.js", 0, ⟨[]⟩, .extract first groupSet⟩, ⟨"Bun", 2, ⟨[]⟩, .extract second groupSet⟩]
    (∀ r ∈ results, ∃ document, r.dataset = .extract document groupSet) ∧
      (combinedChart results .standard).readings =
        [("Node.js knitting", [("1", 500.0), ("100", 90000.0)]),
          ("Node.js http", [("10", 2000.0)]), ("Bun knitting", [("10", 3.0)])] := by
  intro first second results
  have h : ∀ r ∈ results, ∃ document, r.dataset = .extract document groupSet := by
    intro r hr
    rcases List.mem_cons.mp hr with rfl | hr
    · exact ⟨first, rfl⟩
    · rcases List.mem_singleton.mp hr with rfl
      exact ⟨second, rfl⟩
  exact ⟨h, (readings_source_and_combined results h .standard).2.trans (by decide +kernel)⟩

end Ipc

end BenchCharts
