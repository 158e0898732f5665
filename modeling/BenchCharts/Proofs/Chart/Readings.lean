import BenchCharts.Proofs.Alignment.Union
import BenchCharts.Proofs.Chart.WellFormed
import BenchCharts.Proofs.TimeUnit
import BenchCharts.Report.Results

/-!
What can be read off a chart: how each line looks, and the numbers along it with the texts of their
ticks. On the union of all counts a line is read as the usable points of its series.
-/

namespace BenchCharts

/-- The numbers of a line, each with the text of its tick. -/
def Line.readings (line : Line) (ticks : List String) : List (String × Float) :=
  (ticks.zip line.values).filter (!·.2.isNaN)

def Chart.readings (chart : Chart) : List (String × List (String × Float)) :=
  chart.lines.map fun line => (line.label, line.readings chart.ticks)

/-- What a line shows beside its values. -/
structure Look where
  label : String
  color : Color
  marker : Marker
  dash : Dash
  deriving DecidableEq, Repr

def Line.look (line : Line) : Look :=
  ⟨line.label, line.color, line.marker, line.dash⟩

def Line.view (line : Line) (ticks : List String) : Look × List (String × Float) :=
  (line.look, line.readings ticks)

def Chart.views (chart : Chart) : List (Look × List (String × Float)) :=
  chart.lines.map (·.view chart.ticks)

def SeriesKey.look (key : SeriesKey) (theme : Theme) (colorBy : ColorBy) : Look where
  label := s!"{key.source} {key.group}"
  color := colorBy.color theme key
  marker := .ofIndex key.sourceIndex
  dash := .ofIndex key.groupIndex

def TimeUnit.reading (unit : TimeUnit) (point : Nat × Float) : String × Float :=
  (toString point.1, unit.ofNanos point.2)

namespace Chart

theorem lines_addGuide (chart : Chart) (a : Alignment) (unit : TimeUnit) :
    (chart.addGuide a unit).lines = chart.lines := by
  unfold addGuide
  split <;> rfl

theorem ticks_addGuide (chart : Chart) (a : Alignment) (unit : TimeUnit) :
    (chart.addGuide a unit).ticks = chart.ticks := by
  unfold addGuide
  split <;> rfl

theorem readings_addGuide (chart : Chart) (a : Alignment) (unit : TimeUnit) :
    (chart.addGuide a unit).readings = chart.readings := by
  rw [readings, readings, lines_addGuide, ticks_addGuide]

theorem views_addGuide (chart : Chart) (a : Alignment) (unit : TimeUnit) :
    (chart.addGuide a unit).views = chart.views := by
  rw [views, views, lines_addGuide, ticks_addGuide]

theorem hasValue_of_readings {line : Line} {ticks : List String} (h : line.readings ticks ≠ []) :
    line.hasValue = true := by
  obtain ⟨⟨tick, x⟩, hm⟩ := List.exists_mem_of_ne_nil _ h
  obtain ⟨hz, hn⟩ := List.mem_filter.mp hm
  exact List.any_eq_true.mpr ⟨x, (List.of_mem_zip hz).2, hn⟩

theorem hasValue_iff_readings {line : Line} {ticks : List String}
    (h : line.values.length = ticks.length) :
    line.hasValue = true ↔ line.readings ticks ≠ [] := by
  constructor
  · intro hv
    obtain ⟨x, hx, hn⟩ := List.any_eq_true.mp hv
    have hvalues : (ticks.zip line.values).map (·.2) = line.values :=
      List.map_snd_zip (Nat.le_of_eq h)
    rw [← hvalues] at hx
    obtain ⟨point, hp, rfl⟩ := List.mem_map.mp hx
    exact List.ne_nil_of_mem (List.mem_filter.mpr ⟨hp, hn⟩)
  · exact hasValue_of_readings

theorem views_addLine (chart : Chart) (line : Line) :
    (chart.addLine line).views =
      chart.views ++ ([line].filter Line.hasValue).map (·.view chart.ticks) := by
  rw [views, lines_addLine, ticks_addLine, List.map_append]
  rfl

theorem views_addLines {chart : Chart} (hc : chart.lines = []) {lines : List Line}
    (hl : ∀ line ∈ lines, line.values.length = chart.ticks.length) :
    (chart.addLines lines).views =
      (lines.map (·.view chart.ticks)).filter (!·.2.isEmpty) := by
  rw [views, lines_addLines, ticks_addLines, hc, List.nil_append, List.filter_map]
  congr 1
  apply List.filter_congr
  intro line hm
  rw [Bool.eq_iff_iff, hasValue_iff_readings (hl line hm), Function.comp_apply, Line.view,
    Bool.not_eq_true', List.isEmpty_eq_false_iff]

theorem readings_addLines {chart : Chart} (hc : chart.lines = []) {lines : List Line}
    (h : ∀ line ∈ lines, line.readings chart.ticks ≠ []) :
    (chart.addLines lines).readings =
      lines.map fun line => (line.label, line.readings chart.ticks) := by
  have hkeep : lines.filter Line.hasValue = lines :=
    List.filter_eq_self.mpr fun line hm => hasValue_of_readings (h line hm)
  rw [readings, lines_addLines, ticks_addLines, hc, hkeep, List.nil_append]

end Chart

theorem Line.readings_union_map {series : List CountSeries} {f : Float → Float}
    (hf : ∀ x, (f x).isNaN = x.isNaN) {line : Line} {s : CountSeries} (hs : s ∈ series)
    (h : line.values = ((Alignment.union series).counts.map s.valueAt).map f) :
    line.readings ((Alignment.union series).ticks "") =
      s.usable.map fun point => (toString point.1, f point.2) := by
  have hasc := (Alignment.union_regular series).ascending
  have hcover (count : Nat) (hu : s.Usable count) := Alignment.mem_counts_union hs hu
  rw [readings, h, Alignment.ticks_union, List.map_map, List.zip_map',
    ← CountSeries.filter_valueAt_eq_usable hasc hcover, List.filter_map, List.filter_map,
    List.map_map]
  congr 1
  apply List.filter_congr
  intro count _
  simp only [Function.comp_apply, hf]

theorem Line.readings_union {series : List CountSeries} {unit : TimeUnit} {line : Line}
    {s : CountSeries} (hs : s ∈ series)
    (h : line.values = ((Alignment.union series).counts.map s.valueAt).map unit.ofNanos) :
    line.readings ((Alignment.union series).ticks "") = s.usable.map unit.reading :=
  readings_union_map unit.isNaN_ofNanos hs h

theorem readings_groupLines (groups : List (String × CountSeries)) (unit : TimeUnit)
    (theme : Theme) :
    let a := Alignment.union (groups.map (·.2))
    (groupLines a (groups.map (·.1)) unit theme).map
        (fun line => (line.label, line.readings (a.ticks ""))) =
      groups.map fun (group, s) => (group, s.usable.map unit.reading) := by
  intro a
  have hvalues : a.values = groups.map fun e => a.counts.map e.2.valueAt := List.map_map ..
  have hzip : a.values.zip (groups.map (·.1)) =
      groups.map fun e => (a.counts.map e.2.valueAt, e.1) := by
    rw [hvalues, List.zip_map']
  -- the place of a group among the others decides no more than a color
  have hplaces : groups.zipIdx.map (·.1) = groups := List.zipIdx_map_fst ..
  rw [groupLines, hzip, List.zipIdx_map, List.map_map, List.map_map]
  conv_rhs => rw [← hplaces, List.map_map]
  apply List.map_congr_left
  intro e he
  have hs : e.1.2 ∈ groups.map (·.2) := List.mem_map_of_mem (List.fst_mem_of_mem_zipIdx he)
  exact Prod.ext rfl (Line.readings_union hs rfl)

theorem views_overlayLines (keyed : List (SeriesKey × CountSeries)) (unit : TimeUnit)
    (theme : Theme) (colorBy : ColorBy) :
    let a := Alignment.union (keyed.map (·.2))
    (overlayLines a (keyed.map (·.1)) unit theme colorBy).map (·.view (a.ticks "")) =
      keyed.map fun (key, s) => (key.look theme colorBy, s.usable.map unit.reading) := by
  intro a
  have hvalues : a.values = keyed.map fun e => a.counts.map e.2.valueAt := List.map_map ..
  rw [overlayLines, hvalues, List.zip_map', List.map_map, List.map_map]
  apply List.map_congr_left
  intro e he
  have hs : e.2 ∈ keyed.map (·.2) := List.mem_map_of_mem he
  exact Prod.ext rfl (Line.readings_union hs rfl)

theorem readings_overlayLines (keyed : List (SeriesKey × CountSeries)) (unit : TimeUnit)
    (theme : Theme) (colorBy : ColorBy) :
    let a := Alignment.union (keyed.map (·.2))
    (overlayLines a (keyed.map (·.1)) unit theme colorBy).map
        (fun line => (line.label, line.readings (a.ticks ""))) =
      keyed.map fun (key, s) => (s!"{key.source} {key.group}", s.usable.map unit.reading) := by
  intro a
  have hviews := congrArg (List.map fun view => (view.1.label, view.2))
    (views_overlayLines keyed unit theme colorBy)
  rw [List.map_map, List.map_map] at hviews
  exact hviews

theorem looks_groupLines {a : Alignment} {groups : List String}
    (h : a.values.length = groups.length) (unit : TimeUnit) (theme : Theme) :
    (groupLines a groups unit theme).map Line.look = groups.zipIdx.map fun (group, position) =>
      ⟨group, theme.groupColor group position, .circle, .solid⟩ := by
  have hgroups : (a.values.zip groups).map (·.2) = groups := List.map_snd_zip (Nat.le_of_eq h.symm)
  rw [groupLines, List.map_map]
  conv_rhs => rw [← hgroups, List.zipIdx_map, List.map_map]
  rfl

theorem looks_overlayLines {a : Alignment} {keys : List SeriesKey}
    (h : a.values.length = keys.length) (unit : TimeUnit) (theme : Theme) (colorBy : ColorBy) :
    (overlayLines a keys unit theme colorBy).map Line.look =
      keys.map (·.look theme colorBy) := by
  have hkeys : (a.values.zip keys).map (·.2) = keys := List.map_snd_zip (Nat.le_of_eq h.symm)
  rw [overlayLines, List.map_map]
  conv_rhs => rw [← hkeys, List.map_map]
  rfl

end BenchCharts
