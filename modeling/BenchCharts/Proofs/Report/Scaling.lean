import BenchCharts.Proofs.Alignment.Union
import BenchCharts.Proofs.Chart.WellFormed
import BenchCharts.Proofs.Report.Load

/-!
The two charts of the report on work under load have one axis, and lines of the same sources with
gaps at the same places: taking the share of each thread neither makes nor fills a gap.
-/

namespace BenchCharts.Load

/-- The numbers of threads at which a speedup is a number. -/
def axis (scalings : List Scaling) : List Nat :=
  (Alignment.union (scalings.map (·.speedup))).counts

/-- The sources with a speedup that is a number. -/
def shown (scalings : List Scaling) : List Scaling :=
  scalings.filter fun s => !s.speedup.usable.isEmpty

theorem isEmpty_usable_iff {series : CountSeries} :
    (!series.usable.isEmpty) = true ↔ ∃ n, series.Usable n := by
  rw [Bool.not_eq_true', List.isEmpty_eq_false_iff, CountSeries.usable_ne_nil_iff]

theorem Scaling.hasValue_line (s : Scaling) (theme : Theme) {series : CountSeries}
    {axis : List Nat} (h : ∀ n, series.Usable n → n ∈ axis) :
    (s.line theme (axis.map series.valueAt)).hasValue = !series.usable.isEmpty := by
  rw [Bool.eq_iff_iff, isEmpty_usable_iff, Line.hasValue, line, List.any_map, List.any_eq_true]
  constructor
  · rintro ⟨n, _, hn⟩
    exact ⟨n, CountSeries.isNaN_valueAt_eq_false_iff.mp ((Bool.not_eq_true' _).mp hn)⟩
  · rintro ⟨n, hn⟩
    have hnumber := CountSeries.isNaN_valueAt_eq_false_iff.mpr hn
    exact ⟨n, h n hn, (Bool.not_eq_true' _).mpr hnumber⟩

theorem filter_lines_union (pick : Scaling → CountSeries) (scalings : List Scaling)
    (theme : Theme) :
    let a := Alignment.union (scalings.map pick)
    (lines a scalings theme).filter Line.hasValue =
      (scalings.filter fun s => !(pick s).usable.isEmpty).map fun s =>
        s.line theme (a.counts.map (pick s).valueAt) := by
  intro a
  have hlines : lines a scalings theme =
      scalings.map fun s => s.line theme (a.counts.map (pick s).valueAt) :=
    lines_union pick scalings theme
  rw [hlines, List.filter_map]
  congr 1
  apply List.filter_congr
  intro s hs
  exact s.hasValue_line theme fun n =>
    Alignment.mem_counts_union (List.mem_map_of_mem (f := pick) hs)

theorem usableCounts_efficiency {speedup : CountSeries} (h : speedup.Bounded) :
    (efficiency speedup).usableCounts = speedup.usableCounts := by
  rw [CountSeries.usableCounts, usable_efficiency h, List.map_map]
  rfl

theorem usable_efficiency_iff {speedup : CountSeries} (h : speedup.Bounded) {n : Nat} :
    (efficiency speedup).Usable n ↔ speedup.Usable n := by
  rw [← CountSeries.mem_usableCounts_iff, usableCounts_efficiency h,
    CountSeries.mem_usableCounts_iff]

theorem counts_union_efficiency {scalings : List Scaling}
    (h : ∀ s ∈ scalings, s.speedup.Bounded) :
    (Alignment.union (scalings.map (·.efficiency))).counts =
      (Alignment.union (scalings.map (·.speedup))).counts := by
  rw [Alignment.union, Alignment.union, List.flatMap_map, List.flatMap_map]
  apply congrArg sortedKeys
  apply List.flatMap_congr
  intro s hs
  exact usableCounts_efficiency (h s hs)

theorem bounded_speedup {document : Document} {results : Results}
    (h : results.dataset = .extract document groupSet) {s : Scaling}
    (hs : scaling? results = some s) : s.speedup.Bounded := by
  obtain ⟨times, one, ht, _, rfl⟩ := scaling?_eq_some_iff.mp hs
  exact (bounded_times h ht).mapValues _

theorem mem_axis_iff {scalings : List Scaling} {n : Nat} :
    n ∈ axis scalings ↔ ∃ s ∈ scalings, s.speedup.Usable n := by
  rw [axis, Alignment.mem_counts_union_iff]
  simp only [List.mem_map, exists_exists_and_eq_and]

theorem axis_eq_nil_iff {scalings : List Scaling} : axis scalings = [] ↔ shown scalings = [] := by
  rw [List.eq_nil_iff_forall_not_mem, shown, List.filter_eq_nil_iff]
  simp only [mem_axis_iff, isEmpty_usable_iff, not_exists, not_and]
  exact ⟨fun hn s hs n => hn n s hs, fun hn n s hs => hn s hs n⟩

/-- The ideal line is drawn if there is an axis, because numbers of threads are numbers. -/
theorem filter_idealLine {scalings : List Scaling}
    (h : ∀ s ∈ scalings, s.speedup.Bounded) (theme : Theme) :
    [idealLine (axis scalings) theme].filter Line.hasValue =
      if axis scalings = [] then [] else [idealLine (axis scalings) theme] := by
  cases ha : axis scalings with
  | nil => rfl
  | cons n threads =>
    have hn : n ∈ axis scalings := ha ▸ List.mem_cons_self
    obtain ⟨s, hs, x, hx, _⟩ := mem_axis_iff.mp hn
    have hkey := OrderedMap.mem_keys_iff.mpr (Option.isSome_of_eq_some hx)
    obtain ⟨hpos, hlt⟩ := h s hs n hkey
    have hvalue : (idealLine (n :: threads) theme).hasValue = true := by
      rw [Line.hasValue, idealLine, List.map_cons, List.any_cons, Decimal.isNaN_ofNat hpos hlt]
      rfl
    rw [List.filter_singleton, hvalue]
    rfl

section Charts

variable (scalings : List Scaling) (config : Config)

theorem ticks_speedupChart :
    (speedupChart scalings config).ticks = (axis scalings).map toString := by
  rw [speedupChart, Chart.ticks_addLine, Chart.ticks_addLines]
  exact Alignment.ticks_union _

theorem lines_speedupChart :
    (speedupChart scalings config).lines =
      (shown scalings).map (fun s =>
        s.line config.theme ((axis scalings).map s.speedup.valueAt)) ++
        [idealLine (axis scalings) config.theme].filter Line.hasValue := by
  rw [speedupChart, Chart.lines_addLine, Chart.lines_addLines, filter_lines_union]
  rfl

variable {scalings}

theorem ticks_efficiencyChart (h : ∀ s ∈ scalings, s.speedup.Bounded) :
    (efficiencyChart scalings config).ticks = (axis scalings).map toString := by
  rw [axis, ← counts_union_efficiency h]
  -- the reference at 100 % changes neither the ticks nor the lines
  change (Chart.addLines _ _).ticks = _
  rw [Chart.ticks_addLines]
  exact Alignment.ticks_union _

theorem lines_efficiencyChart (h : ∀ s ∈ scalings, s.speedup.Bounded) :
    (efficiencyChart scalings config).lines =
      (shown scalings).map fun s =>
        s.line config.theme ((axis scalings).map s.efficiency.valueAt) := by
  have hshown : shown scalings = scalings.filter fun s => !s.efficiency.usable.isEmpty := by
    apply List.filter_congr
    intro s hs
    rw [Scaling.efficiency, usable_efficiency (h s hs), List.isEmpty_map]
  change (Chart.addLines _ _).lines = _
  rw [Chart.lines_addLines, filter_lines_union, counts_union_efficiency h, hshown]
  rfl

end Charts

/-- The axis of both charts has the numbers of threads at which a speedup is a number. A source has
a line in both charts or in neither, with gaps at the same places. The ideal line is drawn if there
is an axis. -/
theorem charts_match (results : List Results)
    (h : ∀ r ∈ results, ∃ document, r.dataset = .extract document groupSet) (config : Config) :
    let scalings := results.filterMap scaling?
    let speedup := speedupChart scalings config
    let efficiency := efficiencyChart scalings config
    ∃ threads : List Nat, threads.Pairwise (· < ·) ∧
      (∀ n, n ∈ threads ↔ ∃ s ∈ scalings, s.speedup.Usable n) ∧
      speedup.ticks = threads.map toString ∧ efficiency.ticks = threads.map toString ∧
      (∀ s ∈ scalings, ∀ n, (s.efficiency.valueAt n).isNaN = (s.speedup.valueAt n).isNaN) ∧
      speedup.lines =
        (shown scalings).map (fun s => s.line config.theme (threads.map s.speedup.valueAt)) ++
          (if threads = [] then [] else [idealLine threads config.theme]) ∧
      (idealLine threads config.theme).values = threads.map Float.ofNat ∧
      efficiency.lines =
        (shown scalings).map (fun s => s.line config.theme (threads.map s.efficiency.valueAt)) ∧
      speedup.isBlank = efficiency.isBlank := by
  intro scalings speedup efficiency
  have hbounds : ∀ s ∈ scalings, s.speedup.Bounded := by
    intro s hs
    obtain ⟨r, hr, hs⟩ := List.mem_filterMap.mp hs
    obtain ⟨document, hd⟩ := h r hr
    exact bounded_speedup hd hs
  have hlines : speedup.lines = (shown scalings).map (fun s =>
      s.line config.theme ((axis scalings).map s.speedup.valueAt)) ++
        (if axis scalings = [] then [] else [idealLine (axis scalings) config.theme]) := by
    rw [← filter_idealLine hbounds]
    exact lines_speedupChart scalings config
  have hlines' := lines_efficiencyChart config hbounds
  refine ⟨axis scalings, sortedKeys_ascending _, fun n => mem_axis_iff,
    ticks_speedupChart scalings config, ticks_efficiencyChart config hbounds, fun s hs n => ?_,
    hlines, rfl, hlines', ?_⟩
  · rw [Bool.eq_iff_iff, ← Bool.not_eq_false, ← Bool.not_eq_false]
    apply not_congr
    rw [CountSeries.isNaN_valueAt_eq_false_iff, CountSeries.isNaN_valueAt_eq_false_iff]
    exact usable_efficiency_iff (hbounds s hs)
  · rw [Chart.isBlank, Chart.isBlank, hlines, hlines', Bool.eq_iff_iff, List.isEmpty_iff,
      List.isEmpty_iff, List.append_eq_nil_iff, List.map_eq_nil_iff, List.map_eq_nil_iff]
    apply and_iff_left_of_imp
    intro hnil
    exact if_pos (axis_eq_nil_iff.mpr hnil)

/-- The second source has a time of zero where no other source has a time, and the third has no
other time at all. -/
theorem charts_match_gaps :
    let row (name : String) (time : Int) : Json :=
      .object [("name", .string name), ("avg", .int time)]
    let load (source : String) (index : Nat) (rows : List Json) : Results :=
      ⟨source, index, ⟨[]⟩, .extract (.mapping [(group, .array rows)]) groupSet⟩
    let results := [
      load "Node.js" 0 [row "main" 800, row "main + 1 extra threads" 400],
      load "Deno" 1 [row "main" 600, row "main + 2 extra threads" 200,
        row "main + 3 extra threads" 0],
      load "Bun" 2 [row "main" 0]]
    let scalings := results.filterMap scaling?
    let speedup := speedupChart scalings .standard
    let efficiency := efficiencyChart scalings .standard
    (∀ r ∈ results, ∃ document, r.dataset = .extract document groupSet) ∧
      scalings.map (·.source) = ["Node.js", "Deno", "Bun"] ∧
      speedup.ticks = ["1", "2", "3"] ∧ speedup.ticks = efficiency.ticks ∧
      speedup.lines.map (·.label) = ["Node.js", "Deno", "Ideal linear"] ∧
      efficiency.lines.map (·.label) = ["Node.js", "Deno"] ∧
      speedup.isBlank = efficiency.isBlank := by
  intro row load results scalings speedup efficiency
  have hload (source : String) (index : Nat) (rows : List Json) :
      ∃ document, (load source index rows).dataset = .extract document groupSet := ⟨_, rfl⟩
  have h : ∀ r ∈ results, ∃ document, r.dataset = .extract document groupSet :=
    List.forall_mem_cons.mpr ⟨hload .., List.forall_mem_cons.mpr ⟨hload ..,
      List.forall_mem_singleton.mpr (hload ..)⟩⟩
  obtain ⟨threads, -, -, hspeedup, hefficiency, -, -, -, -, hblank⟩ :=
    charts_match results h .standard
  have hticks : speedup.ticks = ["1", "2", "3"] := by decide +kernel
  exact ⟨h, by decide +kernel, hticks, hspeedup.trans hefficiency.symm, by decide +kernel,
    by decide +kernel, hblank⟩

end BenchCharts.Load
