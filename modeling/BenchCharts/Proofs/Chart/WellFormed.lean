import BenchCharts.Chart

/-!
Well-formed charts: each line has one value for each tick and something to draw, and no tick stands
twice. Adding to a chart keeps it so.
-/

namespace BenchCharts.Chart

structure WellFormed (chart : Chart) : Prop where
  length_values : ∀ line ∈ chart.lines, line.values.length = chart.ticks.length
  exists_number : ∀ line ∈ chart.lines, ∃ x ∈ line.values, x.isNaN = false
  ticks_nodup : chart.ticks.Nodup

theorem WellFormed.of_no_lines {chart : Chart} (h : chart.ticks.Nodup) (hl : chart.lines = []) :
    chart.WellFormed where
  length_values := by simp [hl]
  exists_number := by simp [hl]
  ticks_nodup := h

theorem ticks_addLine (chart : Chart) (line : Line) : (chart.addLine line).ticks = chart.ticks := by
  rw [addLine_eq]

theorem ticks_addLines (chart : Chart) (lines : List Line) :
    (chart.addLines lines).ticks = chart.ticks := by
  rw [addLines_eq]

theorem WellFormed.addLines {chart : Chart} (h : chart.WellFormed) {lines : List Line}
    (hl : ∀ line ∈ lines, line.values.length = chart.ticks.length) :
    (chart.addLines lines).WellFormed where
  length_values := by
    intro line hm
    rw [ticks_addLines]
    rw [lines_addLines, List.mem_append, List.mem_filter] at hm
    rcases hm with hm | ⟨hm, _⟩
    · exact h.length_values line hm
    · exact hl line hm
  exists_number := by
    intro line hm
    rw [lines_addLines, List.mem_append, List.mem_filter] at hm
    rcases hm with hm | ⟨_, hv⟩
    · exact h.exists_number line hm
    · obtain ⟨x, hx, hn⟩ := List.any_eq_true.mp hv
      exact ⟨x, hx, (Bool.not_eq_true' _).mp hn⟩
  ticks_nodup := by
    rw [ticks_addLines]
    exact h.ticks_nodup

theorem WellFormed.addLine {chart : Chart} (h : chart.WellFormed) {line : Line}
    (hl : line.values.length = chart.ticks.length) : (chart.addLine line).WellFormed := by
  have hlines : ∀ l ∈ [line], l.values.length = chart.ticks.length :=
    fun _ hm => List.mem_singleton.mp hm ▸ hl
  exact h.addLines hlines

theorem WellFormed.addReference {chart : Chart} (h : chart.WellFormed) (reference : Reference) :
    (chart.addReference reference).WellFormed :=
  ⟨h.length_values, h.exists_number, h.ticks_nodup⟩

theorem WellFormed.isBlank_of_ticks {chart : Chart} (h : chart.WellFormed)
    (ht : chart.ticks = []) : chart.isBlank = true := by
  apply List.isEmpty_iff.mpr
  apply List.eq_nil_iff_forall_not_mem.mpr
  intro line hm
  obtain ⟨x, hx, _⟩ := h.exists_number line hm
  have hlength := h.length_values line hm
  rw [ht, List.length_nil] at hlength
  rw [List.length_eq_zero_iff.mp hlength] at hx
  cases hx

end BenchCharts.Chart
