import BenchCharts.Proofs.Alignment.Union
import Mathlib.Data.List.FinRange
import Mathlib.Data.List.OfFn
import Mathlib.Data.List.Sort

/-!
Series in another order: the axis and its kind stay, and the rows go with their series.
-/

namespace BenchCharts.Alignment

/-- A way to align series that takes no notice of their order. -/
def OrderFree (align : List CountSeries → Alignment) : Prop :=
  ∀ (series : List CountSeries) (σ : Equiv.Perm (Fin series.length)),
    ∃ rows : Fin series.length → List Float, (align series).values = .ofFn rows ∧
      align (.ofFn (series.get ∘ σ)) = { align series with values := .ofFn (rows ∘ σ) }

theorem orderFree_of_perm {align : List CountSeries → Alignment}
    (h : ∀ {series series' : List CountSeries}, series.Perm series' → ∃ counts row kind,
      align series = ⟨counts, series.map row, kind⟩ ∧
        align series' = ⟨counts, series'.map row, kind⟩) : OrderFree align := by
  intro series σ
  have hperm : series.Perm (.ofFn (series.get ∘ σ)) := by
    have h := σ.ofFn_comp_perm series.get
    rw [List.ofFn_get] at h
    exact h.symm
  obtain ⟨counts, row, kind, hseries, hreordered⟩ := h hperm
  refine ⟨row ∘ series.get, ?_, ?_⟩
  · rw [hseries, ← List.map_ofFn, List.ofFn_get]
  · rw [hreordered, hseries, List.map_ofFn]
    rfl

variable {series series' : List CountSeries}

theorem ne_nil_of_perm (h : series.Perm series') (hnil : series ≠ []) : series' ≠ [] :=
  fun he => hnil (List.perm_nil.mp (he ▸ h))

theorem sharedCounts_perm (h : series.Perm series') (hnil : series ≠ []) :
    sharedCounts series = sharedCounts series' := by
  apply (sharedCounts_ascending series).eq_of_mem_iff (sharedCounts_ascending series')
  intro count
  rw [mem_sharedCounts_iff hnil, mem_sharedCounts_iff (ne_nil_of_perm h hnil)]
  exact forall_congr' fun s => imp_congr_left h.mem_iff

theorem shortest_perm (h : series.Perm series') (hnil : series ≠ []) :
    shortest series = shortest series' := by
  have hleast := shortest_isLeast (ne_nil_of_perm h hnil)
  simp only [← h.mem_iff] at hleast
  exact (shortest_isLeast hnil).unique hleast

theorem shared_perm (h : series.Perm series') : ∃ counts row kind,
    shared series = ⟨counts, series.map row, kind⟩ ∧
      shared series' = ⟨counts, series'.map row, kind⟩ := by
  by_cases hnil : series = []
  · subst hnil
    rw [List.nil_perm.mp h]
    exact ⟨[], fun _ => [], .sharedCounts, rfl, rfl⟩
  have hnil' := ne_nil_of_perm h hnil
  have hcommon : (∃ count, ∀ s ∈ series, s.Usable count) ↔
      ∃ count, ∀ s ∈ series', s.Usable count :=
    exists_congr fun count => forall_congr' fun s => imp_congr_left h.mem_iff
  by_cases hc : ∃ count, ∀ s ∈ series, s.Usable count
  · rw [shared_of_common hnil hc, shared_of_common hnil' (hcommon.mp hc),
      ← sharedCounts_perm h hnil]
    exact ⟨_, _, _, rfl, rfl⟩
  · rw [shared_of_disjoint hnil hc, shared_of_disjoint hnil' (hcommon.not.mp hc), byPosition_eq,
      byPosition_eq, ← shortest_perm h hnil]
    exact ⟨_, _, _, rfl, rfl⟩

theorem union_perm (h : series.Perm series') : ∃ counts row kind,
    union series = ⟨counts, series.map row, kind⟩ ∧
      union series' = ⟨counts, series'.map row, kind⟩ := by
  have hcounts : (union series).counts = (union series').counts := by
    apply (union_regular series).ascending.eq_of_mem_iff (union_regular series').ascending
    intro count
    rw [mem_counts_union_iff, mem_counts_union_iff]
    exact exists_congr fun s => and_congr_left' h.mem_iff
  refine ⟨(union series).counts, fun s => (union series).counts.map s.valueAt, .union, rfl, ?_⟩
  rw [hcounts]
  rfl

/-- Neither the alignment on shared counts, whose axis starts from the first series, nor the union
depends on the order of the series. -/
theorem orderFree_shared_union : OrderFree shared ∧ OrderFree union :=
  ⟨orderFree_of_perm shared_perm, orderFree_of_perm union_perm⟩

end BenchCharts.Alignment
