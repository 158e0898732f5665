import Mathlib.Order.Bounds.Defs

/-!
The largest of some numbers, found by going through them.
-/

namespace BenchCharts

theorem isGreatest_foldl_max (f : α → Nat) {xs : List α} (h : xs ≠ []) :
    IsGreatest {n | ∃ x ∈ xs, f x = n} (xs.foldl (fun n x => max n (f x)) 0) := by
  obtain ⟨n, hn⟩ : ∃ n, (xs.map f).max? = some n := by
    apply Option.isSome_iff_exists.mp
    exact List.isSome_max?_of_ne_nil (mt List.map_eq_nil_iff.mp h)
  have hfold : xs.foldl (fun n x => max n (f x)) 0 = n := by
    rw [← List.foldl_map, List.foldl_max, hn, Option.getD_some, Nat.zero_max]
  obtain ⟨hmem, hle⟩ := List.max?_eq_some_iff.mp hn
  rw [hfold]
  refine ⟨List.mem_map.mp hmem, ?_⟩
  rintro _ ⟨x, hx, rfl⟩
  exact hle _ (List.mem_map_of_mem hx)

end BenchCharts
