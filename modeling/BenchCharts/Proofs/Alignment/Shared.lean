import BenchCharts.Alignment
import BenchCharts.Proofs.OrderedMap
import Mathlib.Data.List.Basic
import Mathlib.Data.Nat.Nth
import Mathlib.Data.Set.Card
import Mathlib.Order.Bounds.Basic

/-!
Alignment on shared counts: the axis is what all series have in common, and only if that is nothing
are the series paired by position, down to the shortest.
-/

namespace BenchCharts

namespace CountSeries

/-- Whether a series has a number at a count. -/
def Usable (s : CountSeries) (count : Nat) : Prop :=
  ∃ nanos, s.get? count = some nanos ∧ nanos.isNaN = false

theorem mem_usable_iff {s : CountSeries} {count : Nat} {nanos : Float} :
    (count, nanos) ∈ s.usable ↔ s.get? count = some nanos ∧ nanos.isNaN = false := by
  rw [usable, List.mem_filter, OrderedMap.get?_eq_some_iff, Bool.not_eq_true']

theorem Usable.usable_ne_nil {s : CountSeries} {count : Nat} (h : s.Usable count) :
    s.usable ≠ [] := by
  obtain ⟨nanos, hn⟩ := h
  exact List.ne_nil_of_mem (mem_usable_iff.mpr hn)

theorem usable_ne_nil_iff {s : CountSeries} : s.usable ≠ [] ↔ ∃ count, s.Usable count := by
  constructor
  · intro h
    obtain ⟨⟨count, nanos⟩, hm⟩ := List.exists_mem_of_ne_nil _ h
    exact ⟨count, nanos, mem_usable_iff.mp hm⟩
  · rintro ⟨count, h⟩
    exact h.usable_ne_nil

theorem mem_usableCounts_iff {s : CountSeries} {count : Nat} :
    count ∈ s.usableCounts ↔ s.Usable count := by
  constructor
  · intro h
    obtain ⟨⟨_, nanos⟩, hm, rfl⟩ := List.mem_map.mp h
    exact ⟨nanos, mem_usable_iff.mp hm⟩
  · rintro ⟨nanos, h⟩
    exact List.mem_map.mpr ⟨(count, nanos), mem_usable_iff.mpr h, rfl⟩

theorem usableCounts_ascending (s : CountSeries) : s.usableCounts.Pairwise (· < ·) := by
  apply List.pairwise_map.mpr
  exact (s.ascending.filter _).imp fun hlt => Nat.compare_eq_lt.mp hlt

theorem usableCounts_nodup (s : CountSeries) : s.usableCounts.Nodup :=
  s.usableCounts_ascending.imp Nat.ne_of_lt

theorem toFinset_usableCounts (s : CountSeries) :
    (s.usableCounts.toFinset : Set Nat) = {count | s.Usable count} := by
  ext count
  simp [mem_usableCounts_iff]

theorem ncard_usable (s : CountSeries) : {count | s.Usable count}.ncard = s.usable.length := by
  rw [← toFinset_usableCounts, Set.ncard_coe_finset,
    List.toFinset_card_of_nodup s.usableCounts_nodup, usableCounts, List.length_map]

theorem usableCounts_getElem? {s : CountSeries} {j : Nat} (h : j < s.usable.length) :
    s.usableCounts[j]? = some (Nat.nth s.Usable j) := by
  have hfin : {count | s.Usable count}.Finite := by
    rw [← toFinset_usableCounts]
    exact Finset.finite_toSet _
  have hset : hfin.toFinset = s.usableCounts.toFinset := by
    ext count
    simp [mem_usableCounts_iff]
  have hsort : hfin.toFinset.sort = s.usableCounts := by
    rw [hset]
    exact (List.toFinset_sort _ s.usableCounts_nodup).mpr
      (s.usableCounts_ascending.imp Nat.le_of_lt)
  have hj : j < s.usableCounts.length := by
    rw [usableCounts, List.length_map]
    exact h
  rw [Nat.nth_eq_getD_sort hfin, hsort, List.getD_eq_getElem _ _ hj, List.getElem?_eq_getElem hj]

theorem get?_nth_usable {s : CountSeries} {j : Nat} (h : j < s.usable.length) :
    s.get? (Nat.nth s.Usable j) = some s.usable[j].2 := by
  have hk := usableCounts_getElem? h
  rw [usableCounts, List.getElem?_map, List.getElem?_eq_getElem h, Option.map_some,
    Option.some.injEq] at hk
  rw [← hk]
  exact (mem_usable_iff.mp (List.getElem_mem h)).1

theorem valueAt_eq {s : CountSeries} {count : Nat} (h : s.Usable count) :
    some (s.valueAt count) = s.get? count ∧ (s.valueAt count).isNaN = false := by
  obtain ⟨nanos, hg, hn⟩ := h
  rw [valueAt, hg]
  exact ⟨rfl, hn⟩

end CountSeries

namespace Alignment

/-- The value in a row of an alignment at a count of its axis. -/
def valueIn? (a : Alignment) (row : List Float) (count : Nat) : Option Float :=
  (a.counts.zip row).lookup count

theorem valueIn?_map (a : Alignment) (f : Nat → Float) {count : Nat} (h : count ∈ a.counts) :
    a.valueIn? (a.counts.map f) count = some (f count) := by
  rw [valueIn?, ← List.map_prod_left_eq_zip]
  exact List.lookup_graph f h

theorem mem_sharedCounts_iff {series : List CountSeries} (h : series ≠ []) {count : Nat} :
    count ∈ sharedCounts series ↔ ∀ s ∈ series, s.Usable count := by
  cases series with
  | nil => exact (h rfl).elim
  | cons s rest =>
    simp only [sharedCounts, List.mem_filter, List.all_eq_true, List.contains_iff_mem,
      CountSeries.mem_usableCounts_iff, List.forall_mem_cons]

theorem sharedCounts_ascending (series : List CountSeries) :
    (sharedCounts series).Pairwise (· < ·) := by
  cases series with
  | nil => exact .nil
  | cons s rest => exact s.usableCounts_ascending.filter _

/-- The number of points of the shortest series. -/
def shortest (series : List CountSeries) : Nat :=
  (series.map (·.usable.length)).min?.getD 0

theorem shortest_isLeast {series : List CountSeries} (h : series ≠ []) :
    IsLeast {n | ∃ s ∈ series, n = {count | s.Usable count}.ncard} (shortest series) := by
  obtain ⟨m, hm⟩ : ∃ m, (series.map (·.usable.length)).min? = some m := by
    apply Option.isSome_iff_exists.mp
    exact List.isSome_min?_of_ne_nil (List.map_eq_nil_iff.not.mpr h)
  have hshortest : shortest series = m := by rw [shortest, hm, Option.getD_some]
  obtain ⟨hmem, hle⟩ := List.min?_eq_some_iff.mp hm
  rw [hshortest]
  constructor
  · obtain ⟨s, hs, rfl⟩ := List.mem_map.mp hmem
    exact ⟨s, hs, s.ncard_usable.symm⟩
  · rintro n ⟨s, hs, rfl⟩
    rw [s.ncard_usable]
    exact hle _ (List.mem_map_of_mem hs)

theorem shortest_le {series : List CountSeries} {s : CountSeries} (h : s ∈ series) :
    shortest series ≤ s.usable.length := by
  rw [← s.ncard_usable]
  exact (shortest_isLeast (List.ne_nil_of_mem h)).2 ⟨s, h, rfl⟩

theorem byPosition_eq (series : List CountSeries) :
    byPosition series = ⟨List.range' 1 (shortest series),
      series.map fun s => (s.usable.map (·.2)).take (shortest series), .positional⟩ := by
  have hlength : ((series.map fun s => s.usable.map (·.2)).map List.length).min?.getD 0 =
      shortest series := by
    rw [shortest, List.map_map]
    simp only [Function.comp_def, List.length_map]
  rw [byPosition, hlength, List.map_map, List.range'_eq_map_range]
  simp only [Nat.add_comm, Function.comp_def]

theorem take_usable_eq {s : CountSeries} {m : Nat} (h : m ≤ s.usable.length) :
    ((s.usable.map (·.2)).take m).map some =
      (List.range m).map fun j => s.get? (Nat.nth s.Usable j) := by
  apply List.ext_getElem
  · simpa using h
  · intro j hj hj'
    have hlt : j < s.usable.length := by
      rw [List.length_map, List.length_range] at hj'
      exact Nat.lt_of_lt_of_le hj' h
    simp [CountSeries.get?_nth_usable hlt]

theorem isEmpty_sharedCounts_iff {series : List CountSeries} (h : series ≠ []) :
    (sharedCounts series).isEmpty = true ↔ ¬ ∃ count, ∀ s ∈ series, s.Usable count := by
  rw [List.isEmpty_iff, List.eq_nil_iff_forall_not_mem, not_exists]
  exact forall_congr' fun count => not_congr (mem_sharedCounts_iff h)

theorem shared_of_common {series : List CountSeries} (h : series ≠ [])
    (hc : ∃ count, ∀ s ∈ series, s.Usable count) :
    shared series = ⟨sharedCounts series,
      series.map fun s => (sharedCounts series).map s.valueAt, .sharedCounts⟩ := by
  have hne : ¬ (sharedCounts series).isEmpty = true :=
    fun he => (isEmpty_sharedCounts_iff h).mp he hc
  rw [shared, if_neg (List.isEmpty_iff.not.mpr h)]
  exact if_neg hne

theorem shared_of_disjoint {series : List CountSeries} (h : series ≠ [])
    (hc : ¬ ∃ count, ∀ s ∈ series, s.Usable count) : shared series = byPosition series := by
  rw [shared, if_neg (List.isEmpty_iff.not.mpr h)]
  exact if_pos ((isEmpty_sharedCounts_iff h).mpr hc)

theorem isDegraded_shared_eq_false_iff {series : List CountSeries} (h : series ≠ []) :
    (shared series).isDegraded = false ↔ ∃ count, ∀ s ∈ series, s.Usable count := by
  by_cases hc : ∃ count, ∀ s ∈ series, s.Usable count
  · rw [shared_of_common h hc]
    exact iff_of_true rfl hc
  · rw [shared_of_disjoint h hc, byPosition_eq]
    exact iff_of_false nofun hc

theorem usable_of_mem_sharedCounts {series : List CountSeries} {s : CountSeries}
    (hs : s ∈ series) {count : Nat} (hc : count ∈ sharedCounts series) : s.Usable count :=
  (mem_sharedCounts_iff (List.ne_nil_of_mem hs)).mp hc s hs

theorem isEmpty_shared_eq_false_iff {series : List CountSeries} (h : series ≠ []) :
    (shared series).isEmpty = false ↔ ∀ s ∈ series, s.usable ≠ [] := by
  by_cases hc : ∃ count, ∀ s ∈ series, s.Usable count
  · have haxis : (shared series).isEmpty = false := by
      rw [shared_of_common h hc]
      exact Bool.eq_false_iff.mpr fun he => (isEmpty_sharedCounts_iff h).mp he hc
    obtain ⟨count, hall⟩ := hc
    exact iff_of_true haxis fun s hs => (hall s hs).usable_ne_nil
  · have haxis : (shared series).isEmpty = false ↔ shortest series ≠ 0 := by
      rw [shared_of_disjoint h hc, byPosition_eq, isEmpty, ← Bool.not_eq_true, List.isEmpty_iff,
        List.range'_eq_nil_iff]
    rw [haxis]
    constructor
    · intro hne s hs he
      have hle := shortest_le hs
      rw [he, List.length_nil] at hle
      exact hne (Nat.le_zero.mp hle)
    · intro hall hzero
      obtain ⟨s, hs, hm⟩ := (shortest_isLeast h).1
      rw [hzero, s.ncard_usable] at hm
      exact hall s hs (List.length_eq_zero_iff.mp hm.symm)

theorem shared_rows (series : List CountSeries) :
    (shared series).values.length = series.length ∧
      ∀ values ∈ (shared series).values, values.length = (shared series).counts.length ∧
        ∀ x ∈ values, x.isNaN = false := by
  by_cases h : series = []
  · subst h
    exact ⟨rfl, fun _ hv => (List.not_mem_nil hv).elim⟩
  by_cases hc : ∃ count, ∀ s ∈ series, s.Usable count
  · rw [shared_of_common h hc]
    refine ⟨List.length_map .., fun values hv => ?_⟩
    obtain ⟨s, hs, rfl⟩ := List.mem_map.mp hv
    refine ⟨List.length_map .., fun x hx => ?_⟩
    obtain ⟨count, hm, rfl⟩ := List.mem_map.mp hx
    exact (CountSeries.valueAt_eq (usable_of_mem_sharedCounts hs hm)).2
  · rw [shared_of_disjoint h hc, byPosition_eq]
    refine ⟨List.length_map .., fun values hv => ?_⟩
    obtain ⟨s, hs, rfl⟩ := List.mem_map.mp hv
    refine ⟨?_, fun x hx => ?_⟩
    · rw [List.length_take, List.length_map, List.length_range', Nat.min_eq_left (shortest_le hs)]
    · obtain ⟨⟨count, nanos⟩, hp, rfl⟩ := List.mem_map.mp (List.mem_of_mem_take hx)
      exact (CountSeries.mem_usable_iff.mp hp).2

/-- Series with common counts are aligned on exactly these, and other series at the smallest usable
counts of each, the second smallest and so on. -/
theorem shared_axis_and_rows (series : List CountSeries) (h : series ≠ []) :
    let a := shared series
    ((∃ count, ∀ s ∈ series, s.Usable count) →
      a.kind = .sharedCounts ∧ a.counts.Pairwise (· < ·) ∧
        (∀ count, count ∈ a.counts ↔ ∀ s ∈ series, s.Usable count) ∧
        a.values.map (·.map some) = series.map fun s => a.counts.map s.get?) ∧
    ((¬ ∃ count, ∀ s ∈ series, s.Usable count) → ∃ m,
      IsLeast {n | ∃ s ∈ series, n = {count | s.Usable count}.ncard} m ∧
        a.kind = .positional ∧ a.counts = List.range' 1 m ∧
        a.values.map (·.map some) = series.map fun s =>
          (List.range m).map fun j => s.get? (Nat.nth s.Usable j)) ∧
    a.values.length = series.length ∧
    ∀ values ∈ a.values, values.length = a.counts.length ∧ ∀ x ∈ values, x.isNaN = false := by
  refine ⟨fun hc => ?_, fun hc => ?_, shared_rows series⟩
  · rw [shared_of_common h hc]
    refine ⟨rfl, sharedCounts_ascending series, fun _ => mem_sharedCounts_iff h, ?_⟩
    rw [List.map_map]
    apply List.map_congr_left
    intro s hs
    rw [Function.comp_apply, List.map_map]
    apply List.map_congr_left
    intro count hm
    exact (CountSeries.valueAt_eq (usable_of_mem_sharedCounts hs hm)).1
  · rw [shared_of_disjoint h hc, byPosition_eq]
    refine ⟨shortest series, shortest_isLeast h, rfl, rfl, ?_⟩
    rw [List.map_map]
    apply List.map_congr_left
    intro s hs
    exact take_usable_eq (shortest_le hs)

/-- A count at which one series has no number is not shared, and then the rest goes by position. -/
theorem shared_axis_and_rows_gap :
    let first : CountSeries := .ofList [(1, 10.0), (3, 30.0), (5, Decimal.nan)]
    let second : CountSeries := .ofList [(2, 20.0), (5, 50.0)]
    [first, second] ≠ [] ∧ (¬ ∃ count, ∀ s ∈ [first, second], s.Usable count) ∧
      (shared [first, second]).kind = .positional ∧
      (shared [first, second]).values = [[10.0, 30.0], [20.0, 50.0]] := by
  intro first second
  have h : [first, second] ≠ [] := List.cons_ne_nil _ _
  have hc := (isEmpty_sharedCounts_iff h).mp rfl
  obtain ⟨_, _, hk, _, _⟩ := (shared_axis_and_rows [first, second] h).2.1 hc
  exact ⟨h, hc, hk, rfl⟩

end Alignment

end BenchCharts
