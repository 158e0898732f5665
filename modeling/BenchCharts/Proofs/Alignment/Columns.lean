import BenchCharts.Proofs.Alignment.Union
import Mathlib.Data.List.Sort

/-!
The two ways to align series compared: where series share a count, their alignment is the union
without the columns that have a gap. What it shows at a count any union with the series shows too.
-/

namespace BenchCharts

namespace Alignment

/-- Whether every row has a number at a place of the axis. -/
def isFull (a : Alignment) (j : Nat) : Bool :=
  a.values.all fun row => row[j]?.any (!·.isNaN)

def withoutGaps (a : Alignment) : Alignment :=
  let full := (List.range a.length).filter a.isFull
  { a with
    counts := full.filterMap (a.counts[·]?)
    values := a.values.map fun row => full.filterMap (row[·]?) }

/-- The value that an alignment shows at a count for the series at place `i`. -/
def shown? (a : Alignment) (i count : Nat) : Option Float :=
  if a.hasCount count then a.values[i]?.bind (a.valueIn? · count) else none

theorem filterMap_places (l : List α) (f : α → β) (p : α → Bool) :
    ((List.range l.length).filter fun j => l[j]?.any p).filterMap ((l.map f)[·]?) =
      (l.filter p).map f := by
  induction l with
  | nil => rfl
  | cons x l ih =>
    have hrest : (((List.range l.length).map Nat.succ).filter fun j => (x :: l)[j]?.any p).filterMap
        (((x :: l).map f)[·]?) = (l.filter p).map f := by
      rw [List.filter_map, List.filterMap_map, ← ih]
      rfl
    rw [List.length_cons, List.range_succ_eq_map, List.filter_cons, List.filter_cons,
      List.getElem?_cons_zero, Option.any_some]
    cases p x with
    | true =>
      rw [if_pos rfl, if_pos rfl, List.map_cons (l := l.filter p), ← hrest]
      rfl
    | false =>
      rw [if_neg Bool.false_ne_true, if_neg Bool.false_ne_true]
      exact hrest

theorem isFull_union {series : List CountSeries} {j : Nat} (h : j < (union series).length) :
    (union series).isFull j =
      (union series).counts[j]?.any fun count => series.all fun s => !(s.valueAt count).isNaN := by
  rw [isFull, values_union, List.all_map, List.getElem?_eq_getElem h, Option.any_some]
  congr 1
  funext s
  rw [Function.comp_apply, List.getElem?_map, List.getElem?_eq_getElem h, Option.map_some,
    Option.any_some]

theorem filter_counts_union {series : List CountSeries} (h : series ≠ []) :
    ((union series).counts.filter fun count => series.all fun s => !(s.valueAt count).isNaN) =
      sharedCounts series := by
  apply ((sortedKeys_ascending _).filter _).eq_of_mem_iff (sharedCounts_ascending series)
  intro count
  simp only [List.mem_filter, List.all_eq_true, Bool.not_eq_true',
    CountSeries.isNaN_valueAt_eq_false_iff, mem_sharedCounts_iff h]
  apply and_iff_right_of_imp
  intro hall
  obtain ⟨s, hs⟩ := List.exists_mem_of_ne_nil series h
  exact mem_counts_union hs (hall s hs)

theorem withoutGaps_union {series : List CountSeries} (h : series ≠ []) :
    (union series).withoutGaps = ⟨sharedCounts series,
      series.map fun s => (sharedCounts series).map s.valueAt, .union⟩ := by
  have hfull : (List.range (union series).length).filter (union series).isFull =
      (List.range (union series).counts.length).filter fun j =>
        (union series).counts[j]?.any fun count => series.all fun s => !(s.valueAt count).isNaN :=
    List.filter_congr fun j hj => isFull_union (List.mem_range.mp hj)
  have hcounts := filterMap_places (union series).counts id
    fun count => series.all fun s => !(s.valueAt count).isNaN
  rw [List.map_id, List.map_id, filter_counts_union h] at hcounts
  rw [withoutGaps, hfull, hcounts, values_union, List.map_map]
  congr 1
  apply List.map_congr_left
  intro s _
  rw [Function.comp_apply, filterMap_places, filter_counts_union h]

theorem shown?_of_row {a : Alignment} {i count : Nat} {f : Nat → Float} (hk : a.isDegraded = false)
    (hc : count ∈ a.counts) (hrow : a.values[i]? = some (a.counts.map f)) :
    a.shown? i count = some (f count) := by
  have hcount : a.hasCount count = true := by
    rw [hasCount, hk, List.contains_iff_mem.mpr hc]
    rfl
  rw [shown?, if_pos hcount, hrow, Option.bind_some, valueIn?_map a f hc]

theorem mem_counts_of_shown? {a : Alignment} {i count : Nat} {nanos : Float}
    (h : a.shown? i count = some nanos) :
    a.isDegraded = false ∧ count ∈ a.counts ∧ ∃ row, a.values[i]? = some row := by
  unfold shown? at h
  split at h
  · next hcount =>
    obtain ⟨hk, hc⟩ := Bool.and_eq_true_iff.mp hcount
    obtain ⟨row, hrow, _⟩ := Option.bind_eq_some_iff.mp h
    exact ⟨Bool.not_eq_true' _ ▸ hk, List.contains_iff_mem.mp hc, row, hrow⟩
  · cases h

theorem shown?_union_of_shared {series others : List CountSeries} {i k count : Nat} {nanos : Float}
    (hs : series[i]? = others[k]?) (h : (shared series).shown? i count = some nanos) :
    (union others).shown? k count = some nanos := by
  obtain ⟨hk, hc, row, hrow⟩ := mem_counts_of_shown? h
  have hlength : i < series.length := by
    rw [← (shared_rows series).1]
    exact (List.getElem?_eq_some_iff.mp hrow).1
  have hne : series ≠ [] := List.ne_nil_of_length_pos (Nat.zero_lt_of_lt hlength)
  have hi : series[i]? = some series[i] := List.getElem?_eq_getElem hlength
  rw [shared_of_common hne ((isDegraded_shared_eq_false_iff hne).mp hk)] at h hc
  have hu : series[i].Usable count := usable_of_mem_sharedCounts (List.getElem_mem hlength) hc
  have hothers : others[k]? = some series[i] := hs ▸ hi
  have hshared := shown?_of_row (i := i) (f := series[i].valueAt) (by rfl) hc
    (by rw [List.getElem?_map, hi]; rfl)
  rw [← h, hshared]
  apply shown?_of_row rfl (mem_counts_union (List.mem_of_getElem? hothers) hu)
  rw [values_union, List.getElem?_map, hothers]
  rfl

/-- The alignment on shared counts is the union without the columns that have a gap, and if every
column has one, series are paired by position. So what is shown at a shared count is shown by every
union with the series. -/
theorem shared_eq_union_withoutGaps {series : List CountSeries} (h : series ≠ []) :
    let full := (union series).withoutGaps
    (full.isEmpty = false → shared series = { full with kind := .sharedCounts }) ∧
      (full.isEmpty = true → (shared series).kind = .positional) ∧
      ∀ (others : List CountSeries) (i k count : Nat) (nanos : Float), series[i]? = others[k]? →
        (shared series).shown? i count = some nanos →
        (union others).shown? k count = some nanos := by
  intro full
  have hfull : full = ⟨sharedCounts series,
      series.map fun s => (sharedCounts series).map s.valueAt, .union⟩ := withoutGaps_union h
  have hempty : full.isEmpty = true ↔ ¬ ∃ count, ∀ s ∈ series, s.Usable count := by
    rw [hfull]
    exact isEmpty_sharedCounts_iff h
  refine ⟨fun hsome => ?_, fun hnone => ?_, fun _ _ _ _ _ hs => shown?_union_of_shared hs⟩
  · have hc := Classical.not_not.mp (hempty.not.mp (Bool.eq_false_iff.mp hsome))
    rw [shared_of_common h hc, hfull]
  · rw [shared_of_disjoint h (hempty.mp hnone), byPosition_eq]

/-- A stored value that is not a number makes a gap, and without its column too nothing is left. -/
theorem shared_eq_union_withoutGaps_stored :
    let first : CountSeries := .ofList [(1, 10.0), (2, Decimal.nan), (3, 30.0)]
    let second : CountSeries := .ofList [(2, 20.0), (3, 31.0), (4, 40.0)]
    let third : CountSeries := .ofList [(1, Decimal.nan), (2, 22.0)]
    [first, second] ≠ [] ∧ (union [first, second]).withoutGaps.isEmpty = false ∧
      shared [first, second] = { (union [first, second]).withoutGaps with kind := .sharedCounts } ∧
      (shared [first, second]).counts = [3] ∧ (shared [first, second]).shown? 1 3 = some 31.0 ∧
      (union [second, third]).shown? 0 3 = some 31.0 ∧ [first, third] ≠ [] ∧
      (union [first, third]).withoutGaps.isEmpty = true ∧
      (shared [first, third]).kind = .positional := by
  intro first second third
  have hpair : [first, second] ≠ [] := List.cons_ne_nil _ _
  have hpair' : [first, third] ≠ [] := List.cons_ne_nil _ _
  obtain ⟨hkept, _, hshown⟩ := shared_eq_union_withoutGaps hpair
  obtain ⟨_, hnone, _⟩ := shared_eq_union_withoutGaps hpair'
  have hsome : (union [first, second]).withoutGaps.isEmpty = false := by decide
  have hempty : (union [first, third]).withoutGaps.isEmpty = true := by decide
  have hshared : (shared [first, second]).shown? 1 3 = some 31.0 := by rfl
  exact ⟨hpair, hsome, hkept hsome, by decide, hshared,
    hshown [second, third] 1 0 3 31.0 rfl hshared, hpair', hempty, hnone hempty⟩

end Alignment

end BenchCharts
