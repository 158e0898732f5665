import BenchCharts.Proofs.Alignment.Regular

/-!
Alignment on the union of all counts: the numbers in the row of a series are its usable points,
whatever other series are aligned with it. So each series can be read back from its row, and no
column consists of gaps.
-/

namespace BenchCharts

namespace CountSeries

theorem valueAt_eq_iff {s : CountSeries} {count : Nat} {nanos : Float}
    (hn : nanos.isNaN = false) : s.valueAt count = nanos ↔ s.get? count = some nanos := by
  unfold valueAt
  cases s.get? count with
  | none =>
    have hnan : Decimal.nan.isNaN = true := by rfl
    constructor
    · intro h
      rw [← h, Option.getD_none, hnan] at hn
      cases hn
    · exact fun h => nomatch h
  | some x => rw [Option.getD_some, Option.some.injEq]

theorem isNaN_valueAt_eq_false_iff {s : CountSeries} {count : Nat} :
    (s.valueAt count).isNaN = false ↔ s.Usable count := by
  constructor
  · intro h
    exact ⟨s.valueAt count, (valueAt_eq_iff h).mp rfl, h⟩
  · exact fun h => (s.valueAt_eq h).2

theorem filter_valueAt_eq_usable {s : CountSeries} {axis : List Nat}
    (ha : axis.Pairwise (· < ·)) (h : ∀ count, s.Usable count → count ∈ axis) :
    (axis.map fun count => (count, s.valueAt count)).filter (!·.2.isNaN) = s.usable := by
  have hrow : (axis.map fun count => (count, s.valueAt count)).Pairwise (·.1 < ·.1) :=
    List.pairwise_map.mpr ha
  have hleft := hrow.filter (!·.2.isNaN)
  have hright : s.usable.Pairwise (·.1 < ·.1) := List.pairwise_map.mp s.usableCounts_ascending
  have hne {a b : Nat × Float} (hlt : a.1 < b.1) : a ≠ b := fun he => Nat.ne_of_lt hlt (he ▸ rfl)
  have hmem (p : Nat × Float) :
      p ∈ (axis.map fun count => (count, s.valueAt count)).filter (!·.2.isNaN) ↔ p ∈ s.usable := by
    obtain ⟨count, nanos⟩ := p
    rw [List.mem_filter, mem_usable_iff, Bool.not_eq_true']
    apply and_congr_left
    intro hn
    rw [← valueAt_eq_iff hn, List.mem_map]
    constructor
    · rintro ⟨c, _, he⟩
      obtain ⟨rfl, rfl⟩ := Prod.mk.inj he
      rfl
    · intro hv
      have hu : s.Usable count := ⟨nanos, (valueAt_eq_iff hn).mp hv, hn⟩
      exact ⟨count, h count hu, Prod.ext rfl hv⟩
  have hperm := (List.perm_ext_iff_of_nodup (hleft.imp hne) (hright.imp hne)).mpr hmem
  exact hperm.eq_of_pairwise (fun _ _ _ _ hab hba => absurd hba (Nat.lt_asymm hab)) hleft hright

/-- The points of a series with a value that is a number, as a series. -/
def numbers (s : CountSeries) : CountSeries :=
  ⟨s.usable, s.ascending.filter _⟩

theorem get?_numbers (s : CountSeries) (count : Nat) :
    s.numbers.get? count = (s.get? count).filter (!·.isNaN) := by
  apply Option.ext
  intro nanos
  rw [OrderedMap.get?_eq_some_iff, numbers, mem_usable_iff, Option.filter_eq_some_iff,
    Bool.not_eq_true']

end CountSeries

namespace Alignment

theorem values_union (series : List CountSeries) :
    (union series).values = series.map fun s => (union series).counts.map s.valueAt := rfl

theorem length_values_union (series : List CountSeries) :
    (union series).values.length = series.length :=
  List.length_map ..

theorem mem_counts_union_iff {series : List CountSeries} {count : Nat} :
    count ∈ (union series).counts ↔ ∃ s ∈ series, s.Usable count := by
  rw [union, mem_sortedKeys, List.mem_flatMap]
  simp only [CountSeries.mem_usableCounts_iff]

theorem mem_counts_union {series : List CountSeries} {s : CountSeries} (hs : s ∈ series)
    {count : Nat} (hu : s.Usable count) : count ∈ (union series).counts :=
  mem_counts_union_iff.mpr ⟨s, hs, hu⟩

/-- The numbers along a row, each with its count. -/
def points (a : Alignment) (row : List Float) : List (Nat × Float) :=
  (a.counts.zip row).filter (!·.2.isNaN)

theorem points_union {series : List CountSeries} {s : CountSeries} (hs : s ∈ series) :
    (union series).points ((union series).counts.map s.valueAt) = s.usable := by
  rw [points, ← List.map_prod_left_eq_zip]
  exact CountSeries.filter_valueAt_eq_usable (sortedKeys_ascending _) fun _ => mem_counts_union hs

theorem exists_number_of_mem_union {series : List CountSeries} {j : Nat}
    (h : j < (union series).counts.length) :
    ∃ row ∈ (union series).values, ∃ nanos, row[j]? = some nanos ∧ nanos.isNaN = false := by
  obtain ⟨s, hs, hu⟩ := mem_counts_union_iff.mp (List.getElem_mem h)
  refine ⟨_, List.mem_map_of_mem hs, s.valueAt (union series).counts[j], ?_, (s.valueAt_eq hu).2⟩
  rw [List.getElem?_map]
  exact congrArg _ (List.getElem?_eq_getElem h)

theorem ticks_union (series : List CountSeries) :
    (union series).ticks "" = (union series).counts.map toString := by
  apply List.map_congr_left
  intro n _
  exact String.append_empty

/-- The axis has exactly the usable counts of all series. The numbers along the row of a series are
its usable points, so the series is read back from them, and every column has a number. -/
theorem union_axis_and_rows (series : List CountSeries) :
    let a := union series
    a.counts.Pairwise (· < ·) ∧
      (∀ count, count ∈ a.counts ↔ ∃ s ∈ series, s.Usable count) ∧
      List.Forall₂ (fun s row => row.length = a.counts.length ∧
        (∀ count nanos, (count, nanos) ∈ a.points row ↔
          s.get? count = some nanos ∧ nanos.isNaN = false) ∧
        ∀ count, (OrderedMap.ofList (a.points row)).get? count =
          (s.get? count).filter (!·.isNaN)) series a.values ∧
      ∀ j < a.counts.length, ∃ row ∈ a.values, ∃ nanos,
        row[j]? = some nanos ∧ nanos.isNaN = false := by
  intro a
  refine ⟨sortedKeys_ascending _, fun _ => mem_counts_union_iff, ?_,
    fun _ hj => exists_number_of_mem_union hj⟩
  rw [values_union]
  apply List.forall₂_map_right_iff.mpr
  apply List.forall₂_same.mpr
  intro s hs
  have hpoints : a.points (a.counts.map s.valueAt) = s.usable := points_union hs
  refine ⟨List.length_map .., fun count nanos => ?_, fun count => ?_⟩
  · rw [hpoints]
    exact CountSeries.mem_usable_iff
  · rw [hpoints, ← CountSeries.get?_numbers]
    exact congrArg (·.get? count) (OrderedMap.ofList_entries s.numbers)

/-- A count at which the only value is not a number has no column, and a stored value that is not a
number is a gap as a missing one is. -/
theorem union_axis_and_rows_gaps :
    let first : CountSeries := .ofList [(1, 10.0), (3, Decimal.nan), (4, Decimal.nan)]
    let second : CountSeries := .ofList [(3, 30.0)]
    (union [first, second]).counts = [1, 3] ∧ (¬ ∃ s ∈ [first, second], s.Usable 4) ∧
      1 < (union [first, second]).counts.length ∧
      ∃ row ∈ (union [first, second]).values, ∃ nanos,
        row[1]? = some nanos ∧ nanos.isNaN = false := by
  intro first second
  obtain ⟨_, haxis, _, hcolumn⟩ := union_axis_and_rows [first, second]
  have hlength : 1 < (union [first, second]).counts.length := by decide
  exact ⟨rfl, (haxis 4).not.mp (by decide), hlength, hcolumn 1 hlength⟩

end Alignment

end BenchCharts
