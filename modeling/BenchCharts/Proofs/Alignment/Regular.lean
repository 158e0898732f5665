import BenchCharts.Proofs.Alignment.Shared
import Std.Data.String.ToNat

/-!
Regular alignments: an ascending axis and rows as long as it. Both ways to align series make them,
and their ticks are distinct.
-/

namespace BenchCharts

namespace Alignment

structure Regular (a : Alignment) : Prop where
  ascending : a.counts.Pairwise (· < ·)
  rows : ∀ values ∈ a.values, values.length = a.counts.length

theorem shared_regular (series : List CountSeries) : (shared series).Regular where
  ascending := by
    by_cases h : series = []
    · subst h
      exact .nil
    by_cases hc : ∃ count, ∀ s ∈ series, s.Usable count
    · rw [shared_of_common h hc]
      exact sharedCounts_ascending series
    · rw [shared_of_disjoint h hc, byPosition_eq]
      exact List.pairwise_lt_range'
  rows := fun values hv => ((shared_rows series).2 values hv).1

theorem union_regular (series : List CountSeries) : (union series).Regular where
  ascending := sortedKeys_ascending _
  rows := by
    intro values hv
    obtain ⟨s, _, rfl⟩ := List.mem_map.mp hv
    exact List.length_map ..

@[simp] theorem length_ticks (a : Alignment) (suffix : String) :
    (a.ticks suffix).length = a.counts.length :=
  List.length_map ..

theorem Regular.ticks_nodup {a : Alignment} (h : a.Regular) (suffix : String) :
    (a.ticks suffix).Nodup := by
  have hcount {m n : Nat} (he : s!"{m}{suffix}" = s!"{n}{suffix}") : m = n :=
    Nat.repr_injective ((String.append_left_inj suffix).mp he)
  have hposition {m n : Nat} (he : s!"#{m}" = s!"#{n}") : m = n :=
    Nat.repr_injective ((String.append_right_inj "#").mp he)
  apply List.pairwise_map.mpr
  apply (h.ascending.imp Nat.ne_of_lt).imp
  intro m n hne
  cases a.kind with
  | sharedCounts => exact fun he => hne (hcount he)
  | positional => exact fun he => hne (hposition he)
  | union => exact fun he => hne (hcount he)

end Alignment

theorem mem_categoryAxis_iff {preferred : List String} {maps : List CategoryMap}
    {category : String} :
    category ∈ categoryAxis preferred maps ↔ ∃ m ∈ maps, (m.get? category).isSome := by
  have hall : category ∈ sortedKeys (maps.flatMap (·.keys)) ↔
      ∃ m ∈ maps, (m.get? category).isSome := by
    simp only [mem_sortedKeys, List.mem_flatMap, OrderedMap.mem_keys_iff]
  rw [categoryAxis, ← hall, List.mem_append, List.mem_filter, List.mem_filter,
    List.contains_iff_mem, Bool.not_eq_true', ← Bool.not_eq_true, List.contains_iff_mem]
  constructor
  · rintro (⟨_, h⟩ | ⟨h, _⟩)
    · exact h
    · exact h
  · intro h
    by_cases hp : category ∈ preferred
    · exact .inl ⟨hp, h⟩
    · exact .inr ⟨h, hp⟩

theorem categoryAxis_nodup {preferred : List String} (h : preferred.Nodup)
    (maps : List CategoryMap) : (categoryAxis preferred maps).Nodup := by
  have hall := sortedKeys_nodup (maps.flatMap (·.keys))
  apply (h.filter _).append (hall.filter _)
  intro category hp ha
  have hin := (List.mem_filter.mp hp).1
  have hout := (List.mem_filter.mp ha).2
  simp [hin] at hout

end BenchCharts
