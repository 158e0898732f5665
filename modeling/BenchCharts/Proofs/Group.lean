import BenchCharts.Row

/-!
Group sets answer with the index of a declared group only.
-/

namespace BenchCharts.GroupSet

theorem strongest_lt {key : String} {best : Option (Nat × Strength)} {i n : Nat}
    {groups : List Group} (hn : i + groups.length ≤ n) (hb : ∀ b ∈ best, b.1 < n) :
    ∀ b ∈ strongest key best i groups, b.1 < n := by
  induction groups generalizing best i with
  | nil => exact hb
  | cons g gs ih =>
    rw [List.length_cons] at hn
    apply ih (by omega)
    intro b hm
    split at hm
    · exact hb b hm
    · cases hm
      show i < n
      omega
    · split at hm
      · cases hm
        show i < n
        omega
      · exact hb b hm

theorem resolve_lt {set : GroupSet} {key : String} {i : Nat} (h : set.resolve key = some i) :
    i < set.groups.length := by
  obtain ⟨b, hb, rfl⟩ := Option.map_eq_some_iff.mp h
  have hnone : ∀ b ∈ (none : Option (Nat × Strength)), b.1 < set.groups.length :=
    fun b hm => (Option.not_mem_none b hm).elim
  exact strongest_lt (Nat.le_of_eq (Nat.zero_add _)) hnone b hb

theorem route_lt {set : GroupSet} {row : Row} {i : Nat} (h : set.route row = some i) :
    i < set.groups.length := by
  unfold route at h
  rcases Option.or_eq_some_iff.mp h with hh | ⟨_, hl⟩
  · obtain ⟨field, _, hf⟩ := List.exists_of_findSome?_eq_some hh
    split at hf
    · exact resolve_lt hf
    · cases hf
  · exact (List.findIdx?_eq_some_iff_getElem.mp hl).1

end BenchCharts.GroupSet
