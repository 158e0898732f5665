import BenchCharts.Proofs.Alignment.Regular
import BenchCharts.Proofs.Text.ByteOrder

/-!
The axis of categories: each category of any map once, the preferred ones first and the others in
ascending order of their bytes. It depends on nothing but which categories there are.
-/

namespace BenchCharts

theorem sortedKeys_bytes_ascending (ks : List String) :
    (sortedKeys ks).Pairwise fun a b => Text.bytes a < Text.bytes b := by
  apply List.pairwise_map.mpr
  apply (OrderedMap.ofList (ks.map ((·, ())))).ascending.imp
  intro a b hlt
  exact Text.bytes_lt (compareOfLessAndEq_eq_lt.mp hlt)

theorem sortedKeys_congr {ks ks' : List String} (h : ∀ k, k ∈ ks ↔ k ∈ ks') :
    sortedKeys ks = sortedKeys ks' := by
  have hmem (k : String) : k ∈ sortedKeys ks ↔ k ∈ sortedKeys ks' := by
    rw [mem_sortedKeys, mem_sortedKeys, h]
  have hperm := (List.perm_ext_iff_of_nodup (sortedKeys_nodup ks) (sortedKeys_nodup ks')).mpr hmem
  exact hperm.eq_of_pairwise (fun _ _ _ _ hab hba => absurd hba (List.lt_asymm hab))
    (sortedKeys_bytes_ascending ks) (sortedKeys_bytes_ascending ks')

/-- The preferred categories among those of some maps, and the others. -/
structure CategoryParts (preferred : List String) (maps : List CategoryMap)
    (first others : List String) : Prop where
  first_sublist : first.Sublist preferred
  mem_first : ∀ category ∈ preferred, (∃ m ∈ maps, category ∈ m.keys) → category ∈ first
  notMem_others : ∀ category ∈ others, category ∉ preferred
  others_ascending : others.Pairwise fun a b => Text.bytes a < Text.bytes b

theorem exists_parts_categoryAxis (preferred : List String) (maps : List CategoryMap) :
    ∃ first others, categoryAxis preferred maps = first ++ others ∧
      CategoryParts preferred maps first others := by
  refine ⟨_, _, rfl, List.filter_sublist, fun category hp ho => ?_, fun category hm hp => ?_, ?_⟩
  · rw [List.mem_filter, List.contains_iff_mem, mem_sortedKeys]
    exact ⟨hp, List.mem_flatMap.mpr ho⟩
  · have hother := (List.mem_filter.mp hm).2
    rw [List.contains_iff_mem.mpr hp] at hother
    cases hother
  · exact (sortedKeys_bytes_ascending _).filter _

theorem categoryAxis_congr (preferred : List String) {maps maps' : List CategoryMap}
    (h : (maps.map (·.keys)).Perm (maps'.map (·.keys))) :
    categoryAxis preferred maps = categoryAxis preferred maps' := by
  have hmem (category : String) :
      category ∈ maps.flatMap (·.keys) ↔ category ∈ maps'.flatMap (·.keys) := by
    rw [List.flatMap_def, List.flatMap_def]
    exact h.flatten.mem_iff
  rw [categoryAxis, categoryAxis, sortedKeys_congr hmem]

/-- The axis has each category of any map exactly once: first the preferred ones that occur, in
their order, and then the others in ascending order of their bytes. Maps with the same keys have
the same axis in whatever order they come and whatever their values are. -/
theorem categoryAxis_ordered_union {preferred : List String} (h : preferred.Nodup)
    (maps : List CategoryMap) :
    (categoryAxis preferred maps).Nodup ∧
      (∀ category, category ∈ categoryAxis preferred maps ↔ ∃ m ∈ maps, category ∈ m.keys) ∧
      (∃ first others, categoryAxis preferred maps = first ++ others ∧
        CategoryParts preferred maps first others) ∧
      ∀ maps' : List CategoryMap, (maps.map (·.keys)).Perm (maps'.map (·.keys)) →
        categoryAxis preferred maps' = categoryAxis preferred maps := by
  refine ⟨categoryAxis_nodup h maps, fun category => ?_, exists_parts_categoryAxis preferred maps,
    fun maps' hp => (categoryAxis_congr preferred hp).symm⟩
  simp only [mem_categoryAxis_iff, OrderedMap.mem_keys_iff]

/-- A category of both maps is on the axis once, a preferred one of neither is not, and capitals
come before small letters. -/
theorem categoryAxis_ordered_union_two :
    let preferred := ["string", "number", "void"]
    let first : CategoryMap := .ofList [("zeta", 1.0), ("number", 2.0)]
    let second : CategoryMap :=
      .ofList [("string", 3.0), ("alpha", 4.0), ("number", 5.0), ("Z", 6.0)]
    preferred.Nodup ∧
      categoryAxis preferred [first, second] = ["string", "number", "Z", "alpha", "zeta"] ∧
      (categoryAxis preferred [first, second]).Nodup ∧
      categoryAxis preferred [second, first] = categoryAxis preferred [first, second] := by
  intro preferred first second
  have hpreferred : preferred.Nodup := by decide
  obtain ⟨hnodup, _, _, hmaps⟩ := categoryAxis_ordered_union hpreferred [first, second]
  exact ⟨hpreferred, by decide +kernel, hnodup, hmaps [second, first] (.swap _ _ [])⟩

end BenchCharts
