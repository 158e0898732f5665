import BenchCharts.Proofs.Dataset.Sound

/-!
Documents of several sections: the dataset of two lists of sections, one behind the other, is that
of the first list overridden by that of the second.
-/

namespace BenchCharts

def GroupSeries.isPerType : GroupSeries → Bool
  | perSize _ => false
  | perType _ => true

theorem Verdict.skipCounts_append (verdicts verdicts' : List Verdict) :
    skipCounts (verdicts ++ verdicts') =
      ⟨(skipCounts verdicts).noCount + (skipCounts verdicts').noCount,
        (skipCounts verdicts).noValue + (skipCounts verdicts').noValue,
        (skipCounts verdicts).unroutable + (skipCounts verdicts').unroutable⟩ := by
  simp only [skipCounts, List.countP_append]

namespace GroupSet

theorem walk_append (set : GroupSet) (front back : List Section) :
    set.walk (.sections (front ++ back)) =
      set.walk (.sections front) ++ set.walk (.sections back) :=
  List.flatMap_append

theorem mem_accepted_append {set : GroupSet} {front back : List Section}
    {place : Nat × Nat × String} :
    place ∈ set.accepted (.sections (front ++ back)) ↔
      place ∈ set.accepted (.sections front) ∨ place ∈ set.accepted (.sections back) := by
  simp only [accepted_eq, walk_append, List.filterMap_append, List.mem_append]

end GroupSet

namespace Dataset

variable {set : GroupSet} {document : Document} {name : String}

theorem atCount_of_undeclared (h : ∀ g ∈ set.groups, g.name ≠ name) (count : Nat) :
    (extract document set).atCount name count = ∅ := by
  have hnone : (extract document set).get? name = none := by
    apply Option.not_isSome_iff_eq_none.mp
    intro hs
    obtain ⟨i, g, hi, hn, _⟩ := isSome_get?_extract_iff.mp hs
    exact h g (List.mem_of_getElem? hi) hn
  rw [atCount, hnone]
  rfl

theorem isPerType_extract_iff (h : set.Distinct) :
    ((extract document set).get? name).any (·.isPerType) = true ↔
      ∃ i g, set.groups[i]? = some g ∧ g.name = name ∧
        ∃ count category, (i, count, category) ∈ set.accepted document ∧
          category ≠ defaultCategory := by
  have hsplit (series : GroupSeries) : series.isPerType = true ↔ ¬ series.perSize?.isSome := by
    cases series <;> simp [GroupSeries.isPerType, GroupSeries.perSize?]
  have hseries {i : Nat} : (GroupSeries.ofPoints (Verdict.pointsOf (set.walk document) i)).isPerType
      = true ↔ ∃ count category, (i, count, category) ∈ set.accepted document ∧
        category ≠ defaultCategory := by
    rw [hsplit, GroupSeries.isSome_perSize?_ofPoints_iff]
    simp only [Prod.forall, mem_places_walk, Classical.not_forall, exists_prop]
  constructor
  · intro hany
    cases hg : (extract document set).get? name with
    | none =>
      rw [hg] at hany
      cases hany
    | some series =>
      rw [hg] at hany
      obtain ⟨i, g, hi, hn, _, rfl⟩ := mem_groups_extract (Fields.mem_of_get?_eq_some hg)
      exact ⟨i, g, hi, hn, hseries.mp hany⟩
  · rintro ⟨i, g, hi, hn, count, category, ha, hne⟩
    have hs := isSome_get?_extract_iff.mpr ⟨i, g, hi, hn, count, category, ha⟩
    obtain ⟨series, hg⟩ := Option.isSome_iff_exists.mp hs
    obtain ⟨j, g', hj, hn', _, rfl⟩ := mem_groups_extract (Fields.mem_of_get?_eq_some hg)
    have hij := h.index_eq hj hi (hn'.trans hn.symm)
    subst hij
    rw [hg]
    exact hseries.mpr ⟨count, category, ha, hne⟩

variable (front back : List Section)

theorem atCount_append (h : set.Distinct) (name : String) (count : Nat) :
    (extract (.sections (front ++ back)) set).atCount name count =
      ((extract (.sections front) set).atCount name count).override
        ((extract (.sections back) set).atCount name count) := by
  apply OrderedMap.ext_get?
  intro category
  rw [OrderedMap.get?_override]
  by_cases hd : ∀ g ∈ set.groups, g.name ≠ name
  · simp only [atCount_of_undeclared hd]
    rfl
  · simp only [Classical.not_forall, Classical.not_not] at hd
    obtain ⟨g, hm, rfl⟩ := hd
    obtain ⟨i, hi⟩ := List.mem_iff_getElem?.mp hm
    simp only [extract, get?_atCount_ofVerdicts h _ hi, GroupSet.walk_append,
      List.filterMap_append, List.getLast?_append]

theorem isSome_get?_append (name : String) :
    ((extract (.sections (front ++ back)) set).get? name).isSome =
      (((extract (.sections front) set).get? name).isSome ||
        ((extract (.sections back) set).get? name).isSome) := by
  apply Bool.eq_iff_iff.mpr
  rw [Bool.or_eq_true, isSome_get?_extract_iff, isSome_get?_extract_iff, isSome_get?_extract_iff]
  simp only [GroupSet.mem_accepted_append, exists_or, and_or_left]

theorem isPerType_append (h : set.Distinct) (name : String) :
    ((extract (.sections (front ++ back)) set).get? name).any (·.isPerType) =
      (((extract (.sections front) set).get? name).any (·.isPerType) ||
        ((extract (.sections back) set).get? name).any (·.isPerType)) := by
  apply Bool.eq_iff_iff.mpr
  rw [Bool.or_eq_true, isPerType_extract_iff h, isPerType_extract_iff h, isPerType_extract_iff h]
  simp only [GroupSet.mem_accepted_append, exists_or, and_or_left, or_and_right]

/-- Extraction turns one list of sections behind another into one dataset overridden by another. -/
theorem extract_append (h : set.Distinct) (front back : List Section) :
    let whole := extract (.sections (front ++ back)) set
    let first := extract (.sections front) set
    let second := extract (.sections back) set
    (∀ name count, whole.atCount name count =
        (first.atCount name count).override (second.atCount name count)) ∧
      whole.skipped = ⟨first.skipped.noCount + second.skipped.noCount,
        first.skipped.noValue + second.skipped.noValue,
        first.skipped.unroutable + second.skipped.unroutable⟩ ∧
      (∀ name, (whole.get? name).isSome =
        ((first.get? name).isSome || (second.get? name).isSome)) ∧
      (∀ name, (whole.get? name).any (·.isPerType) =
        ((first.get? name).any (·.isPerType) || (second.get? name).any (·.isPerType))) ∧
      ∀ fields, extract (.mapping fields) set = extract (.sections [fields]) set := by
  intro whole first second
  refine ⟨atCount_append front back h, ?_, isSome_get?_append front back,
    isPerType_append front back h, fun fields => rfl⟩
  change Verdict.skipCounts (set.walk (.sections (front ++ back))) = _
  rw [GroupSet.walk_append]
  exact Verdict.skipCounts_append _ _

/-- A group without categories gets them from a later section, and loses a value to it. -/
theorem extract_append_categories :
    let row (label : String) (nanos : Int) : Json :=
      .object [("name", .string label), ("avg", .int nanos)]
    let front : List Section := [[("worker", .array [row "(1)" 5, row "(2)" 6])]]
    let back : List Section := [[("worker", .array [row "void -> (1)" 7, row "(2)" 8, .null])]]
    let whole := extract (.sections (front ++ back)) Types.groupSet
    Types.groupSet.Distinct ∧
      ((extract (.sections front) Types.groupSet).get? "worker").any (·.isPerType) = false ∧
      (whole.get? "worker").any (·.isPerType) = true ∧
      (whole.atCount "worker" 1).keys = ["default", "void"] ∧
      ((whole.atCount "worker" 2).get? "default").map (·.toBits) = some (8.0 : Float).toBits ∧
      whole.skipped = ⟨0, 0, 1⟩ := by
  intro row front back whole
  have hset : Types.groupSet.Distinct := by decide +kernel
  obtain ⟨hat, hskipped, -, htype, -⟩ := extract_append hset front back
  refine ⟨hset, by decide +kernel, ?_, ?_, ?_, ?_⟩
  · rw [htype]
    decide +kernel
  · rw [hat]
    decide +kernel
  · rw [hat]
    decide +kernel
  · exact hskipped.trans (by decide +kernel)

end Dataset

end BenchCharts
