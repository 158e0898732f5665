import BenchCharts.Proofs.Dataset.Walk

/-!
What a dataset stores. Every count of a group has a category, and every value is a number; a group
whose labels carry counts only has no categories at all.
-/

namespace BenchCharts

namespace TypedSeries

/-- Every count has a category, and all categories and values are as `P` asks. -/
def Stores (P : String → Float → Prop) (points : TypedSeries) : Prop :=
  ∀ count categories, points.get? count = some categories → categories.isEmpty = false ∧
    ∀ category nanos, categories.get? category = some nanos → P category nanos

variable {P : String → Float → Prop} {points : TypedSeries}

theorem Stores.atCount (h : points.Stores P) {count : Nat} {category : String} {nanos : Float}
    (hg : (points.atCount count).get? category = some nanos) : P category nanos := by
  unfold TypedSeries.atCount at hg
  cases hp : points.get? count with
  | none =>
    rw [hp] at hg
    cases hg
  | some categories =>
    rw [hp] at hg
    exact (h count categories hp).2 category nanos hg

theorem Stores.set (h : points.Stores P) {count : Nat} {category : String} {nanos : Float}
    (hP : P category nanos) : (points.set count category nanos).Stores P := by
  intro count' categories hg
  by_cases hc : count = count'
  · subst hc
    rw [TypedSeries.set, OrderedMap.get?_insert_self] at hg
    cases hg
    constructor
    · exact OrderedMap.isEmpty_eq_false_iff.mpr ⟨category, nanos, OrderedMap.get?_insert_self ..⟩
    · intro category' nanos' hs
      by_cases hk : category = category'
      · subst hk
        rw [OrderedMap.get?_insert_self] at hs
        cases hs
        exact hP
      · rw [OrderedMap.get?_insert_of_ne _ _ hk] at hs
        exact h.atCount hs
  · rw [TypedSeries.set, OrderedMap.get?_insert_of_ne _ _ hc] at hg
    exact h count' categories hg

theorem stores_empty : Stores P ∅ :=
  fun _ _ hg => nomatch hg

end TypedSeries

namespace Verdict

/-- Whether an accepted row has a category and a value as `P` asks. -/
def Brings (P : String → Float → Prop) : Verdict → Prop
  | accepted _ _ category nanos => P category nanos
  | _ => True

variable {P : String → Float → Prop}

theorem Brings.addTo {v : Verdict} (h : v.Brings P) (group : Nat) {points : TypedSeries}
    (hp : points.Stores P) : (v.addTo group points).Stores P := by
  cases v with
  | accepted g count category nanos =>
    rw [Verdict.addTo]
    split
    · exact hp.set h
    · exact hp
  | _ => exact hp

theorem stores_pointsOf {verdicts : List Verdict} (h : ∀ v ∈ verdicts, v.Brings P) (group : Nat) :
    (pointsOf verdicts group).Stores P := by
  apply List.foldlRecOn verdicts (motive := TypedSeries.Stores P)
  · exact TypedSeries.stores_empty
  · intro points hp v hv
    exact (h v hv).addTo group hp

end Verdict

/-- What the labels of a group set leave of a category and a value. -/
def Shape.Stored (shape : Shape) (category : String) (nanos : Float) : Prop :=
  (shape ≠ .typed → category = defaultCategory) ∧ nanos.isNaN = false

theorem GroupSet.brings_judgeRow (set : GroupSet) (group : Nat) (row : Row) :
    (set.judgeRow group row).Brings set.shape.Stored := by
  unfold judgeRow
  split
  · trivial
  · split
    · trivial
    · next hn =>
      refine ⟨fun hs => ?_, Bool.eq_false_iff.mpr hn⟩
      unfold Row.category
      cases hshape : set.shape with
      | typed => exact absurd hshape hs
      | count => rfl
      | threads => rfl

theorem GroupSet.brings_of_mem_walk {set : GroupSet} {document : Document} {v : Verdict}
    (h : v ∈ set.walk document) : v.Brings set.shape.Stored := by
  rw [walk_eq] at h
  obtain ⟨item, _, rfl⟩ := List.mem_map.mp h
  unfold verdictOn
  split
  · exact set.brings_judgeRow _ _
  · trivial

/-- A series that has points, all of them numbers. -/
structure CountSeries.Measured (points : CountSeries) : Prop where
  nonempty : points.entries ≠ []
  isNaN_eq_false : ∀ point ∈ points.entries, point.2.isNaN = false

def GroupSeries.points : GroupSeries → List (Nat × Float)
  | perSize points => points.entries
  | perType points => points.entries.flatMap fun (count, categories) =>
      categories.entries.map fun (_, nanos) => (count, nanos)

theorem TypedSeries.Stores.measured {points : TypedSeries}
    (h : points.Stores fun category nanos => category = defaultCategory ∧ nanos.isNaN = false)
    (hne : points.isEmpty = false) :
    CountSeries.Measured (points.filterMapValues (·.get? defaultCategory)) := by
  have hget := OrderedMap.get?_filterMapValues (·.get? defaultCategory) points
  constructor
  · obtain ⟨count, categories, hc⟩ := OrderedMap.isEmpty_eq_false_iff.mp hne
    obtain ⟨hcategories, hstored⟩ := h count categories hc
    obtain ⟨category, nanos, hk⟩ := OrderedMap.isEmpty_eq_false_iff.mp hcategories
    obtain ⟨rfl, _⟩ := hstored category nanos hk
    have hs := hget count
    rw [hc, Option.bind_some, hk] at hs
    exact List.ne_nil_of_mem (OrderedMap.get?_eq_some_iff.mp hs)
  · intro point hp
    have hs := OrderedMap.get?_eq_some_iff.mpr hp
    rw [hget] at hs
    obtain ⟨categories, hc, hk⟩ := Option.bind_eq_some_iff.mp hs
    exact ((h point.1 categories hc).2 defaultCategory point.2 hk).2

theorem TypedSeries.Stores.ofPoints_eq {points : TypedSeries}
    (h : points.Stores fun category nanos => category = defaultCategory ∧ nanos.isNaN = false) :
    GroupSeries.ofPoints points = .perSize (points.filterMapValues (·.get? defaultCategory)) := by
  apply if_pos
  apply List.all_eq_true.mpr
  intro entry he
  apply List.all_eq_true.mpr
  intro category hk
  obtain ⟨nanos, hn⟩ := Option.isSome_iff_exists.mp (OrderedMap.mem_keys_iff.mp hk)
  have hc := OrderedMap.get?_eq_some_iff.mpr he
  exact beq_iff_eq.mpr ((h entry.1 entry.2 hc).2 category nanos hn).1

namespace Dataset

theorem mem_groups_extract {document : Document} {set : GroupSet} {name : String}
    {series : GroupSeries} (h : (name, series) ∈ (extract document set).groups) :
    ∃ i g, set.groups[i]? = some g ∧ g.name = name ∧
      (Verdict.pointsOf (set.walk document) i).isEmpty = false ∧
      series = .ofPoints (Verdict.pointsOf (set.walk document) i) :=
  mem_filled.mp (Fields.mem_of_mem_ofPairs h)

theorem measured_of_get?_extract {document : Document} {set : GroupSet} (hset : set.shape ≠ .typed)
    {name : String} {series : GroupSeries}
    (h : (extract document set).get? name = some series) :
    ∃ points : CountSeries, series = .perSize points ∧ points.Measured := by
  obtain ⟨i, _, _, _, hne, rfl⟩ := mem_groups_extract (Fields.mem_of_get?_eq_some h)
  have hstores : (Verdict.pointsOf (set.walk document) i).Stores
      fun category nanos => category = defaultCategory ∧ nanos.isNaN = false := by
    apply Verdict.stores_pointsOf
    intro v hv
    have hbrings := GroupSet.brings_of_mem_walk hv
    cases v with
    | accepted => exact ⟨hbrings.1 hset, hbrings.2⟩
    | _ => trivial
  exact ⟨_, hstores.ofPoints_eq, hstores.measured hne⟩

end Dataset

end BenchCharts
