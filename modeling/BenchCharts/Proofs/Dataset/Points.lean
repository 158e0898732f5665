import BenchCharts.Dataset
import BenchCharts.Proofs.Fields
import BenchCharts.Proofs.OrderedMap

/-!
The points of a dataset, by group, count and category: a walk over verdicts leaves at each place the
value of the last verdict for it, whatever becomes of the categories afterwards.
-/

namespace BenchCharts

namespace TypedSeries

theorem get?_atCount_set (points : TypedSeries) (count count' : Nat) (category category' : String)
    (nanos : Float) :
    ((points.set count category nanos).atCount count').get? category' =
      if count = count' ∧ category = category' then some nanos
      else (points.atCount count').get? category' := by
  by_cases hc : count = count'
  · subst hc
    have hat : (points.set count category nanos).atCount count =
        (points.atCount count).insert category nanos := by
      rw [atCount, set, OrderedMap.get?_insert_self, Option.getD_some]
    rw [hat]
    by_cases hk : category = category'
    · subst hk
      rw [if_pos ⟨rfl, rfl⟩, OrderedMap.get?_insert_self]
    · rw [if_neg (hk ∘ And.right), OrderedMap.get?_insert_of_ne _ _ hk]
  · have hat : (points.set count category nanos).atCount count' = points.atCount count' := by
      rw [atCount, set, OrderedMap.get?_insert_of_ne _ _ hc, atCount]
    rw [hat, if_neg (hc ∘ And.left)]

theorem eq_default_of_all {points : TypedSeries}
    (h : (points.entries.all fun e => e.2.keys.all (· == defaultCategory)) = true) {count : Nat}
    {category : String} (hs : ((points.atCount count).get? category).isSome) :
    category = defaultCategory := by
  cases hp : points.get? count with
  | none => simp [atCount, hp] at hs
  | some categories =>
    rw [atCount, hp, Option.getD_some, ← OrderedMap.mem_keys_iff] at hs
    have hm := OrderedMap.get?_eq_some_iff.mp hp
    exact eq_of_beq (List.all_eq_true.mp (List.all_eq_true.mp h _ hm) _ hs)

end TypedSeries

namespace GroupSeries

theorem get?_atCount_perSize (points : CountSeries) (count : Nat) (category : String) :
    ((perSize points).atCount count).get? category =
      if defaultCategory = category then points.get? count else none := by
  by_cases hk : defaultCategory = category
  · rw [if_pos hk, atCount, ← hk]
    cases points.get? count with
    | none => rfl
    | some nanos => exact OrderedMap.get?_insert_self _ _ _
  · rw [if_neg hk, atCount]
    cases points.get? count with
    | none => rfl
    | some nanos => exact OrderedMap.get?_insert_of_ne _ _ hk

theorem get?_atCount_ofPoints (points : TypedSeries) (count : Nat) (category : String) :
    ((ofPoints points).atCount count).get? category =
      (points.atCount count).get? category := by
  unfold ofPoints
  split
  · next h =>
    have hdefault : (points.get? count).bind (·.get? defaultCategory) =
        (points.atCount count).get? defaultCategory := by
      unfold TypedSeries.atCount
      cases points.get? count <;> rfl
    rw [get?_atCount_perSize, OrderedMap.get?_filterMapValues, hdefault]
    split
    · next hk => rw [hk]
    · next hk =>
      symm
      apply Option.not_isSome_iff_eq_none.mp
      exact fun hs => hk (TypedSeries.eq_default_of_all h hs).symm
  · rfl

end GroupSeries

namespace Verdict

/-- The value that an accepted row has for a place. -/
def nanosAt? (group count : Nat) (category : String) : Verdict → Option Float
  | accepted g c k nanos => if g = group ∧ c = count ∧ k = category then some nanos else none
  | _ => none

theorem get?_atCount_addTo (group count : Nat) (category : String) (points : TypedSeries)
    (v : Verdict) :
    ((addTo group points v).atCount count).get? category =
      (v.nanosAt? group count category).or ((points.atCount count).get? category) := by
  cases v with
  | unroutable => rfl
  | noCount => rfl
  | noValue => rfl
  | accepted g c k nanos =>
    by_cases hg : g = group
    · rw [addTo, if_pos hg, TypedSeries.get?_atCount_set]
      by_cases hck : c = count ∧ k = category
      · rw [if_pos hck, nanosAt?, if_pos ⟨hg, hck⟩, Option.some_or]
      · rw [if_neg hck, nanosAt?, if_neg (hck ∘ And.right), Option.none_or]
    · rw [addTo, if_neg hg, nanosAt?, if_neg (hg ∘ And.left), Option.none_or]

theorem get?_atCount_pointsOf (verdicts : List Verdict) (group count : Nat) (category : String) :
    ((pointsOf verdicts group).atCount count).get? category =
      (verdicts.filterMap (nanosAt? group count category)).getLast? := by
  have hfold (verdicts : List Verdict) (points : TypedSeries) :
      ((verdicts.foldl (addTo group) points).atCount count).get? category =
        (verdicts.filterMap (nanosAt? group count category)).getLast?.or
          ((points.atCount count).get? category) := by
    induction verdicts generalizing points with
    | nil => rfl
    | cons v verdicts ih =>
      rw [List.foldl_cons, ih, get?_atCount_addTo, ← Option.or_assoc]
      cases hv : v.nanosAt? group count category with
      | none => rw [Option.or_none, List.filterMap_cons_none hv]
      | some nanos =>
        rw [List.filterMap_cons_some hv, ← List.singleton_append, List.getLast?_append]
        rfl
  rw [pointsOf, hfold]
  exact Option.or_none

end Verdict

def GroupSet.Distinct (set : GroupSet) : Prop :=
  (set.groups.map (·.name)).Nodup

instance (set : GroupSet) : Decidable set.Distinct :=
  inferInstanceAs (Decidable (List.Nodup _))

theorem GroupSet.Distinct.index_eq {set : GroupSet} (h : set.Distinct) {i j : Nat} {g g' : Group}
    (hi : set.groups[i]? = some g) (hj : set.groups[j]? = some g') (hn : g.name = g'.name) :
    i = j := by
  have hlt : i < (set.groups.map (·.name)).length := by
    rw [List.length_map]
    exact (List.getElem?_eq_some_iff.mp hi).1
  apply (List.getElem?_inj hlt h).mp
  rw [List.getElem?_map, List.getElem?_map, hi, hj, Option.map_some, Option.map_some, hn]

namespace Dataset

/-- The categories of a group at a count, none if the group is absent. -/
def atCount (dataset : Dataset) (group : String) (count : Nat) : CategoryMap :=
  ((dataset.get? group).map (·.atCount count)).getD ∅

def filled (set : GroupSet) (verdicts : List Verdict) : List (String × GroupSeries) :=
  set.groups.zipIdx.filterMap fun (g, i) =>
    let points := Verdict.pointsOf verdicts i
    if points.isEmpty then none else some (g.name, GroupSeries.ofPoints points)

theorem mem_filled {set : GroupSet} {verdicts : List Verdict} {name : String}
    {series : GroupSeries} :
    (name, series) ∈ filled set verdicts ↔
      ∃ i g, set.groups[i]? = some g ∧ g.name = name ∧
        (Verdict.pointsOf verdicts i).isEmpty = false ∧
        series = .ofPoints (Verdict.pointsOf verdicts i) := by
  constructor
  · intro h
    obtain ⟨⟨g, i⟩, hm, he⟩ := List.mem_filterMap.mp h
    have hi := List.mem_zipIdx_iff_getElem?.mp hm
    dsimp only at he
    split at he
    · cases he
    · next hp =>
      cases he
      exact ⟨i, g, hi, rfl, Bool.eq_false_iff.mpr hp, rfl⟩
  · rintro ⟨i, g, hi, rfl, hp, rfl⟩
    refine List.mem_filterMap.mpr ⟨(g, i), List.mem_zipIdx_iff_getElem?.mpr hi, ?_⟩
    simp [hp]

theorem filled_distinct {set : GroupSet} (h : set.Distinct) (verdicts : List Verdict) :
    ((filled set verdicts).map (·.1)).Nodup := by
  apply List.pairwise_map.mpr
  apply List.pairwise_filterMap.mpr
  have hzip : (set.groups.zipIdx.map (·.1)).Pairwise fun a b => a.name ≠ b.name := by
    rw [List.zipIdx_map_fst]
    exact List.pairwise_map.mp h
  apply (List.pairwise_map.mp hzip).imp
  intro a b hne x hx y hy
  dsimp only at hx hy
  split at hx
  · cases hx
  · cases hx
    split at hy
    · cases hy
    · cases hy
      exact hne

theorem groups_ofVerdicts {set : GroupSet} (h : set.Distinct) (verdicts : List Verdict) :
    (ofVerdicts set verdicts).groups = filled set verdicts :=
  Fields.ofPairs_eq_self (filled_distinct h verdicts)

/-- A walk leaves at each place the value of the last row for it. -/
theorem get?_atCount_ofVerdicts {set : GroupSet} (h : set.Distinct) (verdicts : List Verdict)
    {i : Nat} {g : Group} (hi : set.groups[i]? = some g) (count : Nat) (category : String) :
    ((ofVerdicts set verdicts).atCount g.name count).get? category =
      (verdicts.filterMap (Verdict.nanosAt? i count category)).getLast? := by
  have hget {series : GroupSeries} : (ofVerdicts set verdicts).get? g.name = some series ↔
      (g.name, series) ∈ filled set verdicts := by
    rw [get?, groups_ofVerdicts h, Fields.get?_eq_some_iff (filled_distinct h verdicts)]
  rw [← Verdict.get?_atCount_pointsOf, atCount]
  cases hs : (ofVerdicts set verdicts).get? g.name with
  | some series =>
    obtain ⟨j, g', hj, hn, hp, rfl⟩ := mem_filled.mp (hget.mp hs)
    have hij := h.index_eq hj hi hn
    subst hij
    exact GroupSeries.get?_atCount_ofPoints _ _ _
  | none =>
    cases hp : (Verdict.pointsOf verdicts i).isEmpty with
    | false =>
      have hm := hget.mpr (mem_filled.mpr ⟨i, g, hi, rfl, hp, rfl⟩)
      rw [hs] at hm
      cases hm
    | true =>
      have hnone := OrderedMap.isEmpty_iff.mp hp count
      rw [TypedSeries.atCount, hnone]
      rfl

end Dataset

end BenchCharts
