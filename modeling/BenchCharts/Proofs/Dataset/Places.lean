import BenchCharts.Proofs.Dataset.Points

/-!
The places of a dataset: every group, count and category that it has a value for, each once.
-/

namespace BenchCharts

theorem nodup_labelled {es : List (κ × α)} {f : α → List β} (h : (es.map (·.1)).Nodup)
    (hf : ∀ e ∈ es, (f e.2).Nodup) : (es.flatMap fun (k, a) => (f a).map (k, ·)).Nodup := by
  apply List.nodup_flatMap.mpr
  constructor
  · intro e he
    exact (hf e he).map fun a b hab => (Prod.mk.inj hab).2
  · apply (List.pairwise_map.mp h).imp
    intro e e' hne
    rintro ⟨k, b⟩ hb hb'
    obtain ⟨_, _, hb⟩ := List.mem_map.mp hb
    obtain ⟨_, _, hb'⟩ := List.mem_map.mp hb'
    exact hne ((Prod.mk.inj hb).1.trans (Prod.mk.inj hb').1.symm)

namespace GroupSeries

def places : GroupSeries → List (Nat × String)
  | perSize points => points.keys.map (·, defaultCategory)
  | perType points => points.entries.flatMap fun (count, categories) =>
      categories.keys.map (count, ·)

theorem mem_places_iff {series : GroupSeries} {count : Nat} {category : String} :
    (count, category) ∈ series.places ↔ ((series.atCount count).get? category).isSome := by
  cases series with
  | perSize points =>
    simp only [places, get?_atCount_perSize, List.mem_map, Prod.mk.injEq, OrderedMap.mem_keys_iff]
    constructor
    · rintro ⟨c, hc, rfl, hk⟩
      rw [if_pos hk]
      exact hc
    · intro hs
      split at hs
      · next hk => exact ⟨count, hs, rfl, hk⟩
      · cases hs
  | perType points =>
    simp only [places, List.mem_flatMap, List.mem_map, Prod.mk.injEq, atCount,
      TypedSeries.atCount]
    constructor
    · rintro ⟨⟨c, categories⟩, hm, k, hk, rfl, rfl⟩
      rw [OrderedMap.get?_eq_some_iff.mpr hm]
      exact OrderedMap.mem_keys_iff.mp hk
    · intro hs
      cases hp : points.get? count with
      | none => simp [hp] at hs
      | some categories =>
        rw [hp] at hs
        exact ⟨(count, categories), OrderedMap.get?_eq_some_iff.mp hp, category,
          OrderedMap.mem_keys_iff.mpr hs, rfl, rfl⟩

theorem places_nodup (series : GroupSeries) : series.places.Nodup := by
  cases series with
  | perSize points =>
    apply points.keys_nodup.map
    intro a b h
    exact (Prod.mk.inj h).1
  | perType points => exact nodup_labelled points.keys_nodup fun e _ => e.2.keys_nodup

end GroupSeries

namespace Dataset

def places (dataset : Dataset) : List (String × Nat × String) :=
  dataset.groups.flatMap fun (name, series) => series.places.map (name, ·)

theorem mem_places_iff {dataset : Dataset} (h : (dataset.groups.map (·.1)).Nodup) {name : String}
    {count : Nat} {category : String} :
    (name, count, category) ∈ dataset.places ↔
      ((dataset.atCount name count).get? category).isSome := by
  have hget {series : GroupSeries} :
      dataset.get? name = some series ↔ (name, series) ∈ dataset.groups :=
    Fields.get?_eq_some_iff h
  simp only [places, List.mem_flatMap, List.mem_map, atCount]
  constructor
  · rintro ⟨⟨n, series⟩, hm, p, hp, he⟩
    obtain ⟨rfl, rfl⟩ := Prod.mk.inj he
    rw [hget.mpr hm]
    exact GroupSeries.mem_places_iff.mp hp
  · intro hs
    cases hg : dataset.get? name with
    | none => simp [hg] at hs
    | some series =>
      rw [hg] at hs
      exact ⟨(name, series), hget.mp hg, (count, category), GroupSeries.mem_places_iff.mpr hs, rfl⟩

theorem places_nodup {dataset : Dataset} (h : (dataset.groups.map (·.1)).Nodup) :
    dataset.places.Nodup :=
  nodup_labelled h fun e _ => e.2.places_nodup

end Dataset

end BenchCharts
