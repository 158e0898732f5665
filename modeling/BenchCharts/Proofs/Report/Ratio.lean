import BenchCharts.Proofs.Appearance
import BenchCharts.Proofs.Decimal.Positive

/-!
Which times a speedup is a ratio of. The time it is divided by is positive, but nothing is asked of
the time of one thread: if that is positive, too, all numbers of a source are ratios of positive
times, and if it is not, its speedups are numbers nevertheless.
-/

namespace BenchCharts.Load

open Decimal

/-- A ratio of two positive times, that of one thread and that of `n`. -/
inductive PositiveRatio (times : CountSeries) : (n : Nat) → (x : Float) → Prop
  | mk {one t n} (hone : times.get? 1 = some one) (ht : times.get? n = some t) (h₁ : 0.0 < one)
      (h : 0.0 < t) : PositiveRatio times n (one / t)

theorem isNaN_ratio_eq_false_iff {one t : Float} :
    (ratio one t).isNaN = false ↔
      0.0 < t ∧ one.isNaN = false ∧ ¬ (one.isInf = true ∧ t.isInf = true) := by
  unfold ratio
  by_cases ht : 0.0 < t
  · rw [if_pos ht, isNaN_div_of_pos ht, Bool.or_eq_false_iff, ← Bool.not_eq_true (_ && _),
      Bool.and_eq_true]
    exact (and_iff_right ht).symm
  · rw [if_neg ht]
    exact iff_of_false Bool.noConfusion fun h => ht h.1

variable {times : CountSeries} {one : Float}

theorem usable_speedup_iff {n : Nat} :
    CountSeries.Usable (times.mapValues fun _ t => ratio one t) n ↔
      ∃ t, times.get? n = some t ∧ 0.0 < t ∧ one.isNaN = false ∧
        ¬ (one.isInf = true ∧ t.isInf = true) := by
  simp only [← isNaN_ratio_eq_false_iff, CountSeries.Usable, OrderedMap.get?_mapValues,
    Option.map_eq_some_iff]
  constructor
  · rintro ⟨_, ⟨t, ht, rfl⟩, hn⟩
    exact ⟨t, ht, hn⟩
  · rintro ⟨t, ht, hn⟩
    exact ⟨_, ⟨t, ht, rfl⟩, hn⟩

theorem positiveRatio_of_mem_usable (hone : times.get? 1 = some one) (hpos : 0.0 < one) {n : Nat}
    {x : Float} (h : (n, x) ∈ CountSeries.usable (times.mapValues fun _ t => ratio one t)) :
    PositiveRatio times n x := by
  obtain ⟨hx, hn⟩ := CountSeries.mem_usable_iff.mp h
  rw [OrderedMap.get?_mapValues] at hx
  obtain ⟨t, ht, rfl⟩ := Option.map_eq_some_iff.mp hx
  obtain ⟨ht', _⟩ := isNaN_ratio_eq_false_iff.mp hn
  rw [ratio, if_pos ht']
  exact .mk hone ht hpos ht'

theorem mem_usable_of_efficiency {speedup : CountSeries} {n : Nat} {x : Float}
    (h : (n, x) ∈ (efficiency speedup).usable) :
    ∃ y, (n, y) ∈ speedup.usable ∧ x = y / Float.ofNat n * 100.0 := by
  obtain ⟨hx, hn⟩ := CountSeries.mem_usable_iff.mp h
  rw [efficiency, OrderedMap.get?_mapValues] at hx
  obtain ⟨y, hy, rfl⟩ := Option.map_eq_some_iff.mp hx
  refine ⟨y, CountSeries.mem_usable_iff.mpr ⟨hy, ?_⟩, rfl⟩
  apply Bool.eq_false_iff.mpr
  intro hnan
  have hshare := isNaN_mul_of_isNaN (isNaN_div_of_isNaN hnan (Float.ofNat n)) 100.0
  rw [hn] at hshare
  cases hshare

theorem exists_point_of_mem_views {theme : Theme} {pick : Scaling → CountSeries} {r : Results}
    {s : Scaling} (hs : scaling? r = some s) {view : Look × List (String × Float)}
    (hv : view ∈ views theme pick r) {reading : String × Float} (hr : reading ∈ view.2) :
    ∃ n x, (n, x) ∈ (pick s).usable ∧ reading = (toString n, x) := by
  have hview := (List.mem_filter.mp hv).1
  rw [hs] at hview
  obtain rfl := List.mem_singleton.mp hview
  obtain ⟨⟨n, x⟩, hm, rfl⟩ := List.mem_map.mp hr
  exact ⟨n, x, hm, rfl⟩

def FromPositive (times : CountSeries) (one : Float) (speedup : CountSeries) : Prop :=
  ∀ n, speedup.Usable n ∨ (efficiency speedup).Usable n →
    0.0 < one ∧ ∃ t, times.get? n = some t ∧ 0.0 < t

/-- Where a speedup and its efficiency are numbers, and which times these come from. -/
structure Ratios (times : CountSeries) (one : Float) (speedup : CountSeries) : Prop where
  usable_iff : ∀ n, speedup.Usable n ↔ ∃ t, times.get? n = some t ∧ 0.0 < t ∧
    one.isNaN = false ∧ ¬ (one.isInf = true ∧ t.isInf = true)
  usable_of_efficiency : ∀ n, (efficiency speedup).Usable n → speedup.Usable n
  /-- The time of one thread has to be positive, unless there is no number at all. -/
  fromPositive_iff : FromPositive times one speedup ↔ 0.0 < one ∨
    ∀ n t, times.get? n = some t → 0.0 < t →
      one.isNaN = true ∨ (one.isInf = true ∧ t.isInf = true)
  of_speedup : 0.0 < one → ∀ n x, (n, x) ∈ speedup.usable → PositiveRatio times n x
  of_efficiency : 0.0 < one → ∀ n x, (n, x) ∈ (efficiency speedup).usable →
    ∃ y, PositiveRatio times n y ∧ x = y / Float.ofNat n * 100.0

theorem usable_of_efficiency {speedup : CountSeries} {n : Nat}
    (h : (efficiency speedup).Usable n) : speedup.Usable n := by
  obtain ⟨x, hx⟩ := h
  obtain ⟨y, hy, _⟩ := mem_usable_of_efficiency (CountSeries.mem_usable_iff.mpr hx)
  exact ⟨y, CountSeries.mem_usable_iff.mp hy⟩

theorem fromPositive_iff :
    FromPositive times one (times.mapValues fun _ t => ratio one t) ↔ 0.0 < one ∨
      ∀ n t, times.get? n = some t → 0.0 < t →
        one.isNaN = true ∨ (one.isInf = true ∧ t.isInf = true) := by
  constructor
  · intro h
    by_cases hone : 0.0 < one
    · exact .inl hone
    · refine .inr fun n t ht hpos => ?_
      by_contra hnone
      obtain ⟨hnumber, hinf⟩ := not_or.mp hnone
      -- a number here would make the time of one thread positive
      have hu := usable_speedup_iff.mpr ⟨t, ht, hpos, Bool.eq_false_iff.mpr hnumber, hinf⟩
      exact hone (h n (.inl hu)).1
  · intro h n hn
    have hu := hn.elim id usable_of_efficiency
    obtain ⟨t, ht, hpos, hnumber, hinf⟩ := usable_speedup_iff.mp hu
    rcases h with hone | hnone
    · exact ⟨hone, t, ht, hpos⟩
    · rcases hnone n t ht hpos with hnan | hboth
      · rw [hnumber] at hnan
        cases hnan
      · exact (hinf hboth).elim

theorem ratios_of_baseline (hone : times.get? 1 = some one) :
    Ratios times one (times.mapValues fun _ t => ratio one t) where
  usable_iff := fun _ => usable_speedup_iff
  usable_of_efficiency := fun _ => usable_of_efficiency
  fromPositive_iff := fromPositive_iff
  of_speedup := fun hpos _ _ hx => positiveRatio_of_mem_usable hone hpos hx
  of_efficiency := by
    intro hpos n x hx
    obtain ⟨y, hy, he⟩ := mem_usable_of_efficiency hx
    exact ⟨y, positiveRatio_of_mem_usable hone hpos hy, he⟩

/-- A speedup is a number at just the positive times, unless infinity is divided by infinity, and an
efficiency is one nowhere else. If the time of one thread is positive, all numbers along the lines
of a source come from positive times; if it is not, there has to be no number at all. -/
theorem numbers_are_positive_ratios {times : CountSeries} {one : Float}
    (hone : times.get? 1 = some one) (results : List Results) (config : Config) :
    (∃ speedup, speedup? times = some speedup ∧ Ratios times one speedup) ∧
    let scalings := results.filterMap scaling?
    (∃ ideal, (speedupChart scalings config).views =
        results.flatMap (views config.theme (·.speedup)) ++ ideal ∧
      ∀ view ∈ ideal, view.1 = (idealLine [] config.theme).look) ∧
    (efficiencyChart scalings config).views =
      results.flatMap (views config.theme (·.efficiency)) ∧
    ∀ r, times? r = some times → 0.0 < one →
      (∀ view ∈ views config.theme (·.speedup) r, ∀ reading ∈ view.2,
        ∃ n x, PositiveRatio times n x ∧ reading = (toString n, x)) ∧
      ∀ view ∈ views config.theme (·.efficiency) r, ∀ reading ∈ view.2,
        ∃ n x, PositiveRatio times n x ∧ reading = (toString n, x / Float.ofNat n * 100.0) := by
  have hratios := ratios_of_baseline hone
  refine ⟨⟨_, speedup?_eq_some_iff.mpr ⟨one, hone, rfl⟩, hratios⟩,
    views_speedupChart results config, views_efficiencyChart results config, fun r ht hpos => ?_⟩
  have hs := scaling?_eq_some_iff.mpr ⟨times, one, ht, hone, rfl⟩
  constructor
  · intro view hv reading hr
    obtain ⟨n, x, hx, he⟩ := exists_point_of_mem_views hs hv hr
    exact ⟨n, x, hratios.of_speedup hpos n x hx, he⟩
  · intro view hv reading hr
    obtain ⟨n, _, hx, rfl⟩ := exists_point_of_mem_views hs hv hr
    obtain ⟨y, hy, rfl⟩ := hratios.of_efficiency hpos n _ hx
    exact ⟨n, y, hy, rfl⟩

/-- A time of zero, where no number is read. -/
theorem numbers_are_positive_ratios_zero :
    let row (name : String) (time : Int) : Json :=
      .object [("name", .string name), ("avg", .int time)]
    let r : Results := ⟨"Node.js", 0, ⟨[]⟩, .extract (.mapping [(group, .array [row "main" 800,
      row "main + 1 extra threads" 400, row "main + 2 extra threads" 0])]) groupSet⟩
    ∃ times, times? r = some times ∧ times.get? 1 = some 800.0 ∧ (0.0 : Float) < 800.0 ∧
      (∃ speedup, speedup? times = some speedup ∧ Ratios times 800.0 speedup ∧
        speedup.usable = [(1, 1.0), (2, 2.0)] ∧ FromPositive times 800.0 speedup) ∧
      ∀ view ∈ views Theme.standard (·.speedup) r, ∀ reading ∈ view.2,
        ∃ n x, PositiveRatio times n x ∧ reading = (toString n, x) := by
  intro row r
  have hcomputed : (times? r).map (fun times => (times.get? 1, (speedup? times).map (·.usable))) =
      some (some 800.0, some [(1, 1.0), (2, 2.0)]) := by decide +kernel
  obtain ⟨times, ht, hcomputed⟩ := Option.map_eq_some_iff.mp hcomputed
  obtain ⟨hone, husable⟩ := Prod.mk.inj hcomputed
  have hpos : (0.0 : Float) < 800.0 := by decide +kernel
  obtain ⟨⟨speedup, hspeedup, hratios⟩, -, -, hlines⟩ :=
    numbers_are_positive_ratios hone [r] .standard
  rw [hspeedup] at husable
  exact ⟨times, ht, hone, hpos, ⟨speedup, hspeedup, hratios, Option.some.inj husable,
    hratios.fromPositive_iff.mpr (.inl hpos)⟩, (hlines r ht hpos).1⟩

/-- The time of one thread is zero, and a speedup and an efficiency of zero are drawn. -/
theorem number_of_zero_baseline :
    let row (name : String) (time : Int) : Json :=
      .object [("name", .string name), ("avg", .int time)]
    let r : Results := ⟨"Node.js", 0, ⟨[]⟩, .extract (.mapping [(group, .array [row "main" 0,
      row "main + 1 extra threads" 400])]) groupSet⟩
    let scalings := [r].filterMap scaling?
    (∃ times speedup, times? r = some times ∧ times.get? 1 = some 0.0 ∧
      speedup? times = some speedup ∧ speedup.get? 2 = some 0.0 ∧
      (efficiency speedup).get? 2 = some 0.0 ∧ ¬ FromPositive times 0.0 speedup) ∧
      (0.0 : Float).isNaN = false ∧ ¬ (0.0 : Float) < 0.0 ∧
      (speedupChart scalings .standard).readings =
        [("Node.js", [("2", 0.0)]), ("Ideal linear", [("2", 2.0)])] ∧
      (efficiencyChart scalings .standard).readings = [("Node.js", [("2", 0.0)])] := by
  intro row r scalings
  have hcomputed : ((times? r).bind fun times => (speedup? times).map fun speedup =>
      (times.get? 1, speedup.get? 2, (efficiency speedup).get? 2)) =
        some (some 0.0, some 0.0, some 0.0) := by decide +kernel
  obtain ⟨times, ht, hcomputed⟩ := Option.bind_eq_some_iff.mp hcomputed
  obtain ⟨speedup, hspeedup, hcomputed⟩ := Option.map_eq_some_iff.mp hcomputed
  obtain ⟨hone, hvalues⟩ := Prod.mk.inj hcomputed
  obtain ⟨hratio, hshare⟩ := Prod.mk.inj hvalues
  have hreadings : (speedupChart scalings .standard).readings =
        [("Node.js", [("2", 0.0)]), ("Ideal linear", [("2", 2.0)])] ∧
      (efficiencyChart scalings .standard).readings = [("Node.js", [("2", 0.0)])] := by
    decide +kernel
  have hzero : ¬ (0.0 : Float) < 0.0 := by decide +kernel
  have hnone : ¬ FromPositive times 0.0 speedup :=
    fun h => hzero (h 2 (.inl ⟨0.0, hratio, by rfl⟩)).1
  exact ⟨⟨times, speedup, ht, hone, hspeedup, hratio, hshare, hnone⟩, by rfl, hzero, hreadings⟩

end BenchCharts.Load
