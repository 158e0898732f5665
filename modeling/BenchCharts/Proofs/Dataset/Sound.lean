import BenchCharts.Proofs.Dataset.Accounting
import BenchCharts.Proofs.Dataset.Stored
import BenchCharts.Proofs.Label
import BenchCharts.Report.Ipc
import BenchCharts.Report.Load
import BenchCharts.Report.Overlay
import BenchCharts.Report.Types

/-!
What can be relied on in every dataset. The groups are looked at through `places` and `atCount`, so
that it does not matter whether their categories were dropped.
-/

namespace BenchCharts

/-- A category is a text that is not empty and has no blanks at its ends. -/
def IsCategory (category : String) : Prop :=
  category ≠ "" ∧ Text.Trimmed category.toList

theorem isCategory_default : IsCategory defaultCategory := by
  have htext : defaultCategory.toList = ['d', 'e', 'f', 'a', 'u', 'l', 't'] := by rfl
  refine ⟨by decide, ?_⟩
  rw [htext]
  constructor
  · intro c hc
    cases hc
    rfl
  · intro c hc
    cases hc
    rfl

theorem Row.isCategory_category {row : Row} {shape : Shape} {count : Nat}
    (h : row.count? shape = some count) : IsCategory (row.category shape) := by
  cases shape with
  | count => exact isCategory_default
  | threads => exact isCategory_default
  | typed =>
    rw [category]
    by_cases he : (Label.ofJson row.label).category = ""
    · rw [if_pos he]
      exact isCategory_default
    · rw [if_neg he]
      exact ⟨he, Label.trimmed_of_count h⟩

namespace GroupSet

theorem mem_accepted_iff {set : GroupSet} {document : Document} {i count : Nat}
    {category : String} :
    (i, count, category) ∈ set.accepted document ↔
      ∃ row, (i, row) ∈ set.givenRows document ∧ row.measures set.shape count category := by
  simp only [Row.measures_iff]
  constructor
  · intro h
    obtain ⟨⟨group, row⟩, hr, hp⟩ := List.mem_filterMap.mp h
    obtain ⟨c, hc, hp⟩ := Option.bind_eq_some_iff.mp hp
    split at hp
    · cases hp
    · next hn =>
      cases hp
      exact ⟨row, hr, hc, rfl, Bool.eq_false_iff.mpr hn⟩
  · rintro ⟨row, hr, hc, rfl, hn⟩
    refine List.mem_filterMap.mpr ⟨(i, row), hr, Option.bind_eq_some_iff.mpr ⟨count, hc, ?_⟩⟩
    rw [hn]
    rfl

end GroupSet

namespace GroupSeries

theorem mem_points_iff {series : GroupSeries} {count : Nat} {nanos : Float} :
    (count, nanos) ∈ series.points ↔
      ∃ category, (series.atCount count).get? category = some nanos := by
  cases series with
  | perSize points =>
    simp only [get?_atCount_perSize, GroupSeries.points]
    constructor
    · intro h
      refine ⟨defaultCategory, ?_⟩
      rw [if_pos rfl, OrderedMap.get?_eq_some_iff.mpr h]
    · rintro ⟨category, h⟩
      split at h
      · exact OrderedMap.get?_eq_some_iff.mp h
      · cases h
  | perType points =>
    simp only [GroupSeries.points, atCount, TypedSeries.atCount, List.mem_flatMap, List.mem_map]
    constructor
    · rintro ⟨⟨c, categories⟩, hc, ⟨category, x⟩, hk, he⟩
      cases he
      rw [OrderedMap.get?_eq_some_iff.mpr hc]
      exact ⟨category, OrderedMap.get?_eq_some_iff.mpr hk⟩
    · rintro ⟨category, h⟩
      cases hp : points.get? count with
      | none =>
        rw [hp] at h
        cases h
      | some categories =>
        rw [hp] at h
        exact ⟨(count, categories), OrderedMap.get?_eq_some_iff.mp hp, (category, nanos),
          OrderedMap.get?_eq_some_iff.mp h, rfl⟩

theorem isEmpty_atCount_eq_false_iff {series : GroupSeries} {count : Nat} :
    (series.atCount count).isEmpty = false ↔ ∃ category, (count, category) ∈ series.places := by
  rw [OrderedMap.isEmpty_eq_false_iff]
  apply exists_congr
  intro category
  rw [mem_places_iff, Option.isSome_iff_exists]

theorem counts_ascending (series : GroupSeries) : series.counts.Pairwise (· < ·) := by
  cases series with
  | perSize points => exact points.keys_ascending
  | perType points => exact points.keys_ascending

theorem isSome_perSize?_ofPoints_iff (points : TypedSeries) :
    (ofPoints points).perSize?.isSome ↔
      ∀ place ∈ (ofPoints points).places, place.2 = defaultCategory := by
  unfold ofPoints
  split
  · refine iff_of_true rfl fun place hp => ?_
    obtain ⟨count, _, rfl⟩ := List.mem_map.mp hp
    rfl
  · next hne =>
    refine iff_of_false nofun fun hall => hne ?_
    refine List.all_eq_true.mpr fun entry he => List.all_eq_true.mpr fun category hk => ?_
    have hp : (entry.1, category) ∈ (perType points).places :=
      List.mem_flatMap.mpr ⟨entry, he, List.mem_map.mpr ⟨category, hk, rfl⟩⟩
    exact beq_iff_eq.mpr (hall _ hp)

theorem mem_counts_iff {series : GroupSeries}
    (h : ∀ points, series = perType points → points.Stores fun _ _ => True) {count : Nat} :
    count ∈ series.counts ↔ ∃ category, (count, category) ∈ series.places := by
  cases series with
  | perSize points =>
    constructor
    · exact fun hc => ⟨_, List.mem_map.mpr ⟨count, hc, rfl⟩⟩
    · rintro ⟨category, hp⟩
      obtain ⟨c, hc, he⟩ := List.mem_map.mp hp
      cases he
      exact hc
  | perType points =>
    constructor
    · intro hc
      obtain ⟨⟨c, categories⟩, he, rfl⟩ := List.mem_map.mp hc
      have hfull := (h points rfl c categories (OrderedMap.get?_eq_some_iff.mpr he)).1
      obtain ⟨category, nanos, hk⟩ := OrderedMap.isEmpty_eq_false_iff.mp hfull
      have hm := OrderedMap.mem_keys_iff.mpr (Option.isSome_of_mem hk)
      exact ⟨category, List.mem_flatMap.mpr ⟨_, he, List.mem_map.mpr ⟨category, hm, rfl⟩⟩⟩
    · rintro ⟨category, hp⟩
      obtain ⟨⟨c, categories⟩, he, hk⟩ := List.mem_flatMap.mp hp
      obtain ⟨k, _, hk⟩ := List.mem_map.mp hk
      cases hk
      exact List.mem_map.mpr ⟨_, he, rfl⟩

/-- What holds of every group that a dataset has. -/
structure Sound (series : GroupSeries) : Prop where
  points_ne_nil : series.points ≠ []
  isNaN_eq_false : ∀ point ∈ series.points, point.2.isNaN = false
  isCategory : ∀ place ∈ series.places, IsCategory place.2
  perSize_iff : series.perSize?.isSome ↔ ∀ place ∈ series.places, place.2 = defaultCategory
  counts_ascending : series.counts.Pairwise (· < ·)
  mem_counts_iff : ∀ count, count ∈ series.counts ↔ (series.atCount count).isEmpty = false

theorem Sound.isEmpty_eq_false {series : GroupSeries} (h : series.Sound) :
    series.isEmpty = false := by
  apply Bool.eq_false_iff.mpr
  intro he
  apply h.points_ne_nil
  cases series with
  | perSize points => exact List.isEmpty_iff.mp he
  | perType points =>
    have hnil : points.entries = [] := List.isEmpty_iff.mp he
    rw [GroupSeries.points, hnil]
    rfl

theorem Sound.counts_ne_nil {series : GroupSeries} (h : series.Sound) : series.counts ≠ [] := by
  obtain ⟨⟨count, nanos⟩, hp⟩ := List.exists_mem_of_ne_nil _ h.points_ne_nil
  obtain ⟨category, hc⟩ := mem_points_iff.mp hp
  have hfull := OrderedMap.isEmpty_eq_false_iff.mpr ⟨category, nanos, hc⟩
  exact List.ne_nil_of_mem ((h.mem_counts_iff count).mpr hfull)

end GroupSeries

namespace Dataset

theorem get?_atCount_walk (document : Document) (set : GroupSet) (i count : Nat)
    (category : String) :
    ((GroupSeries.ofPoints (Verdict.pointsOf (set.walk document) i)).atCount count).get? category =
      ((set.walk document).filterMap (Verdict.nanosAt? i count category)).getLast? := by
  rw [GroupSeries.get?_atCount_ofPoints, Verdict.get?_atCount_pointsOf]

theorem mem_places_walk {document : Document} {set : GroupSet} {i count : Nat}
    {category : String} :
    (count, category) ∈ (GroupSeries.ofPoints (Verdict.pointsOf (set.walk document) i)).places ↔
      (i, count, category) ∈ set.accepted document := by
  rw [GroupSeries.mem_places_iff, get?_atCount_walk, Verdict.isSome_getLast?_nanosAt?_iff,
    GroupSet.accepted_eq]

theorem isNaN_of_get?_walk {document : Document} {set : GroupSet} {i count : Nat}
    {category : String} {nanos : Float}
    (h : ((GroupSeries.ofPoints (Verdict.pointsOf (set.walk document) i)).atCount count).get?
      category = some nanos) : nanos.isNaN = false := by
  rw [get?_atCount_walk] at h
  obtain ⟨v, hv, hn⟩ := List.mem_filterMap.mp (List.mem_of_getLast? h)
  have hbrings := GroupSet.brings_of_mem_walk hv
  cases v with
  | accepted g c k x =>
    rw [Verdict.nanosAt?] at hn
    split at hn
    · cases hn
      exact hbrings.2
    · cases hn
  | _ => cases hn

theorem sound_of_mem_groups {document : Document} {set : GroupSet} {name : String}
    {series : GroupSeries} (h : (name, series) ∈ (extract document set).groups) : series.Sound := by
  obtain ⟨i, g, _, _, hne, rfl⟩ := mem_groups_extract h
  have hstores : (Verdict.pointsOf (set.walk document) i).Stores fun _ _ => True := by
    apply Verdict.stores_pointsOf
    intro v _
    cases v <;> trivial
  constructor
  · obtain ⟨count, categories, hc⟩ := OrderedMap.isEmpty_eq_false_iff.mp hne
    obtain ⟨category, nanos, hk⟩ :=
      OrderedMap.isEmpty_eq_false_iff.mp (hstores count categories hc).1
    have hat : ((Verdict.pointsOf (set.walk document) i).atCount count).get? category =
        some nanos := by
      rw [TypedSeries.atCount, hc, Option.getD_some, hk]
    rw [← GroupSeries.get?_atCount_ofPoints] at hat
    exact List.ne_nil_of_mem (GroupSeries.mem_points_iff.mpr ⟨category, hat⟩)
  · rintro ⟨count, nanos⟩ hp
    obtain ⟨category, hk⟩ := GroupSeries.mem_points_iff.mp hp
    exact isNaN_of_get?_walk hk
  · rintro ⟨count, category⟩ hp
    obtain ⟨row, _, hm⟩ := GroupSet.mem_accepted_iff.mp (mem_places_walk.mp hp)
    obtain ⟨hc, rfl, _⟩ := Row.measures_iff.mp hm
    exact Row.isCategory_category hc
  · exact GroupSeries.isSome_perSize?_ofPoints_iff _
  · exact GroupSeries.counts_ascending _
  · intro count
    rw [GroupSeries.isEmpty_atCount_eq_false_iff]
    apply GroupSeries.mem_counts_iff
    intro points hpoints
    unfold GroupSeries.ofPoints at hpoints
    split at hpoints
    · cases hpoints
    · cases hpoints
      exact hstores

theorem exists_row_of_mem_groups {document : Document} {set : GroupSet} {name : String}
    {series : GroupSeries} (h : (name, series) ∈ (extract document set).groups) {count : Nat}
    {category : String} (hp : (count, category) ∈ series.places) :
    ∃ row : Row, row.count? set.shape = some count := by
  obtain ⟨i, g, _, _, _, rfl⟩ := mem_groups_extract h
  obtain ⟨row, _, hm⟩ := GroupSet.mem_accepted_iff.mp (mem_places_walk.mp hp)
  exact ⟨row, (Row.measures_iff.mp hm).1⟩

theorem bounds_of_threads {document : Document} {set : GroupSet} (hs : set.shape = .threads)
    {name : String} {series : GroupSeries} (h : (name, series) ∈ (extract document set).groups)
    {count : Nat} (hc : count ∈ series.counts) : 0 < count ∧ count ≤ Decimal.maxCount := by
  have hfull := ((sound_of_mem_groups h).mem_counts_iff count).mp hc
  obtain ⟨category, hp⟩ := GroupSeries.isEmpty_atCount_eq_false_iff.mp hfull
  obtain ⟨row, hrow⟩ := exists_row_of_mem_groups h hp
  rw [hs] at hrow
  obtain ⟨s, _, hthreads⟩ := Option.bind_eq_some_iff.mp hrow
  exact Label.bounds_of_threadsOfText? hthreads

theorem names_filled (set : GroupSet) (verdicts : List Verdict) :
    ((filled set verdicts).map (·.1)).Sublist (set.groups.map (·.name)) := by
  have hzip (groups : List (Group × Nat)) :
      ((groups.filterMap fun e =>
        let points := Verdict.pointsOf verdicts e.2
        if points.isEmpty then none else some (e.1.name, GroupSeries.ofPoints points)).map
          (·.1)).Sublist (groups.map (·.1.name)) := by
    induction groups with
    | nil => exact .refl _
    | cons e groups ih =>
      rw [List.filterMap_cons, List.map_cons]
      dsimp only
      cases (Verdict.pointsOf verdicts e.2).isEmpty with
      | true => exact .cons _ ih
      | false => exact .cons_cons _ ih
  have hnames : set.groups.zipIdx.map (·.1.name) = set.groups.map (·.name) := by
    conv_rhs => rw [← List.zipIdx_map_fst 0 set.groups, List.map_map]
    rfl
  exact hnames ▸ hzip set.groups.zipIdx

/-- What holds of every dataset for a group set. -/
structure Sound (set : GroupSet) (dataset : Dataset) : Prop where
  names_nodup : (dataset.groups.map (·.1)).Nodup
  /-- The groups stand in the order of declaration. -/
  names_sublist : (dataset.groups.map (·.1)).Sublist (set.groups.map (·.name))
  series : ∀ e ∈ dataset.groups, e.2.Sound
  /-- Labels that hold counts only bring no categories. -/
  isSome_perSize? : set.shape ≠ .typed →
    ∀ name, (dataset.perSize? name).isSome = (dataset.get? name).isSome
  allCounts_ascending : dataset.allCounts.Pairwise (· < ·)
  mem_allCounts_iff : ∀ count, count ∈ dataset.allCounts ↔ ∃ e ∈ dataset.groups, count ∈ e.2.counts
  isEmpty_iff : dataset.isEmpty = true ↔ dataset.groups = []

theorem sound_extract (document : Document) (set : GroupSet) :
    (extract document set).Sound set where
  names_nodup := (Fields.names_ofPairs _).1
  names_sublist := (Fields.names_ofPairs _).2.1.trans (names_filled set _)
  series := fun e he => sound_of_mem_groups he
  isSome_perSize? := by
    intro hset name
    unfold perSize?
    cases hg : (extract document set).get? name with
    | none => rfl
    | some series =>
      obtain ⟨points, rfl, _⟩ := measured_of_get?_extract hset hg
      rfl
  allCounts_ascending := sortedKeys_ascending _
  mem_allCounts_iff := by
    intro count
    rw [allCounts, mem_sortedKeys, List.mem_flatMap]
  isEmpty_iff := by
    constructor
    · intro he
      apply List.eq_nil_iff_forall_not_mem.mpr
      intro e hm
      have hfull := (sound_of_mem_groups hm).isEmpty_eq_false
      exact Bool.eq_false_iff.mp hfull (List.all_eq_true.mp he e hm)
    · intro he
      rw [isEmpty, he]
      rfl

theorem Sound.allCounts_eq_nil_iff {set : GroupSet} {dataset : Dataset} (h : dataset.Sound set) :
    dataset.allCounts = [] ↔ dataset.isEmpty = true := by
  rw [h.isEmpty_iff]
  constructor
  · intro hnil
    apply List.eq_nil_iff_forall_not_mem.mpr
    intro e he
    obtain ⟨count, hc⟩ := List.exists_mem_of_ne_nil _ (h.series e he).counts_ne_nil
    exact List.not_mem_nil (hnil ▸ (h.mem_allCounts_iff count).mpr ⟨e, he, hc⟩)
  · intro hnil
    rw [allCounts, hnil]
    rfl

theorem isSome_get?_extract_iff {document : Document} {set : GroupSet} {name : String} :
    ((extract document set).get? name).isSome ↔
      ∃ i g, set.groups[i]? = some g ∧ g.name = name ∧
        ∃ count category, (i, count, category) ∈ set.accepted document := by
  rw [get?, Fields.isSome_get?_iff]
  constructor
  · intro h
    obtain ⟨⟨n, series⟩, hm, rfl⟩ := List.mem_map.mp h
    obtain ⟨i, g, hi, hn, hne, rfl⟩ := mem_groups_extract hm
    obtain ⟨⟨count, nanos⟩, hp⟩ :=
      List.exists_mem_of_ne_nil _ (sound_of_mem_groups hm).points_ne_nil
    obtain ⟨category, hk⟩ := GroupSeries.mem_points_iff.mp hp
    have hplace := GroupSeries.mem_places_iff.mpr (Option.isSome_of_mem hk)
    exact ⟨i, g, hi, hn, count, category, mem_places_walk.mp hplace⟩
  · rintro ⟨i, g, hi, rfl, count, category, ha⟩
    have hplace := GroupSeries.mem_places_iff.mp (mem_places_walk.mpr ha)
    rw [GroupSeries.get?_atCount_ofPoints] at hplace
    have hne : (Verdict.pointsOf (set.walk document) i).isEmpty = false := by
      apply Bool.eq_false_iff.mpr
      intro he
      rw [TypedSeries.atCount, OrderedMap.isEmpty_iff.mp he count] at hplace
      cases hplace
    have hfilled := mem_filled.mpr ⟨i, g, hi, rfl, hne, rfl⟩
    exact ((Fields.names_ofPairs _).2.2 _).mpr (List.mem_map_of_mem hfilled)

/-- Every dataset is sound, its groups are those that rows were accepted for, and their places are
the places of these rows. -/
theorem extract_sound_and_complete (document : Document) (set : GroupSet) :
    let dataset := extract document set
    dataset.Sound set ∧
      (∀ name, (dataset.get? name).isSome ↔ ∃ i g, set.groups[i]? = some g ∧ g.name = name ∧
        ∃ count category, (i, count, category) ∈ set.accepted document) ∧
      (∀ name series, (name, series) ∈ dataset.groups → ∃ i g, set.groups[i]? = some g ∧
        g.name = name ∧ ∀ count category,
          (count, category) ∈ series.places ↔ (i, count, category) ∈ set.accepted document) ∧
      ∀ report ∈ [Ipc.groupSet, Overlay.groupSet, Load.groupSet], ∀ name,
        ((extract document report).perSize? name).isSome =
          ((extract document report).get? name).isSome := by
  intro dataset
  refine ⟨sound_extract document set, fun name => isSome_get?_extract_iff,
    fun name series hm => ?_, fun report hr => ?_⟩
  · obtain ⟨i, g, hi, hn, _, rfl⟩ := mem_groups_extract hm
    exact ⟨i, g, hi, hn, fun count category => mem_places_walk⟩
  · have hshape : ∀ report ∈ [Ipc.groupSet, Overlay.groupSet, Load.groupSet],
        report.shape ≠ .typed := by decide
    exact (sound_extract document report).isSome_perSize? (hshape report hr)

/-- A row without a category leaves its group without categories, unless there are others. -/
theorem extract_sound_and_complete_types :
    let row (label : String) : Json := .object [("name", .string label), ("avg", .int 5)]
    let document : Document := .mapping
      [("worker", .array [row " void  -> (10)", row "(10)", row "(1)"]),
        ("knitting", .array [row "(3)"])]
    let dataset := extract document Types.groupSet
    dataset.groups.map (·.1) = ["knitting", "worker"] ∧ dataset.allCounts = [1, 3, 10] ∧
      (∀ e ∈ dataset.groups, ∀ place ∈ e.2.places, IsCategory place.2) ∧
      ∃ series, dataset.get? "worker" = some series ∧ series.perSize? = none ∧
        series.places = [(1, "default"), (10, "default"), (10, "void")] := by
  intro row document dataset
  obtain ⟨hsound, hnames, -, -⟩ := extract_sound_and_complete document Types.groupSet
  have hworker : (dataset.get? "worker").isSome := by
    apply (hnames "worker").mpr
    exact ⟨2, _, rfl, by decide +kernel, 1, "default", by decide +kernel⟩
  obtain ⟨series, hseries⟩ := Option.isSome_iff_exists.mp hworker
  have hplaces : (dataset.get? "worker").map (·.places) =
      some [(1, "default"), (10, "default"), (10, "void")] := by decide +kernel
  rw [hseries, Option.map_some, Option.some.injEq] at hplaces
  refine ⟨by decide +kernel, by decide +kernel, fun e he => (hsound.series e he).isCategory,
    series, hseries, ?_, hplaces⟩
  have hm := Fields.mem_of_get?_eq_some hseries
  apply Option.not_isSome_iff_eq_none.mp
  intro hsize
  have hall := (hsound.series _ hm).perSize_iff.mp hsize
  rw [hplaces] at hall
  exact absurd hall (by decide)

end Dataset

end BenchCharts
