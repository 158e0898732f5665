import BenchCharts.Proofs.Dataset.Sound
import BenchCharts.Proofs.Report.Charts
import BenchCharts.Proofs.TimeUnit

/-!
The chart of a count in the report on types of payload: it has the groups with points at the count
and the types of these points, and each line has the values of its group.
-/

namespace BenchCharts

namespace Dataset

def nanos? (dataset : Dataset) (group : String) (count : Nat) (category : String) : Option Float :=
  (dataset.get? group).bind fun series => (series.atCount count).get? category

def measures (dataset : Dataset) (count : Nat) (group : String) : Bool :=
  (dataset.get? group).any fun series => !(series.atCount count).isEmpty

theorem measures_iff {dataset : Dataset} {count : Nat} {group : String} :
    dataset.measures count group = true ↔
      ∃ category, (dataset.nanos? group count category).isSome := by
  unfold measures nanos?
  cases dataset.get? group with
  | none => simp
  | some series =>
    simp only [Option.any_some, Bool.not_eq_true', OrderedMap.isEmpty_eq_false_iff,
      Option.bind_some, Option.isSome_iff_exists]

end Dataset

namespace Types

def pointsAt (dataset : Dataset) (count : Nat) (group : String) : CategoryMap :=
  ((dataset.get? group).map (·.atCount count)).getD ∅

theorem get?_pointsAt (dataset : Dataset) (count : Nat) (group category : String) :
    (pointsAt dataset count group).get? category = dataset.nanos? group count category := by
  unfold pointsAt Dataset.nanos?
  cases dataset.get? group <;> rfl

theorem isEmpty_pointsAt (dataset : Dataset) (count : Nat) (group : String) :
    (pointsAt dataset count group).isEmpty = !dataset.measures count group := by
  unfold pointsAt Dataset.measures
  cases dataset.get? group with
  | none => rfl
  | some series => simp

theorem map_presentGroups (dataset : Dataset) (count : Nat) (f : String × CategoryMap → α) :
    (presentGroups dataset count).map (f ·.2) =
      (groups.filter (dataset.measures count)).map fun group =>
        f (group, pointsAt dataset count group) := by
  have hplaces : groups.zipIdx.map (·.1) = groups := List.zipIdx_map_fst ..
  rw [presentGroups, List.map_filterMap]
  conv_rhs => rw [← hplaces, List.filter_map, List.map_map, ← List.filterMap_eq_map,
    List.filterMap_filter]
  apply List.filterMap_congr
  intro e _
  have he := isEmpty_pointsAt dataset count e.1
  unfold pointsAt at he
  dsimp only
  rw [he, Function.comp_apply]
  cases dataset.measures count e.1 <;> rfl

theorem presentGroups_eq_nil_iff (dataset : Dataset) (count : Nat) :
    presentGroups dataset count = [] ↔ groups.filter (dataset.measures count) = [] := by
  have hnames := map_presentGroups dataset count (·.1)
  rw [← List.map_eq_nil_iff (f := (·.2.1)), hnames, List.map_eq_nil_iff]

def label (group : String) : String :=
  String.ofList (Text.titleCase group.toList)

/-- What a line shows of a value. -/
def shown (unit : TimeUnit) (nanos? : Option Float) : Float :=
  (nanos?.map unit.ofNanos).getD Decimal.nan

def lines (dataset : Dataset) (count : Nat) (unit : TimeUnit) (theme : Theme) : List Line :=
  (presentGroups dataset count).map fun (index, group, points) =>
    line (axis (presentGroups dataset count)) unit theme index group points

theorem labels_and_values (dataset : Dataset) (count : Nat) (unit : TimeUnit) (theme : Theme) :
    (lines dataset count unit theme).map (fun line => (line.label, line.values)) =
      (groups.filter (dataset.measures count)).map fun group =>
        (label group, (axis (presentGroups dataset count)).map fun type =>
          shown unit (dataset.nanos? group count type)) := by
  have hpresent := map_presentGroups dataset count fun (group, points) =>
    (label group, (axis (presentGroups dataset count)).map fun type =>
      shown unit (points.get? type))
  simp only [get?_pointsAt] at hpresent
  rw [lines, List.map_map]
  exact hpresent

section

variable {document : Document} {group category : String} {count : Nat} {nanos : Float}

theorem isNaN_of_nanos?
    (h : (Dataset.extract document groupSet).nanos? group count category = some nanos) :
    nanos.isNaN = false := by
  obtain ⟨series, hg, hc⟩ := Option.bind_eq_some_iff.mp h
  have hsound := (Dataset.sound_extract document groupSet).series _ (Fields.mem_of_get?_eq_some hg)
  exact hsound.isNaN_eq_false (count, nanos) (GroupSeries.mem_points_iff.mpr ⟨category, hc⟩)

theorem isNaN_shown_iff (unit : TimeUnit) :
    (shown unit ((Dataset.extract document groupSet).nanos? group count category)).isNaN = true ↔
      (Dataset.extract document groupSet).nanos? group count category = none := by
  cases h : (Dataset.extract document groupSet).nanos? group count category with
  | none =>
    have hnan : Decimal.nan.isNaN = true := by rfl
    exact iff_of_true hnan rfl
  | some nanos =>
    refine iff_of_false (Bool.eq_false_iff.mp ?_) nofun
    exact (unit.isNaN_ofNanos nanos).trans (isNaN_of_nanos? h)

theorem mem_filter_measures
    (h : ((Dataset.extract document groupSet).nanos? group count category).isSome) :
    group ∈ groups.filter ((Dataset.extract document groupSet).measures count) := by
  obtain ⟨nanos, hn⟩ := Option.isSome_iff_exists.mp h
  obtain ⟨series, hg, _⟩ := Option.bind_eq_some_iff.mp hn
  have hnames : ∀ name ∈ groupSet.groups.map (·.name), name ∈ groups := by decide +kernel
  have hname := (Dataset.sound_extract document groupSet).names_sublist.subset
    (List.mem_map_of_mem (Fields.mem_of_get?_eq_some hg))
  exact List.mem_filter.mpr ⟨hnames group hname, Dataset.measures_iff.mpr ⟨category, h⟩⟩

theorem mem_allCounts_iff :
    count ∈ (Dataset.extract document groupSet).allCounts ↔
      groups.filter ((Dataset.extract document groupSet).measures count) ≠ [] := by
  have hsound := Dataset.sound_extract document groupSet
  rw [hsound.mem_allCounts_iff]
  constructor
  · rintro ⟨⟨name, series⟩, he, hc⟩
    obtain ⟨category, nanos, hn⟩ :=
      OrderedMap.isEmpty_eq_false_iff.mp (((hsound.series _ he).mem_counts_iff count).mp hc)
    have hget : (Dataset.extract document groupSet).get? name = some series :=
      (Fields.get?_eq_some_iff hsound.names_nodup).mpr he
    have hvalue : (Dataset.extract document groupSet).nanos? name count category = some nanos := by
      rw [Dataset.nanos?, hget]
      exact hn
    exact List.ne_nil_of_mem (mem_filter_measures (Option.isSome_of_eq_some hvalue))
  · intro hne
    obtain ⟨group, hm⟩ := List.exists_mem_of_ne_nil _ hne
    obtain ⟨category, hn⟩ := Dataset.measures_iff.mp (List.mem_filter.mp hm).2
    obtain ⟨nanos, hn⟩ := Option.isSome_iff_exists.mp hn
    obtain ⟨series, hg, hc⟩ := Option.bind_eq_some_iff.mp hn
    have he := Fields.mem_of_get?_eq_some hg
    refine ⟨_, he, ((hsound.series _ he).mem_counts_iff count).mpr ?_⟩
    exact OrderedMap.isEmpty_eq_false_iff.mpr ⟨category, nanos, hc⟩

theorem mem_axis_iff :
    category ∈ axis (presentGroups (.extract document groupSet) count) ↔
      ∃ group, ((Dataset.extract document groupSet).nanos? group count category).isSome := by
  -- the axis is made from the groups of the plot, and a value lies in one of these
  have hmaps := map_presentGroups (.extract document groupSet) count (·.2)
  rw [axis, mem_categoryAxis_iff, hmaps]
  constructor
  · rintro ⟨m, hm, h⟩
    obtain ⟨group, _, rfl⟩ := List.mem_map.mp hm
    exact ⟨group, get?_pointsAt _ count group category ▸ h⟩
  · rintro ⟨group, h⟩
    refine ⟨_, List.mem_map_of_mem (mem_filter_measures h), ?_⟩
    rw [get?_pointsAt]
    exact h

theorem hasValue_of_mem_lines {unit : TimeUnit} {theme : Theme} {line : Line}
    (h : line ∈ lines (.extract document groupSet) count unit theme) : line.hasValue = true := by
  have hm := List.mem_map_of_mem (f := fun line : Line => (line.label, line.values)) h
  rw [labels_and_values] at hm
  obtain ⟨group, hg, he⟩ := List.mem_map.mp hm
  obtain ⟨category, hc⟩ := Dataset.measures_iff.mp (List.mem_filter.mp hg).2
  have hx : shown unit ((Dataset.extract document groupSet).nanos? group count category) ∈
      line.values := by
    rw [← (Prod.mk.inj he).2]
    exact List.mem_map_of_mem (mem_axis_iff.mpr ⟨group, hc⟩)
  refine List.any_eq_true.mpr ⟨_, hx, (Bool.not_eq_true' _).mpr (Bool.eq_false_iff.mpr ?_)⟩
  exact fun hnan => Option.isSome_iff_ne_none.mp hc ((isNaN_shown_iff _).mp hnan)

end

/-- A chart with the points of a dataset at a count, and nothing else. -/
structure Plots (dataset : Dataset) (count : Nat) (unit : TimeUnit) (chart : Chart) : Prop where
  ticks_nodup : chart.ticks.Nodup
  mem_ticks_iff : ∀ type, type ∈ chart.ticks ↔
    ∃ group, (dataset.nanos? group count type).isSome
  lines_eq : chart.lines.map (fun line => (line.label, line.values)) =
    (groups.filter (dataset.measures count)).map fun group =>
      (label group, chart.ticks.map fun type => shown unit (dataset.nanos? group count type))
  isBlank_eq_false : chart.isBlank = false

theorem plots_of_chart?_eq_some {document : Document} {title : String} {count : Nat}
    {config : Config} {chart : Chart}
    (h : chart? title count (.extract document groupSet) config = some chart) :
    Plots (.extract document groupSet) count (config.unitOr .us) chart := by
  unfold chart? at h
  dsimp only at h
  split at h
  · cases h
  · next hne =>
    cases h
    let lines := lines (.extract document groupSet) count (config.unitOr .us) config.theme
    have hkeep : lines.filter Line.hasValue = lines :=
      List.filter_eq_self.mpr fun _ hl => hasValue_of_mem_lines hl
    have hlines : lines ≠ [] := mt List.map_eq_nil_iff.mp (mt List.isEmpty_iff.mpr hne)
    constructor
    · rw [Chart.ticks_addLines]
      exact categoryAxis_nodup preferredTypes_nodup _
    · intro type
      rw [Chart.ticks_addLines]
      exact mem_axis_iff
    · rw [Chart.lines_addLines, Chart.ticks_addLines]
      exact (congrArg (List.map _) hkeep).trans (labels_and_values ..)
    · rw [Chart.isBlank, Chart.lines_addLines]
      exact List.isEmpty_eq_false_iff.mpr (hkeep ▸ hlines)

theorem chart?_isSome_iff {document : Document} (title : String) {count : Nat} (config : Config) :
    (chart? title count (.extract document groupSet) config).isSome ↔
      count ∈ (Dataset.extract document groupSet).allCounts := by
  rw [mem_allCounts_iff, Ne, ← presentGroups_eq_nil_iff, ← List.isEmpty_iff]
  unfold chart?
  dsimp only
  split
  · next he => exact iff_of_false nofun (not_not_intro he)
  · next he => exact iff_of_true rfl he

end Types

end BenchCharts
