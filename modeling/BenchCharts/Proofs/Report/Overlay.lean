import BenchCharts.Proofs.Chart.Readings
import BenchCharts.Report.Overlay
import Mathlib.Data.List.Basic

/-!
The reports that compare worker and knitting: the chart has two lines for each pair, with a number
at every tick, and where counts are shared by all pairs it says the same as their tables.
-/

namespace BenchCharts

namespace Overlay

namespace Pair

theorem own_isEmpty_eq_false_iff (pair : Pair) :
    pair.own.isEmpty = false ↔ pair.worker.usable ≠ [] ∧ pair.knitting.usable ≠ [] := by
  have hne : pair.series ≠ [] := List.cons_ne_nil _ _
  rw [own, Alignment.isEmpty_shared_eq_false_iff hne, series, List.forall_mem_cons,
    List.forall_mem_singleton]

theorem ofResults_eq_ok_iff {results : Results} {pair : Pair} :
    ofResults results = .ok pair ↔
      ∃ worker knitting, results.dataset.perSize? "worker" = some worker ∧
        results.dataset.perSize? "knitting" = some knitting ∧
        worker.usable ≠ [] ∧ knitting.usable ≠ [] ∧
        pair = ⟨results.source, results.index, worker, knitting⟩ := by
  unfold ofResults
  split
  · next worker knitting hw hk =>
    simp only [hw, hk, Option.some.injEq, exists_and_left, exists_eq_left']
    have hempty := own_isEmpty_eq_false_iff ⟨results.source, results.index, worker, knitting⟩
    split
    · next he =>
      refine iff_of_false nofun fun ⟨hwu, hku, _⟩ => ?_
      exact Bool.eq_false_iff.mp (hempty.mpr ⟨hwu, hku⟩) he
    · next he =>
      obtain ⟨hwu, hku⟩ := hempty.mp (Bool.eq_false_iff.mpr he)
      rw [Except.ok.injEq, eq_comm]
      exact ⟨fun h => ⟨hwu, hku, h⟩, fun h => h.2.2⟩
  · next hnone =>
    refine iff_of_false nofun ?_
    rintro ⟨worker, knitting, hw, hk, _⟩
    exact hnone worker knitting hw hk

end Pair

theorem mem_pairs_iff {results : List Results} {pair : Pair} :
    pair ∈ pairs results ↔ ∃ r ∈ results, Pair.ofResults r = .ok pair := by
  rw [pairs, List.mem_filterMap]
  apply exists_congr
  intro r
  cases Pair.ofResults r <;> simp [Except.toOption]

def allSeries (pairs : List Pair) : List CountSeries :=
  pairs.flatMap (·.series)

theorem map_snd_keyedSeries (pairs : List Pair) : (keyedSeries pairs).map (·.2) = allSeries pairs :=
  List.map_flatMap ..

theorem alignment_eq (pairs : List Pair) : alignment pairs = .shared (allSeries pairs) :=
  congrArg Alignment.shared (map_snd_keyedSeries pairs)

theorem series_subset {pairs : List Pair} {pair : Pair} (h : pair ∈ pairs) :
    ∀ s ∈ pair.series, s ∈ allSeries pairs :=
  fun _ hs => List.mem_flatMap.mpr ⟨pair, h, hs⟩

theorem allSeries_ne_nil {pairs : List Pair} (h : pairs ≠ []) : allSeries pairs ≠ [] := by
  obtain ⟨pair, hp⟩ := List.exists_mem_of_ne_nil _ h
  exact List.ne_nil_of_mem (series_subset hp pair.worker List.mem_cons_self)

section

variable (overlay : Overlay) (pairs : List Pair) (config : Config)

theorem ticks_chart : (overlay.chart pairs config).ticks = (alignment pairs).ticks " msgs" := by
  cases overlay with
  | latency => exact (Chart.ticks_addGuide _ _ _).trans (Chart.ticks_addLines _ _)
  | multi => exact Chart.ticks_addLines _ _

theorem lines_chart : (overlay.chart pairs config).lines =
    (overlayLines (alignment pairs) ((keyedSeries pairs).map (·.1)) (overlay.unit config)
      config.theme .source).filter Line.hasValue := by
  cases overlay with
  | latency => exact (Chart.lines_addGuide _ _ _).trans (Chart.lines_addLines _ _)
  | multi => exact Chart.lines_addLines _ _

end

theorem overlayLines_shared (series : List CountSeries) (keys : List SeriesKey) (unit : TimeUnit)
    (theme : Theme) (colorBy : ColorBy) :
    ∀ line ∈ overlayLines (.shared series) keys unit theme colorBy,
      line.values.length = (Alignment.shared series).counts.length ∧
        ∀ x ∈ line.values, x.isNaN = false := by
  intro line hl
  obtain ⟨⟨values, key⟩, hz, rfl⟩ := List.mem_map.mp hl
  obtain ⟨hlength, hnumbers⟩ :=
    (Alignment.shared_rows series).2 values (List.of_mem_zip hz).1
  refine ⟨(List.length_map _).trans hlength, fun x hx => ?_⟩
  obtain ⟨y, hy, rfl⟩ := List.mem_map.mp hx
  rw [TimeUnit.isNaN_ofNanos]
  exact hnumbers y hy

theorem lines_chart_of_nonempty (overlay : Overlay) {pairs : List Pair} (config : Config)
    (h : (alignment pairs).isEmpty = false) : (overlay.chart pairs config).lines =
      overlayLines (alignment pairs) ((keyedSeries pairs).map (·.1)) (overlay.unit config)
        config.theme .source := by
  rw [lines_chart]
  apply List.filter_eq_self.mpr
  intro line hl
  obtain ⟨hlength, hnumbers⟩ := overlayLines_shared _ _ _ _ _ line hl
  have hne : line.values ≠ [] := by
    intro hnil
    rw [hnil] at hlength
    exact Bool.eq_false_iff.mp h (List.isEmpty_iff_length_eq_zero.mpr hlength.symm)
  obtain ⟨x, hx⟩ := List.exists_mem_of_ne_nil _ hne
  exact List.any_eq_true.mpr ⟨x, hx, by rw [hnumbers x hx]; rfl⟩

theorem isEmpty_alignment_eq_false {pairs : List Pair} (h : pairs ≠ [])
    (hp : ∀ pair ∈ pairs, pair.own.isEmpty = false) : (alignment pairs).isEmpty = false := by
  rw [alignment_eq, Alignment.isEmpty_shared_eq_false_iff (allSeries_ne_nil h)]
  intro s hs
  obtain ⟨pair, hm, hs⟩ := List.mem_flatMap.mp hs
  have hne : pair.series ≠ [] := List.cons_ne_nil _ _
  exact (Alignment.isEmpty_shared_eq_false_iff hne).mp (hp pair hm) s hs

theorem labels_overlayLines {a : Alignment} {keys : List SeriesKey}
    (h : a.values.length = keys.length) (unit : TimeUnit) (theme : Theme) (colorBy : ColorBy) :
    (overlayLines a keys unit theme colorBy).map (·.label) =
      keys.map fun key => s!"{key.source} {key.group}" := by
  have hlooks := congrArg (List.map Look.label) (looks_overlayLines h unit theme colorBy)
  rw [List.map_map, List.map_map] at hlooks
  exact hlooks

theorem labels_chart (overlay : Overlay) {pairs : List Pair} (config : Config)
    (h : (alignment pairs).isEmpty = false) :
    (overlay.chart pairs config).lines.map (·.label) =
      pairs.flatMap fun pair => ["Worker", "Knitting"].map (s!"{pair.source} {·}") := by
  have hlength : (alignment pairs).values.length = ((keyedSeries pairs).map (·.1)).length := by
    rw [alignment, (Alignment.shared_rows _).1, List.length_map, List.length_map]
  rw [lines_chart_of_nonempty overlay config h, labels_overlayLines hlength, keyedSeries,
    List.map_map, List.map_flatMap]
  rfl

section

variable {pairs : List Pair} (hc : ∃ count, ∀ s ∈ allSeries pairs, s.Usable count)

include hc

theorem Pair.own_eq_of_common {pair : Pair} (h : pair ∈ pairs) :
    pair.own = ⟨Alignment.sharedCounts pair.series,
      pair.series.map fun s => (Alignment.sharedCounts pair.series).map s.valueAt,
      .sharedCounts⟩ := by
  obtain ⟨count, hall⟩ := hc
  have hne : pair.series ≠ [] := List.cons_ne_nil _ _
  have hown : ∃ count, ∀ s ∈ pair.series, s.Usable count :=
    ⟨count, fun s hs => hall s (series_subset h s hs)⟩
  exact Alignment.shared_of_common hne hown

theorem Pair.mem_counts_own {pair : Pair} (h : pair ∈ pairs) {count : Nat}
    (hcount : count ∈ Alignment.sharedCounts (allSeries pairs)) : count ∈ pair.own.counts := by
  have hne : pair.series ≠ [] := List.cons_ne_nil _ _
  rw [Pair.own_eq_of_common hc h]
  apply (Alignment.mem_sharedCounts_iff hne).mpr
  exact fun s hs => Alignment.usable_of_mem_sharedCounts (series_subset h s hs) hcount

theorem alignment_eq_of_common (h : pairs ≠ []) :
    alignment pairs = ⟨Alignment.sharedCounts (allSeries pairs),
      (allSeries pairs).map fun s => (Alignment.sharedCounts (allSeries pairs)).map s.valueAt,
      .sharedCounts⟩ :=
  (alignment_eq pairs).trans (Alignment.shared_of_common (allSeries_ne_nil h) hc)

theorem isEmpty_alignment_of_common (h : pairs ≠ []) : (alignment pairs).isEmpty = false := by
  rw [alignment_eq_of_common hc h]
  exact Bool.eq_false_iff.mpr fun he =>
    (Alignment.isEmpty_sharedCounts_iff (allSeries_ne_nil h)).mp he hc

theorem lines_chart_of_common (h : pairs ≠ []) (overlay : Overlay) (config : Config) :
    (overlay.chart pairs config).lines.map (fun line => (line.label, line.values.map some)) =
      pairs.flatMap fun pair =>
        (["Worker", "Knitting"].zip pair.own.values).map fun (group, row) =>
          (s!"{pair.source} {group}", (alignment pairs).counts.map fun count =>
            (pair.own.valueIn? row count).map (overlay.unit config).ofNanos) := by
  have hcounts : (alignment pairs).counts = Alignment.sharedCounts (allSeries pairs) :=
    congrArg Alignment.counts (alignment_eq_of_common hc h)
  have hvalues : (alignment pairs).values =
      (keyedSeries pairs).map fun e => (alignment pairs).counts.map e.2.valueAt := by
    rw [alignment_eq_of_common hc h, ← map_snd_keyedSeries, List.map_map]
    rfl
  rw [lines_chart_of_nonempty overlay config (isEmpty_alignment_of_common hc h), overlayLines,
    hvalues, List.zip_map', List.map_map, List.map_map, keyedSeries, List.map_flatMap]
  apply List.flatMap_congr
  intro pair hp
  have hrows : pair.own.values = pair.series.map fun s => pair.own.counts.map s.valueAt := by
    rw [Pair.own_eq_of_common hc hp]
  have hrow (s : CountSeries) :
      (((alignment pairs).counts.map s.valueAt).map (overlay.unit config).ofNanos).map some =
        (alignment pairs).counts.map fun count =>
          (pair.own.valueIn? (pair.own.counts.map s.valueAt) count).map
            (overlay.unit config).ofNanos := by
    rw [List.map_map, List.map_map]
    apply List.map_congr_left
    intro count hcount
    rw [Alignment.valueIn?_map _ _ (Pair.mem_counts_own hc hp (hcounts ▸ hcount))]
    rfl
  let label (group : String) : String := s!"{pair.source} {group}"
  rw [hrows]
  exact congrArg₂ (fun worker knitting => [(label "Worker", worker), (label "Knitting", knitting)])
    (hrow pair.worker) (hrow pair.knitting)

end

/-- Where the chart is over shared counts, so is the table of each pair, and the two lines of a pair
have the values of its table at every tick. -/
theorem chart_agrees_with_tables (overlay : Overlay) {pairs : List Pair} (h : pairs ≠ [])
    (config : Config) (hd : (alignment pairs).isDegraded = false) :
    let unit := overlay.unit config
    let chart := overlay.chart pairs config
    let counts := (alignment pairs).counts
    (∀ pair ∈ pairs, pair.own.isDegraded = false ∧ pair.own.values.length = 2 ∧
      ∀ count ∈ counts, count ∈ pair.own.counts) ∧
      chart.ticks = counts.map (s!"{·} msgs") ∧
      chart.lines.map (fun line => (line.label, line.values.map some)) =
        pairs.flatMap fun pair =>
          (["Worker", "Knitting"].zip pair.own.values).map fun (group, row) =>
            (s!"{pair.source} {group}",
              counts.map fun count => (pair.own.valueIn? row count).map unit.ofNanos) := by
  intro unit chart counts
  rw [alignment_eq, Alignment.isDegraded_shared_eq_false_iff (allSeries_ne_nil h)] at hd
  have hjoint := alignment_eq_of_common hd h
  have hcounts : counts = Alignment.sharedCounts (allSeries pairs) :=
    congrArg Alignment.counts hjoint
  refine ⟨fun pair hp => ⟨?_, ?_, fun count hcount => ?_⟩, ?_, ?_⟩
  · rw [Pair.own_eq_of_common hd hp]
    rfl
  · rw [Pair.own_eq_of_common hd hp]
    rfl
  · exact Pair.mem_counts_own hd hp (hcounts ▸ hcount)
  · rw [ticks_chart, hcounts, hjoint]
    rfl
  · exact lines_chart_of_common hd h overlay config

/-- Each pair has more counts of its own than the chart shows. -/
theorem chart_agrees_with_tables_shared :
    let first : Pair := ⟨"Node.js", 0, .ofList [(1, 10.0), (10, 20.0), (100, 30.0)],
      .ofList [(1, 40.0), (10, 50.0), (100, 60.0)]⟩
    let second : Pair := ⟨"Bun", 1, .ofList [(5, 7.0), (10, 8.0), (100, 9.0)],
      .ofList [(1, 1.0), (5, 2.0), (10, 3.0), (100, 4.0)]⟩
    [first, second] ≠ [] ∧ (alignment [first, second]).isDegraded = false ∧
      first.own.counts = [1, 10, 100] ∧ second.own.counts = [5, 10, 100] ∧
      (latency.chart [first, second] .standard).ticks = ["10 msgs", "100 msgs"] ∧
      (latency.chart [first, second] .standard).lines.map
          (fun line => (line.label, line.values.map some)) =
        [("Node.js Worker", [some 20.0, some 30.0]), ("Node.js Knitting", [some 50.0, some 60.0]),
          ("Bun Worker", [some 8.0, some 9.0]), ("Bun Knitting", [some 3.0, some 4.0])] := by
  intro first second
  have h : [first, second] ≠ [] := List.cons_ne_nil _ _
  have hd : (alignment [first, second]).isDegraded = false := by decide +kernel
  obtain ⟨_, hticks, hlines⟩ := chart_agrees_with_tables latency h .standard hd
  exact ⟨h, hd, by decide +kernel, by decide +kernel, hticks.trans (by decide +kernel),
    hlines.trans (by decide +kernel)⟩

end Overlay

end BenchCharts
