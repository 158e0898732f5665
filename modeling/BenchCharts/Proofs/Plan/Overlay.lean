import BenchCharts.Plan.Overlay
import BenchCharts.Proofs.Dataset.Stored
import BenchCharts.Proofs.Plan.Loading
import BenchCharts.Proofs.Report.Overlay

/-!
The plan of the reports that compare worker and knitting: a source either has its two lines in the
chart or is warned about, and a chart that is composed is drawn.
-/

namespace BenchCharts

def Dataset.HasNumber (dataset : Dataset) (group : String) : Prop :=
  ∃ series, dataset.get? group = some series ∧ ∃ point ∈ series.points, point.2.isNaN = false

theorem Dataset.hasNumber_extract_iff {document : Document} {set : GroupSet}
    (hset : set.shape ≠ .typed) {group : String} :
    (extract document set).HasNumber group ↔
      ∃ s, (extract document set).perSize? group = some s ∧ s.usable ≠ [] := by
  constructor
  · rintro ⟨series, hg, point, hp, hn⟩
    obtain ⟨s, rfl, _⟩ := measured_of_get?_extract hset hg
    have hu : point ∈ s.usable := List.mem_filter.mpr ⟨hp, by rw [hn]; rfl⟩
    refine ⟨s, ?_, List.ne_nil_of_mem hu⟩
    rw [perSize?, hg]
    rfl
  · rintro ⟨s, hs, hne⟩
    obtain ⟨series, hg, hsize⟩ := Option.bind_eq_some_iff.mp hs
    obtain ⟨s', rfl, _⟩ := measured_of_get?_extract hset hg
    cases hsize
    obtain ⟨point, hp⟩ := List.exists_mem_of_ne_nil _ hne
    obtain ⟨hmem, hn⟩ := List.mem_filter.mp hp
    exact ⟨_, hg, point, hmem, (Bool.not_eq_true' _).mp hn⟩

theorem Setting.extracted_of_mem_loadSources {setting : Setting} {tree : FileTree} {input : Path}
    {kind : String} {set : GroupSet} {results : Results}
    (h : results ∈ (setting.loadSources tree input kind set).2) :
    ∃ document, results.dataset = .extract document set := by
  obtain ⟨_, document, _, _, hd, _⟩ := source_of_mem_loadSources h
  exact ⟨document, hd⟩

namespace Overlay

theorem Pair.isOk_ofResults_iff {results : Results}
    (h : ∃ document, results.dataset = .extract document groupSet) :
    (Pair.ofResults results).isOk = true ↔
      ∀ group ∈ ["worker", "knitting"], results.dataset.HasNumber group := by
  have hok : (Pair.ofResults results).isOk = true ↔ ∃ pair, Pair.ofResults results = .ok pair := by
    cases Pair.ofResults results with
    | ok pair => exact iff_of_true rfl ⟨pair, rfl⟩
    | error gap => exact iff_of_false nofun nofun
  obtain ⟨document, hd⟩ := h
  rw [hok, List.forall_mem_cons, List.forall_mem_singleton, hd,
    Dataset.hasNumber_extract_iff (by decide), Dataset.hasNumber_extract_iff (by decide), ← hd]
  constructor
  · rintro ⟨pair, hp⟩
    obtain ⟨worker, knitting, hw, hk, hwu, hku, _⟩ := Pair.ofResults_eq_ok_iff.mp hp
    exact ⟨⟨worker, hw, hwu⟩, ⟨knitting, hk, hku⟩⟩
  · rintro ⟨⟨worker, hw, hwu⟩, ⟨knitting, hk, hku⟩⟩
    exact ⟨_, Pair.ofResults_eq_ok_iff.mpr ⟨worker, knitting, hw, hk, hwu, hku, rfl⟩⟩

def Gap.warning (home : Option Path) (results : Results) : Gap → String
  | oneSided => s!"{results.source}: needs both worker and knitting results; skipping"
  | noPoints => s!"{results.source}: no aligned points in {results.path.shown home}"

theorem warning_mem_pairRemarks {results : Results} {gap : Gap}
    (h : Pair.ofResults results = .error gap) (home : Option Path) :
    .warning (gap.warning home results) ∈ pairRemarks home results := by
  unfold pairRemarks
  rw [h]
  apply List.mem_append_right
  cases gap with
  | oneSided => exact List.mem_singleton_self _
  | noPoints => exact List.mem_singleton_self _

theorem warning_of_not_isOk {results : Results} (h : (Pair.ofResults results).isOk = false)
    (home : Option Path) :
    ∃ reason : String, .warning s!"{results.source}: {reason}" ∈ pairRemarks home results := by
  cases hp : Pair.ofResults results with
  | ok pair =>
    rw [hp] at h
    cases h
  | error gap =>
    have hwarning := warning_mem_pairRemarks hp home
    -- the texts of the two warnings, cut behind the name
    cases gap with
    | oneSided =>
      refine ⟨"needs both worker and knitting results; skipping", ?_⟩
      simp only [toString, String.append_assoc]
      exact hwarning
    | noPoints =>
      refine ⟨"no aligned points in " ++ results.path.shown home, ?_⟩
      simp only [Gap.warning, toString, String.append_assoc] at hwarning ⊢
      rw [← @String.append_assoc ": "]
      exact hwarning

theorem flatMap_pairs (results : List Results) (f : String → List α) :
    (pairs results).flatMap (fun pair => f pair.source) =
      (results.filter fun r => (Pair.ofResults r).isOk).flatMap fun r => f r.source := by
  induction results with
  | nil => rfl
  | cons r results ih =>
    have hcons : pairs (r :: results) = (Pair.ofResults r).toOption.toList ++ pairs results := by
      rw [pairs, List.filterMap_cons]
      cases (Pair.ofResults r).toOption <;> rfl
    rw [hcons, List.flatMap_append, ih]
    cases hr : Pair.ofResults r with
    | error gap =>
      rw [List.filter_cons_of_neg (by rw [hr]; exact Bool.false_ne_true)]
      rfl
    | ok pair =>
      obtain ⟨worker, knitting, _, _, _, _, rfl⟩ := Pair.ofResults_eq_ok_iff.mp hr
      rw [List.filter_cons_of_pos (by rw [hr]; rfl), List.flatMap_cons]
      congr 1
      exact List.append_nil _

theorem isEmpty_alignment_pairs {results : List Results} (h : pairs results ≠ []) :
    (alignment (pairs results)).isEmpty = false := by
  apply isEmpty_alignment_eq_false h
  intro pair hp
  obtain ⟨r, _, hr⟩ := mem_pairs_iff.mp hp
  obtain ⟨worker, knitting, _, _, hwu, hku, rfl⟩ := Pair.ofResults_eq_ok_iff.mp hr
  exact (Pair.own_isEmpty_eq_false_iff _).mpr ⟨hwu, hku⟩

theorem isBlank_chart_pairs (overlay : Overlay) {results : List Results} (h : pairs results ≠ [])
    (config : Config) : (overlay.chart (pairs results) config).isBlank = false := by
  have hlabels := labels_chart overlay config (isEmpty_alignment_pairs h)
  obtain ⟨pair, hp⟩ := List.exists_mem_of_ne_nil _ h
  have hne : (overlay.chart (pairs results) config).lines.map (·.label) ≠ [] := by
    rw [hlabels]
    exact List.ne_nil_of_mem (List.mem_flatMap.mpr ⟨pair, hp, List.mem_cons_self⟩)
  exact List.isEmpty_eq_false_iff.mpr (mt List.map_eq_nil_iff.mpr hne)

theorem plan_eq_append (overlay : Overlay) (setting : Setting) (tree : FileTree)
    (request : ReportRequest) :
    let loading := setting.loadSources tree request.input overlay.kind groupSet
    ∃ more : List Remark, overlay.plan setting tree request =
      (loading.1 ++ loading.2.flatMap (pairRemarks setting.home)).map .say ++
        if (pairs loading.2).isEmpty then
          .say (.warning s!"No {overlay.kind} results to plot") :: more.map .say
        else more.map .say ++
          setting.chartSteps request xLabel (overlay.chart (pairs loading.2) setting.config)
            (request.out.getD overlay.standardOut) := by
  unfold plan
  rcases setting.loadSources tree request.input overlay.kind groupSet with ⟨said, loaded⟩
  dsimp only
  cases (pairs loaded).isEmpty with
  | true =>
    refine ⟨if loaded.isEmpty then [inputHint] else [], ?_⟩
    cases loaded.isEmpty <;> rfl
  | false => exact ⟨_, rfl⟩

theorem plan_eq (overlay : Overlay) (setting : Setting) (tree : FileTree)
    (request : ReportRequest) :
    let results := (setting.loadSources tree request.input overlay.kind groupSet).2
    ∃ said : List Remark, results.flatMap (pairRemarks setting.home) ⊆ said ∧
      overlay.plan setting tree request = said.map .say ++
        if (pairs results).isEmpty then []
        else [.draw (overlay.chart (pairs results) setting.config)
          (request.out.getD overlay.standardOut)] := by
  intro results
  obtain ⟨more, hplan⟩ := plan_eq_append overlay setting tree request
  have hsub : results.flatMap (pairRemarks setting.home) ⊆
      (setting.loadSources tree request.input overlay.kind groupSet).1 ++
        results.flatMap (pairRemarks setting.home) := List.subset_append_right ..
  rw [hplan]
  split
  · refine ⟨_ ++ Remark.warning s!"No {overlay.kind} results to plot" :: more,
      List.subset_append_of_subset_left _ hsub, ?_⟩
    simp only [List.append_nil, List.map_append, List.map_cons]
    rfl
  · next hne =>
    rw [Setting.chartSteps_of_not_isBlank request xLabel _
      (isBlank_chart_pairs overlay (mt List.isEmpty_iff.mpr hne) setting.config),
      Setting.drawingSteps, ← List.append_assoc, ← List.append_assoc, ← List.map_append,
      ← List.map_append]
    exact ⟨_, List.subset_append_of_subset_left _ (List.subset_append_of_subset_left _ hsub), rfl⟩

theorem oneSided_of_get?_eq_none {results : Results} {group : String}
    (hg : group ∈ ["worker", "knitting"]) (h : results.dataset.get? group = none) :
    Pair.ofResults results = .error .oneSided := by
  have hnone : results.dataset.perSize? group = none := by
    rw [Dataset.perSize?, h, Option.bind_none]
  unfold Pair.ofResults
  split
  · next hw hk =>
    simp only [List.mem_cons, List.not_mem_nil, or_false] at hg
    rcases hg with rfl | rfl
    · rw [hw] at hnone
      cases hnone
    · rw [hk] at hnone
      cases hnone
  · rfl

structure Tolerant (overlay : Overlay) (setting : Setting) (tree : FileTree)
    (request : ReportRequest) (plan : Plan) : Prop where
  sources : setting.Accounts tree request.input overlay.kind groupSet plan
  lacking : ∀ r ∈ (setting.loadSources tree request.input overlay.kind groupSet).2,
    ∀ group ∈ ["worker", "knitting"], r.dataset.get? group = none →
      plan.Warns (Gap.oneSided.warning setting.home r)
  paired : ∀ r ∈ (setting.loadSources tree request.input overlay.kind groupSet).2,
    match Pair.ofResults r with
    | .ok pair => pair ∈ pairs (setting.loadSources tree request.input overlay.kind groupSet).2
    | .error gap => plan.Warns (gap.warning setting.home r)
  nothing : pairs (setting.loadSources tree request.input overlay.kind groupSet).2 = [] →
    plan.Warns s!"No {overlay.kind} results to plot"
  chart : let pairs := pairs (setting.loadSources tree request.input overlay.kind groupSet).2
    pairs ≠ [] → .draw (overlay.chart pairs setting.config)
      (request.out.getD overlay.standardOut) ∈ plan

theorem tolerant_plan (overlay : Overlay) (setting : Setting) (tree : FileTree)
    (request : ReportRequest) :
    overlay.Tolerant setting tree request (overlay.plan setting tree request) := by
  obtain ⟨more, hplan⟩ := plan_eq_append overlay setting tree request
  have hsaid := Plan.said_of_eq hplan
  have hrest := Plan.rest_subset_of_eq hplan
  have hwarns (r : Results)
      (hr : r ∈ (setting.loadSources tree request.input overlay.kind groupSet).2) (gap : Gap)
      (h : Pair.ofResults r = .error gap) :
      Plan.Warns (overlay.plan setting tree request) (gap.warning setting.home r) := by
    apply hsaid
    apply List.mem_append_right
    exact List.mem_flatMap.mpr ⟨r, hr, warning_mem_pairRemarks h setting.home⟩
  constructor
  · exact Setting.accounts_of_said fun remark hr => hsaid remark (List.mem_append_left _ hr)
  · intro r hr group hg h
    exact hwarns r hr _ (oneSided_of_get?_eq_none hg h)
  · intro r hr
    cases hp : Pair.ofResults r with
    | ok pair => exact mem_pairs_iff.mpr ⟨r, hr, hp⟩
    | error gap => exact hwarns r hr gap hp
  · intro hnil
    rw [hnil] at hrest
    exact hrest List.mem_cons_self
  · intro pairs hne
    rw [if_neg (List.isEmpty_iff.not.mpr hne)] at hrest
    have hblank := isBlank_chart_pairs overlay hne setting.config
    rw [Setting.chartSteps_of_not_isBlank request xLabel _ hblank] at hrest
    apply hrest
    apply List.mem_append_right
    exact Setting.draw_mem_drawingSteps _ _ _ _

theorem chartsOnly_plan (overlay : Overlay) (setting : Setting) (tree : FileTree)
    (request : ReportRequest) : (overlay.plan setting tree request).ChartsOnly := by
  obtain ⟨more, hplan⟩ := plan_eq_append overlay setting tree request
  rw [hplan]
  apply Plan.ChartsOnly.append (.said _)
  split
  · exact .say (.said _) _
  · exact .append (.said _) (Setting.chartsOnly_chartSteps _ _ _ _)

/-- A chart that has both lines of every source with a pair, and a number at each of its ticks. -/
structure HoldsPairs (results : List Results) (chart : Chart) : Prop where
  ticks_ne_nil : chart.ticks ≠ []
  isBlank_eq_false : chart.isBlank = false
  labels_eq : chart.lines.map (·.label) =
    (results.filter fun r => (Pair.ofResults r).isOk).flatMap fun r =>
      ["Worker", "Knitting"].map (s!"{r.source} {·}")
  numbers : ∀ line ∈ chart.lines,
    line.values.length = chart.ticks.length ∧ ∀ x ∈ line.values, x.isNaN = false

theorem holdsPairs_chart (overlay : Overlay) {results : List Results} (h : pairs results ≠ [])
    (config : Config) : HoldsPairs results (overlay.chart (pairs results) config) := by
  have hempty := isEmpty_alignment_pairs h
  have hlength : (overlay.chart (pairs results) config).ticks.length =
      (alignment (pairs results)).counts.length := by
    rw [ticks_chart]
    exact List.length_map _
  constructor
  · intro hnil
    rw [hnil] at hlength
    exact Bool.eq_false_iff.mp hempty (List.isEmpty_iff_length_eq_zero.mpr hlength.symm)
  · exact isBlank_chart_pairs overlay h config
  · rw [labels_chart overlay config hempty]
    exact flatMap_pairs results fun source => ["Worker", "Knitting"].map (s!"{source} {·}")
  · rw [lines_chart_of_nonempty overlay config hempty, hlength]
    exact overlayLines_shared _ _ _ _ _

/-- A source has a pair if and only if both of its groups have a number, and is warned about
otherwise. If there is any pair, then the chart holds all of them and gets drawn. -/
theorem plan_draws_every_pair (overlay : Overlay) (setting : Setting) (results : List Results)
    (h : ∀ r ∈ results, ∃ document, r.dataset = .extract document groupSet) :
    (∀ r ∈ results,
      ((Pair.ofResults r).isOk = true ↔
        ∀ group ∈ ["worker", "knitting"], r.dataset.HasNumber group) ∧
      ((Pair.ofResults r).isOk = false →
        ∃ reason : String, .warning s!"{r.source}: {reason}" ∈ pairRemarks setting.home r)) ∧
      (pairs results ≠ [] →
        HoldsPairs results (overlay.chart (pairs results) setting.config)) ∧
      ∀ (tree : FileTree) (request : ReportRequest),
        let loaded := (setting.loadSources tree request.input overlay.kind groupSet).2
        (∀ r ∈ loaded, ∃ document, r.dataset = .extract document groupSet) ∧
          ∃ said : List Remark, loaded.flatMap (pairRemarks setting.home) ⊆ said ∧
            overlay.plan setting tree request = said.map .say ++
              if (pairs loaded).isEmpty then []
              else [.draw (overlay.chart (pairs loaded) setting.config)
                (request.out.getD overlay.standardOut)] := by
  refine ⟨fun r hr => ⟨Pair.isOk_ofResults_iff (h r hr), fun hno => ?_⟩, fun hne => ?_,
    fun tree request => ⟨fun r hr => ?_, ?_⟩⟩
  · exact warning_of_not_isOk hno setting.home
  · exact holdsPairs_chart overlay hne setting.config
  · exact Setting.extracted_of_mem_loadSources hr
  · exact plan_eq overlay setting tree request

/-- Two sources at different counts, and one without knitting. -/
theorem plan_draws_every_pair_disjoint :
    let entry (label : String) : Json := .object [("name", .string label), ("avg", .int 2000)]
    let first : Document := .mapping
      [("worker", .array [entry "w (1)"]), ("knitting", .array [entry "k (1)"])]
    let second : Document := .mapping
      [("worker", .array [entry "w (2)"]), ("knitting", .array [entry "k (2)"])]
    let third : Document := .mapping [("worker", .array [entry "w (2)"])]
    let deno : Results := ⟨"Deno", 2, ⟨[]⟩, .extract third groupSet⟩
    let results : List Results :=
      [⟨"Node.js", 0, ⟨[]⟩, .extract first groupSet⟩, ⟨"Bun", 1, ⟨[]⟩, .extract second groupSet⟩,
        deno]
    (∀ r ∈ results, ∃ document, r.dataset = .extract document groupSet) ∧
      (alignment (pairs results)).isDegraded = true ∧
      (latency.chart (pairs results) .standard).lines.map (·.label) =
        ["Node.js Worker", "Node.js Knitting", "Bun Worker", "Bun Knitting"] ∧
      ∃ reason : String, .warning s!"{deno.source}: {reason}" ∈ pairRemarks none deno := by
  intro entry first second third deno results
  have h : ∀ r ∈ results, ∃ document, r.dataset = .extract document groupSet :=
    List.forall_mem_cons.mpr ⟨⟨first, rfl⟩, List.forall_mem_cons.mpr ⟨⟨second, rfl⟩,
      List.forall_mem_singleton.mpr ⟨third, rfl⟩⟩⟩
  obtain ⟨hpairs, hchart, -⟩ := plan_draws_every_pair latency ⟨.standard, none⟩ results h
  refine ⟨h, by decide +kernel, ?_, ?_⟩
  · exact (hchart (by decide +kernel)).labels_eq.trans (by decide +kernel)
  · have hdeno : deno ∈ results :=
      List.mem_cons_of_mem _ (List.mem_cons_of_mem _ List.mem_cons_self)
    exact (hpairs deno hdeno).2 (by decide +kernel)

end Overlay

end BenchCharts
