import BenchCharts.Plan.Types
import BenchCharts.Proofs.Plan.Loading
import BenchCharts.Proofs.Report.Types

/-!
The plan of the report on types of payload: no file keeps another one from being drawn, and every
count of a file has its chart. Only a file without counts is warned about.
-/

namespace BenchCharts.Types

variable (setting : Setting) (tree : FileTree) (request : ReportRequest)

/-- One file: a chart for each of its counts, or a warning. -/
def FileTolerant (path : Path) (plan : Plan) : Prop :=
  let title := Source.stemTitle path.stem
  ∃ reading, tree.Reads path reading ∧
    match reading with
    | .error issue => plan.Warns (issue.skipWarning setting.home title)
    | .ok document =>
      let dataset := Dataset.extract document groupSet
      (dataset.isEmpty = true →
        plan.Warns s!"{path.shown setting.home}: nothing plotted (no counts found)") ∧
      ∀ count ∈ dataset.allCounts, ∃ chart,
        chart? title count dataset setting.config = some chart ∧
          let out := chartPath (request.out.getD standardOut) path count
          plan.Settles chart out (setting.blankWarning chart out)

structure Tolerant (plan : Plan) : Prop where
  /-- The input is no folder, or none of its files is a result file. -/
  nothing : (∀ paths, tree.filesWithSuffix request.input suffix = .ok paths → paths = []) →
    plan.Warns s!"No *{suffix} found in {request.input.shown setting.home}"
  files : ∀ paths, tree.filesWithSuffix request.input suffix = .ok paths → ∀ path ∈ paths,
    FileTolerant setting tree request path plan

theorem filePlan_eq (out path : Path) :
    let title := Source.stemTitle path.stem
    filePlan setting tree request out path =
      (Results.ofFile tree groupSet title 0 path).1.map .say ++
        match (tree.document path).2 with
        | .error issue => [.say (.warning (issue.skipWarning setting.home title))]
        | .ok document =>
          let charts := charts setting out title ⟨title, 0, path, .extract document groupSet⟩
          charts.flatMap (fun (chart, path) => setting.chartSteps request xLabel chart path) ++
            if charts.all fun (chart, _) => chart.isBlank then
              [.say (.warning s!"{path.shown setting.home}: nothing plotted (no counts found)")]
            else [] := by
  unfold filePlan Results.ofFile
  rcases tree.document path with ⟨said, issue | document⟩ <;> rfl

variable {setting tree request}

theorem fileTolerant_of_subset {path : Path} {plan : Plan}
    (h : filePlan setting tree request (request.out.getD standardOut) path ⊆ plan) :
    FileTolerant setting tree request path plan := by
  refine ⟨_, tree.reads_document path, ?_⟩
  have hrest := List.Subset.trans (Plan.rest_subset_of_eq
    (filePlan_eq setting tree request (request.out.getD standardOut) path)) h
  cases hd : (tree.document path).2 with
  | error issue =>
    rw [hd] at hrest
    exact hrest (List.mem_singleton_self _)
  | ok document =>
    rw [hd] at hrest
    dsimp only at hrest ⊢
    refine ⟨fun hempty => ?_, fun count hc => ?_⟩
    · have hcounts := (Dataset.sound_extract document groupSet).allCounts_eq_nil_iff.mpr hempty
      apply hrest
      apply List.mem_append_right
      rw [charts, hcounts]
      exact List.mem_singleton_self _
    · obtain ⟨chart, hchart⟩ := Option.isSome_iff_exists.mp
        ((chart?_isSome_iff (Source.stemTitle path.stem) setting.config).mpr hc)
      have hm : (chart, chartPath (request.out.getD standardOut) path count) ∈
          charts setting (request.out.getD standardOut) (Source.stemTitle path.stem)
            ⟨Source.stemTitle path.stem, 0, path, .extract document groupSet⟩ :=
        List.mem_filterMap.mpr ⟨count, hc, by rw [hchart]; rfl⟩
      have hsteps : setting.chartSteps request xLabel chart
          (chartPath (request.out.getD standardOut) path count) ⊆ plan := by
        intro step hs
        apply hrest
        apply List.mem_append_left
        exact List.mem_flatMap.mpr ⟨_, hm, hs⟩
      exact ⟨chart, hchart, Setting.settles_of_chartSteps hsteps⟩

theorem tolerant_plan : Tolerant setting tree request (plan setting tree request) := by
  constructor
  · intro hnone
    unfold plan
    cases hp : tree.filesWithSuffix request.input suffix with
    | error e => exact List.mem_append_right _ List.mem_cons_self
    | ok paths =>
      rw [hnone paths hp]
      exact List.mem_append_right _ List.mem_cons_self
  · intro paths hp path hm
    apply fileTolerant_of_subset
    intro step hs
    unfold plan
    rw [hp]
    dsimp only
    rw [if_neg (List.isEmpty_iff.not.mpr (List.ne_nil_of_mem hm))]
    exact List.mem_append_right _ (List.mem_flatMap.mpr ⟨path, hm, hs⟩)

theorem chartsOnly_filePlan (out path : Path) :
    (filePlan setting tree request out path).ChartsOnly := by
  rw [filePlan_eq]
  apply Plan.ChartsOnly.append (.said _)
  split
  · exact .say .nil _
  · apply Plan.ChartsOnly.append
    · exact .flatMap fun _ _ => Setting.chartsOnly_chartSteps _ _ _ _
    · split
      · exact .say .nil _
      · exact .nil

theorem chartsOnly_plan : (plan setting tree request).ChartsOnly := by
  unfold plan
  cases tree.filesWithSuffix request.input suffix with
  | error e => exact Plan.ChartsOnly.append (.said _) (.say (.say .nil _) _)
  | ok paths =>
    dsimp only
    apply Plan.ChartsOnly.append (.said _)
    split
    · exact .say (.say .nil _) _
    · exact .flatMap fun path _ => chartsOnly_filePlan _ path

section

variable {document : Document} {out : Path} {title : String} {path : Path}

theorem isBlank_of_mem_charts {drawn : Chart × Path}
    (h : drawn ∈ charts setting out title ⟨title, 0, path, .extract document groupSet⟩) :
    drawn.1.isBlank = false := by
  obtain ⟨count, _, hm⟩ := List.mem_filterMap.mp h
  obtain ⟨chart, hchart, rfl⟩ := Option.map_eq_some_iff.mp hm
  exact (plots_of_chart?_eq_some hchart).isBlank_eq_false

theorem charts_eq_nil_iff :
    charts setting out title ⟨title, 0, path, .extract document groupSet⟩ = [] ↔
      (Dataset.extract document groupSet).isEmpty = true := by
  rw [← (Dataset.sound_extract document groupSet).allCounts_eq_nil_iff, charts,
    List.filterMap_eq_nil_iff]
  constructor
  · intro hnone
    apply List.eq_nil_iff_forall_not_mem.mpr
    intro count hc
    have hsome := (chart?_isSome_iff title setting.config).mpr hc
    exact Option.isSome_iff_ne_none.mp hsome (Option.map_eq_none_iff.mp (hnone count hc))
  · intro hnil count hc
    exact (List.not_mem_nil (hnil ▸ hc)).elim

theorem filePlan_of_document (h : (tree.document path).2 = .ok document) :
    let title := Source.stemTitle path.stem
    let dataset := Dataset.extract document groupSet
    filePlan setting tree request out path =
      (Results.ofFile tree groupSet title 0 path).1.map .say ++
        ((charts setting out title ⟨title, 0, path, dataset⟩).flatMap fun (chart, path) =>
            Setting.drawingSteps request xLabel chart path) ++
        if dataset.isEmpty then
          [.say (.warning s!"{path.shown setting.home}: nothing plotted (no counts found)")]
        else [] := by
  intro title dataset
  let charts := charts setting out title ⟨title, 0, path, dataset⟩
  have hdrawing : charts.flatMap (fun (chart, path) =>
        setting.chartSteps request xLabel chart path) =
      charts.flatMap fun (chart, path) => Setting.drawingSteps request xLabel chart path :=
    List.flatMap_congr fun drawn hd =>
      Setting.chartSteps_of_not_isBlank _ _ _ (isBlank_of_mem_charts hd)
  -- no chart is blank, so all are if and only if there is none
  have hblank : (charts.all fun (chart, _) => chart.isBlank) = dataset.isEmpty := by
    rw [Bool.eq_iff_iff, ← charts_eq_nil_iff, List.all_eq_true]
    constructor
    · intro hall
      apply List.eq_nil_iff_forall_not_mem.mpr
      intro drawn hd
      exact Bool.eq_false_iff.mp (isBlank_of_mem_charts hd) (hall drawn hd)
    · intro hnil drawn hd
      rw [show charts = [] from hnil] at hd
      cases hd
  rw [filePlan_eq, h]
  dsimp only
  rw [hdrawing, hblank, List.append_assoc]

theorem warns_filePlan_iff (h : (tree.document path).2 = .ok document) (text : String) :
    (filePlan setting tree request out path).Warns text ↔
      (Dataset.extract document groupSet).isEmpty = true ∧
        text = s!"{path.shown setting.home}: nothing plotted (no counts found)" := by
  rw [Plan.Warns, filePlan_of_document h]
  dsimp only
  rw [List.mem_append, List.mem_append]
  constructor
  · rintro ((hm | hm) | hm)
    · obtain ⟨remark, hr, he⟩ := List.mem_map.mp hm
      obtain ⟨note, rfl⟩ := Results.debug_of_mem_ofFile hr
      cases he
    · obtain ⟨_, _, hm⟩ := List.mem_flatMap.mp hm
      exact (Setting.warning_notMem_drawingSteps _ _ _ _ _ hm).elim
    · split at hm
      · next he =>
        cases List.mem_singleton.mp hm
        exact ⟨he, rfl⟩
      · cases hm
  · rintro ⟨he, rfl⟩
    rw [if_pos he]
    exact .inr (List.mem_singleton_self _)

end

/-- There is a chart for each count of a dataset and for no other one, and it shows what the groups
have at this count. If nothing goes wrong, a file that can be read is said to bring nothing if and
only if its dataset is empty. -/
theorem plots_what_was_extracted (document : Document) :
    let dataset := Dataset.extract document groupSet
    (∀ (title : String) (count : Nat) (config : Config),
      ((chart? title count dataset config).isSome ↔ count ∈ dataset.allCounts) ∧
        ∀ chart, chart? title count dataset config = some chart →
          Plots dataset count (config.unitOr .us) chart) ∧
      (∀ count group, dataset.measures count group = true → group ∈ groups) ∧
      (∀ (unit : TimeUnit) (group : String) (count : Nat) (type : String),
        (shown unit (dataset.nanos? group count type)).isNaN = true ↔
          dataset.nanos? group count type = none) ∧
      ∀ (setting : Setting) (tree now : FileTree) (request : ReportRequest) (out path : Path),
        (tree.document path).2 = .ok document →
        let outcome := setting.perform now (filePlan setting tree request out path)
        let warning := s!"{path.shown setting.home}: nothing plotted (no counts found)"
        outcome.failure = none →
          (.warning warning ∈ outcome.remarks ↔ dataset.isEmpty = true) := by
  intro dataset
  refine ⟨fun title count config =>
      ⟨chart?_isSome_iff title config, fun chart => plots_of_chart?_eq_some⟩,
    ?_, fun unit group count type => isNaN_shown_iff unit, ?_⟩
  · intro count group hm
    obtain ⟨category, hc⟩ := Dataset.measures_iff.mp hm
    exact (List.mem_filter.mp (mem_filter_measures hc)).1
  · intro setting tree now request out path hread outcome warning hok
    constructor
    · intro hw
      have hplan := Setting.warning_of_perform (chartsOnly_filePlan out path) hw
      exact ((warns_filePlan_iff hread warning).mp hplan).1
    · intro he
      exact Setting.said_of_perform hok ((warns_filePlan_iff hread warning).mpr ⟨he, rfl⟩)

/-- A file with two groups at one count, one of them with a row without a type, and a file whose row
has no count. -/
theorem plots_what_was_extracted_knitting :
    let row (label : String) : Json := .object [("name", .string label), ("avg", .int 5)]
    let tree : FileTree := .ofResults
      [("node_types.json", .object [("knitting fast", .array [row "void -> (10)"]),
        ("worker", .array [row "void -> (10)", row "(10)"])]),
        ("bun_types.json", .object [("worker", .array [row "string"])])]
    let setting : Setting := ⟨.standard, none⟩
    let request : ReportRequest := ⟨.ofString ".", none, false⟩
    let outcome (path : Path) :=
      setting.perform tree (filePlan setting tree request standardOut path)
    let node := Path.ofString "node_types.json"
    let bun := Path.ofString "bun_types.json"
    (∃ document, (tree.document node).2 = .ok document ∧
      let dataset := Dataset.extract document groupSet
      chart? "Node" 5 dataset .standard = none ∧
      ∃ chart, chart? "Node" 10 dataset .standard = some chart ∧
        "default" ∈ chart.ticks ∧ chart.lines.map (·.label) = ["Worker", "Knitting Fast"]) ∧
      .warning "node_types.json: nothing plotted (no counts found)" ∉ (outcome node).remarks ∧
      .warning "bun_types.json: nothing plotted (no counts found)" ∈ (outcome bun).remarks := by
  intro row tree setting request outcome node bun
  have hnode : (tree.document node).2.toOption.map (fun document =>
      let dataset := Dataset.extract document groupSet
      (dataset.allCounts, dataset.isEmpty, groups.filter (dataset.measures 10),
        (dataset.nanos? "worker" 10 "default").isSome)) =
      some ([10], false, ["worker", "knitting fast"], true) := by decide +kernel
  have hbun : (tree.document bun).2.toOption.map (fun document =>
      (Dataset.extract document groupSet).isEmpty) = some true := by decide +kernel
  have hnodeOk : (outcome node).failure = none := Option.isNone_iff_eq_none.mp (by decide +kernel)
  have hbunOk : (outcome bun).failure = none := Option.isNone_iff_eq_none.mp (by decide +kernel)
  obtain ⟨full, hfull, hdata⟩ := Option.map_eq_some_iff.mp hnode
  obtain ⟨vacant, hvacant, hempty⟩ := Option.map_eq_some_iff.mp hbun
  rw [toOption_eq_some_iff] at hfull hvacant
  obtain ⟨hcharts, -, -, hwarned⟩ := plots_what_was_extracted full
  obtain ⟨-, -, -, hsaid⟩ := plots_what_was_extracted vacant
  simp only [Prod.mk.injEq] at hdata
  obtain ⟨hcounts, hsome, hgroups, hdefault⟩ := hdata
  obtain ⟨hfive, -⟩ := hcharts "Node" 5 .standard
  obtain ⟨hten, hplots⟩ := hcharts "Node" 10 .standard
  rw [hcounts] at hfive hten
  obtain ⟨chart, hchart⟩ := Option.isSome_iff_exists.mp (hten.mpr (by decide))
  refine ⟨⟨full, hfull, Option.not_isSome_iff_eq_none.mp (mt hfive.mp (by decide)), chart, hchart,
    ((hplots chart hchart).mem_ticks_iff "default").mpr ⟨"worker", hdefault⟩, ?_⟩, ?_, ?_⟩
  · have hlabels := congrArg (List.map (·.1)) (hplots chart hchart).lines_eq
    have hnames : ["worker", "knitting fast"].map label = ["Worker", "Knitting Fast"] := by
      decide +kernel
    rw [hgroups, List.map_map, List.map_map] at hlabels
    exact hlabels.trans hnames
  · intro hw
    have he := (hwarned setting tree tree request standardOut node hfull hnodeOk).mp hw
    rw [hsome] at he
    cases he
  · exact (hsaid setting tree tree request standardOut bun hvacant hbunOk).mpr hempty

end BenchCharts.Types
